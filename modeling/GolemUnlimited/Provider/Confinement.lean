import GolemUnlimited.Provider.Lifecycle

/-!
# Where request paths lead

`Exec` and `Start` run `get_session_exec_path`, which strips the executable's
leading slashes so that it is joined below the session directory. `DownloadFile`
and `UploadFile` join `file_path` to the session directory, and `CreateSession`
joins the image hash to the cache directory, as they come. A relative path
without `..` components stays inside its base; an absolute `file_path` or hash
replaces the base, and a `..` component climbs out of it in every arm.
-/

namespace GolemUnlimited

/-- Every path lies inside itself. -/
theorem PathBuf.inside_refl (p : PathBuf) : p.Inside p := ⟨rfl, List.prefix_refl _⟩

namespace Provider

/-- No component of the path is `..`. -/
def noParent (s : String) : Bool := (PathBuf.splitSep s.data).all (· != ['.', '.'])

/-- `noParent` holds exactly when no component is `..`. -/
theorem noParent_eq_true {s : String} :
    noParent s = true ↔ ∀ c ∈ PathBuf.splitSep s.data, c ≠ ['.', '.'] := by
  simp [noParent]

/-- `trim_left_matches('/')` leaves a relative path. -/
theorem isAbsolute_trimLeftMatches (s : String) :
    (PathBuf.ofString (HdMan.trimLeftMatches s)).isAbsolute = false := by
  have h := List.head?_dropWhile_not (· == '/') s.data
  simp only [PathBuf.isAbsolute, PathBuf.ofString, HdMan.trimLeftMatches]
  cases hx : (s.data.dropWhile (· == '/')).head? with
  | none => rfl
  | some c => rw [hx] at h; simpa using h

/-- The exec path of an executable without `..` components lies inside the
session directory, whether or not the executable starts with `/`. -/
theorem getSessionExecPath_inside {hd : HdMan} {sessionId executable : String}
    (hsep : (hd.getSessionPath sessionId).needSep = true)
    (hdots : noParent (HdMan.trimLeftMatches executable) = true) :
    (PathBuf.ofString (hd.getSessionExecPath sessionId executable)).Inside
      (hd.getSessionPath sessionId) :=
  PathBuf.join_inside (isAbsolute_trimLeftMatches executable) hsep (noParent_eq_true.mp hdots)

/-- The cache path of a relative hash without `..` components lies inside the
cache directory. -/
theorem getCachePath_inside {hd : HdMan} {hash : String} (hsep : hd.cacheDir.needSep = true)
    (habs : (PathBuf.ofString hash).isAbsolute = false) (hdots : noParent hash = true) :
    (hd.getCachePath hash).Inside hd.cacheDir :=
  PathBuf.join_inside habs hsep (noParent_eq_true.mp hdots)

/-- On the manager of `sampleRoot`, the image of hash `0a1b` is cached inside the
cache directory. -/
theorem getCachePath_inside_sample :
    (HdMan.start sampleRoot sampleRoot).cacheDir.needSep = true ∧
    (PathBuf.ofString "0a1b").isAbsolute = false ∧ noParent "0a1b" = true ∧
    ((HdMan.start sampleRoot sampleRoot).getCachePath "0a1b").Inside
      (HdMan.start sampleRoot sampleRoot).cacheDir :=
  ⟨by decide, by decide, by decide, getCachePath_inside (by decide) (by decide) (by decide)⟩

/-- The commands whose request strings keep their paths below the session
directory: executables without `..`, and relative transfer paths without `..`. -/
def Command.confined : Command → Bool
  | .exec executable _ | .start executable _ => noParent (HdMan.trimLeftMatches executable)
  | .downloadFile _ filePath | .uploadFile _ filePath =>
    !(PathBuf.ofString filePath).isAbsolute && noParent filePath
  | _ => true

/-- The filesystem paths a link uses: the executable and working directory of an
`Exec`, the executable of a `Start`, the target of a transfer. -/
def Link.paths : Link → List PathBuf
  | .exec executable _ cwd => [.ofString executable, cwd]
  | .start executable _ => [.ofString executable]
  | .downloadFile _ path | .uploadFile _ path => [path]
  | .stop _ | .addTags _ | .delTags _ => []

/-- Every path the link of a confined command uses lies inside the session
directory. -/
theorem link_paths_inside {hd : HdMan} {sessionId : String} {cmd : Command} {l : Link}
    (hsep : (hd.getSessionPath sessionId).needSep = true) (hcmd : cmd.confined = true)
    (hl : hd.link sessionId cmd = some l) :
    ∀ path ∈ l.paths, path.Inside (hd.getSessionPath sessionId) := by
  have htransfer : ∀ filePath, (!(PathBuf.ofString filePath).isAbsolute && noParent filePath) = true →
      ((hd.getSessionPath sessionId).join (.ofString filePath)).Inside (hd.getSessionPath sessionId) := by
    intro filePath hf
    simp only [Bool.and_eq_true, Bool.not_eq_true'] at hf
    exact PathBuf.join_inside hf.1 hsep (noParent_eq_true.mp hf.2)
  cases cmd with
  | exec executable args =>
    cases hl
    intro path hpath
    rcases List.mem_pair.mp hpath with rfl | rfl
    · exact getSessionExecPath_inside hsep hcmd
    · exact PathBuf.inside_refl _
  | start executable args =>
    cases hl
    intro path hpath
    rw [List.mem_singleton.mp hpath]
    exact getSessionExecPath_inside hsep hcmd
  | downloadFile uri filePath | uploadFile uri filePath =>
    cases hl
    intro path hpath
    rw [List.mem_singleton.mp hpath]
    exact htransfer filePath hcmd
  | «open» | close => cases hl
  | stop | addTags | delTags => cases hl; simp [Link.paths]

/-- On the manager of `sampleRoot`, the `Exec` of `bin/task` in `s1` runs inside
the session directory. -/
theorem link_paths_inside_exec :
    ((HdMan.start sampleRoot sampleRoot).getSessionPath "s1").needSep = true ∧
    (Command.exec "bin/task" []).confined = true ∧
    (HdMan.start sampleRoot sampleRoot).link "s1" (.exec "bin/task" []) =
      some (.exec ((HdMan.start sampleRoot sampleRoot).getSessionExecPath "s1" "bin/task") []
        ((HdMan.start sampleRoot sampleRoot).getSessionPath "s1")) ∧
    ∀ path ∈ (Link.exec ((HdMan.start sampleRoot sampleRoot).getSessionExecPath "s1" "bin/task") []
        ((HdMan.start sampleRoot sampleRoot).getSessionPath "s1")).paths,
      path.Inside ((HdMan.start sampleRoot sampleRoot).getSessionPath "s1") :=
  ⟨by decide, by decide, rfl, link_paths_inside (by decide)
    (by decide : (Command.exec "bin/task" []).confined = true) rfl⟩

/-- On the manager of `sampleRoot`, the `DownloadFile` of `/etc/passwd`, the
`Exec` of `../../bin/sh` and the image hash `/tmp/x` lead outside their base
directories. -/
theorem request_paths_escape :
    (HdMan.start sampleRoot sampleRoot).link "s1" (.downloadFile "http://hub/f" "/etc/passwd") =
      some (.downloadFile "http://hub/f" (.ofString "/etc/passwd")) ∧
    ¬ (PathBuf.ofString "/etc/passwd").Inside ((HdMan.start sampleRoot sampleRoot).getSessionPath "s1") ∧
    (HdMan.start sampleRoot sampleRoot).getSessionExecPath "s1" "../../bin/sh" =
      "/srv/gu/sessions/s1/../../bin/sh" ∧
    ¬ (PathBuf.ofString "/srv/gu/sessions/s1/../../bin/sh").Inside
      ((HdMan.start sampleRoot sampleRoot).getSessionPath "s1") ∧
    (HdMan.start sampleRoot sampleRoot).getCachePath "/tmp/x" = .ofString "/tmp/x" ∧
    ¬ (PathBuf.ofString "/tmp/x").Inside (HdMan.start sampleRoot sampleRoot).cacheDir := by
  decide

end Provider

end GolemUnlimited
