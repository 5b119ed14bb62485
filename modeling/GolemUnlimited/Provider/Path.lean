import Mathlib.Data.List.Basic

/-!
# Unix paths

`hdman.rs` builds every session, cache and transfer path with `Path::join`.
This file models `join` on Unix, including the rule that an absolute argument
replaces the base, and the lexical resolution of `.` and `..` that decides
whether a joined path stays inside its base directory.
-/

namespace GolemUnlimited

/-- `std::path::PathBuf` on Unix, as the characters of its bytes. -/
structure PathBuf where
  /-- The characters of the path. -/
  inner : List Char
  deriving DecidableEq, Repr

namespace PathBuf

/-- `PathBuf::from(String)`. -/
def ofString (s : String) : PathBuf := ⟨s.data⟩

/-- `PathBuf::into_os_string().into_string()`, which cannot fail on these paths. -/
def toString (p : PathBuf) : String := ⟨p.inner⟩

/-- `Path::is_absolute` on Unix: the path starts at the root. -/
def isAbsolute (p : PathBuf) : Bool := p.inner.head? == some '/'

/-- `PathBuf::push` adds a separator unless the base is empty or already ends
with one. -/
def needSep (p : PathBuf) : Bool :=
  match p.inner.getLast? with
  | some c => c != '/'
  | none => false

/-- `Path::join` on Unix: an absolute argument replaces the base; otherwise it is
appended, after a separator when `needSep` asks for one. -/
def join (base p : PathBuf) : PathBuf :=
  if p.isAbsolute then p
  else if base.needSep then ⟨base.inner ++ '/' :: p.inner⟩
  else ⟨base.inner ++ p.inner⟩

/-- Joining an absolute path discards the base. -/
theorem join_of_isAbsolute {base p : PathBuf} (h : p.isAbsolute = true) : base.join p = p := by
  simp [join, h]

/-- Joining a relative path to a base that needs a separator appends both. -/
theorem join_of_needSep {base p : PathBuf} (h : p.isAbsolute = false)
    (hsep : base.needSep = true) : base.join p = ⟨base.inner ++ '/' :: p.inner⟩ := by
  simp [join, h, hsep]

/-- The pieces of a character list between separators, empty ones included. -/
def splitSep : List Char → List (List Char)
  | [] => [[]]
  | c :: cs =>
    if c = '/' then [] :: splitSep cs
    else match splitSep cs with
      | [] => [[c]]
      | w :: ws => (c :: w) :: ws

/-- Splitting at separators gives at least one piece. -/
theorem splitSep_ne_nil (cs : List Char) : splitSep cs ≠ [] := by
  cases cs with
  | nil => simp [splitSep]
  | cons c cs =>
    unfold splitSep
    split
    · simp
    · split <;> simp

/-- A separator between two character lists separates their pieces. -/
theorem splitSep_append_sep (xs ys : List Char) :
    splitSep (xs ++ '/' :: ys) = splitSep xs ++ splitSep ys := by
  induction xs with
  | nil => simp [splitSep]
  | cons c xs ih =>
    by_cases hc : c = '/'
    · simp [splitSep, hc, ih]
    · obtain ⟨w, ws, hw⟩ := List.exists_cons_of_ne_nil (splitSep_ne_nil xs)
      simp [splitSep, hc, ih, hw]

/-- One step of the lexical resolution, on the components resolved so far kept
innermost first: `..` drops the innermost one (the root is its own parent), and
empty and `.` components change nothing. -/
def resolveStep (stack : List (List Char)) (c : List Char) : List (List Char) :=
  if c = [] ∨ c = ['.'] then stack
  else if c = ['.', '.'] then stack.tail
  else c :: stack

/-- The components of a path once `.` and `..` are resolved, outermost first. -/
def resolve (p : PathBuf) : List (List Char) :=
  ((splitSep p.inner).foldl resolveStep []).reverse

/-- `p` lies inside `base` once `.` and `..` are resolved on both. -/
def Inside (p base : PathBuf) : Prop :=
  p.isAbsolute = base.isAbsolute ∧ base.resolve <+: p.resolve

/-- `Inside` is decided by comparing absoluteness and resolved components. -/
instance (p base : PathBuf) : Decidable (p.Inside base) :=
  inferInstanceAs (Decidable (_ ∧ _))

/-- Resolving components none of which is `..` only pushes onto the stack. -/
theorem foldl_resolveStep_extends {cs : List (List Char)} (stack : List (List Char))
    (hcs : ∀ c ∈ cs, c ≠ ['.', '.']) : ∃ t, cs.foldl resolveStep stack = t ++ stack := by
  induction cs generalizing stack with
  | nil => exact ⟨[], rfl⟩
  | cons c cs ih =>
    have hc := hcs c (List.mem_cons_self c cs)
    obtain ⟨t, ht⟩ := ih (resolveStep stack c) (fun d hd => hcs d (List.mem_cons_of_mem c hd))
    rw [List.foldl_cons, ht]
    by_cases hskip : c = [] ∨ c = ['.']
    · exact ⟨t, by simp [resolveStep, hskip]⟩
    · exact ⟨t ++ [c], by simp [resolveStep, hskip, hc]⟩

/-- A relative path without `..` components, joined to a base that needs a
separator, stays inside the base. -/
theorem join_inside {base p : PathBuf} (habs : p.isAbsolute = false)
    (hsep : base.needSep = true) (hdots : ∀ c ∈ splitSep p.inner, c ≠ ['.', '.']) :
    (base.join p).Inside base := by
  rw [join_of_needSep habs hsep]
  constructor
  · cases h : base.inner with
    | nil => simp [needSep, h] at hsep
    | cons c cs => simp [isAbsolute, h]
  · obtain ⟨t, ht⟩ := foldl_resolveStep_extends ((splitSep base.inner).foldl resolveStep []) hdots
    refine ⟨t.reverse, ?_⟩
    simp [resolve, splitSep_append_sep, List.foldl_append, ht]

end PathBuf

end GolemUnlimited
