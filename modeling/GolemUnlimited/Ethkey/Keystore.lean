import Mathlib.Logic.Basic

/-!
# The keystore of `ethkey`

`EthAccount::load_or_generate` reads the keyfile at a path, or, when `File::open`
fails, generates a key and saves it there; `change_password` saves the account's
key again under a new password. `save_key` writes through `File::create`, which
truncates the file before the keyfile is written. The state is the file at the
keystore path and whether its parent directory exists; every filesystem and
library call answers with an outcome given as input. The cipher of `ethsign` is
taken at its contract: a keyfile yields its secret under the password it was
encrypted with, and under no other.
-/

namespace GolemUnlimited.Ethkey

/-- `KEYSTORE_VERSION`. -/
def keystoreVersion : Nat := 3

/-- A secret key, as the number its 32 raw bytes encode. -/
abbrev SecretKey := Nat

/-- The crate's `error` module is not in the sources: an error is kept as the kind
of call that failed and its message. -/
inductive Error
  | io (msg : String)
  | serde (msg : String)
  | crypto (msg : String)
  deriving DecidableEq, Repr

/-- `ethsign`'s `Crypto`: the secret encrypted under a password. -/
structure Crypto where
  secret : SecretKey
  password : String
  deriving DecidableEq, Repr

/-- `ethsign::keyfile::KeyFile`; its address is derived from the secret and left
out. -/
structure KeyFile where
  id : String
  version : Nat
  crypto : Crypto
  deriving DecidableEq, Repr

/-- `KeyFile::to_secret_key`: the secret, under the password it was encrypted
with. -/
def KeyFile.toSecretKey (kf : KeyFile) (password : String) : Except Error SecretKey :=
  if kf.crypto.password = password then .ok kf.crypto.secret
  else .error (.crypto "InvalidPassword")

/-- What the file at the keystore path holds. -/
inductive Content
  /-- A complete keyfile, as `to_writer_pretty` writes it. -/
  | keyFile (kf : KeyFile)
  /-- Anything `from_reader` rejects: the empty file `File::create` leaves, a
  write cut short, other data. -/
  | garbled
  deriving DecidableEq, Repr

/-- The filesystem as the keystore operations see it. -/
structure Disk where
  /-- Whether the keystore path's parent directory exists. -/
  parentExists : Bool
  /-- The file at the keystore path, if any. -/
  file : Option Content
  deriving DecidableEq, Repr

/-- The world's answers to the calls of one operation. -/
structure Outcome where
  /-- `File::open` of an existing file; a missing file always fails to open. -/
  openFile : Except String Unit
  /-- Reading the opened file. -/
  read : Except String Unit
  /-- The bytes `random_bytes` draws. -/
  random : Nat
  /-- `SecretKey::from_raw` of them. -/
  fromRaw : Except String Unit
  /-- `SecretKey::to_crypto`. -/
  toCrypto : Except String Unit
  /-- `Uuid::new_v4`. -/
  uuid : String
  /-- Whether the path has a parent. -/
  hasParent : Bool
  /-- `create_dir_all` of the parent. -/
  createDir : Except String Unit
  /-- `File::create`. -/
  create : Except String Unit
  /-- `to_writer_pretty` into the created file. -/
  write : Except String Unit
  /-- `fs::canonicalize`: the canonical path. -/
  canonicalize : Except String String

/-- `EthAccount`; the public key and address are derived from the secret and left
out. -/
structure EthAccount where
  secret : SecretKey
  kestorePath : String
  deriving DecidableEq, Repr

/-- `save_key`: the result and the disk after it. -/
def saveKey (secret : SecretKey) (password : String) (o : Outcome) (d : Disk) :
    Except Error Unit × Disk :=
  match o.toCrypto with
  | .error e => (.error (.crypto e), d)
  | .ok () =>
    if !o.hasParent then (.error (.io "Cannot find parent dir"), d)
    else
      match (if d.parentExists then .ok () else o.createDir) with
      | .error e => (.error (.io e), d)
      | .ok () =>
        match o.create with
        | .error e => (.error (.io e), { d with parentExists := true })
        | .ok () =>
          match o.write with
          | .error e => (.error (.serde e), ⟨true, some .garbled⟩)
          | .ok () => (.ok (), ⟨true, some (.keyFile ⟨o.uuid, keystoreVersion, ⟨secret, password⟩⟩)⟩)

/-- `serde_json::from_reader` of the opened file. -/
def readKeyFile (c : Content) (read : Except String Unit) : Except Error KeyFile :=
  match read, c with
  | .error e, _ => .error (.serde e)
  | .ok (), .keyFile kf => .ok kf
  | .ok (), .garbled => .error (.serde "invalid keyfile")

/-- The account `load_or_generate` builds once the secret is known. -/
def account (secret : SecretKey) (canonicalize : Except String String) : Except Error EthAccount :=
  match canonicalize with
  | .error e => .error (.io e)
  | .ok path => .ok ⟨secret, path⟩

/-- The `Ok(file)` arm of `load_or_generate`: read the keyfile, decrypt it, build
the account. -/
def load (c : Content) (password : String) (o : Outcome) : Except Error EthAccount := do
  let kf ← readKeyFile c o.read
  let secret ← kf.toSecretKey password
  account secret o.canonicalize

/-- The `Err(_e)` arm of `load_or_generate`: draw a key, save it, build the
account. -/
def generate (password : String) (o : Outcome) (d : Disk) : Except Error EthAccount × Disk :=
  match o.fromRaw with
  | .error e => (.error (.crypto e), d)
  | .ok () =>
    match saveKey o.random password o d with
    | (.error e, d') => (.error e, d')
    | (.ok (), d') => (account o.random o.canonicalize, d')

/-- `EthAccount::load_or_generate`: the account and the disk after it. Any failure
of `File::open` takes the arm that generates and saves a key. -/
def loadOrGenerate (password : String) (o : Outcome) (d : Disk) : Except Error EthAccount × Disk :=
  match d.file, o.openFile with
  | some c, .ok () => (load c password o, d)
  | _, _ => generate password o d

/-- `EthAccount::change_password`. -/
def EthAccount.changePassword (acc : EthAccount) (newPassword : String) (o : Outcome) (d : Disk) :
    Except Error Unit × Disk :=
  saveKey acc.secret newPassword o d

/-! ## Sample inputs -/

/-- A keyfile holding the key 7 under the password `old`. -/
def sampleKeyFile : KeyFile := ⟨"0f8c", keystoreVersion, ⟨7, "old"⟩⟩

/-- A disk whose keystore path holds `sampleKeyFile`. -/
def sampleDisk : Disk := ⟨true, some (.keyFile sampleKeyFile)⟩

/-- Answers in which every call succeeds. -/
def Outcome.succeeding : Outcome :=
  ⟨.ok (), .ok (), 42, .ok (), .ok (), "6b1e", true, .ok (), .ok (), .ok (), .ok "/home/gu/keystore.json"⟩

/-- Answers in which `File::open` is denied and every other call succeeds. -/
def Outcome.openDenied : Outcome := { Outcome.succeeding with openFile := .error "Permission denied" }

/-! ## Properties -/

/-- The account `load_or_generate` builds holds the secret it was given. -/
theorem account_eq_ok {secret : SecretKey} {canonicalize : Except String String}
    {acc : EthAccount} (h : account secret canonicalize = .ok acc) : acc.secret = secret := by
  cases canonicalize with
  | error e => cases h
  | ok path => cases h; rfl

/-- `save_key` succeeds with a complete keyfile of its secret under its password,
or fails with the file as it was, or fails after `File::create` with the write cut
short. -/
theorem saveKey_cases (secret : SecretKey) (password : String) (o : Outcome) (d : Disk) :
    ((saveKey secret password o d).1 = .ok () ∧ (saveKey secret password o d).2.file =
      some (.keyFile ⟨o.uuid, keystoreVersion, ⟨secret, password⟩⟩)) ∨
    ((saveKey secret password o d).1 ≠ .ok () ∧ (saveKey secret password o d).2.file = d.file) ∨
    (o.create = .ok () ∧ (∃ e, o.write = .error e) ∧ (saveKey secret password o d).1 ≠ .ok () ∧
      (saveKey secret password o d).2.file = some .garbled) := by
  unfold saveKey
  split
  · exact .inr (.inl ⟨by simp, rfl⟩)
  · split
    · exact .inr (.inl ⟨by simp, rfl⟩)
    · split
      · exact .inr (.inl ⟨by simp, rfl⟩)
      · split
        · exact .inr (.inl ⟨by simp, rfl⟩)
        · next hcreate =>
          split
          · next e hwrite => exact .inr (.inr ⟨hcreate, ⟨e, hwrite⟩, by simp, rfl⟩)
          · exact .inl ⟨rfl, rfl⟩

/-- A successful `save_key` leaves a keyfile that yields its secret under its
password. -/
theorem saveKey_ok {secret : SecretKey} {password : String} {o : Outcome} {d : Disk}
    (h : (saveKey secret password o d).1 = .ok ()) :
    ∃ kf, (saveKey secret password o d).2.file = some (.keyFile kf) ∧
      kf.toSecretKey password = .ok secret := by
  rcases saveKey_cases secret password o d with ⟨-, hfile⟩ | ⟨hne, -⟩ | ⟨-, -, hne, -⟩
  · exact ⟨_, hfile, by simp [KeyFile.toSecretKey]⟩
  · exact absurd h hne
  · exact absurd h hne

/-- A successful load read a complete keyfile that yields the account's secret
under the password. -/
theorem load_eq_ok {c : Content} {password : String} {o : Outcome} {acc : EthAccount}
    (h : load c password o = .ok acc) :
    ∃ kf, c = .keyFile kf ∧ kf.toSecretKey password = .ok acc.secret := by
  cases hr : readKeyFile c o.read with
  | error e => simp [load, hr, bind, Except.bind] at h
  | ok kf =>
    have hc : c = .keyFile kf := by
      unfold readKeyFile at hr
      split at hr
      · cases hr
      · cases hr; rfl
      · cases hr
    cases hs : kf.toSecretKey password with
    | error e => simp [load, hr, hs, bind, Except.bind] at h
    | ok secret =>
      simp only [load, hr, hs, bind, Except.bind] at h
      exact ⟨kf, hc, by rw [account_eq_ok h]; exact hs⟩

/-- A successful generation returns the key it drew and leaves a complete keyfile
of it under the password, with the new uuid. -/
theorem generate_eq_ok {password : String} {o : Outcome} {d : Disk} {acc : EthAccount}
    (h : (generate password o d).1 = .ok acc) :
    acc.secret = o.random ∧ (generate password o d).2.file =
      some (.keyFile ⟨o.uuid, keystoreVersion, ⟨o.random, password⟩⟩) := by
  unfold generate at h ⊢
  split at h
  · cases h
  · split at h
    · cases h
    · next d' hsave =>
      have hok : (saveKey o.random password o d).1 = .ok () := by rw [hsave]
      rcases saveKey_cases o.random password o d with ⟨-, hfile⟩ | ⟨hne, -⟩ | ⟨-, -, hne, -⟩
      · simp only [hsave] at hfile ⊢
        exact ⟨account_eq_ok h, hfile⟩
      · exact absurd hok hne
      · exact absurd hok hne

/-- A successful generation leaves a complete keyfile of the account's secret
under the password. -/
theorem generate_ok {password : String} {o : Outcome} {d : Disk} {acc : EthAccount}
    (h : (generate password o d).1 = .ok acc) :
    ∃ kf, (generate password o d).2.file = some (.keyFile kf) ∧
      kf.toSecretKey password = .ok acc.secret := by
  obtain ⟨hsecret, hfile⟩ := generate_eq_ok h
  exact ⟨_, hfile, by simp [KeyFile.toSecretKey, hsecret]⟩

/-- A `load_or_generate` whose `File::open` succeeds leaves the disk as it was. -/
theorem loadOrGenerate_of_open {password : String} {o : Outcome} {d : Disk} {c : Content}
    (hfile : d.file = some c) (hopen : o.openFile = .ok ()) :
    loadOrGenerate password o d = (load c password o, d) := by
  simp [loadOrGenerate, hfile, hopen]

/-- `load_or_generate` takes the arm that loads when the file opens, and the arm
that generates otherwise. -/
theorem loadOrGenerate_cases (password : String) (o : Outcome) (d : Disk) :
    (∃ c, d.file = some c ∧ o.openFile = .ok () ∧
      loadOrGenerate password o d = (load c password o, d)) ∨
    loadOrGenerate password o d = generate password o d := by
  unfold loadOrGenerate
  split
  · next c hfile hopen => exact .inl ⟨c, hfile, hopen, rfl⟩
  · exact .inr rfl

/-- After a successful `load_or_generate`, the keystore holds a complete keyfile
that yields the account's secret under the password. -/
theorem loadOrGenerate_ok {password : String} {o : Outcome} {d : Disk} {acc : EthAccount}
    (h : (loadOrGenerate password o d).1 = .ok acc) :
    ∃ kf, (loadOrGenerate password o d).2.file = some (.keyFile kf) ∧
      kf.toSecretKey password = .ok acc.secret := by
  rcases loadOrGenerate_cases password o d with ⟨c, hfile, -, heq⟩ | heq <;> rw [heq] at h ⊢
  · obtain ⟨kf, rfl, hkf⟩ := load_eq_ok h
    exact ⟨kf, hfile, hkf⟩
  · exact generate_ok h

/-- On a disk with no keystore, `load_or_generate` generates the key 42 and saves
it under the password. -/
theorem loadOrGenerate_ok_generated :
    (loadOrGenerate "pw" Outcome.succeeding ⟨true, none⟩).1 = .ok ⟨42, "/home/gu/keystore.json"⟩ ∧
    ∃ kf, (loadOrGenerate "pw" Outcome.succeeding ⟨true, none⟩).2.file = some (.keyFile kf) ∧
      kf.toSecretKey "pw" = .ok 42 :=
  have h : (loadOrGenerate "pw" Outcome.succeeding ⟨true, none⟩).1 = .ok ⟨42, "/home/gu/keystore.json"⟩ :=
    rfl
  ⟨h, loadOrGenerate_ok h⟩

/-- `load_or_generate` keeps a stored key only when its file opens: on a keystore
holding a complete keyfile, a successful call either opened the file, left the
disk as it was and returned the key the file holds, or failed to open it, for any
reason and not only a missing file, and replaced the file by a keyfile of a newly
drawn key, which it returned. -/
theorem loadOrGenerate_existing {d : Disk} {kf : KeyFile} {password : String} {o : Outcome}
    {acc : EthAccount} (hfile : d.file = some (.keyFile kf))
    (h : (loadOrGenerate password o d).1 = .ok acc) :
    (o.openFile = .ok () ∧ (loadOrGenerate password o d).2 = d ∧
      kf.toSecretKey password = .ok acc.secret) ∨
    ((∃ e, o.openFile = .error e) ∧ acc.secret = o.random ∧ (loadOrGenerate password o d).2.file =
      some (.keyFile ⟨o.uuid, keystoreVersion, ⟨o.random, password⟩⟩)) := by
  cases hopen : o.openFile with
  | ok u =>
    rw [loadOrGenerate_of_open hfile hopen] at h ⊢
    obtain ⟨kf', hkf', hsecret⟩ := load_eq_ok h
    cases hkf'
    exact .inl ⟨rfl, rfl, hsecret⟩
  | error e =>
    have hgen : loadOrGenerate password o d = generate password o d := by
      simp [loadOrGenerate, hfile, hopen]
    rw [hgen] at h ⊢
    exact .inr ⟨⟨e, rfl⟩, generate_eq_ok h⟩

/-- With `File::open` of the stored keyfile of the key 7 denied, `load_or_generate`
returns the newly drawn key 42 and writes it over the keystore. -/
theorem loadOrGenerate_existing_denied :
    sampleDisk.file = some (.keyFile sampleKeyFile) ∧
    (loadOrGenerate "old" Outcome.openDenied sampleDisk).1 = .ok ⟨42, "/home/gu/keystore.json"⟩ ∧
    ((Outcome.openDenied.openFile = .ok () ∧
        (loadOrGenerate "old" Outcome.openDenied sampleDisk).2 = sampleDisk ∧
        sampleKeyFile.toSecretKey "old" = .ok 42) ∨
      ((∃ e, Outcome.openDenied.openFile = .error e) ∧ 42 = Outcome.openDenied.random ∧
        (loadOrGenerate "old" Outcome.openDenied sampleDisk).2.file = some (.keyFile
          ⟨Outcome.openDenied.uuid, keystoreVersion, ⟨Outcome.openDenied.random, "old"⟩⟩))) :=
  have h : (loadOrGenerate "old" Outcome.openDenied sampleDisk).1 =
      .ok ⟨42, "/home/gu/keystore.json"⟩ := rfl
  ⟨rfl, h, loadOrGenerate_existing rfl h⟩

/-- After a successful password change, a `load_or_generate` with the new password
whose `File::open` succeeds, and that succeeds, returns the account's secret. -/
theorem loadOrGenerate_after_changePassword {acc acc' : EthAccount} {new : String}
    {o o' : Outcome} {d : Disk} (h : (acc.changePassword new o d).1 = .ok ())
    (hopen : o'.openFile = .ok ())
    (hload : (loadOrGenerate new o' (acc.changePassword new o d).2).1 = .ok acc') :
    acc'.secret = acc.secret := by
  obtain ⟨kf, hfile, hkf⟩ := saveKey_ok h
  rw [EthAccount.changePassword, loadOrGenerate_of_open hfile hopen] at hload
  obtain ⟨kf', hkf', hsecret⟩ := load_eq_ok hload
  cases hkf'
  rw [hkf] at hsecret
  exact (Except.ok.inj hsecret).symm

/-- The account of the key 7 changes its password to `new` and is loaded back
with `new`. -/
theorem loadOrGenerate_after_changePassword_sample :
    (EthAccount.changePassword ⟨7, "/home/gu/keystore.json"⟩ "new" Outcome.succeeding sampleDisk).1 =
      .ok () ∧ Outcome.succeeding.openFile = .ok () ∧
    (loadOrGenerate "new" Outcome.succeeding
        (EthAccount.changePassword ⟨7, "/home/gu/keystore.json"⟩ "new" Outcome.succeeding sampleDisk).2).1 =
      .ok ⟨7, "/home/gu/keystore.json"⟩ ∧
    (⟨7, "/home/gu/keystore.json"⟩ : EthAccount).secret = (⟨7, "/home/gu/keystore.json"⟩ : EthAccount).secret :=
  have h : (EthAccount.changePassword ⟨7, "/home/gu/keystore.json"⟩ "new" Outcome.succeeding sampleDisk).1 =
      .ok () := rfl
  have hload : (loadOrGenerate "new" Outcome.succeeding
      (EthAccount.changePassword ⟨7, "/home/gu/keystore.json"⟩ "new" Outcome.succeeding sampleDisk).2).1 =
      .ok ⟨7, "/home/gu/keystore.json"⟩ := rfl
  ⟨h, rfl, hload, loadOrGenerate_after_changePassword h rfl hload⟩

/-- A keyfile yields a secret under a password exactly when it was encrypted under
that password, and then it yields its own secret. -/
theorem KeyFile.toSecretKey_eq_ok {kf : KeyFile} {password : String} {secret : SecretKey} :
    kf.toSecretKey password = .ok secret ↔ kf.crypto.password = password ∧ kf.crypto.secret = secret := by
  unfold KeyFile.toSecretKey
  split <;> simp_all

/-- After a successful password change, a `load_or_generate` with any other
password whose `File::open` succeeds fails, and leaves the keystore as the change
left it: the old password neither opens the key nor makes the keystore
regenerate. -/
theorem loadOrGenerate_old_password_fails {acc : EthAccount} {old new : String} {o o' : Outcome}
    {d : Disk} (h : (acc.changePassword new o d).1 = .ok ()) (hne : old ≠ new)
    (hopen : o'.openFile = .ok ()) :
    (∃ e, (loadOrGenerate old o' (acc.changePassword new o d).2).1 = .error e) ∧
      (loadOrGenerate old o' (acc.changePassword new o d).2).2 = (acc.changePassword new o d).2 := by
  obtain ⟨kf, hfile, hkf⟩ := saveKey_ok h
  rw [EthAccount.changePassword, loadOrGenerate_of_open hfile hopen]
  refine ⟨?_, rfl⟩
  cases hl : load (.keyFile kf) old o' with
  | error e => exact ⟨e, rfl⟩
  | ok acc' =>
    obtain ⟨kf', hkf', hold⟩ := load_eq_ok hl
    cases hkf'
    exact absurd ((KeyFile.toSecretKey_eq_ok.mp hold).1.symm.trans (KeyFile.toSecretKey_eq_ok.mp hkf).1) hne

/-- The account of the key 7 changes its password from `old` to `new`; loading
with `old` then fails and keeps the keystore. -/
theorem loadOrGenerate_old_password_fails_sample :
    (EthAccount.changePassword ⟨7, "/home/gu/keystore.json"⟩ "new" Outcome.succeeding sampleDisk).1 = .ok () ∧
    "old" ≠ "new" ∧ Outcome.succeeding.openFile = .ok () ∧
    (∃ e, (loadOrGenerate "old" Outcome.succeeding
        (EthAccount.changePassword ⟨7, "/home/gu/keystore.json"⟩ "new" Outcome.succeeding sampleDisk).2).1 =
        .error e) ∧
    (loadOrGenerate "old" Outcome.succeeding
        (EthAccount.changePassword ⟨7, "/home/gu/keystore.json"⟩ "new" Outcome.succeeding sampleDisk).2).2 =
      (EthAccount.changePassword ⟨7, "/home/gu/keystore.json"⟩ "new" Outcome.succeeding sampleDisk).2 :=
  ⟨rfl, by decide, rfl, loadOrGenerate_old_password_fails rfl (by decide) rfl⟩

/-- For a keystore path holding a complete keyfile `kf`: a `load_or_generate` whose
`File::open` succeeds leaves the disk as it was; a `change_password` of the
account of `kf`'s secret leaves a complete keyfile of that secret under the old or
the new password, unless the write after `File::create` fails and leaves the file
cut short; and `save_key` leaves the file as it was, replaces it by a complete
keyfile of its secret under its password, or leaves it cut short after such a
failed write. -/
theorem keystore_kept {d : Disk} {kf : KeyFile} (hfile : d.file = some (.keyFile kf)) :
    (∀ password o, o.openFile = .ok () → (loadOrGenerate password o d).2 = d) ∧
    (∀ (acc : EthAccount) old new o, kf.toSecretKey old = .ok acc.secret →
      (∃ kf', (acc.changePassword new o d).2.file = some (.keyFile kf') ∧
        (kf'.toSecretKey old = .ok acc.secret ∨ kf'.toSecretKey new = .ok acc.secret)) ∨
      (o.create = .ok () ∧ (∃ e, o.write = .error e) ∧
        (acc.changePassword new o d).2.file = some .garbled)) ∧
    (∀ secret password o, (saveKey secret password o d).2.file = d.file ∨
      (∃ kf', (saveKey secret password o d).2.file = some (.keyFile kf') ∧
        kf'.toSecretKey password = .ok secret) ∨
      (o.create = .ok () ∧ (∃ e, o.write = .error e) ∧
        (saveKey secret password o d).2.file = some .garbled)) := by
  refine ⟨fun password o hopen => by rw [loadOrGenerate_of_open hfile hopen],
    fun acc old new o hsecret => ?_, fun secret password o => ?_⟩
  · rcases saveKey_cases acc.secret new o d with ⟨-, hnew⟩ | ⟨-, hsame⟩ | ⟨hc, hw, -, hg⟩
    · exact .inl ⟨_, hnew, .inr (by simp [KeyFile.toSecretKey])⟩
    · exact .inl ⟨kf, hsame.trans hfile, .inl hsecret⟩
    · exact .inr ⟨hc, hw, hg⟩
  · rcases saveKey_cases secret password o d with ⟨-, hnew⟩ | ⟨-, hsame⟩ | ⟨hc, hw, -, hg⟩
    · exact .inr (.inl ⟨_, hnew, by simp [KeyFile.toSecretKey]⟩)
    · exact .inl hsame
    · exact .inr (.inr ⟨hc, hw, hg⟩)

/-- The keystore of `sampleDisk`. -/
theorem keystore_kept_sample : sampleDisk.file = some (.keyFile sampleKeyFile) ∧
    (∀ password o, o.openFile = .ok () → (loadOrGenerate password o sampleDisk).2 = sampleDisk) ∧
    (∀ (acc : EthAccount) old new o, sampleKeyFile.toSecretKey old = .ok acc.secret →
      (∃ kf', (acc.changePassword new o sampleDisk).2.file = some (.keyFile kf') ∧
        (kf'.toSecretKey old = .ok acc.secret ∨ kf'.toSecretKey new = .ok acc.secret)) ∨
      (o.create = .ok () ∧ (∃ e, o.write = .error e) ∧
        (acc.changePassword new o sampleDisk).2.file = some .garbled)) ∧
    (∀ secret password o, (saveKey secret password o sampleDisk).2.file = sampleDisk.file ∨
      (∃ kf', (saveKey secret password o sampleDisk).2.file = some (.keyFile kf') ∧
        kf'.toSecretKey password = .ok secret) ∨
      (o.create = .ok () ∧ (∃ e, o.write = .error e) ∧
        (saveKey secret password o sampleDisk).2.file = some .garbled)) :=
  ⟨rfl, keystore_kept rfl⟩

/-- The account of the key 7 changes its password to `new`; `File::create`
succeeds and the write fails, and the keystore path is left with no keyfile. -/
theorem failed_write_truncates_keystore :
    sampleDisk.file = some (.keyFile sampleKeyFile) ∧ sampleKeyFile.toSecretKey "old" = .ok 7 ∧
    (EthAccount.changePassword ⟨7, "/home/gu/keystore.json"⟩ "new"
        { Outcome.succeeding with write := .error "No space left on device" } sampleDisk).2.file =
      some .garbled :=
  ⟨rfl, rfl, rfl⟩

end GolemUnlimited.Ethkey
