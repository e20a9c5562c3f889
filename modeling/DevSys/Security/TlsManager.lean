import DevSys.Common.Types
import DevSys.Lib.Runs
import DevSys.Lib.Socket
import DevSys.Lib.UMap
/-!
# Stored credentials

Credentials are files encrypted with AES-256-GCM. The key and the
initialisation vector are both taken from a hash of the credential's name, so
that they stay the same when the credential is stored again.
-/
open Cxx Runs

namespace DevSys.TlsManager

/-- What the manager uses of OpenSSL to encrypt. -/
structure OpenSSL where
  SHA256 : Str → Vector UInt8 32
  /-- The ciphertext and the tag of a plaintext, by key and vector. -/
  aes_256_gcm : Vector UInt8 32 → Bytes → Bytes → Bytes × Vector UInt8 16

/-! ## Encryption -/

def kdf_input (key : Str) : Str := "dev-sys-cred-v1:".toList ++ key

/-- `static_cast<int>` of a size, as the length of an input. -/
def input_length (size : Nat) : Nat := (Int32.ofNat size).toInt.toNat

/-- One use of the cipher: the name of the credential, and what the cipher is given. -/
structure Encryption where
  key : Str
  enc_key : Vector UInt8 32
  iv : Bytes
  plaintext : Bytes

def encryption (ssl : OpenSSL) (key : Str) (value : Bytes) : Encryption :=
  let hash := ssl.SHA256 (kdf_input key)
  { key
    enc_key := hash
    iv := hash.toList.take 12
    plaintext := value.take (input_length value.length) }

/-- IV, tag and ciphertext. -/
def Encryption.file_data (ssl : OpenSSL) (e : Encryption) : Bytes :=
  let (ciphertext, tag) := ssl.aes_256_gcm e.enc_key e.iv e.plaintext
  e.iv ++ tag.toList ++ ciphertext

/-- The pair that must not come twice. -/
def Encryption.pair (e : Encryption) : Vector UInt8 32 × Bytes := (e.enc_key, e.iv)

/-- No pair is used for two plaintexts. -/
def NonceUnique (used : List Encryption) : Prop :=
  ∀ e ∈ used, ∀ e' ∈ used, e.plaintext ≠ e'.plaintext → e.pair ≠ e'.pair

/-! ## Operations -/

/-- How a write to a file ends; one that fails halfway leaves some data behind. -/
inductive Write where
  | not_open
  | bad (left : Bytes)
  | good

def write_file (path : Str) (data : Bytes) (files : UMap Str Bytes) : Write → Bool × UMap Str Bytes
  | .not_open => (false, files)
  | .bad left => (false, files.set path left)
  | .good => (true, files.set path data)

def cred_dir : Str := "/etc/dev-sys-cloud/credentials".toList

def file_path (key : Str) : Str := cred_dir ++ '/' :: key ++ ".cred".toList

/-- What the system does during a call. -/
structure Env where
  dir_exists : Bool := true
  dir_created : Bool := true
  ctx : Bool := true
  write : Write := .good

/-- The call gets as far as the cipher. -/
def Env.Encrypts (env : Env) : Prop := (env.dir_exists ∨ env.dir_created) ∧ env.ctx

instance (env : Env) : Decidable env.Encrypts := inferInstanceAs (Decidable (_ ∧ _))

/-- The credential files, and the uses of the cipher so far. -/
structure Credentials where
  files : UMap Str Bytes := ∅
  used : List Encryption := []

def store_credential (ssl : OpenSSL) (env : Env) (key : Str) (value : Bytes) (s : Credentials) :
    StatusCode × Credentials :=
  if ¬env.dir_exists ∧ ¬env.dir_created then (.STORAGE_WRITE_ERROR, s)
  else if ¬env.ctx then (.ERROR, s)
  else
    let e := encryption ssl key value
    let used := s.used ++ [e]
    match write_file (file_path key) (e.file_data ssl) s.files env.write with
    | (false, files) => (.STORAGE_WRITE_ERROR, { files, used })
    | (true, files) => (.OK, { files, used })

/-- What a renewal makes, and the system during the two calls that store it. -/
structure Renewal where
  key_pem : Bytes
  csr_pem : Bytes
  key_env : Env := {}
  csr_env : Env := {}

/-- Nothing is stored if OpenSSL cannot make the key or the request. -/
def request_cert_renewal (ssl : OpenSSL) (made : Option Renewal) (s : Credentials) : StatusCode × Credentials :=
  match made with
  | none => (.ERROR, s)
  | some r =>
    let (_, s) := store_credential ssl r.key_env "pending_key".toList r.key_pem s
    let (_, s) := store_credential ssl r.csr_env "pending_csr".toList r.csr_pem s
    (.OK, s)

inductive Event where
  | store_credential (env : Env) (key : Str) (value : Bytes)
  | request_cert_renewal (made : Option Renewal)

def step (ssl : OpenSSL) (s : Credentials) : Event → Credentials
  | .store_credential env key value => (TlsManager.store_credential ssl env key value s).2
  | .request_cert_renewal made => (TlsManager.request_cert_renewal ssl made s).2

/-- The credentials after a series of calls, with what was in the directory before. -/
def run (ssl : OpenSSL) (files : UMap Str Bytes) (evs : List Event) : Credentials := evs.foldl (step ssl) { files }

/-- A call that ends well leaves the file of its credential, and touches no other. -/
theorem store_credential_ok {ssl : OpenSSL} {env : Env} {key : Str} {value : Bytes} {s : Credentials}
    (h : (store_credential ssl env key value s).1 = .OK) :
    (store_credential ssl env key value s).2.files =
      s.files.set (file_path key) ((encryption ssl key value).file_data ssl) := by
  unfold store_credential at h ⊢
  split at h
  · cases h
  split at h
  · cases h
  rename_i hdir hctx
  rw [if_neg hdir, if_neg hctx]
  cases hwrite : env.write with
  | not_open => simp [hwrite, write_file] at h
  | bad left => simp [hwrite, write_file] at h
  | good => simp [write_file]

/-! ## Uses of the cipher -/

/-- The uses of the cipher in one call. -/
def uses (ssl : OpenSSL) (env : Env) (key : Str) (value : Bytes) : List Encryption :=
  if env.Encrypts then [encryption ssl key value] else []

theorem store_credential_used (ssl : OpenSSL) (env : Env) (key : Str) (value : Bytes) (s : Credentials) :
    (store_credential ssl env key value s).2.used = s.used ++ uses ssl env key value := by
  unfold store_credential uses
  by_cases hdir : env.dir_exists ∨ env.dir_created
  · have hopen : ¬(¬env.dir_exists ∧ ¬env.dir_created) := by
      rintro ⟨hexists, hcreated⟩
      exact hdir.elim hexists hcreated
    rw [if_neg hopen]
    by_cases hctx : env.ctx
    · rw [if_neg (not_not.2 hctx), if_pos (show env.Encrypts from ⟨hdir, hctx⟩)]
      cases env.write <;> rfl
    · rw [if_pos hctx, if_neg (fun h : env.Encrypts => hctx h.2), List.append_nil]
  · rw [if_pos (not_or.1 hdir), if_neg (fun h : env.Encrypts => hdir h.1), List.append_nil]

/-- The two derive from the name alone, and show its hash. -/
theorem pair_encryption_eq_iff (ssl : OpenSSL) (key key' : Str) (value value' : Bytes) :
    (encryption ssl key value).pair = (encryption ssl key' value').pair ↔
      ssl.SHA256 (kdf_input key) = ssl.SHA256 (kdf_input key') := by
  constructor
  · intro h
    exact (Prod.mk.inj h).1
  · intro h
    simp only [Encryption.pair, encryption, h]

/-- Every use of the cipher is made by `encryption`. -/
def Derived (ssl : OpenSSL) (s : Credentials) : Prop := ∀ e ∈ s.used, ∃ value, e = encryption ssl e.key value

theorem store_credential_derived {ssl : OpenSSL} {s : Credentials} (hs : Derived ssl s) (env : Env) (key : Str)
    (value : Bytes) : Derived ssl (store_credential ssl env key value s).2 := by
  intro e he
  rw [store_credential_used, List.mem_append] at he
  rcases he with he | he
  · exact hs e he
  · unfold uses at he
    split at he
    · obtain rfl := List.mem_singleton.1 he
      exact ⟨value, rfl⟩
    · cases he

theorem step_derived {ssl : OpenSSL} {s : Credentials} (hs : Derived ssl s) (ev : Event) :
    Derived ssl (step ssl s ev) := by
  cases ev with
  | store_credential env key value => exact store_credential_derived hs env key value
  | request_cert_renewal made =>
    cases made with
    | none => exact hs
    | some r => exact store_credential_derived (store_credential_derived hs _ _ _) _ _ _

theorem run_derived (ssl : OpenSSL) (files : UMap Str Bytes) (evs : List Event) :
    Derived ssl (run ssl files evs) := by
  have hnone : Derived ssl { files } := by
    intro e he
    cases he
  refine (run_passed (step ssl) { files } evs).inv (Derived ssl) hnone ?_
  rintro s ev _ hs rfl
  exact step_derived hs ev

/-- In every run, two uses of the cipher have the same key and vector exactly
when the names of their credentials have the same hash, so the pair of a name
is used for each value that is stored under it. -/
theorem pairs_by_name (ssl : OpenSSL) (files : UMap Str Bytes) (evs : List Event) :
    let used := (run ssl files evs).used
    (∀ e ∈ used, ∀ e' ∈ used, e.pair = e'.pair ↔ ssl.SHA256 (kdf_input e.key) = ssl.SHA256 (kdf_input e'.key)) ∧
      (NonceUnique used ↔ ∀ e ∈ used, ∀ e' ∈ used, ssl.SHA256 (kdf_input e.key) = ssl.SHA256 (kdf_input e'.key) →
        e.plaintext = e'.plaintext) := by
  intro used
  have hderived := run_derived ssl files evs
  have hpair : ∀ e ∈ used, ∀ e' ∈ used,
      e.pair = e'.pair ↔ ssl.SHA256 (kdf_input e.key) = ssl.SHA256 (kdf_input e'.key) := by
    intro e he e' he'
    obtain ⟨value, h⟩ := hderived e he
    obtain ⟨value', h'⟩ := hderived e' he'
    rw [h, h']
    exact pair_encryption_eq_iff ssl e.key e'.key value value'
  refine ⟨hpair, ?_⟩
  constructor
  · intro hunique e he e' he' hhash
    by_contra hne
    exact hunique e he e' he' hne ((hpair e he e' he').2 hhash)
  · intro hsame e he e' he' hne heq
    exact hne (hsame e he e' he' ((hpair e he e' he').1 heq))

/-- Two renewals, each with a key and a request of its own. -/
def two_renewals : List Event :=
  [.request_cert_renewal (some { key_pem := [1], csr_pem := [2] }),
    .request_cert_renewal (some { key_pem := [3], csr_pem := [4] })]

/-- Whatever the hash function, the two private keys are encrypted with one key and vector. -/
theorem renewals_reuse_the_pair : ¬∃ ssl, NonceUnique (run ssl ∅ two_renewals).used := by
  rintro ⟨ssl, hunique⟩
  have hkey : encryption ssl "pending_key".toList [1] ∈ (run ssl ∅ two_renewals).used := .head _
  have hnext : encryption ssl "pending_key".toList [3] ∈ (run ssl ∅ two_renewals).used := .tail _ (.tail _ (.head _))
  have hne : ([1] : Bytes) ≠ [3] := by decide
  exact hunique _ hkey _ hnext hne rfl

end DevSys.TlsManager
