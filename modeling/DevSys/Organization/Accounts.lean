import DevSys.Lib.FirstMatch
import DevSys.Lib.Rows
import DevSys.Organization.AccountManager
/-!
# Account operations and the accounts table

The operations that hash a password, the login, and what each operation makes
of the accounts table. `hash_password` is a parameter and time stamps are
arguments.
-/
open Cxx

namespace DevSys

namespace AccountManager

def VALID_ROLES : List Str :=
  ["super_admin".toList, "org_admin".toList, "dept_admin".toList, "operator".toList, "viewer".toList]

/-- The first account with this name, with its password hash. -/
def get_account_by_username (username : Str) (s : AccountManager) : Option AccountInfo :=
  s.accounts_.find? (·.username = username)

section Operations
variable (hash_password : Str → Str)

/-- Also returns the caller's record, which a creation fills in. -/
def create_account (org_mgr : OrgManager) (now : Str) (info : AccountInfo) (password : Str) (s : AccountManager) :
    StatusCode × AccountInfo × AccountManager :=
  if (s.get_account_by_username info.username).isSome then (.ACCOUNT_DUPLICATE, info, s)
  else if ¬org_mgr.org_exists info.org_id then (.ORG_NOT_FOUND, info, s)
  else if ¬VALID_ROLES.contains info.role_code then (.ERROR, info, s)
  else
    let org_name := match org_mgr.get_org info.org_id with
      | none => info.org_name
      | some org => org.org_name
    let info := { info with
      account_id := s.next_id_
      password_hash := hash_password password
      created_at := now
      updated_at := now
      is_active := true
      org_name := org_name }
    (.OK, info, { s with accounts_ := s.accounts_ ++ [info], next_id_ := s.next_id_ + 1 })

/-- The fields `update_account` overwrites; an empty text keeps the old one. -/
def updated (now : Str) (info a : AccountInfo) : AccountInfo :=
  let keep (new old : Str) : Str := if new ≠ [] then new else old
  { a with
    display_name := keep info.display_name a.display_name
    email := keep info.email a.email
    phone := keep info.phone a.phone
    role_code := keep info.role_code a.role_code
    is_active := info.is_active
    updated_at := now }

def update_account (now : Str) (account_id : Int32) (info : AccountInfo) (s : AccountManager) :
    StatusCode × AccountManager :=
  match s.accounts_.findIdx? (·.account_id = account_id) with
  | none => (.ACCOUNT_NOT_FOUND, s)
  | some i => (.OK, { s with accounts_ := s.accounts_.modify i (updated now info) })

def change_password (account_id : Int32) (old_password new_password : Str) (s : AccountManager) :
    StatusCode × AccountManager :=
  match s.accounts_.findIdx? (·.account_id = account_id) with
  | none => (.ACCOUNT_NOT_FOUND, s)
  | some i =>
    if s.accounts_[i]?.any (·.password_hash ≠ hash_password old_password) then (.ACCOUNT_BAD_PASSWORD, s)
    else
      (.OK, { s with accounts_ := s.accounts_.modify i fun a => { a with password_hash := hash_password new_password } })

/-- `now` in seconds, and as the time stamp of the login. -/
def login (now : Int) (last_login_at : Str) (req : LoginRequest) (s : AccountManager) :
    LoginResponse × AccountManager :=
  match s.get_account_by_username req.username with
  | none =>
    ({ error_code := StatusCode.toInt .ACCOUNT_NOT_FOUND, error_message := "Account not found".toList }, s)
  | some acct =>
    if ¬acct.is_active then
      ({ error_code := StatusCode.toInt .ACCOUNT_LOCKED, error_message := "Account is disabled".toList }, s)
    else if acct.password_hash ≠ hash_password req.password then
      ({ error_code := StatusCode.toInt .ACCOUNT_BAD_PASSWORD, error_message := "Invalid password".toList }, s)
    else
      let accounts := match s.accounts_.findIdx? (·.account_id = acct.account_id) with
        | none => s.accounts_
        | some i => s.accounts_.modify i fun a => { a with last_login_at := last_login_at }
      ({ success := true
         token := generate_token now acct
         expires_at := to_string (now + 86400)
         account := { acct with password_hash := [] }
         permissions := permissions_for_role acct.role_code },
        { s with accounts_ := accounts })

/-- A login succeeds for an active account with the hash of the password. -/
theorem login_success_iff (now : Int) (last_login_at : Str) (req : LoginRequest) (s : AccountManager) :
    (s.login hash_password now last_login_at req).1.success = true ↔
      ∃ a, s.get_account_by_username req.username = some a ∧ a.is_active = true ∧
        a.password_hash = hash_password req.password := by
  unfold login
  cases s.get_account_by_username req.username with
  | none => simp
  | some a =>
    simp only [Option.some.injEq, exists_eq_left']
    by_cases ha : a.is_active = true
    · rw [if_neg (not_not.2 ha)]
      by_cases hp : a.password_hash = hash_password req.password
      · rw [if_neg (not_not.2 hp)]
        exact iff_of_true rfl ⟨ha, hp⟩
      · rw [if_pos hp]
        exact iff_of_false Bool.false_ne_true fun h => hp h.2
    · rw [if_pos ha]
      exact iff_of_false Bool.false_ne_true fun h => ha h.1

/-- What `create_account` checks. -/
def Acceptable (org_mgr : OrgManager) (info : AccountInfo) (s : AccountManager) : Prop :=
  s.get_account_by_username info.username = none ∧ org_mgr.org_exists info.org_id = true ∧
    VALID_ROLES.contains info.role_code = true

/-- A creation is refused, or appends an active account with the hash of the password. -/
theorem create_account_cases (org_mgr : OrgManager) (now : Str) (info : AccountInfo) (password : Str) (m : AccountManager) :
    (¬ m.Acceptable org_mgr info ∧ ∃ sc, sc ≠ .OK ∧
      m.create_account hash_password org_mgr now info password = (sc, info, m)) ∨
    (m.Acceptable org_mgr info ∧ ∃ a : AccountInfo, a.account_id = m.next_id_ ∧ a.username = info.username ∧
      a.org_id = info.org_id ∧ a.is_active = true ∧ a.password_hash = hash_password password ∧
      m.create_account hash_password org_mgr now info password =
        (.OK, a, { m with accounts_ := m.accounts_ ++ [a], next_id_ := m.next_id_ + 1 })) := by
  unfold create_account Acceptable
  by_cases hname : m.get_account_by_username info.username = none
  · rw [hname, if_neg (by simp)]
    by_cases horg : org_mgr.org_exists info.org_id = true
    · rw [if_neg (not_not.2 horg)]
      by_cases hrole : VALID_ROLES.contains info.role_code = true
      · rw [if_neg (not_not.2 hrole)]
        let org_name := match org_mgr.get_org info.org_id with
          | none => info.org_name
          | some org => org.org_name
        let a : AccountInfo := { info with
          account_id := m.next_id_
          password_hash := hash_password password
          created_at := now
          updated_at := now
          is_active := true
          org_name := org_name }
        exact .inr ⟨⟨rfl, horg, hrole⟩, a, rfl, rfl, rfl, rfl, rfl, rfl⟩
      · rw [if_pos hrole]
        exact .inl ⟨fun h => hrole h.2.2, _, StatusCode.noConfusion, rfl⟩
    · rw [if_pos horg]
      exact .inl ⟨fun h => horg h.2.1, _, StatusCode.noConfusion, rfl⟩
  · rw [if_pos (by simpa [Option.isSome_iff_ne_none] using hname)]
    exact .inl ⟨fun h => hname h.1, _, StatusCode.noConfusion, rfl⟩

end Operations

end AccountManager

/-! ## The accounts table -/

namespace Database

def insert_account (info : AccountInfo) (t : List AccountInfo) : List AccountInfo :=
  Rows.insert AccountInfo.account_id info t

/-- Not among the columns: the user name, the password hash and the two other times. -/
def update_account_db (info : AccountInfo) (t : List AccountInfo) : List AccountInfo :=
  Rows.update AccountInfo.account_id info.account_id (fun r => { r with
    display_name := info.display_name
    role_code := info.role_code
    org_id := info.org_id
    org_name := info.org_name
    email := info.email
    phone := info.phone
    is_active := info.is_active
    updated_at := info.updated_at }) t

/-- `SELECT * FROM accounts ORDER BY account_id ASC`. -/
def list_accounts_db (t : List AccountInfo) : List AccountInfo := t.mergeSort fun a b => a.account_id ≤ b.account_id

end Database

/-- Rows are appended, and the next id is above theirs. -/
def AccountManager.load_from_database (db_accounts : List AccountInfo) (s : AccountManager) : AccountManager :=
  if db_accounts = [] then s
  else
    let max_id := db_accounts.foldl (fun m a => if a.account_id > m then a.account_id else m) 0
    { s with accounts_ := s.accounts_ ++ db_accounts, next_id_ := max_id + 1 }

/-- The account manager and the accounts table. -/
structure AccountStore where
  mgr : AccountManager := {}
  accounts : List AccountInfo := []

namespace AccountStore
open Database

/-- The stored account, after a change in memory, goes to the table. -/
def write (account_id : Int32) (mgr : AccountManager) (t : List AccountInfo) : List AccountInfo :=
  match mgr.accounts_.find? (·.account_id = account_id) with
  | none => t
  | some a => update_account_db a t

section Operations
variable (hash_password : Str → Str)

def create_account (org_mgr : OrgManager) (now : Str) (info : AccountInfo) (password : Str) (s : AccountStore) :
    StatusCode × AccountStore :=
  let (sc, info, mgr) := s.mgr.create_account hash_password org_mgr now info password
  (sc, { mgr := mgr, accounts := if sc = .OK then insert_account info s.accounts else s.accounts })

def update_account (now : Str) (account_id : Int32) (info : AccountInfo) (s : AccountStore) :
    StatusCode × AccountStore :=
  let (sc, mgr) := s.mgr.update_account now account_id info
  (sc, { mgr := mgr, accounts := if sc = .OK then write account_id mgr s.accounts else s.accounts })

/-- Nothing is written. -/
def change_password (account_id : Int32) (old_password new_password : Str) (s : AccountStore) :
    StatusCode × AccountStore :=
  let (sc, mgr) := s.mgr.change_password hash_password account_id old_password new_password
  (sc, { s with mgr := mgr })

def delete_account (account_id : Int32) (s : AccountStore) : StatusCode × AccountStore :=
  let (sc, mgr) := s.mgr.delete_account account_id
  (sc, { mgr := mgr, accounts := if sc = .OK then write account_id mgr s.accounts else s.accounts })

end Operations

/-- A fresh manager on the same table. -/
def restart (s : AccountStore) : AccountStore :=
  { s with mgr := AccountManager.load_from_database (list_accounts_db s.accounts) {} }

end AccountStore

end DevSys
