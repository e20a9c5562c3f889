import DevSys.Lib.Runs
import DevSys.Organization.Accounts
/-!
# Credentials across a restart

Every operation but `change_password` writes what it changed to the accounts
table, and no `UPDATE` of the table names the password hash. So after a restart
the old password is back.
-/
open Cxx Runs

namespace DevSys.AccountStore
open Database

/-! ## Runs -/

inductive Event where
  | create (org_mgr : OrgManager) (now : Str) (info : AccountInfo) (password : Str)
  | update (now : Str) (account_id : Int32) (info : AccountInfo)
  | change_password (account_id : Int32) (old_password new_password : Str)
  | delete (account_id : Int32)

variable (hash_password : Str → Str)

def Event.apply : Event → AccountStore → AccountStore
  | .create org_mgr now info password, s => (s.create_account hash_password org_mgr now info password).2
  | .update now account_id info, s => (s.update_account now account_id info).2
  | .change_password account_id old_password new_password, s =>
    (s.change_password hash_password account_id old_password new_password).2
  | .delete account_id, s => (s.delete_account account_id).2

def Step (s : AccountStore) (e : Event) (s' : AccountStore) : Prop := s' = e.apply hash_password s

/-- After a restart the same logins succeed. -/
def Survives (s : AccountStore) : Prop :=
  ∀ now last_login_at req, (s.restart.mgr.login hash_password now last_login_at req).1.success =
    (s.mgr.login hash_password now last_login_at req).1.success

/-- A created account gets an id of its own. An account is activated only with
the hash in its row, and an active one keeps its hash. -/
def Kept (s : AccountStore) : Event → Prop
  | .create org_mgr _ info _ =>
    s.mgr.Acceptable org_mgr info → s.mgr.next_id_ ∉ s.mgr.accounts_.map AccountInfo.account_id
  | .update _ account_id info =>
    info.is_active = true → ∀ a ∈ s.mgr.accounts_, a.account_id = account_id →
      ∀ r ∈ s.accounts, r.account_id = account_id → a.password_hash = r.password_hash
  | .change_password account_id old_password new_password =>
    ∀ a ∈ s.mgr.accounts_, a.account_id = account_id → a.is_active = true →
      a.password_hash = hash_password old_password → hash_password new_password = a.password_hash
  | .delete _ => True

/-! ## An account and its row -/

/-- An account and the password hash in its row. -/
structure Saved where
  account : AccountInfo
  row_hash : Str

def Saved.row (p : Saved) : AccountInfo := { p.account with password_hash := p.row_hash }

def Saved.id (p : Saved) : Int32 := p.account.account_id

/-- Every account has a row that differs in the password hash at most. -/
structure Mirrored (s : AccountStore) (ps : List Saved) : Prop where
  memory : s.mgr.accounts_ = ps.map (·.account)
  table : s.accounts = ps.map Saved.row
  ids : (ps.map Saved.id).Nodup
  names : (ps.map (·.account.username)).Nodup
  hashed : ∀ p ∈ ps, (∃ w, p.account.password_hash = hash_password w) ∧ ∃ w, p.row_hash = hash_password w

theorem restart_accounts (s : AccountStore) : s.restart.mgr.accounts_.Perm s.accounts := by
  have hperm : (list_accounts_db s.accounts).Perm s.accounts := List.mergeSort_perm _ _
  show (AccountManager.load_from_database (list_accounts_db s.accounts) {}).accounts_.Perm _
  unfold AccountManager.load_from_database
  split
  · rename_i h
    rw [h] at hperm
    exact hperm
  · exact hperm

/-- With different names, a login looks for any account with the name. -/
theorem login_success_iff_mem {m : AccountManager} (h : (m.accounts_.map AccountInfo.username).Nodup) (now : Int)
    (last_login_at : Str) (req : LoginRequest) :
    (m.login hash_password now last_login_at req).1.success = true ↔
      ∃ a ∈ m.accounts_, a.username = req.username ∧ a.is_active = true ∧
        a.password_hash = hash_password req.password := by
  rw [AccountManager.login_success_iff, AccountManager.get_account_by_username]
  simp only [Rows.find?_eq_some_iff h, and_assoc]

section Mirrored
variable {hash_password} {s : AccountStore} {ps : List Saved} (h : Mirrored hash_password s ps)
include h

/-- Logins survive exactly when the rows of the active accounts have their hashes. -/
theorem Mirrored.survives_iff :
    Survives hash_password s ↔ ∀ p ∈ ps, p.account.is_active = true → p.account.password_hash = p.row_hash := by
  have hrestart := restart_accounts s
  have hnames : (s.mgr.accounts_.map AccountInfo.username).Nodup := by
    rw [h.memory, List.map_map]
    exact h.names
  have hrows : (s.restart.mgr.accounts_.map AccountInfo.username).Nodup := by
    rw [(hrestart.map _).nodup_iff, h.table, List.map_map]
    exact h.names
  have hlogin (now : Int) (last_login_at : Str) (req : LoginRequest) :
      (s.restart.mgr.login hash_password now last_login_at req).1.success =
          (s.mgr.login hash_password now last_login_at req).1.success ↔
        ((∃ p ∈ ps, p.account.username = req.username ∧ p.account.is_active = true ∧
            p.row_hash = hash_password req.password) ↔
          ∃ p ∈ ps, p.account.username = req.username ∧ p.account.is_active = true ∧
            p.account.password_hash = hash_password req.password) := by
    rw [Bool.eq_iff_iff, login_success_iff_mem hash_password hrows, login_success_iff_mem hash_password hnames, h.memory]
    simp only [hrestart.mem_iff, h.table, List.mem_map, exists_exists_and_eq_and]
    rfl
  unfold Survives
  simp only [hlogin]
  constructor
  · intro hall p hp hactive
    obtain ⟨w, hw⟩ := (h.hashed p hp).1
    obtain ⟨q, hq, hname, -, hhash⟩ := (hall 0 [] ⟨p.account.username, w⟩).2 ⟨p, hp, rfl, hactive, hw⟩
    -- names differ, so it is the account's own row
    rw [List.inj_on_of_nodup_map h.names hq hp hname] at hhash
    exact hw.trans hhash.symm
  · intro hall _ _ req
    constructor
    · rintro ⟨p, hp, hname, hactive, hhash⟩
      exact ⟨p, hp, hname, hactive, (hall p hp hactive).trans hhash⟩
    · rintro ⟨p, hp, hname, hactive, hhash⟩
      exact ⟨p, hp, hname, hactive, (hall p hp hactive).symm.trans hhash⟩

/-- The accounts after a change of one of them, with the rows as they were. -/
theorem Mirrored.memory_update {k : Int32} {f : AccountInfo → AccountInfo} :
    Rows.update AccountInfo.account_id k f s.mgr.accounts_ =
      (Rows.update Saved.id k (fun p => { p with account := f p.account }) ps).map (·.account) := by
  rw [h.memory]
  exact Rows.update_map fun _ _ _ => rfl

theorem Mirrored.ids_memory : (s.mgr.accounts_.map AccountInfo.account_id).Nodup := by
  rw [h.memory, List.map_map]
  exact h.ids

/-- A change of one account with an update of its row. -/
theorem Mirrored.write {k : Int32} {f : AccountInfo → AccountInfo} (mgr : AccountManager)
    (hf : ∀ a, f a = { a with
      display_name := (f a).display_name
      role_code := (f a).role_code
      org_id := (f a).org_id
      org_name := (f a).org_name
      email := (f a).email
      phone := (f a).phone
      is_active := (f a).is_active
      updated_at := (f a).updated_at })
    (hk : k ∈ s.mgr.accounts_.map AccountInfo.account_id)
    (hmgr : mgr.accounts_ = Rows.update AccountInfo.account_id k f s.mgr.accounts_) :
    Mirrored hash_password ⟨mgr, AccountStore.write k mgr s.accounts⟩
      (Rows.update Saved.id k (fun p => { p with account := f p.account }) ps) := by
  have hid (a : AccountInfo) : (f a).account_id = a.account_id := by rw [hf]
  have hname (a : AccountInfo) : (f a).username = a.username := by rw [hf]
  have hhash (a : AccountInfo) : (f a).password_hash = a.password_hash := by rw [hf]
  obtain ⟨a, ha, hak⟩ := List.mem_map.1 hk
  -- the changed account is the one the row is written from
  have hfind : mgr.accounts_.find? (·.account_id = k) = some (f a) := by
    rw [hmgr, Rows.find?_eq_some_iff]
    · exact ⟨Rows.mem_update.2 ⟨a, ha, if_pos hak⟩, (hid a).trans hak⟩
    · rw [Rows.map_update fun b _ _ => hid b]
      exact h.ids_memory
  refine ⟨?_, ?_, ?_, ?_, ?_⟩
  · exact hmgr.trans h.memory_update
  · show AccountStore.write k mgr s.accounts = _
    rw [AccountStore.write, hfind]
    show update_account_db (f a) s.accounts = _
    rw [update_account_db, h.table, (hid a).trans hak]
    refine Rows.update_map fun p hp hpk => ?_
    have hpa : p.account = a := by
      refine List.inj_on_of_nodup_map h.ids_memory ?_ ha (hpk.trans hak.symm)
      rw [h.memory]
      exact List.mem_map_of_mem hp
    rw [← hpa, Saved.row, Saved.row]
    dsimp only
    conv_rhs => rw [hf]
  · rw [Rows.map_update fun p _ _ => hid p.account]
    exact h.ids
  · rw [Rows.map_update fun p _ _ => hname p.account]
    exact h.names
  · intro p hp
    obtain ⟨q, hq, rfl⟩ := Rows.mem_update.1 hp
    obtain ⟨hmem, hrow⟩ := h.hashed q hq
    split
    · exact ⟨by rwa [hhash], hrow⟩
    · exact ⟨hmem, hrow⟩

end Mirrored

/-! ## One operation at a time -/

section Operations
variable {hash_password} {s : AccountStore} {ps : List Saved} (h : Mirrored hash_password s ps)
include h

/-- After a written change only the changed account can be out of step. -/
theorem Mirrored.survives_write_iff (hs : Survives hash_password s) {k : Int32} {f : AccountInfo → AccountInfo}
    {s' : AccountStore}
    (h' : Mirrored hash_password s' (Rows.update Saved.id k (fun p => { p with account := f p.account }) ps)) :
    Survives hash_password s' ↔
      ∀ p ∈ ps, p.id = k → (f p.account).is_active = true → (f p.account).password_hash = p.row_hash := by
  rw [h.survives_iff] at hs
  rw [h'.survives_iff]
  constructor
  · intro hall p hp hpk
    have := hall _ (Rows.mem_update.2 ⟨p, hp, rfl⟩)
    rwa [if_pos hpk] at this
  · intro hall q hq
    obtain ⟨p, hp, rfl⟩ := Rows.mem_update.1 hq
    by_cases hpk : p.id = k
    · rw [if_pos hpk]
      exact hall p hp hpk
    · rw [if_neg hpk]
      exact hs p hp

theorem Mirrored.mem_memory {p : Saved} (hp : p ∈ ps) : p.account ∈ s.mgr.accounts_ := by
  rw [h.memory]
  exact List.mem_map_of_mem hp

theorem Mirrored.mem_table {p : Saved} (hp : p ∈ ps) : p.row ∈ s.accounts := by
  rw [h.table]
  exact List.mem_map_of_mem hp

/-- The account and the row with an id belong together. -/
theorem Mirrored.exists_saved {a r : AccountInfo} (ha : a ∈ s.mgr.accounts_) (hr : r ∈ s.accounts)
    (hid : a.account_id = r.account_id) : ∃ p ∈ ps, p.account = a ∧ p.row = r := by
  rw [h.memory] at ha
  rw [h.table] at hr
  obtain ⟨p, hp, rfl⟩ := List.mem_map.1 ha
  obtain ⟨q, hq, rfl⟩ := List.mem_map.1 hr
  have hpq : p = q := List.inj_on_of_nodup_map h.ids hp hq hid
  exact ⟨p, hp, rfl, by rw [hpq]⟩

theorem Mirrored.update (now : Str) (k : Int32) (info : AccountInfo) :
    (∃ ps', Mirrored hash_password (s.update_account now k info).2 ps') ∧
    (Survives hash_password s → (Survives hash_password (s.update_account now k info).2 ↔
      Kept hash_password s (.update now k info))) := by
  unfold update_account AccountManager.update_account
  rcases Rows.findIdx?_cases h.ids_memory k with ⟨hi, hk⟩ | ⟨i, a, hi, -, ha, hak, hmodify⟩
  · rw [hi]
    refine ⟨⟨ps, h⟩, fun hs => iff_of_true hs ?_⟩
    rintro - a ha rfl
    exact absurd (List.mem_map_of_mem ha) hk
  · rw [hi]
    dsimp only
    rw [if_pos rfl, hmodify]
    let f := AccountManager.updated now info
    let mgr : AccountManager := { s.mgr with accounts_ := Rows.update AccountInfo.account_id k f s.mgr.accounts_ }
    have h' := h.write (f := f) mgr (fun _ => rfl) (hak ▸ List.mem_map_of_mem ha) rfl
    refine ⟨⟨_, h'⟩, fun hs => ?_⟩
    rw [h.survives_write_iff hs h']
    constructor
    · intro hall hactive b hb hbk r hr hrk
      obtain ⟨p, hp, rfl, rfl⟩ := h.exists_saved hb hr (hbk.trans hrk.symm)
      exact hall p hp hbk hactive
    · intro hkept p hp hpk hactive
      exact hkept hactive p.account (h.mem_memory hp) hpk p.row (h.mem_table hp) hpk

theorem Mirrored.delete (k : Int32) :
    (∃ ps', Mirrored hash_password (s.delete_account k).2 ps') ∧
    (Survives hash_password s → Survives hash_password (s.delete_account k).2) := by
  unfold delete_account AccountManager.delete_account
  rcases Rows.findIdx?_cases h.ids_memory k with ⟨hi, hk⟩ | ⟨i, a, hi, -, ha, hak, hmodify⟩
  · rw [hi]
    exact ⟨⟨ps, h⟩, id⟩
  · rw [hi]
    dsimp only
    rw [if_pos rfl, hmodify]
    let f (a : AccountInfo) : AccountInfo := { a with is_active := false }
    let mgr : AccountManager := { s.mgr with accounts_ := Rows.update AccountInfo.account_id k f s.mgr.accounts_ }
    have h' := h.write (f := f) mgr (fun _ => rfl) (hak ▸ List.mem_map_of_mem ha) rfl
    refine ⟨⟨_, h'⟩, fun hs => (h.survives_write_iff hs h').2 ?_⟩
    intro p _ _ hactive
    cases hactive

theorem Mirrored.change_password (k : Int32) (old_password new_password : Str) :
    (∃ ps', Mirrored hash_password (s.change_password hash_password k old_password new_password).2 ps') ∧
    (Survives hash_password s → (Survives hash_password (s.change_password hash_password k old_password new_password).2 ↔
      Kept hash_password s (.change_password k old_password new_password))) := by
  unfold AccountStore.change_password AccountManager.change_password
  rcases Rows.findIdx?_cases h.ids_memory k with ⟨hi, hk⟩ | ⟨i, a, hi, hget, ha, hak, hmodify⟩
  · rw [hi]
    refine ⟨⟨ps, h⟩, fun hs => iff_of_true hs ?_⟩
    rintro a ha rfl
    exact absurd (List.mem_map_of_mem ha) hk
  rw [hi]
  dsimp only
  rw [hget]
  -- the account with the id is `a`
  have honly : ∀ b ∈ s.mgr.accounts_, b.account_id = k → b = a := fun b hb hbk =>
    List.inj_on_of_nodup_map h.ids_memory hb ha (hbk.trans hak.symm)
  by_cases hold : a.password_hash = hash_password old_password
  · rw [if_neg (by simpa using hold), hmodify]
    let f (a : AccountInfo) : AccountInfo := { a with password_hash := hash_password new_password }
    let mgr : AccountManager := { s.mgr with accounts_ := Rows.update AccountInfo.account_id k f s.mgr.accounts_ }
    have h' : Mirrored hash_password ⟨mgr, s.accounts⟩
        (Rows.update Saved.id k (fun p => { p with account := f p.account }) ps) := by
      -- neither the row nor the keys depend on the hash in memory
      let change (p : Saved) : Saved := { p with account := f p.account }
      refine ⟨h.memory_update, ?_, ?_, ?_, ?_⟩
      · rw [Rows.map_update (f := change) fun _ _ _ => rfl]
        exact h.table
      · rw [Rows.map_update (f := change) fun _ _ _ => rfl]
        exact h.ids
      · rw [Rows.map_update (f := change) fun _ _ _ => rfl]
        exact h.names
      · intro p hp
        obtain ⟨q, hq, rfl⟩ := Rows.mem_update.1 hp
        obtain ⟨hmem, hrow⟩ := h.hashed q hq
        split
        · exact ⟨⟨new_password, rfl⟩, hrow⟩
        · exact ⟨hmem, hrow⟩
    refine ⟨⟨_, h'⟩, fun hs => ?_⟩
    rw [h.survives_write_iff hs h']
    rw [h.survives_iff] at hs
    constructor
    · intro hall b hb hbk hactive _
      rw [h.memory] at hb
      obtain ⟨p, hp, rfl⟩ := List.mem_map.1 hb
      exact (hall p hp hbk hactive).trans (hs p hp hactive).symm
    · intro hkept p hp hpk hactive
      have hpa := honly p.account (h.mem_memory hp) hpk
      exact (hkept p.account (h.mem_memory hp) hpk hactive (hpa ▸ hold)).trans (hs p hp hactive)
  · rw [if_pos (by simpa using hold)]
    refine ⟨⟨ps, h⟩, fun hs => iff_of_true hs ?_⟩
    intro b hb hbk _ hbold
    exact absurd (honly b hb hbk ▸ hbold) hold

theorem Mirrored.create (org_mgr : OrgManager) (now : Str) (info : AccountInfo) (password : Str) :
    (Kept hash_password s (.create org_mgr now info password) →
      ∃ ps', Mirrored hash_password (s.create_account hash_password org_mgr now info password).2 ps') ∧
    (Survives hash_password s →
      (Survives hash_password (s.create_account hash_password org_mgr now info password).2 ↔
        Kept hash_password s (.create org_mgr now info password))) := by
  unfold AccountStore.create_account
  rcases AccountManager.create_account_cases hash_password org_mgr now info password s.mgr with
    ⟨hrefused, sc, hsc, heq⟩ | ⟨haccept, a, hid, hname, -, hactive, hhash, heq⟩
  · rw [heq]
    dsimp only
    rw [if_neg hsc]
    exact ⟨fun _ => ⟨ps, h⟩, fun hs => iff_of_true hs fun ha => absurd ha hrefused⟩
  rw [heq]
  dsimp only
  rw [if_pos rfl]
  have hnew : a.username ∉ s.mgr.accounts_.map AccountInfo.username := by
    intro hmem
    obtain ⟨b, hb, hbn⟩ := List.mem_map.1 hmem
    have := List.find?_eq_none.1 haccept.1 b hb
    simp [hbn, hname] at this
  have hids : s.accounts.map AccountInfo.account_id = s.mgr.accounts_.map AccountInfo.account_id := by
    rw [h.table, h.memory, List.map_map, List.map_map]
    rfl
  by_cases hfresh : s.mgr.next_id_ ∈ s.mgr.accounts_.map AccountInfo.account_id
  · -- the row is refused, so the new account cannot log in after a restart
    rw [insert_account, Rows.insert_of_taken (by rwa [hids, hid])]
    refine ⟨fun hk => absurd hfresh (hk haccept), fun _ => iff_of_false ?_ fun hk => hk haccept hfresh⟩
    intro hs
    have hlogin := hs 0 [] ⟨info.username, password⟩
    have hmemory : ((({ s.mgr with accounts_ := s.mgr.accounts_ ++ [a], next_id_ := s.mgr.next_id_ + 1 } :
        AccountManager).login hash_password 0 [] ⟨info.username, password⟩).1.success) = true := by
      rw [AccountManager.login_success_iff]
      refine ⟨a, ?_, hactive, hhash⟩
      have hnone : s.mgr.accounts_.find? (·.username = info.username) = none := haccept.1
      rw [AccountManager.get_account_by_username, List.find?_append, hnone]
      simp [hname]
    rw [hmemory, AccountManager.login_success_iff] at hlogin
    obtain ⟨r, hr, -⟩ := hlogin
    have hrm := (restart_accounts _).mem_iff.1 (List.mem_of_find?_eq_some hr)
    have hrn : r.username = info.username := by simpa using List.find?_some hr
    refine hnew ?_
    rw [hname, ← hrn, h.memory, List.map_map]
    rw [h.table] at hrm
    obtain ⟨p, hp, rfl⟩ := List.mem_map.1 hrm
    exact List.mem_map.2 ⟨p, hp, rfl⟩
  · rw [insert_account, Rows.insert_of_fresh (by rwa [hids, hid])]
    let p : Saved := ⟨a, a.password_hash⟩
    have h' : Mirrored hash_password
        ⟨{ s.mgr with accounts_ := s.mgr.accounts_ ++ [a], next_id_ := s.mgr.next_id_ + 1 }, s.accounts ++ [a]⟩
        (ps ++ [p]) := by
      refine ⟨?_, ?_, ?_, ?_, ?_⟩
      · rw [List.map_append, ← h.memory]
        rfl
      · rw [List.map_append, ← h.table]
        rfl
      · rw [List.map_append]
        refine h.ids.append (List.nodup_singleton _) (List.disjoint_singleton.2 ?_)
        rw [h.memory, List.map_map, ← hid] at hfresh
        exact hfresh
      · rw [List.map_append]
        refine h.names.append (List.nodup_singleton _) (List.disjoint_singleton.2 ?_)
        rw [h.memory, List.map_map] at hnew
        exact hnew
      · intro q hq
        rcases List.mem_append.1 hq with hq | hq
        · exact h.hashed q hq
        · rw [List.mem_singleton.1 hq]
          exact ⟨⟨password, hhash⟩, password, hhash⟩
    refine ⟨fun _ => ⟨_, h'⟩, fun hs => iff_of_true ?_ fun _ => hfresh⟩
    rw [h.survives_iff] at hs
    rw [h'.survives_iff]
    intro q hq hq_active
    rcases List.mem_append.1 hq with hq | hq
    · exact hs q hq hq_active
    · rw [List.mem_singleton.1 hq]

end Operations

/-! ## Runs -/

theorem mirrored_empty : Mirrored hash_password {} [] :=
  ⟨rfl, rfl, List.nodup_nil, List.nodup_nil, by simp⟩

/-- From an empty system on, the logins survive a restart after every step of a
run exactly when every step of it keeps the hashes in step. -/
theorem credentials_survive_iff {tr : List (AccountStore × Event)} {s : AccountStore}
    (h : Run (Step hash_password) {} tr s) :
    (∀ p ∈ tr, Survives hash_password p.1) ∧ Survives hash_password s ↔ ∀ p ∈ tr, Kept hash_password p.1 p.2 := by
  have hempty := mirrored_empty hash_password
  refine h.all_iff_of_ok (fun s => ∃ ps, Mirrored hash_password s ps) _ _ ⟨[], hempty⟩ ?_ ?_ ?_
  · exact hempty.survives_iff.2 (by simp)
  · rintro s e s' ⟨ps, hi⟩ - hok rfl
    cases e with
    | create org_mgr now info password => exact (hi.create org_mgr now info password).1 hok
    | update now k info => exact (hi.update now k info).1
    | change_password k old new => exact (hi.change_password k old new).1
    | delete k => exact (hi.delete k).1
  · rintro s e s' ⟨ps, hi⟩ hs rfl
    cases e with
    | create org_mgr now info password => exact (hi.create org_mgr now info password).2 hs
    | update now k info => exact (hi.update now k info).2 hs
    | change_password k old new => exact (hi.change_password k old new).2 hs
    | delete k => exact iff_of_true ((hi.delete k).2 hs) trivial

/-! ## One account -/

def hospital : OrgManager := { orgs_ := [{ org_id := 1, tenant_id := "acme".toList }], next_id_ := 2 }

/-- Ana's account, before it is filled in. -/
def ana : AccountInfo := { username := "ana".toList, role_code := "viewer".toList, org_id := 1 }

/-- Ana's account with the password `old`. -/
def ana_created : AccountStore := (AccountStore.create_account id hospital [] ana "old".toList {}).2

theorem step_ana : Step id {} (.create hospital [] ana "old".toList) ana_created := rfl

/-- Ana's account is renamed, and a change of its password is refused. -/
theorem credentials_survive_renamed :
    let renamed : AccountInfo := { ana with display_name := "Ana".toList }
    let s := (AccountStore.update_account [] 1 renamed ana_created).2
    (AccountStore.change_password id 1 "wrong".toList "new".toList s).1 ≠ .OK ∧
      Survives id (AccountStore.change_password id 1 "wrong".toList "new".toList s).2 := by
  intro renamed s
  have hupdate : Step id ana_created (.update [] 1 renamed) s := rfl
  have hchange : Step id s (.change_password 1 "wrong".toList "new".toList) _ := rfl
  refine ⟨by decide, ((credentials_survive_iff id (((Run.nil.snoc step_ana).snoc hupdate).snoc hchange)).2 ?_).2⟩
  simp only [List.nil_append, List.cons_append, List.forall_mem_cons]
  refine ⟨?_, ?_, ?_, List.forall_mem_nil _⟩
  · exact fun _ => nofun
  · unfold Kept
    decide
  · unfold Kept
    decide

/-- After a restart the new password is not accepted. -/
theorem credentials_survive_fails : ∃ tr s, Run (Step id) {} tr s ∧ ¬ Survives id s := by
  let s := (AccountStore.change_password id 1 "old".toList "new".toList ana_created).2
  have hchange : Step id ana_created (.change_password 1 "old".toList "new".toList) s := rfl
  refine ⟨_, s, (Run.nil.snoc step_ana).snoc hchange, ?_⟩
  intro hs
  have hlogin := hs 0 [] ⟨"ana".toList, "new".toList⟩
  have hbefore : (s.mgr.login id 0 [] ⟨"ana".toList, "new".toList⟩).1.success = true := by decide
  rw [hbefore, AccountManager.login_success_iff] at hlogin
  obtain ⟨a, ha, -, hhash⟩ := hlogin
  -- the only row has the hash of the old password
  have hrow : ∀ r ∈ s.accounts, r.password_hash ≠ "new".toList := by decide
  exact hrow a ((restart_accounts s).mem_iff.1 (List.mem_of_find?_eq_some ha)) hhash

end DevSys.AccountStore
