import DevSys.Device.DeviceManager
import DevSys.Lib.Numbered
import DevSys.Lib.Runs
import DevSys.Organization.Accounts
import DevSys.Organization.Organizations
/-!
# Organisations, accounts and devices together

The three managers, the tables of the first two, and every operation on them. A
step leaves the ids and references as they are, adds an organisation or an
account, or takes an organisation away.
-/
open Cxx Runs Numbered

namespace DevSys

structure Directory where
  orgs : OrgStore := {}
  accts : AccountStore := {}
  device_mgr : DeviceManager := {}

namespace Directory
open Database

/-! ## Operations -/

inductive Event where
  | create_org (now : Str) (info : OrgInfo)
  | update_org (now : Str) (org_id : Int32) (info : OrgInfo)
  | delete_org (org_id : Int32)
  | create_account (now : Str) (info : AccountInfo) (password : Str)
  | update_account (now : Str) (account_id : Int32) (info : AccountInfo)
  | change_password (account_id : Int32) (old_password new_password : Str)
  | delete_account (account_id : Int32)
  | login (now : Int) (last_login_at : Str) (req : LoginRequest)
  | logout (token : Str)
  | heartbeat (now : Int) (tenant_id device_id product_id payload_json : Str)
  | register_device (upsert : Option StatusCode) (device : Device)
  | remove_device (tenant_id device_id : Str)
  | update_device_status (tenant_id device_id : Str) (net_st : NetworkStatus) (work_st : WorkStatus)
  | migrate_device (device_id new_tenant : Str)
  /-- Fresh managers, with the activated devices among `devices`. -/
  | restart (devices : List Device)

variable (hash_password : Str → Str)

def Event.apply : Event → Directory → Directory
  | .create_org now info, s => { s with orgs := (s.orgs.create_org now info).2.2 }
  | .update_org now org_id info, s => { s with orgs := (s.orgs.update_org now org_id info).2 }
  | .delete_org org_id, s => { s with orgs := (s.orgs.delete_org org_id).2 }
  | .create_account now info password, s =>
    { s with accts := (s.accts.create_account hash_password s.orgs.mgr now info password).2 }
  | .update_account now account_id info, s => { s with accts := (s.accts.update_account now account_id info).2 }
  | .change_password account_id old_password new_password, s =>
    { s with accts := (s.accts.change_password hash_password account_id old_password new_password).2 }
  | .delete_account account_id, s => { s with accts := (s.accts.delete_account account_id).2 }
  | .login now last_login_at req, s =>
    { s with accts := { s.accts with mgr := (s.accts.mgr.login hash_password now last_login_at req).2 } }
  | .logout token, s => { s with accts := { s.accts with mgr := (s.accts.mgr.logout token).2 } }
  | .heartbeat now tenant_id device_id product_id payload_json, s =>
    { s with device_mgr := s.device_mgr.process_heartbeat now tenant_id device_id product_id payload_json }
  | .register_device upsert device, s => { s with device_mgr := (s.device_mgr.register_device upsert device).2 }
  | .remove_device tenant_id device_id, s => { s with device_mgr := (s.device_mgr.remove_device tenant_id device_id).2 }
  | .update_device_status tenant_id device_id net_st work_st, s =>
    { s with device_mgr := (s.device_mgr.update_device_status tenant_id device_id net_st work_st).2 }
  | .migrate_device device_id new_tenant, s => { s with device_mgr := (s.device_mgr.migrate_device device_id new_tenant).2 }
  | .restart devices, s =>
    { orgs := s.orgs.restart
      accts := s.accts.restart
      device_mgr := DeviceManager.load_from_database devices {} }

/-- Giving out the last id would overflow the counter, which is undefined. -/
def Defined (s : Directory) : Event → Prop
  | .create_org now info => (s.orgs.create_org now info).1 = .OK → s.orgs.mgr.next_id_ < Int32.maxValue
  | .create_account now info password =>
    (s.accts.create_account hash_password s.orgs.mgr now info password).1 = .OK → s.accts.mgr.next_id_ < Int32.maxValue
  | _ => True

def Step (s : Directory) (e : Event) (s' : Directory) : Prop := Defined hash_password s e ∧ s' = e.apply hash_password s

/-! ## Ids and references -/

/-- An organisation's id, parent and tenant. -/
def orgLink (o : OrgInfo) : Int32 × Int32 × Str := (o.org_id, o.parent_id, o.tenant_id)

/-- An account's id and organisation. -/
def accountLink (a : AccountInfo) : Int32 × Int32 := (a.account_id, a.org_id)

theorem orgLink_fst (o : OrgInfo) : (orgLink o).1 = o.org_id := rfl

theorem accountLink_fst (a : AccountInfo) : (accountLink a).1 = a.account_id := rfl

def orgLinks (s : Directory) : List (Int32 × Int32 × Str) := s.orgs.mgr.orgs_.map orgLink

def accountLinks (s : Directory) : List (Int32 × Int32) := s.accts.mgr.accounts_.map accountLink

/-- Memory and tables agree, and the ids are all different. -/
structure Saved (s : Directory) : Prop where
  orgs : Stored OrgInfo.org_id orgLink s.orgs.mgr.next_id_ s.orgs.mgr.orgs_ s.orgs.orgs
  accounts : Stored AccountInfo.account_id accountLink s.accts.mgr.next_id_ s.accts.mgr.accounts_ s.accts.accounts

theorem saved_empty : Saved {} := ⟨stored_empty _ _, stored_empty _ _⟩

/-- What a step does to the links, in four cases. -/
inductive Change (s : Directory) : Event → Directory → Prop
  | same {e s'} (ho : s'.orgLinks.Perm s.orgLinks) (ha : s'.accountLinks.Perm s.accountLinks) : Change s e s'
  | create_org {now info s'} (hp : info.parent_id ≠ 0 → s.orgs.mgr.org_exists info.parent_id = true)
      (hsc : (s.orgs.create_org now info).1 = .OK)
      (ho : s'.orgLinks = s.orgLinks ++ [(s.orgs.mgr.next_id_, info.parent_id, info.tenant_id)])
      (ha : s'.accountLinks = s.accountLinks) : Change s (.create_org now info) s'
  | delete_org {org_id s'} (hsc : (s.orgs.delete_org org_id).1 = .OK)
      (ho : s'.orgLinks = s.orgLinks.filter (·.1 ≠ org_id))
      (ha : s'.accountLinks = s.accountLinks) : Change s (.delete_org org_id) s'
  | create_account {now info password s'} (horg : s.orgs.mgr.org_exists info.org_id = true)
      (ho : s'.orgLinks = s.orgLinks)
      (ha : s'.accountLinks = s.accountLinks ++ [(s.accts.mgr.next_id_, info.org_id)]) :
      Change s (.create_account now info password) s'

/-! ## Organisations -/

section Organisations
variable {s : OrgStore} (h : Stored OrgInfo.org_id orgLink s.mgr.next_id_ s.mgr.orgs_ s.orgs)
include h

/-- The tenants in the table are those in memory. -/
theorem table_tenant_free {tenant_id : Str} (ht : s.mgr.tenant_exists tenant_id = false) :
    ¬ s.orgs.any (·.tenant_id = tenant_id) = true := by
  have hperm := h.same.map (fun l => l.2.2)
  rw [List.map_map, List.map_map] at hperm
  rw [List.any_eq_true]
  rintro ⟨r, hr, hrt⟩
  obtain ⟨o, ho, hor⟩ := List.mem_map.1 (hperm.subset (List.mem_map_of_mem hr))
  refine List.any_eq_false.1 ht o ho (decide_eq_true ?_)
  exact Eq.trans hor (of_decide_eq_true hrt)

theorem stored_create_org (now : Str) (info : OrgInfo) :
    let s' := (s.create_org now info).2.2
    ((s.create_org now info).1 ≠ .OK ∧ s' = s) ∨
    ((s.create_org now info).1 = .OK ∧ s.mgr.checkParent info = none ∧
      s'.mgr.orgs_.map orgLink = s.mgr.orgs_.map orgLink ++ [(s.mgr.next_id_, info.parent_id, info.tenant_id)] ∧
      (s.mgr.next_id_ < Int32.maxValue → Stored OrgInfo.org_id orgLink s'.mgr.next_id_ s'.mgr.orgs_ s'.orgs)) := by
  rcases OrgManager.create_org_cases (g := orgLink) (fun _ _ => rfl) now info s.mgr with
    ⟨hsc, hs⟩ | ⟨hsc, hp, ht, hinfo, hn, ho⟩
  · refine .inl ⟨hsc, ?_⟩
    unfold OrgStore.create_org
    dsimp only
    rw [hs, if_neg hsc]
  · refine .inr ⟨hsc, hp, ?_, ?_⟩
    · simpa [orgLink, OrgStore.create_org] using ho
    · intro hlt
      let o := s.mgr.assigned now info
      have htable : (s.create_org now info).2.2.orgs = s.orgs ++ [o] := by
        unfold OrgStore.create_org
        dsimp only
        rw [if_pos hsc, hinfo, insert_org, if_neg, Rows.insert_of_fresh]
        · rw [OrgManager.assigned_org_id]
          exact h.table_fresh orgLink_fst
        · rw [OrgManager.assigned_tenant_id]
          exact table_tenant_free h ht
      have happend := h.append hlt (r := o) (OrgManager.assigned_org_id now info s.mgr)
      rw [htable]
      show Stored _ _ (s.mgr.create_org now info).2.2.next_id_ _ _
      rw [hn]
      refine happend.of_map orgLink_fst ?_ rfl
      rw [List.map_append]
      exact ho

theorem stored_update_org (now : Str) (org_id : Int32) (info : OrgInfo) :
    let s' := (s.update_org now org_id info).2
    s'.mgr.orgs_.map orgLink = s.mgr.orgs_.map orgLink ∧
      Stored OrgInfo.org_id orgLink s'.mgr.next_id_ s'.mgr.orgs_ s'.orgs := by
  obtain ⟨ho, hn⟩ := OrgManager.update_org_map (g := orgLink) (fun _ _ _ => rfl) now org_id info s.mgr
  refine ⟨ho, ?_⟩
  unfold OrgStore.update_org
  dsimp only
  rw [hn]
  -- the row that is written has the links of the organisation
  have h' := h.of_map orgLink_fst ho rfl
  refine h.of_map orgLink_fst ho ?_
  split
  · unfold OrgStore.write
    split
    · rfl
    · rename_i o hget
      refine Rows.map_update fun r hr hk => ?_
      have hlink := h'.att_eq orgLink_fst (List.mem_of_find?_eq_some hget) hr hk.symm
      simp only [orgLink, Prod.mk.injEq] at hlink ⊢
      exact ⟨trivial, hlink.2⟩
  · rfl

theorem stored_delete_org (org_id : Int32) :
    let s' := (s.delete_org org_id).2
    ((s.delete_org org_id).1 ≠ .OK ∧ s' = s) ∨
    ((s.delete_org org_id).1 = .OK ∧
      s'.mgr.orgs_.map orgLink = (s.mgr.orgs_.map orgLink).filter (·.1 ≠ org_id) ∧
      Stored OrgInfo.org_id orgLink s'.mgr.next_id_ s'.mgr.orgs_ s'.orgs) := by
  unfold OrgStore.delete_org
  rcases OrgManager.delete_org_cases org_id s.mgr with ⟨hsc, hs⟩ | hs
  · refine .inl ⟨hsc, ?_⟩
    dsimp only
    rw [hs, if_neg hsc]
  · rw [hs, Rows.eraseP_eq_delete h.nodup]
    refine .inr ⟨rfl, map_delete orgLink_fst org_id s.mgr.orgs_, ?_⟩
    exact h.delete orgLink_fst org_id

end Organisations

/-! ## Accounts -/

/-- Changes of other fields of the accounts. -/
def SameAccounts (m m' : AccountManager) : Prop :=
  m'.accounts_.map accountLink = m.accounts_.map accountLink ∧ m'.next_id_ = m.next_id_

theorem sameAccounts_modify (m : AccountManager) (i : Nat) {f : AccountInfo → AccountInfo}
    (hf : ∀ a, accountLink (f a) = accountLink a) : SameAccounts m { m with accounts_ := m.accounts_.modify i f } :=
  ⟨FirstMatch.map_modify hf _ _, rfl⟩

theorem sameAccounts_update_account (now : Str) (account_id : Int32) (info : AccountInfo) (m : AccountManager) :
    SameAccounts m (m.update_account now account_id info).2 := by
  unfold AccountManager.update_account
  split
  · exact ⟨rfl, rfl⟩
  · exact sameAccounts_modify m _ fun _ => rfl

theorem sameAccounts_change_password (account_id : Int32) (old_password new_password : Str) (m : AccountManager) :
    SameAccounts m (m.change_password hash_password account_id old_password new_password).2 := by
  unfold AccountManager.change_password
  split
  · exact ⟨rfl, rfl⟩
  · split
    · exact ⟨rfl, rfl⟩
    · exact sameAccounts_modify m _ fun _ => rfl

theorem sameAccounts_delete_account (account_id : Int32) (m : AccountManager) :
    SameAccounts m (m.delete_account account_id).2 := by
  unfold AccountManager.delete_account
  split
  · exact ⟨rfl, rfl⟩
  · exact sameAccounts_modify m _ fun _ => rfl

theorem sameAccounts_login (now : Int) (last_login_at : Str) (req : LoginRequest) (m : AccountManager) :
    SameAccounts m (m.login hash_password now last_login_at req).2 := by
  unfold AccountManager.login
  split
  · exact ⟨rfl, rfl⟩
  split
  · exact ⟨rfl, rfl⟩
  split
  · exact ⟨rfl, rfl⟩
  dsimp only
  split
  · exact ⟨rfl, rfl⟩
  · exact sameAccounts_modify m _ fun _ => rfl

section Accounts
variable {hash_password} {s : AccountStore}
  (h : Stored AccountInfo.account_id accountLink s.mgr.next_id_ s.mgr.accounts_ s.accounts)
include h

theorem stored_of_same {m : AccountManager} (hm : SameAccounts s.mgr m) :
    Stored AccountInfo.account_id accountLink m.next_id_ m.accounts_ s.accounts := by
  rw [hm.2]
  exact h.of_map accountLink_fst hm.1 rfl

/-- The row that is written has the organisation of the account. -/
theorem stored_write {m : AccountManager} (hm : SameAccounts s.mgr m) (account_id : Int32) (sc : StatusCode) :
    Stored AccountInfo.account_id accountLink m.next_id_ m.accounts_
      (if sc = .OK then AccountStore.write account_id m s.accounts else s.accounts) := by
  have h' := stored_of_same h hm
  refine h'.of_map accountLink_fst rfl ?_
  split
  · unfold AccountStore.write
    split
    · rfl
    · rename_i a hget
      refine Rows.map_update fun r hr hk => ?_
      have hlink := h'.att_eq accountLink_fst (List.mem_of_find?_eq_some hget) hr hk.symm
      simp only [accountLink, Prod.mk.injEq] at hlink ⊢
      exact ⟨trivial, hlink.2⟩
  · rfl

theorem stored_create_account (org_mgr : OrgManager) (now : Str) (info : AccountInfo) (password : Str) :
    let s' := (s.create_account hash_password org_mgr now info password).2
    ((s.create_account hash_password org_mgr now info password).1 ≠ .OK ∧ s' = s) ∨
    ((s.create_account hash_password org_mgr now info password).1 = .OK ∧ org_mgr.org_exists info.org_id = true ∧
      s'.mgr.accounts_.map accountLink = s.mgr.accounts_.map accountLink ++ [(s.mgr.next_id_, info.org_id)] ∧
      (s.mgr.next_id_ < Int32.maxValue →
        Stored AccountInfo.account_id accountLink s'.mgr.next_id_ s'.mgr.accounts_ s'.accounts)) := by
  unfold AccountStore.create_account
  rcases AccountManager.create_account_cases hash_password org_mgr now info password s.mgr with
    ⟨-, sc, hsc, heq⟩ | ⟨haccept, a, hid, -, horg, -, -, heq⟩
  · rw [heq]
    refine .inl ⟨hsc, ?_⟩
    dsimp only
    rw [if_neg hsc]
  · rw [heq]
    dsimp only
    rw [if_pos rfl]
    refine .inr ⟨rfl, haccept.2.1, ?_, ?_⟩
    · rw [List.map_append, List.map_singleton, accountLink, hid, horg]
    · intro hlt
      rw [insert_account, Rows.insert_of_fresh]
      · exact h.append hlt hid
      · rw [hid]
        exact h.table_fresh accountLink_fst

end Accounts

/-! ## Restarts -/

theorem load_orgs_eq (rows : List OrgInfo) :
    OrgManager.load_from_database rows {} = { orgs_ := rows, next_id_ := nextOf OrgInfo.org_id rows } := by
  unfold OrgManager.load_from_database
  split
  · rename_i h
    subst h
    rfl
  · rfl

theorem load_accounts_eq (rows : List AccountInfo) :
    AccountManager.load_from_database rows {} =
      { accounts_ := rows, next_id_ := nextOf AccountInfo.account_id rows } := by
  unfold AccountManager.load_from_database
  split
  · rename_i h
    subst h
    rfl
  · rfl

theorem stored_restart_orgs {s : OrgStore} (h : Stored OrgInfo.org_id orgLink s.mgr.next_id_ s.mgr.orgs_ s.orgs) :
    (s.restart.mgr.orgs_.map orgLink).Perm (s.mgr.orgs_.map orgLink) ∧
      Stored OrgInfo.org_id orgLink s.restart.mgr.next_id_ s.restart.mgr.orgs_ s.restart.orgs := by
  have hperm : (list_orgs_db s.orgs).Perm s.orgs := List.mergeSort_perm _ _
  rw [OrgStore.restart, load_orgs_eq]
  exact ⟨(hperm.map _).trans h.same, h.load orgLink_fst hperm⟩

theorem stored_restart_accounts {s : AccountStore}
    (h : Stored AccountInfo.account_id accountLink s.mgr.next_id_ s.mgr.accounts_ s.accounts) :
    (s.restart.mgr.accounts_.map accountLink).Perm (s.mgr.accounts_.map accountLink) ∧
      Stored AccountInfo.account_id accountLink s.restart.mgr.next_id_ s.restart.mgr.accounts_ s.restart.accounts := by
  have hperm : (list_accounts_db s.accounts).Perm s.accounts := List.mergeSort_perm _ _
  rw [AccountStore.restart, load_accounts_eq]
  exact ⟨(hperm.map _).trans h.same, h.load accountLink_fst hperm⟩

/-! ## Steps -/

/-- A step keeps memory and tables in agreement and changes the links in one of
the four ways. -/
theorem change_of_step {s s' : Directory} {e : Event} (h : Saved s) (hstep : Step hash_password s e s') :
    Saved s' ∧ Change s e s' := by
  obtain ⟨hdef, rfl⟩ := hstep
  -- a refused request changes nothing; the others change one of the two stores
  cases e with
  | create_org now info =>
    rcases stored_create_org h.orgs now info with ⟨-, hs⟩ | ⟨hsc, hp, ho, hstored⟩
    · have heq : Event.apply hash_password (.create_org now info) s = s := by rw [Event.apply, hs]
      rw [heq]
      exact ⟨h, .same (.refl _) (.refl _)⟩
    · refine ⟨⟨hstored (hdef hsc), h.accounts⟩, .create_org ?_ hsc ho rfl⟩
      intro hparent
      obtain ⟨p, hget⟩ := OrgManager.exists_parent hparent hp
      rw [OrgManager.org_exists, hget]
      rfl
  | update_org now org_id info =>
    obtain ⟨ho, hstored⟩ := stored_update_org h.orgs now org_id info
    exact ⟨⟨hstored, h.accounts⟩, .same (.of_eq ho) (.refl _)⟩
  | delete_org org_id =>
    rcases stored_delete_org h.orgs org_id with ⟨-, hs⟩ | ⟨hsc, ho, hstored⟩
    · have heq : Event.apply hash_password (.delete_org org_id) s = s := by rw [Event.apply, hs]
      rw [heq]
      exact ⟨h, .same (.refl _) (.refl _)⟩
    · exact ⟨⟨hstored, h.accounts⟩, .delete_org hsc ho rfl⟩
  | create_account now info password =>
    rcases stored_create_account h.accounts s.orgs.mgr now info password with ⟨-, hs⟩ | ⟨hsc, horg, ha, hstored⟩
    · have heq : Event.apply hash_password (.create_account now info password) s = s := by rw [Event.apply, hs]
      rw [heq]
      exact ⟨h, .same (.refl _) (.refl _)⟩
    · exact ⟨⟨h.orgs, hstored (hdef hsc)⟩, .create_account horg rfl ha⟩
  | update_account now account_id info =>
    have hm := sameAccounts_update_account now account_id info s.accts.mgr
    exact ⟨⟨h.orgs, stored_write h.accounts hm account_id _⟩, .same (.refl _) (.of_eq hm.1)⟩
  | change_password account_id old_password new_password =>
    have hm := sameAccounts_change_password hash_password account_id old_password new_password s.accts.mgr
    exact ⟨⟨h.orgs, stored_of_same h.accounts hm⟩, .same (.refl _) (.of_eq hm.1)⟩
  | delete_account account_id =>
    have hm := sameAccounts_delete_account account_id s.accts.mgr
    exact ⟨⟨h.orgs, stored_write h.accounts hm account_id _⟩, .same (.refl _) (.of_eq hm.1)⟩
  | login now last_login_at req =>
    have hm := sameAccounts_login hash_password now last_login_at req s.accts.mgr
    exact ⟨⟨h.orgs, stored_of_same h.accounts hm⟩, .same (.refl _) (.of_eq hm.1)⟩
  | restart devices =>
    obtain ⟨ho, hos⟩ := stored_restart_orgs h.orgs
    obtain ⟨ha, has⟩ := stored_restart_accounts h.accounts
    exact ⟨⟨hos, has⟩, .same ho ha⟩
  | _ => exact ⟨⟨h.orgs, h.accounts⟩, .same (.refl _) (.refl _)⟩

/-! ## A company with one account -/

def create_acme : Event := .create_org [] { tenant_id := "acme".toList, org_type := "company".toList }

def create_ana : Event :=
  .create_account [] { username := "ana".toList, role_code := "viewer".toList, org_id := 1 } "secret".toList

/-- The company and the account. -/
def acme : Directory := create_ana.apply id (create_acme.apply id {})

theorem run_acme : Run (Step id) {} [({}, create_acme), (create_acme.apply id {}, create_ana)] acme := by
  have hcompany : Step id {} create_acme (create_acme.apply id {}) := ⟨fun _ => by decide, rfl⟩
  have haccount : Step id (create_acme.apply id {}) create_ana acme := ⟨fun _ => by decide, rfl⟩
  exact (Run.nil.snoc hcompany).snoc haccount

end Directory

end DevSys
