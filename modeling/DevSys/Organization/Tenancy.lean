import DevSys.Organization.Directory
/-!
# Which tenant an account belongs to

An account keeps the number of its organisation. After a deletion and a restart
the counter can give the number out again, to an organisation of another tenant.
-/
open Cxx Runs Numbered

namespace DevSys.Directory

/-- An account in an organisation in `s` is in none in `t`, or in one of the same tenant. -/
def Keeps (s t : Directory) : Prop :=
  ∀ a ∈ s.accts.mgr.accounts_, ∀ o, s.orgs.mgr.get_org a.org_id = some o →
    ∀ b ∈ t.accts.mgr.accounts_, b.account_id = a.account_id →
      ∀ o', t.orgs.mgr.get_org b.org_id = some o' → o'.tenant_id = o.tenant_id

/-- No account was in an organisation with this id, unless it was of this tenant. -/
def Unclaimed (org_id : Int32) (tenant_id : Str) (s : Directory) : Prop :=
  ∀ a ∈ s.accts.mgr.accounts_, a.org_id = org_id →
    ∀ o, s.orgs.mgr.get_org org_id = some o → tenant_id = o.tenant_id

/-- A new organisation gets an id that no account was in before under another tenant. -/
def Numbers (past : List (Directory × Event)) (s : Directory) : Event → Prop
  | .create_org now info =>
    (s.orgs.create_org now info).1 = .OK → ∀ p ∈ past, Unclaimed s.orgs.mgr.next_id_ info.tenant_id p.1
  | _ => True

/-! ## Links -/

/-- An organisation is found by its id. -/
theorem Saved.get_org_iff {s : Directory} (h : Saved s) {org_id : Int32} {o : OrgInfo} :
    s.orgs.mgr.get_org org_id = some o ↔ o ∈ s.orgs.mgr.orgs_ ∧ o.org_id = org_id :=
  Rows.find?_eq_some_iff h.orgs.nodup

theorem accountLink_mem {s : Directory} {a : AccountInfo} (h : a ∈ s.accts.mgr.accounts_) :
    (a.account_id, a.org_id) ∈ s.accountLinks := List.mem_map_of_mem h

/-- An account has one organisation. -/
theorem Saved.org_unique {s : Directory} (h : Saved s) {k x y : Int32} (hx : (k, x) ∈ s.accountLinks)
    (hy : (k, y) ∈ s.accountLinks) : x = y := by
  obtain ⟨a, ha, hax⟩ := List.mem_map.1 hx
  obtain ⟨b, hb, hby⟩ := List.mem_map.1 hy
  obtain ⟨rfl, rfl⟩ := Prod.mk.inj hax
  obtain ⟨hk, rfl⟩ := Prod.mk.inj hby
  rw [List.inj_on_of_nodup_map h.accounts.nodup ha hb hk.symm]

/-- No step takes an account away or moves it. -/
theorem Change.accountLinks_subset {s s' : Directory} {e : Event} (h : Change s e s') :
    s.accountLinks ⊆ s'.accountLinks := by
  cases h with
  | same _ ha => exact ha.symm.subset
  | create_org _ _ _ ha => rw [ha]; exact List.Subset.refl _
  | delete_org _ _ ha => rw [ha]; exact List.Subset.refl _
  | create_account _ _ ha => rw [ha]; exact List.subset_append_left _ _

/-- An organisation after a step was there before, or was just created. -/
theorem Change.org_cases {s s' : Directory} {e : Event} (h : Change s e s') (hs : Saved s) (hs' : Saved s')
    {x : Int32} {o' : OrgInfo} (ho' : s'.orgs.mgr.get_org x = some o') :
    (∃ o, s.orgs.mgr.get_org x = some o ∧ o'.tenant_id = o.tenant_id) ∨
    ∃ now info, e = .create_org now info ∧ (s.orgs.create_org now info).1 = .OK ∧ x = s.orgs.mgr.next_id_ ∧
      o'.tenant_id = info.tenant_id := by
  obtain ⟨hmem, rfl⟩ := hs'.get_org_iff.1 ho'
  have hlink : orgLink o' ∈ s'.orgLinks := List.mem_map_of_mem hmem
  have hold (hl : orgLink o' ∈ s.orgLinks) :
      ∃ o, s.orgs.mgr.get_org o'.org_id = some o ∧ o'.tenant_id = o.tenant_id := by
    obtain ⟨o, ho, heq⟩ := List.mem_map.1 hl
    simp only [orgLink, Prod.mk.injEq] at heq
    exact ⟨o, hs.get_org_iff.2 ⟨ho, heq.1⟩, heq.2.2.symm⟩
  cases h with
  | same ho _ => exact .inl (hold (ho.subset hlink))
  | @create_org now info _ _ hsc ho _ =>
    rw [ho] at hlink
    rcases List.mem_append.1 hlink with hl | hl
    · exact .inl (hold hl)
    · have heq := List.mem_singleton.1 hl
      simp only [orgLink, Prod.mk.injEq] at heq
      exact .inr ⟨now, info, rfl, hsc, heq.1, heq.2.2⟩
  | delete_org _ ho _ =>
    rw [ho] at hlink
    exact .inl (hold (List.mem_of_mem_filter hlink))
  | create_account _ ho _ =>
    rw [ho] at hlink
    exact .inl (hold hlink)

/-- A creation that succeeds can be looked up. -/
theorem get_org_created {hash_password : Str → Str} {s s' : Directory} {now : Str} {info : OrgInfo} (hs : Saved s)
    (hs' : Saved s') (hstep : Step hash_password s (.create_org now info) s')
    (hsc : (s.orgs.create_org now info).1 = .OK) :
    ∃ o, s'.orgs.mgr.get_org s.orgs.mgr.next_id_ = some o ∧ o.tenant_id = info.tenant_id := by
  obtain ⟨-, rfl⟩ := hstep
  rcases stored_create_org hs.orgs now info with ⟨hne, -⟩ | ⟨-, -, ho, -⟩
  · exact absurd hsc hne
  · have hlink : (s.orgs.mgr.next_id_, info.parent_id, info.tenant_id) ∈
        (s.orgs.create_org now info).2.2.mgr.orgs_.map orgLink := by
      rw [ho]
      exact List.mem_append_right _ (List.mem_singleton_self _)
    obtain ⟨o, hmem, heq⟩ := List.mem_map.1 hlink
    simp only [orgLink, Prod.mk.injEq] at heq
    exact ⟨o, hs'.get_org_iff.2 ⟨hmem, heq.1⟩, heq.2.2⟩

/-! ## Runs -/

section Runs
variable {hash_password : Str → Str} {u s s' : Directory}

theorem keeps_self (hs : Saved s) : Keeps s s := by
  intro a ha o ho b hb hid o' ho'
  rw [hs.org_unique (accountLink_mem ha) (hid ▸ accountLink_mem hb), ho'] at ho
  cases ho
  rfl

/-- An account stays, in the same organisation. -/
theorem exists_account (hu : u.accountLinks ⊆ s.accountLinks) {a : AccountInfo} (ha : a ∈ u.accts.mgr.accounts_) :
    ∃ b ∈ s.accts.mgr.accounts_, b.account_id = a.account_id ∧ b.org_id = a.org_id := by
  obtain ⟨b, hb, hlink⟩ := List.mem_map.1 (hu (accountLink_mem ha))
  exact ⟨b, hb, Prod.mk.inj hlink⟩

/-- Tenants are kept from `u` on, unless the step creates an organisation with
an id that an account was in under another tenant. -/
theorem keeps_step {e : Event} (hu : u.accountLinks ⊆ s.accountLinks) (hs : Saved s)
    (hstep : Step hash_password s e s') (hkeeps : Keeps u s) :
    Keeps u s' ↔ ∀ now info, e = .create_org now info → (s.orgs.create_org now info).1 = .OK →
      Unclaimed s.orgs.mgr.next_id_ info.tenant_id u := by
  obtain ⟨hs', hc⟩ := change_of_step hash_password hs hstep
  have hu' := List.Subset.trans hu hc.accountLinks_subset
  constructor
  · rintro h now info rfl hsc a ha horg o ho
    obtain ⟨b, hb, hid, hborg⟩ := exists_account hu' ha
    obtain ⟨o', ho', ht⟩ := get_org_created hs hs' hstep hsc
    rw [← ht]
    rw [← horg] at ho ho'
    exact h a ha o ho b hb hid o' (hborg ▸ ho')
  · intro hnew a ha o ho b hb hid o' ho'
    have horg : a.org_id = b.org_id :=
      hs'.org_unique (hid ▸ hu' (accountLink_mem ha)) (accountLink_mem hb)
    rw [← horg] at ho'
    rcases hc.org_cases hs hs' ho' with ⟨o₁, ho₁, ht⟩ | ⟨now, info, he, hsc, hx, ht⟩
    · obtain ⟨c, hcm, hcid, hcorg⟩ := exists_account hu ha
      rw [← hcorg] at ho₁
      exact ht.trans (hkeeps a ha o ho c hcm hcid o₁ ho₁)
    · exact ht.trans (hnew now info he hsc a ha hx o (hx ▸ ho))

/-- Throughout a run no account is taken away or moved. -/
theorem accountLinks_run {tr : List (Directory × Event)} (h : Run (Step hash_password) {} tr s) :
    Saved s ∧ ∀ u ∈ moments tr s, u.accountLinks ⊆ s.accountLinks := by
  induction h with
  | nil => exact ⟨saved_empty, by simp [moments]⟩
  | snoc _ hstep ih =>
    obtain ⟨hs, hall⟩ := ih
    obtain ⟨hs', hc⟩ := change_of_step hash_password hs hstep
    refine ⟨hs', ?_⟩
    rw [moments_snoc, List.forall_mem_append, List.forall_mem_singleton]
    exact ⟨fun u hu => List.Subset.trans (hall u hu) hc.accountLinks_subset, List.Subset.refl _⟩

/-- From an empty system on, no account ever slides into another tenant's
organisation exactly when no organisation is created with an id that an account
was in under another tenant. -/
theorem tenants_kept_iff {tr : List (Directory × Event)} (h : Run (Step hash_password) {} tr s) :
    (moments tr s).Pairwise Keeps ↔ ∀ pre u e post, tr = pre ++ (u, e) :: post → Numbers pre u e := by
  refine h.pairwise_iff Keeps Numbers ?_
  intro tr s e s' hrun hstep hpair
  obtain ⟨hs, hlinks⟩ := accountLinks_run hrun
  rw [moments, List.pairwise_append] at hpair
  have hstep_iff (u : Directory) (hu : u ∈ moments tr s) (hkeeps : Keeps u s) :=
    keeps_step (hlinks u hu) hs hstep hkeeps
  -- in the state before the step the new id is free
  have hself : Keeps s s' := by
    refine (hstep_iff s (by simp [moments]) (keeps_self hs)).2 ?_
    intro now info _ _ a _ _ o ho
    obtain ⟨hmem, hid⟩ := hs.get_org_iff.1 ho
    exact absurd (List.mem_map.2 ⟨o, hmem, hid⟩) hs.orgs.fresh
  have hpast : (∀ u ∈ moments tr s, Keeps u s') ↔ ∀ p ∈ tr, Keeps p.1 s' := by
    rw [moments, List.forall_mem_append, List.forall_mem_map, List.forall_mem_singleton, and_iff_left hself]
  have hmem {p : Directory × Event} (hp : p ∈ tr) : p.1 ∈ moments tr s :=
    List.mem_append_left _ (List.mem_map_of_mem hp)
  have hbefore {p : Directory × Event} (hp : p ∈ tr) : Keeps p.1 s :=
    hpair.2.2 p.1 (List.mem_map_of_mem hp) s (List.mem_singleton_self s)
  rw [hpast]
  constructor
  · intro hall
    cases e with
    | create_org now info =>
      intro hsc p hp
      exact (hstep_iff p.1 (hmem hp) (hbefore hp)).1 (hall p hp) now info rfl hsc
    | _ => trivial
  · intro hok p hp
    refine (hstep_iff p.1 (hmem hp) (hbefore hp)).2 ?_
    rintro now info rfl hsc
    exact hok hsc p hp

end Runs

/-! ## One account -/

/-- Nothing is reused without a deletion. -/
theorem tenants_kept_acme :
    (moments [({}, create_acme), (create_acme.apply id {}, create_ana)] acme).Pairwise Keeps := by
  refine (tenants_kept_iff run_acme).2 ?_
  intro pre u e post heq
  match pre with
  | [] =>
    cases heq
    intro _ p hp
    cases hp
  | [p] =>
    cases heq
    trivial
  | p :: q :: pre => simp at heq

/-- Acme is deleted, and after a restart globex gets its number: the account is
now in globex. -/
theorem tenants_kept_fails : ∃ tr s, Run (Step id) {} tr s ∧ ¬ (moments tr s).Pairwise Keeps := by
  let create_globex : Event := .create_org [] { tenant_id := "globex".toList, org_type := "company".toList }
  let s₁ := Event.apply id (.delete_org 1) acme
  let s₂ := Event.apply id (.restart []) s₁
  have hempty : s₂.orgs = {} := by
    show OrgStore.mk (OrgManager.load_from_database (Database.list_orgs_db []) {}) [] = {}
    rw [Database.list_orgs_db, List.mergeSort_nil]
    rfl
  have hsc : (s₂.orgs.create_org [] { tenant_id := "globex".toList, org_type := "company".toList }).1 = .OK := by
    rw [hempty]
    rfl
  have hdelete : Step id acme (.delete_org 1) s₁ := ⟨trivial, rfl⟩
  have hrestart : Step id s₁ (.restart []) s₂ := ⟨trivial, rfl⟩
  have hcreate : Step id s₂ create_globex (create_globex.apply id s₂) := by
    refine ⟨fun _ => ?_, rfl⟩
    rw [hempty]
    decide
  have hrun := (run_acme.snoc hdelete).snoc hrestart
  refine ⟨_, _, hrun.snoc hcreate, ?_⟩
  intro hpair
  rw [moments_snoc, List.pairwise_append] at hpair
  have hkeeps := hpair.2.2 acme (by simp [moments]) _ (List.mem_singleton_self _)
  -- the account is still there, and so is an organisation with its number
  obtain ⟨hsaved, hlinks⟩ := accountLinks_run (hrun.snoc hcreate)
  obtain ⟨o', ho', ht⟩ := get_org_created (accountLinks_run hrun).1 hsaved hcreate hsc
  have hana : ∃ a ∈ acme.accts.mgr.accounts_, ∃ o, a.org_id = 1 ∧ acme.orgs.mgr.get_org a.org_id = some o ∧
      o.tenant_id = "acme".toList := by
    refine ⟨_, List.mem_cons_self, _, rfl, rfl, rfl⟩
  obtain ⟨a, ha, o, horg, ho, hacme⟩ := hana
  obtain ⟨b, hb, hid, hborg⟩ := exists_account (hlinks acme (by simp [moments])) ha
  rw [hempty, show ({} : OrgStore).mgr.next_id_ = 1 from rfl, ← horg, ← hborg] at ho'
  have hsame := hkeeps a ha o ho b hb hid o' ho'
  rw [ht, hacme] at hsame
  revert hsame
  decide

end DevSys.Directory
