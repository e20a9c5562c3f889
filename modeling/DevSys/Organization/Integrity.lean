import DevSys.Organization.Directory
/-!
# What hangs on a deleted organisation

`delete_org` refuses to delete an organisation with an active child. Inactive
children, accounts and devices do not keep it.
-/
open Cxx Runs Numbered

namespace DevSys.Directory

/-- No child, no account, and no device of its tenant. -/
structure Unused (s : Directory) (org_id : Int32) : Prop where
  children : ∀ o ∈ s.orgs.mgr.orgs_, o.parent_id ≠ org_id
  accounts : ∀ a ∈ s.accts.mgr.accounts_, a.org_id ≠ org_id
  devices : ∀ o, s.orgs.mgr.get_org org_id = some o → s.device_mgr.list_devices o.tenant_id = []

/-- Only an unused organisation is deleted. -/
def Respects (s : Directory) : Event → Prop
  | .delete_org org_id => (s.orgs.delete_org org_id).1 = .OK → Unused s org_id
  | _ => True

/-- The parents of all organisations but the roots exist, and those of the accounts. -/
structure Linked (s : Directory) : Prop where
  parents : ∀ o ∈ s.orgs.mgr.orgs_, o.parent_id ≠ 0 → s.orgs.mgr.org_exists o.parent_id = true
  accounts : ∀ a ∈ s.accts.mgr.accounts_, s.orgs.mgr.org_exists a.org_id = true

/-- What `delete_org` does not look at: an inactive child, an account, a device. -/
inductive Overlooked (s : Directory) (org_id : Int32) : Prop where
  | child {o : OrgInfo} (ho : o ∈ s.orgs.mgr.orgs_) (hp : o.parent_id = org_id) (hi : o.is_active = false)
  | account {a : AccountInfo} (ha : a ∈ s.accts.mgr.accounts_) (ho : a.org_id = org_id)
  | device {o : OrgInfo} (ho : s.orgs.mgr.get_org org_id = some o) (hd : s.device_mgr.list_devices o.tenant_id ≠ [])

/-- A deletion that is not refused finds nothing that it overlooks. -/
def Spared (s : Directory) : Event → Prop
  | .delete_org org_id =>
    s.orgs.mgr.org_exists org_id = true → s.orgs.mgr.has_children org_id = false → ¬ Overlooked s org_id
  | _ => True

/-! ## Links -/

theorem org_exists_iff (s : Directory) (org_id : Int32) :
    s.orgs.mgr.org_exists org_id = true ↔ org_id ∈ s.orgLinks.map (·.1) := by
  rw [OrgManager.org_exists, OrgManager.get_org, List.find?_isSome, orgLinks, List.map_map, List.mem_map]
  simp [orgLink]

/-- Only the links matter. -/
theorem linked_iff (s : Directory) :
    Linked s ↔ (∀ l ∈ s.orgLinks, l.2.1 ≠ 0 → l.2.1 ∈ s.orgLinks.map (·.1)) ∧
      ∀ l ∈ s.accountLinks, l.2 ∈ s.orgLinks.map (·.1) := by
  have hlinks : Linked s ↔ (∀ o ∈ s.orgs.mgr.orgs_, o.parent_id ≠ 0 → s.orgs.mgr.org_exists o.parent_id = true) ∧
      ∀ a ∈ s.accts.mgr.accounts_, s.orgs.mgr.org_exists a.org_id = true :=
    ⟨fun h => ⟨h.parents, h.accounts⟩, fun h => ⟨h.1, h.2⟩⟩
  rw [hlinks]
  simp only [org_exists_iff]
  unfold accountLinks
  rw [List.forall_mem_map]
  refine and_congr_left fun _ => ?_
  conv_rhs => rw [orgLinks, List.forall_mem_map]
  rfl

theorem unused_links {s : Directory} {org_id : Int32} (h : Unused s org_id) :
    (∀ l ∈ s.orgLinks, l.2.1 ≠ org_id) ∧ ∀ l ∈ s.accountLinks, l.2 ≠ org_id := by
  constructor
  · intro l hl
    obtain ⟨o, ho, rfl⟩ := List.mem_map.1 hl
    exact h.children o ho
  · intro l hl
    obtain ⟨a, ha, rfl⟩ := List.mem_map.1 hl
    exact h.accounts a ha

/-- Without an active child, an organisation is in use exactly when something is overlooked. -/
theorem unused_iff {s : Directory} {org_id : Int32} (h : s.orgs.mgr.has_children org_id = false) :
    Unused s org_id ↔ ¬ Overlooked s org_id := by
  constructor
  · rintro hu (⟨ho, hp, -⟩ | ⟨ha, ho⟩ | ⟨ho, hd⟩)
    · exact hu.children _ ho hp
    · exact hu.accounts _ ha ho
    · exact hd (hu.devices _ ho)
  · intro hn
    refine ⟨?_, ?_, ?_⟩
    · intro o ho hp
      have hactive := List.any_eq_false.1 h o ho
      refine hn (.child ho hp ?_)
      simpa [hp] using hactive
    · intro a ha ho
      exact hn (.account ha ho)
    · intro o ho
      by_contra hd
      exact hn (.device ho hd)

theorem respects_iff (s : Directory) (e : Event) : Respects s e ↔ Spared s e := by
  cases e with
  | delete_org org_id =>
    unfold Respects Spared
    have hok : (s.orgs.delete_org org_id).1 = .OK ↔ _ := OrgManager.delete_org_ok_iff org_id s.orgs.mgr
    dsimp only
    rw [hok, and_imp]
    exact imp_congr_right fun _ => imp_congr_right fun hc => unused_iff hc
  | _ => exact Iff.rfl

/-! ## Runs -/

section Runs
variable {hash_password : Str → Str}

/-- A spared deletion leaves no reference behind, and no other step can. -/
theorem linked_step {s s' : Directory} {e : Event} (hl : Linked s) (hspared : Spared s e) (hc : Change s e s') :
    Linked s' := by
  rw [linked_iff] at hl ⊢
  obtain ⟨hparents, haccounts⟩ := hl
  cases hc with
  | same ho ha =>
    have hids := ho.map (·.1)
    constructor
    · intro l hl hne
      exact hids.mem_iff.2 (hparents l (ho.mem_iff.1 hl) hne)
    · intro l hl
      exact hids.mem_iff.2 (haccounts l (ha.mem_iff.1 hl))
  | create_org hp hsc ho ha =>
    rw [ho, ha, List.map_append]
    constructor
    · intro l hl hne
      refine List.mem_append_left _ ?_
      rcases List.mem_append.1 hl with hl | hl
      · exact hparents l hl hne
      · rw [List.mem_singleton.1 hl] at hne ⊢
        exact (org_exists_iff s _).1 (hp hne)
    · intro l hl
      exact List.mem_append_left _ (haccounts l hl)
  | @delete_org org_id s' hsc ho ha =>
    have hunused := (respects_iff s (.delete_org org_id)).2 hspared hsc
    obtain ⟨hchildren, hmembers⟩ := unused_links hunused
    -- only the id of the deleted organisation goes
    have hkept {x : Int32} (hx : x ∈ s.orgLinks.map (·.1)) (hne : x ≠ org_id) : x ∈ s'.orgLinks.map (·.1) := by
      obtain ⟨l, hl, rfl⟩ := List.mem_map.1 hx
      rw [ho]
      exact List.mem_map_of_mem (List.mem_filter.2 ⟨hl, by simpa using hne⟩)
    constructor
    · intro l hl hne
      rw [ho] at hl
      have hl := List.mem_of_mem_filter hl
      exact hkept (hparents l hl hne) (hchildren l hl)
    · intro l hl
      rw [ha] at hl
      exact hkept (haccounts l hl) (hmembers l hl)
  | create_account horg ho ha =>
    rw [ho, ha]
    refine ⟨hparents, ?_⟩
    intro l hl
    rcases List.mem_append.1 hl with hl | hl
    · exact haccounts l hl
    · rw [List.mem_singleton.1 hl]
      exact (org_exists_iff s _).1 horg

/-- From an empty system on, only unused organisations are deleted and no
reference ever dangles, exactly when no deletion overlooks anything. -/
theorem references_hold_iff {tr : List (Directory × Event)} {s : Directory} (h : Run (Step hash_password) {} tr s) :
    (∀ p ∈ tr, Respects p.1 p.2) ∧ (∀ p ∈ tr, Linked p.1) ∧ Linked s ↔ ∀ p ∈ tr, Spared p.1 p.2 := by
  simp only [respects_iff]
  refine and_iff_left_of_imp fun hspared => ?_
  have hinit : Saved {} ∧ Linked {} := ⟨saved_empty, by simp, by simp⟩
  have hall := h.inv_of_ok (fun s => Saved s ∧ Linked s) Spared hinit ?_ hspared
  · exact ⟨fun p hp => (hall.1 p hp).2, hall.2.2⟩
  · rintro s e s' ⟨hsaved, hl⟩ hok hstep
    obtain ⟨hsaved', hc⟩ := change_of_step hash_password hsaved hstep
    exact ⟨hsaved', linked_step hl hok hc⟩

end Runs

/-- Nothing dangles while nothing is deleted. -/
theorem references_hold_acme : Linked acme := by
  refine ((references_hold_iff run_acme).2 ?_).2.2
  intro p hp
  rcases List.mem_cons.1 hp with rfl | hp
  · trivial
  · rw [List.mem_singleton.1 hp]
    trivial

/-- The company is deleted, and the account still belongs to it. -/
theorem references_hold_fails : ∃ tr s, Run (Step id) {} tr s ∧ ¬ Linked s ∧ ¬ ∀ p ∈ tr, Respects p.1 p.2 := by
  let s := Event.apply id (.delete_org 1) acme
  have hdelete : Step id acme (.delete_org 1) s := ⟨trivial, rfl⟩
  refine ⟨_, s, run_acme.snoc hdelete, ?_, ?_⟩
  · intro hl
    have hdangling : ∃ a ∈ s.accts.mgr.accounts_, s.orgs.mgr.org_exists a.org_id = false := by decide
    obtain ⟨a, ha, hnone⟩ := hdangling
    rw [hl.accounts a ha] at hnone
    cases hnone
  · intro hrespects
    have hunused := hrespects (acme, .delete_org 1) (List.mem_append_right _ (List.mem_singleton_self _)) (by decide)
    have hused : ∃ a ∈ acme.accts.mgr.accounts_, a.org_id = 1 := by decide
    obtain ⟨a, ha, horg⟩ := hused
    exact hunused.accounts a ha horg

end DevSys.Directory
