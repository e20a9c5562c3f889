import DevSys.Common.Types
import DevSys.Lib.FirstMatch
/-!
# `OrgManager`

The organisations, in the order they were created, and the next id. The
database, the broker and the log are left out; the time stamp is an argument.
-/
open Cxx

namespace DevSys

structure OrgManager where
  orgs_ : List OrgInfo := []
  next_id_ : Int32 := 1
  deriving DecidableEq, Repr

namespace OrgManager

/-! ## Queries -/

def get_org (org_id : Int32) (s : OrgManager) : Option OrgInfo := s.orgs_.find? (·.org_id = org_id)

def get_org_by_tenant (tenant_id : Str) (s : OrgManager) : Option OrgInfo := s.orgs_.find? (·.tenant_id = tenant_id)

/-- A negative `parent_id` and an empty `org_type` do not filter. -/
def list_orgs (parent_id : Int32) (org_type : Str) (active_only : Bool) (s : OrgManager) : List OrgInfo :=
  s.orgs_.filter fun o =>
    ¬(active_only ∧ ¬o.is_active) ∧ ¬(parent_id ≥ 0 ∧ o.parent_id ≠ parent_id) ∧
      ¬(org_type ≠ [] ∧ o.org_type ≠ org_type)

/-- The organisations whose path starts with the path of `org_id` and a slash. -/
def get_descendants (org_id : Int32) (s : OrgManager) : List OrgInfo :=
  match s.get_org org_id with
  | none => []
  | some self =>
    let pre := self.path ++ ['/']
    s.orgs_.filter fun o => find pre o.path = some 0

def get_org_scope (org_id : Int32) (s : OrgManager) : List Int32 :=
  org_id :: (s.get_descendants org_id).map (·.org_id)

def org_exists (org_id : Int32) (s : OrgManager) : Bool := (s.get_org org_id).isSome

def tenant_exists (tenant_id : Str) (s : OrgManager) : Bool := s.orgs_.any (·.tenant_id = tenant_id)

/-- Inactive children do not count. -/
def has_children (org_id : Int32) (s : OrgManager) : Bool := s.orgs_.any fun o => o.parent_id = org_id ∧ o.is_active

/-! ## Operations -/

/-- Why the parent of a new organisation is refused. -/
def checkParent (info : OrgInfo) (s : OrgManager) : Option StatusCode :=
  if info.parent_id = 0 then none
  else match s.get_org info.parent_id with
    | none => some .ORG_NOT_FOUND
    | some parent =>
      if ¬parent.is_active then some .ORG_NOT_FOUND
      else if parent.org_type = "company".toList ∧ info.org_type ≠ "department".toList then some .ERROR
      else none

/-- The new organisation with its id, level, path and time stamps. -/
def assigned (now : Str) (info : OrgInfo) (s : OrgManager) : OrgInfo :=
  let org_id := s.next_id_
  let info := { info with org_id := org_id, created_at := now, updated_at := now }
  if info.parent_id = 0 then { info with level := 0, path := '/' :: to_string org_id.toInt }
  else match s.get_org info.parent_id with
    | none => info
    | some parent => { info with level := parent.level + 1, path := parent.path ++ '/' :: to_string org_id.toInt }

/-- `children_count++` on the first organisation with this id. -/
def countChild (parent_id : Int32) (orgs : List OrgInfo) : List OrgInfo :=
  match orgs.findIdx? (·.org_id = parent_id) with
  | none => orgs
  | some i => orgs.modify i fun o => { o with children_count := o.children_count + 1 }

/-- Also returns the caller's record, which a creation fills in. -/
def create_org (now : Str) (info : OrgInfo) (s : OrgManager) : StatusCode × OrgInfo × OrgManager :=
  match s.checkParent info with
  | some sc => (sc, info, s)
  | none =>
    if s.tenant_exists info.tenant_id then (.ORG_DUPLICATE_TENANT, info, s)
    else
      let info := s.assigned now info
      let orgs := s.orgs_ ++ [info]
      let orgs := if info.parent_id ≠ 0 then countChild info.parent_id orgs else orgs
      (.OK, info, { orgs_ := orgs, next_id_ := s.next_id_ + 1 })

/-- The fields `update_org` overwrites; an empty text keeps the old one. -/
def updated (now : Str) (info o : OrgInfo) : OrgInfo :=
  let keep (new old : Str) : Str := if new ≠ [] then new else old
  { o with
    org_name := keep info.org_name o.org_name
    contact_name := keep info.contact_name o.contact_name
    contact_phone := keep info.contact_phone o.contact_phone
    contact_email := keep info.contact_email o.contact_email
    address := keep info.address o.address
    is_active := info.is_active
    updated_at := now }

def update_org (now : Str) (org_id : Int32) (info : OrgInfo) (s : OrgManager) : StatusCode × OrgManager :=
  match s.orgs_.findIdx? (·.org_id = org_id) with
  | none => (.ORG_NOT_FOUND, s)
  | some i => (.OK, { s with orgs_ := s.orgs_.modify i (updated now info) })

def delete_org (org_id : Int32) (s : OrgManager) : StatusCode × OrgManager :=
  if ¬s.org_exists org_id then (.ORG_NOT_FOUND, s)
  else if s.has_children org_id then (.ORG_HAS_CHILDREN, s)
  else (.OK, { s with orgs_ := s.orgs_.eraseP (·.org_id = org_id) })

/-! ## What the operations keep -/

theorem checkParent_ne_ok (info : OrgInfo) (s : OrgManager) : s.checkParent info ≠ some .OK := by
  unfold checkParent
  by_cases h0 : info.parent_id = 0
  · rw [if_pos h0]
    simp
  · rw [if_neg h0]
    cases s.get_org info.parent_id with
    | none => simp
    | some parent =>
      dsimp only
      by_cases ha : ¬parent.is_active
      · rw [if_pos ha]
        simp
      · rw [if_neg ha]
        rcases ite_eq_or_eq (parent.org_type = "company".toList ∧ info.org_type ≠ "department".toList)
          (some StatusCode.ERROR) none with h | h <;> rw [h] <;> simp

/-- An accepted parent is present. -/
theorem exists_parent {info : OrgInfo} {s : OrgManager} (h : info.parent_id ≠ 0) (hp : s.checkParent info = none) :
    ∃ p, s.get_org info.parent_id = some p := by
  unfold checkParent at hp
  rw [if_neg h] at hp
  cases hg : s.get_org info.parent_id with
  | none => rw [hg] at hp; cases hp
  | some p => exact ⟨p, rfl⟩

/-- It is no organisation, or has one of the ids that were given out. -/
theorem parent_lt_next {info : OrgInfo} {s : OrgManager} (hpos : 0 < s.next_id_.toInt)
    (hids : ∀ o ∈ s.orgs_, 0 ≤ o.org_id.toInt ∧ o.org_id.toInt < s.next_id_.toInt)
    (hp : s.checkParent info = none) :
    0 ≤ info.parent_id.toInt ∧ info.parent_id.toInt < s.next_id_.toInt := by
  by_cases h0 : info.parent_id = 0
  · rw [h0]
    exact ⟨Int.le_refl 0, hpos⟩
  · obtain ⟨p, hget⟩ := exists_parent h0 hp
    have hpid : p.org_id = info.parent_id := by simpa using List.find?_some hget
    rw [← hpid]
    exact hids p (List.mem_of_find?_eq_some hget)

@[simp] theorem assigned_org_id (now : Str) (info : OrgInfo) (s : OrgManager) :
    (s.assigned now info).org_id = s.next_id_ := by
  unfold assigned
  dsimp only
  split
  · rfl
  · split <;> rfl

@[simp] theorem assigned_parent_id (now : Str) (info : OrgInfo) (s : OrgManager) :
    (s.assigned now info).parent_id = info.parent_id := by
  unfold assigned
  dsimp only
  split
  · rfl
  · split <;> rfl

@[simp] theorem assigned_children_count (now : Str) (info : OrgInfo) (s : OrgManager) :
    (s.assigned now info).children_count = info.children_count := by
  unfold assigned
  dsimp only
  split
  · rfl
  · split <;> rfl

@[simp] theorem assigned_tenant_id (now : Str) (info : OrgInfo) (s : OrgManager) :
    (s.assigned now info).tenant_id = info.tenant_id := by
  unfold assigned
  dsimp only
  split
  · rfl
  · split <;> rfl

section Keep
variable {β : Type} {g : OrgInfo → β}

/-- A creation either is refused and changes nothing, or appends the assigned record. -/
theorem create_org_cases (hg : ∀ (o : OrgInfo) n, g { o with children_count := n } = g o) (now : Str) (info : OrgInfo)
    (s : OrgManager) :
    ((s.create_org now info).1 ≠ .OK ∧ (s.create_org now info).2.2 = s) ∨
    ((s.create_org now info).1 = .OK ∧ s.checkParent info = none ∧ s.tenant_exists info.tenant_id = false ∧
      (s.create_org now info).2.1 = s.assigned now info ∧
      (s.create_org now info).2.2.next_id_ = s.next_id_ + 1 ∧
      (s.create_org now info).2.2.orgs_.map g = s.orgs_.map g ++ [g (s.assigned now info)]) := by
  unfold create_org
  cases hp : s.checkParent info with
  | some sc =>
    refine .inl ⟨?_, rfl⟩
    rintro rfl
    exact checkParent_ne_ok info s hp
  | none =>
    dsimp only
    by_cases ht : s.tenant_exists info.tenant_id = true
    · rw [if_pos ht]
      exact .inl ⟨StatusCode.noConfusion, rfl⟩
    · rw [if_neg ht]
      refine .inr ⟨rfl, rfl, by simpa using ht, rfl, rfl, ?_⟩
      dsimp only
      have happend : (s.orgs_ ++ [s.assigned now info]).map g = s.orgs_.map g ++ [g (s.assigned now info)] := by
        rw [List.map_append, List.map_singleton]
      split
      · unfold countChild
        split
        · exact happend
        · exact (FirstMatch.map_modify (fun o => hg o _) _ _).trans happend
      · exact happend

theorem update_org_map (hg : ∀ now info o, g (updated now info o) = g o) (now : Str) (org_id : Int32) (info : OrgInfo)
    (s : OrgManager) :
    (s.update_org now org_id info).2.orgs_.map g = s.orgs_.map g ∧
      (s.update_org now org_id info).2.next_id_ = s.next_id_ := by
  unfold update_org
  split
  · exact ⟨rfl, rfl⟩
  · exact ⟨FirstMatch.map_modify (fun o => hg now info o) _ _, rfl⟩

theorem create_org_ok_iff (now : Str) (info : OrgInfo) (s : OrgManager) :
    (s.create_org now info).1 = .OK ↔ s.checkParent info = none ∧ s.tenant_exists info.tenant_id = false := by
  have htenant : ∀ (o : OrgInfo) n, OrgInfo.tenant_id { o with children_count := n } = o.tenant_id := fun _ _ => rfl
  rcases create_org_cases htenant now info s with ⟨hne, -⟩ | ⟨hok, hp, ht, -⟩
  · refine iff_of_false hne ?_
    rintro ⟨hp, ht⟩
    apply hne
    rw [create_org, hp]
    dsimp only
    rw [if_neg (by simp [ht])]
  · exact iff_of_true hok ⟨hp, ht⟩

/-- A deletion succeeds exactly when neither of its two checks refuses it. -/
theorem delete_org_ok_iff (org_id : Int32) (s : OrgManager) :
    (s.delete_org org_id).1 = .OK ↔ s.org_exists org_id = true ∧ s.has_children org_id = false := by
  unfold delete_org
  by_cases he : s.org_exists org_id = true
  · rw [if_neg (not_not.2 he)]
    by_cases hc : s.has_children org_id = true
    · rw [if_pos hc]
      exact iff_of_false StatusCode.noConfusion fun h => by simp [hc] at h
    · rw [if_neg hc]
      exact iff_of_true rfl ⟨he, by simpa using hc⟩
  · rw [if_pos he]
    exact iff_of_false StatusCode.noConfusion fun h => he h.1

/-- A deletion either is refused and changes nothing, or erases the organisation. -/
theorem delete_org_cases (org_id : Int32) (s : OrgManager) :
    ((s.delete_org org_id).1 ≠ .OK ∧ (s.delete_org org_id).2 = s) ∨
    s.delete_org org_id = (.OK, { s with orgs_ := s.orgs_.eraseP (·.org_id = org_id) }) := by
  unfold delete_org
  split
  · exact .inl ⟨StatusCode.noConfusion, rfl⟩
  split
  · exact .inl ⟨StatusCode.noConfusion, rfl⟩
  · exact .inr rfl

end Keep

end OrgManager

end DevSys
