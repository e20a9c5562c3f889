import DevSys.Lib.Runs
import DevSys.Lib.Trail
import DevSys.Organization.OrgManager
/-!
# Tenant scopes

The path of an organisation prints the ids from its root down to it, as they
were when it and its ancestors were created. No operation changes a path, so
the prefix test of `get_descendants` finds exactly the organisations below,
also after ancestors in between have been deleted.
-/
open Cxx Runs Forest

namespace DevSys.OrgManager

/-! ## Runs and what they created -/

inductive Event where
  | create (now : Str) (info : OrgInfo)
  | update (now : Str) (org_id : Int32) (info : OrgInfo)
  | delete (org_id : Int32)

def Event.apply : Event → OrgManager → OrgManager
  | .create now info, s => (s.create_org now info).2.2
  | .update now org_id info, s => (s.update_org now org_id info).2
  | .delete org_id, s => (s.delete_org org_id).2

def Step (s : OrgManager) (e : Event) (s' : OrgManager) : Prop := s' = e.apply s

/-- The organisation a call created. -/
def created (s : OrgManager) : Event → Option OrgInfo
  | .create now info => if (s.create_org now info).1 = .OK then some (s.create_org now info).2.1 else none
  | _ => none

/-- The organisations a run created, as they were then. -/
def creations (tr : List (OrgManager × Event)) : List OrgInfo := tr.filterMap fun p => created p.1 p.2

theorem creations_snoc (tr : List (OrgManager × Event)) (s : OrgManager) (e : Event) :
    creations (tr ++ [(s, e)]) = creations tr ++ (created s e).toList := by
  rw [creations, List.filterMap_append]
  cases hc : created s e <;> simp [creations, hc]

/-- The parent recorded when the organisation with this id was created. -/
def recorded (log : List OrgInfo) (org_id : Int32) : Option Int32 :=
  match log.find? (·.org_id = org_id) with
  | none => none
  | some o => if o.parent_id = 0 then none else some o.parent_id

/-- An id as a path prints it. -/
def idText (org_id : Int32) : Str := to_string org_id.toInt

theorem slash_not_mem_idText (org_id : Int32) : '/' ∉ idText org_id :=
  not_mem_to_string (by decide) (by decide)

theorem idText_injective : Function.Injective idText := by
  intro a b h
  exact Int32.toInt_inj.1 (to_string_injective h)

/-- What no operation changes about an organisation. -/
def fixed (o : OrgInfo) : Int32 × Int32 × Str := (o.org_id, o.parent_id, o.path)

/-- Every path is the printed trail of its organisation in the recorded forest. -/
structure Inv (s : OrgManager) (log : List OrgInfo) : Prop where
  next : s.next_id_ = Int32.ofNat (log.length + 1)
  nodup : (log.map (·.org_id)).Nodup
  bound : ∀ o ∈ log, o.org_id.toInt ≤ log.length
  present : (s.orgs_.map fixed).Sublist (log.map fixed)
  trails : ∀ o ∈ log, ∃ l, Trail (recorded log) o.org_id l ∧ (∀ x ∈ l, x ∈ log.map (·.org_id)) ∧
    o.path = render '/' idText l

/-! ## What the operations keep -/

theorem delete_org_fixed (org_id : Int32) (s : OrgManager) :
    ((s.delete_org org_id).2.orgs_.map fixed).Sublist (s.orgs_.map fixed) ∧
      (s.delete_org org_id).2.next_id_ = s.next_id_ := by
  rcases delete_org_cases org_id s with ⟨-, hs⟩ | hs
  · rw [hs]
    exact ⟨List.Sublist.refl _, rfl⟩
  · rw [hs]
    exact ⟨List.eraseP_sublist.map fixed, rfl⟩

theorem assigned_path_root (now : Str) {info : OrgInfo} (s : OrgManager) (h : info.parent_id = 0) :
    (s.assigned now info).path = render '/' idText [s.next_id_] := by
  simp [assigned, h, idText]

/-- An accepted parent is present, and its path is extended. -/
theorem assigned_path_child (now : Str) {info : OrgInfo} {s : OrgManager} (h : info.parent_id ≠ 0)
    (hp : s.checkParent info = none) :
    ∃ p ∈ s.orgs_, p.org_id = info.parent_id ∧
      (s.assigned now info).path = p.path ++ render '/' idText [s.next_id_] := by
  obtain ⟨p, hg⟩ := exists_parent h hp
  have hid := List.find?_some hg
  refine ⟨p, List.mem_of_find?_eq_some hg, by simpa using hid, ?_⟩
  simp [assigned, h, hg, idText]

/-! ## The recorded forest grows -/

section Growth
variable {log : List OrgInfo} {o : OrgInfo}

theorem recorded_old {x : Int32} (hx : x ∈ log.map (·.org_id)) : recorded (log ++ [o]) x = recorded log x := by
  obtain ⟨o', ho', rfl⟩ := List.mem_map.1 hx
  unfold recorded
  rw [List.find?_append]
  cases hf : log.find? (·.org_id = o'.org_id) with
  | none =>
    have := List.find?_eq_none.1 hf o' ho'
    simp at this
  | some _ => rfl

theorem recorded_new (hfresh : o.org_id ∉ log.map (·.org_id)) :
    recorded (log ++ [o]) o.org_id = if o.parent_id = 0 then none else some o.parent_id := by
  unfold recorded
  have hf : log.find? (·.org_id = o.org_id) = none := by
    rw [List.find?_eq_none]
    intro o' ho' he
    exact hfresh (List.mem_map.2 ⟨o', ho', by simpa using he⟩)
  rw [List.find?_append, hf]
  simp

theorem trail_old {x : Int32} {l : List Int32} (h : Trail (recorded log) x l) (hl : ∀ y ∈ l, y ∈ log.map (·.org_id)) :
    Trail (recorded (log ++ [o])) x l :=
  h.congr fun y hy => recorded_old (hl y hy)

end Growth

theorem inv_empty : Inv {} [] where
  next := rfl
  nodup := List.nodup_nil
  bound := by simp
  present := List.Sublist.slnil
  trails := by simp

/-- With the same ids, parents and paths, or fewer, the invariant stays. -/
theorem Inv.of_sublist {s s' : OrgManager} {log : List OrgInfo} (hi : Inv s log)
    (h : (s'.orgs_.map fixed).Sublist (s.orgs_.map fixed)) (hn : s'.next_id_ = s.next_id_) : Inv s' log :=
  { hi with next := hn.trans hi.next, present := h.trans hi.present }

/-- A creation extends the recorded forest by the new organisation. -/
theorem Inv.create {s s' : OrgManager} {log : List OrgInfo} (hi : Inv s log) (hlen : log.length + 1 < 2 ^ 31)
    (now : Str) {info : OrgInfo} (hp : s.checkParent info = none) (hn : s'.next_id_ = s.next_id_ + 1)
    (ho : s'.orgs_.map fixed = s.orgs_.map fixed ++ [fixed (s.assigned now info)]) :
    Inv s' (log ++ [s.assigned now info]) := by
  have hid : s.next_id_.toInt = log.length + 1 := by
    rw [hi.next, Int32.toInt_ofNat_of_lt hlen]
    rfl
  -- ids are given out in increasing order, without wrapping
  have hfresh : (s.assigned now info).org_id ∉ log.map (·.org_id) := by
    rw [assigned_org_id]
    intro hmem
    obtain ⟨o, ho, he⟩ := List.mem_map.1 hmem
    have := hi.bound o ho
    rw [he, hid] at this
    omega
  refine ⟨?_, ?_, ?_, ?_, ?_⟩
  · rw [hn, hi.next, List.length_append, List.length_singleton, Int32.ofNat_add (log.length + 1) 1]
    rfl
  · rw [List.map_append, List.nodup_append]
    refine ⟨hi.nodup, by simp, ?_⟩
    intro x hx y hy
    rw [List.map_singleton, List.mem_singleton] at hy
    rw [hy]
    rintro rfl
    exact hfresh hx
  · intro o ho
    rw [List.length_append, List.length_singleton]
    rcases List.mem_append.1 ho with ho | ho
    · have := hi.bound o ho
      omega
    · rw [List.mem_singleton.1 ho, assigned_org_id, hid]
      simp
  · rw [ho, List.map_append]
    exact hi.present.append (List.Sublist.refl _)
  · intro o ho
    rcases List.mem_append.1 ho with ho | ho
    · obtain ⟨l, hl, hmem, hpath⟩ := hi.trails o ho
      refine ⟨l, trail_old hl hmem, ?_, hpath⟩
      intro x hx
      rw [List.map_append]
      exact List.mem_append_left _ (hmem x hx)
    · rw [List.mem_singleton.1 ho]
      have hrec := recorded_new hfresh
      rw [assigned_org_id, assigned_parent_id] at hrec
      rw [assigned_org_id]
      by_cases h0 : info.parent_id = 0
      · rw [if_pos h0] at hrec
        refine ⟨[s.next_id_], .root hrec, ?_, assigned_path_root now s h0⟩
        simp
      · rw [if_neg h0] at hrec
        obtain ⟨p, hpm, hpid, hpath⟩ := assigned_path_child now h0 hp
        -- the parent was created in this run, with the path it still has
        obtain ⟨q, hq, hfix⟩ := List.mem_map.1 (hi.present.subset (List.mem_map_of_mem hpm))
        simp only [fixed, Prod.mk.injEq] at hfix
        obtain ⟨l, hl, hmem, hqpath⟩ := hi.trails q hq
        rw [hfix.1, hpid] at hl
        refine ⟨l ++ [s.next_id_], .child hrec (trail_old hl hmem), ?_, ?_⟩
        · intro x hx
          rw [List.map_append]
          rcases List.mem_append.1 hx with hx | hx
          · exact List.mem_append_left _ (hmem x hx)
          · rw [List.mem_singleton.1 hx]
            simp
        · rw [hpath, ← hfix.2.2, hqpath, render_append]

/-- The invariant holds in every state reached with fewer than 2^31 creations. -/
theorem inv_run {tr : List (OrgManager × Event)} {s : OrgManager} (h : Run Step {} tr s)
    (hlen : (creations tr).length < 2 ^ 31) : Inv s (creations tr) := by
  induction h with
  | nil => exact inv_empty
  | @snoc tr s e s' _ hstep ih =>
    rw [creations_snoc] at hlen ⊢
    have hi := ih (by rw [List.length_append] at hlen; omega)
    subst hstep
    -- only a creation extends the log, and nothing else adds a path
    cases e with
    | create now info =>
      rcases create_org_cases (g := fixed) (fun _ _ => rfl) now info s with ⟨hsc, hs⟩ | ⟨hsc, hp, -, hinfo, hn, ho⟩
      · simp only [created, if_neg hsc, Event.apply, hs]
        simpa using hi
      · simp only [created, if_pos hsc, hinfo, Option.toList_some, List.length_append, List.length_singleton] at hlen ⊢
        exact hi.create hlen now hp hn ho
    | update now org_id info =>
      obtain ⟨ho, hn⟩ := update_org_map (g := fixed) (fun _ _ _ => rfl) now org_id info s
      simp only [created, Option.toList_none, List.append_nil]
      exact hi.of_sublist (by rw [Event.apply, ho]) hn
    | delete org_id =>
      obtain ⟨ho, hn⟩ := delete_org_fixed org_id s
      simp only [created, Option.toList_none, List.append_nil]
      exact hi.of_sublist ho hn

/-! ## Scopes -/

section Scopes
variable {s : OrgManager} {log : List OrgInfo} (hi : Inv s log)

include hi

theorem Inv.ids_nodup : (s.orgs_.map (·.org_id)).Nodup := by
  have h := (hi.present.map (·.1)).nodup
  simp only [List.map_map] at h
  exact h hi.nodup

/-- The trail of a present organisation. -/
theorem Inv.trail {o : OrgInfo} (ho : o ∈ s.orgs_) :
    ∃ l, Trail (recorded log) o.org_id l ∧ o.path = render '/' idText l := by
  obtain ⟨q, hq, hfix⟩ := List.mem_map.1 (hi.present.subset (List.mem_map_of_mem ho))
  simp only [fixed, Prod.mk.injEq] at hfix
  obtain ⟨l, hl, -, hpath⟩ := hi.trails q hq
  exact ⟨l, hfix.1 ▸ hl, by rw [← hfix.2.2, hpath]⟩

theorem Inv.get_org_of_mem {a : OrgInfo} (ha : a ∈ s.orgs_) : s.get_org a.org_id = some a := by
  cases hg : s.get_org a.org_id with
  | none =>
    have := List.find?_eq_none.1 hg a ha
    simp at this
  | some b =>
    have hid := List.find?_some hg
    rw [List.inj_on_of_nodup_map hi.ids_nodup (List.mem_of_find?_eq_some hg) ha (by simpa using hid)]

/-- The prefix test finds the organisations properly below. -/
theorem Inv.mem_get_descendants {a b : OrgInfo} (ha : a ∈ s.orgs_) :
    b ∈ s.get_descendants a.org_id ↔ b ∈ s.orgs_ ∧ b.org_id ≠ a.org_id ∧ Above (recorded log) a.org_id b.org_id := by
  unfold get_descendants
  rw [hi.get_org_of_mem ha]
  simp only [List.mem_filter, decide_eq_true_eq, find_eq_zero_iff]
  refine and_congr_right fun hb => ?_
  obtain ⟨k, hk, hapath⟩ := hi.trail ha
  obtain ⟨l, hl, hbpath⟩ := hi.trail hb
  rw [hapath, hbpath, render_prefix_iff slash_not_mem_idText idText_injective, hk.prefix_iff hl, and_comm]
  refine and_congr_left fun _ => not_congr ?_
  -- the same trail ends in the same id
  constructor
  · rintro rfl
    exact hl.node_unique hk
  · intro h
    rw [h] at hl
    exact hk.unique hl

/-- A present organisation is in the scope of those above it. -/
theorem Inv.mem_get_org_scope {a b : OrgInfo} (ha : a ∈ s.orgs_) (hb : b ∈ s.orgs_) :
    b.org_id ∈ s.get_org_scope a.org_id ↔ Above (recorded log) a.org_id b.org_id := by
  unfold get_org_scope
  rw [List.mem_cons, List.mem_map]
  constructor
  · rintro (h | ⟨o, ho, he⟩)
    · rw [h]
      exact .refl
    · rw [← he]
      exact ((hi.mem_get_descendants ha).1 ho).2.2
  · intro h
    by_cases he : b.org_id = a.org_id
    · exact .inl he
    · exact .inr ⟨b, (hi.mem_get_descendants ha).2 ⟨hb, he, h⟩, rfl⟩

theorem Inv.get_org_scope_nodup {a : OrgInfo} (ha : a ∈ s.orgs_) : (s.get_org_scope a.org_id).Nodup := by
  unfold get_org_scope
  rw [List.nodup_cons]
  constructor
  · intro hmem
    obtain ⟨o, ho, he⟩ := List.mem_map.1 hmem
    exact ((hi.mem_get_descendants ha).1 ho).2.1 he
  · have hsub : (s.get_descendants a.org_id).Sublist s.orgs_ := by
      unfold get_descendants
      split
      · exact List.nil_sublist _
      · exact List.filter_sublist
    exact (hsub.map (·.org_id)).nodup hi.ids_nodup

/-- Everything in a scope is present. -/
theorem Inv.present_of_mem_scope {a : OrgInfo} (ha : a ∈ s.orgs_) {x : Int32} (hx : x ∈ s.get_org_scope a.org_id) :
    ∃ o ∈ s.orgs_, o.org_id = x := by
  rcases List.mem_cons.1 hx with rfl | hx
  · exact ⟨a, ha, rfl⟩
  · obtain ⟨o, ho, he⟩ := List.mem_map.1 hx
    exact ⟨o, ((hi.mem_get_descendants ha).1 ho).1, he⟩

/-- The scope of an organisation contains the scopes below it. -/
theorem Inv.scope_subset {a b : OrgInfo} (ha : a ∈ s.orgs_) (hb : b ∈ s.orgs_)
    (hab : Above (recorded log) a.org_id b.org_id) : s.get_org_scope b.org_id ⊆ s.get_org_scope a.org_id := by
  intro x hx
  obtain ⟨o, ho, rfl⟩ := hi.present_of_mem_scope hb hx
  exact (hi.mem_get_org_scope ha ho).2 (hab.trans ((hi.mem_get_org_scope hb ho).1 hx))

/-- Scopes are nested or disjoint. -/
theorem Inv.scopes_laminar {a b : OrgInfo} (ha : a ∈ s.orgs_) (hb : b ∈ s.orgs_) :
    List.Disjoint (s.get_org_scope a.org_id) (s.get_org_scope b.org_id) ∨
      s.get_org_scope a.org_id ⊆ s.get_org_scope b.org_id ∨ s.get_org_scope b.org_id ⊆ s.get_org_scope a.org_id := by
  by_cases hd : List.Disjoint (s.get_org_scope a.org_id) (s.get_org_scope b.org_id)
  · exact .inl hd
  · right
    simp only [List.Disjoint, not_forall] at hd
    obtain ⟨x, hxa, hxb, -⟩ := hd
    obtain ⟨o, ho, rfl⟩ := hi.present_of_mem_scope ha hxa
    rcases Above.total ((hi.mem_get_org_scope ha ho).1 hxa) ((hi.mem_get_org_scope hb ho).1 hxb) with h | h
    · exact .inr (hi.scope_subset ha hb h)
    · exact .inl (hi.scope_subset hb ha h)

end Scopes

/-- In every reached state the scope of a present organisation holds exactly
the present organisations whose recorded chain of parents goes through it,
each once, and two scopes are disjoint or nested. -/
theorem scope_reached {tr : List (OrgManager × Event)} {s : OrgManager} (h : Run Step {} tr s)
    (hlen : (creations tr).length < 2 ^ 31) {a b : OrgInfo} (ha : a ∈ s.orgs_) (hb : b ∈ s.orgs_) :
    (b.org_id ∈ s.get_org_scope a.org_id ↔ Above (recorded (creations tr)) a.org_id b.org_id) ∧
    (s.get_org_scope a.org_id).Nodup ∧
    (List.Disjoint (s.get_org_scope a.org_id) (s.get_org_scope b.org_id) ∨
      s.get_org_scope a.org_id ⊆ s.get_org_scope b.org_id ∨
      s.get_org_scope b.org_id ⊆ s.get_org_scope a.org_id) := by
  have hi := inv_run h hlen
  exact ⟨hi.mem_get_org_scope ha hb, hi.get_org_scope_nodup ha, hi.scopes_laminar ha hb⟩

/-- A company and one of its departments. -/
theorem scope_company :
    let e₁ : Event := .create [] { tenant_id := "acme".toList, org_type := "company".toList }
    let e₂ : Event := .create [] { parent_id := 1, tenant_id := "acme-hr".toList, org_type := "department".toList }
    let s₁ := e₁.apply {}
    let s₂ := e₂.apply s₁
    let log := creations [({}, e₁), (s₁, e₂)]
    ∃ a b : OrgInfo, a.org_id = 1 ∧ b.org_id = 2 ∧
      (b.org_id ∈ s₂.get_org_scope a.org_id ↔ Above (recorded log) a.org_id b.org_id) ∧
      (s₂.get_org_scope a.org_id).Nodup ∧
      (List.Disjoint (s₂.get_org_scope a.org_id) (s₂.get_org_scope b.org_id) ∨
        s₂.get_org_scope a.org_id ⊆ s₂.get_org_scope b.org_id ∨
        s₂.get_org_scope b.org_id ⊆ s₂.get_org_scope a.org_id) := by
  intro e₁ e₂ s₁ s₂ log
  have hrun : Run Step {} ([] ++ [(({} : OrgManager), e₁)] ++ [(s₁, e₂)]) s₂ := .snoc (.snoc .nil rfl) rfl
  have h₂ : s₂.orgs_.length = 2 := by decide
  exact ⟨s₂.orgs_[0], s₂.orgs_[1], rfl, rfl,
    scope_reached hrun (by decide) (List.getElem_mem _) (List.getElem_mem _)⟩

end DevSys.OrgManager
