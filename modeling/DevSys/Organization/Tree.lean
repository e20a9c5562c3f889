import DevSys.Lib.Numbered
import DevSys.Lib.Rose
import DevSys.Organization.Scope
import Mathlib.Data.Int.Order.Basic
/-!
# The tree of organisations

`get_org_tree` looks for the children of every node in the whole list. It comes
to an end because ids are given out in increasing order, to children after
their parents, and no id is given out twice.
-/
open Cxx Runs Rose

namespace DevSys

abbrev OrgTreeNode := Rose.Tree OrgInfo

namespace OrgManager

/-! ## The search -/

/-- The calls may be nested `fuel` times. -/
def build_tree (s : OrgManager) : Nat → Int32 → Option (List OrgTreeNode)
  | 0, _ => none
  | fuel + 1, parent_id =>
    (s.orgs_.filter fun o => o.parent_id = parent_id ∧ o.is_active).mapM fun o => do
      let child_nodes ← s.build_tree fuel o.org_id
      some (.node o child_nodes)

/-- The top node has no organisation of its own. -/
def get_org_tree (fuel : Nat) (s : OrgManager) : Option OrgTreeNode := do
  let children ← (s.orgs_.filter fun o => o.parent_id = 0 ∧ o.is_active).mapM fun o => do
    let child_nodes ← s.build_tree fuel o.org_id
    some (.node o child_nodes)
  some (.node {} children)

def activeOrgs (s : OrgManager) : List OrgInfo := s.orgs_.filter (·.is_active)

/-- Active, with an active parent, and so on up to a root. -/
inductive Visible (s : OrgManager) : OrgInfo → Prop
  | root {o} : o ∈ s.orgs_ → o.is_active = true → o.parent_id = 0 → Visible s o
  | child {p o} : Visible s p → o ∈ s.orgs_ → o.is_active = true → o.parent_id = p.org_id → Visible s o

theorem mem_activeOrgs {s : OrgManager} {o : OrgInfo} : o ∈ s.activeOrgs ↔ o ∈ s.orgs_ ∧ o.is_active = true :=
  List.mem_filter

theorem childrenOf_activeOrgs (s : OrgManager) (parent_id : Int32) :
    childrenOf (·.parent_id) s.activeOrgs parent_id = s.orgs_.filter fun o => o.parent_id = parent_id ∧ o.is_active := by
  rw [childrenOf, activeOrgs, List.filter_filter]
  exact List.filter_congr fun o _ => by simp

theorem build_tree_eq_grow (s : OrgManager) (fuel : Nat) (parent_id : Int32) :
    s.build_tree fuel parent_id = grow (·.org_id) (·.parent_id) s.activeOrgs fuel parent_id := by
  induction fuel generalizing parent_id with
  | zero => rfl
  | succ fuel ih =>
    rw [build_tree, grow, childrenOf_activeOrgs]
    congr 1
    funext o
    rw [ih]
    cases grow (·.org_id) (·.parent_id) s.activeOrgs fuel o.org_id <;> rfl

theorem get_org_tree_eq_grow (s : OrgManager) (fuel : Nat) :
    s.get_org_tree fuel = (grow (·.org_id) (·.parent_id) s.activeOrgs (fuel + 1) 0).map (.node {}) := by
  have hmap (children : Option (List OrgTreeNode)) :
      (do let children ← children; some (Rose.Tree.node {} children)) = children.map (.node {}) := by
    cases children <;> rfl
  rw [← build_tree_eq_grow]
  exact hmap _

/-- What is below a root key or the id of a visible organisation is visible. -/
theorem visible_of_below {s : OrgManager} {k : Int32} {o : OrgInfo}
    (h : Below (·.org_id) (·.parent_id) s.activeOrgs k o) (hk : k = 0 ∨ ∃ p, Visible s p ∧ p.org_id = k) :
    Visible s o := by
  induction h with
  | @child k o hitem hparent =>
    obtain ⟨ho, ha⟩ := mem_activeOrgs.1 hitem
    rcases hk with rfl | ⟨p, hp, rfl⟩
    · exact .root ho ha hparent
    · exact .child hp ho ha hparent
  | @step k b o hitem hparent _ ih =>
    obtain ⟨hb, ha⟩ := mem_activeOrgs.1 hitem
    rcases hk with rfl | ⟨p, hp, rfl⟩
    · exact ih (.inr ⟨b, .root hb ha hparent, rfl⟩)
    · exact ih (.inr ⟨b, .child hp hb ha hparent, rfl⟩)

theorem visible_iff (s : OrgManager) (o : OrgInfo) :
    Visible s o ↔ Below (·.org_id) (·.parent_id) s.activeOrgs 0 o := by
  constructor
  · intro h
    induction h with
    | root ho ha hp => exact .child (mem_activeOrgs.2 ⟨ho, ha⟩) hp
    | child _ ho ha hp ih => exact ih.snoc (mem_activeOrgs.2 ⟨ho, ha⟩) hp
  · intro h
    exact visible_of_below h (.inl rfl)

/-! ## Ids in order -/

/-- Giving out the last id would overflow the counter, which is undefined. -/
def Event.Defined (s : OrgManager) : Event → Prop
  | .create now info => (s.create_org now info).1 = .OK → s.next_id_ < Int32.maxValue
  | _ => True

def DefinedStep (s : OrgManager) (e : Event) (s' : OrgManager) : Prop := e.Defined s ∧ Step s e s'

/-- Children come after their parents, and all before the next id. -/
structure Ordered (s : OrgManager) : Prop where
  pos : 0 < s.next_id_.toInt
  bounds : ∀ x ∈ s.orgs_.map fixed, 0 ≤ x.2.1.toInt ∧ x.2.1.toInt < x.1.toInt ∧ x.1.toInt < s.next_id_.toInt
  sorted : (s.orgs_.map fixed).Pairwise fun x y => x.1.toInt < y.1.toInt

theorem ordered_empty : Ordered {} := ⟨by decide, by simp, by simp⟩

section
variable {s s' : OrgManager} (hi : Ordered s)
include hi

theorem Ordered.of_sublist (h : (s'.orgs_.map fixed).Sublist (s.orgs_.map fixed)) (hn : s'.next_id_ = s.next_id_) :
    Ordered s' where
  pos := hn ▸ hi.pos
  bounds := fun x hx => hn ▸ hi.bounds x (h.subset hx)
  sorted := hi.sorted.sublist h

/-- The new organisation has the largest id, and its parent is none or present. -/
theorem Ordered.create (hlt : s.next_id_ < Int32.maxValue) (now : Str) {info : OrgInfo}
    (hp : s.checkParent info = none) (hn : s'.next_id_ = s.next_id_ + 1)
    (ho : s'.orgs_.map fixed = s.orgs_.map fixed ++ [fixed (s.assigned now info)]) : Ordered s' := by
  have hsucc := Numbered.toInt_succ hlt
  have hpos := hi.pos
  have hid : (fixed (s.assigned now info)).1 = s.next_id_ := assigned_org_id now info s
  have hparent : 0 ≤ (fixed (s.assigned now info)).2.1.toInt ∧
      (fixed (s.assigned now info)).2.1.toInt < s.next_id_.toInt := by
    rw [show (fixed (s.assigned now info)).2.1 = info.parent_id from assigned_parent_id now info s]
    refine parent_lt_next hpos (fun o ho => ?_) hp
    have hb := hi.bounds _ (List.mem_map_of_mem ho)
    exact ⟨hb.1.trans hb.2.1.le, hb.2.2⟩
  refine ⟨?_, ?_, ?_⟩
  · rw [hn]
    omega
  · intro x hx
    rw [ho] at hx
    rw [hn]
    rcases List.mem_append.1 hx with hx | hx
    · have hb := hi.bounds x hx
      omega
    · rw [List.mem_singleton.1 hx, hid]
      omega
  · rw [ho, List.pairwise_append]
    refine ⟨hi.sorted, List.pairwise_singleton _ _, fun x hx y hy => ?_⟩
    rw [List.mem_singleton.1 hy, hid]
    exact (hi.bounds x hx).2.2

theorem Ordered.ids_nodup : (s.orgs_.map (·.org_id)).Nodup := by
  have hids : s.orgs_.map (·.org_id) = (s.orgs_.map fixed).map (·.1) := by
    rw [List.map_map]
    rfl
  rw [hids, List.Nodup, List.pairwise_map]
  exact hi.sorted.imp fun hlt heq => absurd (congrArg Int32.toInt heq) hlt.ne

end

/-- The organisations are ordered, in the order in which they were created. -/
theorem ordered_run {tr : List (OrgManager × Event)} {s : OrgManager} (h : Run DefinedStep {} tr s) :
    Ordered s ∧ (s.orgs_.map fixed).Sublist ((creations tr).map fixed) := by
  induction h with
  | nil => exact ⟨ordered_empty, List.Sublist.slnil⟩
  | @snoc tr s e s' _ hstep ih =>
    obtain ⟨hi, hsub⟩ := ih
    obtain ⟨hdef, rfl⟩ := hstep
    rw [creations_snoc, List.map_append]
    -- only a creation adds to the list, and it adds to the log as well
    cases e with
    | create now info =>
      rcases create_org_cases (g := fixed) (fun _ _ => rfl) now info s with ⟨hsc, hs⟩ | ⟨hsc, hp, -, hinfo, hn, ho⟩
      · rw [Event.apply, hs]
        exact ⟨hi, hsub.trans (List.sublist_append_left _ _)⟩
      · refine ⟨hi.create (hdef hsc) now hp hn ho, ?_⟩
        rw [Event.apply, ho, created, if_pos hsc, hinfo]
        exact hsub.append (List.Sublist.refl _)
    | update now org_id info =>
      obtain ⟨ho, hn⟩ := update_org_map (g := fixed) (fun _ _ _ => rfl) now org_id info s
      refine ⟨hi.of_sublist (by rw [Event.apply, ho]) hn, ?_⟩
      rw [Event.apply, ho]
      exact hsub.trans (List.sublist_append_left _ _)
    | delete org_id =>
      obtain ⟨ho, hn⟩ := delete_org_fixed org_id s
      exact ⟨hi.of_sublist ho hn, ho.trans (hsub.trans (List.sublist_append_left _ _))⟩

/-! ## The tree -/

section Tree
variable {s : OrgManager} (hi : Ordered s)
include hi

theorem Ordered.active_nodup : (s.activeOrgs.map (·.org_id)).Nodup := (List.filter_sublist.map _).nodup hi.ids_nodup

theorem Ordered.active_rank : ∀ o ∈ s.activeOrgs, o.parent_id.toInt < o.org_id.toInt :=
  fun _ ho => (hi.bounds _ (List.mem_map_of_mem (mem_activeOrgs.1 ho).1)).2.1

/-- The search ends, with the same result however many calls it may nest. -/
theorem Ordered.exists_tree :
    ∃ children, grow (·.org_id) (·.parent_id) s.activeOrgs (s.orgs_.length + 1) 0 = some children ∧
      ∀ fuel, s.orgs_.length ≤ fuel → s.get_org_tree fuel = some (.node {} children) := by
  have hcount : s.activeOrgs.countP (fun o => Int32.toInt 0 < o.org_id.toInt) < s.orgs_.length + 1 :=
    Nat.lt_succ_of_le (List.countP_le_length.trans (List.length_filter_le _ _))
  obtain ⟨children, hchildren⟩ := Option.isSome_iff_exists.1 (grow_isSome hi.active_rank hcount)
  refine ⟨children, hchildren, fun fuel hfuel => ?_⟩
  rw [get_org_tree_eq_grow, grow_mono (Nat.succ_le_succ hfuel) hchildren]
  rfl

end Tree

/-- The children of a node are the active organisations with its id as parent. -/
theorem children_of_mem_tree {s : OrgManager} {fuel : Nat} {children : List OrgTreeNode}
    (h : grow (·.org_id) (·.parent_id) s.activeOrgs fuel 0 = some children) {t : OrgTreeNode}
    (ht : t ∈ Rose.Tree.nodes (.node {} children)) :
    t.children.map Rose.Tree.info = childrenOf (·.parent_id) s.activeOrgs t.info.org_id := by
  rw [Rose.Tree.nodes] at ht
  rcases List.mem_cons.1 ht with rfl | ht
  · exact map_info_grow h
  · exact children_of_mem_nodes h ht

/-- In every reached state the search for the tree ends, and its nodes are the
visible organisations, each once and below its parent, siblings in the order of
their creation. -/
theorem org_tree_complete {tr : List (OrgManager × Event)} {s : OrgManager} (h : Run DefinedStep {} tr s) :
    ∃ tree : OrgTreeNode, (∀ fuel, s.orgs_.length ≤ fuel → s.get_org_tree fuel = some tree) ∧ tree.info = {} ∧
      (∀ o, o ∈ infos tree.children ↔ Visible s o) ∧
      ((infos tree.children).map (·.org_id)).Nodup ∧
      (∀ t ∈ tree.nodes, ∀ c ∈ t.children, c.info.parent_id = t.info.org_id) ∧
      ∀ t ∈ tree.nodes, (t.children.map (·.info.org_id)).Sublist ((creations tr).map (·.org_id)) := by
  obtain ⟨hi, hsub⟩ := ordered_run h
  obtain ⟨children, hgrow, htree⟩ := hi.exists_tree
  have hvisible (o : OrgInfo) : o ∈ infos children ↔ Visible s o := by
    rw [mem_infos_grow hgrow, visible_iff]
  refine ⟨.node {} children, htree, rfl, hvisible, ?_, fun t ht c hc => ?_, fun t ht => ?_⟩
  · have hnodup := nodup_infos_grow hi.active_nodup hi.active_rank hgrow
    refine List.Nodup.map_on (fun o ho o' ho' heq => ?_) hnodup
    have hpresent {o : OrgInfo} (ho : o ∈ infos children) : o ∈ s.orgs_ := by
      cases (hvisible o).1 ho with
      | root ho => exact ho
      | child _ ho => exact ho
    exact List.inj_on_of_nodup_map hi.ids_nodup (hpresent ho) (hpresent ho') heq
  · have hmem := List.mem_map_of_mem (f := Rose.Tree.info) hc
    rw [children_of_mem_tree hgrow ht] at hmem
    exact (mem_childrenOf.1 hmem).2
  · have hids : t.children.map (·.info.org_id) =
        (childrenOf (·.parent_id) s.activeOrgs t.info.org_id).map (·.org_id) := by
      rw [← children_of_mem_tree hgrow ht, List.map_map]
      rfl
    have hlist : (childrenOf (·.parent_id) s.activeOrgs t.info.org_id).Sublist s.orgs_ :=
      List.filter_sublist.trans List.filter_sublist
    have hlog := hsub.map (·.1)
    rw [List.map_map, List.map_map] at hlog
    rw [hids]
    exact (hlist.map _).trans hlog

/-- A company and one of its departments. -/
theorem org_tree_complete_company :
    let e₁ : Event := .create [] { tenant_id := "acme".toList, org_type := "company".toList }
    let e₂ : Event := .create [] { parent_id := 1, tenant_id := "acme-hr".toList, org_type := "department".toList }
    let s := e₂.apply (e₁.apply {})
    ∃ tree : OrgTreeNode, s.get_org_tree 2 = some tree ∧ ∀ o, o ∈ infos tree.children ↔ Visible s o := by
  intro e₁ e₂ s
  have hcompany : DefinedStep {} e₁ (e₁.apply {}) := ⟨fun _ => by decide, rfl⟩
  have hdepartment : DefinedStep (e₁.apply {}) e₂ s := ⟨fun _ => by decide, rfl⟩
  obtain ⟨tree, htree, -, hvisible, -⟩ := org_tree_complete ((Run.nil.snoc hcompany).snoc hdepartment)
  exact ⟨tree, htree 2 (by decide), hvisible⟩

end OrgManager

end DevSys
