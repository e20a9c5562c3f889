import DevSys.Lib.Trail
import Mathlib.Data.List.Nodup
/-!
# Trees grown from a list

A list of records that name their parent by its key, and the trees that come of
it when every node looks through the whole list for its children. The recursion
has no measure of its own: it ends where keys are above the keys of parents.
-/

namespace Rose
open Forest

inductive Tree (α : Type) where
  | node (info : α) (children : List (Tree α))

variable {α κ : Type}

def Tree.info : Tree α → α
  | .node a _ => a

def Tree.children : Tree α → List (Tree α)
  | .node _ ts => ts

mutual
/-- A node and all below it, as a visit meets them. -/
def Tree.nodes : Tree α → List (Tree α)
  | .node a ts => .node a ts :: nodesOf ts

def nodesOf : List (Tree α) → List (Tree α)
  | [] => []
  | t :: ts => t.nodes ++ nodesOf ts
end

/-- The records of the nodes. -/
def infos (ts : List (Tree α)) : List α := (nodesOf ts).map Tree.info

theorem nodesOf_eq_flatMap (ts : List (Tree α)) : nodesOf ts = ts.flatMap Tree.nodes := by
  induction ts with
  | nil => rw [nodesOf, List.flatMap_nil]
  | cons t ts ih => rw [nodesOf, List.flatMap_cons, ih]

theorem infos_eq_flatMap (ts : List (Tree α)) : infos ts = ts.flatMap fun t => t.info :: infos t.children := by
  rw [infos, nodesOf_eq_flatMap, List.map_flatMap]
  congr 1
  funext t
  cases t with
  | node a ts => rw [Tree.nodes, List.map_cons, Tree.info, Tree.children, infos]

/-- All results of a search are there, and in the order of the list. -/
theorem mapM_eq_some_iff {β : Type} {f : α → Option β} {l : List α} {r : List β} :
    l.mapM f = some r ↔ l.map f = r.map some := by
  induction l generalizing r with
  | nil => cases r <;> simp
  | cons a l ih =>
    simp only [List.mapM_cons, Option.bind_eq_bind, Option.bind_eq_some_iff, Option.pure_def, Option.some.injEq,
      List.map_cons]
    constructor
    · rintro ⟨b, hb, bs, hbs, rfl⟩
      rw [hb, ih.1 hbs, List.map_cons]
    · intro h
      obtain ⟨b, bs, rfl, hb, hbs⟩ := List.map_eq_cons_iff.1 h.symm
      exact ⟨b, hb.symm, bs, ih.2 hbs.symm, rfl⟩

section Grow
variable [DecidableEq κ] (key parent : α → κ) (items : List α)

def childrenOf (k : κ) : List α := items.filter (parent · = k)

/-- The children of `k` with all below them; `none` if `fuel` levels are not enough. -/
def grow : Nat → κ → Option (List (Tree α))
  | 0, _ => none
  | fuel + 1, k => (childrenOf parent items k).mapM fun a => (grow fuel (key a)).map (.node a)

/-- The key above a key. -/
def upward (k : κ) : Option κ := (items.find? (key · = k)).map parent

/-- `a` is a child of `k`, or below one. -/
inductive Below : κ → α → Prop
  | child {k a} : a ∈ items → parent a = k → Below k a
  | step {k b a} : b ∈ items → parent b = k → Below (key b) a → Below k a

variable {key parent items}

theorem mem_childrenOf {k : κ} {a : α} : a ∈ childrenOf parent items k ↔ a ∈ items ∧ parent a = k := by
  rw [childrenOf, List.mem_filter, decide_eq_true_eq]

omit [DecidableEq κ] in
/-- A child of a record below. -/
theorem Below.snoc {k : κ} {b a : α} (h : Below key parent items k b) (ha : a ∈ items) (hparent : parent a = key b) :
    Below key parent items k a := by
  induction h with
  | @child k b hitem hroot => exact .step hitem hroot (.child ha hparent)
  | @step k c b hitem hroot _ ih => exact .step hitem hroot (ih hparent)

/-- Each child with what grows below it. -/
theorem grow_succ_iff {fuel : Nat} {k : κ} {ts : List (Tree α)} :
    grow key parent items (fuel + 1) k = some ts ↔
      (∀ a ∈ childrenOf parent items k, (grow key parent items fuel (key a)).isSome) ∧
        ts = (childrenOf parent items k).map fun a => Tree.node a ((grow key parent items fuel (key a)).getD []) := by
  rw [grow, mapM_eq_some_iff]
  constructor
  · intro h
    have hsome : ∀ a ∈ childrenOf parent items k, (grow key parent items fuel (key a)).isSome := by
      intro a ha
      have hmem := List.mem_map_of_mem (f := fun a => (grow key parent items fuel (key a)).map (Tree.node a)) ha
      rw [h] at hmem
      obtain ⟨t, -, ht⟩ := List.mem_map.1 hmem
      rw [← Option.isSome_map (f := Tree.node a), ← ht]
      rfl
    refine ⟨hsome, List.map_injective_iff.2 (fun _ _ => Option.some.inj) ?_⟩
    rw [← h, List.map_map]
    refine List.map_congr_left fun a ha => ?_
    obtain ⟨below, hbelow⟩ := Option.isSome_iff_exists.1 (hsome a ha)
    rw [Function.comp_apply, hbelow]
    rfl
  · rintro ⟨hsome, rfl⟩
    rw [List.map_map]
    refine List.map_congr_left fun a ha => ?_
    obtain ⟨below, hbelow⟩ := Option.isSome_iff_exists.1 (hsome a ha)
    rw [Function.comp_apply, hbelow]
    rfl

/-- The roots of what grows are the children in their order. -/
theorem map_info_grow {fuel : Nat} {k : κ} {ts : List (Tree α)} (h : grow key parent items fuel k = some ts) :
    ts.map Tree.info = childrenOf parent items k := by
  cases fuel with
  | zero => cases h
  | succ fuel =>
    rw [(grow_succ_iff.1 h).2, List.map_map]
    exact List.map_id _

/-- The subtree of a child. -/
theorem exists_of_mem_grow {fuel : Nat} {k : κ} {ts : List (Tree α)}
    (h : grow key parent items (fuel + 1) k = some ts) {t : Tree α} (ht : t ∈ ts) :
    t.info ∈ items ∧ parent t.info = k ∧ grow key parent items fuel (key t.info) = some t.children := by
  obtain ⟨hsome, rfl⟩ := grow_succ_iff.1 h
  obtain ⟨a, ha, rfl⟩ := List.mem_map.1 ht
  obtain ⟨hitem, hparent⟩ := mem_childrenOf.1 ha
  refine ⟨hitem, hparent, ?_⟩
  obtain ⟨below, hbelow⟩ := Option.isSome_iff_exists.1 (hsome a ha)
  rw [Tree.info, Tree.children, hbelow]
  rfl

/-- Every node has its children, in the order of the list. -/
theorem children_of_mem_nodes {fuel : Nat} {k : κ} {ts : List (Tree α)} (h : grow key parent items fuel k = some ts)
    {t : Tree α} (ht : t ∈ nodesOf ts) : t.children.map Tree.info = childrenOf parent items (key t.info) := by
  induction fuel generalizing k ts with
  | zero => cases h
  | succ fuel ih =>
    rw [nodesOf_eq_flatMap] at ht
    obtain ⟨t', ht', hmem⟩ := List.mem_flatMap.1 ht
    obtain ⟨-, -, hbelow⟩ := exists_of_mem_grow h ht'
    cases t' with
    | node a ts' =>
      rw [Tree.nodes] at hmem
      rcases List.mem_cons.1 hmem with rfl | hmem
      · exact map_info_grow hbelow
      · exact ih hbelow hmem

/-- The nodes are the records below `k`. -/
theorem mem_infos_grow {fuel : Nat} {k : κ} {ts : List (Tree α)} (h : grow key parent items fuel k = some ts) (a : α) :
    a ∈ infos ts ↔ Below key parent items k a := by
  constructor
  · intro ha
    induction fuel generalizing k ts with
    | zero => cases h
    | succ fuel ih =>
      rw [infos_eq_flatMap] at ha
      obtain ⟨t, ht, hmem⟩ := List.mem_flatMap.1 ha
      obtain ⟨hitem, hparent, hbelow⟩ := exists_of_mem_grow h ht
      rcases List.mem_cons.1 hmem with rfl | hmem
      · exact .child hitem hparent
      · exact .step hitem hparent (ih hbelow hmem)
  · intro ha
    induction ha generalizing fuel ts with
    | @child k a hitem hparent =>
      have hroot : a ∈ ts.map Tree.info := by
        rw [map_info_grow h]
        exact mem_childrenOf.2 ⟨hitem, hparent⟩
      obtain ⟨t, ht, rfl⟩ := List.mem_map.1 hroot
      rw [infos_eq_flatMap]
      exact List.mem_flatMap.2 ⟨t, ht, List.mem_cons_self⟩
    | @step k b a hitem hparent _ ih =>
      cases fuel with
      | zero => cases h
      | succ fuel =>
        have hroot : b ∈ ts.map Tree.info := by
          rw [map_info_grow h]
          exact mem_childrenOf.2 ⟨hitem, hparent⟩
        obtain ⟨t, ht, rfl⟩ := List.mem_map.1 hroot
        obtain ⟨-, -, hbelow⟩ := exists_of_mem_grow h ht
        rw [infos_eq_flatMap]
        exact List.mem_flatMap.2 ⟨t, ht, List.mem_cons_of_mem _ (ih hbelow)⟩

/-- More levels change nothing. -/
theorem grow_mono {fuel fuel' : Nat} (hle : fuel ≤ fuel') {k : κ} {ts : List (Tree α)}
    (h : grow key parent items fuel k = some ts) : grow key parent items fuel' k = some ts := by
  induction fuel generalizing fuel' k ts with
  | zero => cases h
  | succ fuel ih =>
    cases fuel' with
    | zero => exact absurd hle (Nat.not_succ_le_zero fuel)
    | succ fuel' =>
      obtain ⟨hsome, rfl⟩ := grow_succ_iff.1 h
      have hsame (a : α) (ha : a ∈ childrenOf parent items k) :
          grow key parent items fuel' (key a) = grow key parent items fuel (key a) := by
        obtain ⟨below, hbelow⟩ := Option.isSome_iff_exists.1 (hsome a ha)
        rw [hbelow, ih (Nat.le_of_succ_le_succ hle) hbelow]
      refine grow_succ_iff.2 ⟨fun a ha => by rw [hsame a ha]; exact hsome a ha, ?_⟩
      exact List.map_congr_left fun a ha => by rw [hsame a ha]

/-! ## Keys above those of parents -/

section Ranked
variable {ι : Type} [Preorder ι] {rank : κ → ι} (hrank : ∀ a ∈ items, rank (parent a) < rank (key a))
include hrank

/-- With as many levels as there are records above `k`, and one more, nothing is cut off. -/
theorem grow_isSome [DecidableLT ι] {fuel : Nat} {k : κ}
    (hfuel : items.countP (fun a => rank k < rank (key a)) < fuel) :
    (grow key parent items fuel k).isSome := by
  induction fuel generalizing k with
  | zero => exact absurd hfuel (Nat.not_lt_zero _)
  | succ fuel ih =>
    refine Option.isSome_iff_exists.2 ⟨_, grow_succ_iff.2 ⟨fun a ha => ih ?_, rfl⟩⟩
    obtain ⟨hitem, rfl⟩ := mem_childrenOf.1 ha
    have hlt := hrank a hitem
    -- the records above a child are above `k`, and the child is above `k` itself
    have hsub : items.countP (fun b => rank (key a) < rank (key b)) =
        (items.filter fun b => rank (parent a) < rank (key b)).countP fun b => rank (key a) < rank (key b) := by
      rw [List.countP_filter]
      refine List.countP_congr fun b _ => ?_
      simp only [Bool.and_eq_true, decide_eq_true_eq]
      exact (and_iff_left_of_imp fun h => hlt.trans h).symm
    have hchild : ∃ b ∈ items.filter fun b => rank (parent a) < rank (key b),
        ¬decide (rank (key a) < rank (key b)) = true :=
      ⟨a, List.mem_filter.2 ⟨hitem, decide_eq_true hlt⟩, by simp⟩
    have hstrict := List.length_filter_lt_length_iff_exists.2 hchild
    rw [← List.countP_eq_length_filter, ← hsub, ← List.countP_eq_length_filter] at hstrict
    omega

omit [DecidableEq κ] in
theorem Below.rank_lt {k : κ} {a : α} (h : Below key parent items k a) : rank k < rank (key a) := by
  induction h with
  | @child k a hitem hparent =>
    rw [← hparent]
    exact hrank a hitem
  | @step k b a hitem hparent _ ih =>
    rw [← hparent]
    exact (hrank b hitem).trans ih

theorem rank_le_of_above {k j : κ} (h : Above (upward key parent items) k j) : rank k ≤ rank j := by
  induction h with
  | refl => exact le_rfl
  | @tail x y _ hup ih =>
    obtain ⟨c, hc, rfl⟩ := Option.map_eq_some_iff.1 hup
    have hkey : key c = x := by simpa using List.find?_some hc
    rw [← hkey] at ih
    exact (hrank c (List.mem_of_find?_eq_some hc)).le.trans ih

end Ranked

/-! ## Each node once -/

section Unique
variable (hkeys : (items.map key).Nodup)
include hkeys

theorem upward_key {a : α} (ha : a ∈ items) : upward key parent items (key a) = some (parent a) := by
  unfold upward
  cases hf : items.find? (key · = key a) with
  | none => exact absurd (decide_eq_true rfl) (List.find?_eq_none.1 hf a ha)
  | some c =>
    have hkey : key c = key a := by simpa using List.find?_some hf
    rw [List.inj_on_of_nodup_map hkeys (List.mem_of_find?_eq_some hf) ha hkey]
    rfl

theorem Below.above {k : κ} {a : α} (h : Below key parent items k a) : Above (upward key parent items) k (key a) := by
  induction h with
  | @child k a hitem hparent => exact .single ((upward_key hkeys hitem).trans (congrArg some hparent))
  | @step k b a hitem hparent _ ih => exact .tail ih ((upward_key hkeys hitem).trans (congrArg some hparent))

variable {ι : Type} [Preorder ι] {rank : κ → ι} (hrank : ∀ a ∈ items, rank (parent a) < rank (key a))
include hrank

/-- Of two siblings none is above the other. -/
theorem sibling_eq_of_above {k : κ} {b c : α} (hb : b ∈ childrenOf parent items k) (hc : c ∈ childrenOf parent items k)
    (h : Above (upward key parent items) (key b) (key c)) : b = c := by
  obtain ⟨hbitem, hbparent⟩ := mem_childrenOf.1 hb
  obtain ⟨hcitem, hcparent⟩ := mem_childrenOf.1 hc
  rcases Relation.ReflTransGen.cases_head h with heq | ⟨y, hy, habove⟩
  · exact List.inj_on_of_nodup_map hkeys hbitem hcitem heq.symm
  · -- the way up from one sibling goes through the common parent, which is too low
    rw [upward_key hkeys hcitem, hcparent] at hy
    obtain rfl := Option.some.inj hy
    have hlt := hrank b hbitem
    rw [hbparent] at hlt
    exact absurd (rank_le_of_above hrank habove) hlt.not_ge

/-- The trees of two siblings have no record in common. -/
theorem sibling_unique {k : κ} {b c a : α} (hb : b ∈ childrenOf parent items k) (hc : c ∈ childrenOf parent items k)
    (hab : a = b ∨ Below key parent items (key b) a) (hac : a = c ∨ Below key parent items (key c) a) : b = c := by
  have habove {d : α} (h : a = d ∨ Below key parent items (key d) a) :
      Above (upward key parent items) (key d) (key a) := by
    rcases h with rfl | h
    · exact .refl
    · exact h.above hkeys
  rcases Above.total (habove hab) (habove hac) with h | h
  · exact sibling_eq_of_above hkeys hrank hb hc h
  · exact (sibling_eq_of_above hkeys hrank hc hb h).symm

theorem nodup_infos_grow {fuel : Nat} {k : κ} {ts : List (Tree α)} (h : grow key parent items fuel k = some ts) :
    (infos ts).Nodup := by
  induction fuel generalizing k ts with
  | zero => cases h
  | succ fuel ih =>
    rw [infos_eq_flatMap, List.nodup_flatMap]
    constructor
    · intro t ht
      obtain ⟨-, -, hbelow⟩ := exists_of_mem_grow h ht
      refine List.nodup_cons.2 ⟨fun hmem => ?_, ih hbelow⟩
      have hself := (mem_infos_grow hbelow _).1 hmem
      exact lt_irrefl _ (hself.rank_lt hrank)
    · have hroots : (ts.map Tree.info).Nodup := by
        rw [map_info_grow h]
        exact (List.Nodup.of_map key hkeys).filter _
      refine (List.Nodup.of_map _ hroots).pairwise_of_forall_ne fun t ht t' ht' hne a ha ha' => hne ?_
      obtain ⟨hitem, hparent, hbelow⟩ := exists_of_mem_grow h ht
      obtain ⟨hitem', hparent', hbelow'⟩ := exists_of_mem_grow h ht'
      have hsame := sibling_unique hkeys hrank (a := a) (mem_childrenOf.2 ⟨hitem, hparent⟩)
        (mem_childrenOf.2 ⟨hitem', hparent'⟩) ((List.mem_cons.1 ha).imp_right (mem_infos_grow hbelow a).1)
        ((List.mem_cons.1 ha').imp_right (mem_infos_grow hbelow' a).1)
      exact List.inj_on_of_nodup_map hroots ht ht' hsame

end Unique

end Grow

end Rose
