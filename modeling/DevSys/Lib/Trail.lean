import Mathlib.Data.List.Infix
import Mathlib.Logic.Relation
/-!
# Trails in a forest

A forest is a partial parent function. The trail of a node leads from its root
to it, a node is above another exactly when its trail is a prefix of the
other's, and trails printed with a separator in front of every name can be
compared as texts.
-/

namespace Forest
variable {α : Type} (parent : α → Option α)

/-- `b` or one of its parents, their parents and so on is `a`. -/
def Above (a b : α) : Prop := Relation.ReflTransGen (fun x y => parent x = some y) b a

/-- The nodes from the root to a node. -/
inductive Trail : α → List α → Prop
  | root {a} : parent a = none → Trail a [a]
  | child {a b l} : parent b = some a → Trail a l → Trail b (l ++ [b])

variable {parent}

theorem Above.trans {a b c : α} (h : Above parent a b) (h' : Above parent b c) : Above parent a c :=
  Relation.ReflTransGen.trans h' h

/-- Two nodes above a third are comparable. -/
theorem Above.total {a b c : α} (ha : Above parent a c) (hb : Above parent b c) :
    Above parent a b ∨ Above parent b a := by
  refine (Relation.ReflTransGen.total_of_right_unique ?_ ha hb).symm
  intro x y z hy hz
  rw [hy] at hz
  exact Option.some.inj hz

/-! ## Trails -/

theorem Trail.self_mem {a : α} {l : List α} (h : Trail parent a l) : a ∈ l := by
  cases h <;> simp

theorem Trail.unique {a : α} {l l' : List α} (h : Trail parent a l) (h' : Trail parent a l') : l = l' := by
  induction h generalizing l' with
  | root hr =>
    cases h' with
    | root => rfl
    | child hc => rw [hr] at hc; cases hc
  | child hc _ ih =>
    cases h' with
    | root hr => rw [hc] at hr; cases hr
    | child hc' ht =>
      rw [hc] at hc'
      obtain rfl := Option.some.inj hc'
      rw [ih ht]

theorem Trail.getLast? {a : α} {l : List α} (h : Trail parent a l) : l.getLast? = some a := by
  cases h <;> simp

/-- A trail ends in its node. -/
theorem Trail.node_unique {a b : α} {l : List α} (h : Trail parent a l) (h' : Trail parent b l) : a = b := by
  have := h.getLast?
  rw [h'.getLast?] at this
  exact (Option.some.inj this).symm

/-- A trail only depends on the parents of its nodes. -/
theorem Trail.congr {parent' : α → Option α} {a : α} {l : List α} (h : Trail parent a l)
    (heq : ∀ x ∈ l, parent' x = parent x) : Trail parent' a l := by
  induction h with
  | root hr =>
    refine .root ?_
    rw [heq _ List.mem_cons_self, hr]
  | child hc _ ih =>
    refine .child ?_ (ih fun x hx => heq x (List.mem_append_left _ hx))
    rw [heq _ (by simp), hc]

/-- The trail of a node on a trail is a prefix of it. -/
theorem Trail.prefix_of_mem {a b : α} {l : List α} (h : Trail parent b l) (ha : a ∈ l) :
    ∃ k, Trail parent a k ∧ k <+: l := by
  induction h with
  | @root b hr =>
    obtain rfl := List.mem_singleton.1 ha
    exact ⟨[a], .root hr, List.prefix_refl _⟩
  | @child p b l hc ht ih =>
    rcases List.mem_append.1 ha with ha | ha
    · obtain ⟨k, hk, hp⟩ := ih ha
      exact ⟨k, hk, hp.trans (List.prefix_append _ _)⟩
    · obtain rfl := List.mem_singleton.1 ha
      exact ⟨l ++ [a], .child hc ht, List.prefix_refl _⟩

theorem Trail.mem_iff {a b : α} {l : List α} (h : Trail parent b l) : a ∈ l ↔ Above parent a b := by
  induction h with
  | @root b hr =>
    rw [List.mem_singleton]
    constructor
    · rintro rfl
      exact .refl
    · intro ha
      rcases Relation.ReflTransGen.cases_head ha with he | ⟨c, hc, -⟩
      · exact he.symm
      · rw [hr] at hc; cases hc
  | @child p b l hc ht ih =>
    rw [List.mem_append, List.mem_singleton, ih]
    constructor
    · rintro (ha | rfl)
      · exact .head hc ha
      · exact .refl
    · intro ha
      rcases Relation.ReflTransGen.cases_head ha with he | ⟨c, hc', ha⟩
      · exact .inr he.symm
      · rw [hc] at hc'
        obtain rfl := Option.some.inj hc'
        exact .inl ha

/-- A node is above another exactly when its trail is a prefix of the other's. -/
theorem Trail.prefix_iff {a b : α} {k l : List α} (ha : Trail parent a k) (hb : Trail parent b l) :
    k <+: l ↔ Above parent a b := by
  rw [← hb.mem_iff]
  constructor
  · intro hp
    exact hp.subset ha.self_mem
  · intro hmem
    obtain ⟨k', hk', hp⟩ := hb.prefix_of_mem hmem
    rwa [ha.unique hk']

/-! ## Printed trails -/

section Render
variable {β : Type} (sep : β) (name : α → List β)

/-- Every name behind a separator. -/
def render (l : List α) : List β := l.flatMap fun a => sep :: name a

@[simp] theorem render_nil : render sep name [] = [] := rfl

@[simp] theorem render_cons (a : α) (l : List α) : render sep name (a :: l) = sep :: (name a ++ render sep name l) := rfl

theorem render_append (l l' : List α) : render sep name (l ++ l') = render sep name l ++ render sep name l' := by
  simp [render]

variable {sep name}

/-- Names without separators before a separator agree when the texts do. -/
theorem name_prefix {p q u v : List β} (hp : sep ∉ p) (hq : sep ∉ q) (hv : v = [] ∨ ∃ w, v = sep :: w)
    (h : p ++ sep :: u <+: q ++ v) : p = q ∧ sep :: u <+: v := by
  induction p generalizing q with
  | nil =>
    cases q with
    | nil => exact ⟨rfl, h⟩
    | cons c q => exact absurd ((List.cons_prefix_cons.1 h).1 ▸ List.mem_cons_self) hq
  | cons c p ih =>
    simp only [List.mem_cons, not_or] at hp
    cases q with
    | nil =>
      rcases hv with rfl | ⟨w, rfl⟩
      · cases (List.prefix_nil.1 h)
      · exact absurd (List.cons_prefix_cons.1 h).1.symm hp.1
    | cons d q =>
      simp only [List.mem_cons, not_or] at hq
      obtain ⟨hcd, htail⟩ := List.cons_prefix_cons.1 h
      obtain ⟨hpq, hrest⟩ := ih hp.2 hq.2 htail
      exact ⟨by rw [hcd, hpq], hrest⟩

/-- A printed list, closed by a separator, is a prefix of another exactly when
the list is a proper prefix of the other. -/
theorem render_prefix_iff (hsep : ∀ a, sep ∉ name a) (hinj : Function.Injective name) (k l : List α) :
    render sep name k ++ [sep] <+: render sep name l ↔ k <+: l ∧ k ≠ l := by
  induction k generalizing l with
  | nil => cases l <;> simp
  | cons a k ih =>
    cases l with
    | nil => simp
    | cons b l =>
      have hhead (m : List α) : render sep name m = [] ∨ ∃ w, render sep name m = sep :: w := by
        cases m with
        | nil => exact .inl rfl
        | cons c m => exact .inr ⟨_, rfl⟩
      obtain ⟨u, hu⟩ : ∃ u, render sep name k ++ [sep] = sep :: u := by
        rcases hhead k with h | ⟨w, h⟩ <;> exact ⟨_, by rw [h]; rfl⟩
      rw [render_cons, render_cons, List.cons_append, List.append_assoc, List.cons_prefix_cons, List.cons_prefix_cons, hu]
      constructor
      · -- both texts go on with a separator behind the first name, or end there
        rintro ⟨-, h⟩
        obtain ⟨hname, h⟩ := name_prefix (hsep a) (hsep b) (hhead l) h
        obtain ⟨hp, hne⟩ := (ih l).1 (hu ▸ h)
        exact ⟨⟨hinj hname, hp⟩, fun he => hne (List.cons.inj he).2⟩
      · rintro ⟨⟨rfl, hp⟩, hne⟩
        refine ⟨rfl, (List.prefix_append_right_inj _).2 ?_⟩
        rw [← hu]
        exact (ih l).2 ⟨hp, fun he => hne (by rw [he])⟩

end Render

end Forest
