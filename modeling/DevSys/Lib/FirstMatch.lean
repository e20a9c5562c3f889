import Mathlib.Data.List.Basic
/-!
# The first match

What a list holds after its first element that passes a test was erased or
changed in place.
-/

namespace FirstMatch
variable {α : Type} {p : α → Bool}

/-- The erased element is one of those counted. -/
theorem countP_eraseP (l : List α) : (l.eraseP p).countP p = l.countP p - 1 := by
  induction l with
  | nil => rfl
  | cons a l ih =>
    by_cases h : p a
    · rw [List.eraseP_cons_of_pos h, List.countP_cons_of_pos h, Nat.add_sub_cancel]
    · rw [List.eraseP_cons_of_neg h, List.countP_cons_of_neg h, List.countP_cons_of_neg h, ih]

/-- A match is left exactly when there were two. -/
theorem exists_mem_eraseP_iff (l : List α) : (∃ a ∈ l.eraseP p, p a) ↔ 2 ≤ l.countP p := by
  rw [← List.countP_pos_iff, countP_eraseP]
  omega

/-- Only the test of the elements themselves matters. -/
theorem eraseP_congr {q : α → Bool} {l : List α} (h : ∀ a ∈ l, p a = q a) : l.eraseP p = l.eraseP q := by
  induction l with
  | nil => rfl
  | cons a l ih =>
    obtain ⟨ha, hl⟩ := List.forall_mem_cons.1 h
    by_cases hq : q a
    · rw [List.eraseP_cons_of_pos (ha.trans hq), List.eraseP_cons_of_pos hq]
    · rw [List.eraseP_cons_of_neg (by rw [ha]; exact hq), List.eraseP_cons_of_neg hq, ih hl]

/-- Elements with a property that excludes the test are all left. -/
theorem exists_mem_eraseP_of_disjoint {q : α → Prop} (h : ∀ a, q a → ¬p a) (l : List α) :
    (∃ a ∈ l.eraseP p, q a) ↔ ∃ a ∈ l, q a := by
  constructor
  · rintro ⟨a, ha, hq⟩
    exact ⟨a, List.mem_of_mem_eraseP ha, hq⟩
  · rintro ⟨a, ha, hq⟩
    exact ⟨a, (List.mem_eraseP_of_neg (h a hq)).2 ha, hq⟩

/-! ## The match and the others -/

theorem perm_cons_eraseP {a : α} {l : List α} (h : l.find? p = some a) : l.Perm (a :: l.eraseP p) := by
  induction l with
  | nil => cases h
  | cons b l ih =>
    by_cases hb : p b
    · rw [List.find?_cons_of_pos hb] at h
      cases h
      rw [List.eraseP_cons_of_pos hb]
    · rw [List.find?_cons_of_neg hb] at h
      rw [List.eraseP_cons_of_neg hb]
      exact ((ih h).cons b).trans (List.Perm.swap a b _)

theorem find?_of_findIdx? {l : List α} {i : Nat} (h : l.findIdx? p = some i) :
    ∃ a, l[i]? = some a ∧ l.find? p = some a := by
  induction l generalizing i with
  | nil => cases h
  | cons b l ih =>
    rw [List.findIdx?_cons] at h
    by_cases hb : p b
    · rw [if_pos hb] at h
      cases h
      exact ⟨b, rfl, List.find?_cons_of_pos hb⟩
    · rw [if_neg hb] at h
      obtain ⟨j, hj, rfl⟩ := Option.map_eq_some_iff.1 h
      obtain ⟨a, hget, hfind⟩ := ih hj
      exact ⟨a, hget, (List.find?_cons_of_neg hb).trans hfind⟩

/-- A change in place that keeps an attribute. -/
theorem map_modify {β : Type} {g : α → β} {f : α → α} (hf : ∀ a, g (f a) = g a) (l : List α) (i : Nat) :
    (l.modify i f).map g = l.map g := by
  apply List.ext_getElem?
  intro j
  rw [List.getElem?_map, List.getElem?_map, List.getElem?_modify]
  cases l[j]? with
  | none => rfl
  | some a =>
    by_cases hij : i = j
    · simp [hij, hf]
    · simp [hij]

/-- Changing the first match in place leaves the others. -/
theorem modify_perm {f : α → α} {a : α} {l : List α} {i : Nat} (h : l.findIdx? p = some i) (ha : l.find? p = some a) :
    (l.modify i f).Perm (f a :: l.eraseP p) := by
  induction l generalizing i with
  | nil => cases h
  | cons b l ih =>
    rw [List.findIdx?_cons] at h
    by_cases hb : p b
    · rw [if_pos hb] at h
      cases h
      rw [List.find?_cons_of_pos hb] at ha
      cases ha
      rw [List.modify_zero_cons, List.eraseP_cons_of_pos hb]
    · rw [if_neg hb] at h
      rw [List.find?_cons_of_neg hb] at ha
      obtain ⟨j, hj, rfl⟩ := Option.map_eq_some_iff.1 h
      rw [List.modify_succ_cons, List.eraseP_cons_of_neg hb]
      exact ((ih hj ha).cons b).trans (List.Perm.swap _ b _)

/-! ## In every order -/

/-- With one match at most, the order of the list does not matter. -/
theorem find?_perm {l l' : List α} (h : l'.Perm l) (hone : ∀ a ∈ l, ∀ b ∈ l, p a → p b → a = b) :
    l'.find? p = l.find? p := by
  cases hf : l.find? p with
  | none =>
    rw [List.find?_eq_none] at hf ⊢
    exact fun a ha => hf a (h.subset ha)
  | some a =>
    have ha := List.mem_of_find?_eq_some hf
    have hp := List.find?_some hf
    cases hf' : l'.find? p with
    | none => exact absurd hp (List.find?_eq_none.1 hf' a (h.symm.subset ha))
    | some b =>
      have hb := h.subset (List.mem_of_find?_eq_some hf')
      rw [hone b hb a ha (List.find?_some hf') hp]

/-- In some order a given match comes first. -/
theorem exists_perm_find? [DecidableEq α] {a : α} {l : List α} (ha : a ∈ l) (hp : p a) :
    ∃ l' : List α, l'.Perm l ∧ l'.find? p = some a :=
  ⟨a :: l.erase a, (List.perm_cons_erase ha).symm, List.find?_cons_of_pos hp⟩

end FirstMatch
