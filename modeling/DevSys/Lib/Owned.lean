import Mathlib.Data.List.Basic
/-!
# Records with an owner

When a change to a collection of owned records leaves the records of all other
owners as they are: for an insertion and a removal in a list, and for an
assignment in a store keyed by owner and id.
-/

namespace Owned
variable {α κ ι β : Type} [DecidableEq κ]

section Lists
variable (owner : α → κ) (t : κ)

/-- The records that do not belong to `t`, in order. -/
def others (l : List α) : List α := l.filter (owner · ≠ t)

theorem others_append (l₁ l₂ : List α) : others owner t (l₁ ++ l₂) = others owner t l₁ ++ others owner t l₂ :=
  List.filter_append ..

theorem others_cons_of_eq {x : α} (h : owner x = t) (l : List α) : others owner t (x :: l) = others owner t l := by
  simp [others, h]

theorem others_cons_of_ne {x : α} (h : owner x ≠ t) (l : List α) :
    others owner t (x :: l) = x :: others owner t l := by
  simp [others, h]

/-- An insertion is invisible to the others exactly when `t` owns the record. -/
theorem others_insert_iff (l₁ l₂ : List α) (x : α) :
    others owner t (l₁ ++ x :: l₂) = others owner t (l₁ ++ l₂) ↔ owner x = t := by
  rw [others_append, others_append, List.append_cancel_left_eq]
  constructor
  · intro h
    by_contra hne
    rw [others_cons_of_ne owner t hne] at h
    exact absurd (congrArg List.length h) (by simp)
  · intro h
    exact others_cons_of_eq owner t h l₂

/-- Removing the first record that passes a test only `R`'s records pass is
invisible to the others exactly when `t` is `R` or there is no such record. -/
theorem others_eraseP_iff {q : α → Bool} {R : κ} (hq : ∀ x, q x = true → owner x = R) (l : List α) :
    others owner t (l.eraseP q) = others owner t l ↔ R = t ∨ ∀ x ∈ l, q x = false := by
  induction l with
  | nil => simp
  | cons x l ih =>
    by_cases hx : q x = true
    · rw [List.eraseP_cons_of_pos hx]
      constructor
      · intro h
        have := (others_insert_iff owner t [] l x).1 (by simpa using h.symm)
        exact .inl ((hq x hx).symm.trans this)
      · rintro (rfl | h)
        · exact (others_cons_of_eq owner R (hq x hx) l).symm
        · rw [h x List.mem_cons_self] at hx
          cases hx
    · rw [List.eraseP_cons_of_neg hx, List.forall_mem_cons]
      have hx : q x = false := by simpa using hx
      by_cases ho : owner x = t
      · rw [others_cons_of_eq owner t ho, others_cons_of_eq owner t ho, ih]
        simp [hx]
      · rw [others_cons_of_ne owner t ho, others_cons_of_ne owner t ho, List.cons_inj_right, ih]
        simp [hx]

end Lists

/-- An assignment under owner `R` is invisible to the others exactly when `t`
is `R` or the value was there already. -/
theorem store_iff [DecidableEq ι] (f : κ → ι → β) (t R : κ) (d : ι) (x : β) :
    (∀ t' d', t' ≠ t → (if t' = R ∧ d' = d then x else f t' d') = f t' d') ↔ R = t ∨ x = f R d := by
  constructor
  · intro h
    by_cases hR : R = t
    · exact .inl hR
    · have := h R d hR
      rw [if_pos ⟨rfl, rfl⟩] at this
      exact .inr this
  · rintro (rfl | hx) t' d' ht'
    · rw [if_neg fun h => ht' h.1]
    · split
      · rename_i h
        rw [h.1, h.2, hx]
      · rfl

end Owned
