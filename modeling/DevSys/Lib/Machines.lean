import Mathlib.Logic.Basic
/-!
# Machines that answer

A machine answers each question and moves on. Where a second machine, read off
the states of the first, gives the same answers and moves along, no list of
questions tells the two apart.
-/

namespace Machines
variable {σ τ ι ο : Type}

/-- The answers to a list of questions, asked one after another. -/
def answers (f : ι → σ → ο × σ) : σ → List ι → List ο
  | _, [] => []
  | s, i :: is => (f i s).1 :: answers f (f i s).2 is

/-- What is seen of a state answers as the state does. -/
def Refines (f : ι → σ → ο × σ) (g : ι → τ → ο × τ) (seen : σ → τ) : Prop :=
  ∀ i s, g i (seen s) = ((f i s).1, seen (f i s).2)

variable {f : ι → σ → ο × σ} {g : ι → τ → ο × τ} {seen : σ → τ}

theorem Refines.answers_eq (h : Refines f g seen) (s : σ) (is : List ι) :
    answers f s is = answers g (seen s) is := by
  induction is generalizing s with
  | nil => rfl
  | cons i is ih => rw [answers, answers, h, ih]

/-! ## What questions can tell -/

/-- No list of questions tells the two states apart. -/
def Alike (f : ι → σ → ο × σ) (s s' : σ) : Prop := ∀ is, answers f s is = answers f s' is

theorem Alike.symm {s s' : σ} (h : Alike f s s') : Alike f s' s := fun is => (h is).symm

theorem Alike.answer {s s' : σ} (h : Alike f s s') (i : ι) : (f i s).1 = (f i s').1 := by
  have hone := h [i]
  rw [answers, answers] at hone
  exact (List.cons.inj hone).1

/-- Nor does it after one more question. -/
theorem Alike.next {s s' : σ} (h : Alike f s s') (i : ι) : Alike f (f i s).2 (f i s').2 := by
  intro is
  have hmore := h (i :: is)
  rw [answers, answers] at hmore
  exact (List.cons.inj hmore).2

theorem Refines.alike (h : Refines f g seen) {s s' : σ} (hs : seen s = seen s') : Alike f s s' := by
  intro is
  rw [h.answers_eq, h.answers_eq, hs]

theorem Refines.alike_seen_iff (h : Refines f g seen) {s s' : σ} : Alike g (seen s) (seen s') ↔ Alike f s s' :=
  forall_congr' fun is => by rw [h.answers_eq, h.answers_eq]

end Machines
