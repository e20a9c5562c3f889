import DevSys.Lib.Runs
import Mathlib.Data.List.Pairwise
/-!
# Lives of items along a run

The values that an item of the state takes one after another, from some moment
of a run to its end.
-/

namespace Runs
variable {σ ε α : Type}

/-- `next` tells what a step may make of an item; it is still there then. -/
inductive Life (item : σ → α → Prop) (next : σ → ε → σ → α → α → Prop) : List (σ × ε) → σ → List α → Prop
  | born {tr s a} : item s a → Life item next tr s [a]
  | grow {tr s e s' l a b} : Life item next tr s (l ++ [a]) → next s e s' a b → item s' b →
      Life item next (tr ++ [(s, e)]) s' (l ++ [a, b])

variable {item : σ → α → Prop} {next : σ → ε → σ → α → α → Prop} {tr : List (σ × ε)} {s s' : σ} {e : ε} {l : List α}

/-- A life ends with an item that is there. -/
theorem Life.last (h : Life item next tr s l) : ∃ l' a, l = l' ++ [a] ∧ item s a := by
  cases h with
  | @born _ _ a ha => exact ⟨[], a, rfl, ha⟩
  | @grow _ _ _ _ l a b _ _ hb => exact ⟨l ++ [a], b, by simp, hb⟩

theorem Life.of_nil (h : Life item next [] s l) : ∃ a, l = [a] := by
  generalize htr : ([] : List (σ × ε)) = tr at h
  cases h with
  | born => exact ⟨_, rfl⟩
  | grow => simp at htr

theorem Life.of_snoc (h : Life item next (tr ++ [(s, e)]) s' l) :
    (∃ a, l = [a]) ∨ ∃ l' a b, l = l' ++ [a, b] ∧ Life item next tr s (l' ++ [a]) ∧ next s e s' a b ∧ item s' b := by
  generalize htr : tr ++ [(s, e)] = tr' at h
  cases h with
  | born => exact .inl ⟨_, rfl⟩
  | grow hl hn hb =>
    obtain ⟨rfl, hse⟩ := List.append_inj' htr rfl
    cases hse
    exact .inr ⟨_, _, _, rfl, hl, hn, hb⟩

/-- Over a transitive relation only the last two values of a longer life matter. -/
theorem pairwise_grow_iff {R : α → α → Prop} (htrans : ∀ a b c, R a b → R b c → R a c) {a b : α} :
    (l ++ [a, b]).Pairwise R ↔ (l ++ [a]).Pairwise R ∧ R a b := by
  simp only [List.pairwise_append, List.pairwise_cons, List.mem_cons, List.not_mem_nil, or_false, forall_eq_or_imp,
    forall_eq, List.Pairwise.nil, and_true, false_imp_iff, implies_true, true_and]
  constructor
  · rintro ⟨hl, hab, hall⟩
    exact ⟨⟨hl, fun x hx => (hall x hx).1⟩, hab⟩
  · rintro ⟨⟨hl, hall⟩, hab⟩
    exact ⟨hl, hab, fun x hx => ⟨hall x hx, htrans x a b (hall x hx) hab⟩⟩

variable {step : σ → ε → σ → Prop} {init : σ}

/-- If a step keeps every item within a transitive relation exactly when it is
`ok`, then every life in a run is within the relation exactly when all steps of
the run are `ok`. `I` is an invariant of the steps, and no item ever goes. -/
theorem Run.lives_iff (I : σ → Prop) (R : α → α → Prop) (ok : σ → ε → Prop) (htrans : ∀ a b c, R a b → R b c → R a c)
    (hI : I init) (hkeep : ∀ s e s', I s → step s e s' → I s')
    (hgo : ∀ s e s' a, I s → step s e s' → item s a → ∃ b, next s e s' a b ∧ item s' b)
    (hok : ∀ s e s', I s → step s e s' → ((∀ a b, item s a → next s e s' a b → item s' b → R a b) ↔ ok s e))
    (h : Run step init tr s) : (∀ l, Life item next tr s l → l.Pairwise R) ↔ ∀ p ∈ tr, ok p.1 p.2 := by
  suffices hall : ((∀ l, Life item next tr s l → l.Pairwise R) ↔ ∀ p ∈ tr, ok p.1 p.2) ∧ I s from hall.1
  induction h with
  | nil =>
    refine ⟨iff_of_true ?_ (by simp), hI⟩
    intro l hl
    obtain ⟨a, rfl⟩ := hl.of_nil
    exact List.pairwise_singleton R a
  | @snoc tr s e s' _ hstep ih =>
    obtain ⟨hiff, hi⟩ := ih
    refine ⟨?_, hkeep s e s' hi hstep⟩
    rw [List.forall_mem_append, List.forall_mem_singleton, ← hiff, ← hok s e s' hi hstep]
    constructor
    · intro hall
      constructor
      · -- a shorter life goes on
        intro l hl
        obtain ⟨l', a, rfl, ha⟩ := hl.last
        obtain ⟨b, hn, hb⟩ := hgo s e s' a hi hstep ha
        exact ((pairwise_grow_iff htrans).1 (hall _ (hl.grow hn hb))).1
      · intro a b ha hn hb
        have hl : Life item next tr s ([] ++ [a]) := .born ha
        exact ((pairwise_grow_iff htrans).1 (hall _ (hl.grow hn hb))).2
    · rintro ⟨hshort, hlast⟩ l hl
      -- a life that is born now has one moment
      rcases hl.of_snoc with ⟨a, rfl⟩ | ⟨l', a, b, rfl, hl', hn, hb⟩
      · exact List.pairwise_singleton R a
      · obtain ⟨l'', a', heq, ha⟩ := hl'.last
        obtain ⟨-, haa⟩ := List.append_inj' heq rfl
        cases haa
        exact (pairwise_grow_iff htrans).2 ⟨hshort _ hl', hlast a b ha hn hb⟩

end Runs
