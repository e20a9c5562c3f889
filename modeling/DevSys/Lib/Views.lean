import Mathlib.Data.List.Basic
/-!
# Views of a system by key

A system whose events each have a key, and a view for every key that moves with
the events of that key alone. A run is then a run of each view, and stops where
one of these stops.
-/

namespace Views
variable {σ ε υ κ τ : Type}

/-- The events in turn, up to the first one that stops the run. -/
def runUntil (step : σ → ε → σ × Option τ) : σ → List ε → σ × Option τ
  | s, [] => (s, none)
  | s, e :: es => match step s e with
    | (s', none) => runUntil step s' es
    | (s', some t) => (s', some t)

theorem runUntil_cons_of_none {step : σ → ε → σ × Option τ} {s : σ} {e : ε} (h : (step s e).2 = none) (es : List ε) :
    runUntil step s (e :: es) = runUntil step (step s e).1 es := by
  rw [runUntil]
  split
  · rename_i heq
    rw [heq]
  · rename_i heq
    rw [heq] at h
    cases h

theorem runUntil_cons_of_some {step : σ → ε → σ × Option τ} {s : σ} {e : ε} {t : τ} (h : (step s e).2 = some t)
    (es : List ε) : runUntil step s (e :: es) = step s e := by
  rw [runUntil]
  split
  · rename_i heq
    rw [heq] at h
    cases h
  · rename_i heq
    rw [heq]

/-- Each view moves with the events of its key, and an event stops the system
exactly when it stops its view. -/
structure Independent (I : σ → Prop) (step : σ → ε → σ × Option τ) (key : ε → κ) (view : κ → σ → υ)
    (move : υ → ε → υ × Option τ) : Prop where
  keeps : ∀ s e, I s → I (step s e).1
  own : ∀ s e, I s → move (view (key e) s) e = (view (key e) (step s e).1, (step s e).2)
  others : ∀ s e k, I s → key e ≠ k → view k (step s e).1 = view k s

variable [DecidableEq κ] {I : σ → Prop} {step : σ → ε → σ × Option τ} {key : ε → κ} {view : κ → σ → υ}
  {move : υ → ε → υ × Option τ}

/-- After a run that is not stopped each view is where its own events lead. -/
theorem Independent.run_view (h : Independent I step key view move) {s : σ} (hs : I s) {es : List ε}
    (hrun : (runUntil step s es).2 = none) (k : κ) :
    runUntil move (view k s) (es.filter fun e => key e = k) = (view k (runUntil step s es).1, none) := by
  induction es generalizing s with
  | nil => rfl
  | cons e es ih =>
    cases hstop : (step s e).2 with
    | some t =>
      rw [runUntil_cons_of_some hstop, hstop] at hrun
      cases hrun
    | none =>
      rw [runUntil_cons_of_none hstop] at hrun ⊢
      have hrest := ih (h.keeps s e hs) hrun
      by_cases hk : key e = k
      · subst hk
        have hown := h.own s e hs
        have hnone : (move (view (key e) s) e).2 = none := by rw [hown, hstop]
        rw [List.filter_cons_of_pos (by simp), runUntil_cons_of_none hnone, hown]
        exact hrest
      · rw [List.filter_cons_of_neg (by simpa using hk), ← h.others s e k hs hk]
        exact hrest

/-- A run is not stopped exactly when none of its views is. -/
theorem Independent.returns_iff (h : Independent I step key view move) {s : σ} (hs : I s) (es : List ε) :
    (runUntil step s es).2 = none ↔ ∀ k, (runUntil move (view k s) (es.filter fun e => key e = k)).2 = none := by
  constructor
  · intro hrun k
    rw [h.run_view hs hrun k]
  · intro hall
    induction es generalizing s with
    | nil => rfl
    | cons e es ih =>
      have hown := h.own s e hs
      cases hstop : (step s e).2 with
      | some t =>
        have hsome : (move (view (key e) s) e).2 = some t := by rw [hown, hstop]
        have hkey := hall (key e)
        rw [List.filter_cons_of_pos (by simp), runUntil_cons_of_some hsome, hsome] at hkey
        cases hkey
      | none =>
        have hnone : (move (view (key e) s) e).2 = none := by rw [hown, hstop]
        rw [runUntil_cons_of_none hstop]
        refine ih (h.keeps s e hs) fun k => ?_
        have hk := hall k
        by_cases hke : key e = k
        · subst hke
          rw [List.filter_cons_of_pos (by simp), runUntil_cons_of_none hnone, hown] at hk
          exact hk
        · rw [List.filter_cons_of_neg (by simpa using hke), ← h.others s e k hs hke] at hk
          exact hk

end Views
