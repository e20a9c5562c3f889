import DevSys.Lib.Runs
import Mathlib.Order.Basic
/-!
# Timers that are polled

A loop reads a clock now and then, and does a job when a period has passed since
it last did it. However the loop is delayed, the job is done by the first reading
that is a period later than any other.
-/
open Runs

namespace Polling

section
variable {σ ε τ : Type} [Sub τ] [LE τ]

/-- The clock is read in some steps. The job is done in those that are late
enough, and the time of it is kept. -/
structure Timer (step : σ → ε → σ → Prop) (last : σ → τ) (clock : ε → Option τ) (period : τ) : Prop where
  due : ∀ {s e s' t}, step s e s' → clock e = some t → period ≤ t - last s → last s' = t
  early : ∀ {s e s' t}, step s e s' → clock e = some t → ¬period ≤ t - last s → last s' = last s
  idle : ∀ {s e s'}, step s e s' → clock e = none → last s' = last s

/-- The job is done in this step. -/
def Due (last : σ → τ) (clock : ε → Option τ) (period : τ) (s : σ) (e : ε) : Prop :=
  ∃ t, clock e = some t ∧ period ≤ t - last s

variable {step : σ → ε → σ → Prop} {last : σ → τ} {clock : ε → Option τ} {period : τ} {init : σ}

theorem Timer.last_of_not_due (h : Timer step last clock period) {s s' : σ} {e : ε} (hstep : step s e s')
    (hdue : ¬Due last clock period s e) : last s' = last s := by
  cases hclock : clock e with
  | none => exact h.idle hstep hclock
  | some t => exact h.early hstep hclock fun hlate => hdue ⟨t, hclock, hlate⟩

/-- A reading that is a period later than the start of a run finds the job done
on the way, or does it. -/
theorem Timer.exists_due (h : Timer step last clock period) {tr : List (σ × ε)} {s : σ} {e : ε} {t : τ}
    (hrun : Run step init tr s) (hclock : clock e = some t) (hlate : period ≤ t - last init) :
    ∃ p ∈ tr ++ [(s, e)], Due last clock period p.1 p.2 := by
  by_cases hdone : ∃ p ∈ tr, Due last clock period p.1 p.2
  · obtain ⟨p, hp, hdue⟩ := hdone
    exact ⟨p, List.mem_append_left _ hp, hdue⟩
  · have hlast : last s = last init :=
      (hrun.inv_of_ok (fun s => last s = last init) (fun s e => ¬Due last clock period s e) rfl
        (fun _ _ _ hl hnot hstep => (h.last_of_not_due hstep hnot).trans hl) fun p hp hdue => hdone ⟨p, hp, hdue⟩).2
    refine ⟨(s, e), List.mem_append_right _ (List.mem_singleton_self _), t, hclock, ?_⟩
    rwa [hlast]

/-- What the job sets up, and every step keeps, is there after such a reading. -/
theorem Timer.holds_of_late (h : Timer step last clock period) (P : σ → Prop) {tr : List (σ × ε)} {s s' : σ} {e : ε}
    {t : τ} (hrun : Run step init tr s) (hstep : step s e s') (hclock : clock e = some t)
    (hlate : period ≤ t - last init)
    (hjob : ∀ u f u', (u, f) ∈ tr ++ [(s, e)] → Due last clock period u f → step u f u' → P u')
    (hkeep : ∀ u f u', (u, f) ∈ tr ++ [(s, e)] → P u → step u f u' → P u') : P s' := by
  obtain ⟨p, hp, hdue⟩ := h.exists_due hrun hclock hlate
  exact (hrun.snoc hstep).holds_of_mem P hkeep hp fun u' => hjob _ _ u' hp hdue

end

section
variable {σ ε τ : Type} [Sub τ] [Preorder τ] {step : σ → ε → σ → Prop} {last : σ → τ} {clock : ε → Option τ} {period : τ}

/-- The kept time is not ahead of the clock. -/
theorem Timer.last_le_clock (h : Timer step last clock period) {s s' : σ} {e : ε} {t : τ} (hstep : step s e s')
    (hclock : clock e = some t) (hle : last s ≤ t) : last s' ≤ t := by
  by_cases hlate : period ≤ t - last s
  · rw [h.due hstep hclock hlate]
  · rw [h.early hstep hclock hlate]
    exact hle

end

end Polling
