import DevSys.Lib.Runs
/-!
# Calls that wait to be answered

A log of calls for keys and of signs of life. A call is pending until its key
is heard, and calls alternate with signs of life as long as no key is called
while a call for it is pending.
-/

namespace Alternation
variable {κ : Type}

inductive Report (κ : Type) where
  | heard (k : κ)
  | called (k : κ)

open Report

/-- Between two calls for a key the key is heard. -/
def Alternates (log : List (Report κ)) : Prop :=
  ∀ k pre mid post, log = pre ++ called k :: (mid ++ called k :: post) → heard k ∈ mid

/-- The key was called and was not heard since. -/
def Pending (k : κ) (log : List (Report κ)) : Prop := ∃ pre post, log = pre ++ called k :: post ∧ heard k ∉ post

variable {log : List (Report κ)} {r : Report κ} {k : κ}

theorem alternates_nil : Alternates ([] : List (Report κ)) := by
  intro k pre mid post h
  simp at h

theorem not_pending_nil : ¬ Pending k [] := by
  rintro ⟨pre, post, h, -⟩
  simp at h

theorem pending_snoc : Pending k (log ++ [r]) ↔ r = called k ∨ (r ≠ heard k ∧ Pending k log) := by
  constructor
  · rintro ⟨pre, post, heq, hnot⟩
    rcases Runs.snoc_eq_split_iff.1 heq with ⟨-, hr, -⟩ | ⟨mid, hlog, rfl⟩
    · exact .inl hr
    · rw [List.mem_append, List.mem_singleton, not_or] at hnot
      exact .inr ⟨Ne.symm hnot.2, pre, mid, hlog, hnot.1⟩
  · rintro (rfl | ⟨hr, pre, post, rfl, hnot⟩)
    · exact ⟨log, [], rfl, List.not_mem_nil⟩
    · refine ⟨pre, post ++ [r], by simp, ?_⟩
      rw [List.mem_append, List.mem_singleton, not_or]
      exact ⟨hnot, Ne.symm hr⟩

theorem alternates_snoc : Alternates (log ++ [r]) ↔ Alternates log ∧ ∀ k, r = called k → ¬ Pending k log := by
  constructor
  · intro h
    constructor
    · rintro k pre mid post rfl
      exact h k pre mid (post ++ [r]) (by simp)
    · rintro k rfl ⟨pre, mid, rfl, hnot⟩
      exact hnot (h k pre mid [] (by simp))
  · -- a second call is the new one, or both are old
    rintro ⟨hlog, hcall⟩ k pre mid post heq
    rw [← List.cons_append, ← List.append_assoc] at heq
    rcases Runs.snoc_eq_split_iff.1 heq with ⟨hpre, hr, -⟩ | ⟨rest, hrest, -⟩
    · exact Classical.byContradiction fun hnot => hcall k hr ⟨pre, mid, hpre, hnot⟩
    · refine hlog k pre mid rest ?_
      rw [hrest, List.append_assoc, List.cons_append]

theorem alternates_heard (k : κ) : Alternates (log ++ [heard k]) ↔ Alternates log := by
  rw [alternates_snoc]
  exact and_iff_left fun k' h => nomatch h

/-! ## Calls for several keys at once -/

theorem append_called_cons (a : κ) (ks : List κ) : log ++ (a :: ks).map called = log ++ [called a] ++ ks.map called := by
  rw [List.map_cons, List.append_assoc, List.singleton_append]

theorem pending_append_called (ks : List κ) : Pending k (log ++ ks.map called) ↔ k ∈ ks ∨ Pending k log := by
  induction ks generalizing log with
  | nil => simp
  | cons a ks ih =>
    rw [append_called_cons, ih, pending_snoc, List.mem_cons]
    simp only [called.injEq, ne_eq, reduceCtorEq, not_false_eq_true, true_and, eq_comm (a := a)]
    rw [← or_assoc, or_comm (a := k ∈ ks)]

/-- Calls for distinct keys are in order exactly when none of them has a call pending. -/
theorem alternates_append_called {ks : List κ} (hks : ks.Nodup) :
    Alternates (log ++ ks.map called) ↔ Alternates log ∧ ∀ k ∈ ks, ¬ Pending k log := by
  induction ks generalizing log with
  | nil => simp
  | cons a ks ih =>
    obtain ⟨hnot, hks⟩ := List.nodup_cons.1 hks
    have hfirst : (∀ k, (called a : Report κ) = called k → ¬ Pending k log) ↔ ¬ Pending a log := by simp
    have hrest : (∀ k ∈ ks, ¬ Pending k (log ++ [called a])) ↔ ∀ k ∈ ks, ¬ Pending k log := by
      refine forall₂_congr fun k hk => not_congr ?_
      rw [pending_snoc]
      have hne : a ≠ k := fun h => hnot (h ▸ hk)
      simp [hne]
    rw [append_called_cons, ih hks, alternates_snoc, hfirst, hrest, List.forall_mem_cons, and_assoc]

end Alternation
