import DevSys.Fault.Restart
import DevSys.Lib.FirstMatch
/-!
# The fault history

`all_faults` is declared as the active and the historical faults. It returns
the active ones, so that a fault is gone once it is resolved.
-/
open Cxx Runs

namespace DevSys.FaultManager

/-! ## What was added and what was resolved -/

/-- The faults a run has added, in order. -/
def added (tr : List (FaultManager × Event)) : List FaultInfo :=
  tr.filterMap fun p => match p.2 with
    | .add fault => some fault
    | .resolve .. => none

/-- The fault that a step resolves. -/
def resolvedFault (s : FaultManager) : Event → Option FaultInfo
  | .add _ => none
  | .resolve tenant_id device_id code => s.active_faults_.find? (sameFault tenant_id device_id code)

/-- The faults a run has resolved, in order. -/
def resolved (tr : List (FaultManager × Event)) : List FaultInfo := tr.filterMap fun p => resolvedFault p.1 p.2

/-- Each fault added is among all faults, and the active ones are those not resolved. -/
structure Kept (tr : List (FaultManager × Event)) (s : FaultManager) : Prop where
  all : (added tr).Subperm s.all_faults
  active : (s.active_faults ++ resolved tr).Perm (added tr)

theorem resolvedFault_eq_none_iff (s : FaultManager) (e : Event) : resolvedFault s e = none ↔ Misses s e := by
  cases e with
  | add fault => exact iff_of_true rfl trivial
  | resolve t d code =>
    rw [resolvedFault, List.find?_eq_none]
    rfl

theorem resolved_eq_nil_iff (tr : List (FaultManager × Event)) : resolved tr = [] ↔ ∀ p ∈ tr, Misses p.1 p.2 := by
  rw [resolved, List.filterMap_eq_nil_iff]
  exact forall₂_congr fun p _ => resolvedFault_eq_none_iff p.1 p.2

/-! ## Runs -/

/-- A step moves at most one fault, from the active ones to the resolved ones. -/
theorem ledger_step {tr : List (FaultManager × Event)} {s s' : FaultManager} {e : Event} (h : Step s e s')
    (hs : (s.active_faults ++ resolved tr).Perm (added tr)) :
    (s'.active_faults ++ resolved (tr ++ [(s, e)])).Perm (added (tr ++ [(s, e)])) := by
  subst h
  rw [resolved, added, List.filterMap_append, List.filterMap_append, ← resolved, ← added]
  unfold active_faults at hs ⊢
  cases e with
  | add fault =>
    have hnew : (s.active_faults_ ++ [fault] ++ resolved tr).Perm (s.active_faults_ ++ resolved tr ++ [fault]) := by
      rw [List.append_assoc, List.append_assoc]
      exact List.perm_append_comm.append_left _
    simpa [Event.apply, add_fault, resolvedFault] using hnew.trans (hs.append_right [fault])
  | resolve t d code =>
    rw [Event.apply, resolve_fault_eq]
    cases hfind : s.active_faults_.find? (sameFault t d code) with
    | none =>
      rw [List.eraseP_of_forall_not (List.find?_eq_none.1 hfind)]
      simpa [resolvedFault, hfind] using hs
    | some fault =>
      have hmoved : (s.active_faults_.eraseP (sameFault t d code) ++ (resolved tr ++ [fault])).Perm
          (s.active_faults_ ++ resolved tr) := by
        have hfront := (List.perm_append_singleton fault (resolved tr)).append_left
          (s.active_faults_.eraseP (sameFault t d code))
        have hback := (FirstMatch.perm_cons_eraseP hfind).append_right (resolved tr)
        exact (hfront.trans List.perm_middle).trans hback.symm
      simpa [resolvedFault, hfind] using hmoved.trans hs

/-- What is active and what was resolved is what was added. -/
theorem ledger_run {db : Option (List FaultInfo)} {tr : List (FaultManager × Event)} {s : FaultManager}
    (h : Run Step { db_ := db } tr s) : (s.active_faults ++ resolved tr).Perm (added tr) := by
  induction h with
  | nil => exact List.Perm.refl _
  | snoc _ hstep ih => exact ledger_step hstep ih

/-- Over a run, every fault added stays among all faults exactly when no step resolves one. -/
theorem kept_run_iff {db : Option (List FaultInfo)} {tr : List (FaultManager × Event)} {s : FaultManager}
    (h : Run Step { db_ := db } tr s) : Kept tr s ↔ ∀ p ∈ tr, Misses p.1 p.2 := by
  have hledger := ledger_run h
  rw [← resolved_eq_nil_iff]
  constructor
  · -- all faults are the active ones, and those are as many as were added less the resolved ones
    rintro ⟨hall, -⟩
    have hle : (added tr).length ≤ s.active_faults.length := hall.length_le
    have hlen := hledger.length_eq
    rw [List.length_append] at hlen
    exact List.length_eq_zero_iff.1 (by omega)
  · intro hnone
    refine ⟨?_, hledger⟩
    rw [hnone, List.append_nil] at hledger
    exact hledger.symm.subperm

/-- Two faults that stand. -/
theorem kept_run_standing :
    Kept [({}, .add pump_failure), (add_fault pump_failure {}, .add pump_failure)]
      (add_fault pump_failure (add_fault pump_failure {})) := by
  have hfirst : Run Step { db_ := none } _ _ := Run.nil.snoc (e := .add pump_failure) rfl
  have hrun : Run Step { db_ := none } _ _ := hfirst.snoc (e := .add pump_failure) rfl
  refine (kept_run_iff hrun).2 ?_
  simp [Misses]

/-- A resolved fault is in no list. -/
theorem kept_run_fails : ∃ tr s, Run Step {} tr s ∧ pump_failure ∈ added tr ∧ pump_failure ∉ s.all_faults ∧
    ¬ Kept tr s := by
  have hadd : Step {} (.add pump_failure) (add_fault pump_failure {}) := rfl
  have hresolve : Step (add_fault pump_failure {}) (.resolve "acme".toList "dev-1".toList ⟨3⟩) _ := rfl
  have hgone : ((add_fault pump_failure {}).resolve_fault "acme".toList "dev-1".toList ⟨3⟩).2.all_faults = [] := rfl
  refine ⟨_, _, (Run.nil.snoc hadd).snoc hresolve, List.mem_singleton.2 rfl, ?_, ?_⟩
  · intro hmem
    cases hgone ▸ hmem
  · rintro ⟨hall, -⟩
    cases hgone ▸ hall.length_le

end DevSys.FaultManager
