import DevSys.Fault.FaultManager
import DevSys.Lib.Runs
/-!
# Faults across a restart

`resolve_fault` erases a fault from memory only. No caller sets the `resolved`
column, so the row is loaded as an active fault again.
-/
open Cxx Runs

namespace DevSys.FaultManager

/-! ## The faults table -/

/-- A row of the table; `resolved` is false unless a statement sets it. -/
structure FaultRow where
  fault : FaultInfo
  resolved : Bool := false

/-- The rows of the table after the inserts, by serial id. -/
def faults_table (inserted : List FaultInfo) : List FaultRow := inserted.map fun f => { fault := f }

/-- `SELECT * FROM faults WHERE resolved=FALSE ORDER BY id DESC`. -/
def list_active_faults (t : List FaultRow) : List FaultInfo := ((t.filter fun r => ¬r.resolved).reverse).map (·.fault)

def load_from_database (s : FaultManager) : StatusCode × FaultManager :=
  match s.db_ with
  | none => (.STORAGE_READ_ERROR, s)
  | some inserted => (.OK, { s with active_faults_ := list_active_faults (faults_table inserted) })

/-- A fresh manager on the same database. -/
def restart (s : FaultManager) : FaultManager := (load_from_database { db_ := s.db_ }).2

theorem list_active_faults_table (inserted : List FaultInfo) :
    list_active_faults (faults_table inserted) = inserted.reverse := by
  simp [list_active_faults, faults_table, List.filter_map, Function.comp_def]

/-! ## Runs -/

inductive Event where
  | add (fault : FaultInfo)
  | resolve (tenant_id device_id : Str) (code : FaultCode)

def Event.apply : Event → FaultManager → FaultManager
  | .add fault, s => s.add_fault fault
  | .resolve tenant_id device_id code, s => (s.resolve_fault tenant_id device_id code).2

def Step (s : FaultManager) (e : Event) (s' : FaultManager) : Prop := s' = e.apply s

def faultKey (f : FaultInfo) : Str × Str × FaultCode := (f.tenant_id, f.device_id, f.code)

/-- The same faults are active after a restart. -/
def Survives (s : FaultManager) : Prop := (s.restart.active_faults.map faultKey).Perm (s.active_faults.map faultKey)

/-- No fault is there to be resolved. -/
def Misses (s : FaultManager) : Event → Prop
  | .add _ => True
  | .resolve tenant_id device_id code => ∀ f ∈ s.active_faults_, ¬ sameFault tenant_id device_id code f

theorem survives_iff {s : FaultManager} {inserted : List FaultInfo} (h : s.db_ = some inserted) :
    Survives s ↔ (inserted.map faultKey).Perm (s.active_faults_.map faultKey) := by
  unfold Survives
  rw [restart, load_from_database, h]
  show ((list_active_faults (faults_table inserted)).map faultKey).Perm _ ↔ _
  rw [list_active_faults_table, List.map_reverse]
  exact ⟨(List.reverse_perm _).symm.trans, (List.reverse_perm _).trans⟩

theorem db_step {s s' : FaultManager} {e : Event} (hs : s.db_.isSome) (h : Step s e s') : s'.db_.isSome := by
  subst h
  cases e with
  | add f => simpa [Event.apply, add_fault] using hs
  | resolve t d code =>
    rw [Event.apply, resolve_fault_eq]
    exact hs

/-- A step keeps memory and table in step exactly when it resolves nothing. -/
theorem survives_step {s s' : FaultManager} {e : Event} (hdb : s.db_.isSome) (hs : Survives s) (h : Step s e s') :
    Survives s' ↔ Misses s e := by
  obtain ⟨inserted, hins⟩ := Option.isSome_iff_exists.1 hdb
  rw [survives_iff hins] at hs
  subst h
  cases e with
  | add f =>
    have hins' : (s.add_fault f).db_ = some (inserted ++ [f]) := by rw [add_fault, hins]; rfl
    rw [Event.apply, survives_iff hins']
    refine iff_of_true ?_ trivial
    rw [add_fault, List.map_append, List.map_append]
    exact hs.append_right _
  | resolve t d code =>
    have hins' : (s.resolve_fault t d code).2.db_ = some inserted := by rw [resolve_fault_eq, hins]
    rw [Event.apply, survives_iff hins', resolve_fault_eq]
    unfold Misses
    constructor
    · -- an erased fault is missed by its row
      intro hp f hf hsame
      have hlen := (hs.symm.trans hp).length_eq
      have hpos := List.length_pos_of_mem hf
      rw [List.length_map, List.length_map, List.length_eraseP_of_mem hf hsame] at hlen
      omega
    · intro hnone
      rw [List.eraseP_of_forall_not hnone]
      exact hs

/-- From an empty system on, the active faults survive a restart after every
step of a run exactly when no step of it resolves a fault. -/
theorem faults_survive_iff {tr : List (FaultManager × Event)} {s : FaultManager} (h : Run Step { db_ := some [] } tr s) :
    (∀ p ∈ tr, Survives p.1) ∧ Survives s ↔ ∀ p ∈ tr, Misses p.1 p.2 := by
  refine Run.all_iff (fun s => s.db_.isSome) Survives Misses rfl ?_ (fun _ _ _ => db_step)
    (fun _ _ _ => survives_step) h
  exact (survives_iff rfl).2 (List.Perm.refl _)

def pump_failure : FaultInfo := { tenant_id := "acme".toList, device_id := "dev-1".toList, code := ⟨3⟩, level := .ERROR }

/-- A standing fault is active after a restart. -/
theorem faults_survive_standing : Survives (add_fault pump_failure { db_ := some [] }) := by
  have hrun : Run Step { db_ := some [] } _ _ := Run.nil.snoc (e := .add pump_failure) rfl
  refine ((faults_survive_iff hrun).2 ?_).2
  intro p hp
  rw [List.mem_singleton.1 hp]
  trivial

/-- A resolved fault comes back. -/
theorem faults_survive_fails : ∃ tr s, Run Step { db_ := some [] } tr s ∧ ¬ Survives s := by
  have hadd : Step { db_ := some [] } (.add pump_failure) (add_fault pump_failure { db_ := some [] }) := rfl
  have hresolve : Step (add_fault pump_failure { db_ := some [] }) (.resolve "acme".toList "dev-1".toList ⟨3⟩) _ := rfl
  refine ⟨_, _, (Run.nil.snoc hadd).snoc hresolve, ?_⟩
  unfold Survives
  decide

end DevSys.FaultManager
