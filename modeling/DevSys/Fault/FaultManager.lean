import DevSys.Common.Types
/-!
# `FaultManager`

The active faults of all devices, in the order they were reported.
-/
open Cxx

namespace DevSys

/-- `db_` holds the faults handed to `insert_fault`, when a database is set. -/
structure FaultManager where
  active_faults_ : List FaultInfo := []
  db_ : Option (List FaultInfo) := none

namespace FaultManager

def add_fault (fault : FaultInfo) (s : FaultManager) : FaultManager :=
  { s with active_faults_ := s.active_faults_ ++ [fault], db_ := s.db_.map (· ++ [fault]) }

/-- The test `resolve_fault` looks for. -/
def sameFault (tenant_id device_id : Str) (code : FaultCode) (f : FaultInfo) : Bool :=
  f.tenant_id = tenant_id ∧ f.device_id = device_id ∧ f.code = code

/-- The first matching fault is erased. -/
def resolve_fault (tenant_id device_id : Str) (code : FaultCode) (s : FaultManager) : StatusCode × FaultManager :=
  if s.active_faults_.any (sameFault tenant_id device_id code) then
    (.OK, { s with active_faults_ := s.active_faults_.eraseP (sameFault tenant_id device_id code) })
  else (.ORDER_NOT_FOUND, s)

def active_faults (s : FaultManager) : List FaultInfo := s.active_faults_

def all_faults (s : FaultManager) : List FaultInfo := s.active_faults_

def faults_by_device (tenant_id device_id : Str) (s : FaultManager) : List FaultInfo :=
  s.active_faults_.filter fun f => f.tenant_id = tenant_id ∧ f.device_id = device_id

theorem resolve_fault_eq (t d : Str) (code : FaultCode) (s : FaultManager) :
    (s.resolve_fault t d code).2 = { s with active_faults_ := s.active_faults_.eraseP (sameFault t d code) } := by
  unfold resolve_fault
  split
  · rfl
  · rename_i h
    rw [List.eraseP_of_forall_not]
    simpa using h

end FaultManager

end DevSys
