import DevSys.Device.DeviceManager
import DevSys.Fault.FaultManager
/-!
# Faults of deleted devices

At start-up a fault of a device that is not registered moves to the first
registered device. Faults and devices belong to tenants; the move looks at
device ids only and keeps the tenant of the fault.
-/
open Cxx

namespace DevSys.FaultManager

/-! ## The source -/

def reassign_unknown_devices (valid_ids : List Str) (target_device : Str) (s : FaultManager) : FaultManager :=
  { s with active_faults_ := s.active_faults_.map fun f =>
      if valid_ids.contains f.device_id then f else { f with device_id := target_device } }

/-- The start-up block of `main`, after the devices and the faults are loaded. -/
def reassign_stale_faults (device_mgr : DeviceManager) (fault_mgr : FaultManager) : FaultManager :=
  match device_mgr.list_all_devices with
  | [] => fault_mgr
  | front :: devices =>
    fault_mgr.reassign_unknown_devices ((front :: devices).map (·.device_id)) front.device_id

/-! ## Faults and their devices -/

/-- The device of each active fault is registered under the tenant of the fault,
and the faults of the registered devices are all the active ones. -/
structure Attached (device_mgr : DeviceManager) (fault_mgr : FaultManager) : Prop where
  registered : ∀ f ∈ fault_mgr.active_faults, (device_mgr.get_device f.tenant_id f.device_id).isSome
  found : ∀ f ∈ fault_mgr.active_faults, ∃ t d, (device_mgr.get_device t d).isSome ∧ f ∈ fault_mgr.faults_by_device t d

/-- A fault whose device id is registered is of the tenant it is registered
under. Otherwise the tenant of the fault has a device with the id of the target. -/
structure OwnTenant (device_mgr : DeviceManager) (target : Str) (f : FaultInfo) : Prop where
  known : f.device_id ∈ device_mgr.list_all_devices.map (·.device_id) →
    (device_mgr.get_device f.tenant_id f.device_id).isSome
  unknown : f.device_id ∉ device_mgr.list_all_devices.map (·.device_id) →
    (device_mgr.get_device f.tenant_id target).isSome

theorem mem_faults_by_device {t d : Str} {s : FaultManager} {f : FaultInfo} :
    f ∈ s.faults_by_device t d ↔ f ∈ s.active_faults ∧ f.tenant_id = t ∧ f.device_id = d := by
  rw [faults_by_device, List.mem_filter, decide_eq_true_eq]
  rfl

/-- Being found is no more than being registered. -/
theorem attached_iff (device_mgr : DeviceManager) (fault_mgr : FaultManager) : Attached device_mgr fault_mgr ↔
    ∀ f ∈ fault_mgr.active_faults, (device_mgr.get_device f.tenant_id f.device_id).isSome := by
  refine ⟨fun h => h.registered, fun h => ⟨h, fun f hf => ?_⟩⟩
  exact ⟨f.tenant_id, f.device_id, h f hf, mem_faults_by_device.2 ⟨hf, rfl, rfl⟩⟩

/-- The move leaves every fault with a device of its tenant exactly when each
loaded fault is of a tenant that has the device it ends up at. -/
theorem reassign_attached_iff {device_mgr : DeviceManager} {front : Device} {devices : List Device}
    (hlist : device_mgr.list_all_devices = front :: devices) (fault_mgr : FaultManager) :
    Attached device_mgr (reassign_stale_faults device_mgr fault_mgr) ↔
      ∀ f ∈ fault_mgr.active_faults, OwnTenant device_mgr front.device_id f := by
  rw [attached_iff]
  have hmoved : (reassign_stale_faults device_mgr fault_mgr).active_faults = fault_mgr.active_faults.map fun f =>
      if (device_mgr.list_all_devices.map (·.device_id)).contains f.device_id then f
      else { f with device_id := front.device_id } := by
    rw [reassign_stale_faults, hlist]
    rfl
  rw [hmoved, List.forall_mem_map]
  refine forall₂_congr fun f _ => ?_
  by_cases hid : f.device_id ∈ device_mgr.list_all_devices.map (·.device_id)
  · rw [if_pos (List.contains_iff_mem.2 hid)]
    exact ⟨fun h => ⟨fun _ => h, fun hnot => absurd hid hnot⟩, fun h => h.known hid⟩
  · rw [if_neg fun h => hid (List.contains_iff_mem.1 h)]
    exact ⟨fun h => ⟨fun hknown => absurd hknown hid, fun _ => h⟩, fun h => h.unknown hid⟩

/-! ## Two tenants -/

/-- A registry with one device. -/
def one_machine : DeviceManager :=
  DeviceManager.load_from_database
    [{ tenant_id := "acme".toList, device_id := "dev-1".toList, activated := true }] {}

def leak (tenant_id device_id : Str) : FaultInfo :=
  { tenant_id := tenant_id, device_id := device_id, code := ⟨5⟩, level := .ERROR }

/-- A deleted device of the tenant that has the first one. -/
theorem reassign_same_tenant :
    Attached one_machine (reassign_stale_faults one_machine { active_faults_ := [leak "acme".toList "dev-9".toList] }) := by
  have hlist : one_machine.list_all_devices =
      [{ tenant_id := "acme".toList, device_id := "dev-1".toList, activated := true }] := rfl
  refine (reassign_attached_iff hlist _).2 fun f hf => ?_
  rw [List.mem_singleton.1 hf]
  have hunknown : "dev-9".toList ∉ one_machine.list_all_devices.map (·.device_id) := by decide
  exact ⟨fun hknown => absurd hknown hunknown, fun _ => rfl⟩

/-- A fault of another tenant ends up at a device that this tenant does not
have. No registered device shows it. -/
theorem reassign_other_tenant :
    let fault_mgr := reassign_stale_faults one_machine { active_faults_ := [leak "globex".toList "dev-9".toList] }
    fault_mgr.active_faults = [leak "globex".toList "dev-1".toList] ∧
      fault_mgr.faults_by_device "acme".toList "dev-1".toList = [] ∧ ¬ Attached one_machine fault_mgr := by
  refine ⟨rfl, rfl, fun h => ?_⟩
  have hreg := h.registered (leak "globex".toList "dev-1".toList) (List.mem_singleton.2 rfl)
  cases hreg

end DevSys.FaultManager
