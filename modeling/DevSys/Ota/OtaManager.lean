import DevSys.Device.DeviceManager
/-!
# `OtaManager`

The firmware registry and one upgrade record per device. `std::hash` is an
argument; the payload a push builds for its caller is not kept anywhere.
-/
open Cxx

namespace DevSys

structure OtaManager where
  firmware_versions_ : List FirmwareVersion := []
  ota_records_ : UMap Str OtaRecord := ∅

namespace OtaManager

/-! ## Inbound -/

/-- Also returns what the log line reads through the iterator found before the
insertion: `none` is the end iterator. -/
def process_ota_progress (tenant_id device_id _payload_json : Str) (s : OtaManager) : OtaManager × Option OtaRecord :=
  match s.ota_records_.lookup device_id with
  | none =>
    ({ s with ota_records_ := UMap.set device_id { tenant_id := tenant_id, device_id := device_id } s.ota_records_ },
      none)
  | some rec => (s, some rec)

/-! ## Registry -/

def register_firmware (fw : FirmwareVersion) (s : OtaManager) : StatusCode × OtaManager :=
  (.OK, { s with firmware_versions_ := s.firmware_versions_ ++ [fw] })

/-- The first registered firmware of this version. -/
def get_firmware (version : Str) (s : OtaManager) : Option FirmwareVersion :=
  s.firmware_versions_.find? (·.version = version)

/-- Refused while a device downloads or installs the version. -/
def delete_firmware (version : Str) (s : OtaManager) : StatusCode × OtaManager :=
  if s.get_firmware version = none then (.ERROR, s)
  else if s.ota_records_.entries.any fun e =>
      e.2.target_version = version ∧ (e.2.stage = "downloading".toList ∨ e.2.stage = "installing".toList) then
    (.ORDER_INVALID_STATE, s)
  else (.OK, { s with firmware_versions_ := s.firmware_versions_.eraseP (·.version = version) })

/-- An unknown version, one in use, and one that is deleted. -/
theorem delete_firmware_cases (version : Str) (s : OtaManager) :
    (s.get_firmware version = none ∧ s.delete_firmware version = (.ERROR, s)) ∨
    ((s.get_firmware version).isSome ∧ s.delete_firmware version = (.ORDER_INVALID_STATE, s)) ∨
    ((s.get_firmware version).isSome ∧ s.delete_firmware version =
      (.OK, { s with firmware_versions_ := s.firmware_versions_.eraseP (·.version = version) })) := by
  unfold delete_firmware
  split_ifs with hnone hbusy
  · exact .inl ⟨hnone, rfl⟩
  · exact .inr (.inl ⟨Option.isSome_iff_ne_none.2 hnone, rfl⟩)
  · exact .inr (.inr ⟨Option.isSome_iff_ne_none.2 hnone, rfl⟩)

/-! ## Pushes -/

/-- The record a push starts. -/
def pendingRecord (tenant_id device_id target_version : Str) (fw : FirmwareVersion) : OtaRecord where
  tenant_id := tenant_id
  device_id := device_id
  current_version := []
  target_version := target_version
  download_url := fw.download_url
  checksum := fw.checksum_sha256
  stage := "pending".toList
  progress := 0
  force_upgrade := fw.force_upgrade

def push_to_device (tenant_id _product_id device_id target_version : Str) (s : OtaManager) : StatusCode × OtaManager :=
  match s.get_firmware target_version with
  | none => (.ERROR, s)
  | some fw =>
    let rec_ := pendingRecord tenant_id device_id target_version fw
    (.OK, { s with ota_records_ := UMap.set device_id rec_ s.ota_records_ })

/-- The devices a grayscale push chooses from. Without a device manager it
falls back to the devices with a finished upgrade, whatever their product. -/
def candidates (device_mgr_ : Option DeviceManager) (product_id target_version : Str) (s : OtaManager) : List Device :=
  match device_mgr_ with
  | some mgr =>
    mgr.list_all_devices.filter fun dev =>
      dev.product_id = product_id ∧ dev.activated ∧ dev.network_status ≠ .OFFLINE ∧ dev.work_status ≠ .FAULT ∧
        dev.firmware_version ≠ target_version
  | none =>
    (s.ota_records_.entries.filter fun e => e.2.target_version ≠ target_version ∧ e.2.stage = "done".toList).map
      fun e => { device_id := e.1, product_id := product_id, tenant_id := e.2.tenant_id }

/-- Whether the hash of the device id puts it into the first `percent` buckets. -/
def selected (hash : Str → Nat) (percent : Int) (dev : Device) : Bool := (hash dev.device_id % 100 : Nat) < percent

def push_grayscale (hash : Str → Nat) (device_mgr_ : Option DeviceManager) (product_id target_version : Str)
    (percent : Int) (s : OtaManager) : StatusCode × OtaManager :=
  if percent < 1 ∨ percent > 100 then (.ERROR, s)
  else match s.get_firmware target_version with
    | none => (.ERROR, s)
    | some _ =>
      let push (s : OtaManager) (dev : Device) : OtaManager :=
        if selected hash percent dev then (s.push_to_device dev.tenant_id product_id dev.device_id target_version).2
        else s
      (.OK, (s.candidates device_mgr_ product_id target_version).foldl push s)

def push_all (hash : Str → Nat) (device_mgr_ : Option DeviceManager) (product_id target_version : Str)
    (s : OtaManager) : StatusCode × OtaManager :=
  s.push_grayscale hash device_mgr_ product_id target_version 100

end OtaManager

end DevSys
