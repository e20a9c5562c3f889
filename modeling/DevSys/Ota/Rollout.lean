import DevSys.Ota.Firmware
/-!
# Staged rollout

Which devices a grayscale push selects depends on the product, the version, the
devices and the hash of their ids, and not on the records. So a push at a higher
percentage starts from where a lower one has left off.
-/
open Cxx

namespace DevSys.OtaManager

/-- A device of the product that is there to take another firmware. -/
structure Eligible (product version : Str) (dev : Device) : Prop where
  product : dev.product_id = product
  activated : dev.activated = true
  online : dev.network_status ≠ .OFFLINE
  healthy : dev.work_status ≠ .FAULT
  other : dev.firmware_version ≠ version

section Rollout
variable (hash : Str → Nat) (mgr : DeviceManager) (product version : Str)

/-- An eligible device in one of the first `percent` buckets. -/
def Chosen (percent : Int) (dev : Device) : Prop :=
  dev ∈ mgr.list_all_devices ∧ Eligible product version dev ∧ ((hash dev.device_id % 100 : Nat) : Int) < percent

/-- The devices that the loop pushes to. -/
def rollout (percent : Int) (s : OtaManager) : List Device :=
  (s.candidates (some mgr) product version).filter (selected hash percent)

theorem mem_candidates {dev : Device} (s : OtaManager) :
    dev ∈ s.candidates (some mgr) product version ↔ dev ∈ mgr.list_all_devices ∧ Eligible product version dev := by
  unfold candidates
  rw [List.mem_filter, decide_eq_true_eq]
  refine and_congr_right fun _ => ?_
  constructor
  · rintro ⟨hproduct, hactivated, honline, hhealthy, hother⟩
    exact ⟨hproduct, hactivated, honline, hhealthy, hother⟩
  · intro h
    exact ⟨h.product, h.activated, h.online, h.healthy, h.other⟩

theorem mem_rollout {dev : Device} (percent : Int) (s : OtaManager) :
    dev ∈ rollout hash mgr product version percent s ↔ Chosen hash mgr product version percent dev := by
  rw [rollout, List.mem_filter, mem_candidates, selected, decide_eq_true_eq, and_assoc]
  rfl

theorem rollout_subset {p q : Int} (hpq : p ≤ q) (s : OtaManager) :
    rollout hash mgr product version p s ⊆ rollout hash mgr product version q s := by
  intro dev hdev
  rw [mem_rollout] at hdev ⊢
  exact ⟨hdev.1, hdev.2.1, Int.lt_of_lt_of_le hdev.2.2 hpq⟩

/-- All buckets are below 100. -/
theorem mem_rollout_all {dev : Device} (s : OtaManager) :
    dev ∈ rollout hash mgr product version 100 s ↔ dev ∈ s.candidates (some mgr) product version := by
  rw [mem_rollout, mem_candidates, Chosen]
  have hbucket := Nat.mod_lt (hash dev.device_id) (by decide : 0 < 100)
  refine and_congr_right fun _ => and_iff_left ?_
  omega

/-! ## One push -/

section Push
variable {hash mgr product version} {s : OtaManager} {fw : FirmwareVersion}
  (hfw : s.get_firmware version = some fw)
include hfw

/-- The records behind a push at an allowed percentage. -/
theorem push_grayscale_eq {percent : Int} (hpercent : 1 ≤ percent ∧ percent ≤ 100) :
    (s.push_grayscale hash (some mgr) product version percent).2 =
      writePending version fw
        ((rollout hash mgr product version percent s).map fun dev => (dev.tenant_id, dev.device_id)) s := by
  have hallowed : ¬(percent < 1 ∨ percent > 100) := by omega
  simp only [push_grayscale, if_neg hallowed, hfw]
  exact push_loop hash product version percent _ s hfw

theorem records_push_grayscale {percent : Int} (hpercent : 1 ≤ percent ∧ percent ≤ 100) :
    (s.push_grayscale hash (some mgr) product version percent).2.ota_records_ =
      (rollout hash mgr product version percent s).foldl
        (fun m dev => UMap.set dev.device_id (pendingRecord dev.tenant_id dev.device_id version fw) m)
        s.ota_records_ := by
  rw [push_grayscale_eq hfw hpercent, writePending, List.foldl_map]

theorem get_firmware_push_grayscale {percent : Int} (hpercent : 1 ≤ percent ∧ percent ≤ 100) :
    (s.push_grayscale hash (some mgr) product version percent).2.get_firmware version = some fw := by
  rw [push_grayscale_eq hfw hpercent, get_firmware_writePending, hfw]

/-- A chosen device has a fresh record. -/
theorem lookup_of_chosen {percent : Int} (hpercent : 1 ≤ percent ∧ percent ≤ 100)
    (hids : (mgr.list_all_devices.map (·.device_id)).Nodup) {dev : Device}
    (hdev : Chosen hash mgr product version percent dev) :
    (s.push_grayscale hash (some mgr) product version percent).2.ota_records_.lookup dev.device_id =
      some (pendingRecord dev.tenant_id dev.device_id version fw) := by
  have hsub : (rollout hash mgr product version percent s).Sublist mgr.list_all_devices :=
    List.filter_sublist.trans List.filter_sublist
  rw [records_push_grayscale hfw hpercent]
  refine UMap.lookup_foldl_set_of_nodup (f := (·.device_id)) _ ((hsub.map _).nodup hids) _ ?_
  exact (mem_rollout hash mgr product version percent s).2 hdev

/-- Every other record stays. -/
theorem lookup_of_not_chosen {percent : Int} (hpercent : 1 ≤ percent ∧ percent ≤ 100) {d : Str}
    (hd : ∀ dev, Chosen hash mgr product version percent dev → dev.device_id ≠ d) :
    (s.push_grayscale hash (some mgr) product version percent).2.ota_records_.lookup d = s.ota_records_.lookup d := by
  rw [records_push_grayscale hfw hpercent]
  apply UMap.lookup_foldl_set_of_not_mem fun dev : Device => dev.device_id
  intro hmem
  obtain ⟨dev, hdev, hid⟩ := List.mem_map.1 hmem
  exact hd dev ((mem_rollout hash mgr product version percent s).1 hdev) hid

/-! ## Two pushes -/

/-- The higher percentage alone. -/
theorem lookup_push_push {p q : Int} (hp : 1 ≤ p) (hpq : p ≤ q) (hq : q ≤ 100) (d : Str) :
    let push (percent : Int) (s : OtaManager) := (s.push_grayscale hash (some mgr) product version percent).2
    (push q (push p s)).ota_records_.lookup d = (push q s).ota_records_.lookup d := by
  have hpallowed : 1 ≤ p ∧ p ≤ 100 := ⟨hp, Int.le_trans hpq hq⟩
  have hqallowed : 1 ≤ q ∧ q ≤ 100 := ⟨Int.le_trans hp hpq, hq⟩
  have hfw' : (s.push_grayscale hash (some mgr) product version p).2.get_firmware version = some fw :=
    get_firmware_push_grayscale hfw hpallowed
  dsimp only
  rw [records_push_grayscale hfw' hqallowed, records_push_grayscale hfw hqallowed]
  -- the second loop goes over the same devices
  apply UMap.lookup_foldl_set_congr fun dev : Device => dev.device_id
  by_cases hd : d ∈ (rollout hash mgr product version q s).map (·.device_id)
  · exact .inl hd
  · refine .inr (lookup_of_not_chosen hfw hpallowed fun dev hdev hid => hd (List.mem_map.2 ⟨dev, ?_, hid⟩))
    apply rollout_subset hash mgr product version hpq s
    exact (mem_rollout hash mgr product version p s).2 hdev

end Push

/-- A push at `p` percent gives each eligible device of the first `p` buckets a
fresh record and leaves the others; a higher percentage selects these devices
and more, up to all eligible ones, and does not depend on earlier pushes. -/
theorem grayscale_exact_monotone {s : OtaManager} {fw : FirmwareVersion} (hfw : s.get_firmware version = some fw)
    (hids : (mgr.list_all_devices.map (·.device_id)).Nodup) {p q : Int} (hp : 1 ≤ p) (hpq : p ≤ q) (hq : q ≤ 100) :
    let push (percent : Int) (s : OtaManager) := (s.push_grayscale hash (some mgr) product version percent).2
    (∀ dev, Chosen hash mgr product version p dev →
      (push p s).ota_records_.lookup dev.device_id =
        some (pendingRecord dev.tenant_id dev.device_id version fw)) ∧
    (∀ d, (∀ dev, Chosen hash mgr product version p dev → dev.device_id ≠ d) →
      (push p s).ota_records_.lookup d = s.ota_records_.lookup d) ∧
    rollout hash mgr product version p s ⊆ rollout hash mgr product version q s ∧
    (∀ dev ∈ mgr.list_all_devices, Eligible product version dev → dev ∈ rollout hash mgr product version 100 s) ∧
    ∀ d, (push q (push p s)).ota_records_.lookup d = (push q s).ota_records_.lookup d := by
  have hallowed : 1 ≤ p ∧ p ≤ 100 := ⟨hp, Int.le_trans hpq hq⟩
  refine ⟨fun dev => lookup_of_chosen hfw hallowed hids, fun d => lookup_of_not_chosen hfw hallowed,
    rollout_subset hash mgr product version hpq s, fun dev hdev heligible => ?_,
    lookup_push_push hfw hp hpq hq⟩
  rw [mem_rollout_all, mem_candidates]
  exact ⟨hdev, heligible⟩

end Rollout

/-! ## Two coffee machines -/

/-- A device that is there and idle. -/
def machine (device_id : Str) : Device where
  tenant_id := "acme".toList
  device_id := device_id
  product_id := "coffee".toList
  network_status := .ONLINE
  firmware_version := "v1.0.0".toList
  activated := true

def machines : DeviceManager :=
  (DeviceManager.store {} "acme".toList "dev-1".toList (machine "dev-1".toList)).store "acme".toList "dev-2".toList
    (machine "dev-2".toList)

def latest : FirmwareVersion := { version := "v2.0.0".toList, product_id := "coffee".toList }

/-- The machine in bucket 0 goes first, the one in bucket 50 second. -/
theorem grayscale_exact_monotone_two :
    let hash (d : Str) : Nat := if d = "dev-1".toList then 0 else 50
    let push (percent : Int) (s : OtaManager) :=
      (s.push_grayscale hash (some machines) "coffee".toList "v2.0.0".toList percent).2
    let s : OtaManager := { firmware_versions_ := [latest] }
    (push 10 s).ota_records_.lookup "dev-1".toList =
        some (pendingRecord "acme".toList "dev-1".toList "v2.0.0".toList latest) ∧
      (push 10 s).ota_records_.lookup "dev-2".toList = none ∧
      ∀ d, (push 60 (push 10 s)).ota_records_.lookup d = (push 60 s).ota_records_.lookup d := by
  intro hash push s
  have hlatest : s.get_firmware "v2.0.0".toList = some latest := by decide
  have h := grayscale_exact_monotone hash machines "coffee".toList "v2.0.0".toList hlatest
     (by decide) (p := 10) (q := 60) (by decide) (by decide) (by decide)
  have hone : Chosen hash machines "coffee".toList "v2.0.0".toList 10 (machine "dev-1".toList) :=
    ⟨by decide, ⟨by decide, by decide, by decide, by decide, by decide⟩, by decide⟩
  refine ⟨h.1 _ hone, h.2.1 _ fun dev hdev hid => ?_, h.2.2.2.2⟩
  -- the bucket of the second machine is 50
  have hbucket := hdev.2.2
  rw [hid] at hbucket
  exact absurd hbucket (by decide)

end DevSys.OtaManager
