import DevSys.Ota.OtaManager
/-!
# Which firmware a push sends

A push writes one pending record per target, all of them from the first
registered firmware of the version. The product only selects the targets.
-/
open Cxx

namespace DevSys.OtaManager

/-- The three push operations. -/
inductive Push where
  | to_device (tenant_id device_id : Str)
  | grayscale (percent : Int)
  | all
  deriving DecidableEq, Repr

section Pushes
variable (hash : Str → Nat) (mgr : Option DeviceManager) (product version : Str)

def Push.run : Push → OtaManager → StatusCode × OtaManager
  | .to_device t d, s => s.push_to_device t product d version
  | .grayscale percent, s => s.push_grayscale hash mgr product version percent
  | .all, s => s.push_all hash mgr product version

/-- Tenant and id of the devices whose record a push creates or replaces. -/
def Push.targets (s : OtaManager) : Push → List (Str × Str)
  | .to_device t d => if (s.get_firmware version).isSome then [(t, d)] else []
  | .grayscale percent =>
    if percent < 1 ∨ percent > 100 ∨ (s.get_firmware version).isNone then []
    else ((s.candidates mgr product version).filter (selected hash percent)).map fun dev => (dev.tenant_id, dev.device_id)
  | .all =>
    if (s.get_firmware version).isNone then []
    else ((s.candidates mgr product version).filter (selected hash 100)).map fun dev => (dev.tenant_id, dev.device_id)

/-! ## What a push writes -/

/-- The records after writing a pending record for each target. -/
def writePending (fw : FirmwareVersion) (targets : List (Str × Str)) (s : OtaManager) : OtaManager :=
  { s with ota_records_ :=
      targets.foldl (fun m td => UMap.set td.2 (pendingRecord td.1 td.2 version fw) m) s.ota_records_ }

@[simp] theorem get_firmware_writePending (v : Str) (fw : FirmwareVersion) (ts : List (Str × Str)) (s : OtaManager) :
    (writePending version fw ts s).get_firmware v = s.get_firmware v := rfl

theorem push_to_device_eq {s : OtaManager} {fw : FirmwareVersion} (hfw : s.get_firmware version = some fw)
    (t d : Str) : s.push_to_device t product d version = (.OK, writePending version fw [(t, d)] s) := by
  simp [push_to_device, hfw, writePending]

/-- The loop of a grayscale push, device by device. -/
theorem push_loop (percent : Int) {fw : FirmwareVersion} (devs : List Device) (s : OtaManager)
    (hfw : s.get_firmware version = some fw) :
    devs.foldl (fun s dev =>
        if selected hash percent dev then (s.push_to_device dev.tenant_id product dev.device_id version).2 else s) s =
      writePending version fw ((devs.filter (selected hash percent)).map fun dev => (dev.tenant_id, dev.device_id)) s := by
  induction devs generalizing s with
  | nil => rfl
  | cons dev devs ih =>
    rw [List.foldl_cons]
    by_cases hsel : selected hash percent dev
    · rw [if_pos hsel, push_to_device_eq product version hfw, ih _ (by simpa using hfw)]
      simp [hsel, writePending]
    · rw [if_neg hsel, ih _ hfw]
      simp [hsel]

/-- A push of a registered version writes a pending record for each target, and nothing else. -/
theorem run_eq {s : OtaManager} {fw : FirmwareVersion} (hfw : s.get_firmware version = some fw) (p : Push) :
    (p.run hash mgr product version s).2 = writePending version fw (p.targets hash mgr product version s) s := by
  have hnone : (s.get_firmware version).isNone = false := by simp [hfw]
  have hgray (percent : Int) (hp : ¬(percent < 1 ∨ percent > 100)) :
      (s.push_grayscale hash mgr product version percent).2 =
        writePending version fw (((s.candidates mgr product version).filter (selected hash percent)).map
          fun dev => (dev.tenant_id, dev.device_id)) s := by
    simp only [push_grayscale, if_neg hp, hfw]
    exact push_loop hash product version percent _ s hfw
  cases p with
  | to_device t d => simp [Push.run, Push.targets, push_to_device_eq product version hfw, hfw]
  | grayscale percent =>
    by_cases hp : percent < 1 ∨ percent > 100
    · have hp' : percent < 1 ∨ percent > 100 ∨ (s.get_firmware version).isNone = true := hp.imp_right .inl
      simp only [Push.run, Push.targets, push_grayscale, if_pos hp, if_pos hp']
      rfl
    · simp only [Push.run, Push.targets, hnone, Bool.false_eq_true, or_false, if_neg hp, hgray percent hp]
  | all =>
    simp only [Push.run, Push.targets, hnone, Bool.false_eq_true, if_false, push_all, hgray 100 (by decide)]

/-- A push of an unregistered version has no target. -/
theorem targets_none {s : OtaManager} (hfw : s.get_firmware version = none) (p : Push) :
    p.targets hash mgr product version s = [] := by
  cases p <;> simp [Push.targets, hfw]

/-- A push of an unregistered version changes nothing. -/
theorem run_none {s : OtaManager} (hfw : s.get_firmware version = none) (p : Push) :
    (p.run hash mgr product version s).2 = s := by
  cases p with
  | to_device t d => simp [Push.run, push_to_device, hfw]
  | grayscale percent =>
    simp only [Push.run, push_grayscale, hfw]
    split <;> rfl
  | all => simp [Push.run, push_all, push_grayscale, hfw]

/-- Records of devices that are not targets stay. -/
theorem run_frame (p : Push) (s : OtaManager) {d : Str} (hd : d ∉ (p.targets hash mgr product version s).map (·.2)) :
    (p.run hash mgr product version s).2.ota_records_.lookup d = s.ota_records_.lookup d := by
  cases hfw : s.get_firmware version with
  | none => rw [run_none hash mgr product version hfw]
  | some fw =>
    rw [run_eq hash mgr product version hfw]
    exact UMap.lookup_foldl_set_of_not_mem _ _ _ _ hd

/-- The record of a target carries the first firmware of the version. -/
theorem run_target {s : OtaManager} {fw : FirmwareVersion} (hfw : s.get_firmware version = some fw) (p : Push)
    {d : Str} (hd : d ∈ (p.targets hash mgr product version s).map (·.2)) :
    ∃ t, (p.run hash mgr product version s).2.ota_records_.lookup d = some (pendingRecord t d version fw) := by
  rw [run_eq hash mgr product version hfw]
  obtain ⟨td, -, rfl, hl⟩ := UMap.lookup_foldl_set_of_mem (fun td : Str × Str => td.2)
    (fun td => pendingRecord td.1 td.2 version fw) _ s.ota_records_ hd
  exact ⟨td.1, hl⟩

/-! ## The product of the firmware -/

/-- A registered firmware of this version and product has the record's image. -/
def Carries (s : OtaManager) (r : OtaRecord) : Prop :=
  ∃ fw ∈ s.firmware_versions_, fw.version = version ∧ fw.product_id = product ∧
    fw.download_url = r.download_url ∧ fw.checksum_sha256 = r.checksum

/-- Each record the push creates or replaces carries a firmware of the product. -/
def SendsOwnProduct (p : Push) (s : OtaManager) : Prop :=
  ∀ td ∈ p.targets hash mgr product version s,
    ∃ r, (p.run hash mgr product version s).2.ota_records_.lookup td.2 = some r ∧ Carries product version s r

/-- A push sends the product's own firmware exactly when it has no target or
the first firmware of the version is one of the product, up to url and checksum. -/
theorem sendsOwnProduct_iff (p : Push) (s : OtaManager) :
    SendsOwnProduct hash mgr product version p s ↔
      p.targets hash mgr product version s = [] ∨
      ∃ first, s.get_firmware version = some first ∧
        ∃ fw ∈ s.firmware_versions_, fw.version = version ∧ fw.product_id = product ∧
          fw.download_url = first.download_url ∧ fw.checksum_sha256 = first.checksum_sha256 := by
  cases hfw : s.get_firmware version with
  | none =>
    have ht := targets_none hash mgr product version hfw p
    exact ⟨fun _ => .inl ht, fun _ td htd => by rw [ht] at htd; cases htd⟩
  | some first =>
    have htarget {td : Str × Str} (htd : td ∈ p.targets hash mgr product version s) :=
      run_target hash mgr product version hfw p (List.mem_map_of_mem (f := (·.2)) htd)
    constructor
    · intro h
      rcases List.eq_nil_or_concat (p.targets hash mgr product version s) with he | ⟨ts, td, he⟩
      · exact .inl he
      · have htd : td ∈ p.targets hash mgr product version s := by simp [he]
        obtain ⟨r, hr, hc⟩ := h td htd
        obtain ⟨t, ht⟩ := htarget htd
        rw [ht] at hr
        obtain rfl := Option.some.inj hr
        exact .inr ⟨first, rfl, hc⟩
    · rintro (he | ⟨first', hf, hc⟩) td htd
      · rw [he] at htd; cases htd
      · obtain rfl := Option.some.inj hf
        obtain ⟨t, ht⟩ := htarget htd
        exact ⟨_, ht, hc⟩

end Pushes

/-- Two products register the same version; the dispenser gets the coffee machine's image. -/
theorem sendsOwnProduct_fails :
    let coffee : FirmwareVersion :=
      { version := "v2.1.0".toList, product_id := "coffee_machine".toList, download_url := "/coffee.bin".toList }
    let water : FirmwareVersion :=
      { version := "v2.1.0".toList, product_id := "water_dispenser".toList, download_url := "/water.bin".toList }
    ¬ SendsOwnProduct (fun _ => 0) none "water_dispenser".toList "v2.1.0".toList
        (.to_device "acme".toList "dev-water-001".toList) { firmware_versions_ := [coffee, water] } := by
  intro coffee water h
  obtain ⟨r, hr, fw, hfw, -, hp, hu, -⟩ := h ("acme".toList, "dev-water-001".toList) (by decide)
  obtain rfl : pendingRecord "acme".toList "dev-water-001".toList "v2.1.0".toList coffee = r := by
    exact Option.some.inj (by rw [← hr]; rfl)
  rcases List.mem_pair.1 hfw with rfl | rfl
  · exact absurd hp (by decide)
  · exact absurd hu (by decide)

end DevSys.OtaManager
