import DevSys.Lib.Runs
import DevSys.Ota.Firmware
/-!
# Upgrades in progress

A push leaves a pending record, and a report of progress changes no record: it
only adds a blank one for a device that has none, and then reads it through the
iterator found before. So `delete_firmware` never meets the two stages that it
looks for.
-/
open Cxx Runs

namespace DevSys.OtaManager

/-! ## A report of progress -/

/-- The record of the device is read through an iterator of the map as it is
by then, there is one afterwards, and the others stay. -/
structure SafeProgress (tenant_id device_id payload_json : Str) (s : OtaManager) : Prop where
  read : ∃ rec, (s.process_ota_progress tenant_id device_id payload_json).2 = some rec ∧
    (s.process_ota_progress tenant_id device_id payload_json).1.ota_records_.lookup device_id = some rec
  recorded : ((s.process_ota_progress tenant_id device_id payload_json).1.ota_records_.lookup device_id).isSome
  others : ∀ d, d ≠ device_id →
    (s.process_ota_progress tenant_id device_id payload_json).1.ota_records_.lookup d = s.ota_records_.lookup d

/-- Records are kept, and the device gets a blank one if it has none. -/
theorem process_ota_progress_lookup (t d payload : Str) (s : OtaManager) (d' : Str) :
    (s.process_ota_progress t d payload).1.ota_records_.lookup d' =
      if d' = d then some ((s.ota_records_.lookup d).getD { tenant_id := t, device_id := d })
      else s.ota_records_.lookup d' := by
  unfold process_ota_progress
  cases hl : s.ota_records_.lookup d with
  | none => exact UMap.lookup_set d _ s.ota_records_ d'
  | some rec =>
    by_cases hd : d' = d
    · rw [if_pos hd, hd]
      exact hl
    · rw [if_neg hd]

/-- What the log line reads is the record from before. -/
theorem process_ota_progress_read (t d payload : Str) (s : OtaManager) :
    (s.process_ota_progress t d payload).2 = s.ota_records_.lookup d := by
  unfold process_ota_progress
  cases s.ota_records_.lookup d <;> rfl

/-- The iterator designates an entry exactly if the device had a record. -/
theorem progress_safe_iff (t d payload : Str) (s : OtaManager) :
    SafeProgress t d payload s ↔ (s.ota_records_.lookup d).isSome := by
  constructor
  · intro h
    obtain ⟨rec, hread, -⟩ := h.read
    rw [process_ota_progress_read] at hread
    rw [hread]
    rfl
  · intro h
    obtain ⟨rec, hrec⟩ := Option.isSome_iff_exists.1 h
    have hafter : (s.process_ota_progress t d payload).1.ota_records_.lookup d = some rec := by
      rw [process_ota_progress_lookup, if_pos rfl, hrec]
      rfl
    refine ⟨⟨rec, ?_, hafter⟩, by rw [hafter]; rfl, fun d' hd => ?_⟩
    · rw [process_ota_progress_read, hrec]
    · rw [process_ota_progress_lookup, if_neg hd]

/-- The first report of a device that was never told to upgrade. -/
theorem progress_safe_fails : ¬SafeProgress "acme".toList "dev-1".toList "\x7b\x7d".toList {} := by
  intro h
  obtain ⟨rec, hread, -⟩ := h.read
  cases hread

/-! ## Runs -/

inductive Event where
  | register_firmware (fw : FirmwareVersion)
  | push (p : Push) (mgr : Option DeviceManager) (product_id target_version : Str)
  | process_ota_progress (tenant_id device_id payload_json : Str)
  | delete_firmware (version : Str)

variable (hash : Str → Nat)

def Event.apply : Event → OtaManager → OtaManager
  | .register_firmware fw, s => (s.register_firmware fw).2
  | .push p mgr product version, s => (p.run hash mgr product version s).2
  | .process_ota_progress t d payload, s => (s.process_ota_progress t d payload).1
  | .delete_firmware version, s => (s.delete_firmware version).2

def Step (s : OtaManager) (e : Event) (s' : OtaManager) : Prop := s' = e.apply hash s

/-- A device is upgrading to the version. -/
def InUse (version : Str) (s : OtaManager) : Prop :=
  ∃ d rec, s.ota_records_.lookup d = some rec ∧ rec.target_version = version ∧
    rec.stage ∈ ["pending".toList, "downloading".toList, "installing".toList]

/-- A version in use is not deleted. -/
def Protected (s : OtaManager) : Prop :=
  ∀ version, InUse version s →
    (s.delete_firmware version).1 ≠ .OK ∧ (s.delete_firmware version).2.firmware_versions_ = s.firmware_versions_

/-- A push that has a target starts an upgrade. -/
def Event.StartsNone (s : OtaManager) : Event → Prop
  | .push p mgr product version => p.targets hash mgr product version s = []
  | _ => True

/-! ## Stages -/

/-- The stages of the records. -/
def Stages (allowed : List Str) (s : OtaManager) : Prop :=
  ∀ d rec, s.ota_records_.lookup d = some rec → rec.stage ∈ allowed

theorem stages_empty (allowed : List Str) : Stages allowed {} := by
  intro d rec h
  cases h

section
variable {allowed : List Str} {s : OtaManager}

theorem Stages.mono {allowed' : List Str} (h : Stages allowed s) (hsub : allowed ⊆ allowed') : Stages allowed' s :=
  fun d rec hrec => hsub (h d rec hrec)

theorem Stages.of_records_eq {s' : OtaManager} (h : Stages allowed s) (he : s'.ota_records_ = s.ota_records_) :
    Stages allowed s' := by
  rw [Stages, he]
  exact h

theorem Stages.process_ota_progress (h : Stages allowed s) (hblank : [] ∈ allowed) (t d payload : Str) :
    Stages allowed (s.process_ota_progress t d payload).1 := by
  intro d' rec hrec
  rw [process_ota_progress_lookup] at hrec
  split at hrec
  · obtain rfl := Option.some.inj hrec
    cases hl : s.ota_records_.lookup d with
    | none => exact hblank
    | some rec => exact h d rec hl
  · exact h d' rec hrec

theorem Stages.push (h : Stages allowed s) {p : Push} {mgr : Option DeviceManager} {product version : Str}
    (hpending : "pending".toList ∈ allowed ∨ p.targets hash mgr product version s = []) :
    Stages allowed (p.run hash mgr product version s).2 := by
  intro d rec hrec
  by_cases hd : d ∈ (p.targets hash mgr product version s).map (·.2)
  · cases hfw : s.get_firmware version with
    | none =>
      rw [targets_none hash mgr product version hfw p] at hd
      cases hd
    | some fw =>
      obtain ⟨t, ht⟩ := run_target hash mgr product version hfw p hd
      rw [ht] at hrec
      obtain rfl := Option.some.inj hrec
      refine hpending.resolve_right fun hnone => ?_
      rw [hnone] at hd
      cases hd
  · rw [run_frame hash mgr product version p s hd] at hrec
    exact h d rec hrec

/-- A step adds blank records and, if it is a push with a target, pending ones. -/
theorem Stages.step {s' : OtaManager} {e : Event} (h : Stages allowed s) (hblank : [] ∈ allowed)
    (hpending : "pending".toList ∈ allowed ∨ e.StartsNone hash s) (hstep : Step hash s e s') : Stages allowed s' := by
  subst hstep
  cases e with
  | register_firmware fw => exact h.of_records_eq rfl
  | push p mgr product version => exact h.push hash hpending
  | process_ota_progress t d payload => exact h.process_ota_progress hblank t d payload
  | delete_firmware version =>
    refine h.of_records_eq ?_
    rcases delete_firmware_cases version s with ⟨-, hs⟩ | ⟨-, hs⟩ | ⟨-, hs⟩ <;> rw [Event.apply, hs]

end

/-- No record is ever in one of the stages that block a deletion. -/
theorem stages_run {tr : List (OtaManager × Event)} {s : OtaManager} (h : Run (Step hash) {} tr s) :
    Stages [[], "pending".toList] s :=
  h.inv (Stages _) (stages_empty _) fun _ _ _ hi => hi.step hash (by simp) (.inl (by simp))

/-! ## Deletions -/

/-- In these stages nothing counts as active. -/
theorem delete_firmware_of_stages {s : OtaManager} (h : Stages [[], "pending".toList] s) {version : Str}
    (hfw : (s.get_firmware version).isSome) : (s.delete_firmware version).1 = .OK := by
  have hidle : ¬(s.ota_records_.entries.any fun e =>
      e.2.target_version = version ∧ (e.2.stage = "downloading".toList ∨ e.2.stage = "installing".toList)) = true := by
    rw [List.any_eq_true]
    rintro ⟨⟨d, rec⟩, he, hactive⟩
    have hstage := h d rec (UMap.mem_entries_iff.1 he)
    obtain ⟨-, hstages⟩ := of_decide_eq_true hactive
    simp only [List.mem_cons, List.not_mem_nil, or_false] at hstage
    rcases hstage with hs | hs <;> rw [hs] at hstages <;> exact absurd hstages (by decide)
  rw [delete_firmware, if_neg (Option.isSome_iff_ne_none.1 hfw), if_neg hidle]

/-- A version is protected exactly as long as no record waits for it, or it is
not registered any more. -/
theorem protected_iff {s : OtaManager} (h : Stages [[], "pending".toList] s) :
    Protected s ↔ ∀ d rec, s.ota_records_.lookup d = some rec → rec.stage = "pending".toList →
      s.get_firmware rec.target_version = none := by
  constructor
  · intro hp d rec hrec hstage
    by_contra hfw
    refine (hp rec.target_version ⟨d, rec, hrec, rfl, by simp [hstage]⟩).1 ?_
    exact delete_firmware_of_stages h (Option.isSome_iff_ne_none.2 hfw)
  · rintro hnone version ⟨d, rec, hrec, rfl, hstage⟩
    have hpending : rec.stage = "pending".toList := by
      have hold := h d rec hrec
      simp only [List.mem_cons, List.not_mem_nil, or_false] at hold hstage
      rcases hold with hold | hold
      · rw [hold] at hstage
        exact absurd hstage (by decide)
      · exact hold
    have hdelete : s.delete_firmware rec.target_version = (.ERROR, s) := by
      rw [delete_firmware, if_pos (hnone d rec hrec hpending)]
    rw [hdelete]
    exact ⟨StatusCode.noConfusion, rfl⟩

/-! ## The first push -/

/-- Without a pending record everything is protected. -/
theorem protected_of_blank {s : OtaManager} (h : Stages [[]] s) : Protected s := by
  rw [protected_iff (h.mono (by simp))]
  intro d rec hrec hstage
  rw [List.mem_singleton.1 (h d rec hrec)] at hstage
  exact absurd hstage (by decide)

/-- After a push with a target, its version can be deleted. -/
theorem not_protected_push {s : OtaManager} (h : Stages [[], "pending".toList] s) {p : Push}
    {mgr : Option DeviceManager} {product version : Str} (hne : p.targets hash mgr product version s ≠ []) :
    ¬Protected (p.run hash mgr product version s).2 := by
  cases hfw : s.get_firmware version with
  | none => exact absurd (targets_none hash mgr product version hfw p) hne
  | some fw =>
    obtain ⟨td, htd⟩ := List.exists_mem_of_ne_nil _ hne
    obtain ⟨t, ht⟩ := run_target hash mgr product version hfw p (List.mem_map_of_mem (f := (·.2)) htd)
    rw [protected_iff (h.push hash (.inl (by simp)))]
    intro hnone
    have hgone := hnone _ _ ht rfl
    rw [run_eq hash mgr product version hfw p, get_firmware_writePending] at hgone
    have hversion : (pendingRecord t td.2 version fw).target_version = version := rfl
    rw [hversion, hfw] at hgone
    cases hgone

/-- All states of a run protect the firmware in use exactly when no push of the
run starts an upgrade. -/
theorem protected_run_iff {tr : List (OtaManager × Event)} {s : OtaManager} (h : Run (Step hash) {} tr s) :
    (∀ p ∈ tr, Protected p.1) ∧ Protected s ↔ ∀ p ∈ tr, p.2.StartsNone hash p.1 := by
  refine h.all_iff_of_ok (Stages [[]]) Protected (fun s e => e.StartsNone hash s) (stages_empty _)
    (protected_of_blank (stages_empty _)) (fun s e s' hi _ hnone => hi.step hash (by simp) (.inr hnone)) ?_
  intro s e s' hi _ hstep
  constructor
  · intro hp
    by_contra hstarts
    subst hstep
    cases e with
    | push p mgr product version =>
      exact not_protected_push hash (hi.mono (by simp)) hstarts hp
    | _ => exact hstarts trivial
  · intro hnone
    exact protected_of_blank (hi.step hash (by simp) (.inr hnone) hstep)

/-! ## A coffee machine -/

def register_coffee : Event :=
  .register_firmware { version := "v2.1.0".toList, product_id := "coffee".toList, download_url := "/coffee.bin".toList }

def push_coffee : Event := .push (.to_device "acme".toList "dev-1".toList) none "coffee".toList "v2.1.0".toList

/-- The firmware is registered, and a push is of another version. -/
theorem protected_run_mistaken :
    let mistaken : Event := .push (.to_device "acme".toList "dev-1".toList) none "coffee".toList "v2.1".toList
    ∃ (tr : List (OtaManager × Event)) (s : OtaManager),
      tr.map (·.2) = [register_coffee, mistaken, .delete_firmware "v2.1.0".toList] ∧
        (∀ p ∈ tr, Protected p.1) ∧ Protected s := by
  intro mistaken
  have hregister : Step (fun _ => 0) {} register_coffee (register_coffee.apply (fun _ => 0) {}) := rfl
  have hpush : Step (fun _ => 0) (register_coffee.apply (fun _ => 0) {}) mistaken _ := rfl
  have hrun := ((Run.nil.snoc hregister).snoc hpush).snoc (e := .delete_firmware "v2.1.0".toList) rfl
  refine ⟨_, _, rfl, (protected_run_iff (fun _ => 0) hrun).2 ?_⟩
  simp only [List.nil_append, List.cons_append, List.forall_mem_cons]
  refine ⟨trivial, ?_, trivial, List.forall_mem_nil _⟩
  exact targets_none _ _ _ _ (by decide) _

/-- The machine is told to download a firmware that can be deleted by then. -/
theorem protected_fails : ∃ tr s, Run (Step fun _ => 0) {} tr s ∧ ¬Protected s := by
  have hregister : Step (fun _ => 0) {} register_coffee (register_coffee.apply (fun _ => 0) {}) := rfl
  have hpush : Step (fun _ => 0) (register_coffee.apply (fun _ => 0) {}) push_coffee _ := rfl
  refine ⟨_, _, (Run.nil.snoc hregister).snoc hpush, ?_⟩
  have hstages : Stages [[], "pending".toList] (register_coffee.apply (fun _ => 0) {}) :=
    (stages_empty _).of_records_eq rfl
  exact not_protected_push (fun _ => 0) hstages (p := .to_device "acme".toList "dev-1".toList) (by decide)

end DevSys.OtaManager
