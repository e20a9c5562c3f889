import DevSys.Device.Sweep
/-!
# The offline sweep alone

The sweep writes back by the tenant and the device id in its copy. With nothing
else running it meets the devices that it has listed, as long as every record
names the tenant and the device it is stored under.
-/
open Cxx Runs

namespace DevSys.DeviceManager

/-- The sweep and the calls of the offline callback, in their order. -/
def check_offline_calls (now : Int) (s : DeviceManager) : DeviceManager × List (Str × Str) :=
  (s.list_offline_devices now 180).foldl
    (fun (s, calls) dev => (s.mark_offline dev, calls ++ [(dev.tenant_id, dev.device_id)])) (s, [])

namespace OfflineCheck

/-! ## Runs -/

inductive Event where
  | process_heartbeat (now : Int) (tenant_id device_id product_id payload_json : Str)
  | register_device (upsert : Option StatusCode) (device : Device)
  | migrate_device (device_id new_tenant : Str)
  | remove_device (tenant_id device_id : Str)
  | update_device_status (tenant_id device_id : Str) (net_st : NetworkStatus) (work_st : WorkStatus)
  | load_from_database (devices : List Device)

def Event.apply : Event → DeviceManager → DeviceManager
  | .process_heartbeat now t d product payload, s => s.process_heartbeat now t d product payload
  | .register_device upsert device, s => (s.register_device upsert device).2
  | .migrate_device d new_tenant, s => (s.migrate_device d new_tenant).2
  | .remove_device t d, s => (s.remove_device t d).2
  | .update_device_status t d net work, s => (s.update_device_status t d net work).2
  | .load_from_database devices, s => s.load_from_database devices

def Step (s : DeviceManager) (e : Event) (s' : DeviceManager) : Prop := s' = e.apply s

/-! ## Records and their keys -/

/-- Each record names the tenant and the device it is stored under. -/
def Labelled (s : DeviceManager) : Prop :=
  ∀ t d dev, s.rec? t d = some dev → dev.tenant_id = t ∧ dev.device_id = d

theorem labelled_empty : Labelled {} := by
  intro t d dev h
  rw [rec?_empty] at h
  cases h

section
variable {s : DeviceManager} (hs : Labelled s)
include hs

/-- One record is replaced, or removed. -/
theorem Labelled.of_rec? {s' : DeviceManager} {t d : Str} {r : Option Device}
    (hrec : ∀ t' d', s'.rec? t' d' = if t' = t ∧ d' = d then r else s.rec? t' d')
    (hr : ∀ dev, r = some dev → dev.tenant_id = t ∧ dev.device_id = d) : Labelled s' := by
  intro t' d' dev h
  rw [hrec] at h
  by_cases hk : t' = t ∧ d' = d
  · rw [if_pos hk] at h
    rw [hk.1, hk.2]
    exact hr dev h
  · rw [if_neg hk] at h
    exact hs t' d' dev h

theorem Labelled.store {dev : Device} : Labelled (s.store dev.tenant_id dev.device_id dev) := by
  refine hs.of_rec? (rec?_store s dev.tenant_id dev.device_id dev) ?_
  rintro _ ⟨⟩
  exact ⟨rfl, rfl⟩

theorem Labelled.update_device_status (t d : Str) (net : NetworkStatus) (work : WorkStatus) :
    Labelled (s.update_device_status t d net work).2 := by
  refine hs.of_rec? (update_device_status_rec? t d net work s) fun dev h => ?_
  obtain ⟨old, hold, rfl⟩ := Option.map_eq_some_iff.1 h
  exact hs t d old hold

theorem Labelled.step {e : Event} {s' : DeviceManager} (hstep : Step s e s') : Labelled s' := by
  cases hstep
  cases e with
  | process_heartbeat now t d product payload =>
    refine hs.of_rec? (process_heartbeat_rec? now t d product payload s) ?_
    rintro _ ⟨⟩
    cases hold : s.rec? t d with
    | none => exact ⟨rfl, rfl⟩
    | some old => exact hs t d old hold
  | register_device upsert dev =>
    refine hs.of_rec? (register_device_rec? upsert dev s) ?_
    rintro _ ⟨⟩
    exact ⟨rfl, rfl⟩
  | migrate_device d new_tenant =>
    dsimp only [Event.apply]
    cases hloc : s.locate d with
    | none =>
      rw [migrate_device_none hloc]
      exact hs
    | some found =>
      obtain ⟨t, dev⟩ := found
      -- the record is taken out of its old tenant, relabelled and put back
      have hold := hs t d dev (locate_some hloc)
      have hgone : Labelled (s.unstore t d) := hs.of_rec? (rec?_unstore s t d) fun _ h => by cases h
      refine hgone.of_rec? (migrate_device_rec? hloc new_tenant) ?_
      rintro _ ⟨⟩
      exact ⟨rfl, hold.2⟩
  | remove_device t d => exact hs.of_rec? (remove_device_rec? t d s) fun _ h => by cases h
  | update_device_status t d net work => exact hs.update_device_status t d net work
  | load_from_database devices =>
    dsimp only [Event.apply, load_from_database]
    induction devices generalizing s with
    | nil => exact hs
    | cons dev devices ih =>
      rw [List.foldl_cons]
      apply ih
      split
      · exact hs.store
      · exact hs

/-! ## The sweep -/

/-- What the sweep makes of a record. -/
def offline (dev : Device) : Device := { dev with network_status := .OFFLINE }

/-- The sweep over distinct devices that are stored as they were listed. -/
theorem Labelled.rec?_foldl_mark_offline {l : List Device}
    (hkeys : (l.map fun dev => (dev.tenant_id, dev.device_id)).Nodup)
    (hl : ∀ dev ∈ l, s.rec? dev.tenant_id dev.device_id = some dev) (t d : Str) :
    (l.foldl mark_offline s).rec? t d = (s.rec? t d).map fun dev => if dev ∈ l then offline dev else dev := by
  induction l generalizing s with
  | nil => simp
  | cons x l ih =>
    rw [List.map_cons, List.nodup_cons] at hkeys
    rw [List.forall_mem_cons] at hl
    have hmark (t d : Str) : (s.mark_offline x).rec? t d =
        if t = x.tenant_id ∧ d = x.device_id then some (offline x) else s.rec? t d := by
      rw [Sweep.mark_offline_rec?, hl.1]
      rfl
    have hrest : ∀ dev ∈ l, (s.mark_offline x).rec? dev.tenant_id dev.device_id = some dev := by
      intro dev hdev
      rw [hmark, if_neg, hl.2 dev hdev]
      rintro ⟨ht, hd⟩
      exact hkeys.1 (List.mem_map.2 ⟨dev, hdev, by rw [ht, hd]⟩)
    rw [List.foldl_cons, ih (s := s.mark_offline x) (hs.update_device_status _ _ _ _) hkeys.2 hrest, hmark]
    by_cases hk : t = x.tenant_id ∧ d = x.device_id
    · -- the device is not listed again
      have hnot : offline x ∉ l := fun hmem => hkeys.1 (List.mem_map.2 ⟨offline x, hmem, rfl⟩)
      rw [if_pos hk, hk.1, hk.2, hl.1]
      simp [hnot]
    · rw [if_neg hk]
      refine Option.map_congr fun dev hdev => ?_
      have hne : dev ≠ x := by
        rintro rfl
        obtain ⟨ht, hd⟩ := hs t d dev hdev
        exact hk ⟨ht.symm, hd.symm⟩
      simp [hne]

/-- No device is listed twice. -/
theorem Labelled.nodup_keys : (s.list_all_devices.map fun dev => (dev.tenant_id, dev.device_id)).Nodup := by
  have hlist : (s.list_all_devices.map fun dev => (dev.tenant_id, dev.device_id)) = s.keys := by
    rw [list_all_devices, List.map_flatMap]
    refine List.flatMap_congr fun e he => ?_
    rw [AList.keys, List.keys, List.map_map, List.map_map]
    refine List.map_congr_left fun f hf => ?_
    have hrec : s.rec? e.1 f.1 = some f.2 := by
      rw [rec?, at_, UMap.mem_entries_iff.1 he]
      exact UMap.mem_entries_iff.1 hf
    obtain ⟨ht, hd⟩ := hs e.1 f.1 f.2 hrec
    exact Prod.ext ht hd
  rw [hlist]
  exact s.nodup_keys

/-- A record after the sweep: offline if nothing was heard for more than three minutes. -/
def swept (now : Int) (dev : Device) : Device := if Silent now 180 dev then offline dev else dev

omit hs in
theorem check_offline_calls_eq (now : Int) (s : DeviceManager) : check_offline_calls now s =
    (s.check_offline_devices now, (s.list_offline_devices now 180).map fun dev => (dev.tenant_id, dev.device_id)) := by
  rw [check_offline_calls, check_offline_devices]
  generalize s.list_offline_devices now 180 = l
  suffices hall : ∀ (s : DeviceManager) (calls : List (Str × Str)), l.foldl
      (fun (s, calls) dev => (s.mark_offline dev, calls ++ [(dev.tenant_id, dev.device_id)])) (s, calls) =
      (l.foldl mark_offline s, calls ++ l.map fun dev => (dev.tenant_id, dev.device_id)) from hall s []
  induction l with
  | nil => simp
  | cons dev l ih =>
    intro s calls
    rw [List.foldl_cons, ih, List.foldl_cons, List.map_cons, List.append_assoc]
    rfl

theorem Labelled.nodup_offline (now : Int) :
    ((s.list_offline_devices now 180).map fun dev => (dev.tenant_id, dev.device_id)).Nodup :=
  (List.filter_sublist.map _).nodup hs.nodup_keys

theorem Labelled.check_offline_rec? (now : Int) (t d : Str) :
    (check_offline_calls now s).1.rec? t d = (s.rec? t d).map (swept now) := by
  have hlisted : ∀ dev ∈ s.list_offline_devices now 180, s.rec? dev.tenant_id dev.device_id = some dev := by
    intro dev hdev
    obtain ⟨t, d, hrec⟩ := mem_list_all_devices.1 (List.mem_of_mem_filter hdev)
    obtain ⟨rfl, rfl⟩ := hs t d dev hrec
    exact hrec
  rw [check_offline_calls_eq, check_offline_devices, hs.rec?_foldl_mark_offline (hs.nodup_offline now) hlisted]
  refine Option.map_congr fun dev hdev => ?_
  have hall : dev ∈ s.list_all_devices := mem_list_all_devices.2 ⟨t, d, hdev⟩
  simp only [list_offline_devices, List.mem_filter, hall, true_and, decide_eq_true_eq, swept]

theorem Labelled.count_calls (now : Int) (t d : Str) :
    (check_offline_calls now s).2.count (t, d) =
      if ∃ dev ∈ s.rec? t d, Silent now 180 dev then 1 else 0 := by
  have hcalled : (t, d) ∈ (s.list_offline_devices now 180).map (fun dev => (dev.tenant_id, dev.device_id)) ↔
      ∃ dev ∈ s.rec? t d, Silent now 180 dev := by
    simp only [list_offline_devices, List.mem_map, List.mem_filter, decide_eq_true_eq, Prod.mk.injEq]
    constructor
    · rintro ⟨dev, ⟨hdev, hsilent⟩, rfl, rfl⟩
      obtain ⟨t, d, hrec⟩ := mem_list_all_devices.1 hdev
      obtain ⟨rfl, rfl⟩ := hs t d dev hrec
      exact ⟨dev, hrec, hsilent⟩
    · rintro ⟨dev, hrec, hsilent⟩
      exact ⟨dev, ⟨mem_list_all_devices.2 ⟨t, d, hrec⟩, hsilent⟩, hs t d dev hrec⟩
  rw [check_offline_calls_eq, (hs.nodup_offline now).count]
  exact if_congr hcalled rfl rfl

end

/-- Every record names its key, and one sweep alone sets exactly the silent
devices offline, changes nothing else and calls back once for each, as long as
the time since the last heartbeat does not overflow. -/
theorem offline_check_exact {tr : List (DeviceManager × Event)} {s : DeviceManager} (hrun : Run Step {} tr s) :
    Labelled s ∧ ∀ now t d, (∀ dev ∈ s.rec? t d, AgeFits now dev) →
      (check_offline_calls now s).1.rec? t d = (s.rec? t d).map (fun dev =>
        if now - dev.last_heartbeat_at > 180 then { dev with network_status := .OFFLINE } else dev) ∧
      (check_offline_calls now s).2.count (t, d) =
        if ∃ dev ∈ s.rec? t d, now - dev.last_heartbeat_at > 180 then 1 else 0 := by
  have hs : Labelled s := hrun.inv Labelled labelled_empty fun _ _ _ hs => hs.step
  refine ⟨hs, fun now t d hfits => ⟨?_, ?_⟩⟩
  · rw [hs.check_offline_rec?]
    refine Option.map_congr fun dev hdev => ?_
    simp only [swept, silent_iff (hfits dev hdev)]
    rfl
  · rw [hs.count_calls]
    have hsilent : (∃ dev ∈ s.rec? t d, Silent now 180 dev) ↔
        ∃ dev ∈ s.rec? t d, now - dev.last_heartbeat_at > 180 :=
      exists_congr fun dev => and_congr_right fun hdev => silent_iff (hfits dev hdev) 180
    simp only [hsilent]

def register_first : Event :=
  .register_device none { tenant_id := "acme".toList, device_id := "dev-1".toList, last_heartbeat_at := 760 }

def hear_second : Event := .process_heartbeat 900 "acme".toList "dev-2".toList "coffee".toList []

/-- Of two devices, one was last heard four minutes ago. -/
theorem offline_check_two :
    let s := hear_second.apply (register_first.apply {})
    Labelled s ∧ (check_offline_calls 1000 s).2.count ("acme".toList, "dev-1".toList) = 1 ∧
      (check_offline_calls 1000 s).2.count ("acme".toList, "dev-2".toList) = 0 := by
  have hfirst : Step {} register_first (register_first.apply {}) := rfl
  have hsecond : Step (register_first.apply {}) hear_second (hear_second.apply (register_first.apply {})) := rfl
  obtain ⟨hs, hsweep⟩ := offline_check_exact ((Run.nil.snoc hfirst).snoc hsecond)
  refine ⟨hs, (hsweep 1000 _ _ ?_).2.trans ?_, (hsweep 1000 _ _ ?_).2.trans ?_⟩
  · rintro _ ⟨⟩
    decide
  · decide
  · rintro _ ⟨⟩
    decide
  · decide

/-- A device that was never heard, by the smallest time there is. -/
def register_oldest : Event :=
  .register_device none { tenant_id := "acme".toList, device_id := "dev-1".toList, last_heartbeat_at := -2 ^ 63 }

/-- The time since then overflows: the device is not marked, and nobody is called back. -/
theorem offline_check_fails :
    let s := register_oldest.apply {}
    Run Step {} [({}, register_oldest)] s ∧ ∃ dev, s.rec? "acme".toList "dev-1".toList = some dev ∧
      1000 - dev.last_heartbeat_at > 180 ∧ (check_offline_calls 1000 s).1 = s ∧ (check_offline_calls 1000 s).2 = [] := by
  refine ⟨Run.nil.snoc rfl, _, rfl, by decide, ?_⟩
  have hlist : (register_oldest.apply {}).list_offline_devices 1000 180 = [] := by decide
  rw [check_offline_calls, hlist]
  exact ⟨rfl, rfl⟩

end OfflineCheck

end DevSys.DeviceManager
