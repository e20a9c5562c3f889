import DevSys.Device.DeviceManager
import DevSys.Lib.Runs
/-!
# The offline sweep and its neighbours

The sweep lists the devices first and writes them one by one, each under a lock
of its own. What other threads do in between is overwritten.
-/
open Cxx Runs

namespace DevSys.DeviceManager

/-- The devices and those that the sweep has listed and not yet written. -/
structure Sweep where
  devices : DeviceManager
  offline : List Device

inductive Sweep.Act where
  | write
  | heartbeat (now : Int) (tenant_id device_id product_id payload : Str)
  | update (tenant_id device_id : Str) (net_st : NetworkStatus) (work_st : WorkStatus)

/-- The sweep writes its next device; the other threads call what they like. -/
inductive Sweep.Acts : Sweep → Sweep.Act → Sweep → Prop
  | write {s dev rest} : s.offline = dev :: rest → Acts s .write ⟨s.devices.mark_offline dev, rest⟩
  | heartbeat {s now t d product payload} :
      Acts s (.heartbeat now t d product payload) { s with devices := s.devices.process_heartbeat now t d product payload }
  | update {s t d net work} :
      Acts s (.update t d net work) { s with devices := (s.devices.update_device_status t d net work).2 }

/-- The snapshot is taken. -/
def sweep (now : Int) (s : DeviceManager) : Sweep := ⟨s, s.list_offline_devices now 180⟩

namespace Sweep

/-- The next device to write is `d` of the tenant `t`. -/
def Next (s : Sweep) (t d : Str) : Prop := ∃ dev rest, s.offline = dev :: rest ∧ dev.tenant_id = t ∧ dev.device_id = d

/-- A heartbeat of the device. -/
def Act.Hears (t d : Str) : Act → Prop
  | .heartbeat _ t' d' _ _ => t' = t ∧ d' = d
  | _ => False

/-- Somebody else writes the status of the device. -/
def Act.Touches (t d : Str) : Act → Prop
  | .update t' d' _ _ => t' = t ∧ d' = d
  | _ => False

/-- A heartbeat of the device was processed. -/
def Heard (t d : Str) (tr : List (Sweep × Act)) : Prop := ∃ u ∈ tr, u.2.Hears t d

/-- Nobody else wrote the status of the device. -/
def Untouched (t d : Str) (tr : List (Sweep × Act)) : Prop := ∀ u ∈ tr, ¬u.2.Touches t d

/-- The device is stored as online. -/
def Online (t d : Str) (s : DeviceManager) : Prop := ∃ dev, s.rec? t d = some dev ∧ dev.network_status = .ONLINE

/-- A device that was heard and not touched is online. -/
def HeardOnline (tr : List (Sweep × Act)) (s : Sweep) : Prop :=
  ∀ t d, Heard t d tr → Untouched t d tr → Online t d s.devices

/-- No write of the sweep changes a work status. -/
def WorkKept (tr : List (Sweep × Act)) : Prop :=
  ∀ u ∈ tr, u.2 = .write → ∀ s', Acts u.1 .write s' →
    ∀ t d, (s'.devices.rec? t d).map (·.work_status) = (u.1.devices.rec? t d).map (·.work_status)

/-- A heartbeat of the device is followed by its write and by no other heartbeat. -/
def Undone (t d : Str) (tr : List (Sweep × Act)) : Prop :=
  ∃ pre u post, tr = pre ++ (u, .write) :: post ∧ u.Next t d ∧ Heard t d pre ∧ ¬Heard t d post

/-- The device to write has the work status that it was listed with. -/
def Current (s : Sweep) : Prop :=
  ∀ dev rest, s.offline = dev :: rest → ∀ dev' ∈ s.devices.rec? dev.tenant_id dev.device_id,
    dev'.work_status = dev.work_status

/-! ## Undisturbed -/

/-- The writes in a row are `check_offline_devices`. -/
theorem run_check_offline_devices (now : Int) (s : DeviceManager) :
    ∃ tr, Run Acts (sweep now s) tr ⟨s.check_offline_devices now, []⟩ ∧ ∀ u ∈ tr, u.2 = .write := by
  suffices hall : ∀ (done rest : List Device) (s₀ : Sweep), s₀.offline = done ++ rest →
      ∃ tr, Run Acts s₀ tr ⟨done.foldl mark_offline s₀.devices, rest⟩ ∧ ∀ u ∈ tr, u.2 = .write by
    obtain ⟨tr, hrun, htr⟩ := hall (s.list_offline_devices now 180) [] (sweep now s) (by simp [sweep])
    exact ⟨tr, hrun, htr⟩
  intro done
  induction done using List.reverseRecOn with
  | nil =>
    rintro rest ⟨devices, offline⟩ rfl
    exact ⟨[], .nil, by simp⟩
  | append_singleton done dev ih =>
    intro rest s₀ hs
    obtain ⟨tr, hrun, htr⟩ := ih (dev :: rest) s₀ (by simp [hs])
    have hwrite : Acts ⟨done.foldl mark_offline s₀.devices, dev :: rest⟩ .write
        ⟨(done.foldl mark_offline s₀.devices).mark_offline dev, rest⟩ := .write rfl
    rw [List.foldl_concat]
    refine ⟨_, hrun.snoc hwrite, ?_⟩
    rw [List.forall_mem_append, List.forall_mem_singleton]
    exact ⟨htr, rfl⟩

/-! ## What was heard -/

section
variable {t d : Str} {tr : List (Sweep × Act)} {s : Sweep} {a : Act}

theorem heard_snoc : Heard t d (tr ++ [(s, a)]) ↔ Heard t d tr ∨ a.Hears t d := by
  simp only [Heard, List.mem_append, List.mem_singleton, or_and_right, exists_or, exists_eq_left]

theorem untouched_snoc : Untouched t d (tr ++ [(s, a)]) ↔ Untouched t d tr ∧ ¬a.Touches t d := by
  rw [Untouched, List.forall_mem_append, List.forall_mem_singleton, Untouched]

/-- The last act undoes a heartbeat, or it is none and leaves one undone. -/
theorem undone_snoc :
    Undone t d (tr ++ [(s, a)]) ↔ (Undone t d tr ∧ ¬a.Hears t d) ∨ (a = .write ∧ s.Next t d ∧ Heard t d tr) := by
  constructor
  · rintro ⟨pre, u, post, heq, hnext, hpre, hpost⟩
    rcases snoc_eq_split_iff.1 heq with ⟨rfl, hlast, rfl⟩ | ⟨mid, rfl, rfl⟩
    · cases hlast
      exact .inr ⟨rfl, hnext, hpre⟩
    · rw [heard_snoc, not_or] at hpost
      exact .inl ⟨⟨pre, u, mid, rfl, hnext, hpre, hpost.1⟩, hpost.2⟩
  · rintro (⟨⟨pre, u, post, rfl, hnext, hpre, hpost⟩, ha⟩ | ⟨rfl, hnext, hheard⟩)
    · refine ⟨pre, u, post ++ [(s, a)], by simp, hnext, hpre, ?_⟩
      rw [heard_snoc, not_or]
      exact ⟨hpost, ha⟩
    · exact ⟨tr, s, [], rfl, hnext, hheard, by simp [Heard]⟩

end

/-! ## What is stored -/

theorem mark_offline_rec? (s : DeviceManager) (dev : Device) (t d : Str) :
    (s.mark_offline dev).rec? t d =
      if t = dev.tenant_id ∧ d = dev.device_id then
        (s.rec? dev.tenant_id dev.device_id).map
          ({ · with network_status := .OFFLINE, work_status := dev.work_status })
      else s.rec? t d :=
  update_device_status_rec? _ _ _ _ s t d

theorem online_of_rec?_eq {t d : Str} {s s' : DeviceManager} (h : s'.rec? t d = s.rec? t d) :
    Online t d s' ↔ Online t d s := by
  rw [Online, h, Online]

/-- After a write the device is offline, if it is stored. -/
theorem not_online_mark_offline (s : DeviceManager) (dev : Device) :
    ¬Online dev.tenant_id dev.device_id (s.mark_offline dev) := by
  rintro ⟨dev', hdev', hon⟩
  rw [mark_offline_rec?, if_pos ⟨rfl, rfl⟩] at hdev'
  obtain ⟨_, -, rfl⟩ := Option.map_eq_some_iff.1 hdev'
  cases hon

/-- After a heartbeat the device is online. -/
theorem online_process_heartbeat (now : Int) (t d product payload : Str) (s : DeviceManager) :
    Online t d (s.process_heartbeat now t d product payload) := by
  refine ⟨_, by rw [process_heartbeat_rec?, if_pos ⟨rfl, rfl⟩], ?_⟩
  cases s.rec? t d <;> rfl

/-- A device that was heard and not touched is online unless the sweep has
undone the heartbeat. -/
theorem online_iff {t d : Str} {s₀ : Sweep} {tr : List (Sweep × Act)} {s : Sweep} (h : Run Acts s₀ tr s)
    (hheard : Heard t d tr) (huntouched : Untouched t d tr) : Online t d s.devices ↔ ¬Undone t d tr := by
  -- the last write decides: a mark of the sweep undoes a heartbeat, and the next
  -- heartbeat undoes the mark
  induction h with
  | nil => simp [Heard] at hheard
  | @snoc tr s a s' hrun hstep ih =>
    rw [untouched_snoc] at huntouched
    rw [heard_snoc] at hheard
    rw [undone_snoc]
    cases hstep with
    | @write dev rest hs =>
      have hheard := hheard.resolve_right id
      by_cases hnext : s.Next t d
      · obtain ⟨dev', rest', hs', rfl, rfl⟩ := hnext
        obtain ⟨rfl, rfl⟩ := List.cons.inj (hs.symm.trans hs')
        exact iff_of_false (not_online_mark_offline s.devices dev)
          (not_not_intro (.inr ⟨rfl, ⟨dev, rest, hs, rfl, rfl⟩, hheard⟩))
      · have hother : ¬(t = dev.tenant_id ∧ d = dev.device_id) :=
          fun h => hnext ⟨dev, rest, hs, h.1.symm, h.2.symm⟩
        have hrec : (s.devices.mark_offline dev).rec? t d = s.devices.rec? t d := by rw [mark_offline_rec?, if_neg hother]
        rw [online_of_rec?_eq hrec, ih hheard huntouched.1]
        simp [hnext, Act.Hears]
    | @heartbeat now t' d' product payload =>
      by_cases hthis : t' = t ∧ d' = d
      · obtain ⟨rfl, rfl⟩ := hthis
        refine iff_of_true (online_process_heartbeat now t' d' product payload s.devices) ?_
        simp [Act.Hears]
      · have hother : ¬(t = t' ∧ d = d') := fun h => hthis ⟨h.1.symm, h.2.symm⟩
        have hrec : (s.devices.process_heartbeat now t' d' product payload).rec? t d = s.devices.rec? t d := by
          rw [process_heartbeat_rec?, if_neg hother]
        rw [online_of_rec?_eq hrec, ih (hheard.resolve_right hthis) huntouched.1]
        simp [Act.Hears, hthis]
    | @update t' d' net work =>
      have hother : ¬(t = t' ∧ d = d') := fun h => huntouched.2 ⟨h.1.symm, h.2.symm⟩
      have hrec : (s.devices.update_device_status t' d' net work).2.rec? t d = s.devices.rec? t d := by
        rw [update_device_status_rec?, if_neg hother]
      rw [online_of_rec?_eq hrec, ih (hheard.resolve_right id) huntouched.1]
      simp [Act.Hears]

/-- A write keeps all work statuses exactly when it writes the present one. -/
theorem work_kept_iff {s s' : Sweep} (h : Acts s .write s') :
    (∀ t d, (s'.devices.rec? t d).map (·.work_status) = (s.devices.rec? t d).map (·.work_status)) ↔ s.Current := by
  cases h with
  | @write dev rest hs =>
    simp only [mark_offline_rec?]
    constructor
    · intro h dev' rest' hs' cur hcur
      obtain ⟨rfl, rfl⟩ := List.cons.inj (hs.symm.trans hs')
      have hthis := h dev.tenant_id dev.device_id
      rw [if_pos ⟨rfl, rfl⟩, Option.mem_def.1 hcur] at hthis
      exact (Option.some.inj hthis).symm
    · intro h t d
      split
      · rename_i hthis
        rw [hthis.1, hthis.2]
        cases hcur : s.devices.rec? dev.tenant_id dev.device_id with
        | none => rfl
        | some cur => exact congrArg some (h dev rest hs cur hcur).symm
      · rfl

/-! ## Any interleaving -/

/-- At every moment the devices that were heard and not touched are online, and
no work status was changed by the sweep, exactly when no heartbeat was undone
and every device was written with its present work status. -/
theorem sweep_iff {now : Int} {s₀ : DeviceManager} {tr : List (Sweep × Act)} {s : Sweep}
    (h : Run Acts (sweep now s₀) tr s) :
    HeardOnline tr s ∧ WorkKept tr ↔
      (∀ t d, Untouched t d tr → ¬Undone t d tr) ∧ ∀ u ∈ tr, u.2 = .write → u.1.Current := by
  apply and_congr
  · constructor
    · rintro honline t d huntouched ⟨pre, u, post, heq, hnext, ⟨v, hv, hears⟩, hpost⟩
      have hheard : Heard t d tr := ⟨v, heq ▸ List.mem_append_left _ hv, hears⟩
      exact (online_iff h hheard huntouched).1 (honline t d hheard huntouched) ⟨pre, u, post, heq, hnext, ⟨v, hv, hears⟩, hpost⟩
    · intro hundone t d hheard huntouched
      exact (online_iff h hheard huntouched).2 (hundone t d huntouched)
  · constructor
    · intro hkept u hu hwrite dev rest hs
      have hstep : Acts u.1 .write ⟨u.1.devices.mark_offline dev, rest⟩ := .write hs
      exact (work_kept_iff hstep).1 (hkept u hu hwrite _ hstep) dev rest hs
    · intro hcurrent u hu hwrite s' hs'
      exact (work_kept_iff hs').2 (hcurrent u hu hwrite)

/-! ## A heartbeat and a report in between -/

/-- An idle device that was heard at the second 0. -/
def stale : Device where
  tenant_id := "acme".toList
  device_id := "dev-1".toList
  activated := true

def one_stale : DeviceManager := store {} "acme".toList "dev-1".toList stale

theorem sweep_one_stale : sweep 1000 one_stale = ⟨one_stale, [stale]⟩ := by
  have hlist : one_stale.list_offline_devices 1000 180 = [stale] := by decide
  rw [sweep, hlist]

theorem rec?_one_stale : one_stale.rec? "acme".toList "dev-1".toList = some stale := by
  rw [one_stale, rec?_store, if_pos ⟨rfl, rfl⟩]

theorem current_one_stale : (sweep 1000 one_stale).Current := by
  rw [sweep_one_stale]
  intro dev rest hs cur hcur
  cases hs
  rw [show stale.tenant_id = "acme".toList from rfl, show stale.device_id = "dev-1".toList from rfl,
    rec?_one_stale] at hcur
  rw [← Option.some.inj hcur]

/-- The heartbeat comes after the write. -/
theorem sweep_write_first :
    ∃ tr s, tr.map (·.2) = [.write, .heartbeat 1000 "acme".toList "dev-1".toList [] []] ∧ s.offline = [] ∧
      HeardOnline tr s ∧ WorkKept tr := by
  have hwrite : Acts (sweep 1000 one_stale) .write ⟨one_stale.mark_offline stale, []⟩ :=
    .write (by rw [sweep_one_stale])
  have hheartbeat : Acts ⟨one_stale.mark_offline stale, []⟩ (.heartbeat 1000 "acme".toList "dev-1".toList [] []) _ :=
    .heartbeat
  refine ⟨_, _, rfl, rfl, (sweep_iff ((Run.nil.snoc hwrite).snoc hheartbeat)).2 ⟨?_, ?_⟩⟩
  · intro t d _
    rw [undone_snoc, undone_snoc]
    simp [Undone, Heard]
  · rw [List.forall_mem_append, List.nil_append, List.forall_mem_singleton, List.forall_mem_singleton]
    exact ⟨fun _ => current_one_stale, fun hw => by cases hw⟩

/-- The device is heard between the snapshot and its write, or reports that it brews. -/
theorem sweep_fails :
    (∃ tr s, Run Acts (sweep 1000 one_stale) tr s ∧ s.offline = [] ∧ ¬HeardOnline tr s) ∧
      ∃ tr s, Run Acts (sweep 1000 one_stale) tr s ∧ s.offline = [] ∧ ¬WorkKept tr := by
  rw [sweep_one_stale]
  constructor
  · let heard := one_stale.process_heartbeat 1000 "acme".toList "dev-1".toList [] []
    have hheartbeat : Acts ⟨one_stale, [stale]⟩ (.heartbeat 1000 "acme".toList "dev-1".toList [] []) ⟨heard, [stale]⟩ :=
      .heartbeat
    have hwrite : Acts ⟨heard, [stale]⟩ .write ⟨heard.mark_offline stale, []⟩ := .write rfl
    refine ⟨_, _, (Run.nil.snoc hheartbeat).snoc hwrite, rfl, fun honline => ?_⟩
    refine not_online_mark_offline heard stale (honline _ _ ?_ ?_)
    · rw [heard_snoc, heard_snoc]
      exact .inl (.inr ⟨rfl, rfl⟩)
    · rw [untouched_snoc, untouched_snoc]
      simp [Untouched, Act.Touches]
  · let brewing := (one_stale.update_device_status "acme".toList "dev-1".toList .ONLINE .BREWING).2
    have hupdate : Acts ⟨one_stale, [stale]⟩ (.update "acme".toList "dev-1".toList .ONLINE .BREWING) ⟨brewing, [stale]⟩ :=
      .update
    have hwrite : Acts ⟨brewing, [stale]⟩ .write ⟨brewing.mark_offline stale, []⟩ := .write rfl
    refine ⟨_, _, (Run.nil.snoc hupdate).snoc hwrite, rfl, fun hkept => ?_⟩
    have hcurrent := (work_kept_iff hwrite).1 (hkept (⟨brewing, [stale]⟩, .write) (by simp) rfl _ hwrite) stale [] rfl
    have hstored : brewing.rec? "acme".toList "dev-1".toList =
        some { stale with network_status := .ONLINE, work_status := .BREWING } := by
      rw [update_device_status_rec?, if_pos ⟨rfl, rfl⟩, rec?_one_stale]
      rfl
    cases hcurrent _ hstored

end Sweep

end DevSys.DeviceManager
