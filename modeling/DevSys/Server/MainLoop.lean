import DevSys.Device.OfflineCheck
import DevSys.Lib.Polling
import DevSys.Storage.LogManager
import Mathlib.Algebra.Order.Group.Int
import Mathlib.Data.List.Chain
/-!
# The main loop

Three jobs with a period of their own, looked after ten times a second: the
offline check, the flag that `GET /api/v1/health` shows, and a line of statistics.
Messages and requests change the devices at any time, also between the writes of
an offline check.
-/
open Cxx Runs Polling

namespace DevSys

/-- Where a pass is: in the offline check, with the devices that it has listed and
not yet written, or behind the first number of the statistics. -/
inductive PassPhase where
  | asleep
  | sweeping (offline : List Device)
  | counting (count : Int32)
  deriving DecidableEq

/-- `now` is the steady clock in nanoseconds, as the last pass has read it. The
calls to the log manager are kept with their level and their module. -/
structure MainLoop where
  now : Int
  last_offline_check : Int
  last_stats_report : Int
  last_mqtt_status_sync : Int
  mqtt_connected : Bool
  phase : PassPhase := .asleep
  device_mgr : DeviceManager := {}
  logged : List (Level × Str × Str) := []

namespace MainLoop
open DeviceManager DeviceManager.OfflineCheck

/-! ## The jobs -/

/-- `duration_cast<seconds>` rounds toward zero. -/
def elapsed (now last : Int) : Int := (now - last).tdiv 1000000000

def log (level : Level) (module msg : Str) (s : MainLoop) : MainLoop :=
  { s with logged := s.logged ++ [(level, module, msg)] }

/-- The callback logs the device. -/
def offline_line (k : Str × Str) : Level × Str × Str :=
  (.WARN, "device".toList, "Device offline: ".toList ++ k.1 ++ '/' :: k.2)

/-- The snapshot, if the check is due, by the system clock in seconds. Nobody else
looks at `last_offline_check`, which is set behind the last write. -/
def check_offline (now system_now : Int) (s : MainLoop) : MainLoop :=
  if elapsed now s.last_offline_check ≥ 30 then
    { s with
      now := now
      phase := .sweeping (s.device_mgr.list_offline_devices system_now 180)
      last_offline_check := now }
  else { s with now := now, phase := .sweeping [] }

/-- One device of the snapshot is written, and the callback is made. -/
def write (dev : Device) (rest : List Device) (s : MainLoop) : MainLoop :=
  { s with
    device_mgr := s.device_mgr.mark_offline dev
    logged := s.logged ++ [offline_line (dev.tenant_id, dev.device_id)]
    phase := .sweeping rest }

/-- The flag and the connection differ. -/
def connection_line (connected : Bool) (s : MainLoop) : MainLoop :=
  if connected then s.log .INFO "main".toList "MQTT connection restored".toList
  else s.log .WARN "main".toList "MQTT connection lost".toList

def sync_mqtt_status (connected : Bool) (s : MainLoop) : MainLoop :=
  if elapsed s.now s.last_mqtt_status_sync ≥ 5 then
    let s := if s.mqtt_connected ≠ connected then
        connection_line connected { s with mqtt_connected := connected }
      else s
    { s with last_mqtt_status_sync := s.now }
  else s

/-- The devices are counted first. -/
def count_devices (s : MainLoop) : MainLoop :=
  if elapsed s.now s.last_stats_report ≥ 300 then { s with phase := .counting s.device_mgr.total_device_count }
  else { s with phase := .asleep }

def stats_line (count : Int32) (s : MainLoop) : Str :=
  "Stats: ".toList ++ to_string count.toInt ++ " devices, ".toList ++
    to_string s.device_mgr.list_tenants.length ++ " tenants".toList

def report_stats (count : Int32) (s : MainLoop) : MainLoop :=
  { s.log .INFO "main".toList (s.stats_line count) with last_stats_report := s.now, phase := .asleep }

/-! ## Runs -/

/-- What the main loop and the other threads do: `start` begins a pass, with both
clocks, `sync` reads the connection. -/
inductive Label where
  /-- A message or a request. -/
  | devices (e : OfflineCheck.Event)
  | start (now system_now : Int)
  | write
  | sync (now : Int) (connected : Bool)
  | report

/-- The steady clock does not go back. -/
inductive Step : MainLoop → Label → MainLoop → Prop
  | devices {s e} : Step s (.devices e) { s with device_mgr := e.apply s.device_mgr }
  | start {s now system_now} : s.phase = .asleep → s.now ≤ now →
      Step s (.start now system_now) (check_offline now system_now s)
  | write {s dev rest} : s.phase = .sweeping (dev :: rest) → Step s .write (s.write dev rest)
  | sync {s connected} : s.phase = .sweeping [] →
      Step s (.sync s.now connected) (sync_mqtt_status connected s).count_devices
  | report {s count} : s.phase = .counting count → Step s .report (s.report_stats count)

/-- The events that write or remove the record of a device. -/
def Touches (t d : Str) : OfflineCheck.Event → Prop
  | .process_heartbeat _ tenant_id device_id _ _ | .remove_device tenant_id device_id
  | .update_device_status tenant_id device_id _ _ => tenant_id = t ∧ device_id = d
  | .register_device _ device => device.tenant_id = t ∧ device.device_id = d
  | .migrate_device device_id _ => device_id = d
  | .load_from_database devices => ∃ dev ∈ devices, dev.tenant_id = t ∧ dev.device_id = d

/-! ## What a step changes -/

theorem elapsed_ge_iff {n now last : Int} (hn : 0 < n) : elapsed now last ≥ n ↔ n * 1000000000 ≤ now - last := by
  rw [elapsed]
  constructor
  · intro h
    by_contra hlt
    have hle := Int.tdiv_le_tdiv (c := 1000000000) (by decide) (show now - last ≤ n * 1000000000 - 1 by omega)
    rw [Int.tdiv_eq_ediv_of_nonneg (show 0 ≤ n * 1000000000 - 1 by omega)] at hle
    omega
  · exact Int.le_tdiv_of_mul_le (by decide)

theorem check_offline_rest (now system_now : Int) (s : MainLoop) :
    (check_offline now system_now s).now = now ∧
    (check_offline now system_now s).last_mqtt_status_sync = s.last_mqtt_status_sync ∧
    (check_offline now system_now s).mqtt_connected = s.mqtt_connected ∧
    (check_offline now system_now s).device_mgr = s.device_mgr ∧
    (check_offline now system_now s).logged = s.logged := by
  unfold check_offline
  split <;> exact ⟨rfl, rfl, rfl, rfl, rfl⟩

theorem count_devices_rest (s : MainLoop) : s.count_devices.now = s.now ∧
    s.count_devices.last_offline_check = s.last_offline_check ∧
    s.count_devices.last_mqtt_status_sync = s.last_mqtt_status_sync ∧
    s.count_devices.mqtt_connected = s.mqtt_connected ∧ s.count_devices.device_mgr = s.device_mgr ∧
    s.count_devices.logged = s.logged := by
  unfold count_devices
  split <;> exact ⟨rfl, rfl, rfl, rfl, rfl, rfl⟩

theorem sync_mqtt_status_rest (connected : Bool) (s : MainLoop) : (sync_mqtt_status connected s).now = s.now ∧
    (sync_mqtt_status connected s).last_offline_check = s.last_offline_check ∧
    (sync_mqtt_status connected s).device_mgr = s.device_mgr := by
  unfold sync_mqtt_status connection_line log
  dsimp only
  split_ifs <;> exact ⟨rfl, rfl, rfl⟩

theorem sync_mqtt_status_flag (connected : Bool) (s : MainLoop) :
    (sync_mqtt_status connected s).last_mqtt_status_sync =
      (if elapsed s.now s.last_mqtt_status_sync ≥ 5 then s.now else s.last_mqtt_status_sync) ∧
    (sync_mqtt_status connected s).mqtt_connected =
      if elapsed s.now s.last_mqtt_status_sync ≥ 5 then connected else s.mqtt_connected := by
  unfold sync_mqtt_status connection_line log
  dsimp only
  split_ifs with _ hne
  · exact ⟨rfl, rfl⟩
  · exact ⟨rfl, rfl⟩
  · exact ⟨rfl, not_not.1 hne⟩
  · exact ⟨rfl, rfl⟩

/-- Only events and writes change the devices. -/
theorem sync_devices (connected : Bool) (s : MainLoop) :
    (sync_mqtt_status connected s).count_devices.device_mgr = s.device_mgr :=
  (count_devices_rest _).2.2.2.2.1.trans (sync_mqtt_status_rest connected s).2.2

/-! ## The timers -/

/-- When a step looks at the steady clock for the offline check, and for the flag. -/
def Label.starts : Label → Option Int
  | .start now _ => some now
  | _ => none

def Label.syncs : Label → Option Int
  | .sync now _ => some now
  | _ => none

theorem offline_timer : Timer Step last_offline_check Label.starts (30 * 1000000000) := by
  constructor
  · rintro s l s' t hstep hclock hlate
    cases hstep with
    | start =>
      cases hclock
      rw [check_offline, if_pos ((elapsed_ge_iff (by decide)).2 hlate)]
    | _ => cases hclock
  · rintro s l s' t hstep hclock hearly
    cases hstep with
    | start =>
      cases hclock
      rw [check_offline, if_neg fun h => hearly ((elapsed_ge_iff (by decide)).1 h)]
    | _ => cases hclock
  · rintro s l s' hstep hclock
    cases hstep with
    | start => cases hclock
    | sync => exact (count_devices_rest _).2.1.trans (sync_mqtt_status_rest _ _).2.1
    | _ => rfl

theorem sync_timer : Timer Step last_mqtt_status_sync Label.syncs (5 * 1000000000) := by
  constructor
  · rintro s l s' t hstep hclock hlate
    cases hstep with
    | sync =>
      cases hclock
      rw [(count_devices_rest _).2.2.1, (sync_mqtt_status_flag _ _).1, if_pos ((elapsed_ge_iff (by decide)).2 hlate)]
    | _ => cases hclock
  · rintro s l s' t hstep hclock hearly
    cases hstep with
    | sync =>
      cases hclock
      rw [(count_devices_rest _).2.2.1, (sync_mqtt_status_flag _ _).1,
        if_neg fun h => hearly ((elapsed_ge_iff (by decide)).1 h)]
    | _ => cases hclock
  · rintro s l s' hstep hclock
    cases hstep with
    | sync => cases hclock
    | start => exact (check_offline_rest _ _ s).2.1
    | _ => rfl

/-- The kept times are not ahead of the clock. -/
def Clocked (s : MainLoop) : Prop := s.last_offline_check ≤ s.now ∧ s.last_mqtt_status_sync ≤ s.now

theorem clocked_step {s s' : MainLoop} {l : Label} (hs : Clocked s) (hstep : Step s l s') : Clocked s' := by
  cases hstep with
  | @start now system_now hphase hle =>
    have hstart : Step s (.start now system_now) (check_offline now system_now s) := .start hphase hle
    have hoffline := offline_timer.last_le_clock hstart rfl (hs.1.trans hle)
    obtain ⟨hnow, hsync, -⟩ := check_offline_rest now system_now s
    rw [Clocked, hnow, hsync]
    exact ⟨hoffline, hs.2.trans hle⟩
  | @sync connected hphase =>
    have hstep : Step s (.sync s.now connected) (sync_mqtt_status connected s).count_devices := .sync hphase
    have hsync := sync_timer.last_le_clock hstep rfl hs.2
    obtain ⟨hnow, hoffline, -⟩ := count_devices_rest (sync_mqtt_status connected s)
    obtain ⟨hnow', hoffline', -⟩ := sync_mqtt_status_rest connected s
    rw [Clocked, hnow, hnow', hoffline, hoffline']
    exact ⟨hs.1, hsync⟩
  | _ => exact hs

/-! ## Silent devices -/

theorem rec?_of_not_touches {t d : Str} {e : OfflineCheck.Event} (h : ¬Touches t d e) (s : DeviceManager) :
    (e.apply s).rec? t d = s.rec? t d := by
  have hne {t' d' : Str} (h : ¬(t' = t ∧ d' = d)) : ¬(t = t' ∧ d = d') := fun h' => h ⟨h'.1.symm, h'.2.symm⟩
  cases e with
  | process_heartbeat now t' d' product payload =>
    exact (process_heartbeat_rec? now t' d' product payload s t d).trans (if_neg (hne h))
  | register_device upsert device => exact (register_device_rec? upsert device s t d).trans (if_neg (hne h))
  | remove_device t' d' => exact (remove_device_rec? t' d' s t d).trans (if_neg (hne h))
  | update_device_status t' d' net work =>
    exact (update_device_status_rec? t' d' net work s t d).trans (if_neg (hne h))
  | migrate_device d' new_tenant =>
    have hd : d ≠ d' := Ne.symm h
    rw [OfflineCheck.Event.apply]
    cases hloc : s.locate d' with
    | none => rw [migrate_device_none hloc]
    | some found =>
      obtain ⟨t', dev⟩ := found
      rw [migrate_device_rec? hloc, if_neg fun h => hd h.2, rec?_unstore, if_neg fun h => hd h.2]
  | load_from_database devices =>
    rw [OfflineCheck.Event.apply, load_from_database]
    -- one row after the other, as they are loaded
    induction devices generalizing s with
    | nil => rfl
    | cons dev devices ih =>
      have hrest : ¬Touches t d (.load_from_database devices) := by
        rintro ⟨dev', hdev', hkey⟩
        exact h ⟨dev', List.mem_cons_of_mem _ hdev', hkey⟩
      have hfirst : ¬(dev.tenant_id = t ∧ dev.device_id = d) := fun hkey => h ⟨dev, List.mem_cons_self, hkey⟩
      rw [List.foldl_cons, ih _ hrest]
      split
      · rw [rec?_store, if_neg (hne hfirst)]
      · rfl

theorem labelled_step {s s' : MainLoop} {l : Label} (hs : Labelled s.device_mgr) (hstep : Step s l s') :
    Labelled s'.device_mgr := by
  cases hstep with
  | @devices e => exact hs.step (e := e) rfl
  | start =>
    rw [(check_offline_rest _ _ s).2.2.2.1]
    exact hs
  | write => exact hs.update_device_status _ _ _ _
  | sync =>
    rw [sync_devices]
    exact hs
  | report => exact hs

/-- The running check has listed the device and not written it yet. -/
def Listed (t d : Str) (s : MainLoop) : Prop :=
  ∃ offline dev, s.phase = .sweeping offline ∧ dev ∈ offline ∧ dev.tenant_id = t ∧ dev.device_id = d

/-- What a write makes of a record. -/
theorem write_rec? (s : MainLoop) (dev : Device) (rest : List Device) (t d : Str) :
    (s.write dev rest).device_mgr.rec? t d =
      if t = dev.tenant_id ∧ d = dev.device_id then
        (s.device_mgr.rec? dev.tenant_id dev.device_id).map
          ({ · with network_status := .OFFLINE, work_status := dev.work_status })
      else s.device_mgr.rec? t d :=
  Sweep.mark_offline_rec? s.device_mgr dev t d

/-- What is still listed after a step was listed before it, if no check starts. -/
theorem listed_of_step {s s' : MainLoop} {l : Label} {t d : Str} (hstep : Step s l s') (hstart : l.starts = none)
    (h : Listed t d s') : Listed t d s := by
  obtain ⟨offline, dev, hphase', hdev, hkey⟩ := h
  cases hstep with
  | devices => exact ⟨offline, dev, hphase', hdev, hkey⟩
  | start => cases hstart
  | @write first rest hphase =>
    cases hphase'
    exact ⟨_, dev, hphase, List.mem_cons_of_mem _ hdev, hkey⟩
  | sync =>
    unfold count_devices at hphase'
    split at hphase' <;> cases hphase'
  | report => cases hphase'

/-- A step changes no record that no event touches and no check has listed. -/
theorem rec?_of_not_listed {s s' : MainLoop} {l : Label} {t d : Str} (hstep : Step s l s')
    (htouch : ∀ e, l = .devices e → ¬Touches t d e) (hlisted : ¬Listed t d s) :
    s'.device_mgr.rec? t d = s.device_mgr.rec? t d := by
  cases hstep with
  | @devices e => exact rec?_of_not_touches (htouch e rfl) s.device_mgr
  | start => rw [(check_offline_rest _ _ s).2.2.2.1]
  | @write dev rest hphase =>
    rw [write_rec?, if_neg]
    rintro ⟨rfl, rfl⟩
    exact hlisted ⟨_, dev, hphase, List.mem_cons_self, rfl, rfl⟩
  | sync => rw [sync_devices]
  | report => rfl

/-- A device that was last heard at a second, and is marked offline if `off`. -/
def Quiet (t d : Str) (heard : Int) (off : Bool) (s : MainLoop) : Prop :=
  ∃ dev, s.device_mgr.rec? t d = some dev ∧ dev.last_heartbeat_at = heard ∧ (off → dev.network_status = .OFFLINE)

theorem quiet_of_rec? {s s' : MainLoop} {t d : Str} {heard : Int} {off : Bool}
    (hrec : s'.device_mgr.rec? t d = s.device_mgr.rec? t d) (h : Quiet t d heard off s) : Quiet t d heard off s' := by
  obtain ⟨dev, hdev, hkept⟩ := h
  exact ⟨dev, hrec.trans hdev, hkept⟩

/-- Whether or not it was marked, a written device is marked. -/
theorem quiet_write {s : MainLoop} {dev : Device} {heard : Int} (rest : List Device)
    (h : Quiet dev.tenant_id dev.device_id heard false s) :
    Quiet dev.tenant_id dev.device_id heard true (s.write dev rest) := by
  obtain ⟨old, hold, hheard, -⟩ := h
  refine ⟨{ old with network_status := .OFFLINE, work_status := dev.work_status }, ?_, hheard, fun _ => rfl⟩
  rw [write_rec?, if_pos ⟨rfl, rfl⟩, hold]
  rfl

theorem Quiet.weaken {t d : Str} {heard : Int} {off : Bool} {s : MainLoop} (h : Quiet t d heard off s) :
    Quiet t d heard false s := by
  obtain ⟨dev, hdev, hheard, -⟩ := h
  exact ⟨dev, hdev, hheard, nofun⟩

theorem quiet_step {s s' : MainLoop} {l : Label} {t d : Str} {heard : Int} {off : Bool} (hstep : Step s l s')
    (htouch : ∀ e, l = .devices e → ¬Touches t d e) (h : Quiet t d heard off s) : Quiet t d heard off s' := by
  cases hstep with
  | @devices e => exact quiet_of_rec? (rec?_of_not_touches (htouch e rfl) s.device_mgr) h
  | start => exact quiet_of_rec? (by rw [(check_offline_rest _ _ s).2.2.2.1]) h
  | @write dev rest =>
    by_cases hkey : t = dev.tenant_id ∧ d = dev.device_id
    · obtain ⟨rfl, rfl⟩ := hkey
      obtain ⟨dev', hdev', hheard, hoff⟩ := quiet_write rest h.weaken
      exact ⟨dev', hdev', hheard, fun _ => hoff rfl⟩
    · exact quiet_of_rec? ((write_rec? s dev rest t d).trans (if_neg hkey)) h
  | sync => exact quiet_of_rec? (by rw [sync_devices]) h
  | report => exact quiet_of_rec? rfl h

/-- The device is marked, or the running check is going to mark it. -/
def Found (t d : Str) (heard : Int) (s : MainLoop) : Prop :=
  Quiet t d heard true s ∨ (Quiet t d heard false s ∧ Listed t d s)

theorem found_step {s s' : MainLoop} {l : Label} {t d : Str} {heard : Int} (hstep : Step s l s')
    (htouch : ∀ e, l = .devices e → ¬Touches t d e) (h : Found t d heard s) : Found t d heard s' := by
  obtain hmarked | ⟨hquiet, offline, dev, hphase, hdev, rfl, rfl⟩ := h
  · exact .inl (quiet_step hstep htouch hmarked)
  · have hquiet' := quiet_step hstep htouch hquiet
    cases hstep with
    | devices => exact .inr ⟨hquiet', offline, dev, hphase, hdev, rfl, rfl⟩
    | start hasleep => cases hasleep.symm.trans hphase
    | @write first rest hfirst =>
      cases hfirst.symm.trans hphase
      obtain rfl | hrest := List.mem_cons.1 hdev
      · exact .inl (quiet_write _ hquiet)
      · exact .inr ⟨hquiet', rest, dev, rfl, hrest, rfl, rfl⟩
    | sync hdone =>
      cases hdone.symm.trans hphase
      cases hdev
    | report hcount => cases hcount.symm.trans hphase

/-- A check that is due lists the devices that are silent. -/
theorem listed_of_silent {s : MainLoop} {now system_now : Int} {t d : Str} {dev : Device} (hs : Labelled s.device_mgr)
    (hdue : 30 * 1000000000 ≤ now - s.last_offline_check) (hdev : s.device_mgr.rec? t d = some dev)
    (hsilent : Silent system_now 180 dev) : Listed t d (check_offline now system_now s) := by
  rw [check_offline, if_pos ((elapsed_ge_iff (by decide)).2 hdue)]
  refine ⟨_, dev, rfl, ?_, hs t d dev hdev⟩
  exact List.mem_filter.2 ⟨mem_list_all_devices.2 ⟨t, d, hdev⟩, decide_eq_true hsilent⟩

/-- A check does not list what is not silent. -/
theorem not_listed_of_heard {s : MainLoop} {t d : Str} (now : Int) {system_now : Int} (hs : Labelled s.device_mgr)
    (hheard : ∀ dev ∈ s.device_mgr.rec? t d, ¬Silent system_now 180 dev) :
    ¬Listed t d (check_offline now system_now s) := by
  rintro ⟨offline, dev, hphase, hdev, rfl, rfl⟩
  unfold check_offline at hphase
  split at hphase
  · cases hphase
    obtain ⟨hall, hsilent⟩ := List.mem_filter.1 hdev
    obtain ⟨t, d, hrec⟩ := mem_list_all_devices.1 hall
    obtain ⟨rfl, rfl⟩ := hs t d dev hrec
    exact hheard dev hrec (of_decide_eq_true hsilent)
  · cases hphase
    cases hdev

/-- A silent device that is left alone is marked offline when the first pass that
starts half a minute later has done its check. -/
theorem silent_marked {u v w s₁ s₂ s : MainLoop} {now₁ sys₁ now₂ sys₂ now₃ : Int} {connected : Bool}
    {mid post : List (MainLoop × Label)} {t d : Str} {heard : Int} (hu : Labelled u.device_mgr) (hclock : Clocked u)
    (hp : Step u (.start now₁ sys₁) s₁) (hmid : Run Step s₁ mid v) (hq : Step v (.start now₂ sys₂) s₂)
    (hpost : Run Step s₂ post w) (hend : Step w (.sync now₃ connected) s) (hlate : 30 * 1000000000 ≤ now₂ - now₁)
    (hsilent : ∀ x n r, (x, Label.start n r) ∈ mid ++ [(v, .start now₂ sys₂)] →
      ∀ dev, dev.last_heartbeat_at = heard → Silent r 180 dev)
    (htouch : ∀ x e, (x, Label.devices e) ∈ mid ++ post → ¬Touches t d e) (hheard : Quiet t d heard false u) :
    Quiet t d heard true s := by
  have hmidtouch (x : MainLoop) (l : Label) (hmem : (x, l) ∈ mid ++ [(v, .start now₂ sys₂)]) (e : OfflineCheck.Event)
      (hl : l = .devices e) : ¬Touches t d e := by
    subst hl
    rcases List.mem_append.1 hmem with hmem | hmem
    · exact htouch x e (List.mem_append_left _ hmem)
    · cases List.mem_singleton.1 hmem
  have hfirst : Labelled s₁.device_mgr ∧ Quiet t d heard false s₁ := ⟨labelled_step hu hp, quiet_step hp (fun _ h => Label.noConfusion h) hheard⟩
  have hall := (hmid.snoc hq).inv_of_ok (fun s => Labelled s.device_mgr ∧ Quiet t d heard false s)
    (fun _ l => ∀ e, l = .devices e → ¬Touches t d e) hfirst
    (fun _ _ _ hs hnot hstep => ⟨labelled_step hs.1 hstep, quiet_step hstep hnot hs.2⟩)
    (fun r hr => hmidtouch r.1 r.2 hr)
  have hlast : s₁.last_offline_check ≤ now₁ := by
    refine offline_timer.last_le_clock hp rfl (hclock.1.trans ?_)
    cases hp
    assumption
  -- some check on the way is due, and finds the device
  have hfound : Found t d heard s₂ := by
    refine offline_timer.holds_of_late (Found t d heard) hmid hq rfl (by omega) ?_ ?_
    · intro x l x' hmem hdue hstep
      obtain ⟨n, hstarts, hdue⟩ := hdue
      have hx := hall.1 (x, l) hmem
      have hquiet := quiet_step hstep (hmidtouch x l hmem) hx.2
      cases hstep with
      | start =>
        cases hstarts
        obtain ⟨dev, hdev, hdevheard, -⟩ := hx.2
        exact .inr ⟨hquiet, listed_of_silent hx.1 hdue hdev (hsilent x _ _ hmem dev hdevheard)⟩
      | _ => cases hstarts
    · exact fun x l x' hmem hx hstep => found_step hstep (hmidtouch x l hmem) hx
  have hdone : Found t d heard w := by
    refine (hpost.inv_of_ok (Found t d heard) (fun _ l => ∀ e, l = .devices e → ¬Touches t d e) hfound
      (fun _ _ _ hs hnot hstep => found_step hstep hnot hs) ?_).2
    rintro ⟨x, l⟩ hmem e rfl
    exact htouch x e (List.mem_append_right _ hmem)
  refine quiet_step hend (fun _ h => Label.noConfusion h) ?_
  obtain hmarked | ⟨-, offline, dev, hphase, hdev, -⟩ := hdone
  · exact hmarked
  · cases hend with
    | sync hempty =>
      cases hempty.symm.trans hphase
      cases hdev

/-- A device that a check finds heard, or not at all, is not written until the
next check. -/
theorem heard_kept {u v s₁ s : MainLoop} {now system_now : Int} {mid : List (MainLoop × Label)} {t d : Str}
    (hu : Labelled u.device_mgr) (hp : Step u (.start now system_now) s₁) (hmid : Run Step s₁ mid v)
    (hwrite : Step v .write s) (hstart : ∀ x l, (x, l) ∈ mid → l.starts = none)
    (hheard : ∀ dev ∈ u.device_mgr.rec? t d, ¬Silent system_now 180 dev) :
    s.device_mgr.rec? t d = v.device_mgr.rec? t d := by
  have hfirst : ¬Listed t d s₁ := by
    cases hp
    exact not_listed_of_heard now hu hheard
  have hv := (hmid.inv_of_ok (fun s => ¬Listed t d s) (fun _ l => l.starts = none) hfirst
    (fun _ _ _ hs hnone hstep hlisted => hs (listed_of_step hstep hnone hlisted)) fun p hp => hstart p.1 p.2 hp).2
  exact rec?_of_not_listed hwrite (fun _ h => Label.noConfusion h) hv

/-! ## The flag -/

/-- A connection that stays as it is for five seconds is shown. -/
theorem flag_synced {u v s₁ s : MainLoop} {now₁ now₂ : Int} {c₁ c₂ : Bool} {mid : List (MainLoop × Label)}
    (hclock : Clocked u) (hp : Step u (.sync now₁ c₁) s₁) (hmid : Run Step s₁ mid v) (hq : Step v (.sync now₂ c₂) s)
    (hlate : 5 * 1000000000 ≤ now₂ - now₁)
    (hconnected : ∀ x n c, (x, Label.sync n c) ∈ mid ++ [(v, Label.sync now₂ c₂)] → c = c₂) :
    s.mqtt_connected = c₂ := by
  have hlast : s₁.last_mqtt_status_sync ≤ now₁ := by
    refine sync_timer.last_le_clock hp rfl ?_
    cases hp
    exact hclock.2
  refine sync_timer.holds_of_late (·.mqtt_connected = c₂) hmid hq rfl (by omega) ?_ ?_
  · intro x l x' hmem hdue hstep
    obtain ⟨n, hsyncs, hdue⟩ := hdue
    cases hstep with
    | sync =>
      cases hsyncs
      rw [(count_devices_rest _).2.2.2.1, (sync_mqtt_status_flag _ _).2, if_pos ((elapsed_ge_iff (by decide)).2 hdue)]
      exact hconnected x _ _ hmem
    | _ => cases hsyncs
  · intro x l x' hmem hx hstep
    cases hstep with
    | sync =>
      rw [(count_devices_rest _).2.2.2.1, (sync_mqtt_status_flag _ _).2]
      split
      · exact hconnected x _ _ hmem
      · exact hx
    | start => exact (check_offline_rest _ _ x).2.2.1.trans hx
    | _ => exact hx

def lost : Level × Str × Str := (.WARN, "main".toList, "MQTT connection lost".toList)

def restored : Level × Str × Str := (.INFO, "main".toList, "MQTT connection restored".toList)

/-- What the lines about the connection say. -/
def connection_lines (lines : List (Level × Str × Str)) : List Bool :=
  lines.filterMap fun l => if l = lost then some false else if l = restored then some true else none

/-- The lines about the connection take turns, and the last one is what the flag
says. -/
structure Told (initially : Bool) (s : MainLoop) : Prop where
  turns : (initially :: connection_lines s.logged).IsChain (· ≠ ·)
  last : (initially :: connection_lines s.logged).getLast? = some s.mqtt_connected

theorem told_of_quiet {c : Bool} {s s' : MainLoop} {lines : List (Level × Str × Str)} (h : Told c s)
    (hlogged : s'.logged = s.logged ++ lines) (hflag : s'.mqtt_connected = s.mqtt_connected)
    (hquiet : ∀ l ∈ lines, l ≠ lost ∧ l ≠ restored) : Told c s' := by
  have hlines : connection_lines s'.logged = connection_lines s.logged := by
    have hnil : connection_lines lines = [] := by
      rw [connection_lines, List.filterMap_eq_nil_iff]
      intro l hl
      rw [if_neg (hquiet l hl).1, if_neg (hquiet l hl).2]
    rw [hlogged, connection_lines, List.filterMap_append, ← connection_lines, ← connection_lines, hnil, List.append_nil]
  exact ⟨hlines ▸ h.turns, by rw [hlines, hflag, h.last]⟩

theorem told_connection_line {c : Bool} {s : MainLoop} (h : Told c s) {connected : Bool}
    (hne : s.mqtt_connected ≠ connected) :
    Told c (connection_line connected { s with mqtt_connected := connected }) := by
  have hlines : connection_lines (connection_line connected { s with mqtt_connected := connected }).logged =
      connection_lines s.logged ++ [connected] := by
    unfold connection_line log
    cases connected
    · simp only [Bool.false_eq_true, if_false, connection_lines, List.filterMap_append]
      rfl
    · simp only [if_true, connection_lines, List.filterMap_append]
      rfl
  constructor
  · rw [hlines, ← List.cons_append, List.isChain_append]
    refine ⟨h.turns, List.isChain_singleton _, fun a ha b hb => ?_⟩
    rw [h.last] at ha
    cases ha
    cases hb
    exact hne
  · rw [hlines, ← List.cons_append, List.getLast?_concat]
    unfold connection_line log
    split <;> rfl

theorem told_step {c : Bool} {s s' : MainLoop} {l : Label} (h : Told c s) (hstep : Step s l s') : Told c s' := by
  cases hstep with
  | devices => exact ⟨h.turns, h.last⟩
  | start =>
    obtain ⟨-, -, hflag, -, hlogged⟩ := check_offline_rest _ _ s
    exact told_of_quiet h (hlogged.trans (List.append_nil _).symm) hflag nofun
  | write =>
    refine told_of_quiet h rfl rfl fun l hl => ?_
    obtain rfl := List.mem_singleton.1 hl
    exact ⟨fun heq => absurd (Prod.mk.inj (Prod.mk.inj heq).2).1 (by decide),
      fun heq => absurd (Prod.mk.inj heq).1 (by decide)⟩
  | @sync connected =>
    -- the only step that changes the flag, with its line
    have hsync : Told c (sync_mqtt_status connected s) := by
      unfold sync_mqtt_status
      dsimp only
      split_ifs with _ hne
      · have hline := told_connection_line h hne
        exact ⟨hline.turns, hline.last⟩
      · exact ⟨h.turns, h.last⟩
      · exact h
    obtain ⟨-, -, -, hflag, -, hlogged⟩ := count_devices_rest (sync_mqtt_status connected s)
    exact told_of_quiet hsync (hlogged.trans (List.append_nil _).symm) hflag nofun
  | @report count =>
    refine told_of_quiet h rfl rfl fun l hl => ?_
    obtain rfl := List.mem_singleton.1 hl
    refine ⟨fun heq => absurd (Prod.mk.inj heq).1 (by decide), fun heq => ?_⟩
    have hmsg : s.stats_line count = "MQTT connection restored".toList := (Prod.mk.inj (Prod.mk.inj heq).2).2
    have hhead : (s.stats_line count).head? = some 'S' := rfl
    rw [hmsg] at hhead
    exact absurd hhead (by decide)

/-! ## Every run -/

/-- The loop starts with the clock read three times. -/
def started (t₁ t₂ t₃ : Int) (connected : Bool) : MainLoop where
  now := t₃
  last_offline_check := t₁
  last_stats_report := t₂
  last_mqtt_status_sync := t₃
  mqtt_connected := connected

/-- What holds at every moment of a run. -/
structure Inv (c : Bool) (s : MainLoop) : Prop where
  labelled : Labelled s.device_mgr
  clocked : Clocked s
  told : Told c s

theorem inv_run {t₁ t₂ t₃ : Int} {c : Bool} (hle : t₁ ≤ t₃) {tr : List (MainLoop × Label)} {s : MainLoop}
    (h : Run Step (started t₁ t₂ t₃ c) tr s) : (∀ p ∈ tr, Inv c p.1) ∧ Inv c s := by
  refine h.inv_of_ok (Inv c) (fun _ _ => True) ⟨labelled_empty, ⟨hle, le_rfl⟩, ?_⟩
    (fun s l s' hs _ hstep => ?_) fun _ _ => trivial
  · exact ⟨List.isChain_singleton _, rfl⟩
  · exact ⟨labelled_step hs.labelled hstep, clocked_step hs.clocked hstep, told_step hs.told hstep⟩

/-- A device that was last heard at the second 0. -/
def dev_1 : Device := { tenant_id := "acme".toList, device_id := "dev-1".toList }

/-- It is registered, and a pass at the second 1000 has nothing to do. -/
def registered : MainLoop := { started 0 0 0 true with device_mgr := (register_device none dev_1 {}).2 }

def passed_once : MainLoop := (sync_mqtt_status true (check_offline 0 1000 registered)).count_devices

end MainLoop

end DevSys
