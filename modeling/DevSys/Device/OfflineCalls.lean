import DevSys.Device.OfflineCheck
import DevSys.Lib.Alternation
/-!
# Offline callbacks over time

The callback is declared for a device that goes offline. The sweep makes it for
every silent device, whether or not it is marked offline already, so that it is
made again and again until the device is heard.
-/
open Cxx Runs Alternation

namespace DevSys.DeviceManager.OfflineCalls
open OfflineCheck

/-! ## Runs -/

inductive Event where
  | process_heartbeat (now : Int) (tenant_id device_id product_id payload_json : Str)
  | register_device (upsert : Option StatusCode) (device : Device)
  | check_offline_devices (now : Int)

/-- Registered devices are online. -/
inductive Step : DeviceManager → Event → DeviceManager → Prop
  | process_heartbeat {s now t d product payload} :
      Step s (.process_heartbeat now t d product payload) (s.process_heartbeat now t d product payload)
  | register_device {s upsert device} : device.network_status = .ONLINE →
      Step s (.register_device upsert device) (s.register_device upsert device).2
  | check_offline_devices {s now} : Step s (.check_offline_devices now) (check_offline_calls now s).1

/-- What a step tells about devices. -/
def reports (s : DeviceManager) : Event → List (Report (Str × Str))
  | .process_heartbeat _ t d _ _ => [.heard (t, d)]
  | .register_device _ device => [.heard (device.tenant_id, device.device_id)]
  | .check_offline_devices now => (check_offline_calls now s).2.map .called

def log (tr : List (DeviceManager × Event)) : List (Report (Str × Str)) := tr.flatMap fun p => reports p.1 p.2

/-- The devices that a sweep finds silent are not marked offline yet. -/
def GoOffline (s : DeviceManager) : Event → Prop
  | .check_offline_devices now =>
    ∀ t d dev, s.rec? t d = some dev → Silent now 180 dev → dev.network_status ≠ .OFFLINE
  | _ => True

/-- Nothing is marked offline. -/
def NoneOffline (s : DeviceManager) : Prop := ∀ t d dev, s.rec? t d = some dev → dev.network_status ≠ .OFFLINE

theorem log_snoc (tr : List (DeviceManager × Event)) (s : DeviceManager) (e : Event) :
    log (tr ++ [(s, e)]) = log tr ++ reports s e := by
  rw [log, List.flatMap_append, ← log]
  simp

/-! ## What is pending -/

def MarkedOffline (s : DeviceManager) (k : Str × Str) : Prop := ∃ dev, s.rec? k.1 k.2 = some dev ∧ dev.network_status = .OFFLINE

/-- The devices with a call pending are those marked offline. -/
structure Marked (tr : List (DeviceManager × Event)) (s : DeviceManager) : Prop where
  labelled : Labelled s
  pending : ∀ k, Pending k (log tr) ↔ MarkedOffline s k

/-- A device that is stored as online has been heard. -/
theorem pending_heard {tr : List (DeviceManager × Event)} {s s' : DeviceManager} {t d : Str} {dev : Device}
    (hs : ∀ k, Pending k (log tr) ↔ MarkedOffline s k) (honline : dev.network_status = .ONLINE)
    (hrec : ∀ t' d', s'.rec? t' d' = if t' = t ∧ d' = d then some dev else s.rec? t' d') (k : Str × Str) :
    Pending k (log tr ++ [.heard (t, d)]) ↔ MarkedOffline s' k := by
  rw [pending_snoc, hs, MarkedOffline, MarkedOffline, hrec]
  obtain ⟨t', d'⟩ := k
  by_cases hk : t' = t ∧ d' = d
  · rw [if_pos hk, hk.1, hk.2]
    refine iff_of_false ?_ ?_
    · rintro (h | ⟨h, -⟩)
      · cases h
      · exact h rfl
    · rintro ⟨_, ⟨⟩, hoff⟩
      rw [honline] at hoff
      cases hoff
  · have hne : (Report.heard (t, d) : Report (Str × Str)) ≠ .heard (t', d') := by
      intro h
      cases h
      exact hk ⟨rfl, rfl⟩
    rw [if_neg hk]
    constructor
    · rintro (h | ⟨-, h⟩)
      · cases h
      · exact h
    · exact fun h => .inr ⟨hne, h⟩

theorem mem_calls {s : DeviceManager} (hs : Labelled s) (now : Int) (t d : Str) :
    (t, d) ∈ (check_offline_calls now s).2 ↔ ∃ dev, s.rec? t d = some dev ∧ Silent now 180 dev := by
  rw [← List.count_pos_iff, hs.count_calls]
  split
  · rename_i h
    exact iff_of_true Nat.one_pos h
  · rename_i h
    exact iff_of_false (Nat.lt_irrefl 0) h

theorem nodup_calls {s : DeviceManager} (hs : Labelled s) (now : Int) : (check_offline_calls now s).2.Nodup := by
  rw [check_offline_calls_eq]
  exact hs.nodup_offline now

/-- A sweep marks the devices that it calls back for. -/
theorem pending_called {tr : List (DeviceManager × Event)} {s : DeviceManager} (hs : Marked tr s) (now : Int)
    (k : Str × Str) : Pending k (log tr ++ (check_offline_calls now s).2.map .called) ↔
      MarkedOffline (check_offline_calls now s).1 k := by
  obtain ⟨t, d⟩ := k
  rw [pending_append_called, hs.pending, mem_calls hs.labelled, MarkedOffline, MarkedOffline,
    hs.labelled.check_offline_rec?]
  cases hrec : s.rec? t d with
  | none => simp
  | some dev =>
    simp only [Option.map_some, Option.some.injEq, exists_eq_left', swept]
    by_cases hsilent : Silent now 180 dev
    · rw [if_pos hsilent]
      exact iff_of_true (.inl hsilent) rfl
    · rw [if_neg hsilent]
      exact or_iff_right hsilent

theorem marked_step {tr : List (DeviceManager × Event)} {s s' : DeviceManager} {e : Event} (hs : Marked tr s)
    (h : Step s e s') : Marked (tr ++ [(s, e)]) s' := by
  cases h with
  | @process_heartbeat now t d product payload =>
    refine ⟨hs.labelled.step (e := .process_heartbeat now t d product payload) rfl, fun k => ?_⟩
    rw [log_snoc]
    refine pending_heard hs.pending ?_ (process_heartbeat_rec? now t d product payload s) k
    cases s.rec? t d <;> rfl
  | @register_device upsert device honline =>
    refine ⟨hs.labelled.step (e := .register_device upsert device) rfl, fun k => ?_⟩
    rw [log_snoc]
    exact pending_heard hs.pending honline (register_device_rec? upsert device s) k
  | @check_offline_devices now =>
    refine ⟨?_, fun k => ?_⟩
    · intro t d dev hdev
      rw [hs.labelled.check_offline_rec?] at hdev
      obtain ⟨old, hold, rfl⟩ := Option.map_eq_some_iff.1 hdev
      rw [swept]
      split
      · exact hs.labelled t d old hold
      · exact hs.labelled t d old hold
    · rw [log_snoc]
      exact pending_called hs now k

/-! ## Transitions -/

/-- A step keeps the callbacks in order exactly when it finds no device silent that is marked. -/
theorem alternates_step {tr : List (DeviceManager × Event)} {s s' : DeviceManager} {e : Event} (hs : Marked tr s)
    (h : Step s e s') : Alternates (log (tr ++ [(s, e)])) ↔ Alternates (log tr) ∧ GoOffline s e := by
  rw [log_snoc]
  cases h with
  | process_heartbeat => exact (alternates_heard _).trans (and_iff_left trivial).symm
  | register_device => exact (alternates_heard _).trans (and_iff_left trivial).symm
  | @check_offline_devices now =>
    rw [reports, alternates_append_called (nodup_calls hs.labelled now)]
    refine and_congr_right fun _ => ?_
    constructor
    · intro hcalls t d dev hdev hsilent hoff
      exact hcalls (t, d) ((mem_calls hs.labelled now t d).2 ⟨dev, hdev, hsilent⟩)
        ((hs.pending (t, d)).2 ⟨dev, hdev, hoff⟩)
    · rintro hgo ⟨t, d⟩ hcall hpending
      obtain ⟨dev, hdev, hsilent⟩ := (mem_calls hs.labelled now t d).1 hcall
      obtain ⟨_, hdev', hoff⟩ := (hs.pending (t, d)).1 hpending
      rw [hdev] at hdev'
      cases hdev'
      exact hgo t d dev hdev hsilent hoff

/-- From a state where nothing is marked offline, a device is heard between any
two callbacks for it exactly when no sweep finds a device silent that is marked
offline already. -/
theorem offline_calls_alternate_iff {init : DeviceManager} (hl : Labelled init) (ho : NoneOffline init)
    {tr : List (DeviceManager × Event)} {s : DeviceManager} (h : Run Step init tr s) :
    Alternates (log tr) ↔ ∀ p ∈ tr, GoOffline p.1 p.2 := by
  have hinit : Marked [] init := by
    refine ⟨hl, fun k => iff_of_false not_pending_nil ?_⟩
    rintro ⟨dev, hdev, hoff⟩
    exact ho k.1 k.2 dev hdev hoff
  suffices hall : (Alternates (log tr) ↔ ∀ p ∈ tr, GoOffline p.1 p.2) ∧ Marked tr s from hall.1
  induction h with
  | nil => exact ⟨iff_of_true alternates_nil (by simp), hinit⟩
  | snoc _ hstep ih =>
    obtain ⟨hiff, hmarked⟩ := ih
    refine ⟨?_, marked_step hmarked hstep⟩
    rw [alternates_step hmarked hstep, hiff, List.forall_mem_append, List.forall_mem_singleton]

def hear (now : Int) : Event := .process_heartbeat now "acme".toList "dev-1".toList "coffee".toList []

/-- The state after a heartbeat at time zero, and after a sweep then. -/
def heard_once : DeviceManager := process_heartbeat 0 "acme".toList "dev-1".toList "coffee".toList [] {}

def swept_once : DeviceManager := (check_offline_calls 200 heard_once).1

theorem noneOffline_empty : NoneOffline {} := by
  intro t d dev h
  rw [rec?_empty] at h
  cases h

/-- One sweep after three minutes of silence. -/
theorem offline_calls_alternate_once :
    Alternates (log [({}, hear 0), (heard_once, .check_offline_devices 200)]) := by
  have hheard : Run Step {} [({}, hear 0)] heard_once := Run.nil.snoc .process_heartbeat
  have hswept : Run Step {} [({}, hear 0), (heard_once, .check_offline_devices 200)] swept_once :=
    hheard.snoc .check_offline_devices
  refine (offline_calls_alternate_iff labelled_empty noneOffline_empty hswept).2 ?_
  rw [List.forall_mem_cons, List.forall_mem_singleton]
  refine ⟨trivial, fun t d dev hdev _ hoff => ?_⟩
  rw [heard_once, process_heartbeat_rec?, rec?_empty] at hdev
  split at hdev
  · cases hdev
    cases hoff
  · rw [rec?_empty] at hdev
    cases hdev

/-- Two sweeps half a minute apart both call back for a device that is silent all the time. -/
theorem offline_calls_alternate_fails : ∃ tr s, Run Step {} tr s ∧
    tr.map (·.2) = [hear 0, .check_offline_devices 200, .check_offline_devices 230] ∧ ¬ Alternates (log tr) := by
  have hheard : Run Step {} [({}, hear 0)] heard_once := Run.nil.snoc .process_heartbeat
  have hswept : Run Step {} [({}, hear 0), (heard_once, .check_offline_devices 200)] swept_once :=
    hheard.snoc .check_offline_devices
  have hagain : Run Step {}
      [({}, hear 0), (heard_once, .check_offline_devices 200), (swept_once, .check_offline_devices 230)]
      (check_offline_calls 230 swept_once).1 := hswept.snoc .check_offline_devices
  refine ⟨_, _, hagain, rfl, fun h => ?_⟩
  have hmid := h ("acme".toList, "dev-1".toList) [.heard ("acme".toList, "dev-1".toList)] [] [] rfl
  cases hmid

end DevSys.DeviceManager.OfflineCalls
