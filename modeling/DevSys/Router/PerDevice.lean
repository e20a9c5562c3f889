import DevSys.Lib.Views
import DevSys.Router.Homes
import DevSys.Router.Subscriptions
/-!
# Devices apart from each other

What the platform knows of a device moves with the messages of that device
alone, however they are mixed with those of others. The queue of orders, which
all devices share, is left out.
-/
open Cxx Views

namespace DevSys

/-- What is known of one device, by each manager there is. -/
structure DeviceView where
  home : Option (Option (Str × Device)) := none
  orders : Bool := false
  ota : Option (Option OtaRecord) := none
  faults : Option (List FaultInfo) := none

/-- A message, with the time it is handled at. -/
structure Inbound where
  now : Int
  topic : Str
  payload : Str

namespace Inbound

def parsed (m : Inbound) : ParsedTopic := ParsedTopic.parse m.topic

def device_id (m : Inbound) : Str := m.parsed.device_id

def handle (r : MessageRouter) (m : Inbound) : MessageRouter × Option Trap := r.on_message m.now m.topic m.payload

end Inbound

namespace DeviceView

/-! ## The machine of one device -/

def tenant (v : DeviceView) : Str :=
  match v.home with
  | some (some (_, dev)) => dev.tenant_id
  | _ => default_tenant

def product (v : DeviceView) : Str :=
  match v.home with
  | some (some (_, dev)) => dev.product_id
  | _ => []

def heartbeat (m : Inbound) (v : DeviceView) : DeviceView :=
  match v.home with
  | none => v
  | some home =>
    { v with home := some (some (v.tenant,
        DeviceManager.heartbeatRecord m.now v.tenant m.device_id v.product (home.map (·.2)))) }

def status (m : Inbound) (v : DeviceView) : DeviceView :=
  match v.home with
  | some (some (t, dev)) =>
    { v with home := some (some (t, { dev with network_status := MessageRouter.reportedStatus m.payload, work_status := .IDLE })) }
  | _ => v

def order_completed (m : Inbound) (v : DeviceView) : DeviceView × Option Trap :=
  if v.orders then
    match JsonHelper.get_int m.payload "ts".toList 0 with
    | .error e => (v, some (.exn e))
    | .ok _ => (v, none)
  else (v, none)

/-- The fault that an alert of the device reports. -/
def fault (m : Inbound) (v : DeviceView) (fault_code ts : Int32) : FaultInfo :=
  { MessageRouter.reportedFault none m.parsed m.payload fault_code ts with tenant_id := v.tenant }

def fault_alert (m : Inbound) (v : DeviceView) : DeviceView × Option Trap :=
  match v.faults with
  | none => (v, none)
  | some faults =>
    match JsonHelper.get_int m.payload "fault_code".toList 0 with
    | .error e => (v, some (.exn e))
    | .ok fault_code =>
      match JsonHelper.get_int m.payload "ts".toList 0 with
      | .error e => (v, some (.exn e))
      | .ok ts => ({ v with faults := some (faults ++ [v.fault m fault_code ts]) }, none)

def fault_resolved (m : Inbound) (v : DeviceView) : DeviceView × Option Trap :=
  match v.faults with
  | none => (v, none)
  | some faults =>
    match JsonHelper.get_int m.payload "fault_code".toList 0 with
    | .error e => (v, some (.exn e))
    | .ok fault_code =>
      ({ v with faults := some (faults.eraseP (FaultManager.sameFault v.tenant m.device_id ⟨castUInt8 fault_code⟩)) }, none)

def event (m : Inbound) (v : DeviceView) : DeviceView × Option Trap :=
  let event_type := JsonHelper.get_string m.payload "event_type".toList
  if event_type = "order_completed".toList then v.order_completed m
  else if event_type = "fault_alert".toList then v.fault_alert m
  else if event_type = "fault_resolved".toList then v.fault_resolved m
  else (v, none)

/-- The first progress report makes a record, and then reads behind the last one. -/
def ota_progress (m : Inbound) (v : DeviceView) : DeviceView × Option Trap :=
  match v.ota with
  | some none => ({ v with ota := some (some { tenant_id := v.tenant, device_id := m.device_id }) }, some .end_iterator)
  | _ => (v, none)

/-- What a message of the device does to its view. -/
def move (v : DeviceView) (m : Inbound) : DeviceView × Option Trap :=
  match MessageRouter.handler m.parsed with
  | some .heartbeat => (v.heartbeat m, none)
  | some .event => v.event m
  | some .ota_progress => v.ota_progress m
  | some .status => (v.status m, none)
  | _ => (v, none)

end DeviceView

namespace MessageRouter
open DeviceManager

/-! ## The views of the router -/

def view (d : Str) (r : MessageRouter) : DeviceView where
  home := r.device_mgr_.map (·.locate d)
  orders := r.order_mgr_.isSome
  ota := r.ota_mgr_.map (·.ota_records_.lookup d)
  faults := r.fault_mgr_.map fun s => s.active_faults_.filter (·.device_id = d)

/-- Each device is stored under one tenant, which its record names. -/
structure Homed (r : MessageRouter) : Prop where
  unique : ∀ s ∈ r.device_mgr_, UniqueHome s
  keyed : ∀ s ∈ r.device_mgr_, Keyed s

theorem tenant_view (d : Str) (r : MessageRouter) : (r.view d).tenant = resolve_tenant r.device_mgr_ d := by
  cases hr : r.device_mgr_ with
  | none => simp [DeviceView.tenant, view, hr, resolve_tenant]
  | some s =>
    cases hl : s.locate d with
    | none => simp [DeviceView.tenant, view, hr, resolve_tenant, find_device_by_id, hl]
    | some found => simp [DeviceView.tenant, view, hr, resolve_tenant, find_device_by_id, hl]

theorem product_view (d : Str) (r : MessageRouter) : (r.view d).product = resolve_product r.device_mgr_ d := by
  cases hr : r.device_mgr_ with
  | none => simp [DeviceView.product, view, hr, resolve_product]
  | some s =>
    cases hl : s.locate d with
    | none => simp [DeviceView.product, view, hr, resolve_product, find_device_by_id, hl]
    | some found => simp [DeviceView.product, view, hr, resolve_product, find_device_by_id, hl]

/-! ## A store under the home of a device -/

/-- The lookup by id goes by what is stored for the device. -/
theorem locate_congr {s s' : DeviceManager} (hu : UniqueHome s) {d : Str} (h : ∀ t, s'.rec? t d = s.rec? t d) :
    s'.locate d = s.locate d := by
  cases hl : s.locate d with
  | none =>
    cases hl' : s'.locate d with
    | none => rfl
    | some found =>
      have hrec := locate_some hl'
      rw [h, locate_none hl] at hrec
      cases hrec
  | some found =>
    obtain ⟨t, dev⟩ := found
    have hrec := locate_some hl
    refine locate_of_unique (by rw [h, hrec]) fun t' ht' => ?_
    rw [h] at ht'
    exact hu d t' t ht' (by rw [hrec]; rfl)

section Store
variable {s s' : DeviceManager} {t d : Str} {dev : Device}
  (h : ∀ t' d', s'.rec? t' d' = if t' = t ∧ d' = d then some dev else s.rec? t' d')
include h

theorem locate_store (hu : UniqueHome s') : s'.locate d = some (t, dev) := by
  have hrec : s'.rec? t d = some dev := by rw [h, if_pos ⟨rfl, rfl⟩]
  exact locate_of_unique hrec fun t' ht' => hu d t' t ht' (by rw [hrec]; rfl)

theorem locate_store_ne (hu : UniqueHome s) {d' : Str} (hd : d' ≠ d) : s'.locate d' = s.locate d' :=
  locate_congr hu fun t' => by rw [h, if_neg fun hkey => hd hkey.2]

end Store

theorem rec?_home {s : DeviceManager} (hk : Keyed s) (d : Str) :
    s.rec? (resolve_tenant (some s) d) d = (s.locate d).map (·.2) := by
  cases hl : s.locate d with
  | none => exact locate_none hl _
  | some found =>
    obtain ⟨t, dev⟩ := found
    have hrec := locate_some hl
    rw [resolve_tenant_some hl, hk t d dev hrec, hrec]
    rfl

theorem home_of_isSome {s : DeviceManager} (hu : UniqueHome s) (hk : Keyed s) {d t : Str} (h : (s.rec? t d).isSome) :
    t = resolve_tenant (some s) d := by
  rcases resolve_keyed hk d with ⟨dev, hdev⟩ | hnone
  · exact hu d t _ h (by rw [hdev]; rfl)
  · rw [hnone t] at h
    cases h

/-! ## What a handler does to the views -/

/-- The manager stays as it is, or a record is stored at the home of the device. -/
inductive Stores (d : Str) (s : DeviceManager) : Option Device → DeviceManager → Prop
  | same : Stores d s none s
  | stored {dev s'} : dev.tenant_id = resolve_tenant (some s) d →
      (∀ t' d', s'.rec? t' d' = if t' = resolve_tenant (some s) d ∧ d' = d then some dev else s.rec? t' d') →
      Stores d s (some dev) s'

section Stores
variable {d : Str} {s s' : DeviceManager} {x : Option Device} (h : Stores d s x s') (hu : UniqueHome s)
include h hu

theorem Stores.homed (hk : Keyed s) : UniqueHome s' ∧ Keyed s' := by
  cases h with
  | same => exact ⟨hu, hk⟩
  | stored htenant hstore =>
    exact ⟨(uniqueHome_store_iff hstore hu).2 fun t' ht' => home_of_isSome hu hk ht', keyed_store hstore hk htenant⟩

theorem Stores.locate (hk : Keyed s) : s'.locate d = x.elim (s.locate d) fun dev => some (resolve_tenant (some s) d, dev) := by
  have hu' := (h.homed hu hk).1
  cases h with
  | same => rfl
  | stored _ hstore => exact locate_store hstore hu'

theorem Stores.locate_ne {d' : Str} (hd : d' ≠ d) : s'.locate d' = s.locate d' := by
  cases h with
  | same => rfl
  | stored _ hstore => exact locate_store_ne hstore hu hd

end Stores

theorem stores_heartbeat {s : DeviceManager} (hk : Keyed s) (now : Int) (d product payload : Str) :
    Stores d s (some (heartbeatRecord now (resolve_tenant (some s) d) d product ((s.locate d).map (·.2))))
      (s.process_heartbeat now (resolve_tenant (some s) d) d product payload) := by
  refine .stored ?_ fun t' d' => ?_
  · cases hl : s.locate d with
    | none => rfl
    | some found =>
      obtain ⟨t, dev⟩ := found
      exact (resolve_tenant_some hl).symm
  · rw [process_heartbeat_rec?, rec?_home hk]

theorem stores_status {s : DeviceManager} (hk : Keyed s) (net : NetworkStatus) (work : WorkStatus) (d : Str) :
    Stores d s ((s.locate d).map fun found => { found.2 with network_status := net, work_status := work })
      (s.update_device_status (resolve_tenant (some s) d) d net work).2 := by
  have hrec := rec?_home hk d
  cases hl : s.locate d with
  | none =>
    rw [hl] at hrec
    rw [update_device_status_eq, hrec]
    exact .same
  | some found =>
    obtain ⟨t, dev⟩ := found
    rw [hl] at hrec
    refine .stored (resolve_tenant_some hl).symm fun t' d' => ?_
    rw [update_device_status_rec?, hrec]
    rfl

section Erase
variable {α : Type} {p q : α → Bool}

theorem filter_eraseP_of_imp (h : ∀ a, p a = true → q a = true) (l : List α) :
    (l.eraseP p).filter q = (l.filter q).eraseP p := by
  induction l with
  | nil => rfl
  | cons a l ih =>
    by_cases hp : p a = true
    · rw [List.eraseP_cons_of_pos hp, List.filter_cons_of_pos (h a hp), List.eraseP_cons_of_pos hp]
    · rw [List.eraseP_cons_of_neg hp]
      by_cases hq : q a = true
      · rw [List.filter_cons_of_pos hq, List.filter_cons_of_pos hq, List.eraseP_cons_of_neg hp, ih]
      · rw [List.filter_cons_of_neg hq, List.filter_cons_of_neg hq, ih]

theorem filter_eraseP_of_not (h : ∀ a, p a = true → ¬q a = true) (l : List α) : (l.eraseP p).filter q = l.filter q := by
  induction l with
  | nil => rfl
  | cons a l ih =>
    by_cases hp : p a = true
    · rw [List.eraseP_cons_of_pos hp, List.filter_cons_of_neg (h a hp)]
    · rw [List.eraseP_cons_of_neg hp, List.filter_cons, List.filter_cons, ih]

end Erase

/-- A message moves the view of its device, and no other view. -/
structure Moves (m : Inbound) (r : MessageRouter) (out : MessageRouter × Option Trap) (moved : DeviceView × Option Trap) :
    Prop where
  homed : Homed out.1
  own : moved = (view m.device_id out.1, out.2)
  others : ∀ d, d ≠ m.device_id → view d out.1 = view d r

section Handlers
variable {r : MessageRouter} (hr : Homed r) (m : Inbound)
include hr

theorem moves_same (trap : Option Trap) : Moves m r (r, trap) (view m.device_id r, trap) := ⟨hr, rfl, fun _ _ => rfl⟩

/-- A record is stored at the home of the device. -/
theorem moves_stores {s s' : DeviceManager} {x : Option Device} (hs : r.device_mgr_ = some s)
    (h : Stores m.device_id s x s') : Moves m r ({ r with device_mgr_ := some s' }, none)
      ({ r.view m.device_id with
          home := some (x.elim (s.locate m.device_id) fun dev => some (resolve_tenant (some s) m.device_id, dev)) }, none) := by
  have hu := hr.unique s hs
  have hk := hr.keyed s hs
  have hlocate := h.locate hu hk
  refine ⟨⟨?_, ?_⟩, ?_, fun d hd => ?_⟩
  · rintro _ ⟨⟩
    exact (h.homed hu hk).1
  · rintro _ ⟨⟩
    exact (h.homed hu hk).2
  · simp [view, hlocate]
  · have hother := h.locate_ne hu hd
    simp [view, hs, hother]

theorem moves_heartbeat : Moves m r (handle_heartbeat m.now m.parsed m.payload r, none)
    ((r.view m.device_id).heartbeat m, none) := by
  cases hs : r.device_mgr_ with
  | none =>
    have hnone : handle_heartbeat m.now m.parsed m.payload r = r := by simp only [handle_heartbeat, hs]
    have hview : (r.view m.device_id).heartbeat m = r.view m.device_id := by simp [DeviceView.heartbeat, view, hs]
    rw [hnone, hview]
    exact moves_same hr m none
  | some s =>
    have hsome : handle_heartbeat m.now m.parsed m.payload r = { r with device_mgr_ := some (s.process_heartbeat m.now
        (resolve_tenant (some s) m.device_id) m.device_id (resolve_product (some s) m.device_id) m.payload) } := by
      simp only [handle_heartbeat, hs, Inbound.device_id]
    have htenant := tenant_view m.device_id r
    have hproduct := product_view m.device_id r
    have hhome : (r.view m.device_id).home = some (s.locate m.device_id) := by simp [view, hs]
    rw [hs] at htenant hproduct
    rw [hsome, DeviceView.heartbeat, hhome, htenant, hproduct]
    exact moves_stores hr m hs (stores_heartbeat (hr.keyed s hs) m.now m.device_id _ m.payload)

theorem moves_status : Moves m r (handle_status m.parsed m.payload r, none) ((r.view m.device_id).status m, none) := by
  cases hs : r.device_mgr_ with
  | none =>
    have hnone : handle_status m.parsed m.payload r = r := by simp only [handle_status, hs]
    have hview : (r.view m.device_id).status m = r.view m.device_id := by simp [DeviceView.status, view, hs]
    rw [hnone, hview]
    exact moves_same hr m none
  | some s =>
    have hsome : handle_status m.parsed m.payload r = { r with device_mgr_ := some (s.update_device_status
        (resolve_tenant (some s) m.device_id) m.device_id (reportedStatus m.payload) .IDLE).2 } := by
      simp only [handle_status, hs, Inbound.device_id]
    have hmoves := moves_stores hr m hs (stores_status (hr.keyed s hs) (reportedStatus m.payload) .IDLE m.device_id)
    have hhome : (r.view m.device_id).home = some (s.locate m.device_id) := by simp [view, hs]
    rw [hsome, DeviceView.status, hhome]
    cases hl : s.locate m.device_id with
    | none =>
      rw [hl] at hmoves hhome
      have hview : { r.view m.device_id with home := some none } = r.view m.device_id := by rw [← hhome]
      simpa [hview] using hmoves
    | some found =>
      obtain ⟨t, dev⟩ := found
      have ht : resolve_tenant (some s) m.device_id = t := by
        rw [resolve_tenant_some hl]
        exact hr.keyed s hs t _ dev (locate_some hl)
      rw [hl, ht] at hmoves
      rw [ht]
      exact hmoves

/-- What is known of the orders is only whether there are any. -/
theorem moves_order_completed : Moves m r (handle_order_completed m.parsed m.payload r)
    ((r.view m.device_id).order_completed m) := by
  cases hs : r.order_mgr_ with
  | none =>
    have hnone : handle_order_completed m.parsed m.payload r = (r, none) := by simp only [handle_order_completed, hs]
    have hview : (r.view m.device_id).order_completed m = (r.view m.device_id, none) := by
      simp [DeviceView.order_completed, view, hs]
    rw [hnone, hview]
    exact moves_same hr m none
  | some s =>
    have horders : (r.view m.device_id).orders = true := by simp [view, hs]
    rw [DeviceView.order_completed, if_pos horders]
    simp only [handle_order_completed, hs]
    cases JsonHelper.get_int m.payload "ts".toList 0 with
    | error e => exact moves_same hr m (some (.exn e))
    | ok ts =>
      refine ⟨⟨hr.unique, hr.keyed⟩, ?_, fun d _ => ?_⟩
      · simp [view, hs]
      · simp [view, hs]

/-- The faults of other devices stay. -/
theorem moves_faults {s s' : FaultManager} {faults : List FaultInfo} (hs : r.fault_mgr_ = some s)
    (hown : s'.active_faults_.filter (·.device_id = m.device_id) = faults)
    (hothers : ∀ d, d ≠ m.device_id →
      s'.active_faults_.filter (·.device_id = d) = s.active_faults_.filter (·.device_id = d)) :
    Moves m r ({ r with fault_mgr_ := some s' }, none) ({ r.view m.device_id with faults := some faults }, none) := by
  subst hown
  refine ⟨⟨hr.unique, hr.keyed⟩, rfl, fun d hd => ?_⟩
  have hother := hothers d hd
  simp [view, hs, hother]

theorem moves_fault_alert : Moves m r (handle_fault_alert m.parsed m.payload r) ((r.view m.device_id).fault_alert m) := by
  cases hs : r.fault_mgr_ with
  | none =>
    have hnone : handle_fault_alert m.parsed m.payload r = (r, none) := by simp only [handle_fault_alert, hs]
    have hview : (r.view m.device_id).fault_alert m = (r.view m.device_id, none) := by
      simp [DeviceView.fault_alert, view, hs]
    rw [hnone, hview]
    exact moves_same hr m none
  | some s =>
    have hfaults : (r.view m.device_id).faults = some (s.active_faults_.filter (·.device_id = m.device_id)) := by
      simp [view, hs]
    rw [DeviceView.fault_alert, hfaults]
    simp only [handle_fault_alert, hs]
    cases JsonHelper.get_int m.payload "fault_code".toList 0 with
    | error e => exact moves_same hr m (some (.exn e))
    | ok fault_code =>
      cases JsonHelper.get_int m.payload "ts".toList 0 with
      | error e => exact moves_same hr m (some (.exn e))
      | ok ts =>
        have hfault : (r.view m.device_id).fault m fault_code ts =
            reportedFault r.device_mgr_ m.parsed m.payload fault_code ts := by
          rw [DeviceView.fault, tenant_view]
          rfl
        have hdevice : (reportedFault r.device_mgr_ m.parsed m.payload fault_code ts).device_id = m.device_id := rfl
        simp only [hfault]
        refine moves_faults hr m hs ?_ fun d hd => ?_
        · rw [FaultManager.add_fault, List.filter_append, List.filter_cons_of_pos (by simp [hdevice]), List.filter_nil]
        · rw [FaultManager.add_fault, List.filter_append, List.filter_cons_of_neg (by simpa [hdevice] using Ne.symm hd),
            List.filter_nil, List.append_nil]

theorem moves_fault_resolved :
    Moves m r (handle_fault_resolved m.parsed m.payload r) ((r.view m.device_id).fault_resolved m) := by
  cases hs : r.fault_mgr_ with
  | none =>
    have hnone : handle_fault_resolved m.parsed m.payload r = (r, none) := by simp only [handle_fault_resolved, hs]
    have hview : (r.view m.device_id).fault_resolved m = (r.view m.device_id, none) := by
      simp [DeviceView.fault_resolved, view, hs]
    rw [hnone, hview]
    exact moves_same hr m none
  | some s =>
    have hfaults : (r.view m.device_id).faults = some (s.active_faults_.filter (·.device_id = m.device_id)) := by
      simp [view, hs]
    rw [DeviceView.fault_resolved, hfaults, tenant_view]
    simp only [handle_fault_resolved, hs]
    cases JsonHelper.get_int m.payload "fault_code".toList 0 with
    | error e => exact moves_same hr m (some (.exn e))
    | ok fault_code =>
      have hsame (f : FaultInfo) (hf : FaultManager.sameFault (resolve_tenant r.device_mgr_ m.device_id) m.device_id
          ⟨castUInt8 fault_code⟩ f = true) : f.device_id = m.device_id := by
        simp only [FaultManager.sameFault, decide_eq_true_eq] at hf
        exact hf.2.1
      refine moves_faults hr m hs ?_ fun d hd => ?_
      · rw [FaultManager.resolve_fault_eq]
        exact filter_eraseP_of_imp (fun f hf => decide_eq_true (hsame f hf)) _
      · rw [FaultManager.resolve_fault_eq]
        exact filter_eraseP_of_not (fun f hf => by simpa [hsame f hf] using Ne.symm hd) _

theorem moves_ota_progress : Moves m r (handle_ota_progress m.parsed m.payload r)
    ((r.view m.device_id).ota_progress m) := by
  cases hs : r.ota_mgr_ with
  | none =>
    have hnone : handle_ota_progress m.parsed m.payload r = (r, none) := by simp only [handle_ota_progress, hs]
    have hview : (r.view m.device_id).ota_progress m = (r.view m.device_id, none) := by
      simp [DeviceView.ota_progress, view, hs]
    rw [hnone, hview]
    exact moves_same hr m none
  | some s =>
    have hota : (r.view m.device_id).ota = some (s.ota_records_.lookup m.device_id) := by simp [view, hs]
    have htenant := tenant_view m.device_id r
    rw [DeviceView.ota_progress, hota, htenant]
    cases hrec : s.ota_records_.lookup m.device_id with
    | none =>
      have hsome : handle_ota_progress m.parsed m.payload r = ({ r with ota_mgr_ := some { s with
          ota_records_ := UMap.set m.device_id { tenant_id := resolve_tenant r.device_mgr_ m.device_id, device_id := m.device_id }
            s.ota_records_ } }, some .end_iterator) := by
        have hrec' : s.ota_records_.lookup m.parsed.device_id = none := hrec
        simp only [handle_ota_progress, hs, OtaManager.process_ota_progress, hrec', Inbound.device_id, Option.isNone_none, if_true]
      rw [hsome]
      refine ⟨⟨hr.unique, hr.keyed⟩, ?_, fun d hd => ?_⟩
      · simp [view]
      · simp [view, hs, hd]
    | some rec =>
      have hsame : handle_ota_progress m.parsed m.payload r = (r, none) := by
        have hrec' : s.ota_records_.lookup m.parsed.device_id = some rec := hrec
        simp only [handle_ota_progress, hs, OtaManager.process_ota_progress, hrec', Option.isNone_some]
        rw [← hs]
        rfl
      rw [hsame]
      exact moves_same hr m none

theorem moves_event : Moves m r (handle_event m.parsed m.payload r) ((r.view m.device_id).event m) := by
  have hproperty := handle_property_eq m.parsed m.payload r
  rw [handle_event, DeviceView.event]
  split_ifs
  · exact moves_order_completed hr m
  · exact moves_fault_alert hr m
  · exact moves_fault_resolved hr m
  · rw [hproperty]
    exact moves_same hr m none
  · exact moves_same hr m none

theorem moves_message : Moves m r (m.handle r) ((r.view m.device_id).move m) := by
  have hproperty := handle_property_eq m.parsed m.payload r
  rw [Inbound.handle, on_message_eq, ← Inbound.parsed, DeviceView.move]
  cases handler m.parsed with
  | none => exact moves_same hr m none
  | some h =>
    cases h with
    | heartbeat => exact moves_heartbeat hr m
    | event => exact moves_event hr m
    | property =>
      simp only [Handler.handle, hproperty]
      exact moves_same hr m none
    | ota_progress => exact moves_ota_progress hr m
    | status => exact moves_status hr m

end Handlers

/-! ## Every run -/

theorem independent : Independent Homed (fun r m => Inbound.handle r m) Inbound.device_id view DeviceView.move where
  keeps _ m hr := (moves_message hr m).homed
  own _ m hr := (moves_message hr m).own
  others _ m d hr hd := (moves_message hr m).others d (Ne.symm hd)

/-- Whatever messages come in, in whatever order, what is known of a device apart
from orders is what the machine of that device makes of its own messages, until a
handler traps, which one does exactly when the machine of some device does. -/
theorem per_device {r : MessageRouter} (hr : Homed r) (ms : List Inbound) :
    ((runUntil Inbound.handle r ms).2 = none ↔
        ∀ d, (runUntil DeviceView.move (r.view d) (ms.filter fun m => m.device_id = d)).2 = none) ∧
      ((runUntil Inbound.handle r ms).2 = none → ∀ d,
        (runUntil Inbound.handle r ms).1.view d =
          (runUntil DeviceView.move (r.view d) (ms.filter fun m => m.device_id = d)).1) := by
  refine ⟨independent.returns_iff hr ms, fun hrun d => ?_⟩
  rw [independent.run_view hr hrun d]

theorem homed_new : Homed { device_mgr_ := some {}, order_mgr_ := some {}, ota_mgr_ := some {}, fault_mgr_ := some {} } where
  unique := by
    rintro _ ⟨⟩
    exact uniqueHome_empty
  keyed := by
    rintro _ ⟨⟩
    exact keyed_empty

/-- Heartbeats of two devices, with the first status of one between them. -/
def mixed : List Inbound :=
  [⟨7, "dev-1/v1/heartbeat".toList, []⟩, ⟨8, "dev-2/v1/heartbeat".toList, []⟩, ⟨9, "dev-1/v1/status".toList, []⟩]

theorem per_device_mixed :
    let r : MessageRouter := { device_mgr_ := some {}, order_mgr_ := some {}, ota_mgr_ := some {}, fault_mgr_ := some {} }
    ((runUntil Inbound.handle r mixed).2 = none ↔
        ∀ d, (runUntil DeviceView.move (r.view d) (mixed.filter fun m => m.device_id = d)).2 = none) ∧
      ((runUntil Inbound.handle r mixed).2 = none → ∀ d,
        (runUntil Inbound.handle r mixed).1.view d =
          (runUntil DeviceView.move (r.view d) (mixed.filter fun m => m.device_id = d)).1) :=
  per_device homed_new mixed

end MessageRouter

end DevSys
