import DevSys.Common.JsonHelper
import DevSys.Common.Topic
import DevSys.Order.OrderManager
import DevSys.Fault.FaultManager
import DevSys.Ota.OtaManager
/-!
# `MessageRouter`

Inbound messages, by topic. The router holds the managers it was given; a
handler without its manager does nothing. Clock and log lines are left out,
except for the clock of a heartbeat and the log line that reads an iterator.
-/
open Cxx

namespace DevSys

/-- How a handler can end other than by returning. -/
inductive Trap where
  | exn (e : Exn)
  | end_iterator
  deriving DecidableEq, Repr

structure MessageRouter where
  device_mgr_ : Option DeviceManager := none
  order_mgr_ : Option OrderManager := none
  ota_mgr_ : Option OtaManager := none
  fault_mgr_ : Option FaultManager := none

/-- The tenant of a device that is not stored. -/
def default_tenant : Str := "default".toList

def resolve_tenant (mgr : Option DeviceManager) (did : Str) : Str :=
  match mgr with
  | none => default_tenant
  | some mgr => match mgr.find_device_by_id did with
    | some d => d.tenant_id
    | none => default_tenant

def resolve_product (mgr : Option DeviceManager) (did : Str) : Str :=
  match mgr with
  | none => []
  | some mgr => match mgr.find_device_by_id did with
    | some d => d.product_id
    | none => []

namespace MessageRouter

/-! ## Handlers -/

def handle_heartbeat (now : Int) (pt : ParsedTopic) (payload : Str) (r : MessageRouter) : MessageRouter :=
  match r.device_mgr_ with
  | none => r
  | some mgr =>
    { r with device_mgr_ := some (mgr.process_heartbeat now (resolve_tenant r.device_mgr_ pt.device_id) pt.device_id
        (resolve_product r.device_mgr_ pt.device_id) payload) }

/-- The order a report of a finished order describes. -/
def reportedOrder (mgr : Option DeviceManager) (pt : ParsedTopic) (payload : Str) (ts : Int32) : Order where
  order_id := JsonHelper.get_string payload "order_id".toList
  device_id := pt.device_id
  tenant_id := resolve_tenant mgr pt.device_id
  recipe_id := JsonHelper.get_string payload "recipe_id".toList
  recipe_name := JsonHelper.get_string payload "recipe_name".toList
  cup_size := JsonHelper.get_string payload "cup_size".toList
  status := .COMPLETED
  created_at := to_string ts.toInt

@[simp] theorem reportedOrder_tenant (mgr : Option DeviceManager) (pt : ParsedTopic) (payload : Str) (ts : Int32) :
    (reportedOrder mgr pt payload ts).tenant_id = resolve_tenant mgr pt.device_id := rfl

def handle_order_completed (pt : ParsedTopic) (payload : Str) (r : MessageRouter) : MessageRouter × Option Trap :=
  match r.order_mgr_ with
  | none => (r, none)
  | some mgr =>
    match JsonHelper.get_int payload "ts".toList 0 with
    | .error e => (r, some (.exn e))
    | .ok ts =>
      ({ r with order_mgr_ := some (mgr.create_order (reportedOrder r.device_mgr_ pt payload ts)).2 }, none)

/-- The fault an alert describes. -/
def reportedFault (mgr : Option DeviceManager) (pt : ParsedTopic) (payload : Str) (fault_code ts : Int32) :
    FaultInfo where
  tenant_id := resolve_tenant mgr pt.device_id
  device_id := pt.device_id
  code := ⟨castUInt8 fault_code⟩
  level := if JsonHelper.get_string payload "level".toList = "error".toList then .ERROR else .WARNING
  description := JsonHelper.get_string payload "description".toList
  timestamp := to_string ts.toInt

@[simp] theorem reportedFault_tenant (mgr : Option DeviceManager) (pt : ParsedTopic) (payload : Str)
    (fault_code ts : Int32) : (reportedFault mgr pt payload fault_code ts).tenant_id = resolve_tenant mgr pt.device_id :=
  rfl

def handle_fault_alert (pt : ParsedTopic) (payload : Str) (r : MessageRouter) : MessageRouter × Option Trap :=
  match r.fault_mgr_ with
  | none => (r, none)
  | some mgr =>
    match JsonHelper.get_int payload "fault_code".toList 0 with
    | .error e => (r, some (.exn e))
    | .ok fault_code =>
      match JsonHelper.get_int payload "ts".toList 0 with
      | .error e => (r, some (.exn e))
      | .ok ts =>
        ({ r with fault_mgr_ := some (mgr.add_fault (reportedFault r.device_mgr_ pt payload fault_code ts)) }, none)

def handle_fault_resolved (pt : ParsedTopic) (payload : Str) (r : MessageRouter) : MessageRouter × Option Trap :=
  match r.fault_mgr_ with
  | none => (r, none)
  | some mgr =>
    match JsonHelper.get_int payload "fault_code".toList 0 with
    | .error e => (r, some (.exn e))
    | .ok fault_code =>
      let tid := resolve_tenant r.device_mgr_ pt.device_id
      ({ r with fault_mgr_ := some (mgr.resolve_fault tid pt.device_id ⟨castUInt8 fault_code⟩).2 }, none)

def handle_property (pt : ParsedTopic) (payload : Str) (r : MessageRouter) : MessageRouter :=
  match r.device_mgr_ with
  | none => r
  | some mgr =>
    { r with device_mgr_ := some (mgr.process_property (resolve_tenant r.device_mgr_ pt.device_id) pt.device_id
        (resolve_product r.device_mgr_ pt.device_id) payload) }

def handle_event (pt : ParsedTopic) (payload : Str) (r : MessageRouter) : MessageRouter × Option Trap :=
  let event_type := JsonHelper.get_string payload "event_type".toList
  if event_type = "order_completed".toList then handle_order_completed pt payload r
  else if event_type = "fault_alert".toList then handle_fault_alert pt payload r
  else if event_type = "fault_resolved".toList then handle_fault_resolved pt payload r
  -- legacy events
  else if event_type = "device_status".toList then (handle_property pt payload r, none)
  else (r, none)

/-- The text `handle_status` takes for the reported status. -/
def statusText (payload : Str) : Str :=
  let st := JsonHelper.get_string payload "network_status".toList
  if st = [] then JsonHelper.get_string payload "status".toList else st

/-- The network status `handle_status` stores. -/
def reportedStatus (payload : Str) : NetworkStatus :=
  if statusText payload = "offline".toList ∨ statusText payload = "1".toList then .OFFLINE else .ONLINE

def handle_status (pt : ParsedTopic) (payload : Str) (r : MessageRouter) : MessageRouter :=
  match r.device_mgr_ with
  | none => r
  | some mgr =>
    let tid := resolve_tenant r.device_mgr_ pt.device_id
    { r with device_mgr_ := some (mgr.update_device_status tid pt.device_id (reportedStatus payload) .IDLE).2 }

def handle_ota_progress (pt : ParsedTopic) (payload : Str) (r : MessageRouter) : MessageRouter × Option Trap :=
  match r.ota_mgr_ with
  | none => (r, none)
  | some mgr =>
    let (mgr, read) := mgr.process_ota_progress (resolve_tenant r.device_mgr_ pt.device_id) pt.device_id payload
    ({ r with ota_mgr_ := some mgr }, if read.isNone then some .end_iterator else none)

/-! ## Dispatch -/

/-- The router after a message, and how the handler ended if it did not return. -/
def on_message (now : Int) (topic payload : Str) (r : MessageRouter) : MessageRouter × Option Trap :=
  let pt := ParsedTopic.parse topic
  if ¬pt.valid then (r, none)
  else if pt.message_type = "heartbeat".toList then (handle_heartbeat now pt payload r, none)
  else if pt.message_type = "event".toList then handle_event pt payload r
  else if pt.message_type = "property".toList then (handle_property pt payload r, none)
  else if pt.message_type = "ota".toList then handle_ota_progress pt payload r
  else if pt.message_type = "status".toList then (handle_status pt payload r, none)
  else (r, none)

section Dispatch
variable (now : Int) {topic : Str} (payload : Str) (r : MessageRouter) {pt : ParsedTopic}

theorem on_message_invalid (hp : ParsedTopic.parse topic = pt) (hv : pt.valid = false) :
    r.on_message now topic payload = (r, none) := by
  simp [on_message, hp, hv]

theorem on_message_heartbeat (hp : ParsedTopic.parse topic = pt) (hv : pt.valid = true)
    (ht : pt.message_type = "heartbeat".toList) :
    r.on_message now topic payload = (handle_heartbeat now pt payload r, none) := by
  simp only [on_message, hp, hv, ht]
  rfl

theorem on_message_event (hp : ParsedTopic.parse topic = pt) (hv : pt.valid = true)
    (ht : pt.message_type = "event".toList) :
    r.on_message now topic payload = handle_event pt payload r := by
  simp only [on_message, hp, hv, ht]
  rfl

theorem on_message_ota (hp : ParsedTopic.parse topic = pt) (hv : pt.valid = true)
    (ht : pt.message_type = "ota".toList) :
    r.on_message now topic payload = handle_ota_progress pt payload r := by
  simp only [on_message, hp, hv, ht]
  rfl

theorem on_message_status (hp : ParsedTopic.parse topic = pt) (hv : pt.valid = true)
    (ht : pt.message_type = "status".toList) :
    r.on_message now topic payload = (handle_status pt payload r, none) := by
  simp only [on_message, hp, hv, ht]
  rfl

end Dispatch

/-- Properties change nothing. -/
theorem handle_property_eq (pt : ParsedTopic) (payload : Str) (r : MessageRouter) : handle_property pt payload r = r := by
  unfold handle_property
  cases r with
  | mk mgr _ _ _ => cases mgr <;> rfl

/-- Messages of the other types change nothing. -/
theorem on_message_other (now : Int) {topic : Str} (payload : Str) (r : MessageRouter) {pt : ParsedTopic}
    (hp : ParsedTopic.parse topic = pt)
    (ht : pt.message_type ∉ ["heartbeat".toList, "event".toList, "ota".toList, "status".toList]) :
    r.on_message now topic payload = (r, none) := by
  simp only [List.mem_cons, List.not_mem_nil, or_false, not_or] at ht
  obtain ⟨h1, h2, h3, h4⟩ := ht
  simp only [on_message, hp, if_neg h1, if_neg h2, if_neg h3, if_neg h4, handle_property_eq, ite_self]

section Frames
variable (pt : ParsedTopic) (payload : Str) (r : MessageRouter)

/-- Each handler changes the manager it is for, if any. -/
theorem handle_heartbeat_frame (now : Int) : ∃ mgr, handle_heartbeat now pt payload r = { r with device_mgr_ := mgr } := by
  unfold handle_heartbeat
  split
  · exact ⟨r.device_mgr_, rfl⟩
  · exact ⟨_, rfl⟩

theorem handle_status_frame : ∃ mgr, handle_status pt payload r = { r with device_mgr_ := mgr } := by
  unfold handle_status
  split
  · exact ⟨r.device_mgr_, rfl⟩
  · exact ⟨_, rfl⟩

theorem handle_order_completed_frame : ∃ mgr, (handle_order_completed pt payload r).1 = { r with order_mgr_ := mgr } := by
  unfold handle_order_completed
  split
  · exact ⟨r.order_mgr_, rfl⟩
  split
  · exact ⟨r.order_mgr_, rfl⟩
  · exact ⟨_, rfl⟩

theorem handle_fault_alert_frame : ∃ mgr, (handle_fault_alert pt payload r).1 = { r with fault_mgr_ := mgr } := by
  unfold handle_fault_alert
  split
  · exact ⟨r.fault_mgr_, rfl⟩
  split
  · exact ⟨r.fault_mgr_, rfl⟩
  split
  · exact ⟨r.fault_mgr_, rfl⟩
  · exact ⟨_, rfl⟩

theorem handle_fault_resolved_frame : ∃ mgr, (handle_fault_resolved pt payload r).1 = { r with fault_mgr_ := mgr } := by
  unfold handle_fault_resolved
  split
  · exact ⟨r.fault_mgr_, rfl⟩
  split
  · exact ⟨r.fault_mgr_, rfl⟩
  · exact ⟨_, rfl⟩

theorem handle_ota_progress_frame : ∃ mgr, (handle_ota_progress pt payload r).1 = { r with ota_mgr_ := mgr } := by
  unfold handle_ota_progress
  split
  · exact ⟨r.ota_mgr_, rfl⟩
  · exact ⟨_, rfl⟩

end Frames

theorem handle_event_cases (pt : ParsedTopic) (payload : Str) (r : MessageRouter) :
    handle_event pt payload r = (r, none) ∨ handle_event pt payload r = handle_order_completed pt payload r ∨
      handle_event pt payload r = handle_fault_alert pt payload r ∨
      handle_event pt payload r = handle_fault_resolved pt payload r := by
  rw [handle_event]
  split
  · exact .inr (.inl rfl)
  split
  · exact .inr (.inr (.inl rfl))
  split
  · exact .inr (.inr (.inr rfl))
  split
  · exact .inl (by rw [handle_property_eq])
  · exact .inl rfl

/-- What a message does: nothing, or what one of the handlers does. -/
theorem on_message_cases (now : Int) (topic payload : Str) (r : MessageRouter) :
    r.on_message now topic payload = (r, none) ∨
      r.on_message now topic payload = (handle_heartbeat now (ParsedTopic.parse topic) payload r, none) ∨
      r.on_message now topic payload = handle_order_completed (ParsedTopic.parse topic) payload r ∨
      r.on_message now topic payload = handle_fault_alert (ParsedTopic.parse topic) payload r ∨
      r.on_message now topic payload = handle_fault_resolved (ParsedTopic.parse topic) payload r ∨
      r.on_message now topic payload = handle_ota_progress (ParsedTopic.parse topic) payload r ∨
      r.on_message now topic payload = (handle_status (ParsedTopic.parse topic) payload r, none) := by
  rw [on_message]
  split
  · exact .inl rfl
  split
  · exact .inr (.inl rfl)
  split
  · rcases handle_event_cases (ParsedTopic.parse topic) payload r with h | h | h | h
    · exact .inl h
    · exact .inr (.inr (.inl h))
    · exact .inr (.inr (.inr (.inl h)))
    · exact .inr (.inr (.inr (.inr (.inl h))))
  split
  · exact .inl (by rw [handle_property_eq])
  split
  · exact .inr (.inr (.inr (.inr (.inr (.inl rfl)))))
  split
  · exact .inr (.inr (.inr (.inr (.inr (.inr rfl)))))
  · exact .inl rfl

/-- A message changes the orders or the faults only through the handlers that are for them. -/
theorem on_message_orders_faults (now : Int) (topic payload : Str) (r : MessageRouter) :
    let r' := (r.on_message now topic payload).1
    let pt := ParsedTopic.parse topic
    (r'.order_mgr_ = r.order_mgr_ ∧ r'.fault_mgr_ = r.fault_mgr_) ∨
      (r' = (handle_order_completed pt payload r).1 ∧ r'.fault_mgr_ = r.fault_mgr_) ∨
      (r'.order_mgr_ = r.order_mgr_ ∧
        (r' = (handle_fault_alert pt payload r).1 ∨ r' = (handle_fault_resolved pt payload r).1)) := by
  intro r' pt
  rcases on_message_cases now topic payload r with h | h | h | h | h | h | h <;> unfold r' <;> rw [h]
  · exact .inl ⟨rfl, rfl⟩
  · obtain ⟨mgr, hmgr⟩ := handle_heartbeat_frame pt payload r now
    rw [hmgr]
    exact .inl ⟨rfl, rfl⟩
  · obtain ⟨mgr, hmgr⟩ := handle_order_completed_frame pt payload r
    refine .inr (.inl ⟨rfl, ?_⟩)
    rw [hmgr]
  · obtain ⟨mgr, hmgr⟩ := handle_fault_alert_frame pt payload r
    refine .inr (.inr ⟨?_, .inl rfl⟩)
    rw [hmgr]
  · obtain ⟨mgr, hmgr⟩ := handle_fault_resolved_frame pt payload r
    refine .inr (.inr ⟨?_, .inr rfl⟩)
    rw [hmgr]
  · obtain ⟨mgr, hmgr⟩ := handle_ota_progress_frame pt payload r
    rw [hmgr]
    exact .inl ⟨rfl, rfl⟩
  · obtain ⟨mgr, hmgr⟩ := handle_status_frame pt payload r
    rw [hmgr]
    exact .inl ⟨rfl, rfl⟩

/-! ## What the managers hold -/

def device? (r : MessageRouter) (tenant device_id : Str) : Option Device := r.device_mgr_.bind (·.rec? tenant device_id)

def orders (r : MessageRouter) : List Order := (r.order_mgr_.map OrderManager.list_all_orders).getD []

def faults (r : MessageRouter) : List FaultInfo := (r.fault_mgr_.map FaultManager.all_faults).getD []

def ota? (r : MessageRouter) (device_id : Str) : Option OtaRecord := r.ota_mgr_.bind (·.ota_records_.lookup device_id)

/-! ## Resolving a device -/

theorem resolve_tenant_some {m : DeviceManager} {d t : Str} {dev : Device} (h : m.locate d = some (t, dev)) :
    resolve_tenant (some m) d = dev.tenant_id := by
  simp [resolve_tenant, DeviceManager.find_device_by_id, h]

end MessageRouter

end DevSys
