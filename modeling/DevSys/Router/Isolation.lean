import DevSys.Lib.Owned
import DevSys.Router.MessageRouter
/-!
# Tenant isolation on the message path

`parse` reads the tenant from a broker-prefixed topic, and every handler
resolves the tenant again from the device id. What a message writes belongs to
the resolved tenant, whatever tenant the topic names.
-/
open Cxx

namespace DevSys.MessageRouter

/-- Only records of tenant `t` differ. -/
structure OnlyTenant (t : Str) (r r' : MessageRouter) : Prop where
  devices : ∀ t' d, t' ≠ t → r'.device? t' d = r.device? t' d
  orders : Owned.others Order.tenant_id t r'.orders = Owned.others Order.tenant_id t r.orders
  faults : Owned.others FaultInfo.tenant_id t r'.faults = Owned.others FaultInfo.tenant_id t r.faults
  otas : ∀ d, Owned.others OtaRecord.tenant_id t (r'.ota? d).toList =
    Owned.others OtaRecord.tenant_id t (r.ota? d).toList

theorem OnlyTenant.refl (t : Str) (r : MessageRouter) : OnlyTenant t r r := ⟨fun _ _ _ => rfl, rfl, rfl, fun _ => rfl⟩

/-- The event writes nothing: no manager, an exception before the write, a full
queue, or no fault to resolve. -/
def QuietEvent (pt : ParsedTopic) (payload : Str) (r : MessageRouter) : Prop :=
  let event_type := JsonHelper.get_string payload "event_type".toList
  if event_type = "order_completed".toList then
    ∀ s ∈ r.order_mgr_,
      (∃ e, JsonHelper.get_int payload "ts".toList = .error e) ∨ ORDER_MAX_QUEUE_DEPTH ≤ s.order_queue.length
  else if event_type = "fault_alert".toList then
    ∀ _s ∈ r.fault_mgr_, (∃ e, JsonHelper.get_int payload "fault_code".toList = .error e) ∨
      ∃ e, JsonHelper.get_int payload "ts".toList = .error e
  else if event_type = "fault_resolved".toList then
    ∀ s ∈ r.fault_mgr_, ∀ code, JsonHelper.get_int payload "fault_code".toList = .ok code →
      ∀ f ∈ s.active_faults_,
        FaultManager.sameFault (resolve_tenant r.device_mgr_ pt.device_id) pt.device_id ⟨castUInt8 code⟩ f = false
  else True

/-- The message writes nothing, or only values that are already there. -/
def Quiet (now : Int) (pt : ParsedTopic) (payload : Str) (r : MessageRouter) : Prop :=
  let tid := resolve_tenant r.device_mgr_ pt.device_id
  if pt.message_type = "heartbeat".toList then
    ∀ s ∈ r.device_mgr_, ∃ dev, s.rec? tid pt.device_id = some dev ∧
      dev.network_status = .ONLINE ∧ dev.last_heartbeat_at = now
  else if pt.message_type = "event".toList then QuietEvent pt payload r
  else if pt.message_type = "ota".toList then
    ∀ s ∈ r.ota_mgr_, (s.ota_records_.lookup pt.device_id).isSome
  else if pt.message_type = "status".toList then
    ∀ s ∈ r.device_mgr_, ∀ dev, s.rec? tid pt.device_id = some dev →
      dev.network_status = reportedStatus payload ∧ dev.work_status = .IDLE
  else True

/-! ## One manager at a time -/

section Managers
variable (t : Str) (r : MessageRouter)

theorem onlyTenant_device_mgr (s' : DeviceManager) :
    OnlyTenant t r { r with device_mgr_ := some s' } ↔ ∀ t' d, t' ≠ t → s'.rec? t' d = r.device? t' d :=
  ⟨fun h => h.devices, fun h => ⟨h, rfl, rfl, fun _ => rfl⟩⟩

/-- A change that stores at most one record. -/
theorem onlyTenant_device_store {s s' : DeviceManager} (hs : r.device_mgr_ = some s) {tid d : Str} {x : Option Device}
    (hstore : ∀ t' d', s'.rec? t' d' = if t' = tid ∧ d' = d then x else s.rec? t' d') :
    OnlyTenant t r { r with device_mgr_ := some s' } ↔ tid = t ∨ x = s.rec? tid d := by
  have hdev (t' d' : Str) : r.device? t' d' = s.rec? t' d' := by simp [device?, hs]
  rw [onlyTenant_device_mgr]
  simp only [hdev, hstore]
  exact Owned.store_iff s.rec? t tid d x

theorem onlyTenant_order_mgr (s' : OrderManager) :
    OnlyTenant t r { r with order_mgr_ := some s' } ↔
      Owned.others Order.tenant_id t s'.list_all_orders = Owned.others Order.tenant_id t r.orders :=
  ⟨fun h => h.orders, fun h => ⟨fun _ _ _ => rfl, h, rfl, fun _ => rfl⟩⟩

theorem onlyTenant_fault_mgr (s' : FaultManager) :
    OnlyTenant t r { r with fault_mgr_ := some s' } ↔
      Owned.others FaultInfo.tenant_id t s'.active_faults_ = Owned.others FaultInfo.tenant_id t r.faults :=
  ⟨fun h => h.faults, fun h => ⟨fun _ _ _ => rfl, rfl, h, fun _ => rfl⟩⟩

theorem faults_of_mgr {s : FaultManager} (hs : r.fault_mgr_ = some s) : r.faults = s.active_faults_ := by
  simp [faults, hs, FaultManager.all_faults]

theorem onlyTenant_ota_mgr (s' : OtaManager) :
    OnlyTenant t r { r with ota_mgr_ := some s' } ↔
      ∀ d, Owned.others OtaRecord.tenant_id t (s'.ota_records_.lookup d).toList =
        Owned.others OtaRecord.tenant_id t (r.ota? d).toList :=
  ⟨fun h => h.otas, fun h => ⟨fun _ _ _ => rfl, rfl, rfl, h⟩⟩

end Managers

/-! ## One handler at a time -/

section Handlers
variable (t : Str) (pt : ParsedTopic) (payload : Str) (r : MessageRouter)

theorem handle_heartbeat_iff (now : Int) :
    OnlyTenant t r (handle_heartbeat now pt payload r) ↔
      resolve_tenant r.device_mgr_ pt.device_id = t ∨
      ∀ s ∈ r.device_mgr_, ∃ dev, s.rec? (resolve_tenant r.device_mgr_ pt.device_id) pt.device_id = some dev ∧
        dev.network_status = .ONLINE ∧ dev.last_heartbeat_at = now := by
  unfold handle_heartbeat
  cases hs : r.device_mgr_ with
  | none => simp [OnlyTenant.refl]
  | some s =>
    simp only [Option.mem_some_iff, forall_eq']
    rw [onlyTenant_device_store t r hs (DeviceManager.process_heartbeat_rec? _ _ _ _ _ _)]
    refine or_congr_right ?_
    cases s.rec? (resolve_tenant (some s) pt.device_id) pt.device_id with
    | none => simp
    | some dev =>
      obtain ⟨⟩ := dev
      simp only [DeviceManager.heartbeatRecord, Option.some.injEq, Device.mk.injEq, exists_eq_left', true_and, and_true]
      exact ⟨fun h => ⟨h.1.symm, h.2.symm⟩, fun h => ⟨h.1.symm, h.2.symm⟩⟩

theorem handle_status_iff :
    OnlyTenant t r (handle_status pt payload r) ↔
      resolve_tenant r.device_mgr_ pt.device_id = t ∨
      ∀ s ∈ r.device_mgr_, ∀ dev, s.rec? (resolve_tenant r.device_mgr_ pt.device_id) pt.device_id = some dev →
        dev.network_status = reportedStatus payload ∧ dev.work_status = .IDLE := by
  unfold handle_status
  cases hs : r.device_mgr_ with
  | none => simp [OnlyTenant.refl]
  | some s =>
    simp only [Option.mem_some_iff, forall_eq']
    rw [onlyTenant_device_store t r hs (DeviceManager.update_device_status_rec? _ _ _ _ _)]
    refine or_congr_right ?_
    cases s.rec? (resolve_tenant (some s) pt.device_id) pt.device_id with
    | none => simp
    | some dev =>
      obtain ⟨⟩ := dev
      simp only [Option.map_some, Option.some.injEq, Device.mk.injEq, forall_eq', true_and, and_true]
      exact ⟨fun h => ⟨h.1.symm, h.2.symm⟩, fun h => ⟨h.1.symm, h.2.symm⟩⟩

theorem handle_order_completed_iff :
    OnlyTenant t r (handle_order_completed pt payload r).1 ↔
      resolve_tenant r.device_mgr_ pt.device_id = t ∨
      ∀ s ∈ r.order_mgr_, (∃ e, JsonHelper.get_int payload "ts".toList = .error e) ∨
        ORDER_MAX_QUEUE_DEPTH ≤ s.order_queue.length := by
  unfold handle_order_completed
  cases hs : r.order_mgr_ with
  | none => simp [OnlyTenant.refl]
  | some s =>
    simp only [Option.mem_some_iff, forall_eq']
    cases hts : JsonHelper.get_int payload "ts".toList with
    | error e => simp [OnlyTenant.refl]
    | ok ts =>
      simp only [reduceCtorEq, exists_false, false_or]
      rw [onlyTenant_order_mgr]
      have horders : r.orders = s.list_all_orders := by simp [orders, hs]
      rw [horders]
      by_cases hf : ORDER_MAX_QUEUE_DEPTH ≤ s.order_queue.length
      · simp [OrderManager.create_order_full hf, hf]
      · rw [OrderManager.create_order_room (Nat.not_le.1 hf)]
        simp only [OrderManager.list_all_orders, hf, or_false]
        have h := Owned.others_insert_iff Order.tenant_id t (s.current_order.toList ++ s.order_queue) s.history_orders
          (reportedOrder r.device_mgr_ pt payload ts)
        simpa using h

theorem handle_fault_alert_iff :
    OnlyTenant t r (handle_fault_alert pt payload r).1 ↔
      resolve_tenant r.device_mgr_ pt.device_id = t ∨
      ∀ _s ∈ r.fault_mgr_, (∃ e, JsonHelper.get_int payload "fault_code".toList = .error e) ∨
        ∃ e, JsonHelper.get_int payload "ts".toList = .error e := by
  unfold handle_fault_alert
  cases hs : r.fault_mgr_ with
  | none => simp [OnlyTenant.refl]
  | some s =>
    simp only [Option.mem_some_iff, forall_eq']
    cases hcode : JsonHelper.get_int payload "fault_code".toList with
    | error e => simp [OnlyTenant.refl]
    | ok code =>
      cases hts : JsonHelper.get_int payload "ts".toList with
      | error e => simp [OnlyTenant.refl]
      | ok ts =>
        simp only [reduceCtorEq, exists_false, or_self, or_false]
        rw [onlyTenant_fault_mgr, faults_of_mgr r hs]
        have h := Owned.others_insert_iff FaultInfo.tenant_id t s.active_faults_ []
          (reportedFault r.device_mgr_ pt payload code ts)
        simpa [FaultManager.add_fault] using h

theorem handle_fault_resolved_iff :
    OnlyTenant t r (handle_fault_resolved pt payload r).1 ↔
      resolve_tenant r.device_mgr_ pt.device_id = t ∨
      ∀ s ∈ r.fault_mgr_, ∀ code, JsonHelper.get_int payload "fault_code".toList = .ok code →
        ∀ f ∈ s.active_faults_, FaultManager.sameFault (resolve_tenant r.device_mgr_ pt.device_id) pt.device_id
          ⟨castUInt8 code⟩ f = false := by
  unfold handle_fault_resolved
  cases hs : r.fault_mgr_ with
  | none => simp [OnlyTenant.refl]
  | some s =>
    simp only [Option.mem_some_iff, forall_eq']
    cases hcode : JsonHelper.get_int payload "fault_code".toList with
    | error e => simp [OnlyTenant.refl]
    | ok code =>
      simp only [Except.ok.injEq, forall_eq']
      rw [onlyTenant_fault_mgr, FaultManager.resolve_fault_eq, faults_of_mgr r hs]
      refine Owned.others_eraseP_iff FaultInfo.tenant_id t (fun f hf => ?_) s.active_faults_
      simp only [FaultManager.sameFault, decide_eq_true_eq] at hf
      exact hf.1

theorem handle_ota_progress_iff :
    OnlyTenant t r (handle_ota_progress pt payload r).1 ↔
      resolve_tenant r.device_mgr_ pt.device_id = t ∨
      ∀ s ∈ r.ota_mgr_, (s.ota_records_.lookup pt.device_id).isSome := by
  unfold handle_ota_progress
  cases hs : r.ota_mgr_ with
  | none => simp [OnlyTenant.refl]
  | some s =>
    simp only [Option.mem_some_iff, forall_eq', OtaManager.process_ota_progress]
    rw [onlyTenant_ota_mgr]
    have hota (d : Str) : r.ota? d = s.ota_records_.lookup d := by simp [ota?, hs]
    simp only [hota]
    cases hd : s.ota_records_.lookup pt.device_id with
    | some rec_ => simp
    | none =>
      simp only [Option.isSome_none, Bool.false_eq_true, or_false]
      -- a device without a record gets one, of the resolved tenant
      have h := Owned.others_insert_iff OtaRecord.tenant_id t [] []
        { tenant_id := resolve_tenant r.device_mgr_ pt.device_id, device_id := pt.device_id }
      constructor
      · intro hall
        have := hall pt.device_id
        rw [UMap.lookup_set, if_pos rfl, hd] at this
        exact h.1 this
      · intro ht d
        rw [UMap.lookup_set]
        by_cases hdd : d = pt.device_id
        · rw [if_pos hdd, hdd, hd]
          exact h.2 ht
        · rw [if_neg hdd]

theorem handle_event_iff :
    OnlyTenant t r (handle_event pt payload r).1 ↔
      resolve_tenant r.device_mgr_ pt.device_id = t ∨ QuietEvent pt payload r := by
  unfold handle_event QuietEvent
  dsimp only
  split
  · exact handle_order_completed_iff t pt payload r
  split
  · exact handle_fault_alert_iff t pt payload r
  split
  · exact handle_fault_resolved_iff t pt payload r
  split
  · simp [handle_property_eq, OnlyTenant.refl]
  · simp [OnlyTenant.refl]

end Handlers

/-! ## Broker-prefixed topics -/

/-- `$T/{t}/{d}/v1/...`. -/
def prefixedTopic (t d rest : Str) : Str := "$T/".toList ++ t ++ '/' :: d ++ "/v1/".toList ++ rest

/-- `parse` reads the tenant and the device from the topic. -/
theorem parse_prefixedTopic {t d rest : Str} (ht : '/' ∉ t) (hd : '/' ∉ d) (hrest : rest ≠ []) :
    (ParsedTopic.parse (prefixedTopic t d rest)).tenant_id = t ∧
      (ParsedTopic.parse (prefixedTopic t d rest)).device_id = d := by
  obtain ⟨type, more, hlines⟩ := List.exists_cons_of_ne_nil (getlineAll_ne_nil '/' hrest)
  have hparts : getlineAll '/' (prefixedTopic t d rest) =
      "$T".toList :: t :: d :: "v1".toList :: type :: more := by
    have htopic : prefixedTopic t d rest =
        "$T".toList ++ '/' :: (t ++ '/' :: (d ++ '/' :: ("v1".toList ++ '/' :: rest))) := by
      simp [prefixedTopic]
    rw [htopic, getlineAll_cut _ _ _ (by decide), getlineAll_cut _ _ _ ht, getlineAll_cut _ _ _ hd,
      getlineAll_cut _ _ _ (by decide), hlines]
  rw [ParsedTopic.parse_prefixed_parts hparts]
  exact ⟨rfl, rfl⟩

/-- A message changes records of the topic's tenant only exactly when that is
the tenant its device id resolves to, or it has nothing to write. -/
theorem onlyTenant_iff (now : Int) (r : MessageRouter) (t d rest payload : Str)
    (hv : (ParsedTopic.parse (prefixedTopic t d rest)).valid = true) :
    OnlyTenant t r (r.on_message now (prefixedTopic t d rest) payload).1 ↔
      resolve_tenant r.device_mgr_ (ParsedTopic.parse (prefixedTopic t d rest)).device_id = t ∨
        Quiet now (ParsedTopic.parse (prefixedTopic t d rest)) payload r := by
  generalize hp : ParsedTopic.parse (prefixedTopic t d rest) = pt at hv ⊢
  unfold Quiet
  dsimp only
  split
  · rename_i htype
    rw [on_message_heartbeat now payload r hp hv htype]
    exact handle_heartbeat_iff t pt payload r now
  rename_i h1
  split
  · rename_i htype
    rw [on_message_event now payload r hp hv htype]
    exact handle_event_iff t pt payload r
  rename_i h2
  split
  · rename_i htype
    rw [on_message_ota now payload r hp hv htype]
    exact handle_ota_progress_iff t pt payload r
  rename_i h3
  split
  · rename_i htype
    rw [on_message_status now payload r hp hv htype]
    exact handle_status_iff t pt payload r
  · rename_i h4
    have htype : pt.message_type ∉ ["heartbeat".toList, "event".toList, "ota".toList, "status".toList] := by
      simp only [List.mem_cons, List.not_mem_nil, or_false, not_or]
      exact ⟨h1, h2, h3, h4⟩
    rw [on_message_other now payload r hp htype]
    simp [OnlyTenant.refl]

/-- A heartbeat on the tenant's own topic, for its own device. -/
theorem onlyTenant_own_heartbeat :
    let s : DeviceManager := DeviceManager.store {} "acme".toList "dev-1".toList { tenant_id := "acme".toList }
    OnlyTenant "acme".toList { device_mgr_ := some s }
      (on_message 7 (prefixedTopic "acme".toList "dev-1".toList "heartbeat".toList) [] { device_mgr_ := some s }).1 :=
  (onlyTenant_iff 7 _ "acme".toList "dev-1".toList "heartbeat".toList [] rfl).2 (.inl rfl)

/-- A heartbeat of another tenant's device, on the topic of tenant `evil`. -/
theorem onlyTenant_fails :
    let s : DeviceManager := DeviceManager.store {} "acme".toList "dev-1".toList { tenant_id := "acme".toList }
    (ParsedTopic.parse (prefixedTopic "evil".toList "dev-1".toList "heartbeat".toList)).valid = true ∧
    ¬ OnlyTenant "evil".toList { device_mgr_ := some s }
      (on_message 7 (prefixedTopic "evil".toList "dev-1".toList "heartbeat".toList) [] { device_mgr_ := some s }).1 := by
  intro s
  refine ⟨rfl, fun h => ?_⟩
  have := congrArg (Option.map Device.last_heartbeat_at) (h.devices "acme".toList "dev-1".toList (by decide))
  revert this
  decide

end DevSys.MessageRouter
