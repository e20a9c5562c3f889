import DevSys.Router.MessageRouter
/-!
# A report delivered twice

The table keeps one row for an order id, and the queue takes every report.
-/
open Cxx

namespace DevSys

/-- Another order is listed exactly when there was room for it. -/
theorem OrderManager.list_create_order_eq_iff (o : Order) (s : OrderManager) :
    (s.create_order o).2.list_all_orders = s.list_all_orders ↔ ORDER_MAX_QUEUE_DEPTH ≤ s.order_queue.length := by
  by_cases hfull : ORDER_MAX_QUEUE_DEPTH ≤ s.order_queue.length
  · rw [create_order_full hfull]
    exact iff_of_true rfl hfull
  · rw [create_order_room (Nat.not_le.1 hfull)]
    refine iff_of_false (fun h => ?_) hfull
    have hlen := congrArg List.length h
    simp only [list_all_orders, List.length_append, List.length_singleton] at hlen
    omega

namespace MessageRouter
open JsonHelper

/-- An `order_completed` message that is accepted, with a time stamp that can be read. -/
structure Completed (topic payload : Str) : Prop where
  valid : (ParsedTopic.parse topic).valid = true
  message_type : (ParsedTopic.parse topic).message_type = "event".toList
  event_type : get_string payload "event_type".toList = "order_completed".toList
  ts : ReadableInt payload "ts".toList

/-- The message creates a completed order, the same one whenever it comes. -/
theorem on_message_completed {topic payload : Str} (h : Completed topic payload) (mgr : Option DeviceManager) :
    ∃ o : Order, o.status = .COMPLETED ∧ ∀ (now : Int) (r : MessageRouter) (s : OrderManager),
      r.device_mgr_ = mgr → r.order_mgr_ = some s →
        r.on_message now topic payload = ({ r with order_mgr_ := some (s.create_order o).2 }, none) := by
  obtain ⟨ts, hts⟩ := (get_int_isOk_iff payload "ts".toList 0).2 h.ts
  refine ⟨reportedOrder mgr (ParsedTopic.parse topic) payload ts, rfl, ?_⟩
  rintro now r s rfl hs
  rw [on_message_event now payload r rfl h.valid h.message_type, handle_event, if_pos h.event_type,
    handle_order_completed, hs, hts]

/-- A second delivery leaves the orders as they were after the first. -/
def Harmless (now now' : Int) (topic payload : Str) (r : MessageRouter) : Prop :=
  let once := (r.on_message now topic payload).1
  (once.on_message now' topic payload).1.orders = once.orders

instance (now now' : Int) (topic payload : Str) (r : MessageRouter) : Decidable (Harmless now now' topic payload r) :=
  inferInstanceAs (Decidable (_ = _))

/-- A second delivery is harmless exactly when the queue has no room for it. -/
theorem harmless_iff (now now' : Int) {topic payload : Str} (h : Completed topic payload) {r : MessageRouter}
    {s : OrderManager} (hr : r.order_mgr_ = some s) :
    Harmless now now' topic payload r ↔ ORDER_MAX_QUEUE_DEPTH < s.order_queue.length + 2 := by
  obtain ⟨o, -, ho⟩ := on_message_completed h r.device_mgr_
  have honce := ho now r s rfl hr
  have htwice := ho now' { r with order_mgr_ := some (s.create_order o).2 } (s.create_order o).2 rfl rfl
  unfold Harmless
  dsimp only
  rw [honce, htwice]
  show ((s.create_order o).2.create_order o).2.list_all_orders = (s.create_order o).2.list_all_orders ↔ _
  rw [OrderManager.list_create_order_eq_iff]
  by_cases hfull : ORDER_MAX_QUEUE_DEPTH ≤ s.order_queue.length
  · rw [OrderManager.create_order_full hfull]
    exact iff_of_true hfull (by omega)
  · rw [OrderManager.create_order_room (Nat.not_le.1 hfull), List.length_append, List.length_singleton]
    omega

/-! ## A report of one order -/

def order_topic : Str := "dev-1/v1/event/post".toList

def order_report : Str :=
  "\x7b\"event_type\":\"order_completed\",\"order_id\":\"o-1\",\"ts\":1751234567\x7d".toList

theorem completed_order_report : Completed order_topic order_report := by
  refine ⟨by decide, by decide, by decide, ?_⟩
  exact (get_int_isOk_iff order_report "ts".toList 0).1 ⟨1751234567, by decide⟩

/-- With nine waiting orders the first delivery fills the queue. -/
theorem harmless_almost_full :
    Harmless 0 1 order_topic order_report { order_mgr_ := some { order_queue := List.replicate 9 {} } } :=
  (harmless_iff 0 1 completed_order_report rfl).2 (by decide)

/-- The order is listed twice. -/
theorem harmless_fails : ¬ Harmless 0 1 order_topic order_report { order_mgr_ := some {} } := by
  decide

end MessageRouter

end DevSys
