import DevSys.Router.MessageRouter
/-!
# Exceptions that leave `on_message`

Nothing between `std::stoi` and the receive thread catches an exception. Only
the events with a number to read can raise one.
-/
open Cxx

namespace DevSys.MessageRouter
open JsonHelper

/-- The numbers that the handler of this event reads can be read. -/
def EventReadable (payload : Str) (r : MessageRouter) : Prop :=
  let event_type := get_string payload "event_type".toList
  (event_type = "order_completed".toList → r.order_mgr_.isSome → ReadableInt payload "ts".toList) ∧
  (event_type = "fault_alert".toList → r.fault_mgr_.isSome →
    ReadableInt payload "fault_code".toList ∧ ReadableInt payload "ts".toList) ∧
  (event_type = "fault_resolved".toList → r.fault_mgr_.isSome → ReadableInt payload "fault_code".toList)

/-! ## One handler at a time -/

section Handlers
variable (pt : ParsedTopic) (payload : Str) (r : MessageRouter)

theorem get_int_error_of_not_readable {key : Str} (d : Int32) (h : ¬ ReadableInt payload key) :
    ∃ e, get_int payload key d = .error e := by
  cases hg : get_int payload key d with
  | error e => exact ⟨e, rfl⟩
  | ok n => exact absurd ((get_int_isOk_iff payload key d).1 ⟨n, hg⟩) h

theorem handle_order_completed_returns_iff :
    (handle_order_completed pt payload r).2 = none ↔ (r.order_mgr_.isSome → ReadableInt payload "ts".toList) := by
  unfold handle_order_completed
  cases r.order_mgr_ with
  | none => simp
  | some s =>
    dsimp only
    by_cases h : ReadableInt payload "ts".toList
    · obtain ⟨ts, hts⟩ := (get_int_isOk_iff payload "ts".toList 0).2 h
      rw [hts]
      exact iff_of_true rfl fun _ => h
    · obtain ⟨e, he⟩ := get_int_error_of_not_readable payload 0 h
      rw [he]
      exact iff_of_false (by simp) fun hr => h (hr rfl)

theorem handle_fault_alert_returns_iff :
    (handle_fault_alert pt payload r).2 = none ↔
      (r.fault_mgr_.isSome → ReadableInt payload "fault_code".toList ∧ ReadableInt payload "ts".toList) := by
  unfold handle_fault_alert
  cases r.fault_mgr_ with
  | none => simp
  | some s =>
    dsimp only
    by_cases hcode : ReadableInt payload "fault_code".toList
    · obtain ⟨code, hc⟩ := (get_int_isOk_iff payload "fault_code".toList 0).2 hcode
      rw [hc]
      by_cases hts : ReadableInt payload "ts".toList
      · obtain ⟨ts, ht⟩ := (get_int_isOk_iff payload "ts".toList 0).2 hts
        rw [ht]
        exact iff_of_true rfl fun _ => ⟨hcode, hts⟩
      · obtain ⟨e, he⟩ := get_int_error_of_not_readable payload 0 hts
        rw [he]
        exact iff_of_false (by simp) fun hr => hts (hr rfl).2
    · obtain ⟨e, he⟩ := get_int_error_of_not_readable payload 0 hcode
      rw [he]
      exact iff_of_false (by simp) fun hr => hcode (hr rfl).1

theorem handle_fault_resolved_returns_iff :
    (handle_fault_resolved pt payload r).2 = none ↔
      (r.fault_mgr_.isSome → ReadableInt payload "fault_code".toList) := by
  unfold handle_fault_resolved
  cases r.fault_mgr_ with
  | none => simp
  | some s =>
    dsimp only
    by_cases h : ReadableInt payload "fault_code".toList
    · obtain ⟨code, hc⟩ := (get_int_isOk_iff payload "fault_code".toList 0).2 h
      rw [hc]
      exact iff_of_true rfl fun _ => h
    · obtain ⟨e, he⟩ := get_int_error_of_not_readable payload 0 h
      rw [he]
      exact iff_of_false (by simp) fun hr => h (hr rfl)

theorem handle_event_returns_iff : (handle_event pt payload r).2 = none ↔ EventReadable payload r := by
  unfold handle_event EventReadable
  dsimp only
  generalize get_string payload "event_type".toList = event_type
  -- each event type excludes the other two
  by_cases h1 : event_type = "order_completed".toList
  · subst h1
    rw [if_pos rfl, handle_order_completed_returns_iff]
    simp
  rw [if_neg h1]
  by_cases h2 : event_type = "fault_alert".toList
  · subst h2
    rw [if_pos rfl, handle_fault_alert_returns_iff]
    simp
  rw [if_neg h2]
  by_cases h3 : event_type = "fault_resolved".toList
  · subst h3
    rw [if_pos rfl, handle_fault_resolved_returns_iff]
    simp
  rw [if_neg h3]
  refine iff_of_true ?_ ⟨fun h => absurd h h1, fun h => absurd h h2, fun h => absurd h h3⟩
  by_cases h4 : event_type = "device_status".toList
  · rw [if_pos h4]
  · rw [if_neg h4]

end Handlers

/-! ## Dispatch -/

/-- Outside the `ota` topics, a message is handled to the end exactly when it is
no event, or an event whose numbers can be read. -/
theorem on_message_returns_iff (now : Int) (topic payload : Str) (r : MessageRouter)
    (hota : (ParsedTopic.parse topic).message_type ≠ "ota".toList) :
    (r.on_message now topic payload).2 = none ↔
      ((ParsedTopic.parse topic).valid = true → (ParsedTopic.parse topic).message_type = "event".toList →
        EventReadable payload r) := by
  generalize hp : ParsedTopic.parse topic = pt at hota ⊢
  cases hv : pt.valid with
  | false =>
    rw [on_message_invalid now payload r hp hv]
    simp
  | true =>
    by_cases hevent : pt.message_type = "event".toList
    · rw [on_message_event now payload r hp hv hevent, handle_event_returns_iff]
      exact ⟨fun h _ _ => h, fun h => h rfl hevent⟩
    refine iff_of_true ?_ fun _ h => absurd h hevent
    by_cases hheartbeat : pt.message_type = "heartbeat".toList
    · rw [on_message_heartbeat now payload r hp hv hheartbeat]
    by_cases hstatus : pt.message_type = "status".toList
    · rw [on_message_status now payload r hp hv hstatus]
    · rw [on_message_other now payload r hp]
      simp only [List.mem_cons, List.not_mem_nil, or_false, not_or]
      exact ⟨hheartbeat, hevent, hota, hstatus⟩

/-- An alert with numbers of 32 bits. -/
def alert_of_2025 : Str := "\x7b\"event_type\":\"fault_alert\",\"fault_code\":3,\"ts\":1751234567\x7d".toList

/-- The fault manager gets the alert. -/
theorem on_message_returns_alert :
    (({ fault_mgr_ := some {} } : MessageRouter).on_message 7 "dev-1/v1/event/post".toList alert_of_2025).2 = none := by
  refine (on_message_returns_iff 7 "dev-1/v1/event/post".toList alert_of_2025 _ ?_).2 fun _ _ => ?_
  · decide
  have hcode : JsonHelper.get_int alert_of_2025 "fault_code".toList 0 = .ok 3 := by decide
  have hts : JsonHelper.get_int alert_of_2025 "ts".toList 0 = .ok 1751234567 := by decide
  refine ⟨fun h => ?_, fun _ _ => ⟨?_, ?_⟩, fun h => ?_⟩
  · exact absurd h (by decide)
  · exact (get_int_isOk_iff _ _ 0).1 ⟨_, hcode⟩
  · exact (get_int_isOk_iff _ _ 0).1 ⟨_, hts⟩
  · exact absurd h (by decide)

/-- An order completed in 2038. -/
def order_of_2038 : Str := "\x7b\"event_type\":\"order_completed\",\"order_id\":\"o-1\",\"ts\":2147483648\x7d".toList

/-- The time stamp of an order completed in 2038 is beyond an `int`. -/
theorem on_message_throws :
    ¬ (({ order_mgr_ := some {} } : MessageRouter).on_message 0 "dev-1/v1/event/post".toList order_of_2038).2 = none := by
  decide

end DevSys.MessageRouter
