import DevSys.Lib.JsonStrings
import DevSys.Router.Redelivery
/-!
# Reports of finished orders

A report goes through `create_order` and its bounded queue, and no message
takes an order out of the queue again: the reports the queue has room for are
kept, and the others are dropped without an error. What is kept of a report is
what the textual search finds in it.
-/
open Cxx JsonText JsonGrammar

namespace DevSys.MessageRouter
open JsonHelper

/-- An `order_completed` message: a JSON object with these fields, and any others. -/
structure Report where
  received_at : Int
  device_id : Str
  order_id : Str
  ts : Int32
  payload : Str
  fields : List (Str × Value)
  device_ok : ParsedTopic.IsLevel device_id
  id_ne : order_id ≠ []
  reads : Text Allowed payload (.obj fields)
  has_type : ("event_type".toList, .str "order_completed".toList) ∈ fields
  has_id : ("order_id".toList, .str order_id) ∈ fields
  has_ts : ("ts".toList, .num (to_string ts.toInt)) ∈ fields

namespace Report

def topic (m : Report) : Str := m.device_id ++ "/v1/event/post".toList

/-- The text between the first `"order_id":"` and the next quote. -/
def read_id (m : Report) : Str := get_string m.payload "order_id".toList

/-- The first `event_type` in the text, at any depth, says that an order is
completed, and the first `ts` can be read. -/
def Taken (m : Report) : Prop :=
  FirstString m.payload "event_type".toList "order_completed".toList ∧ ReadableInt m.payload "ts".toList

end Report

/-- The reports are handled one after another. -/
def deliver (r : MessageRouter) (ms : List Report) : MessageRouter :=
  ms.foldl (fun r m => (r.on_message m.received_at m.topic m.payload).1) r

/-- Every reported order is listed. -/
def AllListed (r : MessageRouter) (ms : List Report) : Prop :=
  ∀ m ∈ ms, m.order_id ∈ r.orders.map (·.order_id)

/-! ## One report -/

theorem parse_report (m : Report) :
    ParsedTopic.parse m.topic =
      { raw_topic := m.topic, device_id := m.device_id, message_type := "event".toList, command := "post".toList
        valid := true } := by
  have hparts : getlineAll '/' m.topic = m.device_id :: "v1".toList :: "event".toList :: ["post".toList] := by
    rw [Report.topic, show "/v1/event/post".toList = '/' :: "v1/event/post".toList from rfl,
      getlineAll_cut _ _ _ m.device_ok.2]
    rfl
  rw [ParsedTopic.parse_parts hparts (.inr (by simp))]
  simp [m.device_ok.1]

/-- A report creates the order that is read from it, or leaves the orders alone. -/
theorem on_message_report (m : Report) {r : MessageRouter} {s : OrderManager} (hr : r.order_mgr_ = some s) :
    (m.Taken ∧ ∃ o : Order, o.order_id = m.read_id ∧
      (r.on_message m.received_at m.topic m.payload).1 = { r with order_mgr_ := some (s.create_order o).2 }) ∨
    (¬m.Taken ∧ (r.on_message m.received_at m.topic m.payload).1.order_mgr_ = some s) := by
  have htype : get_string m.payload "event_type".toList = "order_completed".toList ↔
      FirstString m.payload "event_type".toList "order_completed".toList := get_string_eq_iff (by decide)
  rw [on_message_event _ _ _ rfl (by rw [parse_report]) (by rw [parse_report])]
  by_cases hevent : get_string m.payload "event_type".toList = "order_completed".toList
  · rw [handle_event, if_pos hevent, handle_order_completed, hr]
    by_cases hts : ReadableInt m.payload "ts".toList
    · obtain ⟨ts, hts'⟩ := (get_int_isOk_iff m.payload "ts".toList 0).2 hts
      refine .inl ⟨⟨htype.1 hevent, hts⟩, reportedOrder r.device_mgr_ (ParsedTopic.parse m.topic) m.payload ts, rfl, ?_⟩
      rw [hts']
    · refine .inr ⟨fun h => hts h.2, ?_⟩
      cases hint : get_int m.payload "ts".toList 0 with
      | error e => exact hr
      | ok ts => exact absurd ((get_int_isOk_iff m.payload "ts".toList 0).1 ⟨ts, hint⟩) hts
  · refine .inr ⟨fun h => hevent (htype.2 h.1), ?_⟩
    rw [handle_event, if_neg hevent, ← hr]
    split
    · obtain ⟨mgr, hmgr⟩ := handle_fault_alert_frame (ParsedTopic.parse m.topic) m.payload r
      rw [hmgr]
    split
    · obtain ⟨mgr, hmgr⟩ := handle_fault_resolved_frame (ParsedTopic.parse m.topic) m.payload r
      rw [hmgr]
    split
    · rw [handle_property_eq]
    · rfl

/-! ## Runs of reports -/

/-- The orders are those of the reports that are taken, in their order. -/
theorem deliver_eq (ms : List Report) {r : MessageRouter} {s : OrderManager} (hr : r.order_mgr_ = some s) :
    ∃ (taken : List Report) (os : List Order), taken.Sublist ms ∧ (∀ m ∈ taken, m.Taken) ∧
      ((∀ m ∈ ms, m.Taken) → taken = ms) ∧ os.map (·.order_id) = taken.map Report.read_id ∧
      (deliver r ms).order_mgr_ = some (os.foldl (fun s o => (s.create_order o).2) s) := by
  -- a report that is not taken leaves the orders as they are
  induction ms generalizing r s with
  | nil => exact ⟨[], [], .slnil, by simp, fun _ => rfl, rfl, hr⟩
  | cons m ms ih =>
    rcases on_message_report m hr with ⟨htaken, o, hid, hnext⟩ | ⟨hnot, hnext⟩
    · obtain ⟨taken, os, hsub, hall, hfull, hids, hmgr⟩ := ih (r := (r.on_message m.received_at m.topic m.payload).1)
        (s := (s.create_order o).2) (by rw [hnext])
      refine ⟨m :: taken, o :: os, hsub.cons_cons m, List.forall_mem_cons.2 ⟨htaken, hall⟩, fun h => ?_, ?_, hmgr⟩
      · rw [hfull fun m hm => h m (List.mem_cons_of_mem _ hm)]
      · rw [List.map_cons, List.map_cons, hid, hids]
    · obtain ⟨taken, os, hsub, hall, -, hids, hmgr⟩ := ih (r := (r.on_message m.received_at m.topic m.payload).1) hnext
      exact ⟨taken, os, hsub.cons m, hall, fun h => absurd (h m List.mem_cons_self) hnot, hids, hmgr⟩

/-- From a manager with no orders, the ids listed are those of the first reports
that are taken. -/
theorem deliver_ids (ms : List Report) {r : MessageRouter} {s : OrderManager} (hr : r.order_mgr_ = some s)
    (hs : s.list_all_orders = []) :
    ∃ taken : List Report, taken.Sublist ms ∧ (∀ m ∈ taken, m.Taken) ∧ ((∀ m ∈ ms, m.Taken) → taken = ms) ∧
      (deliver r ms).orders.map (·.order_id) = (taken.take ORDER_MAX_QUEUE_DEPTH).map Report.read_id := by
  obtain ⟨taken, os, hsub, hall, hfull, hids, hmgr⟩ := deliver_eq ms hr
  simp only [OrderManager.list_all_orders, List.append_eq_nil_iff, Option.toList_eq_nil_iff] at hs
  obtain ⟨⟨hc, hq⟩, hh⟩ := hs
  refine ⟨taken, hsub, hall, hfull, ?_⟩
  rw [OrderManager.create_orders_eq] at hmgr
  rw [List.map_take, ← hids, ← List.map_take]
  simp [orders, hmgr, OrderManager.list_all_orders, hc, hq, hh]

/-- All reports of distinct orders are kept exactly when there are at most ten,
all are taken, and the ids that are read from them are their own. -/
theorem allListed_iff (ms : List Report) (r : MessageRouter) (s : OrderManager) (hr : r.order_mgr_ = some s)
    (hs : s.list_all_orders = []) (hd : (ms.map (·.order_id)).Nodup) :
    AllListed (deliver r ms) ms ↔ ms.length ≤ ORDER_MAX_QUEUE_DEPTH ∧ (∀ m ∈ ms, m.Taken) ∧
      (ms.map Report.read_id).Perm (ms.map (·.order_id)) := by
  obtain ⟨taken, hsub, hall, hfull, hids⟩ := deliver_ids ms hr hs
  unfold AllListed
  rw [hids]
  constructor
  · intro h
    -- as many ids are listed as there are reports, so that none is left out
    have hlisted : (ms.map (·.order_id)).Subperm ((taken.take ORDER_MAX_QUEUE_DEPTH).map Report.read_id) := by
      refine List.subperm_of_subset hd fun id hid => ?_
      obtain ⟨m, hm, rfl⟩ := List.mem_map.1 hid
      exact h m hm
    have hlen := hlisted.length_le
    rw [List.length_map, List.length_map, List.length_take] at hlen
    obtain rfl := hsub.eq_of_length (Nat.le_antisymm hsub.length_le (by omega))
    have htake : taken.take ORDER_MAX_QUEUE_DEPTH = taken := List.take_of_length_le (by omega)
    rw [htake] at hlisted
    exact ⟨by omega, hall, (hlisted.perm_of_length_le (by simp)).symm⟩
  · rintro ⟨hlen, htaken, hperm⟩ m hm
    rw [hfull htaken, List.take_of_length_le hlen]
    exact hperm.mem_iff.2 (List.mem_map_of_mem hm)

/-! ## A run that loses a report -/

/-- The fields of the report of order number `n`. -/
def numberedFields (n : Nat) : List (Str × Value) :=
  [("event_type".toList, .str "order_completed".toList), ("order_id".toList, .str (to_string n)),
    ("ts".toList, .num (to_string 1))]

theorem reads_numbered (n : Nat) : Text Allowed (print (.obj (numberedFields n))) (.obj (numberedFields n)) := by
  have hdigits : Plain Allowed (to_string n) := by
    intro c hc
    have hdigit := isDigit_of_mem_toDigits hc
    refine ⟨?_, ?_, ?_⟩
    · have hge : '0'.val ≤ c.val := of_decide_eq_true (Bool.and_eq_true_iff.1 hdigit).1
      exact UInt32.le_trans (by decide) hge
    · rintro rfl
      cases hdigit
    · rintro rfl
      cases hdigit
  refine (text_print_strings_iff ?_).2 ?_
  · simp only [numberedFields, numbers, numbersOfMembers, List.mem_append, List.mem_singleton, List.not_mem_nil, or_false,
      false_or, forall_eq]
    exact number_to_string 1
  · simp only [numberedFields, strings, stringsOfMembers, List.mem_append, List.mem_cons, List.not_mem_nil, or_false]
    rintro x (rfl | rfl | rfl | rfl | rfl)
    all_goals first | exact hdigits | decide

/-- The report of order number `n`, without further fields. -/
def numberedReport (n : Nat) : Report where
  received_at := 0
  device_id := "dev-1".toList
  order_id := to_string n
  ts := 1
  payload := print (.obj (numberedFields n))
  fields := numberedFields n
  device_ok := ParsedTopic.isLevel_dev_1
  id_ne := to_string_ne_nil _
  reads := reads_numbered n
  has_type := by simp [numberedFields]
  has_id := by simp [numberedFields]
  has_ts := by simp [numberedFields]

/-- The first report is taken, by its own id. -/
theorem taken_first : (numberedReport 1).Taken ∧ (numberedReport 1).read_id = (numberedReport 1).order_id := by
  have hpayload : (numberedReport 1).payload =
      "\x7b\"event_type\":\"order_completed\",\"order_id\":\"1\",\"ts\":1\x7d".toList := by
    simp only [numberedReport, numberedFields, print, printMembers]
    decide +kernel
  have htype : get_string (numberedReport 1).payload "event_type".toList = "order_completed".toList := by
    rw [hpayload]
    decide +kernel
  have hread : ReadableInt (numberedReport 1).payload "ts".toList := by
    intro t ht
    rw [hpayload] at ht
    have hafter : after (keyPat "ts".toList)
        "\x7b\"event_type\":\"order_completed\",\"order_id\":\"1\",\"ts\":1\x7d".toList = some "1\x7d".toList := by
      decide +kernel
    cases hafter.symm.trans ht
    exact .inr (by decide)
  refine ⟨⟨(get_string_eq_iff (by decide)).1 htype, hread⟩, ?_⟩
  rw [Report.read_id, hpayload]
  decide +kernel

/-- One report is kept. -/
theorem allListed_one :
    AllListed (deliver { order_mgr_ := some {} } [numberedReport 1]) [numberedReport 1] := by
  refine (allListed_iff [numberedReport 1] { order_mgr_ := some {} } {} rfl rfl (List.nodup_singleton _)).2
    ⟨by decide, List.forall_mem_singleton.2 taken_first.1, ?_⟩
  rw [List.map_singleton, List.map_singleton, taken_first.2]

/-- Of eleven reports one is lost. -/
theorem eleventh_report_lost :
    let ms := (List.range 11).map numberedReport
    (ms.map (·.order_id)).Nodup ∧ ¬ AllListed (deliver { order_mgr_ := some {} } ms) ms := by
  have hids : ((List.range 11).map numberedReport).map (·.order_id) =
      (List.range 11).map fun n : Nat => to_string n := by
    rw [List.map_map]; rfl
  have hnodup : (((List.range 11).map numberedReport).map (·.order_id)).Nodup := by
    rw [hids]
    exact List.nodup_range.map fun m n h => Int.ofNat_inj.1 (to_string_injective h)
  refine ⟨hnodup, fun h => ?_⟩
  exact absurd ((allListed_iff _ { order_mgr_ := some {} } {} rfl rfl hnodup).1 h).1 (by simp [ORDER_MAX_QUEUE_DEPTH])

end DevSys.MessageRouter
