import DevSys.Lib.Lives
import DevSys.Order.Restart
import DevSys.Router.Redelivery
/-!
# Final order states

A report puts a completed order into the queue, where `confirm_payment`,
`cancel_order` and `start_brewing` take it for one that is waiting.
-/
open Cxx Runs

namespace DevSys

namespace OrderManager

/-! ## Where an order is, and its status -/

/-- The place of an order tells its status, but for completed orders in the queue. -/
structure Placed (s : OrderManager) : Prop where
  queue : ∀ o ∈ s.order_queue, o.status = .PENDING ∨ o.status = .PAID ∨ o.status = .COMPLETED
  current : ∀ o ∈ s.current_order, o.status = .BREWING

section Placed
variable {s : OrderManager} (h : Placed s)
include h

theorem placed_create_order {o : Order} (ho : o.status = .PENDING ∨ o.status = .COMPLETED) :
    Placed (s.create_order o).2 := by
  by_cases hroom : s.order_queue.length < ORDER_MAX_QUEUE_DEPTH
  · rw [create_order_room hroom]
    refine ⟨?_, h.current⟩
    rw [List.forall_mem_append, List.forall_mem_singleton]
    exact ⟨h.queue, ho.imp_right .inr⟩
  · rw [create_order_full (Nat.not_lt.1 hroom)]
    exact h

theorem placed_confirm_payment (order_id : Str) : Placed (s.confirm_payment order_id).2 := by
  unfold confirm_payment
  cases hi : s.order_queue.findIdx? (·.order_id = order_id) with
  | none => exact h
  | some i =>
    obtain ⟨a, -, ha⟩ := FirstMatch.find?_of_findIdx? hi
    refine ⟨?_, h.current⟩
    intro o ho
    rcases List.mem_cons.1 ((FirstMatch.modify_perm hi ha).subset ho) with rfl | ho
    · exact .inr (.inl rfl)
    · exact h.queue o (List.mem_of_mem_eraseP ho)

theorem placed_cancel_order (order_id : Str) : Placed (s.cancel_order order_id).2 := by
  unfold cancel_order
  split
  · exact h
  split
  · exact h
  · exact ⟨fun o ho => h.queue o (List.mem_of_mem_eraseP ho), h.current⟩

theorem placed_start_brewing (order_id : Str) : Placed (s.start_brewing order_id).2 := by
  unfold start_brewing
  split
  · exact h
  split
  · exact h
  · refine ⟨fun o ho => h.queue o (List.mem_of_mem_eraseP ho), ?_⟩
    rintro o ⟨⟩
    rfl

theorem placed_without_current (history : List Order) :
    Placed { s with current_order := none, history_orders := history } :=
  ⟨h.queue, fun _ ho => by cases ho⟩

theorem placed_complete_brewing (order_id : Str) : Placed (s.complete_brewing order_id).2 := by
  unfold complete_brewing
  split
  · exact h
  split
  · exact h
  · exact placed_without_current h _

theorem placed_fail_brewing (order_id reason : Str) : Placed (s.fail_brewing order_id reason).2 := by
  unfold fail_brewing
  split
  · exact h
  split
  · exact h
  · exact placed_without_current h _

theorem placed_event {e : Event} (he : ∀ o, e = .create o → o.status = .PENDING) : Placed (e.apply s) := by
  cases e with
  | create o => exact placed_create_order h (.inl (he o rfl))
  | confirm order_id => exact placed_confirm_payment h order_id
  | cancel order_id => exact placed_cancel_order h order_id
  | start order_id => exact placed_start_brewing h order_id
  | complete order_id => exact placed_complete_brewing h order_id
  | fail order_id reason => exact placed_fail_brewing h order_id reason

end Placed

/-! ## Final states -/

def Terminal (status : OrderStatus) : Prop := status = .COMPLETED ∨ status = .CANCELLED ∨ status = .FAILED

/-- An order in a final state stays in it. -/
def Lasting (o o' : Order) : Prop := Terminal o.status → o'.status = o.status

theorem lasting_trans (a b c : Order) (hab : Lasting a b) (hbc : Lasting b c) : Lasting a c := by
  intro ha
  have hb := hab ha
  rw [← hb] at ha
  exact (hbc ha).trans hb

/-- The order that is changed was waiting, and is not completed then, or was the current one. -/
theorem rewritten_cases {s : OrderManager} {e : Event} {o o' : Order} (h : s.rewritten e = some (o, o')) :
    (o ∈ s.order_queue ∧ o'.status ≠ .COMPLETED) ∨ s.current_order = some o := by
  cases e with
  | create => cases h
  | confirm order_id =>
    obtain ⟨a, ha, heq⟩ := Option.map_eq_some_iff.1 h
    cases heq
    exact .inl ⟨List.mem_of_find?_eq_some ha, show OrderStatus.PAID ≠ .COMPLETED by decide⟩
  | cancel order_id =>
    rw [rewritten] at h
    split at h
    · cases h
    · obtain ⟨a, ha, heq⟩ := Option.map_eq_some_iff.1 h
      cases heq
      exact .inl ⟨List.mem_of_find?_eq_some ha, show OrderStatus.CANCELLED ≠ .COMPLETED by decide⟩
  | start order_id =>
    rw [rewritten] at h
    split at h
    · cases h
    · obtain ⟨a, ha, heq⟩ := Option.map_eq_some_iff.1 h
      cases heq
      exact .inl ⟨List.mem_of_find?_eq_some ha, show OrderStatus.BREWING ≠ .COMPLETED by decide⟩
  | complete order_id =>
    obtain ⟨a, ha, heq⟩ := Option.map_eq_some_iff.1 h
    cases heq
    exact .inr (Option.filter_eq_some_iff.1 ha).1
  | fail order_id reason =>
    obtain ⟨a, ha, heq⟩ := Option.map_eq_some_iff.1 h
    cases heq
    exact .inr (Option.filter_eq_some_iff.1 ha).1

/-- The only final state an operation can take an order out of is `COMPLETED`. -/
theorem lasting_rewritten_iff {s : OrderManager} (h : Placed s) {e : Event} {o o' : Order}
    (hr : s.rewritten e = some (o, o')) : Lasting o o' ↔ o.status ≠ .COMPLETED := by
  have hopen {status : OrderStatus} (hs : o.status = status) (hnot : ¬ Terminal status) (hne : status ≠ .COMPLETED) :
      Lasting o o' ↔ o.status ≠ .COMPLETED := by
    subst hs
    exact iff_of_true (fun ht => absurd ht hnot) hne
  rcases rewritten_cases hr with ⟨hmem, ho'⟩ | hcur
  · rcases h.queue o hmem with hs | hs | hs
    · exact hopen hs (by unfold Terminal; decide) (by decide)
    · exact hopen hs (by unfold Terminal; decide) (by decide)
    · refine iff_of_false (fun hl => ho' ?_) (not_not.2 hs)
      rw [hl (.inl hs), hs]
  · exact hopen (h.current o hcur) (by unfold Terminal; decide) (by decide)

end OrderManager

namespace MessageRouter
open OrderManager

/-! ## Runs of messages and requests -/

/-- A message of a device, or a request to the order manager. -/
inductive Input where
  | message (now : Int) (topic payload : Str)
  | request (e : Event)

def Input.apply : Input → MessageRouter → MessageRouter
  | .message now topic payload, r => (r.on_message now topic payload).1
  | .request e, r => { r with order_mgr_ := r.order_mgr_.map e.apply }

/-- An order is posted as `PENDING`. -/
def Takes (r : MessageRouter) (i : Input) (r' : MessageRouter) : Prop :=
  (∀ o, i = .request (.create o) → o.status = .PENDING) ∧ r' = i.apply r

/-- What a step makes of an order, as far as the queue, the current order and the
history tell: it stays, or it is there less often and one with its id more often. -/
def Becomes (r : MessageRouter) (_ : Input) (r' : MessageRouter) (o o' : Order) : Prop :=
  o' = o ∨ (o'.order_id = o.order_id ∧ r'.orders.count o < r.orders.count o ∧ r.orders.count o' < r'.orders.count o')

/-- The request changes no order that is completed. -/
def Spares (r : MessageRouter) (i : Input) : Prop :=
  ∀ s e, r.order_mgr_ = some s → i = .request e → ∀ p ∈ s.rewritten e, p.1.status ≠ .COMPLETED

/-- The values of an order along a run, from a moment at which it is listed. -/
abbrev OrderLife (tr : List (MessageRouter × Input)) (r : MessageRouter) (os : List Order) : Prop :=
  Life (fun r o => o ∈ r.orders) Becomes tr r os

/-- No order leaves a final state. -/
def StayFinal (tr : List (MessageRouter × Input)) (r : MessageRouter) : Prop :=
  ∀ os, OrderLife tr r os → os.Pairwise Lasting

/-! ## Messages -/

/-- A message leaves the orders alone, or creates a completed one. -/
theorem order_mgr_on_message (now : Int) (topic payload : Str) {r : MessageRouter} {s : OrderManager}
    (hr : r.order_mgr_ = some s) :
    (r.on_message now topic payload).1.order_mgr_ = some s ∨
      ∃ o, o.status = .COMPLETED ∧ (r.on_message now topic payload).1.order_mgr_ = some (s.create_order o).2 := by
  rcases on_message_orders_faults now topic payload r with ⟨h, -⟩ | ⟨h, -⟩ | ⟨h, -⟩
  · rw [h]
    exact .inl hr
  · rw [h, handle_order_completed, hr]
    dsimp only
    split
    · exact .inl hr
    · exact .inr ⟨_, rfl, rfl⟩
  · rw [h]
    exact .inl hr

/-! ## Steps and runs -/

/-- The router has an order manager, with its orders in their places. -/
def Ordered (r : MessageRouter) : Prop := ∃ s, r.order_mgr_ = some s ∧ Placed s

theorem ordered_step {r r' : MessageRouter} {i : Input} (h : Ordered r) (hstep : Takes r i r') : Ordered r' := by
  obtain ⟨s, hs, hplaced⟩ := h
  obtain ⟨hposted, rfl⟩ := hstep
  cases i with
  | message now topic payload =>
    rcases order_mgr_on_message now topic payload hs with heq | ⟨o, ho, heq⟩
    · exact ⟨s, heq, hplaced⟩
    · exact ⟨_, heq, placed_create_order hplaced (.inr ho)⟩
  | request e =>
    refine ⟨e.apply s, ?_, placed_event hplaced fun o he => hposted o (by rw [he])⟩
    rw [Input.apply, hs, Option.map_some]

theorem orders_eq {r : MessageRouter} {s : OrderManager} (h : r.order_mgr_ = some s) : r.orders = s.list_all_orders := by
  rw [orders, h]
  rfl

/-- If one order takes the place of another, it is the only one that comes, and the
other the only one that goes. -/
theorem count_replaced {l l' rest : List Order} {o o' : Order} (hbefore : l.Perm (o :: rest))
    (hafter : l'.Perm (o' :: rest)) (hne : o' ≠ o) (a : Order) :
    (l'.count a < l.count a ↔ a = o) ∧ (l.count a < l'.count a ↔ a = o') := by
  rw [hbefore.count_eq, hafter.count_eq, List.count_cons, List.count_cons]
  by_cases ho : a = o
  · subst ho
    simp [hne, Ne.symm hne]
  · by_cases ho' : a = o'
    · subst ho'
      simp [ho, Ne.symm ho]
    · simp [ho, ho', Ne.symm ho, Ne.symm ho']

theorem count_le_create_order (s : OrderManager) (o o₁ : Order) :
    s.list_all_orders.count o ≤ (s.create_order o₁).2.list_all_orders.count o := by
  by_cases hroom : s.order_queue.length < ORDER_MAX_QUEUE_DEPTH
  · rw [create_order_room hroom]
    simp only [list_all_orders, List.count_append]
    omega
  · rw [create_order_full (Nat.not_lt.1 hroom)]

/-- A step makes nothing else of a listed order than what the request says. -/
theorem becomes_iff {r r' : MessageRouter} {i : Input} {s : OrderManager} (hs : r.order_mgr_ = some s)
    (hstep : Takes r i r') (o o' : Order) :
    Becomes r i r' o o' ↔ o' = o ∨ ∃ e, i = .request e ∧ s.rewritten e = some (o, o') := by
  obtain ⟨-, rfl⟩ := hstep
  -- where no order is lost, none becomes another
  have hnone {s' : OrderManager} (hmgr : (i.apply r).order_mgr_ = some s')
      (hle : s.list_all_orders.count o ≤ s'.list_all_orders.count o) :
      ¬(o'.order_id = o.order_id ∧ (i.apply r).orders.count o < r.orders.count o ∧
        r.orders.count o' < (i.apply r).orders.count o') := by
    rintro ⟨-, hless, -⟩
    rw [orders_eq hmgr, orders_eq hs] at hless
    omega
  cases i with
  | message now topic payload =>
    refine or_congr_right (iff_of_false ?_ (by simp))
    rcases order_mgr_on_message now topic payload hs with heq | ⟨o₁, -, heq⟩
    · exact hnone heq le_rfl
    · exact hnone heq (count_le_create_order s o o₁)
  | request e =>
    have hs' : (Input.apply (.request e) r).order_mgr_ = some (e.apply s) := by rw [Input.apply, hs, Option.map_some]
    simp only [Input.request.injEq, exists_eq_left']
    rcases apply_cases s e with ⟨hrewritten, heq⟩ | ⟨o₁, o₁', hsome, hid, -, rest, hbefore, hafter⟩ | ⟨o₁, rfl, -, -⟩
    · refine or_congr_right (iff_of_false (hnone hs' (by rw [heq])) ?_)
      rw [hrewritten]
      nofun
    · rw [hsome, Option.some.injEq, Prod.mk.injEq]
      by_cases hsame : o₁' = o₁
      · subst hsame
        have hle : s.list_all_orders.count o ≤ (e.apply s).list_all_orders.count o := by
          rw [(hbefore.trans hafter.symm).count_eq]
        constructor
        · rintro (h | h)
          · exact .inl h
          · exact absurd h (hnone hs' hle)
        · rintro (h | ⟨rfl, rfl⟩)
          · exact .inl h
          · exact .inl rfl
      · refine or_congr_right ?_
        rw [orders_eq hs, orders_eq hs', (count_replaced hbefore hafter hsame o).1, (count_replaced hbefore hafter hsame o').2]
        constructor
        · rintro ⟨-, rfl, rfl⟩
          exact ⟨rfl, rfl⟩
        · rintro ⟨rfl, rfl⟩
          exact ⟨hid, rfl, rfl⟩
    · exact or_congr_right (iff_of_false (hnone hs' (count_le_create_order s o o₁)) nofun)

/-- A listed order is listed after a step, as it was or as the request makes it. -/
theorem becomes_step {r r' : MessageRouter} {i : Input} {o : Order} (h : Ordered r) (hstep : Takes r i r')
    (ho : o ∈ r.orders) : ∃ o', Becomes r i r' o o' ∧ o' ∈ r'.orders := by
  obtain ⟨s, hs, -⟩ := h
  simp only [becomes_iff hs hstep]
  obtain ⟨-, rfl⟩ := hstep
  have hcreate {o₁ : Order} (hmgr : (i.apply r).order_mgr_ = some (s.create_order o₁).2) : o ∈ (i.apply r).orders := by
    rw [orders_eq hs, ← List.count_pos_iff] at ho
    rw [orders_eq hmgr, ← List.count_pos_iff]
    exact ho.trans_le (count_le_create_order s o o₁)
  cases i with
  | message now topic payload =>
    refine ⟨o, .inl rfl, ?_⟩
    rcases order_mgr_on_message now topic payload hs with heq | ⟨o₁, -, heq⟩
    · rwa [Input.apply, orders_eq heq, ← orders_eq hs]
    · exact hcreate heq
  | request e =>
    have hs' : (Input.apply (.request e) r).order_mgr_ = some (e.apply s) := by rw [Input.apply, hs, Option.map_some]
    rcases apply_cases s e with ⟨-, heq⟩ | ⟨o₁, o₁', hsome, -, -, rest, hbefore, hafter⟩ | ⟨o₁, rfl, -, -⟩
    · refine ⟨o, .inl rfl, ?_⟩
      rwa [orders_eq hs', heq, ← orders_eq hs]
    · rw [orders_eq hs] at ho
      rw [orders_eq hs']
      rcases List.mem_cons.1 (hbefore.subset ho) with rfl | hrest
      · exact ⟨o₁', .inr ⟨e, rfl, hsome⟩, hafter.symm.subset List.mem_cons_self⟩
      · exact ⟨o, .inl rfl, hafter.symm.subset (List.mem_cons_of_mem _ hrest)⟩
    · exact ⟨o, .inl rfl, hcreate hs'⟩

theorem lasting_step_iff {r r' : MessageRouter} {i : Input} (h : Ordered r) (hstep : Takes r i r') :
    (∀ o o', o ∈ r.orders → Becomes r i r' o o' → o' ∈ r'.orders → Lasting o o') ↔ Spares r i := by
  obtain ⟨s, hs, hplaced⟩ := h
  simp only [becomes_iff hs hstep]
  constructor
  · rintro hall s₁ e hs₁ rfl ⟨o, o'⟩ hp
    obtain rfl : s₁ = s := Option.some.inj (hs₁.symm.trans hs)
    have hs' : r'.order_mgr_ = some (e.apply s₁) := by
      rw [hstep.2, Input.apply, hs, Option.map_some]
    rcases apply_cases s₁ e with ⟨hnone, -⟩ | ⟨o₁, o₁', hsome, -, -, rest, hbefore, hafter⟩ | ⟨o₁, rfl, -, -⟩
    · rw [hnone] at hp
      cases hp
    · rw [hsome] at hp
      cases hp
      refine (lasting_rewritten_iff hplaced hsome).1 (hall o o' ?_ (.inr ⟨e, rfl, hsome⟩) ?_)
      · rw [orders_eq hs]
        exact hbefore.symm.subset List.mem_cons_self
      · rw [orders_eq hs']
        exact hafter.symm.subset List.mem_cons_self
    · cases hp
  · rintro hspares o o' - (rfl | ⟨e, rfl, hsome⟩) -
    · exact fun _ => rfl
    · exact (lasting_rewritten_iff hplaced hsome).2 (hspares s e hs rfl _ hsome)

/-- From no orders on, no order leaves a final state exactly when no request
of the run changes a completed order. -/
theorem stayFinal_iff {r₀ : MessageRouter} {db : Option (List Order)} (h₀ : r₀.order_mgr_ = some { db_ := db })
    {tr : List (MessageRouter × Input)} {r : MessageRouter} (h : Run Takes r₀ tr r) :
    StayFinal tr r ↔ ∀ p ∈ tr, Spares p.1 p.2 := by
  have hplaced : Placed { db_ := db } := ⟨by simp, by simp⟩
  exact h.lives_iff Ordered Lasting Spares lasting_trans ⟨_, h₀, hplaced⟩ (fun _ _ _ => ordered_step)
    (fun _ _ _ _ => becomes_step) (fun _ _ _ => lasting_step_iff)

/-! ## A completed order that is cancelled -/

/-- The order of `order_report`. -/
def completed_order : Order where
  order_id := "o-1".toList
  device_id := "dev-1".toList
  tenant_id := "default".toList
  status := .COMPLETED
  created_at := "1751234567".toList

/-- A router after the report. -/
def reported : MessageRouter := { order_mgr_ := some { order_queue := [completed_order] } }

theorem takes_report : Takes { order_mgr_ := some {} } (.message 0 order_topic order_report) reported :=
  ⟨fun _ h => (by cases h), by rfl⟩

theorem stayFinal_report : StayFinal [({ order_mgr_ := some {} }, .message 0 order_topic order_report)] reported := by
  have h₀ : ({ order_mgr_ := some {} } : MessageRouter).order_mgr_ = some { db_ := none } := rfl
  refine (stayFinal_iff h₀ (Run.nil.snoc takes_report)).2 ?_
  intro p hp
  rw [List.mem_singleton.1 hp]
  rintro s e - ⟨⟩

/-- The order is cancelled after it was completed. -/
theorem stayFinal_fails : ∃ tr r, Run Takes { order_mgr_ := some {} } tr r ∧ ¬ StayFinal tr r := by
  let cancelled : MessageRouter :=
    { order_mgr_ := some { history_orders := [{ completed_order with status := .CANCELLED }] } }
  have hcancel : Takes reported (.request (.cancel "o-1".toList)) cancelled := ⟨fun _ h => (by cases h), by rfl⟩
  refine ⟨_, _, (Run.nil.snoc takes_report).snoc hcancel, fun hfinal => ?_⟩
  have hlife : OrderLife [({ order_mgr_ := some {} }, .message 0 order_topic order_report),
      (reported, .request (.cancel "o-1".toList))] cancelled
      ([] ++ [completed_order, { completed_order with status := .CANCELLED }]) := by
    have hborn : OrderLife [({ order_mgr_ := some {} }, .message 0 order_topic order_report)] reported
        ([] ++ [completed_order]) := .born (by decide)
    refine hborn.grow (.inr ⟨rfl, ?_, ?_⟩) ?_
    · decide
    · decide
    · decide
  have hlasting := List.rel_of_pairwise_cons (hfinal _ hlife) List.mem_cons_self
  exact absurd (hlasting (.inl rfl)) (by decide)

end MessageRouter

end DevSys
