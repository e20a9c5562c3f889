import DevSys.Lib.Lanes
import DevSys.Lib.Machines
import DevSys.Order.Frame
/-!
# The order manager as a shop

What an order manager is for: each order id has a line of its own, first come
first served, one order is brewed at a time, and a limited number may wait. How
the lines of different ids are mixed in the queue is not to be seen.
-/
open Cxx Function Lanes Machines

namespace DevSys

/-! ## The shop -/

structure Shop where
  line : Str → List Order
  waiting : Nat
  current : Option Order
  past : Str → List Order
  finished : Nat

namespace Shop

/-- The first in line leaves. -/
def leave (order_id : Str) (s : Shop) : Shop :=
  { s with line := update s.line order_id (s.line order_id).tail, waiting := s.waiting - 1 }

/-- An order is over. -/
def file (o : Order) (s : Shop) : Shop :=
  { s with past := update s.past o.order_id (s.past o.order_id ++ [o]), finished := s.finished + 1 }

def create (o : Order) (s : Shop) : StatusCode × Shop :=
  if s.waiting ≥ ORDER_MAX_QUEUE_DEPTH then (.ORDER_QUEUE_FULL, s)
  else (.OK, { s with
    line := update s.line o.order_id (s.line o.order_id ++ [o])
    waiting := s.waiting + 1 })

def confirm (order_id : Str) (s : Shop) : StatusCode × Shop :=
  if s.line order_id = [] then (.ORDER_NOT_FOUND, s)
  else (.OK, { s with
    line := update s.line order_id ((s.line order_id).modifyHead ({ · with status := .PAID })) })

def cancel (order_id : Str) (s : Shop) : StatusCode × Shop :=
  if s.current.any (·.order_id = order_id) then (.ORDER_INVALID_STATE, s)
  else match (s.line order_id).head? with
    | none => (.ORDER_NOT_FOUND, s)
    | some o => (.OK, (s.leave order_id).file { o with status := .CANCELLED })

def start (order_id : Str) (s : Shop) : StatusCode × Shop :=
  if s.current.isSome then (.ORDER_INVALID_STATE, s)
  else match (s.line order_id).head? with
    | none => (.ORDER_NOT_FOUND, s)
    | some o => (.OK, { s.leave order_id with current := some { o with status := .BREWING } })

/-- The order that is brewed is over, one way or the other. -/
def finish (order_id : Str) (rewrite : Order → Order) (s : Shop) : StatusCode × Shop :=
  match s.current with
  | none => (.ORDER_NOT_FOUND, s)
  | some o =>
    if o.order_id ≠ order_id then (.ORDER_NOT_FOUND, s)
    else (.OK, { s.file (rewrite o) with current := none })

def call : OrderManager.Op → Shop → StatusCode × Shop
  | .event (.create order) => create order
  | .event (.confirm order_id) => confirm order_id
  | .event (.cancel order_id) => cancel order_id
  | .event (.start order_id) => start order_id
  | .event (.complete order_id) => finish order_id ({ · with status := .COMPLETED })
  | .event (.fail order_id reason) => finish order_id ({ · with status := .FAILED, failure_reason := reason })
  | .emergency_stop => fun s => (.OK, { s with current := none })

/-- The order under an id that is not over. -/
def order (order_id : Str) (s : Shop) : Option Order :=
  if s.current.any (·.order_id = order_id) then s.current else (s.line order_id).head?

def listed (order_id : Str) (s : Shop) : List Order :=
  s.current.toList.filter (·.order_id = order_id) ++ s.line order_id ++ s.past order_id

end Shop

namespace OrderManager

/-! ## Questions -/

def Op.call : Op → OrderManager → StatusCode × OrderManager
  | .event e, s => e.call s
  | .emergency_stop, s => s.emergency_stop

def queue_depth (s : OrderManager) : Int32 := .ofNat s.order_queue.length

def total_count (s : OrderManager) : Int32 :=
  let count := Int32.ofNat s.order_queue.length + Int32.ofNat s.history_orders.length
  if s.current_order.isSome then count + 1 else count

/-- A call, or a query. -/
inductive Question where
  | op (op : Op)
  | get_order (order_id : Str)
  | queue_depth
  | total_count
  /-- What `list_all_orders` lists under an id. -/
  | listed (order_id : Str)

inductive Answer where
  | status (sc : StatusCode)
  | order (o : Option Order)
  | number (n : Int32)
  | orders (os : List Order)

def answer : Question → OrderManager → Answer × OrderManager
  | .op op, s => (.status (op.call s).1, (op.call s).2)
  | .get_order order_id, s => (.order (s.get_order order_id), s)
  | .queue_depth, s => (.number s.queue_depth, s)
  | .total_count, s => (.number s.total_count, s)
  | .listed order_id, s => (.orders (s.list_all_orders.filter (·.order_id = order_id)), s)

end OrderManager

namespace Shop
open OrderManager

def answer : Question → Shop → Answer × Shop
  | .op op, s => (.status (call op s).1, (call op s).2)
  | .get_order order_id, s => (.order (s.order order_id), s)
  | .queue_depth, s => (.number (.ofNat s.waiting), s)
  | .total_count, s =>
    let count := Int32.ofNat s.waiting + Int32.ofNat s.finished
    (.number (if s.current.isSome then count + 1 else count), s)
  | .listed order_id, s => (.orders (s.listed order_id), s)

end Shop

namespace OrderManager

/-! ## What is seen of a manager -/

def shop (s : OrderManager) : Shop where
  line := lanes Order.order_id s.order_queue
  waiting := s.order_queue.length
  current := s.current_order
  past := lanes Order.order_id s.history_orders
  finished := s.history_orders.length

@[simp] theorem shop_current (s : OrderManager) : s.shop.current = s.current_order := rfl

@[simp] theorem shop_waiting (s : OrderManager) : s.shop.waiting = s.order_queue.length := rfl

theorem line_eq_nil_iff {s : OrderManager} {order_id : Str} :
    s.shop.line order_id = [] ↔ s.order_queue.findIdx? (·.order_id = order_id) = none := by
  rw [List.findIdx?_eq_none_iff]
  simp [shop, lanes, List.filter_eq_nil_iff]

theorem head?_line (s : OrderManager) (order_id : Str) :
    (s.shop.line order_id).head? = s.order_queue.find? (·.order_id = order_id) := head?_lanes _ _

/-- The first order that waits under an id is the first in its line. -/
theorem shop_leave {s : OrderManager} {order_id : Str} {o : Order}
    (h : s.order_queue.find? (·.order_id = order_id) = some o) :
    s.shop.leave order_id = shop { s with order_queue := s.order_queue.eraseP (·.order_id = order_id) } := by
  have hid := List.find?_some h
  have hlen : (s.order_queue.eraseP (·.order_id = order_id)).length = s.order_queue.length - 1 :=
    List.length_eraseP_of_mem (List.mem_of_find?_eq_some h) hid
  rw [Shop.leave, shop, shop, lanes_eraseP, hlen]

theorem shop_file (s : OrderManager) (o : Order) :
    s.shop.file o = shop { s with history_orders := s.history_orders ++ [o] } := by
  rw [Shop.file, shop, shop, lanes_concat, List.length_append]
  rfl

theorem shop_create (o : Order) (s : OrderManager) :
    s.shop.create o = ((s.create_order o).1, (s.create_order o).2.shop) := by
  unfold Shop.create create_order
  rw [shop_waiting]
  by_cases hfull : s.order_queue.length ≥ ORDER_MAX_QUEUE_DEPTH
  · rw [if_pos hfull, if_pos hfull]
  · rw [if_neg hfull, if_neg hfull]
    simp only [shop, lanes_concat, List.length_append, List.length_singleton]

theorem shop_confirm (order_id : Str) (s : OrderManager) :
    s.shop.confirm order_id = ((s.confirm_payment order_id).1, (s.confirm_payment order_id).2.shop) := by
  unfold Shop.confirm confirm_payment
  cases h : s.order_queue.findIdx? (·.order_id = order_id) with
  | none => rw [if_pos (line_eq_nil_iff.2 h)]
  | some i =>
    have hne : s.shop.line order_id ≠ [] := by
      rw [Ne, line_eq_nil_iff, h]
      exact Option.some_ne_none i
    have hid (o : Order) : Order.order_id { o with status := .PAID } = o.order_id := rfl
    have hline : lanes Order.order_id (s.order_queue.modify i ({ · with status := .PAID })) =
        update (s.shop.line) order_id ((s.shop.line order_id).modifyHead ({ · with status := .PAID })) :=
      lanes_modify hid h
    rw [if_neg hne, ← hline]
    simp only [shop, List.length_modify]

theorem shop_cancel (order_id : Str) (s : OrderManager) :
    s.shop.cancel order_id = ((s.cancel_order order_id).1, (s.cancel_order order_id).2.shop) := by
  unfold Shop.cancel cancel_order
  rw [shop_current]
  by_cases hcur : s.current_order.any (·.order_id = order_id)
  · rw [if_pos hcur, if_pos hcur]
  · rw [if_neg hcur, if_neg hcur, head?_line]
    cases h : s.order_queue.find? (·.order_id = order_id) with
    | none => rfl
    | some o =>
      dsimp only
      rw [shop_leave h, shop_file]

theorem shop_start (order_id : Str) (s : OrderManager) :
    s.shop.start order_id = ((s.start_brewing order_id).1, (s.start_brewing order_id).2.shop) := by
  unfold Shop.start start_brewing
  rw [shop_current]
  by_cases hcur : s.current_order.isSome
  · rw [if_pos hcur, if_pos hcur]
  · rw [if_neg hcur, if_neg hcur, head?_line]
    cases h : s.order_queue.find? (·.order_id = order_id) with
    | none => rfl
    | some o =>
      dsimp only
      rw [shop_leave h]
      rfl

/-- What `complete_brewing` and `fail_brewing` have in common. -/
theorem shop_finish (order_id : Str) (rewrite : Order → Order) (s : OrderManager) {r : StatusCode × OrderManager}
    (h : r = match s.current_order with
      | none => (.ORDER_NOT_FOUND, s)
      | some cur =>
        if cur.order_id ≠ order_id then (.ORDER_NOT_FOUND, s)
        else (.OK, { s with current_order := none, history_orders := s.history_orders ++ [rewrite cur] })) :
    s.shop.finish order_id rewrite = (r.1, r.2.shop) := by
  subst h
  unfold Shop.finish
  rw [shop_current]
  cases s.current_order with
  | none => rfl
  | some o =>
    by_cases hid : o.order_id ≠ order_id
    · simp only [if_pos hid]
    · simp only [if_neg hid, shop_file]
      rfl

theorem shop_call (op : Op) (s : OrderManager) : Shop.call op s.shop = ((op.call s).1, (op.call s).2.shop) := by
  cases op with
  | emergency_stop => rfl
  | event e =>
    cases e with
    | create o => exact shop_create o s
    | confirm order_id => exact shop_confirm order_id s
    | cancel order_id => exact shop_cancel order_id s
    | start order_id => exact shop_start order_id s
    | complete order_id => exact shop_finish order_id ({ · with status := .COMPLETED }) s rfl
    | fail order_id reason =>
      exact shop_finish order_id ({ · with status := .FAILED, failure_reason := reason }) s rfl

/-- The shop that is seen of a manager answers as the manager does. -/
theorem refines_shop : Refines answer Shop.answer shop := by
  intro q s
  cases q with
  | op op => rw [Shop.answer, shop_call, answer]
  | get_order order_id => rw [Shop.answer, Shop.order, head?_line, shop_current, answer, get_order]
  | queue_depth => rfl
  | total_count => rfl
  | listed order_id =>
    rw [Shop.answer, answer, list_all_orders, List.filter_append, List.filter_append]
    rfl

end OrderManager

/-! ## What questions can tell -/

namespace Shop
open OrderManager
variable {s s' : Shop}

theorem order_of_alike (h : Alike answer s s') (order_id : Str) : s.order order_id = s'.order order_id :=
  Answer.order.inj (h.answer (.get_order order_id))

/-- The order that is brewed can be completed under its id. -/
theorem finish_ok_iff (order_id : Str) (rewrite : Order → Order) (s : Shop) :
    (s.finish order_id rewrite).1 = .OK ↔ ∃ o, s.current = some o ∧ o.order_id = order_id := by
  unfold finish
  cases s.current with
  | none => simp
  | some o => by_cases hid : o.order_id = order_id <;> simp [hid]

theorem current_of_alike_some {o : Order} (h : Alike answer s s') (ho : s.current = some o) : s'.current = some o := by
  have hdone := Answer.status.inj (h.answer (.op (.event (.complete o.order_id))))
  have hok : (s.finish o.order_id ({ · with status := .COMPLETED })).1 = .OK := (finish_ok_iff _ _ _).2 ⟨o, ho, rfl⟩
  obtain ⟨o', ho', hid⟩ := (finish_ok_iff _ _ _).1 (hdone.symm.trans hok)
  have horder := order_of_alike h o.order_id
  rw [order, order, ho, ho'] at horder
  simp only [Option.any_some, decide_true, if_true, hid] at horder
  rw [ho', horder]

theorem current_of_alike (h : Alike answer s s') : s.current = s'.current := by
  cases ho : s.current with
  | some o => exact (current_of_alike_some h ho).symm
  | none =>
    cases ho' : s'.current with
    | none => rfl
    | some o =>
      rw [current_of_alike_some h.symm ho'] at ho
      cases ho

/-- The first in line is cancelled while nothing is brewed. -/
theorem cancel_first {o : Order} {l : List Order} {order_id : Str} (hs : s.current = none)
    (hl : s.line order_id = o :: l) :
    (answer (.op (.event (.cancel order_id))) s).2.current = none ∧
      (answer (.op (.event (.cancel order_id))) s).2.line order_id = l := by
  rw [answer, call, cancel, hs, hl]
  simp [leave, file, hs, hl]

/-- A line is seen one order after another, by cancelling them. -/
theorem line_of_alike (order_id : Str) (h : Alike answer s s') (hs : s.current = none) :
    s.line order_id = s'.line order_id := by
  generalize hl : s.line order_id = l
  induction l generalizing s s' with
  | nil =>
    have hs' : s'.current = none := (current_of_alike h).symm.trans hs
    have horder := order_of_alike h order_id
    rw [order, order, hs, hs', hl] at horder
    exact (List.head?_eq_none_iff.1 horder.symm).symm
  | cons o l ih =>
    have hs' : s'.current = none := (current_of_alike h).symm.trans hs
    have horder := order_of_alike h order_id
    rw [order, order, hs, hs', hl] at horder
    obtain ⟨l', hl'⟩ := List.head?_eq_some_iff.1 horder.symm
    obtain ⟨hcur, hline⟩ := cancel_first hs hl
    have hrest := ih (h.next (.op (.event (.cancel order_id)))) hcur hline
    rw [hl', hrest, (cancel_first hs' hl').2]

/-- After an emergency stop nothing is brewed. -/
theorem lines_of_alike (h : Alike answer s s') : s.line = s'.line := by
  funext order_id
  have hnext := h.next (.op .emergency_stop)
  have hcur : (answer (.op .emergency_stop) s).2.current = none := rfl
  have hline := line_of_alike order_id hnext hcur
  exact hline

theorem past_of_alike (h : Alike answer s s') : s.past = s'.past := by
  funext order_id
  have hlisted := Answer.orders.inj (h.answer (.listed order_id))
  rw [listed, listed, current_of_alike h, lines_of_alike h] at hlisted
  exact List.append_cancel_left hlisted

end Shop

namespace OrderManager

/-- No list of calls and queries tells two managers apart exactly when they have
the same orders in the same places, line by line. -/
theorem alike_iff (s s' : OrderManager) : Alike answer s s' ↔ s.shop = s'.shop := by
  refine ⟨fun h => ?_, refines_shop.alike⟩
  have hshop : Alike Shop.answer s.shop s'.shop := refines_shop.alike_seen_iff.2 h
  have hline : lanes Order.order_id s.order_queue = lanes Order.order_id s'.order_queue := Shop.lines_of_alike hshop
  have hpast : lanes Order.order_id s.history_orders = lanes Order.order_id s'.history_orders :=
    Shop.past_of_alike hshop
  have hcurrent : s.current_order = s'.current_order := Shop.current_of_alike hshop
  rw [shop, shop, hline, hpast, hcurrent, (perm_of_lanes hline).length_eq, (perm_of_lanes hpast).length_eq]

/-- To each call and query a manager answers as its shop does, and moves along with
it, for whole lists of them; and there is no more to a shop than its answers. -/
theorem shop_fully_abstract :
    (∀ (q : Question) (s : OrderManager), s.shop.answer q = ((s.answer q).1, (s.answer q).2.shop)) ∧
      (∀ (s : OrderManager) (qs : List Question), answers answer s qs = answers Shop.answer s.shop qs) ∧
      ∀ s s' : OrderManager, Alike answer s s' ↔ s.shop = s'.shop :=
  ⟨refines_shop, refines_shop.answers_eq, alike_iff⟩

end OrderManager

end DevSys
