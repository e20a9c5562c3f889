import DevSys.Common.Types
/-!
# `OrderManager`

The bounded queue of waiting orders, the order being brewed, and the history.
-/
open Cxx

namespace DevSys

def ORDER_MAX_QUEUE_DEPTH : Nat := 10

/-- `db_` holds the orders handed to `insert_order`, when a database is set. -/
structure OrderManager where
  order_queue : List Order := []
  current_order : Option Order := none
  history_orders : List Order := []
  db_ : Option (List Order) := none

namespace OrderManager

/-! ## Operations -/

def create_order (order : Order) (s : OrderManager) : StatusCode × OrderManager :=
  if s.order_queue.length ≥ ORDER_MAX_QUEUE_DEPTH then (.ORDER_QUEUE_FULL, s)
  else (.OK, { s with order_queue := s.order_queue ++ [order], db_ := s.db_.map (· ++ [order]) })

/-- Only a waiting order can be cancelled. -/
def cancel_order (order_id : Str) (s : OrderManager) : StatusCode × OrderManager :=
  if s.current_order.any (·.order_id = order_id) then (.ORDER_INVALID_STATE, s)
  else match s.order_queue.find? (·.order_id = order_id) with
    | none => (.ORDER_NOT_FOUND, s)
    | some it =>
      (.OK, { s with
        order_queue := s.order_queue.eraseP (·.order_id = order_id)
        history_orders := s.history_orders ++ [{ it with status := .CANCELLED }] })

def confirm_payment (order_id : Str) (s : OrderManager) : StatusCode × OrderManager :=
  match s.order_queue.findIdx? (·.order_id = order_id) with
  | none => (.ORDER_NOT_FOUND, s)
  | some i => (.OK, { s with order_queue := s.order_queue.modify i ({ · with status := .PAID }) })

/-- Not implemented in the source beyond its result. -/
def run_pre_brew_check (_order : Order) : StatusCode := .OK

def start_brewing (order_id : Str) (s : OrderManager) : StatusCode × OrderManager :=
  if s.current_order.isSome then (.ORDER_INVALID_STATE, s)
  else match s.order_queue.find? (·.order_id = order_id) with
    | none => (.ORDER_NOT_FOUND, s)
    | some it =>
      let s := { s with order_queue := s.order_queue.eraseP (·.order_id = order_id) }
      let check := run_pre_brew_check it
      if check ≠ .OK then (check, s)
      else (.OK, { s with current_order := some { it with status := .BREWING } })

def complete_brewing (order_id : Str) (s : OrderManager) : StatusCode × OrderManager :=
  match s.current_order with
  | none => (.ORDER_NOT_FOUND, s)
  | some cur =>
    if cur.order_id ≠ order_id then (.ORDER_NOT_FOUND, s)
    else (.OK, { s with
      current_order := none
      history_orders := s.history_orders ++ [{ cur with status := .COMPLETED }] })

def fail_brewing (order_id reason : Str) (s : OrderManager) : StatusCode × OrderManager :=
  match s.current_order with
  | none => (.ORDER_NOT_FOUND, s)
  | some cur =>
    if cur.order_id ≠ order_id then (.ORDER_NOT_FOUND, s)
    else (.OK, { s with
      current_order := none
      history_orders := s.history_orders ++ [{ cur with status := .FAILED, failure_reason := reason }] })

/-- The current order is dropped. -/
def emergency_stop (s : OrderManager) : StatusCode × OrderManager :=
  (.OK, { s with current_order := none })

/-! ## Queries -/

def get_order (order_id : Str) (s : OrderManager) : Option Order :=
  if s.current_order.any (·.order_id = order_id) then s.current_order
  else s.order_queue.find? (·.order_id = order_id)

def list_all_orders (s : OrderManager) : List Order :=
  s.current_order.toList ++ s.order_queue ++ s.history_orders

/-! ## What a created order changes -/

theorem create_order_full {s : OrderManager} (h : ORDER_MAX_QUEUE_DEPTH ≤ s.order_queue.length) (o : Order) :
    s.create_order o = (.ORDER_QUEUE_FULL, s) :=
  if_pos h

theorem create_order_room {s : OrderManager} (h : s.order_queue.length < ORDER_MAX_QUEUE_DEPTH) (o : Order) :
    s.create_order o = (.OK, { s with order_queue := s.order_queue ++ [o], db_ := s.db_.map (· ++ [o]) }) :=
  if_neg (Nat.not_le.2 h)

/-- Created one after another, only the orders there is room for are kept. -/
theorem create_orders_eq (os : List Order) (s : OrderManager) :
    os.foldl (fun s o => (s.create_order o).2) s =
      let kept := os.take (ORDER_MAX_QUEUE_DEPTH - s.order_queue.length)
      { s with order_queue := s.order_queue ++ kept, db_ := s.db_.map (· ++ kept) } := by
  induction os generalizing s with
  | nil => cases s with | mk q c h db => cases db <;> simp
  | cons o os ih =>
    rw [List.foldl_cons, ih]
    by_cases hf : ORDER_MAX_QUEUE_DEPTH ≤ s.order_queue.length
    · have h0 : ORDER_MAX_QUEUE_DEPTH - s.order_queue.length = 0 := by omega
      rw [create_order_full hf]
      simp [h0]
    · have h1 : ORDER_MAX_QUEUE_DEPTH - s.order_queue.length =
          ORDER_MAX_QUEUE_DEPTH - (s.order_queue.length + 1) + 1 := by omega
      rw [create_order_room (Nat.not_le.1 hf)]
      cases hdb : s.db_ <;> simp [h1]

end OrderManager

end DevSys
