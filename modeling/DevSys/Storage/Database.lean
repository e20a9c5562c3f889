import DevSys.Common.Types
import DevSys.Lib.SqlTable
/-!
# `Database`: orders and faults

The tables as their `CREATE TABLE` lists the columns behind the serial `id`,
the inserts by column name, and the decoders by column position. Foreign keys
and the update on a conflict, which writes the same values, are left out.
-/
open Cxx Sql

namespace DevSys.Database

/-! ## Orders -/

inductive OrdersColumn where
  | order_id
  | tenant_id
  | device_id
  | recipe_id
  | recipe_name
  | cup_size
  | quantity
  | total_amount
  | payment_method
  | status
  | created_at
  | failure_reason
  deriving DecidableEq, Repr

def create_orders_table : List (Column OrdersColumn) :=
  [ ⟨.order_id, .text, none⟩,
    ⟨.tenant_id, .text, some "default".toList⟩,
    ⟨.device_id, .text, none⟩,
    ⟨.recipe_id, .text, some []⟩,
    ⟨.recipe_name, .text, some []⟩,
    ⟨.cup_size, .text, some []⟩,
    ⟨.quantity, .integer, some ['1']⟩,
    ⟨.total_amount, .integer, some ['0']⟩,
    ⟨.payment_method, .text, some []⟩,
    ⟨.status, .integer, some ['0']⟩,
    ⟨.created_at, .bigint, some ['0']⟩,
    ⟨.failure_reason, .text, some []⟩ ]

/-- The row stored for an order, if the statement succeeds. -/
def insert_order (id : Nat) (order : Order) : Option (List Str) :=
  insertRow id create_orders_table
    [ (.order_id, .str order.order_id),
      (.tenant_id, .str order.tenant_id),
      (.device_id, .str order.device_id),
      (.recipe_id, .str order.recipe_id),
      (.recipe_name, .str order.recipe_name),
      (.cup_size, .str order.cup_size),
      (.quantity, .num (to_string order.quantity.toInt)),
      (.total_amount, .num (to_string order.total_amount.toInt)),
      (.payment_method, .str order.payment_method),
      (.status, .num (to_string (order.status.val.toNat : Int))),
      (.created_at, .num order.created_at),
      (.failure_reason, .str order.failure_reason) ]

/-- `std::stoi`, or 0 where it throws. -/
def safe_stoi (s : Str) : Int32 :=
  if s = [] then 0
  else match stoi s with
    | .ok n => n
    | .error _ => 0

def order_from_row (row : List Str) : Order :=
  if row.length < 6 then {}
  else
    { order_id := row.getD 1 []
      tenant_id := row.getD 2 []
      device_id := row.getD 3 []
      recipe_id := row.getD 4 []
      cup_size := row.getD 5 []
      quantity := if row.length > 6 then safe_stoi (row.getD 6 []) else 0
      total_amount := if row.length > 7 then safe_stoi (row.getD 7 []) else 0
      payment_method := if row.length > 8 then row.getD 8 [] else []
      status := ⟨castUInt8 (if row.length > 9 then safe_stoi (row.getD 9 []) else 3)⟩
      failure_reason := if row.length > 10 then row.getD 10 [] else []
      created_at := if row.length > 11 then row.getD 11 [] else ['0']
      recipe_name := if row.length > 12 then row.getD 12 [] else [] }

/-! ## Faults -/

inductive FaultsColumn where
  | tenant_id
  | device_id
  | code
  | level
  | description
  | created_at
  | resolved
  | sensor_snapshot
  deriving DecidableEq, Repr

def create_faults_table : List (Column FaultsColumn) :=
  [ ⟨.tenant_id, .text, some "default".toList⟩,
    ⟨.device_id, .text, none⟩,
    ⟨.code, .integer, none⟩,
    ⟨.level, .integer, some ['1']⟩,
    ⟨.description, .text, some []⟩,
    ⟨.created_at, .bigint, some ['0']⟩,
    ⟨.resolved, .boolean, some ['f']⟩,
    ⟨.sensor_snapshot, .text, some []⟩ ]

/-- The row stored for a fault, if the statement succeeds. -/
def insert_fault (id : Nat) (fault : FaultInfo) : Option (List Str) :=
  insertRow id create_faults_table
    [ (.tenant_id, .str fault.tenant_id),
      (.device_id, .str fault.device_id),
      (.code, .num (to_string (fault.code.val.toNat : Int))),
      (.level, .num (to_string (fault.level.val.toNat : Int))),
      (.description, .str fault.description),
      (.created_at, .num fault.timestamp),
      (.sensor_snapshot, .str fault.sensor_snapshot) ]

/-- `now` replaces a time stamp that is not a row of digits. -/
def fault_from_row (now : Nat) (row : List Str) : Except Exn FaultInfo :=
  if row.length < 7 then .ok {}
  else do
    let code ← stoi (row.getD 3 [])
    -- the old levels L3 and L4 are errors, L0 to L2 warnings
    let ol ← stoi (row.getD 4 [])
    let timestamp := if row.length > 6 then row.getD 6 [] else ['0']
    .ok
      { tenant_id := row.getD 1 []
        device_id := row.getD 2 []
        code := ⟨castUInt8 code⟩
        level := if ol ≥ 3 then .ERROR else .WARNING
        description := row.getD 5 []
        timestamp :=
          if timestamp = [] ∨ timestamp = ['f'] ∨ ¬timestamp.all Char.isDigit then to_string now else timestamp
        sensor_snapshot := if row.length > 8 then row.getD 8 [] else [] }

end DevSys.Database
