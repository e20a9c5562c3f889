import DevSys.Common.JsonHelper
import DevSys.Lib.SqlValues
import DevSys.Order.OrderManager
import DevSys.Server.Http
import DevSys.Storage.RoundTrip
import DevSys.Storage.Statements
/-!
# Orders that come in over HTTP

The handler fills in an order and leaves the time of its creation empty, which
`insert_order` splices into the statement as it is. The result of the insert is
not looked at.
-/
open Cxx SqlText

namespace DevSys

/-! ## The statement -/

namespace Database

def insert_into_orders : List Str :=
  [ "INSERT INTO orders ".toList,
    "(order_id,tenant_id,device_id,recipe_id,recipe_name,cup_size,quantity,total_amount,".toList,
    "payment_method,status,created_at,failure_reason) VALUES (".toList ]

def on_order_conflict : List Str :=
  [ ") ON CONFLICT (order_id) DO UPDATE SET ".toList,
    "tenant_id=EXCLUDED.tenant_id,device_id=EXCLUDED.device_id,".toList,
    "recipe_id=EXCLUDED.recipe_id,recipe_name=EXCLUDED.recipe_name,cup_size=EXCLUDED.cup_size,".toList,
    "quantity=EXCLUDED.quantity,total_amount=EXCLUDED.total_amount,".toList,
    "payment_method=EXCLUDED.payment_method,status=EXCLUDED.status,".toList,
    "created_at=EXCLUDED.created_at,failure_reason=EXCLUDED.failure_reason".toList ]

/-- The time of creation is a text, and not quoted. -/
def insert_order_sql (order : Order) : Str :=
  insert_into_orders.flatten ++ List.flatten
    [ sql_str order.order_id, ",".toList, sql_str order.tenant_id, ",".toList,
      sql_str order.device_id, ",".toList, sql_str order.recipe_id, ",".toList,
      sql_str order.recipe_name, ",".toList,
      sql_str order.cup_size, ",".toList, to_string order.quantity.toInt, ",".toList,
      to_string order.total_amount.toInt, ",".toList, sql_str order.payment_method, ",".toList,
      to_string order.status.val.toNat, ",".toList, order.created_at, ",".toList,
      sql_str order.failure_reason ] ++
    on_order_conflict.flatten

/-- The values by their texts and tokens, the time of creation by the tokens `created_at`. -/
def orderExpressions (o : Order) (created_at : List Token) : List (Str × List Token) :=
  let arg (a : Arg) : Str × List Token := (a.text, a.tokens)
  [arg (.str o.order_id), arg (.str o.tenant_id), arg (.str o.device_id), arg (.str o.recipe_id),
    arg (.str o.recipe_name), arg (.str o.cup_size), arg (.num o.quantity.toInt), arg (.num o.total_amount.toInt),
    arg (.str o.payment_method), arg (.num o.status.val.toNat), (o.created_at, created_at),
    arg (.str o.failure_reason)]

theorem insert_order_sql_eq (o : Order) (created_at : List Token) :
    insert_order_sql o = insert_into_orders.flatten ++
      (commaSep ((orderExpressions o created_at).map (·.1)) ++ on_order_conflict.flatten) := by
  unfold insert_order_sql
  simp only [commaSep, orderExpressions, List.map_cons, List.map_nil, Arg.text, sql_str_eq, comma_text,
    List.flatten_cons, List.flatten_nil, List.append_assoc, List.append_nil, List.cons_append, List.nil_append,
    -String.reduceToList]

theorem insert_into_orders_fixed : ∀ p ∈ insert_into_orders, Fixed p (part p) := by
  refine List.forall_mem_cons.2 ⟨Fixed.of_eq String.toList_ofList (by decide +kernel), ?_⟩
  refine List.forall_mem_cons.2 ⟨Fixed.of_eq String.toList_ofList (by decide +kernel), ?_⟩
  exact List.forall_mem_singleton.2 (Fixed.of_eq String.toList_ofList (by decide +kernel))

/-- What follows the VALUES list. -/
theorem on_order_conflict_lexes : ∃ r ts, on_order_conflict.flatten = ')' :: r ∧ lex r = some ts := by
  obtain ⟨l, hl, hfixed⟩ : ∃ l, ") ON CONFLICT (order_id) DO UPDATE SET ".toList = ')' :: l ∧ Fixed l (part l) :=
    ⟨_, String.toList_ofList, Fixed.of_eq rfl (by decide +kernel)⟩
  have hlast : Reads _ (ending "created_at=EXCLUDED.created_at,failure_reason=EXCLUDED.failure_reason".toList) [] :=
    ending_reads String.toList_ofList (by decide +kernel)
  have hmiddle : ∀ p ∈ on_order_conflict.tail.dropLast, Fixed p (part p) := by
    refine List.forall_mem_cons.2 ⟨Fixed.of_eq String.toList_ofList (by decide +kernel), ?_⟩
    refine List.forall_mem_cons.2 ⟨Fixed.of_eq String.toList_ofList (by decide +kernel), ?_⟩
    refine List.forall_mem_cons.2 ⟨Fixed.of_eq String.toList_ofList (by decide +kernel), ?_⟩
    exact List.forall_mem_singleton.2 (Fixed.of_eq String.toList_ofList (by decide +kernel))
  refine ⟨_, _, ?_, ((hlast.parts hmiddle).fixed hfixed).tokens⟩
  rw [← List.cons_append, ← hl]
  simp only [on_order_conflict, List.tail_cons, List.dropLast_cons_cons, List.dropLast_singleton, List.flatten_cons,
    List.flatten_nil, List.append_assoc, List.append_nil, -String.reduceToList]

/-- The VALUES list, if the time of creation reads as one expression or none. -/
theorem valuesList_insert_order {o : Order} {created_at : List Token} (h : Expression o.created_at created_at) :
    ∃ toks, lex (insert_order_sql o) = some toks ∧
      valuesList toks = some ((orderExpressions o created_at).map (·.2)) := by
  have hes : ∀ e ∈ orderExpressions o created_at, Expression e.1 e.2 := by
    simp only [orderExpressions, List.forall_mem_cons]
    exact ⟨.arg _, .arg _, .arg _, .arg _, .arg _, .arg _, .arg _, .arg _, .arg _, .arg _, h, .arg _, by simp⟩
  obtain ⟨r, ts, htail, hts⟩ := on_order_conflict_lexes
  have hne : orderExpressions o created_at ≠ [] := List.cons_ne_nil _ _
  obtain ⟨toks, htoks, hexprs⟩ := expressions_commaSep hne hes hts
  rw [← htail] at htoks
  have hhead : (insert_into_orders.flatMap part).dropWhile (· ≠ .word "VALUES".toList) =
      [.word "VALUES".toList, .symbol '('] := by decide +kernel
  refine ⟨insert_into_orders.flatMap part ++ toks, ?_, ?_⟩
  · rw [insert_order_sql_eq o created_at, lex_parts insert_into_orders_fixed, htoks]
    rfl
  · rw [valuesList_append hhead, hexprs]

/-- The statement has twelve values, the time of creation is a number, and a row
with the id is stored. -/
structure Inserts (o : Order) : Prop where
  values : ∃ toks es, lex (insert_order_sql o) = some toks ∧ valuesList toks = some es ∧ es.length = 12 ∧
    (∀ e ∈ es, e ≠ []) ∧ ∃ n, es[10]? = some [.number n]
  row : ∀ id, ∃ row, insert_order id o = some row ∧ row[1]? = some o.order_id

/-- An empty time of creation leaves an expression out. -/
theorem not_inserts {o : Order} (h : o.created_at = []) : ¬ Inserts o := by
  intro hins
  obtain ⟨toks, es, htoks, hes, -, hfull, -⟩ := hins.values
  obtain ⟨toks', htoks', hes'⟩ := valuesList_insert_order (o := o) (h ▸ Expression.empty)
  rw [htoks] at htoks'
  obtain rfl := Option.some.inj htoks'
  rw [hes] at hes'
  obtain rfl := Option.some.inj hes'
  exact hfull [] (by simp [orderExpressions]) rfl

/-- With a number for it the order is stored, if no text has a NUL. -/
theorem inserts_of_number {o : Order} {n : Nat} (h : o.created_at = to_string n) (hn : n < 2 ^ 63)
    (htexts : ∀ s ∈ [o.order_id, o.tenant_id, o.device_id, o.recipe_id, o.recipe_name, o.cup_size, o.payment_method,
      o.failure_reason], '\x00' ∉ s) : Inserts o := by
  have htime : Expression o.created_at (Arg.num n).tokens := h ▸ Expression.arg (.num n)
  obtain ⟨toks, htoks, hes⟩ := valuesList_insert_order htime
  have hfull (a : Arg) : a.tokens ≠ [] := by
    cases a with
    | str s => simp [Arg.tokens]
    | num n => cases n <;> simp [Arg.tokens, numeral]
    | bool b => simp [Arg.tokens]
  refine ⟨⟨toks, _, htoks, hes, rfl, ?_, Nat.toDigits 10 n, rfl⟩, fun id => ?_⟩
  · simp [orderExpressions, hfull]
  · have hbigint : Sql.IsBigint o.created_at := by
      rw [h]
      refine ⟨isDecimal_to_string n, ?_⟩
      rw [decimalVal_to_string]
      omega
    exact ⟨_, insert_order_of_storable id ⟨htexts, hbigint⟩, rfl⟩

end Database

/-! ## The handler -/

namespace OrderHandlers
open JsonHelper Json

/-- The order that the handler fills in. -/
def read_order (body : Str) : Except Exn Order := do
  let quantity ← get_int body "quantity".toList 1
  let total_amount ← get_int body "total_amount".toList 0
  .ok
    { order_id := get_string body "order_id".toList
      tenant_id := get_string body "tenant_id".toList
      device_id := get_string body "device_id".toList
      recipe_id := get_string body "recipe_id".toList
      cup_size := get_string body "cup_size".toList
      quantity := quantity
      total_amount := total_amount
      payment_method := get_string body "payment_method".toList }

/-- `POST /api/v1/orders`. -/
def post_order (body : Str) (s : OrderManager) : Except Exn (HttpResponse × OrderManager) := do
  let order ← read_order body
  if order.order_id = [] ∨ order.device_id = [] then
    .ok (error_response 400 1001 "order_id and device_id are required".toList, s)
  else
    let order := if order.tenant_id = [] then { order with tenant_id := "default".toList } else order
    let (sc, s) := s.create_order order
    if sc ≠ .OK then .ok (error_response 400 sc.toInt.toInt (status_message sc), s)
    else
      .ok (json_response 201 (object
        [member "code".toList "0".toList, strMember "message".toList "success".toList,
          member "data".toList (object [strMember "order_id".toList order.order_id])]), s)

/-- The handler takes the order. -/
structure Acceptable (body : Str) (s : OrderManager) : Prop where
  order_id : get_string body "order_id".toList ≠ []
  device_id : get_string body "device_id".toList ≠ []
  quantity : ReadableInt body "quantity".toList
  total_amount : ReadableInt body "total_amount".toList
  room : s.order_queue.length < ORDER_MAX_QUEUE_DEPTH

/-- An order answered with 201 is inserted. -/
def StoredIfCreated (body : Str) (s : OrderManager) : Prop :=
  ∀ resp s', post_order body s = .ok (resp, s') → resp.status_code = 201 →
    ∃ o, s'.order_queue = s.order_queue ++ [o] ∧ Database.Inserts o

/-- An acceptable order is taken without a time of creation. -/
theorem post_order_of_acceptable {body : Str} {s : OrderManager} (h : Acceptable body s) :
    ∃ resp s' o, post_order body s = .ok (resp, s') ∧ resp.status_code = 201 ∧
      s'.order_queue = s.order_queue ++ [o] ∧ o.created_at = [] := by
  obtain ⟨quantity, hquantity⟩ := (get_int_isOk_iff body "quantity".toList 1).2 h.quantity
  obtain ⟨total_amount, htotal⟩ := (get_int_isOk_iff body "total_amount".toList 0).2 h.total_amount
  have hids : ¬(get_string body "order_id".toList = [] ∨ get_string body "device_id".toList = []) :=
    not_or.2 ⟨h.order_id, h.device_id⟩
  simp only [post_order, read_order, hquantity, htotal, Bind.bind, Except.bind, -String.reduceToList]
  rw [if_neg hids, OrderManager.create_order_room h.room]
  refine ⟨_, _, _, rfl, rfl, rfl, ?_⟩
  split <;> rfl

theorem acceptable_of_post_order {body : Str} {s s' : OrderManager} {resp : HttpResponse}
    (h : post_order body s = .ok (resp, s')) (hcode : resp.status_code = 201) : Acceptable body s := by
  unfold post_order read_order at h
  cases hquantity : get_int body "quantity".toList 1 with
  | error e =>
    rw [hquantity] at h
    cases h
  | ok quantity =>
    cases htotal : get_int body "total_amount".toList 0 with
    | error e =>
      rw [hquantity, htotal] at h
      cases h
    | ok total_amount =>
      simp only [hquantity, htotal, Bind.bind, Except.bind, -String.reduceToList] at h
      by_cases hids : get_string body "order_id".toList = [] ∨ get_string body "device_id".toList = []
      · rw [if_pos hids] at h
        cases h
        cases hcode
      rw [if_neg hids] at h
      rw [not_or] at hids
      by_cases hfull : ORDER_MAX_QUEUE_DEPTH ≤ s.order_queue.length
      · rw [OrderManager.create_order_full hfull] at h
        cases h
        cases hcode
      · exact ⟨hids.1, hids.2, (get_int_isOk_iff _ _ _).1 ⟨_, hquantity⟩, (get_int_isOk_iff _ _ _).1 ⟨_, htotal⟩,
          Nat.not_le.1 hfull⟩

/-- An acceptable order is answered with 201 and not inserted. -/
theorem Acceptable.not_stored {body : Str} {s : OrderManager} (h : Acceptable body s) : ¬ StoredIfCreated body s := by
  intro hstored
  obtain ⟨resp, s', o, hpost, hcode, hqueue, hcreated⟩ := post_order_of_acceptable h
  obtain ⟨o', hqueue', hins⟩ := hstored resp s' hpost hcode
  rw [hqueue] at hqueue'
  obtain rfl := List.singleton_inj.1 (List.append_cancel_left hqueue')
  exact Database.not_inserts hcreated hins

/-- What is answered with 201 is inserted exactly when nothing is: no order that
is accepted gets a row. -/
theorem stored_if_created_iff (body : Str) (s : OrderManager) : StoredIfCreated body s ↔ ¬ Acceptable body s := by
  constructor
  · exact fun hstored hacc => hacc.not_stored hstored
  · intro hacc resp s' hpost hcode
    exact absurd (acceptable_of_post_order hpost hcode) hacc

/-- An order that is accepted. -/
def o1_body : Str := "\x7b\"order_id\":\"o1\",\"device_id\":\"d1\"\x7d".toList

theorem stored_if_created_fails : ¬∀ (body : Str) (s : OrderManager), StoredIfCreated body s := by
  intro h
  have hquantity : get_int o1_body "quantity".toList 1 = .ok 1 := by decide
  have htotal : get_int o1_body "total_amount".toList 0 = .ok 0 := by decide
  have hacc : Acceptable o1_body {} :=
    ⟨by decide, by decide, (get_int_isOk_iff _ _ _).1 ⟨_, hquantity⟩, (get_int_isOk_iff _ _ _).1 ⟨_, htotal⟩, by decide⟩
  exact hacc.not_stored (h o1_body {})

end OrderHandlers

end DevSys
