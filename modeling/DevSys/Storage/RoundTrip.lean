import DevSys.Storage.Database
/-!
# What comes back from the orders and faults tables

The decoder of an order reads seven columns from the place of another one, and
the decoder of a fault maps both stored levels to WARNING.
-/
open Cxx Sql

namespace DevSys.Database

/-! ## Orders -/

/-- The values an order needs for the statement to succeed. -/
structure StorableOrder (o : Order) : Prop where
  texts : ∀ s ∈ [o.order_id, o.tenant_id, o.device_id, o.recipe_id, o.recipe_name, o.cup_size, o.payment_method,
    o.failure_reason], '\x00' ∉ s
  created_at : IsBigint o.created_at

/-- The stored row, in column order. -/
def orderRow (id : Nat) (o : Order) : List Str :=
  [to_string id, o.order_id, o.tenant_id, o.device_id, o.recipe_id, o.recipe_name, o.cup_size,
    to_string o.quantity.toInt, to_string o.total_amount.toInt, o.payment_method, to_string o.status.val.toNat,
    to_string (decimalVal o.created_at), o.failure_reason]

theorem insert_order_eq (id : Nat) (o : Order) :
    insert_order id o = (allCells [stored .text (.str o.order_id), stored .text (.str o.tenant_id),
      stored .text (.str o.device_id), stored .text (.str o.recipe_id), stored .text (.str o.recipe_name),
      stored .text (.str o.cup_size), stored .integer (.num (to_string o.quantity.toInt)),
      stored .integer (.num (to_string o.total_amount.toInt)), stored .text (.str o.payment_method),
      stored .integer (.num (to_string o.status.val.toNat)), stored .bigint (.num o.created_at),
      stored .text (.str o.failure_reason)]).map (to_string id :: ·) := rfl

theorem insert_order_of_storable (id : Nat) {o : Order} (h : StorableOrder o) :
    insert_order id o = some (orderRow id o) := by
  have htexts := h.texts
  simp only [List.forall_mem_cons] at htexts
  obtain ⟨h1, h2, h3, h4, h5, h6, h7, h8, -⟩ := htexts
  rw [insert_order_eq, stored_text h1, stored_text h2, stored_text h3, stored_text h4, stored_text h5, stored_text h6,
    stored_text h7, stored_text h8, stored_int32, stored_int32, stored_uint8, stored_bigint h.created_at]
  rfl

theorem storable_of_insert_order {id : Nat} {o : Order} {row : List Str} (h : insert_order id o = some row) :
    StorableOrder o := by
  rw [insert_order_eq] at h
  obtain ⟨rest, hrest, -⟩ := Option.map_eq_some_iff.1 h
  have hsome := isSome_of_allCells hrest
  simp only [List.forall_mem_cons, stored_text_isSome_iff, stored_bigint_isSome_iff] at hsome
  obtain ⟨h1, h2, h3, h4, h5, h6, -, -, h7, -, hc, h8, -⟩ := hsome
  refine ⟨?_, hc⟩
  simp only [List.forall_mem_cons]
  exact ⟨h1, h2, h3, h4, h5, h6, h7, h8, by simp⟩

theorem safe_stoi_to_string (n : Int32) : safe_stoi (to_string n.toInt) = n := by
  have h := stoi_to_string n [] (by simp)
  rw [List.append_nil] at h
  rw [safe_stoi, if_neg (to_string_ne_nil _), h]

/-- A byte printed as an `int` and read back. -/
theorem stoi_uint8 (k : UInt8) : stoi (to_string k.toNat) = .ok (Int32.ofNat k.toNat) := by
  have hk := k.toNat_lt
  have h := stoi_to_string (Int32.ofNat k.toNat) [] (by simp)
  rwa [List.append_nil, Int32.toInt_ofNat_of_lt (by omega)] at h

theorem castUInt8_ofNat (k : UInt8) : castUInt8 (Int32.ofNat k.toNat) = k := by
  have hk := k.toNat_lt
  have hmod : ((k.toNat : Int) % 2 ^ 8).toNat = k.toNat := by omega
  rw [castUInt8, Int32.toInt_ofNat_of_lt (by omega), UInt8.ofInt, hmod, UInt8.ofNat_toNat]

/-- What the decoder makes of a stored row. -/
theorem order_from_orderRow (id : Nat) (o : Order) :
    order_from_row (orderRow id o) =
      { order_id := o.order_id
        tenant_id := o.tenant_id
        device_id := o.device_id
        recipe_id := o.recipe_id
        cup_size := o.recipe_name
        quantity := safe_stoi o.cup_size
        total_amount := o.quantity
        payment_method := to_string o.total_amount.toInt
        status := ⟨castUInt8 (safe_stoi o.payment_method)⟩
        failure_reason := to_string o.status.val.toNat
        created_at := to_string (decimalVal o.created_at)
        recipe_name := o.failure_reason } := by
  rw [← safe_stoi_to_string o.quantity]
  rfl

/-- The same order, up to the expiry that is not stored. -/
def SameOrder (o o' : Order) : Prop := o' = { o with expired_at := o'.expired_at }

/-- The misread columns happen to agree: the texts and numbers that trade
places all are the status code. -/
structure LinesUp (o : Order) : Prop where
  recipe_name : o.recipe_name = to_string o.status.val.toNat
  cup_size : o.cup_size = to_string o.status.val.toNat
  payment_method : o.payment_method = to_string o.status.val.toNat
  failure_reason : o.failure_reason = to_string o.status.val.toNat
  quantity : o.quantity = Int32.ofNat o.status.val.toNat
  total_amount : o.total_amount = Int32.ofNat o.status.val.toNat
  created_at : o.created_at = to_string (decimalVal o.created_at)

theorem sameOrder_orderRow_iff (id : Nat) (o : Order) : SameOrder o (order_from_row (orderRow id o)) ↔ LinesUp o := by
  have hcode : safe_stoi (to_string o.status.val.toNat) = Int32.ofNat o.status.val.toNat := by
    rw [safe_stoi, if_neg (to_string_ne_nil _), stoi_uint8]
  have hk := o.status.val.toNat_lt
  rw [order_from_orderRow, SameOrder]
  constructor
  · intro h
    -- each field equals the one it is read from: a chain from the status code
    simp only [Order.mk.injEq, true_and] at h
    obtain ⟨hrecipe, hcup, hquantity, htotal, hpay, -, hcreated, hfailure⟩ := h
    have hname : o.recipe_name = to_string o.status.val.toNat := by rw [← hrecipe, hfailure]
    have hcup' : o.cup_size = to_string o.status.val.toNat := by rw [← hcup, hname]
    have hquantity' : o.quantity = Int32.ofNat o.status.val.toNat := by rw [← hquantity, hcup', hcode]
    have htotal' : o.total_amount = Int32.ofNat o.status.val.toNat := by rw [← htotal, hquantity']
    refine ⟨hname, hcup', ?_, hfailure.symm, hquantity', htotal', hcreated.symm⟩
    rw [← hpay, htotal', Int32.toInt_ofNat_of_lt (by omega)]
  · intro h
    have hstatus : castUInt8 (safe_stoi o.payment_method) = o.status.val := by
      rw [h.payment_method, hcode, castUInt8_ofNat]
    have hquantity : safe_stoi o.cup_size = o.quantity := by rw [h.cup_size, hcode, h.quantity]
    have hpay : to_string o.total_amount.toInt = o.payment_method := by
      rw [h.total_amount, Int32.toInt_ofNat_of_lt (by omega), h.payment_method]
    simp only [Order.mk.injEq, true_and]
    exact ⟨h.failure_reason.trans h.recipe_name.symm, h.recipe_name.trans h.cup_size.symm, hquantity,
      h.quantity.trans h.total_amount.symm, hpay, congrArg OrderStatus.mk hstatus, h.created_at.symm,
      h.failure_reason.symm⟩

/-- An order with a decimal creation time is stored and comes back the same
exactly when it is storable and its misread columns agree. -/
theorem order_round_trip_iff (id : Nat) (o : Order) (_h : IsDecimal o.created_at) :
    (∃ row, insert_order id o = some row ∧ SameOrder o (order_from_row row)) ↔ StorableOrder o ∧ LinesUp o := by
  constructor
  · rintro ⟨row, hrow, hsame⟩
    have hs := storable_of_insert_order hrow
    rw [insert_order_of_storable id hs] at hrow
    obtain rfl := Option.some.inj hrow
    exact ⟨hs, (sameOrder_orderRow_iff id o).1 hsame⟩
  · rintro ⟨hs, hl⟩
    exact ⟨_, insert_order_of_storable id hs, (sameOrder_orderRow_iff id o).2 hl⟩

/-- A completed order whose texts and numbers are all 3. -/
theorem order_round_trip_lines_up :
    let o : Order :=
      { order_id := "A1".toList, tenant_id := "acme".toList, device_id := "dev-1".toList
        recipe_name := ['3'], cup_size := ['3'], quantity := 3, total_amount := 3, payment_method := ['3']
        status := .COMPLETED, created_at := "1719792000".toList, failure_reason := ['3'] }
    ∃ row, insert_order 1 o = some row ∧ SameOrder o (order_from_row row) :=
  (order_round_trip_iff 1 _ (by decide)).2
    ⟨⟨by decide, by decide⟩, by constructor <;> rfl⟩

/-- A completed order for 18.00 comes back as a pending order for 0.01. -/
theorem order_round_trip_fails :
    let o : Order :=
      { order_id := "A1".toList, tenant_id := "acme".toList, device_id := "dev-1".toList
        recipe_name := "latte".toList, cup_size := "big".toList, quantity := 1, total_amount := 1800
        payment_method := "wechat".toList, status := .COMPLETED, created_at := "1719792000".toList }
    IsDecimal o.created_at ∧ ¬ ∃ row, insert_order 1 o = some row ∧ SameOrder o (order_from_row row) := by
  intro o
  refine ⟨by decide, ?_⟩
  rintro ⟨row, hrow, hsame⟩
  rw [insert_order_of_storable 1 ⟨by decide, by decide⟩] at hrow
  obtain rfl := Option.some.inj hrow
  have := ((sameOrder_orderRow_iff 1 o).1 hsame).quantity
  revert this
  decide

/-! ## Faults -/

/-- The values a fault needs for the statement to succeed. -/
structure StorableFault (f : FaultInfo) : Prop where
  texts : ∀ s ∈ [f.tenant_id, f.device_id, f.description, f.sensor_snapshot], '\x00' ∉ s
  timestamp : IsBigint f.timestamp

/-- The stored row, in column order. -/
def faultRow (id : Nat) (f : FaultInfo) : List Str :=
  [to_string id, f.tenant_id, f.device_id, to_string f.code.val.toNat, to_string f.level.val.toNat, f.description,
    to_string (decimalVal f.timestamp), ['f'], f.sensor_snapshot]

theorem insert_fault_eq (id : Nat) (f : FaultInfo) :
    insert_fault id f = (allCells [stored .text (.str f.tenant_id), stored .text (.str f.device_id),
      stored .integer (.num (to_string f.code.val.toNat)), stored .integer (.num (to_string f.level.val.toNat)),
      stored .text (.str f.description), stored .bigint (.num f.timestamp), some ['f'],
      stored .text (.str f.sensor_snapshot)]).map (to_string id :: ·) := rfl

theorem insert_fault_of_storable (id : Nat) {f : FaultInfo} (h : StorableFault f) :
    insert_fault id f = some (faultRow id f) := by
  have htexts := h.texts
  simp only [List.forall_mem_cons] at htexts
  obtain ⟨h1, h2, h3, h4, -⟩ := htexts
  rw [insert_fault_eq, stored_text h1, stored_text h2, stored_text h3, stored_text h4, stored_uint8, stored_uint8,
    stored_bigint h.timestamp]
  rfl

theorem storable_of_insert_fault {id : Nat} {f : FaultInfo} {row : List Str} (h : insert_fault id f = some row) :
    StorableFault f := by
  rw [insert_fault_eq] at h
  obtain ⟨rest, hrest, -⟩ := Option.map_eq_some_iff.1 h
  have hsome := isSome_of_allCells hrest
  simp only [List.forall_mem_cons, stored_text_isSome_iff, stored_bigint_isSome_iff] at hsome
  obtain ⟨h1, h2, -, -, h3, ht, -, h4, -⟩ := hsome
  refine ⟨?_, ht⟩
  simp only [List.forall_mem_cons]
  exact ⟨h1, h2, h3, h4, by simp⟩

/-- The decoder's time stamp: the stored one if it is a row of digits. -/
def normalized (now : Nat) (timestamp : Str) : Str :=
  if timestamp = [] ∨ timestamp = ['f'] ∨ ¬timestamp.all Char.isDigit then to_string now else timestamp

/-- Both stored levels are below 3, so every fault comes back as a warning. -/
theorem fault_from_faultRow (now id : Nat) (f : FaultInfo) :
    fault_from_row now (faultRow id f) =
      .ok { f with level := .WARNING, timestamp := normalized now (to_string (decimalVal f.timestamp)) } := by
  have hcode := stoi_uint8 f.code.val
  have hlevel := stoi_uint8 f.level.val
  have hlow : ¬ Int32.ofNat f.level.val.toNat ≥ 3 := by cases f.level <;> decide
  have hcast := castUInt8_ofNat f.code.val
  have hrow : fault_from_row now (faultRow id f) = (do
      let code ← stoi (to_string f.code.val.toNat)
      let ol ← stoi (to_string f.level.val.toNat)
      .ok { tenant_id := f.tenant_id, device_id := f.device_id, code := ⟨castUInt8 code⟩
            level := if ol ≥ 3 then .ERROR else .WARNING, description := f.description
            timestamp := normalized now (to_string (decimalVal f.timestamp)), sensor_snapshot := f.sensor_snapshot }) :=
    rfl
  rw [hrow, hcode, hlevel]
  simp only [Bind.bind, Except.bind, if_neg hlow, hcast]

/-- A printed number is kept as a time stamp unless it is negative. -/
theorem normalized_to_string (now : Nat) (n : Int) :
    normalized now (to_string n) = if 0 ≤ n then to_string n else to_string now := by
  unfold normalized
  cases n with
  | ofNat n =>
    have hne := to_string_ne_nil (.ofNat n)
    have hdigits : (to_string (.ofNat n)).all Char.isDigit := List.all_eq_true.2 fun c hc => isDigit_of_mem_toDigits hc
    have hf : to_string (.ofNat n) ≠ ['f'] := by
      intro he
      rw [he] at hdigits
      exact absurd hdigits (by decide)
    rw [if_neg (by simp only [hne, hf, hdigits]; decide), if_pos (show (0 : Int) ≤ Int.ofNat n from Int.natCast_nonneg n)]
  | negSucc n =>
    have hneg : ¬ (to_string (.negSucc n)).all Char.isDigit := by simp [to_string, Char.isDigit]
    rw [if_pos (.inr (.inr hneg)), if_neg (by omega)]

/-- A fault with a decimal time stamp is stored and comes back the same exactly
when it is a storable warning whose time stamp is not negative and printed
without leading zeros. -/
theorem fault_round_trip_iff (now id : Nat) (f : FaultInfo) (_h : IsDecimal f.timestamp) :
    (∃ row, insert_fault id f = some row ∧ fault_from_row now row = .ok f) ↔
      StorableFault f ∧ f.level = .WARNING ∧ f.timestamp = to_string (decimalVal f.timestamp) ∧
        0 ≤ decimalVal f.timestamp := by
  have hback : fault_from_row now (faultRow id f) = .ok f ↔
      f.level = .WARNING ∧ f.timestamp = to_string (decimalVal f.timestamp) ∧ 0 ≤ decimalVal f.timestamp := by
    rw [fault_from_faultRow, Except.ok.injEq]
    rw [normalized_to_string]
    constructor
    · intro h
      have hlevel := congrArg FaultInfo.level h
      have htime := congrArg FaultInfo.timestamp h
      dsimp only at hlevel htime
      split at htime
      · rename_i hpos
        exact ⟨hlevel.symm, htime.symm, hpos⟩
      · -- the clock's time is not negative
        rename_i hneg
        rw [← htime, decimalVal_to_string] at hneg
        exact absurd (Int.natCast_nonneg now) hneg
    · rintro ⟨hlevel, hcanonical, hpos⟩
      rw [if_pos hpos, ← hcanonical, ← hlevel]
  constructor
  · rintro ⟨row, hrow, hf⟩
    have hs := storable_of_insert_fault hrow
    rw [insert_fault_of_storable id hs] at hrow
    obtain rfl := Option.some.inj hrow
    exact ⟨hs, hback.1 hf⟩
  · rintro ⟨hs, hf⟩
    exact ⟨_, insert_fault_of_storable id hs, hback.2 hf⟩

/-- A warning with a plain time stamp. -/
theorem fault_round_trip_warning :
    let f : FaultInfo := { tenant_id := "acme".toList, device_id := "dev-1".toList, timestamp := "1719792000".toList }
    ∃ row, insert_fault 1 f = some row ∧ fault_from_row 0 row = .ok f :=
  (fault_round_trip_iff 0 1 _ (by decide)).2 ⟨⟨by decide, by decide⟩, rfl, by decide, by decide⟩

/-- An error comes back as a warning. -/
theorem fault_round_trip_fails :
    let f : FaultInfo :=
      { tenant_id := "acme".toList, device_id := "dev-1".toList, level := .ERROR, timestamp := "1719792000".toList }
    IsDecimal f.timestamp ∧ ¬ ∃ row, insert_fault 1 f = some row ∧ fault_from_row 0 row = .ok f := by
  intro f
  refine ⟨by decide, ?_⟩
  rintro ⟨row, hrow, hf⟩
  rw [insert_fault_of_storable 1 ⟨by decide, by decide⟩] at hrow
  obtain rfl := Option.some.inj hrow
  rw [fault_from_faultRow] at hf
  have := congrArg FaultInfo.level (Except.ok.inj hf)
  revert this
  decide

end DevSys.Database
