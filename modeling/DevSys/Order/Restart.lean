import DevSys.Lib.FirstMatch
import DevSys.Lib.Rows
import DevSys.Lib.Runs
import DevSys.Order.OrderManager
import Mathlib.Data.Multiset.ZeroCons
/-!
# Orders across a restart

Only `create_order` writes to the orders table. `update_order_status` has no
caller, so a row keeps the status and the failure reason it was inserted with.
-/
open Cxx Runs

namespace DevSys.OrderManager

/-! ## The orders table -/

/-- The rows of the table after the inserts, by serial id. -/
def orders_table (inserted : List Order) : List Order :=
  inserted.foldl (fun t o => Rows.upsert Order.order_id o t) []

/-- `SELECT * FROM orders ORDER BY id DESC`. -/
def list_all_orders_db (t : List Order) : List Order := t.reverse

def load_from_database (s : OrderManager) : StatusCode × OrderManager :=
  match s.db_ with
  | none => (.STORAGE_READ_ERROR, s)
  | some inserted =>
    (.OK, { s with history_orders := s.history_orders ++ list_all_orders_db (orders_table inserted) })

/-- A fresh manager on the same database. -/
def restart (s : OrderManager) : OrderManager := (load_from_database { db_ := s.db_ }).2

/-! ## Runs -/

inductive Event where
  | create (order : Order)
  | confirm (order_id : Str)
  | cancel (order_id : Str)
  | start (order_id : Str)
  | complete (order_id : Str)
  | fail (order_id reason : Str)

def Event.apply : Event → OrderManager → OrderManager
  | .create order, s => (s.create_order order).2
  | .confirm order_id, s => (s.confirm_payment order_id).2
  | .cancel order_id, s => (s.cancel_order order_id).2
  | .start order_id, s => (s.start_brewing order_id).2
  | .complete order_id, s => (s.complete_brewing order_id).2
  | .fail order_id reason, s => (s.fail_brewing order_id reason).2

/-- A created order has an id of its own and a decimal time stamp. -/
def Event.Proper (s : OrderManager) : Event → Prop
  | .create order => order.order_id ∉ (s.db_.getD []).map Order.order_id ∧ IsDecimal order.created_at
  | _ => True

def Step (s : OrderManager) (e : Event) (s' : OrderManager) : Prop := e.Proper s ∧ s' = e.apply s

/-- What is compared of an order. -/
def progress (o : Order) : Str × OrderStatus × Str := (o.order_id, o.status, o.failure_reason)

/-- After a restart the same orders are listed, with the same progress. -/
def Survives (s : OrderManager) : Prop := (s.restart.list_all_orders.map progress).Perm (s.list_all_orders.map progress)

/-- The order an event changes, and what it makes of it. -/
def rewritten (s : OrderManager) : Event → Option (Order × Order)
  | .create _ => none
  | .confirm order_id =>
    (s.order_queue.find? (·.order_id = order_id)).map fun o => (o, { o with status := .PAID })
  | .cancel order_id =>
    if s.current_order.any (·.order_id = order_id) then none
    else (s.order_queue.find? (·.order_id = order_id)).map fun o => (o, { o with status := .CANCELLED })
  | .start order_id =>
    if s.current_order.isSome then none
    else (s.order_queue.find? (·.order_id = order_id)).map fun o => (o, { o with status := .BREWING })
  | .complete order_id =>
    (s.current_order.filter (·.order_id = order_id)).map fun o => (o, { o with status := .COMPLETED })
  | .fail order_id reason =>
    (s.current_order.filter (·.order_id = order_id)).map fun o =>
      (o, { o with status := .FAILED, failure_reason := reason })

/-- The order that is changed, if any, has the status and the failure reason already. -/
def Idle (s : OrderManager) (e : Event) : Prop :=
  ∀ p ∈ s.rewritten e, p.1.status = p.2.status ∧ p.1.failure_reason = p.2.failure_reason

/-! ## What the operations change -/

/-- An order takes the place of another, and nothing is written. -/
def Replaces (s s' : OrderManager) (o o' : Order) : Prop :=
  s'.db_ = s.db_ ∧ ∃ rest, s.list_all_orders.Perm (o :: rest) ∧ s'.list_all_orders.Perm (o' :: rest)

theorem perm_cons_middle {α : Type} {l l' : List α} {x : α} (h : l.Perm (x :: l')) (a b : List α) :
    (a ++ l ++ b).Perm (x :: (a ++ l' ++ b)) := by
  refine ((h.append_left a).append_right b).trans ?_
  rw [List.append_assoc, List.cons_append, List.append_assoc]
  exact List.perm_middle

theorem perm_cons_last {α : Type} (l : List α) (x : α) : (l ++ [x]).Perm (x :: l) := List.perm_append_singleton x l

/-- The waiting order with this id is marked as paid. -/
theorem replaces_confirm {s : OrderManager} {order_id : Str} {o : Order}
    (h : s.order_queue.find? (·.order_id = order_id) = some o) :
    Replaces s (s.confirm_payment order_id).2 o { o with status := .PAID } := by
  unfold confirm_payment
  cases hi : s.order_queue.findIdx? (·.order_id = order_id) with
  | none =>
    have hnone := List.findIdx?_eq_none_iff.1 hi o (List.mem_of_find?_eq_some h)
    rw [List.find?_some h] at hnone
    cases hnone
  | some i =>
    refine ⟨rfl, s.current_order.toList ++ s.order_queue.eraseP (·.order_id = order_id) ++ s.history_orders, ?_, ?_⟩
    · exact perm_cons_middle (FirstMatch.perm_cons_eraseP h) _ _
    · exact perm_cons_middle (FirstMatch.modify_perm hi h) _ _

/-- The waiting order with this id moves to the history. -/
theorem replaces_cancel {s : OrderManager} {order_id : Str} {o : Order}
    (hcur : ¬ s.current_order.any (·.order_id = order_id)) (h : s.order_queue.find? (·.order_id = order_id) = some o) :
    Replaces s (s.cancel_order order_id).2 o { o with status := .CANCELLED } := by
  unfold cancel_order
  rw [if_neg hcur, h]
  refine ⟨rfl, s.current_order.toList ++ s.order_queue.eraseP (·.order_id = order_id) ++ s.history_orders, ?_, ?_⟩
  · exact perm_cons_middle (FirstMatch.perm_cons_eraseP h) _ _
  · rw [list_all_orders]
    dsimp only
    rw [← List.append_assoc]
    exact perm_cons_last _ _

/-- The waiting order with this id becomes the current one. -/
theorem replaces_start {s : OrderManager} {order_id : Str} {o : Order} (hcur : s.current_order = none)
    (h : s.order_queue.find? (·.order_id = order_id) = some o) :
    Replaces s (s.start_brewing order_id).2 o { o with status := .BREWING } := by
  unfold start_brewing
  rw [hcur, h]
  refine ⟨rfl, s.order_queue.eraseP (·.order_id = order_id) ++ s.history_orders, ?_, List.Perm.refl _⟩
  rw [list_all_orders, hcur]
  exact perm_cons_middle (FirstMatch.perm_cons_eraseP h) [] _

/-- The current order moves to the history, as `o'`. -/
theorem replaces_finish {s s' : OrderManager} {o o' : Order} (hcur : s.current_order = some o)
    (h : s' = { s with current_order := none, history_orders := s.history_orders ++ [o'] }) : Replaces s s' o o' := by
  subst h
  refine ⟨rfl, s.order_queue ++ s.history_orders, ?_, ?_⟩
  · rw [list_all_orders, hcur]
    exact List.Perm.refl _
  · rw [list_all_orders, ← List.append_assoc]
    exact perm_cons_last _ _

/-- An event changes nothing, replaces an order by itself with another
progress, or creates an order. -/
theorem apply_cases (s : OrderManager) (e : Event) :
    (s.rewritten e = none ∧ e.apply s = s) ∨
    (∃ o o', s.rewritten e = some (o, o') ∧ o'.order_id = o.order_id ∧ Replaces s (e.apply s) o o') ∨
    (∃ o, e = .create o ∧ s.order_queue.length < ORDER_MAX_QUEUE_DEPTH ∧
      e.apply s = { s with order_queue := s.order_queue ++ [o], db_ := s.db_.map (· ++ [o]) }) := by
  cases e with
  | create o =>
    by_cases hroom : s.order_queue.length < ORDER_MAX_QUEUE_DEPTH
    · exact .inr (.inr ⟨o, rfl, hroom, by rw [Event.apply, create_order_room hroom]⟩)
    · exact .inl ⟨rfl, by rw [Event.apply, create_order_full (Nat.not_lt.1 hroom)]⟩
  | confirm order_id =>
    cases h : s.order_queue.find? (·.order_id = order_id) with
    | none =>
      refine .inl ⟨by rw [rewritten, h]; rfl, ?_⟩
      have hi : s.order_queue.findIdx? (·.order_id = order_id) = none := by
        rw [List.findIdx?_eq_none_iff]
        simpa using h
      rw [Event.apply, confirm_payment, hi]
    | some o =>
      exact .inr (.inl ⟨o, { o with status := .PAID }, by rw [rewritten, h]; rfl, rfl, replaces_confirm h⟩)
  | cancel order_id =>
    by_cases hcur : s.current_order.any (·.order_id = order_id)
    · exact .inl ⟨by rw [rewritten, if_pos hcur], by rw [Event.apply, cancel_order, if_pos hcur]⟩
    · cases h : s.order_queue.find? (·.order_id = order_id) with
      | none =>
        exact .inl ⟨by rw [rewritten, if_neg hcur, h]; rfl, by rw [Event.apply, cancel_order, if_neg hcur, h]⟩
      | some o =>
        exact .inr (.inl ⟨o, { o with status := .CANCELLED }, by rw [rewritten, if_neg hcur, h]; rfl, rfl,
          replaces_cancel hcur h⟩)
  | start order_id =>
    by_cases hcur : s.current_order.isSome
    · exact .inl ⟨by rw [rewritten, if_pos hcur], by rw [Event.apply, start_brewing, if_pos hcur]⟩
    · cases h : s.order_queue.find? (·.order_id = order_id) with
      | none =>
        exact .inl ⟨by rw [rewritten, if_neg hcur, h]; rfl, by rw [Event.apply, start_brewing, if_neg hcur, h]⟩
      | some o =>
        refine .inr (.inl ⟨o, { o with status := .BREWING }, by rw [rewritten, if_neg hcur, h]; rfl, rfl,
          replaces_start ?_ h⟩)
        simpa using hcur
  | complete order_id =>
    rw [rewritten, Event.apply, complete_brewing]
    cases hcur : s.current_order with
    | none => exact .inl ⟨rfl, rfl⟩
    | some o =>
      by_cases hid : o.order_id = order_id
      · refine .inr (.inl ⟨o, { o with status := .COMPLETED }, by simp [hid], rfl, replaces_finish hcur ?_⟩)
        dsimp only
        rw [if_neg (not_not.2 hid)]
      · refine .inl ⟨by simp [hid], ?_⟩
        dsimp only
        rw [if_pos hid]
  | fail order_id reason =>
    rw [rewritten, Event.apply, fail_brewing]
    cases hcur : s.current_order with
    | none => exact .inl ⟨rfl, rfl⟩
    | some o =>
      by_cases hid : o.order_id = order_id
      · refine .inr (.inl ⟨o, { o with status := .FAILED, failure_reason := reason }, by simp [hid], rfl,
          replaces_finish hcur ?_⟩)
        dsimp only
        rw [if_neg (not_not.2 hid)]
      · refine .inl ⟨by simp [hid], ?_⟩
        dsimp only
        rw [if_pos hid]

/-! ## The table keeps what was inserted -/

/-- The inserted orders have different ids, and they are the orders listed. -/
structure Inserted (s : OrderManager) (inserted : List Order) : Prop where
  db : s.db_ = some inserted
  nodup : (inserted.map Order.order_id).Nodup

theorem restart_list {s : OrderManager} {inserted : List Order} (h : Inserted s inserted) :
    s.restart.list_all_orders = inserted.reverse := by
  rw [restart, load_from_database, h.db]
  show list_all_orders_db (orders_table inserted) = inserted.reverse
  rw [list_all_orders_db, orders_table, Rows.foldl_upsert_of_nodup h.nodup]

theorem survives_iff {s : OrderManager} {inserted : List Order} (h : Inserted s inserted) :
    Survives s ↔ (inserted.map progress).Perm (s.list_all_orders.map progress) := by
  unfold Survives
  rw [restart_list h, List.map_reverse]
  exact ⟨(List.reverse_perm _).symm.trans, (List.reverse_perm _).trans⟩

theorem inserted_step {s s' : OrderManager} {e : Event} {inserted : List Order} (hi : Inserted s inserted)
    (h : Step s e s') : ∃ inserted', Inserted s' inserted' := by
  obtain ⟨hproper, rfl⟩ := h
  rcases apply_cases s e with ⟨-, heq⟩ | ⟨o, o', -, -, hdb, -⟩ | ⟨o, rfl, -, heq⟩
  · rw [heq]
    exact ⟨inserted, hi⟩
  · exact ⟨inserted, hdb.trans hi.db, hi.nodup⟩
  · refine ⟨inserted ++ [o], ?_, ?_⟩
    · rw [heq, hi.db]
      rfl
    · have hfresh := hproper.1
      rw [hi.db] at hfresh
      rw [List.map_append, List.map_singleton]
      exact hi.nodup.append (List.nodup_singleton _) (List.disjoint_singleton.2 hfresh)

theorem perm_cons_iff_eq {α : Type} {a b : α} {l : List α} : (a :: l).Perm (b :: l) ↔ a = b := by
  rw [← Multiset.coe_eq_coe, ← Multiset.cons_coe, ← Multiset.cons_coe, Multiset.cons_inj_left]

/-- A step keeps memory and table in step exactly when it changes no progress. -/
theorem survives_step {s s' : OrderManager} {e : Event} {inserted : List Order} (hi : Inserted s inserted)
    (hs : Survives s) (h : Step s e s') : Survives s' ↔ Idle s e := by
  obtain ⟨inserted', hi'⟩ := inserted_step hi h
  rw [survives_iff hi] at hs
  obtain ⟨-, rfl⟩ := h
  rcases apply_cases s e with ⟨hnone, heq⟩ | ⟨o, o', hsome, hid, hdb, rest, hbefore, hafter⟩ | ⟨o, rfl, -, heq⟩
  · rw [heq, survives_iff hi, Idle, hnone]
    exact iff_of_true hs (by simp)
  · have hins : inserted' = inserted := by
      have := hi'.db
      rw [hdb, hi.db] at this
      exact (Option.some.inj this).symm
    rw [survives_iff hi', hins, Idle, hsome]
    -- both lists have the other orders in common
    have hcommon : (inserted.map progress).Perm ((e.apply s).list_all_orders.map progress) ↔
        progress o = progress o' := by
      rw [← perm_cons_iff_eq (l := rest.map progress)]
      exact ⟨fun hp => ((hbefore.map progress).symm.trans hs.symm).trans (hp.trans (hafter.map progress)),
        fun hp => (hs.trans (hbefore.map progress)).trans (hp.trans (hafter.map progress).symm)⟩
    rw [hcommon]
    simp [progress, hid]
  · have hins : inserted' = inserted ++ [o] := by
      have := hi'.db
      rw [heq, hi.db] at this
      exact (Option.some.inj this).symm
    rw [survives_iff hi', hins, heq]
    refine iff_of_true ?_ (by simp [Idle, rewritten])
    rw [list_all_orders, List.map_append, List.map_singleton]
    refine (perm_cons_last _ _).trans ((hs.cons _).trans ?_)
    rw [← List.map_cons]
    refine List.Perm.map _ ?_
    exact (perm_cons_middle (perm_cons_last s.order_queue o) s.current_order.toList s.history_orders).symm

/-- From an empty system on, the orders survive a restart after every step of a
run exactly when no step of it changes the progress of an order. -/
theorem orders_survive_iff {tr : List (OrderManager × Event)} {s : OrderManager}
    (h : Run Step { db_ := some [] } tr s) :
    (∀ p ∈ tr, Survives p.1) ∧ Survives s ↔ ∀ p ∈ tr, Idle p.1 p.2 := by
  have hempty : Inserted { db_ := some [] } [] := ⟨rfl, List.nodup_nil⟩
  refine Run.all_iff (fun s => ∃ inserted, Inserted s inserted) Survives Idle ⟨[], hempty⟩ ?_ ?_ ?_ h
  · exact (survives_iff hempty).2 (List.Perm.refl _)
  · rintro s e s' ⟨inserted, hi⟩ hstep
    exact inserted_step hi hstep
  · rintro s e s' ⟨inserted, hi⟩ hs hstep
    exact survives_step hi hs hstep

def paid_order : Order := { order_id := "o-1".toList, created_at := "1751234567".toList }

theorem step_paid_order : Step { db_ := some [] } (.create paid_order) (create_order paid_order { db_ := some [] }).2 := by
  refine ⟨⟨?_, ?_⟩, rfl⟩
  · decide
  · decide

/-- An order that is paid for when it is created, the payment confirmed again, and
an order that is not there cancelled. -/
theorem orders_survive_confirmed :
    let s₁ := (create_order { paid_order with status := .PAID } { db_ := some [] }).2
    let s₂ := (s₁.confirm_payment "o-1".toList).2
    Survives (s₂.cancel_order "o-2".toList).2 := by
  intro s₁ s₂
  have hcreate : Step { db_ := some [] } (.create { paid_order with status := .PAID }) s₁ := by
    refine ⟨⟨?_, ?_⟩, rfl⟩
    · decide
    · decide
  have hconfirm : Step s₁ (.confirm "o-1".toList) s₂ := ⟨trivial, rfl⟩
  have hcancel : Step s₂ (.cancel "o-2".toList) (s₂.cancel_order "o-2".toList).2 := ⟨trivial, rfl⟩
  refine ((orders_survive_iff (((Run.nil.snoc hcreate).snoc hconfirm).snoc hcancel)).2 ?_).2
  simp only [List.nil_append, List.cons_append, List.forall_mem_cons]
  refine ⟨?_, ?_, ?_, List.forall_mem_nil _⟩
  · exact nofun
  · unfold Idle
    decide
  · unfold Idle
    decide

/-- A payment confirmed before the restart is forgotten by it. -/
theorem orders_survive_fails : ∃ tr s, Run Step { db_ := some [] } tr s ∧ ¬ Survives s := by
  let s := (create_order paid_order { db_ := some [] }).2
  have hconfirm : Step s (.confirm "o-1".toList) (s.confirm_payment "o-1".toList).2 := ⟨trivial, rfl⟩
  refine ⟨_, _, (Run.nil.snoc step_paid_order).snoc hconfirm, ?_⟩
  unfold Survives
  decide

end DevSys.OrderManager
