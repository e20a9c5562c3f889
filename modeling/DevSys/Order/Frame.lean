import DevSys.Order.Conservation
/-!
# What a call to the order manager leaves alone

An order is in one of three places: waiting in the queue, being brewed, or in the
history. A call that is not refused takes one order from a place to a place.
-/
open Cxx Runs

namespace DevSys.OrderManager

/-! ## Calls and places -/

def Event.call : Event → OrderManager → StatusCode × OrderManager
  | .create order, s => s.create_order order
  | .confirm order_id, s => s.confirm_payment order_id
  | .cancel order_id, s => s.cancel_order order_id
  | .start order_id, s => s.start_brewing order_id
  | .complete order_id, s => s.complete_brewing order_id
  | .fail order_id reason, s => s.fail_brewing order_id reason

theorem apply_eq_call (e : Event) (s : OrderManager) : e.apply s = (e.call s).2 := by cases e <;> rfl

inductive Place where
  | waiting (i : Nat)
  | current
  | history (i : Nat)
  deriving DecidableEq

/-- The order at a place. -/
def at_place (s : OrderManager) : Place → Option Order
  | .waiting i => s.order_queue[i]?
  | .current => s.current_order
  | .history i => s.history_orders[i]?

/-- Queue, current order and history, without the order at a place. -/
def without (s : OrderManager) : Option Place → List Order × Option Order × List Order
  | none => (s.order_queue, s.current_order, s.history_orders)
  | some (.waiting i) => (s.order_queue.eraseIdx i, s.current_order, s.history_orders)
  | some .current => (s.order_queue, none, s.history_orders)
  | some (.history i) => (s.order_queue, s.current_order, s.history_orders.eraseIdx i)

/-- The id that a call names. -/
def Event.order_id : Event → Str
  | .create order => order.order_id
  | .confirm order_id | .cancel order_id | .start order_id | .complete order_id => order_id
  | .fail order_id _ => order_id

/-- The place a call takes its order from: the first one waiting under the id, or
the current one. A created order is nowhere yet. -/
def source (s : OrderManager) : Event → Option Place
  | .create _ => none
  | .confirm order_id | .cancel order_id | .start order_id =>
    (s.order_queue.findIdx? (·.order_id = order_id)).map .waiting
  | .complete _ | .fail _ _ => some .current

/-- The place a call puts its order. -/
def destination (s : OrderManager) : Event → Place
  | .create _ => .waiting s.order_queue.length
  | .confirm order_id => .waiting (s.order_queue.findIdx (·.order_id = order_id))
  | .start _ => .current
  | .cancel _ | .complete _ | .fail _ _ => .history s.history_orders.length

/-- What a call makes of its order. -/
def Event.rewrite : Event → Order → Order
  | .create _, o => o
  | .confirm _, o => { o with status := .PAID }
  | .cancel _, o => { o with status := .CANCELLED }
  | .start _, o => { o with status := .BREWING }
  | .complete _, o => { o with status := .COMPLETED }
  | .fail _ reason, o => { o with status := .FAILED, failure_reason := reason }

/-- `o` is the order that a call creates, or the one it finds at its place. -/
def Subject (s : OrderManager) (e : Event) (o : Order) : Prop :=
  match s.source e with
  | none => e = .create o
  | some p => s.at_place p = some o ∧ o.order_id = e.order_id

/-- One order is taken from a place and put to a place; the others stay as they are. -/
structure Framed (s : OrderManager) (e : Event) (s' : OrderManager) : Prop where
  acted : ∃ o, Subject s e o ∧ s'.at_place (s.destination e) = some (e.rewrite o)
  others : s'.without (some (s.destination e)) = s.without (s.source e)

/-! ## Every call is refused or framed -/

theorem waiting_of_findIdx? {s : OrderManager} {order_id : Str} {i : Nat}
    (h : s.order_queue.findIdx? (·.order_id = order_id) = some i) :
    ∃ o, s.order_queue[i]? = some o ∧ s.order_queue.find? (·.order_id = order_id) = some o ∧ o.order_id = order_id := by
  obtain ⟨o, hget, hfind⟩ := FirstMatch.find?_of_findIdx? h
  have hid := List.find?_some hfind
  exact ⟨o, hget, hfind, of_decide_eq_true hid⟩

theorem find?_of_findIdx?_none {s : OrderManager} {order_id : Str}
    (h : s.order_queue.findIdx? (·.order_id = order_id) = none) :
    s.order_queue.find? (·.order_id = order_id) = none := by
  rw [List.findIdx?_eq_none_iff] at h
  rw [List.find?_eq_none]
  intro o ho hid
  rw [h o ho] at hid
  cases hid

/-- Erasing the first match is erasing at its index. -/
theorem eraseP_of_findIdx? {order_id : Str} {l : List Order} {i : Nat}
    (h : l.findIdx? (·.order_id = order_id) = some i) : l.eraseP (·.order_id = order_id) = l.eraseIdx i := by
  rw [List.eraseP_eq_eraseIdx, h]

theorem framed_create {s : OrderManager} (h : s.order_queue.length < ORDER_MAX_QUEUE_DEPTH) (o : Order) :
    Framed s (.create o) (s.create_order o).2 := by
  rw [create_order_room h]
  refine ⟨⟨o, rfl, ?_⟩, ?_⟩
  · exact List.getElem?_concat_length
  · rw [destination, without, source, without, List.eraseIdx_append_of_length_le (Nat.le_refl _), Nat.sub_self]
    simp

theorem framed_confirm {s : OrderManager} {order_id : Str} {i : Nat}
    (h : s.order_queue.findIdx? (·.order_id = order_id) = some i) :
    Framed s (.confirm order_id) { s with order_queue := s.order_queue.modify i ({ · with status := .PAID }) } := by
  obtain ⟨o, hget, -, hid⟩ := waiting_of_findIdx? h
  have hidx : s.order_queue.findIdx (·.order_id = order_id) = i := (List.findIdx?_eq_some_iff_findIdx_eq.1 h).2
  refine ⟨⟨o, ?_, ?_⟩, ?_⟩
  · rw [Subject, source, h]
    exact ⟨hget, hid⟩
  · rw [destination, hidx, at_place, List.getElem?_modify_eq, hget]
    rfl
  · rw [destination, hidx, source, h, Option.map_some, without, without, List.eraseIdx_modify_of_eq]

theorem framed_cancel {s : OrderManager} {order_id : Str} {i : Nat} {o : Order}
    (h : s.order_queue.findIdx? (·.order_id = order_id) = some i) (ho : s.order_queue[i]? = some o)
    (hid : o.order_id = order_id) :
    Framed s (.cancel order_id) { s with
      order_queue := s.order_queue.eraseP (·.order_id = order_id)
      history_orders := s.history_orders ++ [{ o with status := .CANCELLED }] } := by
  refine ⟨⟨o, ?_, ?_⟩, ?_⟩
  · rw [Subject, source, h]
    exact ⟨ho, hid⟩
  · exact List.getElem?_concat_length
  · rw [destination, without, source, h, Option.map_some, without,
      List.eraseIdx_append_of_length_le (Nat.le_refl _), Nat.sub_self]
    simp [eraseP_of_findIdx? h]

theorem framed_start {s : OrderManager} {order_id : Str} {i : Nat} {o : Order} (hcur : s.current_order = none)
    (h : s.order_queue.findIdx? (·.order_id = order_id) = some i) (ho : s.order_queue[i]? = some o)
    (hid : o.order_id = order_id) :
    Framed s (.start order_id) { s with
      order_queue := s.order_queue.eraseP (·.order_id = order_id)
      current_order := some { o with status := .BREWING } } := by
  refine ⟨⟨o, ?_, rfl⟩, ?_⟩
  · rw [Subject, source, h]
    exact ⟨ho, hid⟩
  · rw [destination, without, source, h, Option.map_some, without, hcur, eraseP_of_findIdx? h]

/-- `complete` and `fail` put the current order to the history. -/
theorem framed_finish {s : OrderManager} {e : Event} {o : Order} (hsource : s.source e = some .current)
    (hdest : s.destination e = .history s.history_orders.length) (hcur : s.current_order = some o)
    (hid : o.order_id = e.order_id) :
    Framed s e { s with current_order := none, history_orders := s.history_orders ++ [e.rewrite o] } := by
  refine ⟨⟨o, ?_, ?_⟩, ?_⟩
  · rw [Subject, hsource]
    exact ⟨hcur, hid⟩
  · rw [hdest]
    exact List.getElem?_concat_length
  · rw [hdest, hsource, without, without, List.eraseIdx_append_of_length_le (Nat.le_refl _), Nat.sub_self]
    simp

theorem refused {sc : StatusCode} (h : sc ≠ .OK) (s : OrderManager) : (sc, s).1 ≠ .OK ∧ (sc, s).2 = s := ⟨h, rfl⟩

/-- A call is refused and changes nothing, or takes one order from a place to a place. -/
theorem call_spec (s : OrderManager) (e : Event) :
    ((e.call s).1 ≠ .OK ∧ (e.call s).2 = s) ∨ ((e.call s).1 = .OK ∧ Framed s e (e.call s).2) := by
  cases e with
  | create o =>
    rw [Event.call]
    by_cases hroom : s.order_queue.length < ORDER_MAX_QUEUE_DEPTH
    · exact .inr ⟨by rw [create_order_room hroom], framed_create hroom o⟩
    · rw [create_order_full (Nat.not_lt.1 hroom)]
      exact .inl (refused (by decide) s)
  | confirm order_id =>
    rw [Event.call, confirm_payment]
    cases h : s.order_queue.findIdx? (·.order_id = order_id) with
    | none => exact .inl (refused (by decide) s)
    | some i => exact .inr ⟨rfl, framed_confirm h⟩
  | cancel order_id =>
    rw [Event.call, cancel_order]
    by_cases hcur : s.current_order.any (·.order_id = order_id)
    · rw [if_pos hcur]
      exact .inl (refused (by decide) s)
    · rw [if_neg hcur]
      cases h : s.order_queue.findIdx? (·.order_id = order_id) with
      | none =>
        rw [find?_of_findIdx?_none h]
        exact .inl (refused (by decide) s)
      | some i =>
        obtain ⟨o, hget, hfind, hid⟩ := waiting_of_findIdx? h
        rw [hfind]
        exact .inr ⟨rfl, framed_cancel h hget hid⟩
  | start order_id =>
    rw [Event.call, start_brewing]
    by_cases hcur : s.current_order.isSome
    · rw [if_pos hcur]
      exact .inl (refused (by decide) s)
    · rw [if_neg hcur]
      cases h : s.order_queue.findIdx? (·.order_id = order_id) with
      | none =>
        rw [find?_of_findIdx?_none h]
        exact .inl (refused (by decide) s)
      | some i =>
        obtain ⟨o, hget, hfind, hid⟩ := waiting_of_findIdx? h
        rw [hfind]
        exact .inr ⟨rfl, framed_start (Option.not_isSome_iff_eq_none.1 hcur) h hget hid⟩
  | complete order_id =>
    rw [Event.call, complete_brewing]
    cases hcur : s.current_order with
    | none => exact .inl (refused (by decide) s)
    | some o =>
      by_cases hid : o.order_id = order_id
      · dsimp only
        rw [if_neg (not_not.2 hid)]
        exact .inr ⟨rfl, framed_finish rfl rfl hcur hid⟩
      · dsimp only
        rw [if_pos hid]
        exact .inl (refused (by decide) s)
  | fail order_id reason =>
    rw [Event.call, fail_brewing]
    cases hcur : s.current_order with
    | none => exact .inl (refused (by decide) s)
    | some o =>
      by_cases hid : o.order_id = order_id
      · dsimp only
        rw [if_neg (not_not.2 hid)]
        exact .inr ⟨rfl, framed_finish rfl rfl hcur hid⟩
      · dsimp only
        rw [if_pos hid]
        exact .inl (refused (by decide) s)

/-! ## Runs -/

/-- Orders are created as pending, or as completed. -/
def Event.CreatesFresh (e : Event) : Prop := ∀ o, e = .create o → o.status = .PENDING ∨ o.status = .COMPLETED

def CallStep (s : OrderManager) (e : Event) (s' : OrderManager) : Prop := e.CreatesFresh ∧ s' = (e.call s).2

/-- The queue has its bound, and an order that is not the current one is not being brewed. -/
structure Orderly (s : OrderManager) : Prop where
  depth : s.order_queue.length ≤ ORDER_MAX_QUEUE_DEPTH
  brewing : ∀ o ∈ s.order_queue ++ s.history_orders, o.status ≠ .BREWING

theorem mem_eraseIdx_or {α : Type} {l : List α} {i : Nat} {a b : α} (ha : a ∈ l) (hb : l[i]? = some b) :
    a ∈ l.eraseIdx i ∨ a = b := by
  obtain ⟨j, hj⟩ := List.mem_iff_getElem?.1 ha
  by_cases hij : j = i
  · subst hij
    rw [hj] at hb
    exact .inr (Option.some.inj hb)
  · exact .inl (List.mem_eraseIdx_iff_getElem?.2 ⟨j, hij, hj⟩)

/-- An order in the queue or the history is at a given place, or among the others. -/
theorem mem_without_or {s : OrderManager} {p : Place} {o x : Order} (h : s.at_place p = some o)
    (hx : x ∈ s.order_queue ++ s.history_orders) :
    x ∈ (s.without (some p)).1 ++ (s.without (some p)).2.2 ∨ (x = o ∧ p ≠ .current) := by
  rw [List.mem_append] at hx
  cases p with
  | current => exact .inl (List.mem_append.2 hx)
  | waiting i =>
    rcases hx with hx | hx
    · rcases mem_eraseIdx_or hx h with hx | rfl
      · exact .inl (List.mem_append_left _ hx)
      · exact .inr ⟨rfl, nofun⟩
    · exact .inl (List.mem_append_right _ hx)
  | history i =>
    rcases hx with hx | hx
    · exact .inl (List.mem_append_left _ hx)
    · rcases mem_eraseIdx_or hx h with hx | rfl
      · exact .inl (List.mem_append_right _ hx)
      · exact .inr ⟨rfl, nofun⟩

theorem mem_of_mem_without {s : OrderManager} {p : Option Place} {x : Order}
    (hx : x ∈ (s.without p).1 ++ (s.without p).2.2) : x ∈ s.order_queue ++ s.history_orders := by
  rw [List.mem_append] at hx ⊢
  rcases p with _ | _ | _ | i
  · exact hx
  · exact hx.imp_left List.mem_of_mem_eraseIdx
  · exact hx
  · exact hx.imp_right List.mem_of_mem_eraseIdx

/-- How many of the orders at a place wait. -/
def Place.waits : Option Place → Nat
  | some (.waiting _) => 1
  | _ => 0

theorem length_without {s : OrderManager} {p : Place} {o : Order} (h : s.at_place p = some o) :
    (s.without (some p)).1.length + Place.waits (some p) = s.order_queue.length := by
  cases p with
  | current => rfl
  | history i => rfl
  | waiting i =>
    obtain ⟨hi, -⟩ := List.getElem?_eq_some_iff.1 h
    rw [without, Place.waits, List.length_eraseIdx_of_lt hi]
    omega

theorem length_of_framed {s s' : OrderManager} {e : Event} (h : Framed s e s') :
    s'.order_queue.length + Place.waits (s.source e) = s.order_queue.length + Place.waits (some (s.destination e)) := by
  obtain ⟨⟨o, hsubject, hafter⟩, hothers⟩ := h
  have hlen := length_without hafter
  rw [hothers] at hlen
  have hbefore : (s.without (s.source e)).1.length + Place.waits (s.source e) = s.order_queue.length := by
    unfold Subject at hsubject
    cases hsource : s.source e with
    | none => rfl
    | some p =>
      rw [hsource] at hsubject
      exact length_without hsubject.1
  omega

/-- Only a created order is put to the queue from elsewhere. -/
theorem waits_le {s : OrderManager} {e : Event} {o : Order} (h : Subject s e o) (he : ∀ o, e ≠ .create o) :
    Place.waits (some (s.destination e)) ≤ Place.waits (s.source e) := by
  cases e with
  | create order => exact absurd rfl (he order)
  | confirm order_id =>
    rw [Subject] at h
    rw [source] at h ⊢
    cases hi : s.order_queue.findIdx? (·.order_id = order_id) with
    | none =>
      rw [hi] at h
      cases h
    | some i => exact Nat.le_refl _
  | cancel | start | complete | fail => exact Nat.zero_le _

/-- The order of a call was being brewed only if it was the current one. -/
theorem rewrite_status {s : OrderManager} {e : Event} (he : e.CreatesFresh) {o : Order} (ho : Subject s e o)
    (hdest : s.destination e ≠ .current) : (e.rewrite o).status ≠ .BREWING := by
  cases e with
  | create order =>
    obtain rfl : order = o := Event.create.inj ho
    rcases he order rfl with h | h
    · rw [Event.rewrite, h]
      decide
    · rw [Event.rewrite, h]
      decide
  | start order_id => exact absurd rfl hdest
  | confirm | cancel | complete | fail => exact of_decide_eq_true rfl

theorem depth_call {s : OrderManager} (e : Event) (hs : s.order_queue.length ≤ ORDER_MAX_QUEUE_DEPTH) :
    (e.call s).2.order_queue.length ≤ ORDER_MAX_QUEUE_DEPTH := by
  rcases call_spec s e with ⟨-, heq⟩ | ⟨hok, hframed⟩
  · rw [heq]
    exact hs
  · have hlen := length_of_framed hframed
    obtain ⟨⟨o, hsubject, -⟩, -⟩ := hframed
    by_cases he : ∃ order, e = .create order
    · obtain ⟨order, rfl⟩ := he
      have hroom : s.order_queue.length < ORDER_MAX_QUEUE_DEPTH := by
        by_contra hfull
        rw [Event.call, create_order_full (Nat.not_lt.1 hfull)] at hok
        cases hok
      have hsource : Place.waits (s.source (.create order)) = 0 := rfl
      have hdest : Place.waits (some (s.destination (.create order))) = 1 := rfl
      omega
    · have hle := waits_le hsubject (not_exists.1 he)
      omega

theorem orderly_call {s : OrderManager} {e : Event} (he : e.CreatesFresh) (hs : Orderly s) : Orderly (e.call s).2 := by
  refine ⟨depth_call e hs.depth, ?_⟩
  rcases call_spec s e with ⟨-, heq⟩ | ⟨-, ⟨o, hsubject, hafter⟩, hothers⟩
  · rw [heq]
    exact hs.brewing
  · intro x hx
    rcases mem_without_or hafter hx with hx | ⟨rfl, hdest⟩
    · rw [hothers] at hx
      exact hs.brewing x (mem_of_mem_without hx)
    · exact rewrite_status he hsubject hdest

theorem orderly_run {db : Option (List Order)} {tr : List (OrderManager × Event)} {s : OrderManager}
    (h : Run CallStep { db_ := db } tr s) : Orderly s := by
  induction h with
  | nil => exact ⟨Nat.zero_le _, nofun⟩
  | snoc _ hstep ih =>
    obtain ⟨he, rfl⟩ := hstep
    exact orderly_call he ih

/-- A call that is refused changes nothing, one that is not leaves all orders but
one alone, and from an empty manager on the queue keeps its bound and only the
current order is being brewed. -/
theorem calls_framed (db : Option (List Order)) :
    (∀ s e, (Event.call e s).1 ≠ .OK → (Event.call e s).2 = s) ∧
    (∀ s e, (Event.call e s).1 = .OK → Framed s e (Event.call e s).2) ∧
    ∀ tr s, Run CallStep { db_ := db } tr s →
      s.order_queue.length ≤ 10 ∧ ∀ o ∈ s.order_queue ++ s.history_orders, o.status ≠ .BREWING := by
  refine ⟨?_, ?_, ?_⟩
  · intro s e hrefused
    rcases call_spec s e with ⟨-, heq⟩ | ⟨hok, -⟩
    · exact heq
    · exact absurd hok hrefused
  · intro s e hok
    rcases call_spec s e with ⟨hrefused, -⟩ | ⟨-, hframed⟩
    · exact absurd hok hrefused
    · exact hframed
  · intro tr s hrun
    have horderly := orderly_run hrun
    exact ⟨horderly.depth, horderly.brewing⟩

/-- Of two orders under one id the first is brewed, and the other stays. -/
theorem calls_framed_repeated : ∃ s, Framed s (.start "o-1".toList) ((Event.start "o-1".toList).call s).2 ∧
    ((Event.start "o-1".toList).call s).2.order_queue = [{ paid_order with quantity := 2 }] := by
  let s : OrderManager := { order_queue := [paid_order, { paid_order with quantity := 2 }] }
  refine ⟨s, (calls_framed none).2.1 s _ ?_, ?_⟩
  · decide
  · decide

end DevSys.OrderManager
