import DevSys.Order.Restart
/-!
# Orders are conserved

Each operation moves an order between the queue, the current place and the
history. `emergency_stop` takes the current order out and puts it nowhere.
-/
open Cxx Runs
open scoped List

namespace DevSys.OrderManager

/-! ## Runs with emergency stops -/

inductive Op where
  | event (e : Event)
  | emergency_stop

def Op.apply : Op → OrderManager → OrderManager
  | .event e, s => e.apply s
  | .emergency_stop, s => s.emergency_stop.2

def OpStep (s : OrderManager) (op : Op) (s' : OrderManager) : Prop := s' = op.apply s

def order_ids (s : OrderManager) : List Str := s.list_all_orders.map Order.order_id

/-- The id of the order that a call creates; none if the call is refused. -/
def created (s : OrderManager) : Op → Option Str
  | .event (.create order) => if (s.create_order order).1 = .OK then some order.order_id else none
  | _ => none

/-- The id of the order that a call drops. -/
def dropped (s : OrderManager) : Op → Option Str
  | .emergency_stop => s.current_order.map Order.order_id
  | _ => none

/-- The ids of the orders created in a run. -/
def created_ids (tr : List (OrderManager × Op)) : List Str := tr.filterMap fun p => created p.1 p.2

def dropped_ids (tr : List (OrderManager × Op)) : List Str := tr.filterMap fun p => dropped p.1 p.2

/-- The orders listed are those that were created. -/
def Conserved (tr : List (OrderManager × Op)) (s : OrderManager) : Prop := s.order_ids.Perm (created_ids tr)

/-! ## One operation -/

theorem order_ids_of_replaces {s s' : OrderManager} {o o' : Order} (h : Replaces s s' o o')
    (hid : o'.order_id = o.order_id) : s'.order_ids.Perm s.order_ids := by
  obtain ⟨-, rest, hbefore, hafter⟩ := h
  have hb := hbefore.map Order.order_id
  have ha := hafter.map Order.order_id
  rw [List.map_cons] at hb ha
  rw [hid] at ha
  exact ha.trans hb.symm

theorem order_ids_create_order {s : OrderManager} (h : s.order_queue.length < ORDER_MAX_QUEUE_DEPTH) (o : Order) :
    (s.create_order o).2.order_ids.Perm (o.order_id :: s.order_ids) := by
  rw [create_order_room h]
  have hmiddle := perm_cons_middle (perm_cons_last s.order_queue o) s.current_order.toList s.history_orders
  exact hmiddle.map Order.order_id

/-- What is listed after an operation, and what it drops, was listed before or is created. -/
theorem order_ids_apply (s : OrderManager) (op : Op) :
    ((op.apply s).order_ids ++ (dropped s op).toList).Perm (s.order_ids ++ (created s op).toList) := by
  cases op with
  | emergency_stop =>
    have hcreated : created s .emergency_stop = none := rfl
    rw [Op.apply, emergency_stop, dropped, hcreated, Option.toList_none, List.append_nil]
    cases hcur : s.current_order with
    | none => simp [order_ids, list_all_orders, hcur]
    | some o =>
      simp only [order_ids, list_all_orders, hcur, Option.toList_none, Option.toList_some, List.nil_append,
        Option.map_some, List.cons_append, List.map_cons]
      exact perm_cons_last _ _
  | event e =>
    have hdropped : dropped s (.event e) = none := rfl
    rw [Op.apply, hdropped, Option.toList_none, List.append_nil]
    rcases apply_cases s e with ⟨-, heq⟩ | ⟨o, o', hsome, hid, hreplaces⟩ | ⟨o, rfl, hroom, -⟩
    · have hcreated : created s (.event e) = none := by
        cases e with
        | create o =>
          by_cases hroom : s.order_queue.length < ORDER_MAX_QUEUE_DEPTH
          · rw [Event.apply, create_order_room hroom] at heq
            have hlen := congrArg (·.order_queue.length) heq
            simp at hlen
          · rw [created, create_order_full (Nat.not_lt.1 hroom)]
            rfl
        | _ => rfl
      rw [heq, hcreated, Option.toList_none, List.append_nil]
    · have hcreated : created s (.event e) = none := by
        cases e with
        | create o => cases hsome
        | _ => rfl
      rw [hcreated, Option.toList_none, List.append_nil]
      exact order_ids_of_replaces hreplaces hid
    · have hcreated : created s (.event (.create o)) = some o.order_id := by
        rw [created, create_order_room hroom]
        rfl
      rw [hcreated, Option.toList_some]
      exact (order_ids_create_order hroom o).trans (perm_cons_last _ _).symm

/-! ## Runs -/

theorem perm_append_swap {α : Type} (a b c : List α) : (a ++ b ++ c).Perm (a ++ c ++ b) := by
  rw [List.append_assoc, List.append_assoc]
  exact List.perm_append_comm.append_left a

theorem filterMap_concat {α β : Type} (f : α → Option β) (l : List α) (a : α) :
    (l ++ [a]).filterMap f = l.filterMap f ++ (f a).toList := by
  rw [List.filterMap_append]
  cases h : f a <;> simp [h]

/-- What a run created is listed or was dropped. -/
theorem order_ids_run {db : Option (List Order)} {tr : List (OrderManager × Op)} {s : OrderManager}
    (h : Run OpStep { db_ := db } tr s) : (s.order_ids ++ dropped_ids tr).Perm (created_ids tr) := by
  induction h with
  | nil => exact List.Perm.refl _
  | @snoc tr s op s' _ hstep ih =>
    obtain rfl : s' = op.apply s := hstep
    have hone := order_ids_apply s op
    rw [dropped_ids, created_ids, filterMap_concat, filterMap_concat, ← List.append_assoc]
    calc (op.apply s).order_ids ++ dropped_ids tr ++ (dropped s op).toList
      _ ~ (op.apply s).order_ids ++ (dropped s op).toList ++ dropped_ids tr := perm_append_swap _ _ _
      _ ~ s.order_ids ++ (created s op).toList ++ dropped_ids tr := hone.append_right _
      _ ~ s.order_ids ++ dropped_ids tr ++ (created s op).toList := perm_append_swap _ _ _
      _ ~ created_ids tr ++ (created s op).toList := ih.append_right _

/-- The orders of a run are conserved exactly when no emergency stop finds a
current order. -/
theorem conserved_iff {db : Option (List Order)} {tr : List (OrderManager × Op)} {s : OrderManager}
    (h : Run OpStep { db_ := db } tr s) :
    Conserved tr s ↔ ∀ p ∈ tr, p.2 = .emergency_stop → p.1.current_order = none := by
  have hrun := order_ids_run h
  have hnone : dropped_ids tr = [] ↔ ∀ p ∈ tr, p.2 = .emergency_stop → p.1.current_order = none := by
    rw [dropped_ids, List.filterMap_eq_nil_iff]
    refine forall_congr' fun p => forall_congr' fun _ => ?_
    rcases p with ⟨s, e | _⟩ <;> simp [dropped]
  rw [Conserved, ← hnone]
  constructor
  · intro hc
    have hlen := (hrun.trans hc.symm).length_eq
    rw [List.length_append] at hlen
    exact List.length_eq_zero_iff.1 (by omega)
  · intro hd
    rwa [hd, List.append_nil] at hrun

/-! ## A stop while brewing -/

/-- One of two orders is brewed to the end before the emergency stop. -/
theorem conserved_brewed :
    let second : Order := { paid_order with order_id := "o-2".toList }
    let s₁ := (create_order paid_order {}).2
    let s₂ := (s₁.create_order second).2
    let s₃ := (s₂.start_brewing "o-1".toList).2
    let s₄ := (s₃.complete_brewing "o-1".toList).2
    Conserved
      [({}, .event (.create paid_order)), (s₁, .event (.create second)), (s₂, .event (.start "o-1".toList)),
        (s₃, .event (.complete "o-1".toList)), (s₄, .emergency_stop)] s₄.emergency_stop.2 := by
  intro second s₁ s₂ s₃ s₄
  have h : Run OpStep { db_ := none }
      [({}, .event (.create paid_order)), (s₁, .event (.create second)), (s₂, .event (.start "o-1".toList)),
        (s₃, .event (.complete "o-1".toList)), (s₄, .emergency_stop)] s₄.emergency_stop.2 :=
    ((((Run.nil.snoc rfl).snoc rfl).snoc rfl).snoc rfl).snoc rfl
  refine (conserved_iff h).2 ?_
  simp only [List.forall_mem_cons]
  exact ⟨nofun, nofun, nofun, nofun, fun _ => rfl, List.forall_mem_nil _⟩

/-- An order that was being brewed is listed nowhere after an emergency stop. -/
theorem conserved_fails : ∃ tr s, Run OpStep {} tr s ∧ ¬ Conserved tr s := by
  let s₁ := (create_order paid_order {}).2
  let s₂ := (s₁.start_brewing "o-1".toList).2
  have h : Run OpStep {} [({}, .event (.create paid_order)), (s₁, .event (.start "o-1".toList)), (s₂, .emergency_stop)]
      s₂.emergency_stop.2 := ((Run.nil.snoc rfl).snoc rfl).snoc rfl
  refine ⟨_, _, h, fun hc => ?_⟩
  have hlen := hc.length_eq
  revert hlen
  decide

end DevSys.OrderManager
