import DevSys.Order.Frame
/-!
# Orders listed and orders fetched

`list_all_orders` shows the history too, `get_order` looks for an order in the
current place and the queue only.
-/
open Cxx Runs

namespace DevSys.OrderManager

/-! ## Loading and seeding -/

/-- `load_from_database`, when the database lists `db`; `none` is for no database. -/
def load_listed (db : Option (List Order)) (s : OrderManager) : StatusCode × OrderManager :=
  match db with
  | none => (.STORAGE_READ_ERROR, s)
  | some orders => (.OK, { s with history_orders := s.history_orders ++ orders })

theorem load_from_database_eq (s : OrderManager) :
    s.load_from_database = s.load_listed (s.db_.map fun inserted => list_all_orders_db (orders_table inserted)) := by
  rcases s with ⟨queue, current, history, _ | inserted⟩
  · rfl
  · rfl

/-- The bytes of a text that is not ASCII. -/
def utf8 (bytes : List Nat) : Str := bytes.map Char.ofNat

def mock_queue : List Order :=
  [{ order_id := "ORD-20260626-001".toList, tenant_id := "tenant_demo".toList, device_id := "dev-coffee-001".toList
     recipe_id := "REC-AMERICANO-001".toList, cup_size := utf8 [0xe4, 0xb8, 0xad], quantity := 1
     total_amount := 1500, payment_method := "wechat".toList, status := .PENDING
     created_at := "2026-06-26T09:15:00Z".toList },
   { order_id := "ORD-20260626-002".toList, tenant_id := "tenant_demo".toList, device_id := "dev-coffee-001".toList
     recipe_id := "REC-LATTE-001".toList, cup_size := utf8 [0xe5, 0xa4, 0xa7], quantity := 2
     total_amount := 4400, payment_method := "alipay".toList, status := .PAID
     created_at := "2026-06-26T09:20:00Z".toList },
   { order_id := "ORD-20260626-003".toList, tenant_id := "tenant_demo".toList, device_id := "dev-water-001".toList
     recipe_id := "REC-HOTWATER-001".toList, cup_size := utf8 [0xe5, 0xb0, 0x8f], quantity := 1
     total_amount := 500, payment_method := "member".toList, status := .PENDING
     created_at := "2026-06-26T09:25:00Z".toList }]

def mock_history : List Order :=
  [{ order_id := "ORD-20260625-101".toList, tenant_id := "tenant_demo".toList, device_id := "dev-coffee-001".toList
     recipe_id := "REC-AMERICANO-001".toList, cup_size := utf8 [0xe4, 0xb8, 0xad], quantity := 1
     total_amount := 1500, payment_method := "wechat".toList, status := .COMPLETED
     created_at := "2026-06-25T14:30:00Z".toList },
   { order_id := "ORD-20260625-102".toList, tenant_id := "tenant_demo".toList, device_id := "dev-coffee-002".toList
     recipe_id := "REC-MOCHA-001".toList, cup_size := utf8 [0xe5, 0xa4, 0xa7], quantity := 1
     total_amount := 2800, payment_method := "alipay".toList, status := .FAILED
     failure_reason := utf8 [0xe6, 0xb0, 0xb4, 0xe6, 0xb3, 0xb5, 0xe6, 0xb5, 0x81, 0xe9, 0x87, 0x8f, 0xe5, 0xbc, 0x82,
       0xe5, 0xb8, 0xb8]
     created_at := "2026-06-25T15:10:00Z".toList },
   { order_id := "ORD-20260625-103".toList, tenant_id := "tenant_demo".toList, device_id := "dev-coffee-001".toList
     recipe_id := "REC-CAPPUCCINO-001".toList, cup_size := utf8 [0xe4, 0xb8, 0xad], quantity := 1
     total_amount := 2200, payment_method := "wechat".toList, status := .CANCELLED
     created_at := "2026-06-25T16:45:00Z".toList }]

def seed_mock_data (s : OrderManager) : OrderManager :=
  { s with order_queue := s.order_queue ++ mock_queue, history_orders := s.history_orders ++ mock_history }

/-! ## Runs -/

inductive Act where
  | op (op : Op)
  | load (db : Option (List Order))
  | seed_mock_data

def Act.apply : Act → OrderManager → OrderManager
  | .op called, s => called.apply s
  | .load db, s => (s.load_listed db).2
  | .seed_mock_data, s => s.seed_mock_data

def ActStep (s : OrderManager) (a : Act) (s' : OrderManager) : Prop := s' = a.apply s

/-- The ids of the orders that wait or are being brewed. -/
def held (s : OrderManager) : List Str := (s.current_order.toList ++ s.order_queue).map Order.order_id

/-- Every order that is listed can be fetched under its id. -/
def Fetchable (s : OrderManager) : Prop :=
  ∀ o ∈ s.list_all_orders, ∃ found, s.get_order o.order_id = some found ∧ found.order_id = o.order_id

/-- What is in the history after the act has its id waiting or being brewed as well. -/
def KeepsHeld (s : OrderManager) : Act → Prop
  | .op (.event (.create _)) | .op (.event (.confirm _)) | .op (.event (.start _)) => True
  -- no order waits under the id, or two do
  | .op (.event (.cancel order_id)) =>
    s.current_order.any (·.order_id = order_id) ∨ s.order_queue.countP (·.order_id = order_id) ≠ 1
  | .op (.event (.complete order_id)) | .op (.event (.fail order_id _)) =>
    s.current_order.any (·.order_id = order_id) → ∃ o ∈ s.order_queue, o.order_id = order_id
  | .op .emergency_stop =>
    ∀ o, s.current_order = some o → (∃ listed ∈ s.history_orders, listed.order_id = o.order_id) →
      ∃ waiting ∈ s.order_queue, waiting.order_id = o.order_id
  | .load db => ∀ o ∈ db.getD [], o.order_id ∈ s.held
  | .seed_mock_data => ∀ o ∈ mock_history, o.order_id ∈ s.held ++ mock_queue.map Order.order_id

/-! ## What can be fetched -/

theorem mem_held {s : OrderManager} {order_id : Str} :
    order_id ∈ s.held ↔
      (∃ o, s.current_order = some o ∧ o.order_id = order_id) ∨ ∃ o ∈ s.order_queue, o.order_id = order_id := by
  rw [held, List.map_append, List.mem_append, List.mem_map, List.mem_map]
  simp only [Option.mem_toList]

theorem order_id_of_get_order {s : OrderManager} {order_id : Str} {o : Order} (h : s.get_order order_id = some o) :
    o.order_id = order_id := by
  unfold get_order at h
  split at h
  · next hcur =>
    rw [h] at hcur
    exact of_decide_eq_true hcur
  · have hid := List.find?_some h
    exact of_decide_eq_true hid

theorem get_order_isSome_iff {s : OrderManager} {order_id : Str} :
    (s.get_order order_id).isSome ↔ order_id ∈ s.held := by
  rw [mem_held, get_order]
  cases hcur : s.current_order with
  | none => simp
  | some o =>
    by_cases hid : o.order_id = order_id
    · simp [hid]
    · simp [hid]

theorem fetchable_iff {s : OrderManager} : Fetchable s ↔ ∀ o ∈ s.history_orders, o.order_id ∈ s.held := by
  constructor
  · intro h o ho
    obtain ⟨found, hfound, -⟩ := h o (List.mem_append_right _ ho)
    exact get_order_isSome_iff.1 (Option.isSome_of_eq_some hfound)
  · intro h o ho
    have hheld : o.order_id ∈ s.held := by
      rcases List.mem_append.1 ho with hplaced | hlisted
      · exact List.mem_map_of_mem hplaced
      · exact h o hlisted
    obtain ⟨found, hfound⟩ := Option.isSome_iff_exists.1 (get_order_isSome_iff.2 hheld)
    exact ⟨found, hfound, order_id_of_get_order hfound⟩

/-! ## One act -/

/-- No id gets lost: only what is new in the history matters. -/
theorem fetchable_added {s s' : OrderManager} (hs : Fetchable s) (new : List Order)
    (hhistory : s'.history_orders = s.history_orders ++ new) (hheld : ∀ id ∈ s.held, id ∈ s'.held) :
    Fetchable s' ↔ ∀ o ∈ new, o.order_id ∈ s'.held := by
  rw [fetchable_iff] at hs
  rw [fetchable_iff, hhistory, List.forall_mem_append]
  exact ⟨fun h => h.2, fun h => ⟨fun o ho => hheld _ (hs o ho), h⟩⟩

/-- An order under one id is taken away: only what the history has under it matters. -/
theorem fetchable_taken {s s' : OrderManager} (hs : Fetchable s) (order_id : Str) (new : List Order)
    (hhistory : s'.history_orders = s.history_orders ++ new) (hnew : ∀ o ∈ new, o.order_id = order_id)
    (hheld : ∀ id ∈ s.held, id = order_id ∨ id ∈ s'.held) :
    Fetchable s' ↔ ((∃ o ∈ s'.history_orders, o.order_id = order_id) → order_id ∈ s'.held) := by
  rw [fetchable_iff] at hs
  rw [fetchable_iff]
  constructor
  · rintro h ⟨o, ho, rfl⟩
    exact h o ho
  · intro h o ho
    by_cases hid : o.order_id = order_id
    · rw [hid]
      exact h ⟨o, ho, hid⟩
    · rw [hhistory] at ho
      rcases List.mem_append.1 ho with hold | hadded
      · exact (hheld _ (hs o hold)).resolve_left hid
      · exact absurd (hnew o hadded) hid

theorem held_confirm {s : OrderManager} (order_id : Str) :
    (s.confirm_payment order_id).2.held = s.held ∧ (s.confirm_payment order_id).2.history_orders = s.history_orders := by
  unfold confirm_payment
  cases s.order_queue.findIdx? (·.order_id = order_id) with
  | none => exact ⟨rfl, rfl⟩
  | some i =>
    refine ⟨?_, rfl⟩
    rw [held, held, List.map_append, List.map_append, FirstMatch.map_modify]
    exact fun o => rfl

theorem held_start {s : OrderManager} (order_id : Str) :
    (s.start_brewing order_id).2.held.Perm s.held ∧
      (s.start_brewing order_id).2.history_orders = s.history_orders := by
  unfold start_brewing
  split
  · exact ⟨List.Perm.refl _, rfl⟩
  · next hcur =>
    rw [Option.not_isSome_iff_eq_none] at hcur
    cases h : s.order_queue.find? (·.order_id = order_id) with
    | none => exact ⟨List.Perm.refl _, rfl⟩
    | some o =>
      refine ⟨?_, rfl⟩
      have hperm := (FirstMatch.perm_cons_eraseP h).map Order.order_id
      rw [held, held, hcur]
      exact hperm.symm

/-- What waits after the first order under an id has left. -/
theorem held_without {s : OrderManager} {order_id : Str} {o : Order}
    (h : s.order_queue.find? (·.order_id = order_id) = some o) {id : Str} (hid : id ∈ s.held) :
    id = order_id ∨ id ∈ held { s with order_queue := s.order_queue.eraseP (·.order_id = order_id) } := by
  rw [held, List.map_append, List.mem_append] at hid ⊢
  rcases hid with hcur | hwaiting
  · exact .inr (.inl hcur)
  · have hperm := (FirstMatch.perm_cons_eraseP h).map Order.order_id
    rcases List.mem_cons.1 (hperm.subset hwaiting) with rfl | hrest
    · have hmatch := List.find?_some h
      exact .inl (of_decide_eq_true hmatch)
    · exact .inr (.inr hrest)

theorem fetchable_cancel {s : OrderManager} (hs : Fetchable s) (order_id : Str) :
    Fetchable (s.cancel_order order_id).2 ↔
      s.current_order.any (·.order_id = order_id) ∨ s.order_queue.countP (·.order_id = order_id) ≠ 1 := by
  unfold cancel_order
  by_cases hcur : s.current_order.any (·.order_id = order_id)
  · rw [if_pos hcur]
    exact iff_of_true hs (.inl hcur)
  · rw [if_neg hcur, or_iff_right hcur]
    cases h : s.order_queue.find? (·.order_id = order_id) with
    | none =>
      refine iff_of_true hs ?_
      have hzero : s.order_queue.countP (·.order_id = order_id) = 0 :=
        List.countP_eq_zero.2 (List.find?_eq_none.1 h)
      omega
    | some o =>
      have hmatch := List.find?_some h
      have hpos : 0 < s.order_queue.countP (·.order_id = order_id) :=
        List.countP_pos_iff.2 ⟨o, List.mem_of_find?_eq_some h, hmatch⟩
      have hid : o.order_id = order_id := of_decide_eq_true hmatch
      -- the order moves to the history, where `get_order` does not look
      let s' : OrderManager := { s with
        order_queue := s.order_queue.eraseP (·.order_id = order_id)
        history_orders := s.history_orders ++ [{ o with status := .CANCELLED }] }
      have htaken : Fetchable s' ↔ _ :=
        fetchable_taken hs order_id [{ o with status := .CANCELLED }] rfl (by simpa using hid) fun id => held_without h
      dsimp only [s'] at htaken ⊢
      rw [htaken]
      have hlisted : ∃ listed ∈ s.history_orders ++ [{ o with status := OrderStatus.CANCELLED }],
          listed.order_id = order_id := ⟨_, List.mem_append_right _ (List.mem_singleton_self _), hid⟩
      rw [imp_iff_right hlisted, mem_held]
      have hnone : ¬ ∃ o, s.current_order = some o ∧ o.order_id = order_id := by
        rintro ⟨cur, hsome, hcurid⟩
        rw [hsome] at hcur
        exact hcur (decide_eq_true hcurid)
      rw [or_iff_right hnone]
      have hleft := FirstMatch.exists_mem_eraseP_iff (p := fun o : Order => o.order_id = order_id) s.order_queue
      simp only [decide_eq_true_eq] at hleft
      rw [hleft]
      omega

/-- The current order leaves its place; `new` is put to the history. -/
theorem fetchable_finish {s : OrderManager} {o : Order} (hs : Fetchable s) (new : List Order)
    (hcur : s.current_order = some o) (hnew : ∀ added ∈ new, added.order_id = o.order_id) :
    Fetchable { s with current_order := none, history_orders := s.history_orders ++ new } ↔
      ((∃ listed ∈ s.history_orders ++ new, listed.order_id = o.order_id) →
        ∃ waiting ∈ s.order_queue, waiting.order_id = o.order_id) := by
  rw [fetchable_taken hs o.order_id new rfl hnew]
  · rw [mem_held]
    simp
  · intro id hid
    rw [mem_held] at hid ⊢
    rcases hid with ⟨cur, hsome, rfl⟩ | hwaiting
    · rw [hcur] at hsome
      rw [Option.some.inj hsome]
      exact .inl rfl
    · exact .inr (.inr hwaiting)

/-- What `complete_brewing` and `fail_brewing` have in common. -/
theorem fetchable_brewed {s : OrderManager} (hs : Fetchable s) (order_id : Str) (rewrite : Order → Order)
    (hrewrite : ∀ o, (rewrite o).order_id = o.order_id) {s' : OrderManager}
    (h : s' = match s.current_order with
      | none => s
      | some cur =>
        if cur.order_id ≠ order_id then s
        else { s with current_order := none, history_orders := s.history_orders ++ [rewrite cur] }) :
    Fetchable s' ↔
      (s.current_order.any (·.order_id = order_id) → ∃ o ∈ s.order_queue, o.order_id = order_id) := by
  cases hcur : s.current_order with
  | none =>
    rw [hcur] at h
    rw [h]
    exact iff_of_true hs (by simp)
  | some cur =>
    rw [hcur] at h
    dsimp only at h
    by_cases hid : cur.order_id = order_id
    · rw [if_neg (not_not.2 hid)] at h
      rw [h, fetchable_finish hs [rewrite cur] hcur (by simpa using hrewrite cur)]
      have hlisted : ∃ listed ∈ s.history_orders ++ [rewrite cur], listed.order_id = cur.order_id :=
        ⟨_, List.mem_append_right _ (List.mem_singleton_self _), hrewrite cur⟩
      rw [imp_iff_right hlisted, hid]
      simp [hid]
    · rw [if_pos hid] at h
      rw [h]
      exact iff_of_true hs (by simp [hid])

/-- An act keeps the orders fetchable exactly when it keeps what the history
shows waiting or being brewed. -/
theorem fetchable_act {s : OrderManager} (hs : Fetchable s) (a : Act) : Fetchable (a.apply s) ↔ KeepsHeld s a := by
  rcases a with (e | _) | db | _
  · cases e with
    | create order =>
      rw [KeepsHeld, Act.apply, Op.apply, Event.apply, create_order]
      split
      · exact iff_of_true hs trivial
      · refine iff_of_true ((fetchable_added hs [] ?_ ?_).2 fun o ho => by cases ho) trivial
        · exact (List.append_nil _).symm
        · intro id hid
          rw [held, List.map_append] at hid ⊢
          rw [List.map_append, ← List.append_assoc]
          exact List.mem_append_left _ hid
    | confirm order_id =>
      obtain ⟨hheld, hhistory⟩ := held_confirm (s := s) order_id
      rw [KeepsHeld, Act.apply, Op.apply, Event.apply, fetchable_added hs [] (by rw [hhistory, List.append_nil])]
      · simp
      · rw [hheld]
        exact fun id hid => hid
    | start order_id =>
      obtain ⟨hheld, hhistory⟩ := held_start (s := s) order_id
      rw [KeepsHeld, Act.apply, Op.apply, Event.apply, fetchable_added hs [] (by rw [hhistory, List.append_nil])]
      · simp
      · exact fun id hid => hheld.symm.subset hid
    | cancel order_id => exact fetchable_cancel hs order_id
    | complete order_id =>
      refine fetchable_brewed hs order_id ({ · with status := .COMPLETED }) (fun _ => rfl) ?_
      rw [Act.apply, Op.apply, Event.apply, complete_brewing]
      rcases s.current_order with _ | cur
      · rfl
      · dsimp only
        split <;> rfl
    | fail order_id reason =>
      refine fetchable_brewed hs order_id ({ · with status := .FAILED, failure_reason := reason }) (fun _ => rfl) ?_
      rw [Act.apply, Op.apply, Event.apply, fail_brewing]
      rcases s.current_order with _ | cur
      · rfl
      · dsimp only
        split <;> rfl
  · rw [KeepsHeld, Act.apply, Op.apply, emergency_stop]
    cases hcur : s.current_order with
    | none =>
      have hsame : { s with current_order := none } = s := by rw [← hcur]
      dsimp only
      rw [hsame]
      exact iff_of_true hs fun o ho => by cases ho
    | some o =>
      have hfinish := fetchable_finish hs [] hcur fun o ho => by cases ho
      rw [List.append_nil] at hfinish
      dsimp only
      rw [hfinish]
      simp
  · rw [KeepsHeld, Act.apply]
    cases db with
    | none => exact iff_of_true hs fun o ho => by cases ho
    | some orders => exact fetchable_added hs orders rfl fun id hid => hid
  · rw [KeepsHeld, Act.apply, seed_mock_data]
    have hheld : held { s with order_queue := s.order_queue ++ mock_queue
                               history_orders := s.history_orders ++ mock_history } =
        s.held ++ mock_queue.map Order.order_id := by
      rw [held, held, ← List.append_assoc, List.map_append]
    rw [fetchable_added hs mock_history rfl, hheld]
    intro id hid
    rw [hheld]
    exact List.mem_append_left _ hid

/-! ## Every run -/

/-- In every state of a run from an empty manager on all listed orders can be
fetched, exactly when every act of the run keeps what the history shows waiting
or being brewed. -/
theorem fetchable_run_iff {db : Option (List Order)} {tr : List (OrderManager × Act)} {s : OrderManager}
    (h : Run ActStep { db_ := db } tr s) :
    (∀ p ∈ tr, Fetchable p.1) ∧ Fetchable s ↔ ∀ p ∈ tr, KeepsHeld p.1 p.2 := by
  refine h.all_iff (fun _ => True) Fetchable KeepsHeld trivial ?_ (fun _ _ _ _ _ => trivial) ?_
  · exact fetchable_iff.2 nofun
  · rintro s a s' - hs rfl
    exact fetchable_act hs a

/-- An order that is paid for and brewed, while a second one waits under its id. -/
theorem fetchable_run_brewed :
    let s₁ := (({} : OrderManager).create_order paid_order).2
    let s₂ := (s₁.create_order paid_order).2
    let s₃ := (s₂.confirm_payment "o-1".toList).2
    let s₄ := (s₃.start_brewing "o-1".toList).2
    let s₅ := (s₄.complete_brewing "o-1".toList).2
    s₅.history_orders.length = 1 ∧ Fetchable s₅ := by
  intro s₁ s₂ s₃ s₄ s₅
  have hrun : Run ActStep {}
      [({}, .op (.event (.create paid_order))), (s₁, .op (.event (.create paid_order))),
        (s₂, .op (.event (.confirm "o-1".toList))), (s₃, .op (.event (.start "o-1".toList))),
        (s₄, .op (.event (.complete "o-1".toList)))] s₅ :=
    ((((Run.nil.snoc rfl).snoc rfl).snoc rfl).snoc rfl).snoc rfl
  refine ⟨by decide, ((fetchable_run_iff hrun).2 ?_).2⟩
  simp only [List.forall_mem_cons]
  have hwaits : ∃ o ∈ s₄.order_queue, o.order_id = "o-1".toList := by decide
  exact ⟨trivial, trivial, trivial, trivial, fun _ => hwaits, List.forall_mem_nil _⟩

/-- A cancelled order is still listed, and cannot be fetched. -/
theorem fetchable_fails : ∃ tr s, Run ActStep {} tr s ∧ ∃ o ∈ s.list_all_orders, s.get_order o.order_id = none := by
  have hcreate : ActStep {} (.op (.event (.create paid_order))) (({} : OrderManager).create_order paid_order).2 := rfl
  refine ⟨_, _, (Run.nil.snoc hcreate).snoc (e := .op (.event (.cancel "o-1".toList))) rfl, ?_⟩
  exact ⟨{ paid_order with status := .CANCELLED }, by decide, by decide⟩

end DevSys.OrderManager
