import DevSys.Router.Homes
/-!
# Heartbeats and migrations at the same time

A heartbeat resolves the tenant of its device first and uses it later, each
under a lock of its own. A migration in between is undone in part: the device
is registered again where it was.
-/
open Cxx Runs

namespace DevSys.MessageRouter
open DeviceManager

/-- A `handle_heartbeat` under way: the arguments that are evaluated. -/
structure Heartbeat where
  tenant : Option Str := none
  product : Option Str := none
  deriving DecidableEq

/-- The devices and any number of heartbeats under way. -/
structure Traffic where
  device_mgr_ : DeviceManager := {}
  heartbeats : Nat → Heartbeat := fun _ => {}

def Traffic.set (s : Traffic) (i : Nat) (h : Heartbeat) : Traffic :=
  { s with heartbeats := Function.update s.heartbeats i h }

/-- Evaluating an argument, in either order, the call, and a migration. -/
inductive Act where
  | tenant (i : Nat)
  | product (i : Nat)
  | process (now : Int) (payload : Str) (i : Nat)
  | migrate (new_tenant : Str)

/-- What happens for the device `d`. -/
inductive Acts (d : Str) : Traffic → Act → Traffic → Prop
  | tenant {s i h} : s.heartbeats i = h → h.tenant = none →
      Acts d s (.tenant i) (s.set i { h with tenant := some (resolve_tenant (some s.device_mgr_) d) })
  | product {s i h} : s.heartbeats i = h → h.product = none →
      Acts d s (.product i) (s.set i { h with product := some (resolve_product (some s.device_mgr_) d) })
  | process {s now payload i t p} : s.heartbeats i = ⟨some t, some p⟩ →
      Acts d s (.process now payload i)
        ({ s with device_mgr_ := s.device_mgr_.process_heartbeat now t d p payload }.set i {})
  | migrate {s new} : Acts d s (.migrate new) { s with device_mgr_ := (s.device_mgr_.migrate_device d new).2 }

/-- The device is stored under one tenant, `t`. -/
def StoredUnder (d t : Str) (s : DeviceManager) : Prop := ∀ t', (s.rec? t' d).isSome ↔ t' = t

/-- The target of the last migration, or else the original tenant. -/
def home (t : Str) (tr : List (Traffic × Act)) : Str :=
  tr.foldl (fun t p => match p.2 with | .migrate new => new | _ => t) t

/-- At every moment the device is stored at home only. -/
def StaysHome (d t : Str) (tr : List (Traffic × Act)) (s : Traffic) : Prop :=
  (∀ pre u a post, tr = pre ++ (u, a) :: post → StoredUnder d (home t pre) u.device_mgr_) ∧
    StoredUnder d (home t tr) s.device_mgr_

/-- The device is still stored under the tenant that the heartbeat resolved. -/
def Timely (d : Str) (s : Traffic) : Act → Prop
  | .process _ _ i => ∀ t ∈ (s.heartbeats i).tenant, (s.device_mgr_.rec? t d).isSome
  | _ => True

/-! ## Undisturbed -/

/-- A heartbeat that has resolved its device. -/
def Traffic.resolve (s : Traffic) (i : Nat) (d : Str) : Traffic :=
  s.set i ⟨some (resolve_tenant (some s.device_mgr_) d), some (resolve_product (some s.device_mgr_) d)⟩

theorem run_resolve {s : Traffic} {i : Nat} (hi : s.heartbeats i = {}) (d : Str) :
    ∃ u, Run (Acts d) s [(s, .tenant i), (u, .product i)] (s.resolve i d) := by
  let u := s.set i ⟨some (resolve_tenant (some s.device_mgr_) d), none⟩
  have htenant : Acts d s (.tenant i) u := .tenant hi rfl
  have hset : u.heartbeats i = ⟨some (resolve_tenant (some s.device_mgr_) d), none⟩ := Function.update_self ..
  have hproduct : Acts d u (.product i)
      (u.set i ⟨some (resolve_tenant (some s.device_mgr_) d), some (resolve_product (some s.device_mgr_) d)⟩) :=
    .product hset rfl
  have hboth : u.set i ⟨some (resolve_tenant (some s.device_mgr_) d), some (resolve_product (some s.device_mgr_) d)⟩ =
      s.resolve i d := by
    simp only [u, Traffic.set, Traffic.resolve, Function.update_idem]
  rw [hboth] at hproduct
  exact ⟨u, (Run.nil.snoc htenant).snoc hproduct⟩

/-- The steps of one heartbeat in a row are `handle_heartbeat`. -/
theorem run_handle_heartbeat {s : Traffic} {r : MessageRouter} {i : Nat} (hr : r.device_mgr_ = some s.device_mgr_)
    (hi : s.heartbeats i = {}) (now : Int) (pt : ParsedTopic) (payload : Str) :
    ∃ tr s', Run (Acts pt.device_id) s tr s' ∧ tr.map (·.2) = [.tenant i, .product i, .process now payload i] ∧
      (handle_heartbeat now pt payload r).device_mgr_ = some s'.device_mgr_ ∧ s'.heartbeats = s.heartbeats := by
  obtain ⟨u, hresolve⟩ := run_resolve hi pt.device_id
  have hset : (s.resolve i pt.device_id).heartbeats i = ⟨_, _⟩ := Function.update_self ..
  refine ⟨_, _, .snoc hresolve (.process hset), rfl, ?_, ?_⟩
  · rw [handle_heartbeat, hr]
    rfl
  · simp only [Traffic.set, Traffic.resolve, Function.update_idem]
    rw [← hi, Function.update_eq_self]

/-! ## One act -/

theorem home_snoc (t : Str) (tr : List (Traffic × Act)) (s : Traffic) (a : Act) :
    home t (tr ++ [(s, a)]) = match a with | .migrate new => new | _ => home t tr := by
  rw [home, List.foldl_append]
  rfl

/-- A migration takes the device from its tenant to the new one. -/
theorem storedUnder_migrate {d t : Str} {s : DeviceManager} (h : StoredUnder d t s) (new : Str) :
    StoredUnder d new (s.migrate_device d new).2 := by
  obtain ⟨dev, hdev⟩ := Option.isSome_iff_exists.1 ((h t).2 rfl)
  have hl := locate_of_unique hdev fun t' => (h t').1
  intro t'
  rw [migrate_device_rec? hl, rec?_unstore]
  by_cases ht : t' = new
  · simp [ht]
  · rw [if_neg fun hne => ht hne.1, iff_false_right ht]
    split
    · simp
    · rename_i hne
      rw [h t']
      exact fun heq => hne ⟨heq, rfl⟩

/-- A heartbeat keeps the device at home exactly when it is stored under the
tenant that it is called with. -/
theorem storedUnder_process_iff {d t : Str} {s : DeviceManager} (h : StoredUnder d t s) (now : Int)
    (t' product payload : Str) :
    StoredUnder d t (s.process_heartbeat now t' d product payload) ↔ (s.rec? t' d).isSome := by
  simp only [StoredUnder, process_heartbeat_rec?, and_true]
  rw [h t']
  constructor
  · intro hall
    exact (hall t').1 (by rw [if_pos rfl]; rfl)
  · rintro rfl t''
    split
    · rename_i heq
      simp [heq]
    · exact h t''

theorem storedUnder_act_iff {d t : Str} {tr : List (Traffic × Act)} {s s' : Traffic} {a : Act}
    (hs : StoredUnder d (home t tr) s.device_mgr_) (h : Acts d s a s') :
    StoredUnder d (home t (tr ++ [(s, a)])) s'.device_mgr_ ↔ Timely d s a := by
  rw [home_snoc]
  cases h with
  | tenant => exact iff_of_true hs trivial
  | product => exact iff_of_true hs trivial
  | @process now payload i t' product hi =>
    rw [Timely, hi]
    simp only [Option.mem_some_iff, forall_eq']
    exact storedUnder_process_iff hs now t' product payload
  | migrate => exact iff_of_true (storedUnder_migrate hs _) trivial

/-! ## Any interleaving -/

/-- The device is at home at every moment exactly when each heartbeat that is
processed finds it under the tenant that it resolved. -/
theorem staysHome_iff {d t : Str} {s₀ : Traffic} (h₀ : StoredUnder d t s₀.device_mgr_) {tr : List (Traffic × Act)}
    {s : Traffic} (h : Run (Acts d) s₀ tr s) : StaysHome d t tr s ↔ ∀ p ∈ tr, Timely d p.1 p.2 :=
  h.throughout_iff (fun tr s => StoredUnder d (home t tr) s.device_mgr_) (Timely d) h₀
    fun _ _ _ _ => storedUnder_act_iff

/-! ## A migration in between -/

/-- A device of the tenant `acme`. -/
def one_device : Traffic where
  device_mgr_ := store {} "acme".toList "dev-1".toList
    { tenant_id := "acme".toList, device_id := "dev-1".toList, product_id := "p-1".toList }

theorem storedUnder_one_device : StoredUnder "dev-1".toList "acme".toList one_device.device_mgr_ := by
  intro t
  simp only [one_device, rec?_store, rec?_empty, and_true]
  split
  · rename_i ht
    exact iff_of_true rfl ht
  · rename_i ht
    exact iff_of_false Bool.false_ne_true ht

theorem resolved_one_device :
    (one_device.resolve 0 "dev-1".toList).heartbeats 0 = ⟨some "acme".toList, some "p-1".toList⟩ := by
  decide

/-- The heartbeat is processed before the migration. -/
theorem staysHome_process_first :
    ∃ tr s, tr.map (·.2) = [.tenant 0, .product 0, .process 0 [] 0, .migrate "globex".toList] ∧
      StaysHome "dev-1".toList "acme".toList tr s := by
  obtain ⟨u, hresolve⟩ := run_resolve (s := one_device) (i := 0) rfl "dev-1".toList
  have hprocess : Acts "dev-1".toList (one_device.resolve 0 "dev-1".toList) (.process 0 [] 0) _ :=
    .process resolved_one_device
  have hrun := (hresolve.snoc hprocess).snoc (@Acts.migrate "dev-1".toList _ "globex".toList)
  refine ⟨_, _, rfl, (staysHome_iff storedUnder_one_device hrun).2 ?_⟩
  rw [List.forall_mem_append, List.forall_mem_append, List.forall_mem_singleton, List.forall_mem_singleton,
    List.forall_mem_cons, List.forall_mem_singleton]
  refine ⟨⟨⟨trivial, trivial⟩, fun t ht => ?_⟩, trivial⟩
  rw [resolved_one_device] at ht
  rw [← Option.some.inj ht]
  exact (storedUnder_one_device _).2 rfl

/-- The heartbeat is processed after the migration: it ends, and the device is
stored under both tenants. -/
theorem staysHome_fails :
    ∃ tr s, Run (Acts "dev-1".toList) one_device tr s ∧ s.heartbeats = one_device.heartbeats ∧
      ¬StoredUnder "dev-1".toList (home "acme".toList tr) s.device_mgr_ := by
  obtain ⟨u, hresolve⟩ := run_resolve (s := one_device) (i := 0) rfl "dev-1".toList
  let moved : Traffic :=
    { one_device.resolve 0 "dev-1".toList with
      device_mgr_ := (one_device.device_mgr_.migrate_device "dev-1".toList "globex".toList).2 }
  have hmigrate : Acts "dev-1".toList (one_device.resolve 0 "dev-1".toList) (.migrate "globex".toList) moved := .migrate
  have hprocess : Acts "dev-1".toList moved (.process 0 [] 0) _ := .process resolved_one_device
  refine ⟨_, _, (hresolve.snoc hmigrate).snoc hprocess, ?_, ?_⟩
  · simp [Traffic.set, Traffic.resolve, one_device, moved]
  · intro h
    have hacme : ((moved.device_mgr_.process_heartbeat 0 "acme".toList "dev-1".toList "p-1".toList []).rec?
        "acme".toList "dev-1".toList).isSome := by
      rw [process_heartbeat_rec?, if_pos ⟨rfl, rfl⟩]
      rfl
    have hboth : "acme".toList = "globex".toList := (h "acme".toList).1 hacme
    exact absurd hboth (by decide)

end DevSys.MessageRouter
