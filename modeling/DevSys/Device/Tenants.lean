import DevSys.Device.DeviceManager
import DevSys.Lib.Runs
/-!
# Tenants without devices

A tenant is listed as long as it has an inner map. A removal erases an inner map
that it empties. A migration does not.
-/
open Cxx Runs

namespace DevSys.DeviceManager.Tenants

/-! ## Runs -/

inductive Event where
  | process_heartbeat (now : Int) (tenant_id device_id product_id payload_json : Str)
  | register_device (upsert : Option StatusCode) (device : Device)
  | remove_device (tenant_id device_id : Str)
  | migrate_device (device_id new_tenant : Str)

def Event.apply : Event → DeviceManager → DeviceManager
  | .process_heartbeat now t d product payload, s => s.process_heartbeat now t d product payload
  | .register_device upsert device, s => (s.register_device upsert device).2
  | .remove_device t d, s => (s.remove_device t d).2
  | .migrate_device d new_tenant, s => (s.migrate_device d new_tenant).2

def Step (s : DeviceManager) (e : Event) (s' : DeviceManager) : Prop := s' = e.apply s

/-! ## The tenants listed -/

def Listed (s : DeviceManager) (t : Str) : Prop := t ∈ s.list_tenants.map (·.tenant_id)

/-- The tenants listed are those with a device. -/
def NoGhosts (s : DeviceManager) : Prop := ∀ t, Listed s t ↔ ∃ d, (s.rec? t d).isSome

/-- A migrated device comes from the tenant it goes to, or from one with another device. -/
def Peopled (s : DeviceManager) : Event → Prop
  | .migrate_device d new_tenant =>
    ∀ t dev, s.locate d = some (t, dev) → t = new_tenant ∨ ∃ d', d' ≠ d ∧ (s.rec? t d').isSome
  | _ => True

theorem listed_iff {s : DeviceManager} {t : Str} : Listed s t ↔ (s.tenants_.lookup t).isSome := by
  rw [Listed, list_tenants, List.map_map, AList.lookup_isSome, AList.mem_keys]
  rfl

theorem listed_of_rec? {s : DeviceManager} {t d : Str} (h : (s.rec? t d).isSome) : Listed s t := by
  rw [listed_iff]
  unfold rec? at_ at h
  cases ht : s.tenants_.lookup t with
  | none => simp [ht] at h
  | some td => rfl

/-- A tenant with a device is always listed. -/
theorem noGhosts_iff {s : DeviceManager} : NoGhosts s ↔ ∀ t, Listed s t → ∃ d, (s.rec? t d).isSome := by
  refine forall_congr' fun t => ⟨fun h => h.1, fun h => ⟨h, ?_⟩⟩
  rintro ⟨d, hd⟩
  exact listed_of_rec? hd

theorem noGhosts_empty : NoGhosts {} := by
  refine noGhosts_iff.2 fun t ht => ?_
  cases ht

theorem listed_put (s : DeviceManager) (t : Str) (td : TenantDevices) (t' : Str) :
    Listed (s.put t td) t' ↔ t' = t ∨ Listed s t' := by
  rw [listed_iff, listed_iff, put, UMap.lookup_set]
  by_cases ht : t' = t
  · simp [ht]
  · simp [ht]

theorem listed_store (s : DeviceManager) (t d : Str) (dev : Device) (t' : Str) :
    Listed (s.store t d dev) t' ↔ t' = t ∨ Listed s t' := listed_put s t _ t'

/-! ## Steps -/

/-- A stored device is a device of its tenant. -/
theorem NoGhosts.store {s : DeviceManager} (hs : NoGhosts s) (t d : Str) (dev : Device) : NoGhosts (s.store t d dev) := by
  refine noGhosts_iff.2 fun t' ht' => ?_
  simp only [rec?_store]
  by_cases ht : t' = t
  · exact ⟨d, by rw [if_pos ⟨ht, rfl⟩]; rfl⟩
  · obtain ⟨d', hd'⟩ := (hs t').1 (((listed_store s t d dev t').1 ht').resolve_left ht)
    exact ⟨d', by rw [if_neg fun h => ht h.1]; exact hd'⟩

/-- An inner map that a removal empties is erased. -/
theorem NoGhosts.remove_device {s : DeviceManager} (hs : NoGhosts s) (t d : Str) : NoGhosts (s.remove_device t d).2 := by
  unfold DeviceManager.remove_device
  cases hl : s.tenants_.lookup t with
  | none => exact hs
  | some td =>
    dsimp only
    split
    · exact hs
    have hat : s.at_ t = td := by rw [at_, hl]; rfl
    have hother (t' : Str) (ht : t' ≠ t) (s' : DeviceManager) (hs' : s'.tenants_.lookup t' = s.tenants_.lookup t')
        (hlisted : Listed s' t') : ∃ d', (s'.rec? t' d').isSome := by
      rw [listed_iff, hs', ← listed_iff] at hlisted
      unfold rec? at_
      rw [hs']
      exact (hs t').1 hlisted
    split
    · refine noGhosts_iff.2 fun t' ht' => ?_
      by_cases ht : t' = t
      · rw [listed_iff, ht, AList.lookup_erase] at ht'
        cases ht'
      · exact hother t' ht _ (AList.lookup_erase_ne ht) ht'
    · rename_i hne
      refine noGhosts_iff.2 fun t' ht' => ?_
      by_cases ht : t' = t
      · -- what is left of the inner map
        obtain ⟨f, hf⟩ := List.exists_mem_of_ne_nil _ hne
        refine ⟨f.1, ?_⟩
        rw [rec?, at_put, if_pos ht, UMap.mem_entries_iff.1 hf]
        rfl
      · refine hother t' ht _ ?_ ht'
        rw [put, UMap.lookup_set, if_neg ht]

/-- The tenant that a device leaves keeps its inner map, the new tenant gets the device. -/
theorem NoGhosts.migrate_device_iff {s : DeviceManager} (hs : NoGhosts s) (d new : Str) :
    NoGhosts (s.migrate_device d new).2 ↔ Peopled s (.migrate_device d new) := by
  unfold Peopled
  cases hloc : s.locate d with
  | none =>
    rw [migrate_device_none hloc]
    refine iff_of_true hs fun t dev h => ?_
    rw [hloc] at h
    cases h
  | some found =>
    obtain ⟨t, dev⟩ := found
    have hrec := migrate_device_rec? hloc new
    have hlisted (t' : Str) : Listed (s.migrate_device d new).2 t' ↔ t' = new ∨ Listed s t' := by
      have ht : Listed s t := listed_of_rec? (by rw [locate_some hloc]; rfl)
      simp only [migrate_device, hloc]
      rw [listed_store, unstore, listed_put]
      constructor
      · rintro (h | rfl | h)
        · exact .inl h
        · exact .inr ht
        · exact .inr h
      · exact Or.imp_right .inr
    -- what the old tenant has left
    have hleft (d' : Str) : ((s.unstore t d).rec? t d').isSome ↔ d' ≠ d ∧ (s.rec? t d').isSome := by
      rw [rec?_unstore]
      by_cases hd : d' = d
      · simp [hd]
      · simp [hd]
    constructor
    · rintro hs' t' dev' heq
      rw [hloc] at heq
      cases heq
      rw [or_iff_not_imp_left]
      intro hne
      obtain ⟨d', hd'⟩ := (hs' t).1 ((hlisted t).2 (.inr (listed_of_rec? (by rw [locate_some hloc]; rfl))))
      rw [hrec, if_neg fun h => hne h.1] at hd'
      exact ⟨d', (hleft d').1 hd'⟩
    · intro hpeopled
      refine noGhosts_iff.2 fun t' ht' => ?_
      by_cases hnew : t' = new
      · exact ⟨d, by rw [hrec, if_pos ⟨hnew, rfl⟩]; rfl⟩
      have hold := ((hlisted t').1 ht').resolve_left hnew
      simp only [hrec, if_neg fun h : t' = new ∧ _ => hnew h.1]
      by_cases ht : t' = t
      · subst ht
        obtain ⟨d', hd'⟩ := (hpeopled t' dev hloc).resolve_left hnew
        exact ⟨d', (hleft d').2 hd'⟩
      · obtain ⟨d', hd'⟩ := (hs t').1 hold
        exact ⟨d', by rw [rec?_unstore, if_neg fun h => ht h.1]; exact hd'⟩

theorem noGhosts_step {s s' : DeviceManager} {e : Event} (hs : NoGhosts s) (h : Step s e s') :
    NoGhosts s' ↔ Peopled s e := by
  subst h
  cases e with
  | process_heartbeat now t d product payload =>
    refine iff_of_true ?_ trivial
    rw [Event.apply, process_heartbeat]
    split
    · exact hs.store t d _
    · exact hs.store t d _
  | register_device upsert device =>
    refine iff_of_true ?_ trivial
    rw [Event.apply, register_device_snd]
    exact hs.store device.tenant_id device.device_id device
  | remove_device t d => exact iff_of_true (hs.remove_device t d) trivial
  | migrate_device d new => exact hs.migrate_device_iff d new

/-- Every state of a run lists exactly the tenants with devices if and only if no
migration takes the last device of a tenant to another one. -/
theorem noGhosts_run_iff {tr : List (DeviceManager × Event)} {s : DeviceManager} (h : Run Step {} tr s) :
    (∀ p ∈ tr, NoGhosts p.1) ∧ NoGhosts s ↔ ∀ p ∈ tr, Peopled p.1 p.2 :=
  h.all_iff (fun _ => True) NoGhosts Peopled trivial noGhosts_empty (fun _ _ _ _ _ => trivial)
    (fun _ _ _ _ hs => noGhosts_step hs)

def register (device_id : Str) : Event := .register_device none { tenant_id := "acme".toList, device_id := device_id }

/-- One of two devices moves. -/
theorem noGhosts_run_two :
    NoGhosts ((Event.migrate_device "dev-1".toList "globex".toList).apply
      ((register "dev-2".toList).apply ((register "dev-1".toList).apply {}))) := by
  have hfirst : Run Step {} _ _ := Run.nil.snoc (e := register "dev-1".toList) rfl
  have hsecond : Run Step {} _ _ := hfirst.snoc (e := register "dev-2".toList) rfl
  have hmoved : Run Step {} _ _ := hsecond.snoc (e := .migrate_device "dev-1".toList "globex".toList) rfl
  refine ((noGhosts_run_iff hmoved).2 ?_).2
  simp only [List.nil_append, List.forall_mem_append, List.forall_mem_singleton]
  refine ⟨⟨trivial, trivial⟩, ?_⟩
  intro t dev hloc
  cases hloc
  exact .inr ⟨"dev-2".toList, by decide, rfl⟩

/-- The only device of a tenant moves: the tenant stays on the list. -/
theorem noGhosts_run_fails : ∃ tr s, Run Step {} tr s ∧ s.list_tenants.map (·.tenant_id) = ["globex".toList, "acme".toList] ∧
    s.list_devices "acme".toList = [] ∧ ¬ NoGhosts s := by
  have hfirst : Step {} (register "dev-1".toList) _ := rfl
  have hmoved : Step ((register "dev-1".toList).apply {}) (.migrate_device "dev-1".toList "globex".toList) _ := rfl
  refine ⟨_, _, (Run.nil.snoc hfirst).snoc hmoved, rfl, rfl, fun h => ?_⟩
  obtain ⟨d, hd⟩ := (h "acme".toList).1 (List.mem_cons_of_mem _ (List.mem_singleton.2 rfl))
  cases hd

end DevSys.DeviceManager.Tenants
