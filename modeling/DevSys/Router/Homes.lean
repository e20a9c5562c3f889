import DevSys.Lib.Runs
import DevSys.Router.MessageRouter
/-!
# One home per device

Messages are routed by device id alone, so each id should be stored under one
tenant. Heartbeats, migrations and removals keep that; a registration keeps it
only if the device is not stored under another tenant.
-/
open Cxx Runs

namespace DevSys.DeviceManager

/-! ## Homes -/

/-- Each device id is stored under at most one tenant. -/
def UniqueHome (s : DeviceManager) : Prop := ∀ d t t', (s.rec? t d).isSome → (s.rec? t' d).isSome → t = t'

/-- Each record names the tenant it is stored under. -/
def Keyed (s : DeviceManager) : Prop := ∀ t d dev, s.rec? t d = some dev → dev.tenant_id = t

/-- The same tenants and devices in another iteration order. -/
def Reordered (s s' : DeviceManager) : Prop := s.tenants_.entries.Perm s'.tenants_.entries

theorem Reordered.rec? {s s' : DeviceManager} (h : Reordered s s') (t d : Str) : s'.rec? t d = s.rec? t d := by
  unfold DeviceManager.rec? at_
  rw [AList.perm_lookup (show s.tenants_.entries.Perm s'.tenants_.entries from h)]

/-- One home per device, and one answer to a lookup by id whatever the iteration order. -/
structure OneHome (s : DeviceManager) : Prop where
  home : UniqueHome s
  answer : ∀ s' d, Reordered s s' → s'.find_device_by_id d = s.find_device_by_id d ∧
    resolve_tenant (some s') d = resolve_tenant (some s) d

theorem locate_reordered {s s' : DeviceManager} (hu : UniqueHome s) (h : Reordered s s') (d : Str) :
    s'.locate d = s.locate d := by
  cases hl : s.locate d with
  | none =>
    cases hl' : s'.locate d with
    | none => rfl
    | some found =>
      have := locate_some hl'
      rw [h.rec?, locate_none hl] at this
      cases this
  | some found =>
    obtain ⟨t, dev⟩ := found
    have hrec := locate_some hl
    refine locate_of_unique (by rw [h.rec?, hrec]) fun t' ht' => ?_
    rw [h.rec?] at ht'
    exact hu d t' t ht' (by rw [hrec]; rfl)

theorem oneHome_iff (s : DeviceManager) : OneHome s ↔ UniqueHome s := by
  refine ⟨fun h => h.home, fun hu => ⟨hu, fun s' d h => ?_⟩⟩
  have hl := locate_reordered hu h d
  constructor
  · rw [find_device_by_id, find_device_by_id, hl]
  · simp only [resolve_tenant, find_device_by_id, hl]

theorem uniqueHome_empty : UniqueHome {} := by
  intro d t t' h
  rw [rec?_empty] at h
  cases h

theorem keyed_empty : Keyed {} := by
  intro t d dev h
  rw [rec?_empty] at h
  cases h

theorem UniqueHome.of_rec?_eq {s s' : DeviceManager} (hu : UniqueHome s) (h : ∀ t d, s'.rec? t d = s.rec? t d) :
    UniqueHome s' := by
  intro d t t'
  rw [h, h]
  exact hu d t t'

theorem Keyed.of_rec?_eq {s s' : DeviceManager} (hk : Keyed s) (h : ∀ t d, s'.rec? t d = s.rec? t d) : Keyed s' := by
  intro t d dev
  rw [h]
  exact hk t d dev

/-! ## A store under one tenant -/

section Store
variable {s s' : DeviceManager} {t d : Str} {dev : Device}
  (h : ∀ t' d', s'.rec? t' d' = if t' = t ∧ d' = d then some dev else s.rec? t' d')

include h

/-- Storing a device keeps homes unique exactly when it is not stored elsewhere. -/
theorem uniqueHome_store_iff (hu : UniqueHome s) : UniqueHome s' ↔ ∀ t', (s.rec? t' d).isSome → t' = t := by
  constructor
  · intro hu' t' ht'
    refine hu' d t' t ?_ (by rw [h, if_pos ⟨rfl, rfl⟩]; rfl)
    rw [h]
    split
    · rfl
    · exact ht'
  · -- two homes of the stored device both are `t`, those of another are old
    intro honly d₁ t₁ t₂ h₁ h₂
    rw [h] at h₁ h₂
    by_cases hd : d₁ = d
    · subst hd
      have home (t₃ : Str) (h₃ : (if t₃ = t ∧ d₁ = d₁ then some dev else s.rec? t₃ d₁).isSome) : t₃ = t := by
        by_contra hne
        rw [if_neg fun h => hne h.1] at h₃
        exact hne (honly t₃ h₃)
      rw [home t₁ h₁, home t₂ h₂]
    · rw [if_neg fun h => hd h.2] at h₁ h₂
      exact hu d₁ t₁ t₂ h₁ h₂

theorem keyed_store (hk : Keyed s) (ht : dev.tenant_id = t) : Keyed s' := by
  intro t' d' dev' hdev'
  rw [h] at hdev'
  split at hdev'
  · rename_i hpos
    rw [← Option.some.inj hdev', ht, hpos.1]
  · exact hk t' d' dev' hdev'

end Store

/-! ## A removal -/

section Removal
variable {s s' : DeviceManager} {t d : Str}
  (h : ∀ t' d', s'.rec? t' d' = if t' = t ∧ d' = d then none else s.rec? t' d')

include h

theorem uniqueHome_removal (hu : UniqueHome s) : UniqueHome s' := by
  intro d₁ t₁ t₂ h₁ h₂
  rw [h] at h₁ h₂
  split at h₁
  · cases h₁
  split at h₂
  · cases h₂
  exact hu d₁ t₁ t₂ h₁ h₂

theorem keyed_removal (hk : Keyed s) : Keyed s' := by
  intro t' d' dev hdev
  rw [h] at hdev
  split at hdev
  · cases hdev
  · exact hk t' d' dev hdev

end Removal

/-! ## The steps -/

/-- What happens to the store: a heartbeat message, a registration (with the
outcome of the database statement), a migration, a removal, a rehash. -/
inductive Event where
  | heartbeat (now : Int) (topic payload : Str)
  | register (upsert : Option StatusCode) (device : Device)
  | migrate (device_id new_tenant : Str)
  | remove (tenant_id device_id : Str)
  | rehash

inductive Step : DeviceManager → Event → DeviceManager → Prop
  | heartbeat {s s' r r' now topic payload} :
      (ParsedTopic.parse topic).message_type = "heartbeat".toList → r.device_mgr_ = some s →
      MessageRouter.on_message now topic payload r = (r', none) → r'.device_mgr_ = some s' →
      Step s (.heartbeat now topic payload) s'
  | register {s upsert device} : Step s (.register upsert device) (s.register_device upsert device).2
  | migrate {s d new} : Step s (.migrate d new) (s.migrate_device d new).2
  | remove {s t d} : Step s (.remove t d) (s.remove_device t d).2
  | rehash {s s'} : Reordered s s' → Step s .rehash s'

/-- A registered device is not stored under another tenant. -/
def NewHome (s : DeviceManager) : Event → Prop
  | .register _ device => ∀ t, (s.rec? t device.device_id).isSome → t = device.tenant_id
  | _ => True

/-- A heartbeat message does nothing or stores its device under the resolved tenant. -/
theorem heartbeat_cases {s s' : DeviceManager} {now : Int} {topic payload : Str}
    (h : Step s (.heartbeat now topic payload) s') :
    s' = s ∨ ∃ d product, s' = s.process_heartbeat now (resolve_tenant (some s) d) d product payload := by
  cases h with
  | heartbeat htype hr hmsg hr' =>
    by_cases hv : (ParsedTopic.parse topic).valid = true
    · rw [MessageRouter.on_message_heartbeat now payload _ rfl hv htype] at hmsg
      obtain ⟨rfl, -⟩ := Prod.mk.inj hmsg
      simp only [MessageRouter.handle_heartbeat, hr, Option.some.injEq] at hr'
      exact .inr ⟨_, _, hr'.symm⟩
    · rw [MessageRouter.on_message_invalid now payload _ rfl (by simpa using hv)] at hmsg
      obtain ⟨rfl, -⟩ := Prod.mk.inj hmsg
      rw [hr] at hr'
      exact .inl (Option.some.inj hr').symm

/-- With keyed records, a device resolves to a tenant it is stored under, or to
the default tenant when it is not stored. -/
theorem resolve_keyed {s : DeviceManager} (hk : Keyed s) (d : Str) :
    (∃ dev, s.rec? (resolve_tenant (some s) d) d = some dev) ∨ ∀ t, s.rec? t d = none := by
  cases hl : s.locate d with
  | none => exact .inr (locate_none hl)
  | some found =>
    obtain ⟨t, dev⟩ := found
    have hrec := locate_some hl
    rw [MessageRouter.resolve_tenant_some hl, hk t d dev hrec]
    exact .inl ⟨dev, hrec⟩

theorem keyed_step {s s' : DeviceManager} {e : Event} (hk : Keyed s) (h : Step s e s') : Keyed s' := by
  cases e with
  | heartbeat now topic payload =>
    rcases heartbeat_cases h with rfl | ⟨d, product, rfl⟩
    · exact hk
    · refine keyed_store (process_heartbeat_rec? now _ d product payload s) hk ?_
      cases hrec : s.rec? (resolve_tenant (some s) d) d with
      | none => rfl
      | some dev => exact (hk _ d dev hrec :)
  | register upsert device =>
    cases h
    exact keyed_store (register_device_rec? upsert device s) hk rfl
  | migrate d new =>
    cases h
    cases hl : s.locate d with
    | none => rw [migrate_device_none hl]; exact hk
    | some found =>
      obtain ⟨t, dev⟩ := found
      exact keyed_store (migrate_device_rec? hl new) (keyed_removal (rec?_unstore s t d) hk) rfl
  | remove t d =>
    cases h
    exact keyed_removal (remove_device_rec? t d s) hk
  | rehash =>
    cases h with
    | rehash hp => exact hk.of_rec?_eq hp.rec?

/-- One step keeps homes unique exactly when it registers no device that is
stored under another tenant. -/
theorem uniqueHome_step {s s' : DeviceManager} {e : Event} (hk : Keyed s) (hu : UniqueHome s) (h : Step s e s') :
    UniqueHome s' ↔ NewHome s e := by
  cases e with
  | heartbeat now topic payload =>
    refine iff_of_true ?_ trivial
    rcases heartbeat_cases h with rfl | ⟨d, product, rfl⟩
    · exact hu
    -- a known device resolves to its home
    · refine (uniqueHome_store_iff (process_heartbeat_rec? now _ d product payload s) hu).2 fun t ht => ?_
      rcases resolve_keyed hk d with ⟨dev, hdev⟩ | hnone
      · exact hu d t _ ht (by rw [hdev]; rfl)
      · rw [hnone] at ht
        cases ht
  | register upsert device =>
    cases h
    exact uniqueHome_store_iff (register_device_rec? upsert device s) hu
  | migrate d new =>
    refine iff_of_true ?_ trivial
    cases h
    cases hl : s.locate d with
    | none => rw [migrate_device_none hl]; exact hu
    | some found =>
      obtain ⟨t, dev⟩ := found
      refine (uniqueHome_store_iff (migrate_device_rec? hl new)
        (uniqueHome_removal (rec?_unstore s t d) hu)).2 fun t' ht' => ?_
      -- the old home was the only one
      rw [rec?_unstore] at ht'
      split at ht'
      · cases ht'
      · rename_i hne
        exact absurd ⟨hu d t' t ht' (by rw [locate_some hl]; rfl), rfl⟩ hne
  | remove t d =>
    refine iff_of_true ?_ trivial
    cases h
    exact uniqueHome_removal (remove_device_rec? t d s) hu
  | rehash =>
    refine iff_of_true ?_ trivial
    cases h with
    | rehash hp => exact hu.of_rec?_eq hp.rec?

/-! ## Runs -/

/-- Every state of a run has one home per device exactly when no step registers
a device that is stored under another tenant at that moment. -/
theorem oneHome_run_iff {tr : List (DeviceManager × Event)} {s : DeviceManager} (h : Run Step {} tr s) :
    (∀ p ∈ tr, OneHome p.1) ∧ OneHome s ↔ ∀ p ∈ tr, NewHome p.1 p.2 := by
  simp only [oneHome_iff]
  exact h.all_iff Keyed UniqueHome NewHome keyed_empty uniqueHome_empty (fun _ _ _ => keyed_step)
    (fun _ _ _ => uniqueHome_step)

/-- A heartbeat of an unknown device. -/
theorem run_one_heartbeat :
    Run Step {} [({}, .heartbeat 0 "dev-1/v1/heartbeat".toList [])]
      (process_heartbeat 0 "default".toList "dev-1".toList [] [] {}) :=
  have hmsg : MessageRouter.on_message 0 "dev-1/v1/heartbeat".toList [] { device_mgr_ := some {} } =
      ({ device_mgr_ := some (process_heartbeat 0 "default".toList "dev-1".toList [] [] {}) }, none) := rfl
  .snoc .nil (.heartbeat rfl rfl hmsg rfl)

/-- A device is registered, another one is heard from and moved to its tenant, and
the first one is removed. -/
theorem oneHome_moved :
    let events : List Event :=
      [.register none { tenant_id := "acme".toList, device_id := "dev-2".toList },
        .heartbeat 0 "dev-1/v1/heartbeat".toList [], .migrate "dev-1".toList "acme".toList,
        .remove "acme".toList "dev-2".toList]
    ∃ tr s, Run Step {} tr s ∧ tr.map (·.2) = events ∧ (∀ p ∈ tr, OneHome p.1) ∧ OneHome s := by
  intro events
  let device : Device := { tenant_id := "acme".toList, device_id := "dev-2".toList }
  let s₁ := (({} : DeviceManager).register_device none device).2
  have hregister : Step {} (.register none device) s₁ := .register
  let s₂ := process_heartbeat 0 "default".toList "dev-1".toList [] [] s₁
  have hmsg : MessageRouter.on_message 0 "dev-1/v1/heartbeat".toList [] { device_mgr_ := some s₁ } =
      ({ device_mgr_ := some s₂ }, none) := rfl
  have hheartbeat : Step s₁ (.heartbeat 0 "dev-1/v1/heartbeat".toList []) s₂ := .heartbeat rfl rfl hmsg rfl
  have hmigrate : Step s₂ (.migrate "dev-1".toList "acme".toList) _ := .migrate
  have hremove (s : DeviceManager) : Step s (.remove "acme".toList "dev-2".toList) _ := .remove
  have hrun := (((Run.nil.snoc hregister).snoc hheartbeat).snoc hmigrate).snoc (hremove _)
  refine ⟨_, _, hrun, rfl, (oneHome_run_iff hrun).2 ?_⟩
  simp only [List.nil_append, List.cons_append, List.forall_mem_cons]
  refine ⟨fun t ht => ?_, trivial, trivial, trivial, List.forall_mem_nil _⟩
  rw [rec?_empty] at ht
  cases ht

/-- A device is heard from before its activation: it ends up under the default
tenant and under the assigned one. -/
theorem oneHome_fails : ∃ tr s, Run Step {} tr s ∧ ¬ OneHome s := by
  let activated : Device := { tenant_id := "acme".toList, device_id := "dev-1".toList }
  have hstep : Step (process_heartbeat 0 "default".toList "dev-1".toList [] [] {}) (.register none activated) _ := .register
  refine ⟨_, _, .snoc run_one_heartbeat hstep, ?_⟩
  intro h
  have := h.home "dev-1".toList "default".toList "acme".toList (by decide) (by decide)
  revert this
  decide

end DevSys.DeviceManager
