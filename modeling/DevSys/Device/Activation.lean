import DevSys.Lib.Runs
import DevSys.Storage.Devices
/-!
# `DeviceActivation`

A call of `process_activation` goes from one statement on the devices table to
the next, and calls for one unit may interleave. What a call reads elsewhere,
the registry of models and types above all, may differ from step to step.
-/
open Cxx Runs

namespace DevSys

structure ActivationRequest where
  uid : Str := []
  model_key : Str := []
  deriving DecidableEq, Repr

structure ActivationResponse where
  success : Bool := false
  device_id : Str := []
  model_key : Str := []
  model_code : Str := []
  tenant_id : Str := []
  product_id : Str := []
  device_type : Str := []
  firmware_version : Str := []
  activation_token : Str := []
  mqtt_broker_uri : Str := []
  ttl_seconds : Int32 := 0
  error_message : Str := []
  error_code : Int32 := 0
  deriving DecidableEq, Repr

/-- What a step of a call finds around it: the registry, the configured tenant,
a random token, the clock, and whether the database answers its statement. -/
structure Surroundings where
  get_device_model_by_key : Str → Option DeviceModelInfo
  get_device_type : Str → Option DeviceTypeInfo
  tenant_name : Str := []
  activation_token : Str := []
  now : Int := 0
  answers : Bool := true

/-- `generate_device_id` is a hash of the request. -/
structure DeviceActivation where
  broker_uri_ : Str := "tcp://127.0.0.1:1883".toList
  generate_device_id : ActivationRequest → Str

/-- Where a call is. -/
inductive Phase where
  | received
  | device_seen (model : DeviceModelInfo) (dtype : DeviceTypeInfo)
  | device_new (model : DeviceModelInfo) (dtype : DeviceTypeInfo)
  | answered (resp : ActivationResponse)
  | thrown (e : Exn)
  deriving DecidableEq

namespace DeviceActivation

/-- The only other status is `DEV_AUTH_FAILED`. -/
def validate_request (request : ActivationRequest) : Bool :=
  request.uid ≠ [] ∧ request.model_key ≠ [] ∧ 4 ≤ request.uid.length ∧ request.uid.length ≤ 128 ∧
    request.model_key.length ≤ 64

def generate_product_id (type : DeviceType) : Str :=
  if type = .COFFEE_MACHINE then "coffee_v1".toList
  else if type = .INSTANT_MACHINE then "instant_v1".toList
  else if type = .WATER_DISPENSER then "water_v1".toList
  else "other_v1".toList

def failure (error_code : Int32) (error_message : Str) : ActivationResponse :=
  { error_code := error_code, error_message := error_message }

def ttl : Int32 := 365 * 24 * 3600

/-- The model and the type that the registry has for a key now; `model` is the
device's own, for a key that is no longer there. -/
def registered (env : Surroundings) (model_key model : Str) : Str × Str :=
  let found := env.get_device_model_by_key model_key
  let dtype := env.get_device_type ((found.map (·.type_code)).getD "other".toList)
  ((found.map (·.model_code)).getD model, (dtype.map (·.type_code)).getD "other".toList)

variable (self : DeviceActivation)

/-- The answer for a device that is there. -/
def existing_info (env : Surroundings) (request : ActivationRequest) (existing : Device) : ActivationResponse where
  success := true
  device_id := existing.device_id
  model_key := request.model_key
  model_code := (registered env request.model_key existing.model).1
  tenant_id := existing.tenant_id
  product_id := existing.product_id
  device_type := (registered env request.model_key existing.model).2
  firmware_version := existing.firmware_version
  activation_token := env.activation_token
  mqtt_broker_uri := self.broker_uri_
  ttl_seconds := ttl

/-- The record of a new device. -/
def new_device (env : Surroundings) (request : ActivationRequest) (model : DeviceModelInfo) (dtype : DeviceTypeInfo) :
    Device where
  device_id := self.generate_device_id request
  tenant_id := if env.tenant_name = [] then "default".toList else env.tenant_name
  product_id := generate_product_id ⟨castUInt8 dtype.internal_type⟩
  type := ⟨castUInt8 dtype.internal_type⟩
  model := model.model_code
  hardware_uid := request.uid
  firmware_version := model.firmware_base
  network_status := .OFFLINE
  work_status := .IDLE
  activated := true
  last_heartbeat_at := 0
  activated_at := env.now

/-- The answer for a device that has been stored. -/
def new_info (env : Surroundings) (request : ActivationRequest) (model : DeviceModelInfo) (dtype : DeviceTypeInfo)
    (dev : Device) : ActivationResponse where
  success := true
  device_id := dev.device_id
  model_key := request.model_key
  model_code := model.model_code
  tenant_id := dev.tenant_id
  product_id := dev.product_id
  device_type := dtype.type_code
  firmware_version := model.firmware_base
  activation_token := env.activation_token
  mqtt_broker_uri := self.broker_uri_
  ttl_seconds := ttl

/-- The table with the new device in it, if that can be stored. -/
def stored (env : Surroundings) (request : ActivationRequest) (model : DeviceModelInfo) (dtype : DeviceTypeInfo)
    (t : DevicesTable) : Option DevicesTable :=
  t.insert_device env.answers env.now (self.new_device env request model dtype)

/-- A call up to and with its next statement on the devices table. -/
def process_activation (env : Surroundings) (request : ActivationRequest) : Phase → DevicesTable → Phase × DevicesTable
  | .received, t =>
    if ¬validate_request request then (.answered (failure (-103) "Device authentication failed".toList), t)
    else
      match env.get_device_model_by_key request.model_key with
      | none => (.answered (failure (-404) ("model_key not found: ".toList ++ request.model_key)), t)
      | some model =>
        match env.get_device_type model.type_code with
        | none => (.answered (failure (-404) ("device_type not found: ".toList ++ model.type_code)), t)
        | some dtype =>
          if t.device_exists env.answers request.uid then (.device_seen model dtype, t)
          else (.device_new model dtype, t)
  | .device_seen model dtype, t =>
    match t.get_device_by_hwuid env.answers request.uid with
    | none => (.device_new model dtype, t)
    | some (.error e) => (.thrown e, t)
    -- the model and the type are looked up again, by the key of this request
    | some (.ok existing) => (.answered (self.existing_info env request existing), t)
  | .device_new model dtype, t =>
    match self.stored env request model dtype t with
    | none => (.answered (failure StatusCode.STORAGE_WRITE_ERROR.toInt "Database insert failed".toList), t)
    | some t' => (.answered (self.new_info env request model dtype (self.new_device env request model dtype)), t')
  | .answered resp, t => (.answered resp, t)
  | .thrown e, t => (.thrown e, t)

end DeviceActivation

/-! ## Calls at the same time -/

structure Call where
  request : ActivationRequest
  phase : Phase := .received
  deriving DecidableEq

structure Activations where
  table : DevicesTable := {}
  calls : List Call := []

inductive Happens where
  | call (request : ActivationRequest)
  | go (i : Nat) (env : Surroundings)

namespace Activations
open DeviceActivation
variable (self : DeviceActivation)

def next (s : Activations) : Happens → Activations
  | .call request => { s with calls := s.calls ++ [{ request }] }
  | .go i env =>
    match s.calls[i]? with
    | none => s
    | some c =>
      let (phase, table) := self.process_activation env c.request c.phase s.table
      { table, calls := s.calls.set i { c with phase } }

end Activations

/-! ## What a call answers -/

def Call.Succeeds (c : Call) (r : ActivationResponse) : Prop := c.phase = .answered r ∧ r.success

/-- The answers name one machine. -/
structure SameIdentity (r r' : ActivationResponse) : Prop where
  device_id : r.device_id = r'.device_id
  tenant_id : r.tenant_id = r'.tenant_id
  product_id : r.product_id = r'.product_id
  model_code : r.model_code = r'.model_code
  device_type : r.device_type = r'.device_type

namespace DeviceActivation
variable (self : DeviceActivation)

/-- A step keeps the devices that are stored. -/
theorem select_of_process_activation (env : Surroundings) (request : ActivationRequest) (p : Phase) {t : DevicesTable}
    {uid : Str} {row : List Str} (h : t.select uid = some row) :
    (self.process_activation env request p t).2.select uid = some row := by
  cases p with
  | received =>
    rw [process_activation]
    (repeat' split) <;> exact h
  | device_seen model dtype =>
    rw [process_activation]
    split <;> exact h
  | device_new model dtype =>
    rw [process_activation]
    split
    · exact h
    · rename_i t' hstored
      exact DevicesTable.select_of_insert_device hstored h
  | answered resp => exact h
  | thrown e => exact h

/-- The ways to an answer that is a success. -/
theorem success_cases {env : Surroundings} {request : ActivationRequest} {p : Phase} {t : DevicesTable}
    {r : ActivationResponse} (h : (self.process_activation env request p t).1 = .answered r) (hr : r.success) :
    p = .answered r ∨
    (∃ model dtype existing, p = .device_seen model dtype ∧
      t.get_device_by_hwuid env.answers request.uid = some (.ok existing) ∧
      r = self.existing_info env request existing) ∨
    ∃ model dtype, p = .device_new model dtype ∧
      self.stored env request model dtype t = some (self.process_activation env request p t).2 ∧
      r = self.new_info env request model dtype (self.new_device env request model dtype) := by
  cases p with
  | received =>
    rw [process_activation] at h
    exfalso
    (repeat' split at h) <;> cases h <;> cases hr
  | device_seen model dtype =>
    rw [process_activation] at h
    split at h
    · cases h
    · cases h
    · rename_i existing hget
      exact .inr (.inl ⟨model, dtype, existing, rfl, hget, (Phase.answered.inj h).symm⟩)
  | device_new model dtype =>
    rw [process_activation] at h ⊢
    split at h
    · cases h
      cases hr
    · rename_i t' hstored
      exact .inr (.inr ⟨model, dtype, rfl, by rw [hstored], (Phase.answered.inj h).symm⟩)
  | answered resp => exact .inl h
  | thrown e => cases h

/-- The model and the type that the registry gives a call's key, where the next
step brings the call to its answer, are the ones of its unit. -/
def Named (identity : Str → Str × Str) (env : Surroundings) (c : Call) (t : DevicesTable) : Prop :=
  match c.phase with
  | .device_seen _ _ => ∀ existing, t.get_device_by_hwuid env.answers c.request.uid = some (.ok existing) →
      registered env c.request.model_key existing.model = identity c.request.uid
  | .device_new model dtype => (self.stored env c.request model dtype t).isSome →
      (model.model_code, dtype.type_code) = identity c.request.uid
  | _ => True

/-- A success gives the model and the type of its unit. -/
def Fits (identity : Str → Str × Str) (c : Call) : Prop :=
  ∀ r, c.Succeeds r → (r.model_code, r.device_type) = identity c.request.uid

theorem fits_process_activation_iff (identity : Str → Str × Str) (env : Surroundings) (c : Call) (t : DevicesTable) :
    Fits identity { c with phase := (self.process_activation env c.request c.phase t).1 } ↔
      Fits identity c ∧ self.Named identity env c t := by
  constructor
  · intro h
    refine ⟨fun r hr => h r ⟨by rw [hr.1]; rfl, hr.2⟩, ?_⟩
    rw [Named]
    split
    · rename_i model dtype hp
      intro existing hget
      exact h (self.existing_info env c.request existing) ⟨by rw [hp, process_activation, hget], rfl⟩
    · rename_i model dtype hp
      intro hstored
      obtain ⟨t', hstored⟩ := Option.isSome_iff_exists.1 hstored
      exact h (self.new_info env c.request model dtype (self.new_device env c.request model dtype))
        ⟨by rw [hp, process_activation, hstored], rfl⟩
    · trivial
  · rintro ⟨hc, hnamed⟩ r ⟨hr, hsuccess⟩
    obtain hp | ⟨model, dtype, existing, hp, hget, rfl⟩ | ⟨model, dtype, hp, hstored, rfl⟩ :=
      self.success_cases hr hsuccess
    · exact hc r ⟨hp, hsuccess⟩
    · rw [Named, hp] at hnamed
      exact hnamed existing hget
    · rw [Named, hp] at hnamed
      exact hnamed (Option.isSome_iff_exists.2 ⟨_, hstored⟩)

end DeviceActivation

/-! ## Runs -/

namespace Activations
open DeviceActivation
variable (self : DeviceActivation)

/-- A step of a call meets the condition. -/
def StepNamed (identity : Str → Str × Str) (s : Activations) : Happens → Prop
  | .call _ => True
  | .go i env => ∀ c ∈ s.calls[i]?, self.Named identity env c s.table

/-- A property of all items of a list, when one item changes. -/
theorem forall_mem_set_iff {α : Type} {P : α → Prop} {l : List α} {i : Nat} {a : α} (h : l[i]? = some a) {b : α}
    {q : Prop} (hb : P b ↔ P a ∧ q) : (∀ x ∈ l.set i b, P x) ↔ (∀ x ∈ l, P x) ∧ q := by
  induction l generalizing i with
  | nil => cases h
  | cons c l ih =>
    cases i with
    | zero =>
      obtain rfl : c = a := Option.some.inj h
      simp only [List.set_cons_zero, List.forall_mem_cons, hb]
      exact and_right_comm
    | succ i =>
      rw [List.set_cons_succ, List.forall_mem_cons, List.forall_mem_cons, ih h, and_assoc]

theorem fits_next_iff (identity : Str → Str × Str) (s : Activations) (e : Happens) :
    (∀ c ∈ (next self s e).calls, Fits identity c) ↔
      (∀ c ∈ s.calls, Fits identity c) ∧ StepNamed self identity s e := by
  cases e with
  | call request =>
    have hnew : Fits identity { request } := fun r hr => by cases hr.1
    rw [next, StepNamed, List.forall_mem_append, List.forall_mem_singleton]
    exact and_congr_right fun _ => iff_of_true hnew trivial
  | go i env =>
    rw [next, StepNamed]
    cases hc : s.calls[i]? with
    | none => simp
    | some c =>
      rw [forall_mem_set_iff hc (self.fits_process_activation_iff identity env c s.table)]
      simp

/-- The device that an answer names is the stored one. -/
def Stored (t : DevicesTable) (c : Call) : Prop :=
  ∀ r, c.Succeeds r → ∃ dev, (t.select c.request.uid).map Database.device_from_row = some (.ok dev) ∧
    dev.device_id = r.device_id ∧ dev.tenant_id = r.tenant_id ∧ dev.product_id = r.product_id

theorem stored_process_activation {env : Surroundings} {c : Call} {t : DevicesTable} (h : Stored t c) :
    Stored (self.process_activation env c.request c.phase t).2
      { c with phase := (self.process_activation env c.request c.phase t).1 } := by
  rintro r ⟨hr, hsuccess⟩
  obtain hp | ⟨model, dtype, existing, hp, hget, rfl⟩ | ⟨model, dtype, hp, hstored, rfl⟩ := self.success_cases hr hsuccess
  · obtain ⟨dev, hdev, hsame⟩ := h r ⟨hp, hsuccess⟩
    exact ⟨dev, by rw [hp]; exact hdev, hsame⟩
  · refine ⟨existing, ?_, rfl, rfl, rfl⟩
    rw [DevicesTable.get_device_by_hwuid] at hget
    split at hget
    · obtain ⟨row, hrow, hdev⟩ := Option.map_eq_some_iff.1 hget
      rw [self.select_of_process_activation env c.request c.phase hrow, Option.map_some, hdev]
    · cases hget
  · exact ⟨_, DevicesTable.get_inserted hstored, rfl, rfl, rfl⟩

theorem stored_of_process_activation {env : Surroundings} {request : ActivationRequest} {p : Phase} {c : Call}
    {t : DevicesTable} (h : Stored t c) : Stored (self.process_activation env request p t).2 c := by
  intro r hr
  obtain ⟨dev, hdev, hsame⟩ := h r hr
  obtain ⟨row, hrow, hrowdev⟩ := Option.map_eq_some_iff.1 hdev
  exact ⟨dev, by rw [self.select_of_process_activation env request p hrow, Option.map_some, hrowdev], hsame⟩

theorem stored_next (s : Activations) (e : Happens) (h : ∀ c ∈ s.calls, Stored s.table c) :
    ∀ c ∈ (next self s e).calls, Stored (next self s e).table c := by
  cases e with
  | call request =>
    rw [next, List.forall_mem_append, List.forall_mem_singleton]
    exact ⟨h, fun r hr => by cases hr.1⟩
  | go i env =>
    rw [next]
    cases hc : s.calls[i]? with
    | none => exact h
    | some c =>
      intro c' hc'
      rcases List.mem_or_eq_of_mem_set hc' with hc' | rfl
      · exact stored_of_process_activation self (h c' hc')
      · exact stored_process_activation self (h c (List.mem_of_getElem? hc))

/-- The calls from a table on, and what happens after. -/
def after (t : DevicesTable) (es : List Happens) : Activations := es.foldl (next self) { table := t }

theorem stored_after (t : DevicesTable) (es : List Happens) :
    ∀ c ∈ (after self t es).calls, Stored (after self t es).table c :=
  (run_passed (next self) { table := t } es).inv (fun s => ∀ c ∈ s.calls, Stored s.table c) (by simp)
    fun s e s' h hstep => hstep ▸ stored_next self s e h

/-- Two successes with the same uid name one machine exactly if they fit. -/
theorem same_identity_iff_fits {t : DevicesTable} {calls : List Call} (h : ∀ c ∈ calls, Stored t c) :
    (∀ c ∈ calls, ∀ c' ∈ calls, c.request.uid = c'.request.uid →
      ∀ r r', c.Succeeds r → c'.Succeeds r' → SameIdentity r r') ↔
      ∃ identity, ∀ c ∈ calls, Fits identity c := by
  constructor
  · intro hsame
    have hone (uid : Str) : ∃ found : Str × Str, ∀ c ∈ calls, c.request.uid = uid →
        ∀ r, c.Succeeds r → (r.model_code, r.device_type) = found := by
      by_cases hany : ∃ c ∈ calls, c.request.uid = uid ∧ ∃ r, c.Succeeds r
      · obtain ⟨c, hc, huid, r, hr⟩ := hany
        refine ⟨(r.model_code, r.device_type), fun c' hc' huid' r' hr' => ?_⟩
        have := hsame c' hc' c hc (huid'.trans huid.symm) r' r hr' hr
        rw [this.model_code, this.device_type]
      · exact ⟨([], []), fun c hc huid r hr => absurd ⟨c, hc, huid, r, hr⟩ hany⟩
    obtain ⟨identity, hidentity⟩ := Classical.skolem.1 hone
    exact ⟨identity, fun c hc r hr => hidentity _ c hc rfl r hr⟩
  · rintro ⟨identity, hfits⟩ c hc c' hc' huid r r' hr hr'
    obtain ⟨dev, hdev, hid, htenant, hproduct⟩ := h c hc r hr
    obtain ⟨dev', hdev', hid', htenant', hproduct'⟩ := h c' hc' r' hr'
    rw [huid, hdev'] at hdev
    obtain rfl := Except.ok.inj (Option.some.inj hdev)
    have hfit := (hfits c hc r hr).trans ((congrArg identity huid).trans (hfits c' hc' r' hr').symm)
    rw [Prod.mk.injEq] at hfit
    exact ⟨hid.symm.trans hid', htenant.symm.trans htenant', hproduct.symm.trans hproduct', hfit.1, hfit.2⟩

/-- Activation keeps a unit's identity exactly in the runs in which the
registry gives all keys that it comes with the same model and the same type.
The device, the tenant and the product are always the stored ones. -/
theorem same_identity_iff (t : DevicesTable) (es : List Happens) :
    (∀ c ∈ (after self t es).calls, ∀ c' ∈ (after self t es).calls, c.request.uid = c'.request.uid →
      ∀ r r', c.Succeeds r → c'.Succeeds r' → SameIdentity r r') ↔
      ∃ identity, ∀ p ∈ passed (next self) { table := t } es, StepNamed self identity p.1 p.2 := by
  rw [same_identity_iff_fits (stored_after self t es)]
  refine exists_congr fun identity => ?_
  exact (run_passed (next self) { table := t } es).ends_iff (fun s => ∀ c ∈ s.calls, Fits identity c)
    (StepNamed self identity) (by simp) fun s e s' hstep => hstep ▸ fits_next_iff self identity s e

/-! ## A unit under two keys -/

def coffee : DeviceModelInfo where
  model_code := "ACM-200".toList
  type_code := "coffee_machine".toList

def water : DeviceModelInfo where
  model_code := "WD-10".toList
  type_code := "water_dispenser".toList

def two_models : Surroundings where
  get_device_model_by_key key :=
    if key = "acm_200_v1".toList then some coffee else if key = "wd_10_v1".toList then some water else none
  get_device_type code :=
    if code = "coffee_machine".toList then some { type_code := code, internal_type := 1 }
    else if code = "water_dispenser".toList then some { type_code := code, internal_type := 3 }
    else none

def hashed : DeviceActivation where
  generate_device_id request :=
    if request.model_key = "acm_200_v1".toList then "37e5f2875b502191".toList else "5aebd550afb29218".toList

/-- The unit is activated with one key and then with the other. -/
def under_two_keys : List Happens :=
  [.call ⟨"A1B2C3D4".toList, "acm_200_v1".toList⟩, .go 0 two_models, .go 0 two_models,
    .call ⟨"A1B2C3D4".toList, "wd_10_v1".toList⟩, .go 1 two_models, .go 1 two_models]

/-- The second answer is the device of the first with another model and type. -/
theorem same_identity_fails :
    ¬∀ c ∈ (after hashed {} under_two_keys).calls, ∀ c' ∈ (after hashed {} under_two_keys).calls,
      c.request.uid = c'.request.uid → ∀ r r', c.Succeeds r → c'.Succeeds r' → SameIdentity r r' := by
  have hcalls : (after hashed {} under_two_keys).calls =
      [⟨⟨"A1B2C3D4".toList, "acm_200_v1".toList⟩, .answered
          { success := true, device_id := "37e5f2875b502191".toList, model_key := "acm_200_v1".toList
            model_code := "ACM-200".toList, tenant_id := "default".toList, product_id := "coffee_v1".toList
            device_type := "coffee_machine".toList, mqtt_broker_uri := "tcp://127.0.0.1:1883".toList
            ttl_seconds := 31536000 }⟩,
        ⟨⟨"A1B2C3D4".toList, "wd_10_v1".toList⟩, .answered
          { success := true, device_id := "37e5f2875b502191".toList, model_key := "wd_10_v1".toList
            model_code := "WD-10".toList, tenant_id := "default".toList, product_id := "coffee_v1".toList
            device_type := "water_dispenser".toList, mqtt_broker_uri := "tcp://127.0.0.1:1883".toList
            ttl_seconds := 31536000 }⟩] := by decide +kernel
  rw [hcalls]
  intro h
  have hsame := h _ List.mem_cons_self _ (List.mem_cons_of_mem _ List.mem_cons_self) rfl _ _ ⟨rfl, rfl⟩ ⟨rfl, rfl⟩
  exact absurd hsame.model_code (by decide)

end Activations

end DevSys
