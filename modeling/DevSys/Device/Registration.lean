import DevSys.Device.DeviceManager
import DevSys.Device.Tokens
import DevSys.Server.Handlers
/-!
# Registration

`POST /api/v1/device/activate` makes a second record of the device that
`process_activation` has stored. The service believes that one until it
restarts, and the row ever after.
-/
open Cxx

namespace DevSys

structure ActivationService where
  store : ActivationStore := {}
  device_mgr : DeviceManager := {}

/-- The clock of the handler, which looks twice, and of the database. -/
structure Times where
  last_heartbeat_at : Int
  activated_at : Int
  now : Int

/-- What a request leaves, and the outcome of `upsert_device` if it came to that. -/
structure Registration where
  response : HttpResponse
  upserted : Option StatusCode := none
  service : ActivationService

namespace Registration
open DeviceActivation JsonHelper Json

/-! ## The handler -/

/-- The type by the name of the code. -/
def resolve_type (device_type : Str) : DeviceType :=
  if device_type = "coffee_machine".toList then .COFFEE_MACHINE
  else if device_type = "instant_machine".toList then .INSTANT_MACHINE
  else if device_type = "water_dispenser".toList then .WATER_DISPENSER
  else .OTHER

/-- The record for an answer. -/
def registered_device (times : Times) (request : ActivationRequest) (resp : ActivationResponse) : Device where
  device_id := resp.device_id
  tenant_id := resp.tenant_id
  product_id := resp.product_id
  type := resolve_type resp.device_type
  model := resp.model_code
  hardware_uid := request.uid
  firmware_version := resp.firmware_version
  network_status := .ONLINE
  work_status := .IDLE
  activated := true
  last_heartbeat_at := times.last_heartbeat_at
  activated_at := times.activated_at

def answer (resp : ActivationResponse) : HttpResponse :=
  let error :=
    if resp.error_message = [] then []
    else
      [member "error_code".toList (to_string resp.error_code.toInt),
        strMember "error_message".toList resp.error_message]
  json_response (if resp.success then 201 else 400) (object (
    [ member "success".toList (if resp.success then "true".toList else "false".toList),
      strMember "device_id".toList resp.device_id,
      strMember "model_key".toList resp.model_key,
      strMember "model_code".toList resp.model_code,
      strMember "tenant_name".toList resp.tenant_id,
      strMember "product_id".toList resp.product_id,
      strMember "device_type".toList resp.device_type,
      strMember "firmware_version".toList resp.firmware_version,
      strMember "activation_token".toList resp.activation_token,
      strMember "mqtt_broker_uri".toList resp.mqtt_broker_uri,
      member "ttl_seconds".toList (to_string resp.ttl_seconds.toInt) ] ++ error))

/-- What the body asks for. -/
def read_request (req : HttpRequest) : ActivationRequest where
  uid := get_string req.body "uid".toList
  model_key := get_string req.body "model_key".toList

variable (self : DeviceActivation)

/-- `register_device`, whose upsert goes to the devices that the activation left. -/
def register (env : Surroundings) (times : Times) (dev : Device) (store : ActivationStore) (mgr : DeviceManager) :
    StatusCode × ActivationService :=
  let (upserted, devices) := match store.devices.upsert_device env.answers times.now dev with
    | some devices => (StatusCode.OK, devices)
    | none => (.STORAGE_WRITE_ERROR, store.devices)
  let (sc, mgr) := mgr.register_device (some upserted) dev
  (sc, { store := { store with devices := devices }, device_mgr := mgr })

/-- `POST /api/v1/device/activate`. -/
def post_activate (env : Surroundings) (times : Times) (req : HttpRequest) (s : ActivationService) :
    Except Exn Registration := do
  let request := read_request req
  let (resp, store) ← self.activate env request s.store
  if resp.success then
    let (sc, service) := register env times (registered_device times request resp) store s.device_mgr
    .ok { response := answer resp, upserted := some sc, service := service }
  else .ok { response := answer resp, service := { s with store := store } }

/-! ## The two records -/

/-- What the records say of the machine. -/
structure Agree (d d' : Device) : Prop where
  tenant_id : d.tenant_id = d'.tenant_id
  product_id : d.product_id = d'.product_id
  type : d.type = d'.type
  model : d.model = d'.model
  hardware_uid : d.hardware_uid = d'.hardware_uid
  firmware_version : d.firmware_version = d'.firmware_version

/-- The service has a record of the device, and the row is read as one that agrees with it. -/
def Settled (tenant_id device_id : Str) (s : ActivationService) : Prop :=
  ∃ d d', s.device_mgr.get_device tenant_id device_id = some d ∧
    s.store.devices.get_device device_id = some (.ok d') ∧ Agree d d'

/-- For a device that is there, the registry has its model for the key, and the
code of its type; for a new one, the code of the type stands for its internal type. -/
def Resolved (env : Surroundings) (request : ActivationRequest) (s : ActivationStore) : Prop :=
  match s.devices.get_device_by_hwuid env.answers request.uid with
  | some (.ok existing) =>
    (registered env request.model_key existing.model).1 = existing.model ∧
      resolve_type (registered env request.model_key existing.model).2 = existing.type
  | _ =>
    ∀ model dtype, env.get_device_model_by_key request.model_key = some model →
      env.get_device_type model.type_code = some dtype →
      resolve_type dtype.type_code = ⟨castUInt8 dtype.internal_type⟩

theorem register_ok {env : Surroundings} {times : Times} {dev : Device} {store : ActivationStore} {mgr : DeviceManager}
    (h : (register env times dev store mgr).1 = .OK) :
    ∃ devices, store.devices.upsert_device env.answers times.now dev = some devices ∧
      (register env times dev store mgr).2.store = { store with devices := devices } ∧
      (register env times dev store mgr).2.device_mgr.get_device dev.tenant_id dev.device_id = some dev := by
  rw [register] at h ⊢
  cases hupsert : store.devices.upsert_device env.answers times.now dev with
  | none =>
    rw [hupsert] at h
    cases h
  | some devices =>
    refine ⟨devices, rfl, rfl, ?_⟩
    have hrec := DeviceManager.register_device_rec? (some .OK) dev mgr dev.tenant_id dev.device_id
    rw [if_pos ⟨rfl, rfl⟩] at hrec
    rw [DeviceManager.get_device_eq]
    exact hrec

/-- The row keeps what it said of the product, the type, the model and the
unit; the tenant and the version it has from the new record. -/
theorem settled_upserted {env : Surroundings} {times : Times} {dev : Device} {store : ActivationStore}
    {mgr : DeviceManager} (h : (register env times dev store mgr).1 = .OK) {row : List Str} {d : Device}
    (hrow : store.devices.rows.find? (DevicesTable.device_id · = some dev.device_id) = some row)
    (hlen : row.length = 15) (hd : Database.device_from_row row = .ok d) :
    Settled dev.tenant_id dev.device_id (register env times dev store mgr).2 ↔
      dev.product_id = d.product_id ∧ dev.type = d.type ∧ dev.model = d.model ∧ dev.hardware_uid = d.hardware_uid := by
  obtain ⟨devices, hupsert, hstore, hmem⟩ := register_ok h
  obtain ⟨row', hconflict, hrow'⟩ := DevicesTable.find?_upserted hupsert hrow
  have hget : devices.get_device dev.device_id = some (.ok
      { d with
        tenant_id := dev.tenant_id
        network_status := dev.network_status
        firmware_version := dev.firmware_version
        last_heartbeat_at := dev.last_heartbeat_at }) := by
    rw [DevicesTable.get_device, hrow', Option.map_some, Database.device_from_conflict hlen hd hconflict]
  rw [Settled, hmem, hstore]
  constructor
  · rintro ⟨dev', d', hdev, hd', hagree⟩
    obtain rfl := Option.some.inj hdev
    obtain rfl := Except.ok.inj (Option.some.inj (hget.symm.trans hd'))
    exact ⟨hagree.product_id, hagree.type, hagree.model, hagree.hardware_uid⟩
  · rintro ⟨hproduct, htype, hmodel, huid⟩
    exact ⟨dev, _, rfl, hget, ⟨rfl, hproduct, htype, hmodel, huid, rfl⟩⟩

variable {self} in
/-- A success of the handler is one of `process_activation`, registered. -/
theorem post_activate_eq {env : Surroundings} (times : Times) {req : HttpRequest} {s : ActivationService}
    {resp : ActivationResponse} {store : ActivationStore}
    (h : self.activate env (read_request req) s.store = .ok (resp, store)) (hsuccess : resp.success) :
    let registered := register env times (registered_device times (read_request req) resp) store s.device_mgr
    post_activate self env times req s =
      .ok { response := answer resp, upserted := some registered.1, service := registered.2 } := by
  rw [post_activate, h]
  exact if_pos hsuccess

variable {self} in
/-- After a success whose statements succeed, the two records agree exactly if
the registry resolves the key to what the row says. -/
theorem records_agree_iff {env : Surroundings} {times : Times} {req : HttpRequest} {s : ActivationService}
    (hvalid : s.store.devices.Valid) {resp : ActivationResponse} {store : ActivationStore}
    (hresp : self.activate env (read_request req) s.store = .ok (resp, store)) (hsuccess : resp.success)
    {r : Registration} (hpost : post_activate self env times req s = .ok r) (hupserted : r.upserted = some .OK) :
    Settled resp.tenant_id resp.device_id r.service ↔ Resolved env (read_request req) s.store := by
  rw [post_activate_eq times hresp hsuccess] at hpost
  obtain rfl := Except.ok.inj hpost
  have hok := Option.some.inj hupserted
  rw [Resolved]
  obtain ⟨-, ⟨existing, hget, rfl, rfl⟩ | ⟨model, dtype, devices, hmodel, hdtype, hget, hstored, rfl, rfl⟩⟩ :=
    self.activate_cases hresp hsuccess
  · obtain ⟨row, hrow, hlen, hdecode, huid⟩ := DevicesTable.find?_existing hvalid hget
    rw [hget]
    refine (settled_upserted hok hrow hlen hdecode).trans ?_
    exact ⟨fun h => ⟨h.2.2.1, h.2.1⟩, fun h => ⟨rfl, h.2, h.1, huid.symm⟩⟩
  · obtain ⟨row, hrow, hlen, hdecode⟩ := DevicesTable.find?_inserted hstored
    rw [hget]
    refine (settled_upserted hok hrow hlen hdecode).trans ?_
    constructor
    · rintro ⟨-, htype, -⟩ model' dtype' hmodel' hdtype'
      obtain rfl := Option.some.inj (hmodel.symm.trans hmodel')
      obtain rfl := Option.some.inj (hdtype.symm.trans hdtype')
      exact htype
    · intro h
      exact ⟨rfl, h model dtype hmodel hdtype, rfl, rfl⟩

/-- A request leaves the rows as the schema promises them. -/
theorem valid_post_activate {env : Surroundings} {times : Times} {req : HttpRequest} {s : ActivationService}
    (hvalid : s.store.devices.Valid) {r : Registration} (hpost : post_activate self env times req s = .ok r) :
    r.service.store.devices.Valid := by
  rw [post_activate] at hpost
  cases hresp : self.activate env (read_request req) s.store with
  | error e =>
    rw [hresp] at hpost
    cases hpost
  | ok p =>
    obtain ⟨resp, store⟩ := p
    have hstore : store.devices.Valid := self.valid_activate hvalid hresp
    rw [hresp] at hpost
    simp only [Bind.bind, Except.bind] at hpost
    split at hpost
    · obtain rfl := Except.ok.inj hpost
      rw [register]
      cases hupsert : store.devices.upsert_device env.answers times.now
          (registered_device times (read_request req) resp) with
      | none => exact hstore
      | some devices => exact DevicesTable.valid_upsert_device hupsert hstore
    · obtain rfl := Except.ok.inj hpost
      exact hstore

/-! ## A type by its code, and one that the service does not know -/

def activate_acm_200 : HttpRequest where
  body := "\x7b\"uid\":\"A1B2C3D4\",\"model_key\":\"acm_200_v1\"\x7d".toList

def noon : Times := { last_heartbeat_at := 1, activated_at := 1, now := 1 }

/-- The unit is activated once more with its key. -/
theorem records_agree_acm_200 : ∃ first resp store r,
    post_activate Activations.hashed Activations.two_models noon activate_acm_200 {} = .ok first ∧
    Activations.hashed.activate Activations.two_models (read_request activate_acm_200) first.service.store = .ok (resp, store) ∧
    post_activate Activations.hashed Activations.two_models noon activate_acm_200 first.service = .ok r ∧
    Settled resp.tenant_id resp.device_id r.service := by
  have hall : (post_activate Activations.hashed Activations.two_models noon activate_acm_200 {}).bind (fun first => do
      let (resp, _) ← Activations.hashed.activate Activations.two_models (read_request activate_acm_200) first.service.store
      let r ← post_activate Activations.hashed Activations.two_models noon activate_acm_200 first.service
      let found := first.service.store.devices.get_device_by_hwuid Activations.two_models.answers "A1B2C3D4".toList
      .ok (resp.success, r.upserted, (found.bind (·.toOption)).map fun d => (d.model, d.type))) =
      .ok (true, some .OK, some ("ACM-200".toList, .COFFEE_MACHINE)) := by decide +kernel
  obtain ⟨first, hfirst, hall⟩ := bind_eq_ok.1 hall
  obtain ⟨⟨resp, store⟩, hresp, hall⟩ := bind_eq_ok.1 hall
  obtain ⟨r, hpost, hall⟩ := bind_eq_ok.1 hall
  obtain ⟨hsuccess, hrest⟩ := Prod.mk.inj (Except.ok.inj hall)
  obtain ⟨hupserted, hfound⟩ := Prod.mk.inj hrest
  have hvalid := valid_post_activate Activations.hashed DevicesTable.valid_empty hfirst
  refine ⟨first, resp, store, r, hfirst, hresp, hpost, (records_agree_iff hvalid hresp hsuccess hpost hupserted).2 ?_⟩
  have huid : (read_request activate_acm_200).uid = "A1B2C3D4".toList := by decide +kernel
  rw [Resolved, huid]
  -- the row that the first activation left
  obtain ⟨existing, hexisting, hnames⟩ := Option.map_eq_some_iff.1 hfound
  obtain ⟨hmodel, htype⟩ := Prod.mk.inj hnames
  obtain ⟨found, hget, hread⟩ := Option.bind_eq_some_iff.1 hexisting
  cases found with
  | error e => cases hread
  | ok d =>
    cases hread
    rw [hget]
    dsimp only
    rw [hmodel, htype]
    decide +kernel

/-- A coffee machine by its internal type, under a code of its own. -/
def smart_coffee : Surroundings where
  get_device_model_by_key _ := some { model_code := "ACM-300".toList, type_code := "smart_coffee_v2".toList }
  get_device_type type_code := some { type_code := type_code, internal_type := 1 }

/-- The service takes it for something else, and its row for a coffee machine. -/
theorem records_agree_fails : ∃ r, post_activate Activations.hashed smart_coffee noon activate_acm_200 {} = .ok r ∧
    r.upserted = some .OK ∧ ¬Settled "default".toList "37e5f2875b502191".toList r.service := by
  have htypes : (post_activate Activations.hashed smart_coffee noon activate_acm_200 {}).map (fun r =>
      (r.upserted, (r.service.device_mgr.get_device "default".toList "37e5f2875b502191".toList).map (·.type),
        (r.service.store.devices.get_device "37e5f2875b502191".toList).map (·.map (·.type)))) =
      .ok (some .OK, some .OTHER, some (.ok .COFFEE_MACHINE)) := by decide +kernel
  cases hpost : post_activate Activations.hashed smart_coffee noon activate_acm_200 {} with
  | error e =>
    rw [hpost] at htypes
    cases htypes
  | ok r =>
    rw [hpost] at htypes
    obtain ⟨hupserted, hrest⟩ := Prod.mk.inj (Except.ok.inj htypes)
    obtain ⟨hmem, hrow⟩ := Prod.mk.inj hrest
    refine ⟨r, rfl, hupserted, ?_⟩
    rintro ⟨d, d', hd, hd', hagree⟩
    rw [hd] at hmem
    rw [hd'] at hrow
    have hother : d.type = .OTHER := Option.some.inj hmem
    have hcoffee : d'.type = .COFFEE_MACHINE := Except.ok.inj (Option.some.inj hrow)
    exact absurd (hother.symm.trans (hagree.type.trans hcoffee)) (by decide)

end Registration

end DevSys
