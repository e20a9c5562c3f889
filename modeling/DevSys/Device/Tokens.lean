import DevSys.Device.Activation
import DevSys.Lib.Rows
/-!
# Activation tokens

A device keeps the token of its activation and shows it with each connection;
the one that it is checked against is on file in `activation_tokens`.
-/
open Cxx Runs

namespace DevSys

structure ActivationToken where
  device_id : Str
  token : Str
  issued_at : Int
  expires_at : Int
  revoked : Bool := false
  deriving DecidableEq, Repr

/-- `devices` and `activation_tokens`. -/
structure ActivationStore where
  devices : DevicesTable := {}
  activation_tokens : List ActivationToken := []

/-! ## Statements -/

namespace Database

/-- The conflict clause names every column but the device. -/
def store_activation_token (device_id token : Str) (issued_at expires_at : Int) (s : ActivationStore) :
    ActivationStore :=
  let row := { device_id, token, issued_at, expires_at }
  { s with activation_tokens := Rows.upsert ActivationToken.device_id row s.activation_tokens }

def get_activation_token (now : Int) (device_id : Str) (s : ActivationStore) : Option Str :=
  match s.activation_tokens.find? (·.device_id = device_id) with
  | none => none
  | some row => if row.revoked ∨ now > row.expires_at then none else some row.token

end Database

/-! ## Operations -/

namespace DeviceActivation
variable (self : DeviceActivation)

/-- A whole call of `process_activation`, with the token that it stores. -/
def activate (env : Surroundings) (request : ActivationRequest) (s : ActivationStore) :
    Except Exn (ActivationResponse × ActivationStore) :=
  if ¬validate_request request then .ok (failure (-103) "Device authentication failed".toList, s)
  else
    match env.get_device_model_by_key request.model_key with
    | none => .ok (failure (-404) ("model_key not found: ".toList ++ request.model_key), s)
    | some model =>
      match env.get_device_type model.type_code with
      | none => .ok (failure (-404) ("device_type not found: ".toList ++ model.type_code), s)
      | some dtype =>
        match s.devices.get_device_by_hwuid env.answers request.uid with
        | some (.ok existing) => .ok (self.existing_info env request existing, s)
        | some (.error e) => .error e
        | none =>
          match self.stored env request model dtype s.devices with
          | none => .ok (failure StatusCode.STORAGE_WRITE_ERROR.toInt "Database insert failed".toList, s)
          | some devices =>
            let dev := self.new_device env request model dtype
            let s := { s with devices := devices }
            let s := Database.store_activation_token dev.device_id env.activation_token env.now (env.now + ttl.toInt) s
            .ok (self.new_info env request model dtype dev, s)

/-- `device_id` goes into the statement as it is. With a quote in it, that can
be any statement: `injected` is what it does. -/
def revoke_token (injected : ActivationStore → ActivationStore) (device_id : Str) (s : ActivationStore) :
    StatusCode × ActivationStore :=
  let set (row : ActivationToken) := { row with revoked := true }
  if '\'' ∈ device_id then (.OK, injected s)
  else
    (.OK, { s with activation_tokens := Rows.update ActivationToken.device_id device_id set s.activation_tokens })

def renew_token (token : Str) (now : Int) (device_id : Str) (resp : ActivationResponse) (s : ActivationStore) :
    Except Exn (StatusCode × ActivationResponse × ActivationStore) :=
  match s.devices.get_device device_id with
  | none => .ok (.DEV_NOT_ACTIVATED, resp, s)
  | some (.error e) => .error e
  | some (.ok _) =>
    .ok (.OK, { resp with success := true, device_id := device_id, activation_token := token, ttl_seconds := ttl },
      Database.store_activation_token device_id token now (now + ttl.toInt) s)

theorem device_exists_eq (answers : Bool) (uid : Str) (t : DevicesTable) :
    t.device_exists answers uid = (t.get_device_by_hwuid answers uid).isSome := by
  rw [DevicesTable.device_exists, DevicesTable.get_device_by_hwuid]
  cases answers
  · rfl
  · simp

/-- A step of a call, together with the devices. -/
def go (env : Surroundings) (request : ActivationRequest) (p : Phase × DevicesTable) : Phase × DevicesTable :=
  self.process_activation env request p.1 p.2

/-- A whole call goes through at most three phases. -/
theorem activate_eq_phases (env : Surroundings) (request : ActivationRequest) (s : ActivationStore) :
    self.go env request (self.go env request (self.go env request (.received, s.devices))) =
      match self.activate env request s with
      | .ok (resp, s') => (.answered resp, s'.devices)
      | .error e => (.thrown e, s.devices) := by
  rw [activate, go, go, go, process_activation, device_exists_eq]
  by_cases hvalid : ¬validate_request request
  · rw [if_pos hvalid, if_pos hvalid]
    rfl
  · rw [if_neg hvalid, if_neg hvalid]
    cases env.get_device_model_by_key request.model_key with
    | none => rfl
    | some model =>
      dsimp only
      cases env.get_device_type model.type_code with
      | none => rfl
      | some dtype =>
        dsimp only
        cases hget : s.devices.get_device_by_hwuid env.answers request.uid with
        | none =>
          simp only [Option.isSome_none, Bool.false_eq_true, if_false, process_activation]
          cases self.stored env request model dtype s.devices <;> rfl
        | some found => cases found <;> simp [process_activation, hget]

/-- A request that gets to the devices. -/
def Activatable (env : Surroundings) (request : ActivationRequest) : Prop :=
  validate_request request ∧ ∃ model dtype, env.get_device_model_by_key request.model_key = some model ∧
    env.get_device_type model.type_code = some dtype

theorem activate_existing {env : Surroundings} {request : ActivationRequest} {s : ActivationStore} {existing : Device}
    (h : Activatable env request) (hget : s.devices.get_device_by_hwuid env.answers request.uid = some (.ok existing)) :
    self.activate env request s = .ok (self.existing_info env request existing, s) := by
  obtain ⟨hvalid, model, dtype, hmodel, hdtype⟩ := h
  rw [activate, if_neg (not_not.2 hvalid), hmodel]
  dsimp only
  rw [hdtype]
  dsimp only
  rw [hget]

/-- A success is that of a device that was there, or of a new one with its token. -/
theorem activate_cases {env : Surroundings} {request : ActivationRequest} {s s' : ActivationStore}
    {resp : ActivationResponse} (h : self.activate env request s = .ok (resp, s')) (hr : resp.success) :
    Activatable env request ∧
      ((∃ existing, s.devices.get_device_by_hwuid env.answers request.uid = some (.ok existing) ∧
        resp = self.existing_info env request existing ∧ s' = s) ∨
      ∃ model dtype devices, env.get_device_model_by_key request.model_key = some model ∧
        env.get_device_type model.type_code = some dtype ∧
        s.devices.get_device_by_hwuid env.answers request.uid = none ∧
        self.stored env request model dtype s.devices = some devices ∧
        resp = self.new_info env request model dtype (self.new_device env request model dtype) ∧
        s' = Database.store_activation_token resp.device_id env.activation_token env.now (env.now + ttl.toInt)
          { s with devices := devices }) := by
  -- the checks of the source in their order; a refused request has no success
  rw [activate] at h
  split at h
  case isTrue =>
    cases h
    cases hr
  case isFalse hvalid =>
    cases hmodel : env.get_device_model_by_key request.model_key with
    | none =>
      rw [hmodel] at h
      cases h
      cases hr
    | some model =>
      rw [hmodel] at h
      dsimp only at h
      cases hdtype : env.get_device_type model.type_code with
      | none =>
        rw [hdtype] at h
        cases h
        cases hr
      | some dtype =>
        rw [hdtype] at h
        refine ⟨⟨not_not.1 hvalid, model, dtype, hmodel, hdtype⟩, ?_⟩
        dsimp only at h
        split at h
        · rename_i existing hget
          obtain ⟨rfl, rfl⟩ := Prod.mk.inj (Except.ok.inj h)
          exact .inl ⟨existing, hget, rfl, rfl⟩
        · cases h
        · rename_i hget
          split at h
          · cases h
            cases hr
          · rename_i devices hstored
            obtain ⟨rfl, rfl⟩ := Prod.mk.inj (Except.ok.inj h)
            exact .inr ⟨model, dtype, devices, rfl, hdtype, hget, hstored, rfl, rfl⟩

theorem valid_activate {env : Surroundings} {request : ActivationRequest} {s s' : ActivationStore}
    {resp : ActivationResponse} (hvalid : s.devices.Valid) (h : self.activate env request s = .ok (resp, s')) :
    s'.devices.Valid := by
  rw [activate] at h
  repeat' split at h
  all_goals cases h
  all_goals first | exact hvalid | exact DevicesTable.valid_insert_device ‹_› hvalid

end DeviceActivation

/-! ## Runs -/

namespace ActivationStore
open DeviceActivation
variable (self : DeviceActivation)

inductive Event where
  | activate (env : Surroundings) (request : ActivationRequest)
  | renew_token (token : Str) (now : Int) (device_id : Str)
  | revoke_token (injected : ActivationStore → ActivationStore) (device_id : Str)

def next (s : ActivationStore) : Event → ActivationStore
  | .activate env request =>
    match self.activate env request s with
    | .ok (_, s) => s
    | .error _ => s
  | .renew_token token now device_id =>
    match DeviceActivation.renew_token token now device_id {} s with
    | .ok (_, _, s) => s
    | .error _ => s
  | .revoke_token injected device_id => (DeviceActivation.revoke_token injected device_id s).2

/-- From the answer on until its token expires, that is the one on file. -/
def OnFile (now : Int) (resp : ActivationResponse) (s : ActivationStore) : Prop :=
  ∀ later, now ≤ later → later ≤ now + resp.ttl_seconds.toInt →
    Database.get_activation_token later resp.device_id s = some resp.activation_token

/-- A success leaves its token on file. -/
def HandsOut (s : ActivationStore) : Event → Prop
  | .activate env request => ∀ resp s', self.activate env request s = .ok (resp, s') → resp.success →
    OnFile env.now resp s'
  | _ => True

/-- The device is new, or the token is by chance the one that is on file already. -/
def Files (s : ActivationStore) : Event → Prop
  | .activate env request => Activatable env request → ∀ existing,
    s.devices.get_device_by_hwuid env.answers request.uid = some (.ok existing) →
    ∃ row ∈ s.activation_tokens.find? (·.device_id = existing.device_id),
      row.token = env.activation_token ∧ ¬row.revoked ∧ env.now + ttl.toInt ≤ row.expires_at
  | _ => True

theorem get_stored (device_id token : Str) (issued_at expires_at later : Int) (s : ActivationStore) :
    Database.get_activation_token later device_id
        (Database.store_activation_token device_id token issued_at expires_at s) =
      if later > expires_at then none else some token := by
  let row : ActivationToken := { device_id, token, issued_at, expires_at }
  have hfind : (Rows.upsert ActivationToken.device_id row s.activation_tokens).find? (·.device_id = device_id) =
      some row := Rows.find?_upsert row _
  rw [Database.get_activation_token, Database.store_activation_token, hfind]
  simp [row]

/-- The token on file is good up to a time exactly if it has not been revoked and does not expire before. -/
theorem get_until_iff {device_id token : Str} {now expires : Int} (hle : now ≤ expires) (s : ActivationStore) :
    (∀ later, now ≤ later → later ≤ expires → Database.get_activation_token later device_id s = some token) ↔
      ∃ row ∈ s.activation_tokens.find? (·.device_id = device_id),
        row.token = token ∧ ¬row.revoked ∧ expires ≤ row.expires_at := by
  unfold Database.get_activation_token
  cases s.activation_tokens.find? (·.device_id = device_id) with
  | none =>
    refine iff_of_false (fun h => ?_) (fun ⟨row, hrow, _⟩ => by cases hrow)
    cases h expires hle (Int.le_refl _)
  | some row =>
    simp only [Option.mem_def, Option.some.injEq, exists_eq_left']
    constructor
    · intro h
      have hlast := h expires hle (Int.le_refl _)
      split_ifs at hlast with hbad
      rw [not_or, Int.not_gt_eq] at hbad
      exact ⟨Option.some.inj hlast, hbad.1, hbad.2⟩
    · rintro ⟨rfl, hrevoked, hexpires⟩ later - hlater
      have hgood : ¬(row.revoked ∨ later > row.expires_at) := by
        rintro (hrow | hrow)
        · exact hrevoked hrow
        · omega
      rw [if_neg hgood]

theorem handsOut_iff (s : ActivationStore) (e : Event) : HandsOut self s e ↔ Files s e := by
  cases e with
  | renew_token token now device_id => exact Iff.rfl
  | revoke_token injected device_id => exact Iff.rfl
  | activate env request =>
    have httl : env.now ≤ env.now + ttl.toInt := by
      have hpos : 0 ≤ ttl.toInt := by decide
      omega
    constructor
    · intro h hactivatable existing hget
      have heq := self.activate_existing hactivatable hget
      have hfile : OnFile env.now (self.existing_info env request existing) s := h _ s heq rfl
      exact (get_until_iff httl s).1 hfile
    · intro h resp s' hresp hsuccess
      obtain ⟨hactivatable, ⟨existing, hget, rfl, rfl⟩ | ⟨model, dtype, devices, -, -, -, -, rfl, rfl⟩⟩ :=
        self.activate_cases hresp hsuccess
      · exact (get_until_iff httl s').2 (h hactivatable existing hget)
      · intro later _ hlater
        have hgood : ¬later > env.now + ttl.toInt := Int.not_lt.2 hlater
        rw [get_stored, if_neg hgood]
        rfl

/-- In a run, every token that is handed out is the one on file exactly if no
device that is there is activated again (but for a token that happens to be the
one on file). -/
theorem tokens_on_file_iff (init : ActivationStore) (es : List Event) :
    (∀ p ∈ passed (next self) init es, HandsOut self p.1 p.2) ↔ ∀ p ∈ passed (next self) init es, Files p.1 p.2 :=
  forall_congr' fun p => forall_congr' fun _ => handsOut_iff self p.1 p.2

/-! ## A unit that is activated twice -/

def request : ActivationRequest := ⟨"A1B2C3D4".toList, "acm_200_v1".toList⟩

/-- The registry, a random token and the time. -/
def at_time (token : Str) (now : Int) : Surroundings := { Activations.two_models with activation_token := token, now }

def twice : List Event := [.activate (at_time "1ec5f204".toList 0) request, .activate (at_time "b3ab73e2".toList 60) request]

/-- The second answer comes with a token that nobody has stored. -/
theorem tokens_on_file_fails :
    ¬∀ p ∈ passed (next Activations.hashed) {} twice, HandsOut Activations.hashed p.1 p.2 := by
  let s := next Activations.hashed {} (.activate (at_time "1ec5f204".toList 0) request)
  let resp : ActivationResponse :=
    { success := true, device_id := "37e5f2875b502191".toList, model_key := "acm_200_v1".toList
      model_code := "ACM-200".toList, tenant_id := "default".toList, product_id := "coffee_v1".toList
      device_type := "coffee_machine".toList, activation_token := "b3ab73e2".toList
      mqtt_broker_uri := "tcp://127.0.0.1:1883".toList, ttl_seconds := 31536000 }
  have hanswer : (Activations.hashed.activate (at_time "b3ab73e2".toList 60) request s).map (·.1) = .ok resp := by
    decide +kernel
  have hfile : ((Activations.hashed.activate (at_time "b3ab73e2".toList 60) request s).toOption.bind fun r =>
      Database.get_activation_token 60 resp.device_id r.2) = some "1ec5f204".toList := by decide +kernel
  intro h
  have hstep := h _ (List.mem_cons_of_mem _ List.mem_cons_self)
  cases hok : Activations.hashed.activate (at_time "b3ab73e2".toList 60) request s with
  | error e =>
    rw [hok] at hanswer
    cases hanswer
  | ok r =>
    rw [hok] at hanswer hfile
    obtain ⟨resp', s'⟩ := r
    obtain rfl : resp' = resp := Except.ok.inj hanswer
    have honfile := hstep _ _ hok rfl 60 (Int.le_refl _) (by decide)
    have hsame : some "1ec5f204".toList = some "b3ab73e2".toList := hfile.symm.trans honfile
    exact absurd hsame (by decide +kernel)

end ActivationStore

end DevSys
