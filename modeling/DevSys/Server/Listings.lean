import DevSys.Device.DeviceManager
import DevSys.Organization.AccountManager
import DevSys.Server.Http
/-!
# The device and tenant listings

A listing is cut down to the caller's scope when a token verifies, and is
answered in full when none does.
-/
open Cxx JsonText

namespace DevSys

/-- The managers the handlers share, and the clock. -/
structure Services where
  device_mgr : DeviceManager := {}
  acct_mgr : AccountManager := {}
  org_mgr : OrgManager := {}
  now : Int := 0

namespace Listings
open Json

/-! ## Authentication -/

/-- The bearer token of the header, or the token in the body. -/
def request_token (req : HttpRequest) : Str :=
  let bearer := "Bearer ".toList
  let token := match req.headers.lookup "Authorization".toList with
    | none => []
    | some value => if find bearer value = some 0 then value.drop 7 else []
  if token = [] then JsonHelper.get_string req.body "token".toList else token

def extract_auth (req : HttpRequest) (s : Services) : Except Exn (Option TokenPayload) :=
  let token := request_token req
  if token = [] then .ok none else s.acct_mgr.verify_token s.org_mgr s.now token

/-! ## Handlers -/

/-- The tenants of the organisations in the caller's scope. -/
def visible_tenants (org_mgr : OrgManager) (tp : TokenPayload) : List Str :=
  tp.org_scope.filterMap fun oid => (org_mgr.get_org oid).map (·.tenant_id)

def super_admin : Str := "super_admin".toList

def scope_devices (org_mgr : OrgManager) (devices : List Device) : Option TokenPayload → List Device
  | none => devices
  | some tp =>
    if tp.role_code ≠ super_admin then devices.filter fun d => (visible_tenants org_mgr tp).contains d.tenant_id
    else devices

def scope_orgs (orgs : List OrgInfo) : Option TokenPayload → List OrgInfo
  | none => orgs
  | some tp => if tp.role_code ≠ super_admin then orgs.filter (·.org_id ∈ tp.org_scope) else orgs

def bool_text (b : Bool) : Str := if b then "true".toList else "false".toList

def device_status_json (dev : Device) : Str :=
  object
    [strMember "device_id".toList dev.device_id, strMember "tenant_id".toList dev.tenant_id,
      member "network_status".toList (to_string dev.network_status.val.toNat),
      member "work_status".toList (to_string dev.work_status.val.toNat),
      member "type".toList (to_string dev.type.val.toNat)]

def device_json (d : Device) : Str :=
  object
    [strMember "device_id".toList d.device_id, strMember "tenant_id".toList d.tenant_id,
      strMember "product_id".toList d.product_id, strMember "model".toList d.model,
      strMember "hardware_uid".toList d.hardware_uid, strMember "firmware_version".toList d.firmware_version,
      member "type".toList (to_string d.type.val.toNat),
      member "network_status".toList (to_string d.network_status.val.toNat),
      member "work_status".toList (to_string d.work_status.val.toNat),
      member "activated".toList (bool_text d.activated), member "ts".toList (to_string d.last_heartbeat_at),
      member "activated_at".toList (to_string d.activated_at)]

def tenant_json (device_mgr : DeviceManager) (o : OrgInfo) : Str :=
  object
    [member "org_id".toList (to_string o.org_id.toInt), strMember "tenant_id".toList o.tenant_id,
      strMember "org_name".toList o.org_name, strMember "org_type".toList o.org_type,
      member "parent_id".toList (to_string o.parent_id.toInt), member "level".toList (to_string o.level.toInt),
      strMember "path".toList o.path, member "active".toList (bool_text o.is_active),
      member "device_count".toList (to_string (device_mgr.device_count o.tenant_id))]

/-- The number of records and the records. -/
def listing (key : Str) (records : List Str) : Str :=
  object [member "total".toList (to_string records.length), member key (array records)]

def success (data : Str) : Str :=
  object [member "code".toList ['0'], strMember "message".toList "success".toList, member "data".toList data]

/-- `GET /api/v1/device/status`. -/
def get_device_status (req : HttpRequest) (s : Services) : Except Exn HttpResponse := do
  let tp ← extract_auth req s
  let devices := scope_devices s.org_mgr s.device_mgr.list_all_devices tp
  .ok (json_response 200 (listing "devices".toList (devices.map device_status_json)))

/-- `GET /api/v1/devices`. -/
def get_devices (req : HttpRequest) (s : Services) : Except Exn HttpResponse := do
  let tp ← extract_auth req s
  let devices := scope_devices s.org_mgr s.device_mgr.list_all_devices tp
  .ok (json_response 200 (success (listing "devices".toList (devices.map device_json))))

/-- `GET /api/v1/tenants`. -/
def get_tenants (req : HttpRequest) (s : Services) : Except Exn HttpResponse := do
  let tp ← extract_auth req s
  let orgs := scope_orgs (s.org_mgr.list_orgs (-1) [] true) tp
  .ok (json_response 200 (success (listing "tenants".toList (orgs.map (tenant_json s.device_mgr)))))

/-! ## What an answer reveals -/

/-- The three routes with a filter. -/
inductive Route where
  | device_status
  | devices
  | tenants
  deriving DecidableEq, Repr

def Route.handle : Route → HttpRequest → Services → Except Exn HttpResponse
  | .device_status => get_device_status
  | .devices => get_devices
  | .tenants => get_tenants

/-- How the record of a device starts in an answer. -/
def deviceRecord (d : Device) : Str :=
  strMember "device_id".toList d.device_id ++ ',' :: strMember "tenant_id".toList d.tenant_id

/-- How the record of a tenant starts in an answer. -/
def tenantRecord (o : OrgInfo) : Str :=
  member "org_id".toList (to_string o.org_id.toInt) ++ ',' :: strMember "tenant_id".toList o.tenant_id

/-- A text with no record of a stored device or organisation in it. -/
structure Hides (s : Services) (text : Str) : Prop where
  devices : ∀ tenant id d, s.device_mgr.rec? tenant id = some d → ¬ deviceRecord d <:+: text
  tenants : ∀ o ∈ s.org_mgr.orgs_, ¬ tenantRecord o <:+: text

/-- The caller is answered without a record, or not at all. -/
def RevealsNothing (s : Services) (answer : Except Exn HttpResponse) : Prop :=
  ∀ resp, answer = .ok resp → Hides s resp.body

/-- There is nothing to list. -/
def Route.Empty (s : Services) : Route → Prop
  | .tenants => ∀ o ∈ s.org_mgr.orgs_, o.is_active = false
  | _ => ∀ tenant id, s.device_mgr.rec? tenant id = none

/-! ## A refused caller gets the full list -/

/-- The records of the full list. -/
def Route.records (s : Services) : Route → List Str
  | .device_status => s.device_mgr.list_all_devices.map device_status_json
  | .devices => s.device_mgr.list_all_devices.map device_json
  | .tenants => (s.org_mgr.list_orgs (-1) [] true).map (tenant_json s.device_mgr)

/-- The answer with these records. -/
def Route.answer (records : List Str) : Route → Str
  | .device_status => listing "devices".toList records
  | .devices => success (listing "devices".toList records)
  | .tenants => success (listing "tenants".toList records)

theorem extract_auth_of_refused {req : HttpRequest} {s : Services} (h : s.acct_mgr.Refused s.now (request_token req))
    (hread : ¬ s.acct_mgr.Unreadable (request_token req)) : extract_auth req s = .ok none := by
  unfold extract_auth
  by_cases ht : request_token req = []
  · exact if_pos ht
  · exact (if_neg ht).trans (AccountManager.verify_token_of_refused h hread s.org_mgr)

theorem extract_auth_of_unreadable {req : HttpRequest} {s : Services}
    (h : s.acct_mgr.Unreadable (request_token req)) : ∃ e, extract_auth req s = .error e := by
  obtain ⟨e, he⟩ := AccountManager.verify_token_of_unreadable h s.org_mgr s.now
  refine ⟨e, ?_⟩
  rw [extract_auth, if_neg, he]
  intro ht
  rw [ht] at h
  exact s.acct_mgr.not_unreadable_nil h

theorem handle_of_none {req : HttpRequest} {s : Services} (h : extract_auth req s = .ok none) (r : Route) :
    r.handle req s = .ok (json_response 200 (r.answer (r.records s))) := by
  cases r <;> simp only [Route.handle, get_device_status, get_devices, get_tenants, h] <;> rfl

theorem handle_of_error {req : HttpRequest} {s : Services} {e : Exn} (h : extract_auth req s = .error e) (r : Route) :
    r.handle req s = .error e := by
  cases r <;> simp only [Route.handle, get_device_status, get_devices, get_tenants, h] <;> rfl

/-- Every record is part of the answer. -/
theorem infix_answer {x : Str} {records : List Str} (h : x ∈ records) (r : Route) : x <:+: r.answer records := by
  have hlist (key : Str) : x <:+: listing key records :=
    ((infix_array h).trans (infix_member key _)).trans (infix_object (by simp))
  have hsuccess (key : Str) : x <:+: success (listing key records) :=
    ((hlist key).trans (infix_member "data".toList _)).trans (infix_object (by simp))
  cases r
  · exact hlist _
  · exact hsuccess _
  · exact hsuccess _

/-- An answer without records has no record of anything. -/
theorem hides_answer_nil (s : Services) (r : Route) : Hides s (r.answer []) := by
  have hdevice : ¬ keyPat "device_id".toList <:+: r.answer [] := by cases r <;> decide
  have horg : ¬ keyPat "org_id".toList <:+: r.answer [] := by cases r <;> decide
  constructor
  · intro _ _ d _ h
    refine hdevice (List.IsInfix.trans ?_ h)
    rw [deviceRecord, strMember, List.append_assoc, List.append_assoc]
    exact List.infix_append_left
  · intro o _ h
    refine horg (List.IsInfix.trans ?_ h)
    rw [tenantRecord, member, List.append_assoc]
    exact List.infix_append_left

/-- Hiding everything leaves only the empty list. -/
theorem empty_of_hides {s : Services} {r : Route} (h : Hides s (r.answer (r.records s))) : r.Empty s := by
  have hdevice (render : Device → Str) (hr : ∀ d, deviceRecord d <:+: render d)
      (hrec : r.records s = s.device_mgr.list_all_devices.map render) (tenant id : Str) :
      s.device_mgr.rec? tenant id = none := by
    cases hd : s.device_mgr.rec? tenant id with
    | none => rfl
    | some d =>
      have hmem : render d ∈ r.records s := by
        rw [hrec]
        exact List.mem_map_of_mem (DeviceManager.mem_list_all_devices.2 ⟨tenant, id, hd⟩)
      exact absurd ((hr d).trans (infix_answer hmem r)) (h.devices tenant id d hd)
  -- in every listing a record starts with the two members looked for
  cases r with
  | device_status => exact hdevice device_status_json (fun d => first_members_of_object _ _ _) rfl
  | devices => exact hdevice device_json (fun d => first_members_of_object _ _ _) rfl
  | tenants =>
    intro o ho
    by_contra hactive
    have hlisted : o ∈ s.org_mgr.list_orgs (-1) [] true := by
      refine List.mem_filter.2 ⟨ho, ?_⟩
      simp [hactive]
    have hmem : tenant_json s.device_mgr o ∈ Route.tenants.records s := List.mem_map_of_mem hlisted
    exact h.tenants o ho ((first_members_of_object _ _ _).trans (infix_answer hmem .tenants))

theorem records_of_empty {s : Services} {r : Route} (h : r.Empty s) : r.records s = [] := by
  have hdevices (h : ∀ tenant id, s.device_mgr.rec? tenant id = none) : s.device_mgr.list_all_devices = [] := by
    refine List.eq_nil_iff_forall_not_mem.2 fun d hd => ?_
    obtain ⟨t, id, hrec⟩ := DeviceManager.mem_list_all_devices.1 hd
    rw [h t id] at hrec
    cases hrec
  cases r with
  | device_status => simp [Route.records, hdevices h]
  | devices => simp [Route.records, hdevices h]
  | tenants =>
    have hnone : s.org_mgr.list_orgs (-1) [] true = [] := by
      refine List.filter_eq_nil_iff.2 fun o ho => ?_
      simp [h o ho]
    simp [Route.records, hnone]

/-- A refused caller gets the full list: nothing is revealed exactly when there
is nothing to list, or the handler throws before it answers. -/
theorem revealsNothing_iff (r : Route) (req : HttpRequest) (s : Services)
    (h : s.acct_mgr.Refused s.now (request_token req)) :
    RevealsNothing s (r.handle req s) ↔ r.Empty s ∨ s.acct_mgr.Unreadable (request_token req) := by
  by_cases hread : s.acct_mgr.Unreadable (request_token req)
  · obtain ⟨e, he⟩ := extract_auth_of_unreadable hread
    refine iff_of_true ?_ (.inr hread)
    rw [handle_of_error he]
    intro resp hresp
    cases hresp
  · have hanswer := handle_of_none (extract_auth_of_refused h hread) r
    rw [hanswer, or_iff_left hread]
    constructor
    · intro hr
      exact empty_of_hides (hr _ rfl)
    · rintro hempty resp ⟨⟩
      rw [records_of_empty hempty]
      exact hides_answer_nil s r

/-- The token of an account that is deleted, or that has logged out, learns nothing
where the only organisation is inactive and no device is stored. -/
theorem revealsNothing_deleted :
    let account : AccountInfo := { account_id := 1, username := "ana".toList }
    let accounts : AccountManager := { accounts_ := [account], next_id_ := 2 }
    let acme : OrgInfo := { org_id := 1, tenant_id := "acme".toList, is_active := false }
    let token := AccountManager.generate_token 0 account
    let req : HttpRequest := { body := "\x7b\"token\":\"mock_jwt:1:86400\"\x7d".toList }
    let deleted : Services := { acct_mgr := (accounts.delete_account 1).2, org_mgr := { orgs_ := [acme] } }
    let logged_out : Services := { acct_mgr := (accounts.logout token).2 }
    RevealsNothing deleted (get_tenants req deleted) ∧ RevealsNothing logged_out (get_devices req logged_out) := by
  intro account accounts acme token req deleted logged_out
  have htoken : request_token req = token := by decide
  have hdeleted : deleted.acct_mgr.Refused deleted.now (request_token req) := by
    rw [htoken]
    exact AccountManager.refused_delete_account 0 0 account accounts (by decide) (by decide)
  have hlogged_out : logged_out.acct_mgr.Refused logged_out.now (request_token req) := by
    rw [htoken]
    exact AccountManager.refused_logout 0 token accounts
  refine ⟨(revealsNothing_iff .tenants req deleted hdeleted).2 (.inl ?_),
    (revealsNothing_iff .devices req logged_out hlogged_out).2 (.inl ?_)⟩
  · intro o ho
    rw [List.mem_singleton.1 ho]
  · exact fun _ _ => DeviceManager.rec?_empty _ _

/-- A request without a token is told of acme's only device. -/
theorem revealsNothing_fails :
    let s : Services :=
      { device_mgr := ({} : DeviceManager).store "acme".toList "dev-1".toList
          { tenant_id := "acme".toList, device_id := "dev-1".toList } }
    s.acct_mgr.Refused s.now (request_token {}) ∧ ¬ RevealsNothing s (get_devices {} s) := by
  intro s
  refine ⟨.missing rfl, fun h => ?_⟩
  have hauth : extract_auth {} s = .ok none := by rfl
  have hempty : Route.devices.Empty s := empty_of_hides (h _ (handle_of_none hauth .devices))
  have := hempty "acme".toList "dev-1".toList
  rw [DeviceManager.rec?_store] at this
  simp at this

end Listings

end DevSys
