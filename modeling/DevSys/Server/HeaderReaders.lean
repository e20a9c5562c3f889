import DevSys.Device.TypeManager
import DevSys.Ota.FirmwareStore
import DevSys.Server.HeaderNames
import DevSys.Server.Routes
/-!
# The handlers that read a header

Eight of the routes look up a header, under one spelling each. The handlers of
these are given in full, the others answer without the headers.
-/
open Cxx

namespace DevSys

namespace DeviceTypeManager

def list_models (type_code : Str) (active_only : Bool) (s : DeviceRegistry) : List DeviceModelInfo :=
  Database.list_device_models type_code active_only s

end DeviceTypeManager

namespace HeaderNames
open ApiServer Handlers JsonHelper Json

/-! ## Handlers -/

def model_json (m : DeviceModelInfo) : Str :=
  object
    [member "id".toList (to_string m.id.toInt), strMember "model_code".toList m.model_code,
      strMember "model_key".toList m.model_key, strMember "type_code".toList m.type_code,
      strMember "display_name".toList m.display_name, strMember "description".toList m.description,
      strMember "specs_json".toList m.specs_json, strMember "firmware_base".toList m.firmware_base,
      member "is_active".toList (Listings.bool_text m.is_active),
      member "sort_order".toList (to_string m.sort_order.toInt), strMember "created_at".toList m.created_at]

/-- `GET /api/v1/device-models`. The filter in the path wins over the header. -/
def get_device_models (req : HttpRequest) (s : DeviceRegistry) : HttpResponse :=
  let filter_type := (req.headers.lookup "X-Filter-Type".toList).getD []
  let filter_type := match find "?type_code=".toList req.path with
    | none => filter_type
    | some qpos => req.path.drop (qpos + 11)
  let models := DeviceTypeManager.list_models filter_type true s
  json_response 200 (Listings.listing "models".toList (models.map model_json))

/-- `POST /api/v1/auth/logout`. -/
def post_auth_logout (req : HttpRequest) (s : AccountManager) : HttpResponse × AccountManager :=
  let token := get_string req.body "token".toList
  let token := if token = [] then bearer_token req else token
  (json_response 200 (Listings.success (object [member "logout".toList "true".toList])), (s.logout token).2)

def profile_json (tp : TokenPayload) (acct : AccountInfo) : Str :=
  object
    [member "account_id".toList (to_string acct.account_id.toInt), strMember "username".toList acct.username,
      strMember "display_name".toList acct.display_name, member "org_id".toList (to_string acct.org_id.toInt),
      strMember "org_name".toList acct.org_name, strMember "role_code".toList acct.role_code,
      strMember "email".toList acct.email, strMember "phone".toList acct.phone,
      member "permissions".toList
        (array ((AccountManager.permissions_for_role acct.role_code).map fun p => '"' :: p ++ ['"'])),
      member "org_scope".toList (array (tp.org_scope.map fun oid => to_string oid.toInt))]

def unauthorized (msg : Str) : HttpResponse := error_response 401 1004 msg

/-- `GET /api/v1/auth/profile`. -/
def get_auth_profile (req : HttpRequest) (s : Services) : Except Exn HttpResponse :=
  let token := bearer_token req
  if token = [] then .ok (unauthorized "Missing Authorization Bearer Token".toList)
  else do
    match ← s.acct_mgr.verify_token s.org_mgr s.now token with
    | none => .ok (unauthorized "Invalid or expired token".toList)
    | some tp => match s.acct_mgr.get_account tp.account_id with
      | none => .ok (unauthorized "Account not found".toList)
      | some acct => .ok (json_response 200 (Listings.success (profile_json tp acct)))

/-- What the handlers share, and what is around them. -/
structure World extends Server where
  registry : DeviceRegistry :=
    { device_types := [], device_models := [], types_unique := List.nodup_nil, models_unique := List.nodup_nil }
  ota : OtaManager := {}
  checksum : Str → Str := fun _ => []
  /-- The firmware file can be opened for writing. -/
  is_open : Bool := true
  alloc : Nat → Option Thrown := fun _ => none
  answer : Route → HttpRequest → Server → HttpResponse := fun _ _ _ => {}

/-- The handler of a route. Those that are not given in full answer with `answer`. -/
def World.handle (w : World) (r : Route) : RouteHandler := fun req =>
  match r with
  | .get_device_models => .ok (get_device_models req w.registry)
  | .post_firmware_upload =>
    .ok (FirmwareStore.post_firmware_upload w.checksum w.now w.is_open req w.ota).response
  | .post_auth_logout => .ok (post_auth_logout req w.acct_mgr).1
  | .get_auth_profile => (get_auth_profile req w.toServices).mapError .text
  | r => r.handle w.alloc (fun r req s => w.answer r (bare req) s) w.toServer req

def World.table (w : World) (order : List Route) : List (Str × RouteHandler) := order.map fun r => (r.key, w.handle r)

/-- The header a handler looks up, as it spells it. -/
def header_read : Route → Option Str
  | .get_device_status | .get_devices | .get_tenants | .get_auth_profile | .post_auth_logout =>
    some "Authorization".toList
  | .get_device_models => some "X-Filter-Type".toList
  | .post_firmware_upload => some "Host".toList
  | .get_firmware_download => some "Range".toList
  | _ => none

/-! ## Values that matter -/

def bearer (value : Str) : Str := if find "Bearer ".toList value = some 0 then value.drop 7 else []

def body_token (req : HttpRequest) : Str := get_string req.body "token".toList

/-- A token of the header that is not the one of the body, where one of them can mean something. -/
def TokenMatters (t body : Str) : Prop :=
  t ≠ [] ∧ t ≠ body ∧ ¬(AccountManager.parse_token t = .ok none ∧ AccountManager.parse_token body = .ok none)

/-- The handler answers otherwise than without the header, in some state. -/
def Heeded (r : Route) (req : HttpRequest) (value : Str) : Prop :=
  match r with
  | .get_device_status | .get_devices | .get_tenants => TokenMatters (bearer value) (body_token req)
  | .get_auth_profile => bearer value ≠ []
  | .get_device_models => value ≠ []
  | .post_firmware_upload =>
    qp req.query "version".toList ≠ [] ∧ qp req.query "product_id".toList ≠ [] ∧ value ≠ "127.0.0.1:9080".toList
  | .get_firmware_download =>
    '/' ∈ req.path.drop "/api/v1/ota/firmwares/download/".toList.length ∧ "bytes=".toList <+: value ∧ '-' ∈ value.drop 6
  | _ => False

/-! ## The listings -/

/-- Who asks, by a token. -/
def auth_of (token : Str) (s : Services) : Except Exn (Option TokenPayload) :=
  if token = [] then .ok none else s.acct_mgr.verify_token s.org_mgr s.now token

/-- The records of a listing for who asks. -/
def records_for (r : Listings.Route) (s : Services) (tp : Option TokenPayload) : List Str :=
  match r with
  | .device_status =>
    (Listings.scope_devices s.org_mgr s.device_mgr.list_all_devices tp).map Listings.device_status_json
  | .devices => (Listings.scope_devices s.org_mgr s.device_mgr.list_all_devices tp).map Listings.device_json
  | .tenants => (Listings.scope_orgs (s.org_mgr.list_orgs (-1) [] true) tp).map (Listings.tenant_json s.device_mgr)

/-- A listing depends on the token alone. -/
theorem listing_eq (r : Listings.Route) (req : HttpRequest) (s : Services) :
    r.handle req s = (auth_of (Listings.request_token req) s).map fun tp =>
      json_response 200 (r.answer (records_for r s tp)) := by
  have hauth : Listings.extract_auth req s = auth_of (Listings.request_token req) s := rfl
  cases r with
  | device_status =>
    rw [Listings.Route.handle, Listings.get_device_status, hauth]
    cases auth_of (Listings.request_token req) s <;> rfl
  | devices =>
    rw [Listings.Route.handle, Listings.get_devices, hauth]
    cases auth_of (Listings.request_token req) s <;> rfl
  | tenants =>
    rw [Listings.Route.handle, Listings.get_tenants, hauth]
    cases auth_of (Listings.request_token req) s <;> rfl

theorem auth_of_unparsed {token : Str} (h : AccountManager.parse_token token = .ok none) (s : Services) :
    auth_of token s = .ok none := by
  rw [auth_of, AccountManager.verify_token, h]
  simp

theorem auth_of_logged_out {token : Str} {s : Services} (h : token ∈ s.acct_mgr.invalidated_tokens_) :
    auth_of token s = .ok none := by
  rw [auth_of, AccountManager.verify_token, if_pos h, ite_self]

theorem request_token_of_lookup {req : HttpRequest} {value : Str}
    (h : req.headers.lookup "Authorization".toList = some value) :
    Listings.request_token req = if bearer value = [] then body_token req else bearer value := by
  rw [Listings.request_token, h]
  rfl

theorem request_token_bare (req : HttpRequest) : Listings.request_token (bare req) = body_token req := rfl

/-- A token that does not matter asks for the same as the body. -/
theorem listing_bare {req : HttpRequest} (h : ∀ value, req.headers.lookup "Authorization".toList = some value →
    ¬TokenMatters (bearer value) (body_token req)) (r : Listings.Route) (s : Services) :
    r.handle req s = r.handle (bare req) s := by
  rw [listing_eq, listing_eq, request_token_bare]
  cases hlookup : req.headers.lookup "Authorization".toList with
  | none =>
    have htoken : Listings.request_token req = body_token req := by
      rw [Listings.request_token, hlookup]
      rfl
    rw [htoken]
  | some value =>
    rw [request_token_of_lookup hlookup]
    by_cases hnil : bearer value = []
    · rw [if_pos hnil]
    by_cases hbody : bearer value = body_token req
    · rw [if_neg hnil, hbody]
    have hunparsed : AccountManager.parse_token (bearer value) = .ok none ∧
        AccountManager.parse_token (body_token req) = .ok none := by
      by_contra hparse
      exact h value hlookup ⟨hnil, hbody, hparse⟩
    rw [if_neg hnil, auth_of_unparsed hunparsed.1, auth_of_unparsed hunparsed.2]

/-- An account below `super_admin`, with a device and an organisation outside of its
scope, and a token that is logged out. -/
def outside (account_id : Int32) (now : Int) (other : Str) : Services where
  device_mgr := ({} : DeviceManager).store "acme".toList "dev-1".toList
    { tenant_id := "acme".toList, device_id := "dev-1".toList }
  org_mgr := { orgs_ := [{ org_id := 1, tenant_id := "acme".toList }] }
  acct_mgr :=
    { accounts_ := [{ account_id := account_id, org_id := 2, role_code := "viewer".toList }]
      invalidated_tokens_ := [other] }
  now := now

theorem ne_nil_of_parse_token {t : Str} (h : AccountManager.parse_token t ≠ .ok none) : t ≠ [] := by
  rintro rfl
  exact h AccountManager.parse_token_nil

theorem auth_of_outside {t other : Str} {id : Int32} {exp : Int} (hne : t ≠ other)
    (hparse : AccountManager.parse_token t = .ok (some (id, exp))) :
    ∃ tp, auth_of t (outside id exp other) = .ok (some tp) ∧ tp.role_code = "viewer".toList ∧ tp.org_scope = [2] := by
  have hnil : t ≠ [] := ne_nil_of_parse_token (by rw [hparse]; simp)
  have hnow : ¬(outside id exp other).now > exp := Int.lt_irrefl exp
  have hin : t ∉ (outside id exp other).acct_mgr.invalidated_tokens_ := fun hmem => hne (List.mem_singleton.1 hmem)
  have hfind : (outside id exp other).acct_mgr.get_account id =
      some { account_id := id, org_id := 2, role_code := "viewer".toList } := by
    simp [AccountManager.get_account, outside]
  rw [auth_of, if_neg hnil, AccountManager.verify_token, if_neg hin, hparse]
  dsimp only
  rw [if_neg hnow, hfind]
  exact ⟨_, rfl, rfl, rfl⟩

/-- The device and the organisation are listed to anyone but the account. -/
theorem answer_outside_ne (r : Listings.Route) (id : Int32) (now : Int) (other : Str) {tp : TokenPayload}
    (hrole : tp.role_code = "viewer".toList) (hscope : tp.org_scope = [2]) :
    r.answer (records_for r (outside id now other) (some tp)) ≠ r.answer (records_for r (outside id now other) none) := by
  have hviewer : "viewer".toList ≠ Listings.super_admin := by decide
  have htenants : Listings.visible_tenants (outside id now other).org_mgr tp = [] := by
    rw [Listings.visible_tenants, hscope]
    rfl
  have hscoped : records_for r (outside id now other) (some tp) = [] := by
    cases r with
    | tenants =>
      rw [records_for, Listings.scope_orgs, if_pos (by rw [hrole]; exact hviewer), hscope]
      rfl
    | _ =>
      rw [records_for, Listings.scope_devices, if_pos (by rw [hrole]; exact hviewer), htenants]
      rfl
  have hfull : r.answer [] ≠ r.answer (records_for r (outside 0 0 []) none) := by cases r <;> decide
  rw [hscoped]
  exact hfull

/-- A token that can be read is told from one that cannot. -/
theorem exists_auth_ne {t other : Str} (hne : t ≠ other) (hparse : AccountManager.parse_token t ≠ .ok none)
    (r : Listings.Route) : ∃ s, auth_of other s = .ok none ∧
      ∀ tp, auth_of t s = .ok tp → r.answer (records_for r s tp) ≠ r.answer (records_for r s none) := by
  rcases ht : AccountManager.parse_token t with e | _ | ⟨id, exp⟩
  · refine ⟨outside 0 0 other, auth_of_logged_out List.mem_cons_self, fun tp htp => ?_⟩
    have hin : t ∉ (outside 0 0 other).acct_mgr.invalidated_tokens_ := fun hmem => hne (List.mem_singleton.1 hmem)
    rw [auth_of, if_neg (ne_nil_of_parse_token hparse), AccountManager.verify_token, if_neg hin, ht] at htp
    cases htp
  · exact absurd ht hparse
  · refine ⟨outside id exp other, auth_of_logged_out List.mem_cons_self, fun tp htp => ?_⟩
    obtain ⟨tp', htp', hrole, hscope⟩ := auth_of_outside hne ht
    rw [htp'] at htp
    cases htp
    exact answer_outside_ne r id exp other hrole hscope

theorem listing_ne_of_auth {r : Listings.Route} (req req' : HttpRequest) {s : Services}
    (hnone : auth_of (Listings.request_token req) s = .ok none)
    (hne : ∀ tp, auth_of (Listings.request_token req') s = .ok tp →
      r.answer (records_for r s tp) ≠ r.answer (records_for r s none)) : r.handle req' s ≠ r.handle req s := by
  rw [listing_eq, listing_eq, hnone]
  intro h
  cases hauth : auth_of (Listings.request_token req') s with
  | error e =>
    rw [hauth] at h
    cases h
  | ok tp =>
    rw [hauth] at h
    exact hne tp hauth (congrArg HttpResponse.body (Except.ok.inj h))

theorem exists_listing_ne {req : HttpRequest} {value : Str} (hlookup : req.headers.lookup "Authorization".toList = some value)
    (h : TokenMatters (bearer value) (body_token req)) (r : Listings.Route) :
    ∃ s, r.handle req s ≠ r.handle (bare req) s := by
  obtain ⟨hnil, hne, hparse⟩ := h
  have htoken : Listings.request_token req = bearer value := by rw [request_token_of_lookup hlookup, if_neg hnil]
  by_cases ht : AccountManager.parse_token (bearer value) = .ok none
  · obtain ⟨s, hnone, hs⟩ := exists_auth_ne (Ne.symm hne) (fun hbody => hparse ⟨ht, hbody⟩) r
    rw [← htoken] at hnone
    exact ⟨s, (listing_ne_of_auth req (bare req) hnone hs).symm⟩
  · obtain ⟨s, hnone, hs⟩ := exists_auth_ne hne ht r
    rw [← htoken] at hs
    exact ⟨s, listing_ne_of_auth (bare req) req hnone hs⟩

/-! ## The other readers -/

theorem bearer_token_of_lookup {req : HttpRequest} {value : Str}
    (h : req.headers.lookup "Authorization".toList = some value) : bearer_token req = bearer value := by
  rw [bearer_token, h]
  rfl

theorem bearer_token_of_none {req : HttpRequest} (h : req.headers.lookup "Authorization".toList = none) :
    bearer_token req = [] := by
  rw [bearer_token, h]

theorem verify_token_of_no_account {m : AccountManager} {org_mgr : OrgManager} {now : Int} {token : Str}
    {tp : Option TokenPayload} (hnone : m.accounts_ = []) (h : m.verify_token org_mgr now token = .ok tp) : tp = none := by
  have hget (id : Int32) : m.get_account id = none := by
    rw [AccountManager.get_account, hnone]
    rfl
  unfold AccountManager.verify_token at h
  simp only [hget] at h
  split at h
  · cases h
    rfl
  split at h
  · cases h
  · cases h
    rfl
  · split at h <;> cases h <;> rfl

/-- Without a token the profile is refused for this reason only. -/
theorem get_auth_profile_ne {req : HttpRequest} (h : bearer_token req ≠ []) :
    get_auth_profile req {} ≠ get_auth_profile (bare req) {} := by
  have hbare : get_auth_profile (bare req) {} = .ok (unauthorized "Missing Authorization Bearer Token".toList) := rfl
  rw [hbare, get_auth_profile, if_neg h]
  -- nobody has an account, so the token is not read or is not good
  cases hverify : ({} : Services).acct_mgr.verify_token ({} : Services).org_mgr ({} : Services).now (bearer_token req) with
  | error e =>
    intro hsame
    cases hsame
  | ok tp =>
    obtain rfl := verify_token_of_no_account rfl hverify
    intro hsame
    have hbody := congrArg HttpResponse.body (Except.ok.inj hsame)
    revert hbody
    decide

/-- A table with a model of no type. -/
def untyped_model : DeviceRegistry where
  device_types := []
  device_models := [{ model_code := "m".toList }]
  types_unique := List.nodup_nil
  models_unique := List.nodup_singleton _

theorem get_device_models_ne {req : HttpRequest} {value : Str} (hpath : req.path = Route.get_device_models.path)
    (hlookup : req.headers.lookup "X-Filter-Type".toList = some value) (h : value ≠ []) :
    get_device_models req untyped_model ≠ get_device_models (bare req) untyped_model := by
  have hquery : find "?type_code=".toList req.path = none := by
    rw [hpath]
    decide
  have hnone : DeviceTypeManager.list_models value true untyped_model = [] := by
    simp [DeviceTypeManager.list_models, Database.list_device_models, untyped_model, h, Ne.symm h]
  have hfiltered : get_device_models req untyped_model = json_response 200 (Listings.listing "models".toList []) := by
    rw [get_device_models, hlookup, hquery]
    simp [hnone]
  have hbare : get_device_models (bare req) untyped_model =
      json_response 200 (Listings.listing "models".toList (untyped_model.device_models.map model_json)) := by
    rw [get_device_models, show (bare req).path = req.path from rfl, hquery]
    rfl
  rw [hfiltered, hbare]
  intro hsame
  have hbody := congrArg HttpResponse.body hsame
  revert hbody
  decide

/-- The answer to an upload that is stored. -/
def uploaded (req : HttpRequest) (host : Str) : HttpResponse :=
  let version := qp req.query "version".toList
  let product_id := qp req.query "product_id".toList
  let filename := qp req.query "filename".toList
  let filename := if filename = [] then version ++ ".bin".toList else filename
  FirmwareStore.success 201
    [strMember "version".toList version, strMember "filename".toList filename,
      strMember "product_id".toList product_id, member "size".toList (to_string req.body.length),
      strMember "checksum_sha256".toList [],
      strMember "download_url".toList
        ("http://".toList ++ host ++ "/api/v1/ota/firmwares/download/".toList ++ product_id ++ '/' :: filename)]

theorem post_firmware_upload_stored (req : HttpRequest) (hversion : qp req.query "version".toList ≠ [])
    (hproduct : qp req.query "product_id".toList ≠ []) :
    (FirmwareStore.post_firmware_upload (fun _ => []) 0 true req {}).response =
      uploaded req ((req.headers.lookup "Host".toList).getD "127.0.0.1:9080".toList) := by
  rw [FirmwareStore.post_firmware_upload]
  simp only [hversion, hproduct, or_self, if_false, not_true_eq_false]
  rfl

/-- The host can be read off the answer. -/
theorem uploaded_injective (req : HttpRequest) : Function.Injective (uploaded req) := by
  intro host host' h
  have hdata := member_injective _ (object_concat_injective [_, _] (congrArg HttpResponse.body h))
  have hurl := strMember_injective _ (object_concat_injective [_, _, _, _, _] hdata)
  exact List.append_cancel_left (List.append_cancel_right (List.append_cancel_right (List.append_cancel_right hurl)))

/-- The host is part of the download link. -/
theorem post_firmware_upload_ne {req : HttpRequest} {value : Str} (hlookup : req.headers.lookup "Host".toList = some value)
    (hversion : qp req.query "version".toList ≠ []) (hproduct : qp req.query "product_id".toList ≠ [])
    (hvalue : value ≠ "127.0.0.1:9080".toList) :
    (FirmwareStore.post_firmware_upload (fun _ => []) 0 true req {}).response ≠
      (FirmwareStore.post_firmware_upload (fun _ => []) 0 true (bare req) {}).response := by
  rw [post_firmware_upload_stored req hversion hproduct, post_firmware_upload_stored (bare req) hversion hproduct, hlookup]
  exact fun h => hvalue (uploaded_injective req h)

/-- An empty file for every path. -/
def empty_files : FileSystem where
  file := fun _ => some { data := some [] }

theorem read_range_status {f : File} {range : Option Str} {resp : HttpResponse}
    (h : FirmwareFiles.read_range (fun _ => none) f range = .ok resp) :
    ∃ off stop part, FirmwareFiles.byte_range range f.size = .ok (off, stop, part) ∧
      resp.status_code = if part then 206 else 200 := by
  unfold FirmwareFiles.read_range at h
  cases hrange : FirmwareFiles.byte_range range f.size with
  | error e =>
    rw [hrange] at h
    cases h
  | ok r =>
    obtain ⟨off, stop, part⟩ := r
    rw [hrange] at h
    cases h
    exact ⟨off, stop, part, rfl, rfl⟩

/-- A range is answered with another status, or not at all. -/
theorem read_range_ne {value : Str} (hbytes : "bytes=".toList <+: value) (hdash : '-' ∈ value.drop 6) (f : File) :
    FirmwareFiles.read_range (fun _ => none) f (some value) ≠ FirmwareFiles.read_range (fun _ => none) f none := by
  obtain ⟨v, rfl⟩ := hbytes
  have hdrop : ("bytes=".toList ++ v).drop 6 = v := List.drop_left' rfl
  rw [hdrop] at hdash
  obtain ⟨a, b, rfl, ha⟩ := List.eq_append_cons_of_mem hdash
  intro h
  obtain ⟨off, stop, part, hrange, hstatus⟩ := read_range_status (h.trans rfl)
  rw [← List.append_assoc, FirmwareFiles.byte_range_of_range ha] at hrange
  obtain ⟨off', -, hrange⟩ := bind_eq_ok.1 hrange
  obtain ⟨stop', -, hrange⟩ := bind_eq_ok.1 hrange
  cases hrange
  cases hstatus

theorem get_firmware_download_ne {req : HttpRequest} {value : Str}
    (hpath : "/api/v1/ota/firmwares/download/".toList <+: req.path)
    (hslash : '/' ∈ req.path.drop "/api/v1/ota/firmwares/download/".toList.length)
    (hlookup : req.headers.lookup "Range".toList = some value) (hbytes : "bytes=".toList <+: value)
    (hdash : '-' ∈ value.drop 6) :
    FirmwareFiles.get_firmware_download (fun _ => none) empty_files req ≠
      FirmwareFiles.get_firmware_download (fun _ => none) empty_files (bare req) := by
  obtain ⟨rest, hrest⟩ := hpath
  rw [← hrest, List.drop_left] at hslash
  obtain ⟨product_id, filename, rfl, hproduct⟩ := List.eq_append_cons_of_mem hslash
  have heq (req' : HttpRequest) (h : req'.path = req.path) :
      FirmwareFiles.get_firmware_download (fun _ => none) empty_files req' =
        FirmwareFiles.send_firmware (fun _ => none) empty_files product_id filename (req'.headers.lookup "Range".toList) := by
    refine FirmwareFiles.get_firmware_download_of_path _ _ hproduct filename ?_
    rw [h, ← hrest, List.append_assoc]
  rw [heq req rfl, heq (bare req) rfl, hlookup]
  exact read_range_ne hbytes hdash { data := some [] }

/-! ## Values that are not heeded -/

theorem get_auth_profile_bare {req : HttpRequest}
    (h : ∀ value, req.headers.lookup "Authorization".toList = some value → bearer value = []) (s : Services) :
    get_auth_profile req s = get_auth_profile (bare req) s := by
  have htoken : bearer_token req = [] := by
    cases hlookup : req.headers.lookup "Authorization".toList with
    | none => exact bearer_token_of_none hlookup
    | some value => rw [bearer_token_of_lookup hlookup, h value hlookup]
  rw [get_auth_profile, if_pos htoken]
  rfl

theorem get_device_models_bare {req : HttpRequest}
    (h : ∀ value, req.headers.lookup "X-Filter-Type".toList = some value → value = []) (s : DeviceRegistry) :
    get_device_models req s = get_device_models (bare req) s := by
  have hfilter : (req.headers.lookup "X-Filter-Type".toList).getD [] = [] := by
    cases hlookup : req.headers.lookup "X-Filter-Type".toList with
    | none => rfl
    | some value => exact h value hlookup
  rw [get_device_models, hfilter]
  rfl

theorem post_firmware_upload_bare {req : HttpRequest}
    (h : ∀ value, req.headers.lookup "Host".toList = some value → qp req.query "version".toList ≠ [] →
      qp req.query "product_id".toList ≠ [] → value = "127.0.0.1:9080".toList)
    (checksum : Str → Str) (now : Int) (is_open : Bool) (s : OtaManager) :
    FirmwareStore.post_firmware_upload checksum now is_open req s =
      FirmwareStore.post_firmware_upload checksum now is_open (bare req) s := by
  by_cases hrequired : qp req.query "version".toList = [] ∨ qp req.query "product_id".toList = []
  · rw [FirmwareStore.post_firmware_upload, FirmwareStore.post_firmware_upload]
    simp only [if_pos hrequired, show (bare req).query = req.query from rfl]
  · rw [not_or] at hrequired
    have hhost : (req.headers.lookup "Host".toList).getD "127.0.0.1:9080".toList = "127.0.0.1:9080".toList := by
      cases hlookup : req.headers.lookup "Host".toList with
      | none => rfl
      | some value => exact h value hlookup hrequired.1 hrequired.2
    rw [FirmwareStore.post_firmware_upload, hhost]
    rfl

theorem send_firmware_bare {range : Option Str}
    (h : ∀ value, range = some value → "bytes=".toList <+: value → '-' ∉ value.drop 6) (alloc : Nat → Option Thrown)
    (files : FileSystem) (product_id filename : Str) :
    FirmwareFiles.send_firmware alloc files product_id filename range =
      FirmwareFiles.send_firmware alloc files product_id filename none := by
  have hrange (fsize : Int) : FirmwareFiles.byte_range range fsize = FirmwareFiles.byte_range none fsize := by
    refine FirmwareFiles.byte_range_of_no_range ?_
    rintro a b - rfl
    rw [List.append_assoc] at h
    exact h _ rfl (List.prefix_append _ _) (List.mem_append_right a List.mem_cons_self)
  unfold FirmwareFiles.send_firmware FirmwareFiles.read_range
  simp only [hrange]

theorem get_firmware_download_bare {req : HttpRequest}
    (h : ∀ value, req.headers.lookup "Range".toList = some value →
      '/' ∈ req.path.drop "/api/v1/ota/firmwares/download/".toList.length → "bytes=".toList <+: value → '-' ∉ value.drop 6)
    (alloc : Nat → Option Thrown) (files : FileSystem) :
    FirmwareFiles.get_firmware_download alloc files req = FirmwareFiles.get_firmware_download alloc files (bare req) := by
  unfold FirmwareFiles.get_firmware_download
  rw [show (bare req).path = req.path from rfl]
  unfold substr
  split
  · rfl
  · dsimp only [Except.mapError, Bind.bind, Except.bind]
    cases hslash : find ['/'] (req.path.drop "/api/v1/ota/firmwares/download/".toList.length) with
    | none => rfl
    | some slash =>
      refine send_firmware_bare (fun value hvalue => h value hvalue ?_) alloc files _ _
      by_contra hmem
      rw [find_single_eq_none_iff.2 hmem] at hslash
      cases hslash

/-- What is not heeded changes nothing. -/
theorem World.handle_bare (w : World) {r : Route} {req : HttpRequest}
    (h : ∀ name value, header_read r = some name → req.headers.lookup name = some value → ¬Heeded r req value) :
    w.handle r req = w.handle r (bare req) := by
  cases r
  case get_device_status =>
    exact congrArg (Except.mapError Thrown.text) (listing_bare (fun v hv => h _ v rfl hv) .device_status w.toServices)
  case get_devices =>
    exact congrArg (Except.mapError Thrown.text) (listing_bare (fun v hv => h _ v rfl hv) .devices w.toServices)
  case get_tenants =>
    exact congrArg (Except.mapError Thrown.text) (listing_bare (fun v hv => h _ v rfl hv) .tenants w.toServices)
  case get_auth_profile =>
    exact congrArg (Except.mapError Thrown.text)
      (get_auth_profile_bare (fun v hv => Classical.not_not.1 (h _ v rfl hv)) w.toServices)
  case get_device_models =>
    exact congrArg Except.ok (get_device_models_bare (fun v hv => Classical.not_not.1 (h _ v rfl hv)) w.registry)
  case post_firmware_upload =>
    have hhost (v : Str) (hv : req.headers.lookup "Host".toList = some v) (hversion : qp req.query "version".toList ≠ [])
        (hproduct : qp req.query "product_id".toList ≠ []) : v = "127.0.0.1:9080".toList :=
      Classical.not_not.1 fun hne => h _ v rfl hv ⟨hversion, hproduct, hne⟩
    exact congrArg (fun handled => Except.ok handled.response)
      (post_firmware_upload_bare hhost w.checksum w.now w.is_open w.ota)
  case get_firmware_download =>
    exact get_firmware_download_bare (fun v hv hslash hbytes hdash => h _ v rfl hv ⟨hslash, hbytes, hdash⟩) w.alloc w.files
  all_goals rfl

theorem mapError_text_injective {α : Type} : Function.Injective (Except.mapError Thrown.text : Except Exn α → Except Thrown α) := by
  intro x y h
  cases x <;> cases y <;> simp_all [Except.mapError]

/-- What is heeded changes the answer in some state. -/
theorem exists_handle_ne {r : Route} {req : HttpRequest} {name value : Str} (hserves : r.Serves req)
    (hname : header_read r = some name) (hlookup : req.headers.lookup name = some value) (h : Heeded r req value) :
    ∃ w : World, w.handle r req ≠ w.handle r (bare req) := by
  have hlisting (lr : Listings.Route) (hl : req.headers.lookup "Authorization".toList = some value)
      (hv : TokenMatters (bearer value) (body_token req)) :
      ∃ w : World, (lr.handle req w.toServices).mapError Thrown.text ≠
        (lr.handle (bare req) w.toServices).mapError Thrown.text := by
    obtain ⟨s, hs⟩ := exists_listing_ne hl hv lr
    exact ⟨{ toServices := s }, fun hsame => hs (mapError_text_injective hsame)⟩
  cases r <;> cases hname
  case get_device_status => exact hlisting .device_status hlookup h
  case get_devices => exact hlisting .devices hlookup h
  case get_tenants => exact hlisting .tenants hlookup h
  case get_auth_profile =>
    rw [Heeded, ← bearer_token_of_lookup hlookup] at h
    exact ⟨{}, fun hsame => get_auth_profile_ne h (mapError_text_injective hsame)⟩
  case get_device_models =>
    refine ⟨{ registry := untyped_model }, fun hsame => ?_⟩
    exact get_device_models_ne (hserves.exact (by decide)) hlookup h (Except.ok.inj hsame)
  case post_firmware_upload =>
    exact ⟨{}, fun hsame => post_firmware_upload_ne hlookup h.1 h.2.1 h.2.2 (Except.ok.inj hsame)⟩
  case get_firmware_download =>
    exact ⟨{ files := empty_files }, get_firmware_download_ne hserves.stem h.1 hlookup h.2.1 h.2.2⟩
  case post_auth_logout => exact h.elim

/-! ## Requests up to letter case are answered alike -/

theorem World.find_route_table (w : World) (order : List Route) (req : HttpRequest) :
    find_route req (w.table order) = (Route.dispatch order req).map w.handle := by
  rw [Route.dispatch, ← find_route_map, List.map_map]
  rfl

theorem World.respond_of_dispatch (w : World) {order : List Route} {req : HttpRequest} {r : Route}
    (h : Route.dispatch order req = some r) : respond (w.table order) req = w.handle r req := by
  rw [respond, if_neg (Route.dispatch_serves h).method_ne_options, w.find_route_table, h]
  rfl

theorem World.respond_of_none (w : World) {order : List Route} {req : HttpRequest} (h : Route.dispatch order req = none) :
    respond (w.table order) req = respond (w.table order) (bare req) := by
  have hbare : Route.dispatch order (bare req) = none := h
  rw [respond, respond, w.find_route_table, w.find_route_table, h, hbare]
  rfl

theorem heeded_bare (r : Route) (req : HttpRequest) (value : Str) : Heeded r (bare req) value ↔ Heeded r req value := by
  cases r <;> rfl

/-- Requests up to letter case go to the same route and heed the same values. -/
theorem Recased.dispatch {raw raw' : Str} (h : Recased raw raw') (order : List Route) :
    Route.dispatch order (parsed raw) = Route.dispatch order (parsed raw') := by
  have hbare := congrArg (Route.dispatch order) h.bare_parsed
  exact hbare

theorem Recased.heeded {raw raw' : Str} (h : Recased raw raw') (r : Route) (value : Str) :
    Heeded r (parsed raw) value ↔ Heeded r (parsed raw') value := by
  rw [← heeded_bare, h.bare_parsed, heeded_bare]

theorem header_read_spelling {r : Route} {name : Str} (h : header_read r = some name) : name.map Char.toLower ≠ name := by
  cases r <;> cases h <;> decide

/-- A header that is not found changes nothing. -/
theorem World.handle_of_hidden (w : World) {r : Route} {req : HttpRequest} {name : Str} (hname : header_read r = some name)
    (h : req.headers.lookup name = none) : w.handle r req = w.handle r (bare req) := by
  refine w.handle_bare fun name' value hname' hlookup => ?_
  rw [hname] at hname'
  cases hname'
  rw [h] at hlookup
  cases hlookup

/-- A request is answered alike for every letter case of its header names, in every
state, exactly if no value is heeded of a field that its handler looks for. -/
theorem same_response_iff (order : List Route) (raw : Str) :
    (∀ raw', Recased raw raw' → ∀ w : World, respond (w.table order) (parsed raw) = respond (w.table order) (parsed raw')) ↔
      ∀ r name value, Route.dispatch order (parsed raw) = some r → header_read r = some name → value ∈ values_of name raw →
        ¬Heeded r (parsed raw) value := by
  constructor
  · intro h r name value hdispatch hname hvalue hheeded
    have hspelling := header_read_spelling hname
    -- one spelling hides the header and one shows it, and some world tells them apart
    obtain ⟨hidden, hrecased, hnone⟩ := exists_recased_none hspelling raw
    obtain ⟨found, hrecased', hsome⟩ := exists_recased_some hspelling hvalue
    have hhidden := hrecased.dispatch order ▸ hdispatch
    have hfound := hrecased'.dispatch order ▸ hdispatch
    obtain ⟨w, hw⟩ := exists_handle_ne (Route.dispatch_serves hfound) hname hsome ((hrecased'.heeded r value).1 hheeded)
    refine hw ?_
    calc w.handle r (parsed found)
        = respond (w.table order) (parsed raw) := by rw [h found hrecased' w, w.respond_of_dispatch hfound]
      _ = w.handle r (parsed hidden) := by rw [h hidden hrecased w, w.respond_of_dispatch hhidden]
      _ = w.handle r (bare (parsed hidden)) := w.handle_of_hidden hname hnone
      _ = w.handle r (bare (parsed found)) := by rw [← hrecased.bare_parsed, hrecased'.bare_parsed]
  · intro h raw' hrecased w
    have hbare := hrecased.bare_parsed
    cases hdispatch : Route.dispatch order (parsed raw) with
    | none =>
      have hdispatch' := hrecased.dispatch order ▸ hdispatch
      rw [w.respond_of_none hdispatch, w.respond_of_none hdispatch', hbare]
    | some r =>
      have hdispatch' := hrecased.dispatch order ▸ hdispatch
      have hraw := w.handle_bare fun name value hname hlookup =>
        h r name value hdispatch hname (mem_values_of_lookup hlookup)
      have hraw' : w.handle r (parsed raw') = w.handle r (bare (parsed raw')) := by
        refine w.handle_bare fun name value hname hlookup hheeded => ?_
        have hvalue := mem_values_of_lookup hlookup
        rw [← hrecased.values_of] at hvalue
        exact h r name value hdispatch hname hvalue ((hrecased.heeded r value).2 hheeded)
      rw [w.respond_of_dispatch hdispatch, w.respond_of_dispatch hdispatch', hraw, hraw', hbare]

/-- A request for the devices, with a token under this name. -/
def devices_request (name : Str) : Str :=
  layout "GET /api/v1/devices HTTP/1.1\r".toList [name ++ ": Bearer mock_jwt:1:99\r".toList] "\n\r\n".toList

/-- A caller whose proxy writes header names in small letters is shown a device of another tenant. -/
theorem same_response_fails :
    ¬∀ raw', Recased (devices_request "Authorization".toList) raw' → ∀ w : World,
      respond (w.table Route.all) (parsed (devices_request "Authorization".toList)) =
        respond (w.table Route.all) (parsed raw') := by
  intro h
  have hlaid : Laid "GET /api/v1/devices HTTP/1.1\r".toList ["Authorization: Bearer mock_jwt:1:99\r".toList]
      "\n\r\n".toList := ⟨by decide, by decide +kernel, by rintro c ⟨⟩; rfl⟩
  have hfield : SameField "Authorization: Bearer mock_jwt:1:99\r".toList "authorization: Bearer mock_jwt:1:99\r".toList :=
    .inr ⟨"Authorization".toList, "authorization".toList, " Bearer mock_jwt:1:99\r".toList, by decide, by decide, rfl, rfl⟩
  have hrecased : Recased (devices_request "Authorization".toList) (devices_request "authorization".toList) :=
    .intro hlaid (.cons hfield .nil)
  have hsame := congrArg (fun answer => answer.toOption.map HttpResponse.body)
    (h _ hrecased { toServices := outside 1 99 [] })
  revert hsame
  decide +kernel

end HeaderNames

end DevSys
