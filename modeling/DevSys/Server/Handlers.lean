import DevSys.Ota.FirmwareFiles
import DevSys.Server.Listings
/-!
# The handlers, up to their answers

What the handlers of `main` do before they can answer: the numbers they read,
in order and behind the checks that come first. Cutting a string at a position
that a search has found, and everything else a handler does, throws nothing.
-/
open Cxx

namespace DevSys

/-- What the handlers share, and what is around the process. -/
structure Server extends Services where
  type_exists : Str → Bool := fun _ => false
  model_exists : Str → Bool := fun _ => false
  recipe_exists : Str → Bool := fun _ => false
  broker_host : Str := "127.0.0.1".toList
  broker_api_port : Int32 := 8080
  MQTT_BROKER_API : Option Str := none
  files : FileSystem := {}
  timestamp : Str := []

namespace Server

def mqtt_broker_api (s : Server) : Str :=
  "http://".toList ++ s.broker_host ++ ':' :: to_string s.broker_api_port.toInt

end Server

namespace Handlers
open JsonHelper

/-! ## Parts of a request -/

/-- `req.path.substr(prefix.size())`. -/
def path_tail (pre : Str) (req : HttpRequest) : Except Exn Str := substr req.path pre.length

def path_id (pre : Str) (req : HttpRequest) : Except Exn Int32 := do
  let id ← path_tail pre req
  stoi id

/-- The path between a prefix and a suffix; none if it has another suffix. -/
def path_between (pre suffix : Str) (req : HttpRequest) : Except Exn (Option Str) :=
  let path := req.path
  if path.length < suffix.length then .ok none
  else do
    let last ← substr path (path.length - suffix.length)
    if last ≠ suffix then .ok none
    else do
      let id ← substr path pre.length (some (sizeSub (sizeSub path.length pre.length) suffix.length))
      .ok (some id)

/-- A parameter of the query. -/
def qp (query k : Str) : Str :=
  let s := k ++ ['=']
  match find s query with
  | none => []
  | some p =>
    let p := p + s.length
    substrTo query p (findFrom ['&'] query p)

def bearer_token (req : HttpRequest) : Str :=
  match req.headers.lookup "Authorization".toList with
  | none => []
  | some value => if find "Bearer ".toList value = some 0 then value.drop 7 else []

/-- The integer fields of the body, one after the other. -/
def read_ints (fields : List (Str × Int32)) (req : HttpRequest) : Except Exn Unit :=
  fields.forM fun field => (get_int req.body field.1 field.2).map fun _ => ()

/-! ## The broker -/

/-- The port of a broker URL: what follows the first colon, up to the first
slash if that comes later. -/
def broker_port (api_url : Str) : Except Exn Int32 :=
  let url := if find "http://".toList api_url = some 0 then api_url.drop 7 else api_url
  match find [':'] url with
  | none => .ok 8080
  | some c => stoi (substrTo url (c + 1) ((find ['/'] url).filter (c < ·)))

/-- `sync_tenant_to_broker` and `delete_tenant_from_broker`, up to the socket. -/
def tell_broker (s : Server) : Except Exn Unit :=
  match s.MQTT_BROKER_API with
  | none => .ok ()
  | some api_url => if api_url = [] then .ok () else (broker_port api_url).map fun _ => ()

/-- `verify_tenant_via_broker`, up to the socket. -/
def verify_tenant_via_broker (key : Str) (s : Server) : Except Exn Unit :=
  if s.mqtt_broker_api ≠ [] ∧ key ≠ [] then (broker_port s.mqtt_broker_api).map fun _ => () else .ok ()

/-! ## Device types and models -/

def post_device_type (req : HttpRequest) : Except Exn Unit :=
  read_ints [("internal_type".toList, 4), ("sort_order".toList, 0)] req

def put_device_type (req : HttpRequest) (s : Server) : Except Exn Unit := do
  let code ← path_tail "/api/v1/device-types/".toList req
  if ¬s.type_exists code then .ok ()
  else read_ints [("internal_type".toList, 4), ("sort_order".toList, 0)] req

def post_device_model (req : HttpRequest) : Except Exn Unit := read_ints [("sort_order".toList, 0)] req

def put_device_model (req : HttpRequest) (s : Server) : Except Exn Unit := do
  let code ← path_tail "/api/v1/device-models/".toList req
  if ¬s.model_exists code then .ok () else read_ints [("sort_order".toList, 0)] req

/-! ## Orders, recipes and faults -/

def post_order (req : HttpRequest) : Except Exn Unit :=
  read_ints [("quantity".toList, 1), ("total_amount".toList, 0)] req

def post_recipe (req : HttpRequest) : Except Exn Unit :=
  read_ints [("device_type".toList, 4), ("version".toList, 1)] req

def put_recipe (req : HttpRequest) (s : Server) : Except Exn Unit := do
  let recipe_id ← path_tail "/api/v1/recipes/".toList req
  if ¬s.recipe_exists recipe_id then .ok () else read_ints [("device_type".toList, -1)] req

def put_fault_resolve (req : HttpRequest) : Except Exn Unit := read_ints [("code".toList, 0)] req

/-! ## OTA -/

def get_firmware_latest (req : HttpRequest) (s : Server) : Except Exn Unit :=
  let product_id := qp req.query "product_id".toList
  let fw_dir := "./firmware/".toList ++ product_id
  if product_id = [] then .ok ()
  else if s.files.file fw_dir = none then .ok ()
  else (FirmwareFiles.select_latest (s.files.entries fw_dir)).map fun _ => ()

def post_firmware (req : HttpRequest) : Except Exn Unit :=
  read_ints [("file_size".toList, 0), ("created_at".toList, 0)] req

def post_push (req : HttpRequest) : Except Exn Unit :=
  let mode := get_string req.body "mode".toList
  if mode = "all".toList then .ok ()
  else if mode = "grayscale".toList then read_ints [("percent".toList, 10)] req
  else .ok ()

/-! ## The tenant key -/

def put_tenant_key (req : HttpRequest) (s : Server) : Except Exn Unit :=
  let k := get_string req.body "tenant_key".toList
  if k = [] then .ok () else verify_tenant_via_broker k s

def get_tenant_key_verify (req : HttpRequest) (s : Server) : Except Exn Unit :=
  let key := qp req.query "key".toList
  if key = [] then .ok () else verify_tenant_via_broker key s

def get_tenant_by_key (req : HttpRequest) (s : Server) : Except Exn Unit :=
  let key := qp req.query "key".toList
  if key = [] then .ok ()
  else if s.mqtt_broker_api = [] then .ok ()
  else (broker_port s.mqtt_broker_api).map fun _ => ()

/-! ## Organisations -/

/-- The filter by parent, looked for in the path. -/
def get_orgs (req : HttpRequest) : Except Exn Unit :=
  match find "?parent_id=".toList req.path with
  | none => .ok ()
  | some qpos => (stoi (req.path.drop (qpos + 11))).map fun _ => ()

def get_org (req : HttpRequest) : Except Exn Unit := (path_id "/api/v1/orgs/".toList req).map fun _ => ()

def put_org (req : HttpRequest) : Except Exn Unit := (path_id "/api/v1/orgs/".toList req).map fun _ => ()

/-- The organisation in the body of a request; its name is the default tenant. -/
def org_info (parent_id : Int32) (req : HttpRequest) : OrgInfo :=
  let field (key : Str) : Str := get_string req.body key
  { parent_id := parent_id
    tenant_id := if field "tenant_id".toList = [] then field "org_name".toList else field "tenant_id".toList
    org_name := field "org_name".toList
    org_type := field "org_type".toList
    contact_name := field "contact_name".toList
    contact_phone := field "contact_phone".toList
    contact_email := field "contact_email".toList
    address := field "address".toList }

def post_org (req : HttpRequest) (s : Server) : Except Exn Unit := do
  let parent_id ← get_int req.body "parent_id".toList 0
  let info := org_info parent_id req
  if info.org_name = [] then .ok ()
  else if (s.org_mgr.create_org s.timestamp info).1 ≠ .OK then .ok ()
  else tell_broker s

def delete_org (req : HttpRequest) (s : Server) : Except Exn Unit := do
  let org_id ← path_id "/api/v1/orgs/".toList req
  if (s.org_mgr.delete_org org_id).1 ≠ .OK then .ok () else tell_broker s

/-! ## Accounts -/

def get_auth_profile (req : HttpRequest) (s : Server) : Except Exn Unit :=
  let token := bearer_token req
  if token = [] then .ok () else (s.acct_mgr.verify_token s.org_mgr s.now token).map fun _ => ()

def get_account (req : HttpRequest) : Except Exn Unit := (path_id "/api/v1/accounts/".toList req).map fun _ => ()

def post_account (req : HttpRequest) : Except Exn Unit := read_ints [("org_id".toList, 0)] req

def put_account_password (req : HttpRequest) : Except Exn Unit := do
  match ← path_between "/api/v1/accounts/".toList "/password".toList req with
  | none => .ok ()
  | some id_str => (stoi id_str).map fun _ => ()

def put_account (req : HttpRequest) : Except Exn Unit := do
  let id_str ← path_tail "/api/v1/accounts/".toList req
  if find ['/'] id_str ≠ none then .ok () else (stoi id_str).map fun _ => ()

def delete_account (req : HttpRequest) : Except Exn Unit :=
  (path_id "/api/v1/accounts/".toList req).map fun _ => ()

end Handlers

end DevSys
