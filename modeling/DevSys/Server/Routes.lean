import DevSys.Server.Handlers
/-!
# The route table

The routes that `main` registers, the handler behind each of them, and which of
them serves a request. The table is hashed: its order is anything.
-/
open Cxx Net

namespace DevSys

/-- The routes, in the order of their registration. -/
inductive Route where
  | get_health
  | post_device_activate
  | get_device_status
  | get_devices
  | put_device_tenant
  | delete_device
  | get_device_types
  | get_device_type
  | post_device_type
  | put_device_type
  | delete_device_type
  | get_device_models
  | get_device_model
  | post_device_model
  | put_device_model
  | delete_device_model
  | get_orders
  | get_order
  | post_order
  | put_order
  | delete_order
  | get_recipes
  | get_recipe
  | post_recipe
  | put_recipe
  | delete_recipe
  | get_firmwares
  | get_firmware_latest
  | get_firmware
  | post_firmware
  | post_firmware_upload
  | get_firmware_download
  | delete_firmware
  | get_upgrades
  | get_upgrade
  | post_push
  | get_ota_stats
  | get_faults
  | get_faults_active
  | get_device_faults
  | put_fault_resolve
  | get_tenants
  | get_tenant
  | get_tenant_devices
  | get_config
  | put_config
  | get_tenant_key
  | put_tenant_key
  | delete_tenant_key
  | get_tenant_key_verify
  | get_tenant_by_key
  | get_orgs
  | get_org_tree
  | get_org
  | post_org
  | put_org
  | delete_org
  | post_auth_login
  | post_auth_logout
  | get_auth_profile
  | get_accounts
  | get_account
  | post_account
  | put_account_password
  | put_account
  | delete_account
  deriving DecidableEq, Repr

namespace Route
open ApiServer Handlers

def all : List Route :=
  [get_health, post_device_activate, get_device_status, get_devices, put_device_tenant, delete_device, get_device_types,
    get_device_type, post_device_type, put_device_type, delete_device_type, get_device_models, get_device_model,
    post_device_model, put_device_model, delete_device_model, get_orders, get_order, post_order, put_order,
    delete_order, get_recipes, get_recipe, post_recipe, put_recipe, delete_recipe, get_firmwares, get_firmware_latest,
    get_firmware, post_firmware, post_firmware_upload, get_firmware_download, delete_firmware, get_upgrades,
    get_upgrade, post_push, get_ota_stats, get_faults, get_faults_active, get_device_faults, put_fault_resolve,
    get_tenants, get_tenant, get_tenant_devices, get_config, put_config, get_tenant_key, put_tenant_key,
    delete_tenant_key, get_tenant_key_verify, get_tenant_by_key, get_orgs, get_org_tree, get_org, post_org, put_org,
    delete_org, post_auth_login, post_auth_logout, get_auth_profile, get_accounts, get_account, post_account,
    put_account_password, put_account, delete_account]

theorem mem_all (r : Route) : r ∈ all := by
  cases r <;> decide

/-! ## Methods and paths -/

def method : Route → Str
  | post_device_activate | post_device_type | post_device_model | post_order | post_recipe | post_firmware
  | post_firmware_upload | post_push | post_org | post_auth_login | post_auth_logout | post_account => "POST".toList
  | put_device_tenant | put_device_type | put_device_model | put_order | put_recipe | put_fault_resolve | put_config
  | put_tenant_key | put_org | put_account_password | put_account => "PUT".toList
  | delete_device | delete_device_type | delete_device_model | delete_order | delete_recipe | delete_firmware
  | delete_tenant_key | delete_org | delete_account => "DELETE".toList
  | _ => "GET".toList

def path : Route → Str
  | get_health => "/api/v1/health".toList
  | post_device_activate => "/api/v1/device/activate".toList
  | get_device_status => "/api/v1/device/status".toList
  | get_devices => "/api/v1/devices".toList
  | put_device_tenant => "/api/v1/devices/\x7bdevice_id\x7d/tenant".toList
  | delete_device => "/api/v1/devices/\x7bdevice_id\x7d".toList
  | get_device_types | post_device_type => "/api/v1/device-types".toList
  | get_device_type | put_device_type | delete_device_type => "/api/v1/device-types/\x7bcode\x7d".toList
  | get_device_models | post_device_model => "/api/v1/device-models".toList
  | get_device_model | put_device_model | delete_device_model => "/api/v1/device-models/\x7bcode\x7d".toList
  | get_orders | post_order => "/api/v1/orders".toList
  | get_order | put_order | delete_order => "/api/v1/orders/\x7bid\x7d".toList
  | get_recipes | post_recipe => "/api/v1/recipes".toList
  | get_recipe | put_recipe | delete_recipe => "/api/v1/recipes/\x7bid\x7d".toList
  | get_firmwares | post_firmware => "/api/v1/ota/firmwares".toList
  | get_firmware_latest => "/api/v1/ota/firmwares/latest".toList
  | get_firmware => "/api/v1/ota/firmwares/\x7bfilename\x7d".toList
  | post_firmware_upload => "/api/v1/ota/firmwares/upload".toList
  | get_firmware_download => "/api/v1/ota/firmwares/download/\x7bproduct_id\x7d/\x7bfilename\x7d".toList
  | delete_firmware => "/api/v1/ota/firmwares/\x7bversion\x7d".toList
  | get_upgrades => "/api/v1/ota/upgrades".toList
  | get_upgrade => "/api/v1/ota/upgrades/\x7bdevice_id\x7d".toList
  | post_push => "/api/v1/ota/push".toList
  | get_ota_stats => "/api/v1/ota/stats/\x7bversion\x7d".toList
  | get_faults => "/api/v1/faults".toList
  | get_faults_active => "/api/v1/faults/active".toList
  | get_device_faults => "/api/v1/faults/\x7bdevice_id\x7d".toList
  | put_fault_resolve => "/api/v1/faults/resolve".toList
  | get_tenants => "/api/v1/tenants".toList
  | get_tenant => "/api/v1/tenants/\x7btenant_id\x7d".toList
  | get_tenant_devices => "/api/v1/tenants/\x7btenant_id\x7d/devices".toList
  | get_config | put_config => "/api/v1/config".toList
  | get_tenant_key | put_tenant_key | delete_tenant_key => "/api/v1/mqtt-tenant-key".toList
  | get_tenant_key_verify => "/api/v1/mqtt-tenant-key/verify".toList
  | get_tenant_by_key => "/api/v1/tenants/by-key".toList
  | get_orgs | post_org => "/api/v1/orgs".toList
  | get_org_tree => "/api/v1/orgs/tree".toList
  | get_org | put_org | delete_org => "/api/v1/orgs/\x7bid\x7d".toList
  | post_auth_login => "/api/v1/auth/login".toList
  | post_auth_logout => "/api/v1/auth/logout".toList
  | get_auth_profile => "/api/v1/auth/profile".toList
  | get_accounts | post_account => "/api/v1/accounts".toList
  | get_account | put_account | delete_account => "/api/v1/accounts/\x7bid\x7d".toList
  | put_account_password => "/api/v1/accounts/\x7bid\x7d/password".toList

/-- The key in the table. -/
def key (r : Route) : Str := r.method ++ ' ' :: r.path

/-! ## Handlers -/

/-- What the handler does that can throw. -/
def reads (r : Route) (req : HttpRequest) (s : Server) : Except Exn Unit :=
  match r with
  | put_device_tenant | delete_device => (path_tail "/api/v1/devices/".toList req).map fun _ => ()
  | get_device_type | delete_device_type => (path_tail "/api/v1/device-types/".toList req).map fun _ => ()
  | post_device_type => Handlers.post_device_type req
  | put_device_type => Handlers.put_device_type req s
  | get_device_model | delete_device_model => (path_tail "/api/v1/device-models/".toList req).map fun _ => ()
  | post_device_model => Handlers.post_device_model req
  | put_device_model => Handlers.put_device_model req s
  | get_order | put_order | delete_order => (path_tail "/api/v1/orders/".toList req).map fun _ => ()
  | post_order => Handlers.post_order req
  | get_recipe | delete_recipe => (path_tail "/api/v1/recipes/".toList req).map fun _ => ()
  | post_recipe => Handlers.post_recipe req
  | put_recipe => Handlers.put_recipe req s
  | get_firmware_latest => Handlers.get_firmware_latest req s
  | get_firmware | delete_firmware => (path_tail "/api/v1/ota/firmwares/".toList req).map fun _ => ()
  | post_firmware => Handlers.post_firmware req
  | get_upgrade => (path_tail "/api/v1/ota/upgrades/".toList req).map fun _ => ()
  | post_push => Handlers.post_push req
  | get_ota_stats => (path_tail "/api/v1/ota/stats/".toList req).map fun _ => ()
  | get_device_faults => (path_tail "/api/v1/faults/".toList req).map fun _ => ()
  | put_fault_resolve => Handlers.put_fault_resolve req
  | get_tenant => (path_tail "/api/v1/tenants/".toList req).map fun _ => ()
  | get_tenant_devices => (path_between "/api/v1/tenants/".toList "/devices".toList req).map fun _ => ()
  | put_tenant_key => Handlers.put_tenant_key req s
  | get_tenant_key_verify => Handlers.get_tenant_key_verify req s
  | get_tenant_by_key => Handlers.get_tenant_by_key req s
  | get_orgs => Handlers.get_orgs req
  | get_org => Handlers.get_org req
  | post_org => Handlers.post_org req s
  | put_org => Handlers.put_org req
  | delete_org => Handlers.delete_org req s
  | get_auth_profile => Handlers.get_auth_profile req s
  | get_account => Handlers.get_account req
  | post_account => Handlers.post_account req
  | put_account_password => Handlers.put_account_password req
  | put_account => Handlers.put_account req
  | delete_account => Handlers.delete_account req
  | _ => .ok ()

/-- The device and tenant listings and the download are given in full, the
others answer with `answer` once they have read what they need. -/
def handle (alloc : Nat → Option Thrown) (answer : Route → HttpRequest → Server → HttpResponse) (s : Server) (r : Route) :
    RouteHandler := fun req =>
  match r with
  | get_device_status => (Listings.get_device_status req s.toServices).mapError .text
  | get_devices => (Listings.get_devices req s.toServices).mapError .text
  | get_tenants => (Listings.get_tenants req s.toServices).mapError .text
  | get_firmware_download => FirmwareFiles.get_firmware_download alloc s.files req
  | r => ((r.reads req s).map fun _ => answer r req s).mapError .text

/-- The table of the server. -/
def table (alloc : Nat → Option Thrown) (answer : Route → HttpRequest → Server → HttpResponse) (s : Server)
    (order : List Route) : List (Str × RouteHandler) :=
  order.map fun r => (r.key, r.handle alloc answer s)

/-- The route that serves a request. -/
def dispatch (order : List Route) (req : HttpRequest) : Option Route := find_route req (order.map fun r => (r.key, r))

/-! ## Which requests a route gets -/

theorem split_key_key (r : Route) : split_key r.key = some (r.method, r.path) := by
  have hmethod : ' ' ∉ r.method := by cases r <;> decide
  have hdrop : (r.method ++ ' ' :: r.path).drop (r.method.length + 1) = r.path := by
    rw [List.drop_append]
    simp
  rw [split_key, key, find_single_append hmethod, Option.map_some, List.take_left, hdrop]

/-- The path before its first parameter. -/
def stem (r : Route) : Str := r.path.takeWhile (· ≠ '{')

theorem stem_of_not_mem {r : Route} (h : '{' ∉ r.path) : r.stem = r.path := by
  rw [stem, List.takeWhile_eq_self_iff]
  intro c hc
  simpa using fun he : c = '{' => h (he ▸ hc)

theorem stem_of_append {r : Route} {a b : Str} (hp : r.path = a ++ '{' :: b) (ha : '{' ∉ a) : r.stem = a := by
  rw [stem, hp, takeWhile_append_stop a b (by decide), List.takeWhile_eq_self_iff]
  intro c hc
  simpa using fun he : c = '{' => ha (he ▸ hc)

/-- The path of a request has the stem of its route, and nothing else unless the
route has parameters. -/
structure Serves (r : Route) (req : HttpRequest) : Prop where
  method : r.method = req.method
  stem : r.stem <+: req.path
  exact : '{' ∉ r.path → req.path = r.path

theorem serves_of_exact_match {r : Route} {req : HttpRequest} (h : exact_match req r.key = true) : r.Serves req := by
  rw [exact_match, split_key_key] at h
  simp only [Bool.and_eq_true, decide_eq_true_eq] at h
  obtain ⟨⟨hm, hbrace⟩, hpath⟩ := h
  have hb := find_single_eq_none_iff.1 hbrace
  exact ⟨hm, by rw [stem_of_not_mem hb, hpath], fun _ => hpath.symm⟩

theorem serves_of_pattern_match {r : Route} {req : HttpRequest} (h : pattern_match req r.key = true) : r.Serves req := by
  rw [pattern_match, split_key_key] at h
  simp only [Bool.and_eq_true, decide_eq_true_eq] at h
  obtain ⟨hm, h⟩ := h
  by_cases hb : '{' ∈ r.path
  · obtain ⟨a, b, hp, ha⟩ := List.eq_append_cons_of_mem hb
    have hstem : r.stem = a := stem_of_append hp ha
    rw [hp, find_single_append ha] at h
    simp only [Bool.and_eq_true, decide_eq_true_eq, List.take_left] at h
    refine ⟨hm, ?_, fun hn => absurd hb hn⟩
    rw [hstem, ← find_eq_zero_iff]
    exact h.1.1
  · rw [find_single_eq_none_iff.2 hb] at h
    cases h

theorem dispatch_serves {order : List Route} {req : HttpRequest} {r : Route} (h : dispatch order req = some r) :
    r.Serves req := by
  obtain ⟨k, hk, hmatch⟩ := find_route_mem h
  obtain ⟨r', -, heq⟩ := List.mem_map.1 hk
  obtain ⟨rfl, rfl⟩ := Prod.mk.inj heq
  exact hmatch.elim serves_of_exact_match serves_of_pattern_match

/-- No route has the method of a preflight. -/
theorem Serves.method_ne_options {r : Route} {req : HttpRequest} (h : r.Serves req) : req.method ≠ "OPTIONS".toList := by
  rw [← h.method]
  cases r <;> decide

/-- A request is served by the handler of its route. -/
theorem respond_table (alloc : Nat → Option Thrown) (answer : Route → HttpRequest → Server → HttpResponse) (s : Server)
    (order : List Route) (req : HttpRequest) :
    Returns (respond (table alloc answer s order) req) ↔
      ∀ r, dispatch order req = some r → Returns (r.handle alloc answer s req) := by
  have hfind : find_route req (table alloc answer s order) =
      (dispatch order req).map fun r => r.handle alloc answer s := by
    rw [dispatch, ← find_route_map, List.map_map]
    rfl
  rw [respond, hfind]
  cases hd : dispatch order req with
  | none =>
    refine iff_of_true ?_ fun r hr => by cases hr
    rw [returns_ite]
    exact ⟨fun _ => returns_ok _, fun _ => returns_ok _⟩
  | some r =>
    rw [if_neg (dispatch_serves hd).method_ne_options]
    simp

end Route

end DevSys
