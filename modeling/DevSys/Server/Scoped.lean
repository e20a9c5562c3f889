import DevSys.Server.Listings
/-!
# What a scoped caller learns

Below `super_admin` a device listing is made from the devices in the caller's
scope, so devices of other tenants change nothing in it.
-/
open Cxx

namespace DevSys.Listings

/-- The device belongs to the tenant of an organisation in the scope of `org_id`. -/
def InScope (org_mgr : OrgManager) (org_id : Int32) (d : Device) : Prop :=
  ∃ oid ∈ org_mgr.get_org_scope org_id, (org_mgr.get_org oid).any (·.tenant_id = d.tenant_id)

instance (org_mgr : OrgManager) (org_id : Int32) : DecidablePred (InScope org_mgr org_id) := fun _ =>
  List.decidableBEx _ _

/-- The states differ in devices outside the scope of `org_id` at most. -/
structure Alike (org_id : Int32) (s s' : Services) : Prop where
  accounts : s.acct_mgr.accounts_ = s'.acct_mgr.accounts_
  invalidated_tokens : s.acct_mgr.invalidated_tokens_ = s'.acct_mgr.invalidated_tokens_
  orgs : s.org_mgr.orgs_ = s'.org_mgr.orgs_
  now : s.now = s'.now
  devices : s.device_mgr.list_all_devices.filter (InScope s.org_mgr org_id) =
    s'.device_mgr.list_all_devices.filter (InScope s'.org_mgr org_id)

/-! ## The scope of a token -/

/-- A token carries the scope of its account. -/
theorem org_scope_of_verify_token {org_mgr : OrgManager} {now : Int} {token : Str} {m : AccountManager}
    {tp : TokenPayload} (h : m.verify_token org_mgr now token = .ok (some tp)) :
    tp.org_scope = org_mgr.get_org_scope tp.org_id := by
  unfold AccountManager.verify_token at h
  split at h
  · cases h
  split at h
  · cases h
  · cases h
  split at h
  · cases h
  split at h
  · cases h
  split at h
  · cases h
  · cases h
    rfl

/-- An empty token does not verify. -/
theorem extract_auth_of_verify_token {req : HttpRequest} {s : Services} {tp : TokenPayload}
    (h : s.acct_mgr.verify_token s.org_mgr s.now (request_token req) = .ok (some tp)) :
    extract_auth req s = .ok (some tp) := by
  rw [extract_auth, if_neg, h]
  intro ht
  exact AccountManager.not_refused_of_verify_token h (.missing ht)

theorem contains_visible_tenants {org_mgr : OrgManager} {tp : TokenPayload}
    (h : tp.org_scope = org_mgr.get_org_scope tp.org_id) (d : Device) :
    (visible_tenants org_mgr tp).contains d.tenant_id = true ↔ InScope org_mgr tp.org_id d := by
  rw [List.contains_iff_mem, visible_tenants, List.mem_filterMap, h]
  refine exists_congr fun oid => and_congr_right fun _ => ?_
  simp [Option.any_eq_true]

/-- A scoped caller is left with the devices in its scope. -/
theorem scope_devices_of_scoped {org_mgr : OrgManager} {tp : TokenPayload} (devices : List Device)
    (h : tp.org_scope = org_mgr.get_org_scope tp.org_id) (hrole : tp.role_code ≠ super_admin) :
    scope_devices org_mgr devices (some tp) = devices.filter (InScope org_mgr tp.org_id) := by
  rw [scope_devices, if_pos hrole]
  refine List.filter_congr fun d _ => ?_
  rw [Bool.eq_iff_iff, contains_visible_tenants h, decide_eq_true_eq]

/-! ## Two states -/

section Alike
variable {org_id : Int32} {s s' : Services} (h : Alike org_id s s')
include h

theorem Alike.get_org_scope (x : Int32) : s.org_mgr.get_org_scope x = s'.org_mgr.get_org_scope x := by
  simp only [OrgManager.get_org_scope, OrgManager.get_descendants, OrgManager.get_org, h.orgs]

/-- A token means the same in both states. -/
theorem Alike.verify_token (token : Str) :
    s.acct_mgr.verify_token s.org_mgr s.now token = s'.acct_mgr.verify_token s'.org_mgr s'.now token := by
  simp only [AccountManager.verify_token, AccountManager.get_account, h.accounts, h.invalidated_tokens, h.now,
    h.get_org_scope]

end Alike

theorem get_devices_of_auth {req : HttpRequest} {s : Services} {tp : Option TokenPayload}
    (h : extract_auth req s = .ok tp) :
    get_devices req s = .ok (json_response 200 (success (listing "devices".toList
      ((scope_devices s.org_mgr s.device_mgr.list_all_devices tp).map device_json)))) := by
  rw [get_devices, h]
  rfl

theorem get_device_status_of_auth {req : HttpRequest} {s : Services} {tp : Option TokenPayload}
    (h : extract_auth req s = .ok tp) :
    get_device_status req s = .ok (json_response 200 (listing "devices".toList
      ((scope_devices s.org_mgr s.device_mgr.list_all_devices tp).map device_status_json))) := by
  rw [get_device_status, h]
  rfl

/-- To a scoped caller both device listings are the same in two states that
differ in devices outside its scope only. -/
theorem device_listings_eq {req : HttpRequest} {s s' : Services} {tp : TokenPayload}
    (hv : s.acct_mgr.verify_token s.org_mgr s.now (request_token req) = .ok (some tp))
    (hrole : tp.role_code ≠ super_admin) (h : Alike tp.org_id s s') :
    get_devices req s = get_devices req s' ∧ get_device_status req s = get_device_status req s' := by
  have hv' : s'.acct_mgr.verify_token s'.org_mgr s'.now (request_token req) = .ok (some tp) := by
    rw [← h.verify_token]
    exact hv
  have hauth := extract_auth_of_verify_token hv
  have hauth' := extract_auth_of_verify_token hv'
  have hdevices : scope_devices s.org_mgr s.device_mgr.list_all_devices (some tp) =
      scope_devices s'.org_mgr s'.device_mgr.list_all_devices (some tp) := by
    rw [scope_devices_of_scoped _ (org_scope_of_verify_token hv) hrole, h.devices,
      scope_devices_of_scoped _ (org_scope_of_verify_token hv') hrole]
  constructor
  · rw [get_devices_of_auth hauth, get_devices_of_auth hauth', hdevices]
  · rw [get_device_status_of_auth hauth, get_device_status_of_auth hauth', hdevices]

/-- A viewer of acme, before and after globex gets its first device. -/
theorem device_listings_eq_viewer :
    let s : Services :=
      { device_mgr := ({} : DeviceManager).store "acme".toList "dev-1".toList { tenant_id := "acme".toList }
        org_mgr := { orgs_ := [{ org_id := 1, tenant_id := "acme".toList }] }
        acct_mgr := { accounts_ := [{ account_id := 1, org_id := 1, role_code := "viewer".toList }] } }
    let s' : Services :=
      { s with device_mgr := s.device_mgr.store "globex".toList "dev-2".toList { tenant_id := "globex".toList } }
    let req : HttpRequest := { headers := AList.singleton "Authorization".toList "Bearer mock_jwt:1:99".toList }
    get_devices req s = get_devices req s' ∧ get_device_status req s = get_device_status req s' := by
  intro s s' req
  let tp : TokenPayload :=
    { account_id := 1
      org_id := 1
      org_scope := [1]
      role_code := "viewer".toList
      permissions := AccountManager.permissions_for_role "viewer".toList
      exp := 99 }
  have hv : s.acct_mgr.verify_token s.org_mgr s.now (request_token req) = .ok (some tp) := by decide
  have hdevices : s.device_mgr.list_all_devices.filter (InScope s.org_mgr tp.org_id) =
      s'.device_mgr.list_all_devices.filter (InScope s'.org_mgr tp.org_id) := by decide
  exact device_listings_eq hv (by decide) ⟨rfl, rfl, rfl, rfl, hdevices⟩

end DevSys.Listings
