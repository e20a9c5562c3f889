import DevSys.Server.Listings
/-!
# The tenant detail

The number of online devices is the number of devices of the tenant less the
number of silent devices of all tenants. Both are sizes, the difference wraps
around, and what is negative as an `int` is answered as zero.
-/
open Cxx JsonText

namespace DevSys.Listings
open Json

/-! ## The handler -/

/-- `int online = list_devices(tenant_id).size() - list_offline_devices().size()`. -/
def online (now : Int) (tenant_id : Str) (device_mgr : DeviceManager) : Int32 :=
  Int32.ofNat (UInt64.ofNat (device_mgr.list_devices tenant_id).length -
    UInt64.ofNat (device_mgr.list_offline_devices now 180).length).toNat

def online_count (now : Int) (tenant_id : Str) (device_mgr : DeviceManager) : Int32 :=
  let online := online now tenant_id device_mgr
  if online > 0 then online else 0

def org_members : Option OrgInfo → List Str
  | some org =>
    [member "org_id".toList (to_string org.org_id.toInt), strMember "org_name".toList org.org_name,
      strMember "org_type".toList org.org_type, member "parent_id".toList (to_string org.parent_id.toInt),
      member "level".toList (to_string org.level.toInt), strMember "path".toList org.path,
      strMember "contact_name".toList org.contact_name, strMember "contact_phone".toList org.contact_phone,
      strMember "contact_email".toList org.contact_email, strMember "address".toList org.address,
      member "is_active".toList (bool_text org.is_active)]
  | none =>
    [member "org_id".toList ['0'], strMember "org_name".toList [], strMember "org_type".toList [],
      member "is_active".toList "true".toList]

def tenant_detail_json (s : Services) (tenant_id : Str) : Str :=
  object (strMember "tenant_id".toList tenant_id :: org_members (s.org_mgr.get_org_by_tenant tenant_id) ++
    [member "device_count".toList (to_string (s.device_mgr.device_count tenant_id)),
      member "online_count".toList (to_string (online_count s.now tenant_id s.device_mgr).toInt)])

def tenants_path : Str := "/api/v1/tenants/".toList

/-- `GET /api/v1/tenants/{tenant_id}`. -/
def get_tenant (req : HttpRequest) (s : Services) : Except Exn HttpResponse := do
  let tenant_id ← substr req.path tenants_path.length
  if find ['/'] tenant_id ≠ none then .ok (error_response 404 1002 ("Not found: ".toList ++ req.path))
  else .ok (json_response 200 (success (tenant_detail_json s tenant_id)))

/-! ## What the answer reports -/

/-- The answer ends with the number of online devices. -/
def ReportsOnline (resp : HttpResponse) (n : Int) : Prop :=
  ∃ front, resp.body = front ++ (member "online_count".toList (to_string n) ++ ['}', '}'])

/-- The devices of the tenant that were heard in the last three minutes. -/
def heard_devices (now : Int) (tenant_id : Str) (device_mgr : DeviceManager) : List Device :=
  (device_mgr.list_devices tenant_id).filter fun dev => now - dev.last_heartbeat_at ≤ 180

/-- The devices of the tenant that are not listed as silent: those that were heard,
and those that were heard so long ago that the time since then overflows. -/
def counted_devices (now : Int) (tenant_id : Str) (device_mgr : DeviceManager) : List Device :=
  (device_mgr.list_devices tenant_id).filter fun dev => ¬DeviceManager.Silent now 180 dev

/-- The silent devices of the other tenants. -/
def silent_elsewhere (now : Int) (tenant_id : Str) (device_mgr : DeviceManager) : List Device :=
  DeviceManager.list_offline_devices now 180 { device_mgr with tenants_ := device_mgr.tenants_.erase tenant_id }

/-- No device of another tenant is silent or none of this tenant was heard, as far as an `int` can tell.
A device of this tenant whose time overflows makes up for a silent one. -/
def OnlineExact (now : Int) (tenant_id : Str) (device_mgr : DeviceManager) : Prop :=
  let heard := (heard_devices now tenant_id device_mgr).length
  let overflown : Int := (counted_devices now tenant_id device_mgr).length - heard
  let missing : Int := (silent_elsewhere now tenant_id device_mgr).length - overflown
  (missing % 2 ^ 32 = 0 ∧ heard < 2 ^ 31) ∨ (heard = 0 ∧ missing % 2 ^ 32 ≤ 2 ^ 31)

theorem exists_object_snoc (ms : List Str) (m : Str) : ∃ front, object (ms ++ [m]) = front ++ (m ++ ['}']) := by
  suffices hall : ∃ front, List.intercalate [','] (ms ++ [m]) = front ++ m by
    obtain ⟨front, hfront⟩ := hall
    exact ⟨'{' :: front, by rw [object, hfront]; simp⟩
  induction ms with
  | nil => exact ⟨[], by simp [List.intercalate_singleton]⟩
  | cons a ms ih =>
    obtain ⟨front, hfront⟩ := ih
    refine ⟨a ++ ',' :: front, ?_⟩
    rw [List.cons_append, List.intercalate_cons_of_ne_nil (by simp), hfront]
    simp

theorem tenant_detail_reports (s : Services) (tenant_id : Str) :
    ReportsOnline (json_response 200 (success (tenant_detail_json s tenant_id)))
      (online_count s.now tenant_id s.device_mgr).toInt := by
  obtain ⟨inner, hinner⟩ := exists_object_snoc
    (strMember "tenant_id".toList tenant_id :: org_members (s.org_mgr.get_org_by_tenant tenant_id) ++
      [member "device_count".toList (to_string (s.device_mgr.device_count tenant_id))])
    (member "online_count".toList (to_string (online_count s.now tenant_id s.device_mgr).toInt))
  have hdata : tenant_detail_json s tenant_id = inner ++
      (member "online_count".toList (to_string (online_count s.now tenant_id s.device_mgr).toInt) ++ ['}']) := by
    rw [← hinner, tenant_detail_json]
    simp
  obtain ⟨outer, houter⟩ := exists_object_snoc
    [member "code".toList ['0'], strMember "message".toList "success".toList]
    (member "data".toList (tenant_detail_json s tenant_id))
  refine ⟨outer ++ keyPat "data".toList ++ inner, ?_⟩
  have hbody : success (tenant_detail_json s tenant_id) =
      outer ++ (member "data".toList (tenant_detail_json s tenant_id) ++ ['}']) := houter
  rw [json_response, hbody, member, hdata]
  simp

/-- An answer reports one number. -/
theorem ReportsOnline.unique {resp : HttpResponse} {m n : Int} (hm : ReportsOnline resp m) (hn : ReportsOnline resp n) :
    m = n := by
  obtain ⟨front, hfront⟩ := hm
  obtain ⟨front', hfront'⟩ := hn
  rw [hfront] at hfront'
  have hrev := congrArg List.reverse hfront'
  -- read from the end, the number stands before the first colon
  have hcolon (k : Int) : ':' ∉ '}' :: '}' :: (to_string k).reverse := by
    have hk : ':' ∉ to_string k := not_mem_to_string (by decide) (by decide)
    simpa using hk
  simp only [member, keyPat, List.reverse_append, List.reverse_cons, List.reverse_nil, List.nil_append,
    List.append_assoc, List.cons_append] at hrev
  have hnum := (cut_inj (hcolon m) (hcolon n) hrev).1
  rw [List.cons_inj_right, List.cons_inj_right, List.reverse_inj] at hnum
  exact to_string_injective hnum

/-! ## The difference -/

theorem toInt_online (now : Int) (tenant_id : Str) (device_mgr : DeviceManager) :
    (online now tenant_id device_mgr).toInt =
      (((device_mgr.list_devices tenant_id).length : Int) -
        ((device_mgr.list_offline_devices now 180).length : Int)).bmod (2 ^ 32) := by
  have hsize : Int32.size = 2 ^ 32 := rfl
  rw [online, Int32.toInt_ofNat', hsize, UInt64.toNat_sub, UInt64.toNat_ofNat', UInt64.toNat_ofNat']
  dsimp only [Int.bmod]
  omega

theorem toInt_online_count (now : Int) (tenant_id : Str) (device_mgr : DeviceManager) :
    (online_count now tenant_id device_mgr).toInt = max (online now tenant_id device_mgr).toInt 0 := by
  have hzero : (0 : Int32).toInt = 0 := rfl
  unfold online_count
  dsimp only
  split
  · rename_i hpos
    rw [gt_iff_lt, Int32.lt_iff_toInt_lt] at hpos
    omega
  · rename_i hneg
    rw [gt_iff_lt, Int32.lt_iff_toInt_lt] at hneg
    omega

/-- All devices are those of the tenant and those of the others. -/
theorem list_all_devices_perm (tenant_id : Str) (s : DeviceManager) : s.list_all_devices.Perm
    (s.list_devices tenant_id ++ DeviceManager.list_all_devices { s with tenants_ := s.tenants_.erase tenant_id }) := by
  unfold DeviceManager.list_all_devices DeviceManager.list_devices
  cases hl : s.tenants_.lookup tenant_id with
  | none =>
    have hnot : tenant_id ∉ s.tenants_.entries.keys := AList.lookup_eq_none.1 hl
    have herase : (s.tenants_.erase tenant_id).entries = s.tenants_.entries := List.kerase_of_notMem_keys hnot
    rw [herase, List.nil_append]
  | some td => exact (UMap.perm_cons_erase hl).flatMap_right _

theorem length_list_offline (now : Int) (tenant_id : Str) (s : DeviceManager) :
    (s.list_offline_devices now 180).length + (counted_devices now tenant_id s).length =
      (s.list_devices tenant_id).length + (silent_elsewhere now tenant_id s).length := by
  have hperm := ((list_all_devices_perm tenant_id s).filter fun dev => DeviceManager.Silent now 180 dev).length_eq
  have hsplit := List.length_eq_length_filter_add (l := s.list_devices tenant_id)
    fun dev => decide (DeviceManager.Silent now 180 dev)
  rw [List.filter_append, List.length_append] at hperm
  have hcounted : counted_devices now tenant_id s =
      (s.list_devices tenant_id).filter fun dev => !decide (DeviceManager.Silent now 180 dev) := by
    refine List.filter_congr fun dev _ => ?_
    rw [← decide_not]
  rw [hcounted, DeviceManager.list_offline_devices, silent_elsewhere, DeviceManager.list_offline_devices]
  omega

/-- Where no time overflows, the devices that are counted are those that were heard. -/
theorem onlineExact_iff_of_fits {now : Int} {tenant_id : Str} {s : DeviceManager}
    (hfits : ∀ dev ∈ s.list_devices tenant_id, DeviceManager.AgeFits now dev) :
    OnlineExact now tenant_id s ↔
      ((silent_elsewhere now tenant_id s).length % 2 ^ 32 = 0 ∧ (heard_devices now tenant_id s).length < 2 ^ 31) ∨
      ((heard_devices now tenant_id s).length = 0 ∧ (silent_elsewhere now tenant_id s).length % 2 ^ 32 ≤ 2 ^ 31) := by
  have hcounted : counted_devices now tenant_id s = heard_devices now tenant_id s := by
    refine List.filter_congr fun dev hdev => ?_
    rw [decide_eq_decide, DeviceManager.silent_iff (hfits dev hdev)]
    omega
  unfold OnlineExact
  rw [hcounted]
  dsimp only
  omega

/-- The route of a tenant answers with the number of its devices that were heard
in the last three minutes exactly when the silent devices of the other tenants
do not count. -/
theorem get_tenant_online_iff {req : HttpRequest} {tenant_id : Str} (hpath : req.path = tenants_path ++ tenant_id)
    (hslash : '/' ∉ tenant_id) (s : Services) :
    (∃ resp, get_tenant req s = .ok resp ∧ ReportsOnline resp (heard_devices s.now tenant_id s.device_mgr).length) ↔
      OnlineExact s.now tenant_id s.device_mgr := by
  have hget : get_tenant req s = .ok (json_response 200 (success (tenant_detail_json s tenant_id))) := by
    have hsub : substr req.path tenants_path.length = .ok tenant_id := by
      rw [hpath, substr_of_prefix (List.prefix_append _ _), List.drop_left]
    rw [get_tenant, hsub]
    show (if find ['/'] tenant_id ≠ none then _ else _) = _
    rw [if_neg (not_not.2 (find_single_eq_none_iff.2 hslash))]
  have hreports := tenant_detail_reports s tenant_id
  have hlen := length_list_offline s.now tenant_id s.device_mgr
  have hexact : (online_count s.now tenant_id s.device_mgr).toInt =
      (heard_devices s.now tenant_id s.device_mgr).length ↔ OnlineExact s.now tenant_id s.device_mgr := by
    rw [toInt_online_count, toInt_online]
    unfold OnlineExact
    dsimp only [Int.bmod]
    omega
  rw [hget, ← hexact]
  constructor
  · rintro ⟨_, ⟨⟩, hresp⟩
    exact hreports.unique hresp
  · intro heq
    exact ⟨_, rfl, heq ▸ hreports⟩

/-! ## Two tenants -/

/-- A request for the tenant `acme`. -/
def ask_acme : HttpRequest := { method := "GET".toList, path := tenants_path ++ "acme".toList }

/-- A device of `acme` that has just been heard, and a device of another tenant. -/
def two_tenants (last_heartbeat_at : Int) : Services :=
  let heard : Device := { tenant_id := "acme".toList, device_id := "dev-1".toList, last_heartbeat_at := 1000 }
  let other : Device := { tenant_id := "globex".toList, device_id := "dev-2".toList, last_heartbeat_at := last_heartbeat_at }
  { device_mgr := (DeviceManager.store {} "acme".toList "dev-1".toList heard).store "globex".toList "dev-2".toList other
    now := 1000 }

/-- The other device was heard as well. -/
theorem get_tenant_online_one :
    ∃ resp, get_tenant ask_acme (two_tenants 900) = .ok resp ∧
      ReportsOnline resp (heard_devices 1000 "acme".toList (two_tenants 900).device_mgr).length := by
  have hpath : ask_acme.path = tenants_path ++ "acme".toList := rfl
  have hfits : ∀ dev ∈ (two_tenants 900).device_mgr.list_devices "acme".toList, DeviceManager.AgeFits 1000 dev := by decide
  exact (get_tenant_online_iff hpath (by decide) (two_tenants 900)).2
    ((onlineExact_iff_of_fits hfits).2 (.inl (by decide)))

/-- The other device is silent: the device of `acme` is not counted. -/
theorem get_tenant_online_fails :
    (heard_devices 1000 "acme".toList (two_tenants 0).device_mgr).length = 1 ∧
      ∃ resp, get_tenant ask_acme (two_tenants 0) = .ok resp ∧ ReportsOnline resp 0 ∧ ¬ ReportsOnline resp 1 := by
  refine ⟨by decide, _, rfl, ?_⟩
  have hzero : ReportsOnline (json_response 200 (success (tenant_detail_json (two_tenants 0) "acme".toList))) 0 := by
    have hreports := tenant_detail_reports (two_tenants 0) "acme".toList
    have hcount : (online_count 1000 "acme".toList (two_tenants 0).device_mgr).toInt = 0 := by decide
    exact hcount ▸ hreports
  exact ⟨hzero, fun hone => absurd (hzero.unique hone) (by decide)⟩

end DevSys.Listings
