import DevSys.Server.Routes
/-!
# Exceptions that leave `handle_connection`

Nothing between a handler and the detached thread catches an exception, so a
text that a handler cannot read ends the process.
-/
open Cxx Net

namespace DevSys

theorem AccountManager.verify_token_returns_iff (org_mgr : OrgManager) (now : Int) (token : Str) (m : AccountManager) :
    Returns (m.verify_token org_mgr now token) ↔ ¬ m.Unreadable token := by
  unfold verify_token Unreadable
  by_cases hb : token ∈ m.invalidated_tokens_
  · rw [if_pos hb]
    exact iff_of_true (returns_ok _) fun h => h.1 hb
  rw [if_neg hb]
  rcases parse_token token with e | _ | ⟨id, exp⟩
  · exact iff_of_false (not_returns_error e) (not_not.2 ⟨hb, e, rfl⟩)
  · exact iff_of_true (returns_ok _) (by rintro ⟨-, e, he⟩; cases he)
  · refine iff_of_true ?_ (by rintro ⟨-, e, he⟩; cases he)
    dsimp only
    rw [returns_ite_ok]
    intro _
    cases m.get_account id with
    | none => exact returns_ok _
    | some acct =>
      dsimp only
      rw [returns_ite_ok]
      exact fun _ => returns_ok _

namespace Handlers
open JsonHelper

/-! ## Parts of a request -/

/-- The path behind a prefix. -/
def behind (pre : Str) (req : HttpRequest) : Str := req.path.drop pre.length

def IntsReadable (keys : List Str) (body : Str) : Prop := ∀ key ∈ keys, ReadableInt body key

theorem get_int_returns_iff (body key : Str) (d : Int32) : Returns (get_int body key d) ↔ ReadableInt body key :=
  get_int_isOk_iff body key d

theorem read_ints_returns_iff (fields : List (Str × Int32)) (req : HttpRequest) :
    Returns (read_ints fields req) ↔ IntsReadable (fields.map (·.1)) req.body := by
  rw [read_ints, returns_forM, IntsReadable, List.forall_mem_map]
  simp only [returns_map, get_int_returns_iff]

section Parts
variable {req : HttpRequest} {pre : Str} (h : pre <+: req.path)
include h

theorem path_tail_eq : path_tail pre req = .ok (behind pre req) := substr_of_prefix h

theorem path_id_returns_iff : Returns (path_id pre req) ↔ IsIntText 32 (behind pre req) := by
  rw [path_id, path_tail_eq h, returns_ok_bind, stoi_returns_iff]

/-- Integer fields that are read if what the path names exists. -/
theorem guarded_ints_returns_iff (found : Str → Bool) (fields : List (Str × Int32)) :
    Returns (do
      let code ← path_tail pre req
      if ¬found code then .ok () else read_ints fields req) ↔
      (found (behind pre req) = true → IntsReadable (fields.map (·.1)) req.body) := by
  rw [path_tail_eq h, returns_ok_bind, returns_ite_ok, not_not, read_ints_returns_iff]

/-- The text between the prefix and the suffix, of a length that wraps around
when the two overlap. -/
theorem path_between_eq (suffix : Str) :
    path_between pre suffix req = .ok (if suffix <:+ req.path then
      some ((behind pre req).take (sizeSub (req.path.length - pre.length) suffix.length)) else none) := by
  have hsize : sizeSub req.path.length pre.length = req.path.length - pre.length := if_pos h.length_le
  unfold path_between
  by_cases hlen : req.path.length < suffix.length
  · have hnot : ¬ suffix <:+ req.path := fun hs => Nat.not_lt.2 hs.length_le hlen
    rw [if_pos hlen, if_neg hnot]
  have hlast : substr req.path (req.path.length - suffix.length) =
      .ok (req.path.drop (req.path.length - suffix.length)) := if_neg (Nat.not_lt.2 (Nat.sub_le _ _))
  have hid (n : Nat) : substr req.path pre.length (some n) = .ok ((behind pre req).take n) :=
    if_neg (Nat.not_lt.2 h.length_le)
  rw [if_neg hlen, hlast, hsize]
  simp only [hid, List.suffix_iff_eq_drop]
  by_cases hs : suffix = req.path.drop (req.path.length - suffix.length)
  · rw [if_pos hs, ← hs]
    exact if_neg (not_not.2 rfl)
  · rw [if_neg hs]
    exact if_pos (Ne.symm hs)

end Parts

/-! ## The broker -/

/-- What follows the first colon of a URL without its scheme is a number. -/
def PortReadable (api_url : Str) : Prop :=
  ∀ host rest, (if "http://".toList <+: api_url then api_url.drop 7 else api_url) = host ++ ':' :: rest → ':' ∉ host →
    IsIntText 32 rest

/-- The text of the port is the rest of the URL, or ends at a slash in it. -/
theorem port_text (host rest : Str) :
    let url := host ++ ':' :: rest
    let text := substrTo url (host.length + 1) ((find ['/'] url).filter (host.length < ·))
    text = rest ∨ ∃ tail, rest = text ++ '/' :: tail := by
  intro url text
  have hdrop : url.drop (host.length + 1) = rest := by
    rw [List.drop_append]
    simp
  by_cases hs : '/' ∈ host
  · -- a slash before the colon does not count
    obtain ⟨a, b, hab, ha⟩ := List.eq_append_cons_of_mem hs
    have hfind : find ['/'] url = some a.length := by
      rw [show url = a ++ '/' :: (b ++ ':' :: rest) by simp [url, hab], find_single_append ha]
    have hlen : ¬ host.length < a.length := by simp [hab]
    refine .inl ?_
    simp only [text, hfind, Option.filter_some, hlen, decide_false, Bool.false_eq_true, if_false, substrTo, hdrop]
  by_cases hr : '/' ∈ rest
  · obtain ⟨a, b, hab, ha⟩ := List.eq_append_cons_of_mem hr
    have hnot : '/' ∉ host ++ ':' :: a := by simp [hs, ha]
    have hfind : find ['/'] url = some (host.length + 1 + a.length) := by
      rw [show url = (host ++ ':' :: a) ++ '/' :: b by simp [url, hab], find_single_append hnot]
      simp only [List.length_append, List.length_cons, Option.some.injEq]
      omega
    have hlt : host.length < host.length + 1 + a.length := by omega
    have htext : text = a := by
      simp only [text, hfind, Option.filter_some, hlt, decide_true, if_true, substrTo, hdrop]
      rw [hab, Nat.add_sub_cancel_left, List.take_left]
    exact .inr ⟨b, by rw [htext, hab]⟩
  · have hfind : find ['/'] url = none := by
      rw [find_single_eq_none_iff]
      simp [url, hs, hr]
    refine .inl ?_
    simp only [text, hfind, Option.filter_none, substrTo, hdrop]

theorem isIntText_append_slash (bits : Nat) (s tail : Str) : IsIntText bits (s ++ '/' :: tail) ↔ IsIntText bits s := by
  unfold IsIntText
  rw [strtol_append_stop s tail (by decide) (by decide) (by decide) (by decide)]

theorem broker_port_returns_iff (api_url : Str) : Returns (broker_port api_url) ↔ PortReadable api_url := by
  unfold broker_port PortReadable
  simp only [find_eq_zero_iff]
  generalize (if "http://".toList <+: api_url then api_url.drop 7 else api_url) = url
  by_cases hc : ':' ∈ url
  · obtain ⟨host, rest, rfl, hhost⟩ := List.eq_append_cons_of_mem hc
    rw [find_single_append hhost]
    have hstoi : Returns (stoi (substrTo (host ++ ':' :: rest) (host.length + 1)
        ((find ['/'] (host ++ ':' :: rest)).filter (host.length < ·)))) ↔ IsIntText 32 rest := by
      rw [stoi_returns_iff]
      rcases port_text host rest with htext | ⟨tail, htext⟩
      · rw [htext]
      · rw [← isIntText_append_slash 32 _ tail, ← htext]
    refine hstoi.trans ⟨?_, fun h => h host rest rfl hhost⟩
    intro h host' rest' heq hhost'
    obtain ⟨rfl, rfl⟩ := cut_inj hhost hhost' heq
    exact h
  · rw [find_single_eq_none_iff.2 hc]
    refine iff_of_true (returns_ok _) ?_
    rintro host rest rfl
    exact absurd (List.mem_append_right _ List.mem_cons_self) hc

theorem mqtt_broker_api_ne_nil (s : Server) : s.mqtt_broker_api ≠ [] := by
  unfold Server.mqtt_broker_api
  exact List.append_ne_nil_of_right_ne_nil _ (List.cons_ne_nil _ _)

theorem verify_tenant_via_broker_returns_iff (key : Str) (s : Server) :
    Returns (verify_tenant_via_broker key s) ↔ (key ≠ [] → PortReadable s.mqtt_broker_api) := by
  unfold verify_tenant_via_broker
  rw [returns_ite, and_iff_left fun _ => returns_ok _, returns_map, broker_port_returns_iff]
  exact ⟨fun h hk => h ⟨mqtt_broker_api_ne_nil s, hk⟩, fun h hk => h hk.2⟩

/-- A key is verified unless it is missing. -/
theorem verify_key_returns_iff (key : Str) (s : Server) :
    Returns (if key = [] then .ok () else verify_tenant_via_broker key s) ↔
      (key ≠ [] → PortReadable s.mqtt_broker_api) := by
  rw [returns_ite_ok, verify_tenant_via_broker_returns_iff]
  exact ⟨fun h hk => h hk hk, fun h hk _ => h hk⟩

theorem get_tenant_by_key_returns_iff (req : HttpRequest) (s : Server) :
    Returns (get_tenant_by_key req s) ↔ (qp req.query "key".toList ≠ [] → PortReadable s.mqtt_broker_api) := by
  unfold get_tenant_by_key
  dsimp only
  rw [returns_ite_ok, if_neg (mqtt_broker_api_ne_nil s), returns_map, broker_port_returns_iff]

/-! ## Organisations -/

/-- A configured broker has a port that can be read. -/
def BrokerReadable (s : Server) : Prop := ∀ url, s.MQTT_BROKER_API = some url → url ≠ [] → PortReadable url

theorem tell_broker_returns_iff (s : Server) : Returns (tell_broker s) ↔ BrokerReadable s := by
  unfold tell_broker BrokerReadable
  cases s.MQTT_BROKER_API with
  | none => simp
  | some url =>
    simp only [Option.some.injEq, forall_eq']
    rw [returns_ite_ok, returns_map, broker_port_returns_iff]

/-- The parent is a number, and if the organisation is accepted, the broker can
be told. -/
def OrgReadable (req : HttpRequest) (s : Server) : Prop :=
  ReadableInt req.body "parent_id".toList ∧
    ∀ parent_id, get_int req.body "parent_id".toList 0 = .ok parent_id →
      let info := org_info parent_id req
      info.org_name ≠ [] → s.org_mgr.checkParent info = none → s.org_mgr.tenant_exists info.tenant_id = false →
        BrokerReadable s

theorem post_org_returns_iff (req : HttpRequest) (s : Server) : Returns (post_org req s) ↔ OrgReadable req s := by
  rw [post_org, returns_bind, get_int_returns_iff, OrgReadable]
  refine and_congr_right fun _ => forall_congr' fun parent_id => imp_congr_right fun _ => ?_
  dsimp only
  rw [returns_ite_ok, returns_ite_ok, not_not, OrgManager.create_org_ok_iff, and_imp, tell_broker_returns_iff]

/-- The path of the route has no query in it. -/
theorem get_orgs_returns {req : HttpRequest} (h : req.path = "/api/v1/orgs".toList) : Returns (get_orgs req) := by
  have hfind : find "?parent_id=".toList req.path = none := by
    rw [h]
    decide
  rw [get_orgs, hfind]
  exact returns_ok _

/-- The id is a number, and if the organisation is deleted, the broker can be told. -/
def DeletionReadable (req : HttpRequest) (s : Server) : Prop :=
  IsIntText 32 (behind "/api/v1/orgs/".toList req) ∧
    ∀ org_id, stoi (behind "/api/v1/orgs/".toList req) = .ok org_id → s.org_mgr.org_exists org_id = true →
      s.org_mgr.has_children org_id = false → BrokerReadable s

theorem delete_org_returns_iff {req : HttpRequest} (h : "/api/v1/orgs/".toList <+: req.path) (s : Server) :
    Returns (delete_org req s) ↔ DeletionReadable req s := by
  have hid : path_id "/api/v1/orgs/".toList req = stoi (behind "/api/v1/orgs/".toList req) := by
    rw [path_id, path_tail_eq h]
    rfl
  rw [delete_org, hid, returns_bind, stoi_returns_iff, DeletionReadable]
  refine and_congr_right fun _ => forall_congr' fun org_id => imp_congr_right fun _ => ?_
  rw [returns_ite_ok, not_not, OrgManager.delete_org_ok_iff, and_imp, tell_broker_returns_iff]

/-! ## Accounts -/

/-- A path that ends in `/password` has an id before it. -/
def PasswordReadable (req : HttpRequest) : Prop :=
  "/password".toList <:+ req.path →
    ∃ id, req.path = "/api/v1/accounts/".toList ++ id ++ "/password".toList ∧ IsIntText 32 id

/-- No end of `/password` is a number. -/
theorem not_isIntText_of_suffix {t : Str} (h : t <:+ "/password".toList) : ¬ IsIntText 32 t := by
  have hall : ∀ t ∈ "/password".toList.tails, ¬ IsIntText 32 t := by decide
  exact hall t ((List.mem_tails _ _).2 h)

/-- The text before a suffix that does not overlap with the prefix. -/
theorem take_before_suffix (id suffix : Str) :
    (id ++ suffix).take (sizeSub (id ++ suffix).length suffix.length) = id := by
  rw [sizeSub, if_pos (by simp), List.length_append, Nat.add_sub_cancel, List.take_left]

/-- A suffix that overlaps with the prefix cuts off nothing. -/
theorem take_overlapping {t suffix : Str} (h : t.length < suffix.length) (hs : suffix.length ≤ 2 ^ 64) :
    t.take (sizeSub t.length suffix.length) = t := by
  rw [sizeSub, if_neg (Nat.not_le.2 h), List.take_of_length_le]
  omega

theorem path_between_returns {req : HttpRequest} {pre : Str} (h : pre <+: req.path) (suffix : Str) :
    Returns (path_between pre suffix req) := by
  rw [path_between_eq h]
  exact returns_ok _

theorem put_account_password_returns_iff {req : HttpRequest} (h : "/api/v1/accounts/".toList <+: req.path) :
    Returns (put_account_password req) ↔ PasswordReadable req := by
  rw [put_account_password, path_between_eq h, returns_ok_bind, PasswordReadable]
  by_cases hs : "/password".toList <:+ req.path
  · rw [if_pos hs, imp_iff_right hs]
    obtain ⟨t, ht⟩ := h
    have hbehind : behind "/api/v1/accounts/".toList req = t := by
      rw [behind, ← ht, List.drop_left]
    have hlen : req.path.length - "/api/v1/accounts/".toList.length = t.length := by
      rw [← ht, List.length_append, Nat.add_sub_cancel_left]
    rw [hbehind, hlen]
    dsimp only
    rw [returns_map, stoi_returns_iff]
    rw [← ht] at hs ⊢
    by_cases hle : "/password".toList.length ≤ t.length
    · obtain ⟨id, rfl⟩ := List.suffix_of_suffix_length_le hs (List.suffix_append _ t) hle
      rw [take_before_suffix]
      constructor
      · intro hid
        exact ⟨id, by rw [List.append_assoc], hid⟩
      · rintro ⟨id', heq, hid⟩
        rw [List.append_assoc, List.append_cancel_left_eq, List.append_cancel_right_eq] at heq
        rw [heq]
        exact hid
    · -- the slash of the suffix is the one of the prefix
      have hsuffix := List.suffix_of_suffix_length_le (List.suffix_append _ t) hs (Nat.le_of_not_le hle)
      rw [take_overlapping (Nat.lt_of_not_le hle) (by decide)]
      refine iff_of_false (not_isIntText_of_suffix hsuffix) ?_
      rintro ⟨id, heq, -⟩
      rw [List.append_assoc, List.append_cancel_left_eq] at heq
      apply hle
      rw [heq, List.length_append]
      exact Nat.le_add_left _ _
  · rw [if_neg hs]
    exact iff_of_true (returns_ok _) fun h => absurd h hs

theorem put_account_returns_iff {req : HttpRequest} (h : "/api/v1/accounts/".toList <+: req.path) :
    Returns (put_account req) ↔
      ('/' ∉ behind "/api/v1/accounts/".toList req → IsIntText 32 (behind "/api/v1/accounts/".toList req)) := by
  rw [put_account, path_tail_eq h, returns_ok_bind, returns_ite_ok, not_not, find_single_eq_none_iff, returns_map,
    stoi_returns_iff]

/-! ## Tokens -/

/-- An empty token is not unreadable. -/
theorem unreadable_of_ne_nil_iff (m : AccountManager) (token : Str) :
    (¬token = [] → ¬ m.Unreadable token) ↔ ¬ m.Unreadable token := by
  refine ⟨fun h => ?_, fun h _ => h⟩
  by_cases ht : token = []
  · rw [ht]
    exact m.not_unreadable_nil
  · exact h ht

theorem get_auth_profile_returns_iff (req : HttpRequest) (s : Server) :
    Returns (get_auth_profile req s) ↔ ¬ s.acct_mgr.Unreadable (bearer_token req) := by
  unfold get_auth_profile
  dsimp only
  rw [returns_ite_ok, returns_map, AccountManager.verify_token_returns_iff, unreadable_of_ne_nil_iff]

theorem extract_auth_returns_iff (req : HttpRequest) (s : Services) :
    Returns (Listings.extract_auth req s) ↔ ¬ s.acct_mgr.Unreadable (Listings.request_token req) := by
  unfold Listings.extract_auth
  dsimp only
  rw [returns_ite_ok, AccountManager.verify_token_returns_iff, unreadable_of_ne_nil_iff]

/-! ## Firmware -/

/-- The versions in a product's directory can be read. -/
def LatestReadable (req : HttpRequest) (s : Server) : Prop :=
  let product_id := qp req.query "product_id".toList
  let fw_dir := "./firmware/".toList ++ product_id
  product_id ≠ [] → s.files.file fw_dir ≠ none →
    ∀ e ∈ s.files.entries fw_dir, e.is_regular = true → e.stat.isSome = true → FirmwareFiles.VersionReadable e.name

theorem get_firmware_latest_returns_iff (req : HttpRequest) (s : Server) :
    Returns (get_firmware_latest req s) ↔ LatestReadable req s := by
  unfold get_firmware_latest LatestReadable
  dsimp only
  rw [returns_ite_ok, returns_ite_ok, returns_map, FirmwareFiles.select_latest_returns_iff]

theorem post_push_returns_iff (req : HttpRequest) : Returns (post_push req) ↔
    (get_string req.body "mode".toList = "grayscale".toList → IntsReadable ["percent".toList] req.body) := by
  unfold post_push
  dsimp only
  generalize get_string req.body "mode".toList = mode
  by_cases hall : mode = "all".toList
  · subst hall
    rw [if_pos rfl]
    exact iff_of_true (returns_ok _) fun h => absurd h (by decide)
  rw [if_neg hall, returns_ite, and_iff_left fun _ => returns_ok _, read_ints_returns_iff]
  rfl

end Handlers

namespace Route
open Handlers JsonHelper

/-- What the handler of the route reads is what it takes it for. -/
def Readable (alloc : Nat → Option Thrown) (req : HttpRequest) (s : Server) : Route → Prop
  | get_device_status | get_devices | get_tenants => ¬ s.acct_mgr.Unreadable (Listings.request_token req)
  | get_auth_profile => ¬ s.acct_mgr.Unreadable (bearer_token req)
  | post_device_type => IntsReadable ["internal_type".toList, "sort_order".toList] req.body
  | put_device_type =>
    s.type_exists (behind "/api/v1/device-types/".toList req) = true →
      IntsReadable ["internal_type".toList, "sort_order".toList] req.body
  | post_device_model => IntsReadable ["sort_order".toList] req.body
  | put_device_model =>
    s.model_exists (behind "/api/v1/device-models/".toList req) = true → IntsReadable ["sort_order".toList] req.body
  | post_order => IntsReadable ["quantity".toList, "total_amount".toList] req.body
  | post_recipe => IntsReadable ["device_type".toList, "version".toList] req.body
  | put_recipe =>
    s.recipe_exists (behind "/api/v1/recipes/".toList req) = true → IntsReadable ["device_type".toList] req.body
  | put_fault_resolve => IntsReadable ["code".toList] req.body
  | get_firmware_latest => LatestReadable req s
  | get_firmware_download => FirmwareFiles.DownloadReadable alloc s.files req
  | post_firmware => IntsReadable ["file_size".toList, "created_at".toList] req.body
  | post_push => get_string req.body "mode".toList = "grayscale".toList → IntsReadable ["percent".toList] req.body
  | put_tenant_key => get_string req.body "tenant_key".toList ≠ [] → PortReadable s.mqtt_broker_api
  | get_tenant_key_verify | get_tenant_by_key => qp req.query "key".toList ≠ [] → PortReadable s.mqtt_broker_api
  | get_org | put_org => IsIntText 32 (behind "/api/v1/orgs/".toList req)
  | post_org => OrgReadable req s
  | delete_org => DeletionReadable req s
  | get_account | delete_account => IsIntText 32 (behind "/api/v1/accounts/".toList req)
  | post_account => IntsReadable ["org_id".toList] req.body
  | put_account_password => PasswordReadable req
  | put_account =>
    '/' ∉ behind "/api/v1/accounts/".toList req → IsIntText 32 (behind "/api/v1/accounts/".toList req)
  | _ => True

theorem Serves.prefix_of {r : Route} {req : HttpRequest} (h : r.Serves req) {pre : Str} (hpre : r.stem = pre) :
    pre <+: req.path := hpre ▸ h.stem

/-- A handler that only takes the path behind its prefix. -/
theorem tail_returns_iff {req : HttpRequest} {pre : Str} (h : pre <+: req.path) :
    Returns ((path_tail pre req).map fun _ => ()) ↔ True := by
  rw [returns_map, path_tail_eq h]
  exact iff_true_intro (returns_ok _)

theorem id_returns_iff {req : HttpRequest} {pre : Str} (h : pre <+: req.path) :
    Returns ((path_id pre req).map fun _ => ()) ↔ IsIntText 32 (behind pre req) := by
  rw [returns_map, path_id_returns_iff h]

theorem reads_returns_iff (alloc : Nat → Option Thrown) {req : HttpRequest} (s : Server) {r : Route}
    (h : r.Serves req) (hr : r ∉ [get_device_status, get_devices, get_tenants, get_firmware_download]) :
    Returns (r.reads req s) ↔ r.Readable alloc req s := by
  cases r
  case get_device_status | get_devices | get_tenants | get_firmware_download => simp at hr
  case put_device_tenant | delete_device | get_device_type | delete_device_type | get_device_model
    | delete_device_model | get_order | put_order | delete_order | get_recipe | delete_recipe | get_firmware
    | delete_firmware | get_upgrade | get_ota_stats | get_device_faults | get_tenant =>
    exact tail_returns_iff (h.prefix_of (by decide +kernel))
  case get_org | put_org | get_account | delete_account => exact id_returns_iff (h.prefix_of (by decide +kernel))
  case post_device_type | post_device_model | post_order | post_recipe | put_fault_resolve | post_firmware
    | post_account => exact read_ints_returns_iff _ req
  case put_device_type => exact guarded_ints_returns_iff (h.prefix_of (by decide +kernel)) s.type_exists _
  case put_device_model => exact guarded_ints_returns_iff (h.prefix_of (by decide +kernel)) s.model_exists _
  case put_recipe => exact guarded_ints_returns_iff (h.prefix_of (by decide +kernel)) s.recipe_exists _
  case get_firmware_latest => exact get_firmware_latest_returns_iff req s
  case post_push => exact post_push_returns_iff req
  case get_tenant_devices =>
    refine iff_true_intro (returns_map.2 (path_between_returns ?_ _))
    exact h.prefix_of (by decide +kernel)
  case put_tenant_key | get_tenant_key_verify => exact verify_key_returns_iff _ s
  case get_tenant_by_key => exact get_tenant_by_key_returns_iff req s
  case get_orgs => exact iff_true_intro (get_orgs_returns (h.exact (by decide)))
  case post_org => exact post_org_returns_iff req s
  case delete_org => exact delete_org_returns_iff (h.prefix_of (by decide +kernel)) s
  case get_auth_profile => exact get_auth_profile_returns_iff req s
  case put_account_password => exact put_account_password_returns_iff (h.prefix_of (by decide +kernel))
  case put_account => exact put_account_returns_iff (h.prefix_of (by decide +kernel))
  all_goals exact iff_true_intro (returns_ok _)

theorem handle_returns_iff (alloc : Nat → Option Thrown) (answer : Route → HttpRequest → Server → HttpResponse)
    (s : Server) {r : Route} {req : HttpRequest} (h : r.Serves req) :
    Returns (r.handle alloc answer s req) ↔ r.Readable alloc req s := by
  by_cases hr : r ∈ [get_device_status, get_devices, get_tenants, get_firmware_download]
  · have hlisting (f : Option TokenPayload → HttpResponse) :
        Returns (Listings.extract_auth req s.toServices >>= fun tp => (.ok (f tp) : Except Exn HttpResponse)) ↔
          ¬ s.acct_mgr.Unreadable (Listings.request_token req) := by
      rw [returns_bind_of fun tp => iff_true_intro (returns_ok _), and_true, extract_auth_returns_iff]
    simp only [List.mem_cons, List.not_mem_nil, or_false] at hr
    rcases hr with rfl | rfl | rfl | rfl
    · exact returns_mapError.trans (hlisting _)
    · exact returns_mapError.trans (hlisting _)
    · exact returns_mapError.trans (hlisting _)
    · exact FirmwareFiles.get_firmware_download_returns_iff alloc s.files (h.prefix_of (by decide +kernel))
  · have hhandle : r.handle alloc answer s req = ((r.reads req s).map fun _ => answer r req s).mapError .text := by
      cases r
      case get_device_status | get_devices | get_tenants | get_firmware_download => simp at hr
      all_goals rfl
    rw [hhandle, returns_mapError, returns_map, reads_returns_iff alloc s h hr]

end Route

namespace ApiServer

/-- A connection ends with its socket closed exactly when the memory for its body
is granted, the handler of its route can read the request, and the client is
there for what is sent to it. -/
theorem connection_closes_iff (alloc : Nat → Option Thrown) (answer : Route → HttpRequest → Server → HttpResponse)
    (s : Server) (order : List Route) (outs : List Send) (client : Socket) :
    (∃ sent, handle_connection alloc (Route.table alloc answer s order) outs client = .closed sent) ↔
      MemoryGranted alloc client ∧
        (∀ req r, request client = some req → Route.dispatch order req = some r → r.Readable alloc req s) ∧
        Stays (Route.table alloc answer s order) outs client := by
  rw [handle_connection_closes_iff]
  refine and_congr_right fun _ => and_congr_left fun _ => forall_congr' fun req => ?_
  rw [Route.respond_table]
  constructor
  · intro h r hreq hr
    exact (Route.handle_returns_iff alloc answer s (Route.dispatch_serves hr)).1 (h hreq r hr)
  · intro h hreq r hr
    exact (Route.handle_returns_iff alloc answer s (Route.dispatch_serves hr)).2 (h r hreq hr)

/-- An organisation with the id `abc`. -/
def request_of_org_abc : Bytes := "GET /api/v1/orgs/abc HTTP/1.1\r\n\r\n".toList.map fun c => UInt8.ofNat c.toNat

/-- One request from anyone ends the process. -/
theorem connection_closes_fails :
    ¬ ∃ sent, handle_connection (fun _ => none) (Route.table (fun _ => none) (fun _ _ _ => {}) {} Route.all) []
      [.data request_of_org_abc] = .closed sent := by
  have hhead : read_head [] [.data request_of_org_abc] = some (chars request_of_org_abc, []) :=
    read_head_of_piece (by decide) (by decide) []
  have hescaped : handle_connection (fun _ => none) (Route.table (fun _ => none) (fun _ _ _ => {}) {} Route.all) []
      [.data request_of_org_abc] = .escaped [] (.text .invalid_argument) := by
    rw [handle_connection, hhead]
    decide +kernel
  rw [hescaped]
  rintro ⟨sent, h⟩
  cases h

end ApiServer

end DevSys
