import DevSys.Server.Listings
import DevSys.Server.TenantKey
import DevSys.Storage.Statements
/-!
# The statements that a request's text goes into

Moving a device to another tenant, deleting a device and saving the tenant of
the broker put a text between quotes as it is.
-/
open Cxx SqlText

namespace DevSys

/-- A statement put together by hand, by what goes into it. -/
inductive Statement where
  | ensure_tenant (new_tenant : Str)
  | update_tenant (new_tenant device_id : Str)
  | delete_tokens (did : Str)
  | delete_device (did : Str)
  | save_tenant_config (key name : Str)
  deriving DecidableEq

namespace Statement
open Database

def text : Statement → Str
  | .ensure_tenant new_tenant =>
    "INSERT INTO tenants (tenant_id, name) VALUES ('".toList ++ new_tenant ++ "','".toList ++ new_tenant ++
      "') ON CONFLICT (tenant_id) DO NOTHING".toList
  | .update_tenant new_tenant device_id =>
    "UPDATE devices SET tenant_id='".toList ++ new_tenant ++
      "', updated_at=EXTRACT(EPOCH FROM NOW())::BIGINT WHERE device_id='".toList ++ device_id ++ "'".toList
  | .delete_tokens did => "DELETE FROM activation_tokens WHERE device_id='".toList ++ did ++ "'".toList
  | .delete_device did => "DELETE FROM devices WHERE device_id='".toList ++ did ++ "'".toList
  | .save_tenant_config key name => Backend.update_text key name

/-- What should be the values of its literals, in their order. -/
def inputs : Statement → List Str
  | .ensure_tenant new_tenant => [new_tenant, new_tenant]
  | .update_tenant new_tenant device_id => [new_tenant, device_id]
  | .delete_tokens did => [did]
  | .delete_device did => [did]
  | .save_tenant_config key name => [key, name]

/-- Its tokens around them, which are the same for all inputs. -/
def template : Statement → List Item
  | .ensure_tenant _ =>
    SqlText.template ["INSERT INTO tenants (tenant_id, name) VALUES (".toList] 1
      (SqlText.template [",".toList] 1 (ending ") ON CONFLICT (tenant_id) DO NOTHING".toList))
  | .update_tenant _ _ =>
    SqlText.template ["UPDATE devices SET tenant_id=".toList] 1
      (SqlText.template [", updated_at=EXTRACT(EPOCH FROM NOW())::BIGINT WHERE device_id=".toList] 1 (ending []))
  | .delete_tokens _ =>
    SqlText.template ["DELETE FROM activation_tokens WHERE device_id=".toList] 1 (ending [])
  | .delete_device _ => SqlText.template ["DELETE FROM devices WHERE device_id=".toList] 1 (ending [])
  | .save_tenant_config _ _ =>
    SqlText.template ["UPDATE mqtt_tenant_config SET tenant_key=".toList] 1
      (SqlText.template [", tenant_name=".toList] 1 (ending " WHERE id=1".toList))

/-- The database reads the tokens of the template, with the inputs as the
literals, and no semicolon among them. -/
structure Faithful (st : Statement) : Prop where
  tokens : lex (c_str st.text) = some (fill st.template (st.inputs.map .str))
  single : .symbol ';' ∉ fill st.template (st.inputs.map .str)

/-! ## Between quotes -/

section
variable {opening closing p r : Str}

theorem one_literal (hopening : opening = p ++ ['\'']) (hclosing : closing = '\'' :: r) (x : Str) :
    opening ++ x ++ closing = p ++ (raw x ++ r) := by
  rw [hopening, hclosing]
  simp only [raw, List.append_assoc, List.cons_append, List.nil_append]

theorem two_literals {between q : Str} (hopening : opening = p ++ ['\'']) (hbetween : between = '\'' :: (q ++ ['\'']))
    (hclosing : closing = '\'' :: r) (x y : Str) :
    opening ++ x ++ between ++ y ++ closing = p ++ (raw x ++ (q ++ (raw y ++ r))) := by
  have hfirst := one_literal hopening hbetween x
  have hrest := one_literal (p := q) rfl hclosing y
  rw [hfirst]
  simp only [raw, List.append_assoc, List.cons_append, List.nil_append] at hrest ⊢
  rw [hrest]

end

theorem quote_text : "'".toList = ['\''] := String.toList_ofList

theorem ensure_tenant_text (t : Str) :
    text (.ensure_tenant t) = "INSERT INTO tenants (tenant_id, name) VALUES (".toList ++ (raw t ++ (",".toList ++
      (raw t ++ ") ON CONFLICT (tenant_id) DO NOTHING".toList))) := by
  refine two_literals ?_ (by decide) ?_ t t
  · rw [String.toList_ofList, String.toList_ofList]
    rfl
  · rw [String.toList_ofList, String.toList_ofList]

theorem update_tenant_text (t d : Str) :
    text (.update_tenant t d) = "UPDATE devices SET tenant_id=".toList ++ (raw t ++
      (", updated_at=EXTRACT(EPOCH FROM NOW())::BIGINT WHERE device_id=".toList ++ (raw d ++ []))) := by
  refine two_literals ?_ ?_ quote_text t d
  · rw [String.toList_ofList, String.toList_ofList]
    rfl
  · rw [String.toList_ofList, String.toList_ofList]
    rfl

theorem delete_tokens_text (d : Str) :
    text (.delete_tokens d) = "DELETE FROM activation_tokens WHERE device_id=".toList ++ (raw d ++ []) := by
  refine one_literal ?_ quote_text d
  rw [String.toList_ofList, String.toList_ofList]
  rfl

theorem delete_device_text (d : Str) :
    text (.delete_device d) = "DELETE FROM devices WHERE device_id=".toList ++ (raw d ++ []) := by
  refine one_literal ?_ quote_text d
  rw [String.toList_ofList, String.toList_ofList]
  rfl

theorem save_tenant_config_text (key name : Str) :
    text (.save_tenant_config key name) = "UPDATE mqtt_tenant_config SET tenant_key=".toList ++ (raw key ++
      (", tenant_name=".toList ++ (raw name ++ " WHERE id=1".toList))) := by
  refine two_literals ?_ ?_ ?_ key name
  · rw [String.toList_ofList, String.toList_ofList]
    rfl
  · rw [String.toList_ofList, String.toList_ofList]
    rfl
  · rw [String.toList_ofList, String.toList_ofList]

/-! ## When a literal is read as its input -/

theorem unescaped (st : Statement) : Unescaped st.text st.template st.inputs := by
  have hnothing : Unescaped [] (ending []) [] := .ending_of_eq rfl (by decide)
  cases st with
  | ensure_tenant t =>
    rw [ensure_tenant_text]
    refine .literal_of_eq String.toList_ofList (by decide +kernel) (by simp [Continues, continuation, isspace]) ?_
    refine .literal_of_eq String.toList_ofList (by decide +kernel) (by decide +kernel) ?_
    exact .ending_of_eq String.toList_ofList (by decide +kernel)
  | update_tenant t d =>
    rw [update_tenant_text]
    refine .literal_of_eq String.toList_ofList (by decide +kernel) (by simp [Continues, continuation, isspace]) ?_
    exact .literal_of_eq String.toList_ofList (by decide +kernel) (by decide) hnothing
  | delete_tokens d =>
    rw [delete_tokens_text]
    exact .literal_of_eq String.toList_ofList (by decide +kernel) (by decide) hnothing
  | delete_device d =>
    rw [delete_device_text]
    exact .literal_of_eq String.toList_ofList (by decide +kernel) (by decide) hnothing
  | save_tenant_config key name =>
    rw [save_tenant_config_text]
    refine .literal_of_eq String.toList_ofList (by decide +kernel) (by simp [Continues, continuation, isspace]) ?_
    refine .literal_of_eq String.toList_ofList (by decide +kernel) (by decide +kernel) ?_
    exact .ending_of_eq String.toList_ofList (by decide +kernel)

/-- The database reads a statement as it is meant exactly if there are no
quotes in its inputs. -/
theorem faithful_iff (st : Statement) (h : ∀ x ∈ st.inputs, '\x00' ∉ x) : st.Faithful ↔ ∀ x ∈ st.inputs, '\'' ∉ x := by
  have hst := st.unescaped
  have hlen : st.inputs.length ≤ 2 := by cases st <;> simp [inputs]
  rw [← hst.lex_iff hlen, ← c_str_of_plain (hst.plain h)]
  exact ⟨fun hf => hf.tokens, fun ht => ⟨ht, hst.single⟩⟩

end Statement

/-! ## The handlers -/

/-- What a handler leaves: its answer, the devices in memory, and the
statements it has sent in their order. -/
structure Handled where
  response : HttpResponse
  device_mgr : DeviceManager
  sent : List Statement

namespace DeviceHandlers
open Json Listings

def tenant_in_body (req : HttpRequest) : Str := JsonHelper.get_string req.body "tenant_id".toList

/-- `PUT /api/v1/devices/{device_id}/tenant`; `update` is the outcome of the
last statement. -/
def put_device_tenant (update : StatusCode) (req : HttpRequest) (device_mgr : DeviceManager) : Except Exn Handled := do
  let device_id ← substr req.path "/api/v1/devices/".toList.length
  match rfind "/tenant".toList device_id with
  | none => .ok ⟨error_response 404 1002 "Not found".toList, device_mgr, []⟩
  | some slash =>
    let device_id := device_id.take slash
    let new_tenant := tenant_in_body req
    if new_tenant = [] then .ok ⟨error_response 400 1001 "tenant_id is required".toList, device_mgr, []⟩
    else
      let (mg_sc, migrated) := device_mgr.migrate_device device_id new_tenant
      if mg_sc ≠ .OK then
        .ok ⟨error_response 404 1002 ("Device not found: ".toList ++ device_id), migrated, [.ensure_tenant new_tenant]⟩
      else
        let sent := [.ensure_tenant new_tenant, .update_tenant new_tenant device_id]
        if update ≠ .OK then .ok ⟨error_response 500 2000 "Database update failed".toList, migrated, sent⟩
        else
          .ok ⟨json_response 200 (success (object
            [strMember "device_id".toList device_id, strMember "tenant_id".toList new_tenant])), migrated, sent⟩

/-- The tenant under which the first device with this id is listed. -/
def tenant_of (did : Str) (device_mgr : DeviceManager) : Str :=
  match device_mgr.list_all_devices.find? (·.device_id = did) with
  | none => []
  | some d => d.tenant_id

/-- `DELETE /api/v1/devices/{device_id}`. -/
def delete_device (req : HttpRequest) (device_mgr : DeviceManager) : Except Exn Handled := do
  let did ← substr req.path "/api/v1/devices/".toList.length
  let tid := tenant_of did device_mgr
  if tid = [] then .ok ⟨error_response 404 1002 ("Device not found: ".toList ++ did), device_mgr, []⟩
  else
    .ok ⟨json_response 200 (success (object [strMember "device_id".toList did, member "deleted".toList "true".toList])),
      (device_mgr.remove_device tid did).2, [.delete_tokens did, .delete_device did]⟩

/-! ## What they send -/

/-- What follows the prefix of a device's path. -/
def device_in_path (path : Str) : Str := path.drop "/api/v1/devices/".toList.length

/-- The device in front of the last `/tenant`. -/
def migrated_device (path : Str) : Option Str :=
  (rfind "/tenant".toList (device_in_path path)).map (device_in_path path).take

theorem ok_of_isSome {α : Type} {x : Except Exn α} (h : x.toOption.isSome) : ∃ a, x = .ok a := by
  cases x with
  | error e => cases h
  | ok a => exact ⟨a, rfl⟩

theorem substr_of_ok {s t : Str} {pos : Nat} (h : substr s pos = .ok t) : t = s.drop pos := by
  rw [substr] at h
  split at h
  · cases h
  · exact (Except.ok.inj h).symm

/-- What a migration request can lead to. -/
theorem put_device_tenant_cases {update : StatusCode} {req : HttpRequest} {device_mgr : DeviceManager} {h : Handled}
    (hput : put_device_tenant update req device_mgr = .ok h) :
    (migrated_device req.path = none ∧ h = ⟨error_response 404 1002 "Not found".toList, device_mgr, []⟩) ∨
    ∃ device_id, migrated_device req.path = some device_id ∧
      ((tenant_in_body req = [] ∧ h = ⟨error_response 400 1001 "tenant_id is required".toList, device_mgr, []⟩) ∨
      (tenant_in_body req ≠ [] ∧ device_mgr.locate device_id = none ∧
        h = ⟨error_response 404 1002 ("Device not found: ".toList ++ device_id), device_mgr,
          [.ensure_tenant (tenant_in_body req)]⟩) ∨
      (tenant_in_body req ≠ [] ∧ device_mgr.locate device_id ≠ none ∧
        h = ⟨if update ≠ .OK then error_response 500 2000 "Database update failed".toList
            else json_response 200 (success (object [strMember "device_id".toList device_id,
              strMember "tenant_id".toList (tenant_in_body req)])),
          (device_mgr.migrate_device device_id (tenant_in_body req)).2,
          [.ensure_tenant (tenant_in_body req), .update_tenant (tenant_in_body req) device_id]⟩)) := by
  obtain ⟨path, hpath, hput⟩ := bind_eq_ok.1 hput
  obtain rfl := substr_of_ok hpath
  rw [migrated_device, device_in_path]
  cases hr : rfind "/tenant".toList (req.path.drop "/api/v1/devices/".toList.length) with
  | none =>
    simp only [hr] at hput
    exact .inl ⟨rfl, (Except.ok.inj hput).symm⟩
  | some slash =>
    simp only [hr] at hput
    refine .inr ⟨_, rfl, ?_⟩
    by_cases ht : tenant_in_body req = []
    · simp only [if_pos ht] at hput
      exact .inl ⟨ht, (Except.ok.inj hput).symm⟩
    simp only [if_neg ht] at hput
    cases hloc : device_mgr.locate ((req.path.drop "/api/v1/devices/".toList.length).take slash) with
    | none =>
      rw [DeviceManager.migrate_device_none hloc] at hput
      exact .inr (.inl ⟨ht, rfl, (Except.ok.inj hput).symm⟩)
    | some found =>
      have hmg : (device_mgr.migrate_device ((req.path.drop "/api/v1/devices/".toList.length).take slash)
          (tenant_in_body req)).1 = .OK := by
        rw [DeviceManager.migrate_device, hloc]
      refine .inr (.inr ⟨ht, Option.some_ne_none found, ?_⟩)
      by_cases hupdate : update = .OK
      · simp only [hmg, hupdate, ne_eq, not_true_eq_false, if_false] at hput
        simp [← Except.ok.inj hput, hupdate]
      · simp only [hmg, hupdate, ne_eq, not_true_eq_false, not_false_eq_true, if_true, if_false] at hput
        simp [← Except.ok.inj hput, hupdate]

/-- The statements of a migration, by the request and the devices. -/
theorem put_device_tenant_sent {update : StatusCode} {req : HttpRequest} {device_mgr : DeviceManager} {h : Handled}
    (hput : put_device_tenant update req device_mgr = .ok h) :
    h.sent = match migrated_device req.path with
      | none => []
      | some device_id =>
        if tenant_in_body req = [] then []
        else if device_mgr.find_device_by_id device_id = none then [.ensure_tenant (tenant_in_body req)]
        else [.ensure_tenant (tenant_in_body req), .update_tenant (tenant_in_body req) device_id] := by
  rcases put_device_tenant_cases hput with
    ⟨hm, rfl⟩ | ⟨id, hm, ⟨ht, rfl⟩ | ⟨ht, hloc, rfl⟩ | ⟨ht, hloc, rfl⟩⟩
  · rw [hm]
  · simp only [hm, if_pos ht]
  · simp only [hm, if_neg ht, DeviceManager.find_device_by_id, hloc, Option.map_none, if_true]
  · simp only [hm, if_neg ht, DeviceManager.find_device_by_id, Option.map_eq_none_iff, if_neg hloc]

/-- The statements of a deletion. -/
theorem delete_device_sent {req : HttpRequest} {device_mgr : DeviceManager} {h : Handled}
    (hdel : delete_device req device_mgr = .ok h) :
    h.sent = if tenant_of (device_in_path req.path) device_mgr = [] then []
      else [.delete_tokens (device_in_path req.path), .delete_device (device_in_path req.path)] := by
  obtain ⟨path, hpath, hdel⟩ := bind_eq_ok.1 hdel
  obtain rfl := substr_of_ok hpath
  rw [device_in_path]
  by_cases hnone : tenant_of (req.path.drop "/api/v1/devices/".toList.length) device_mgr = []
  · simp only [if_pos hnone] at hdel ⊢
    cases hdel
    rfl
  · simp only [if_neg hnone] at hdel ⊢
    cases hdel
    rfl

/-- Request text never becomes SQL, as long as it has no quotes: the tenant of
a migration and its device once that is found, the device of a deletion that
is found, and both texts of the tenant configuration. -/
theorem request_text_iff (update : StatusCode) (req : HttpRequest) (device_mgr : DeviceManager) (key name : Str) :
    (∀ h, put_device_tenant update req device_mgr = .ok h → '\x00' ∉ tenant_in_body req →
      (∀ id ∈ migrated_device req.path, '\x00' ∉ id) →
      ((∀ st ∈ h.sent, st.Faithful) ↔ ∀ id ∈ migrated_device req.path, '\'' ∉ tenant_in_body req ∧
        (tenant_in_body req ≠ [] → device_mgr.find_device_by_id id ≠ none → '\'' ∉ id))) ∧
    (∀ h, delete_device req device_mgr = .ok h → '\x00' ∉ device_in_path req.path →
      ((∀ st ∈ h.sent, st.Faithful) ↔
        (tenant_of (device_in_path req.path) device_mgr ≠ [] → '\'' ∉ device_in_path req.path))) ∧
    ('\x00' ∉ key → '\x00' ∉ name →
      ((Statement.save_tenant_config key name).Faithful ↔ '\'' ∉ key ∧ '\'' ∉ name)) := by
  refine ⟨fun h hput htenant hid => ?_, fun h hdel hid => ?_, fun hkey hname => ?_⟩
  · rw [put_device_tenant_sent hput]
    cases hm : migrated_device req.path with
    | none => simp
    | some id =>
      have hid : '\x00' ∉ id := hid id hm
      have hensure := Statement.faithful_iff (.ensure_tenant (tenant_in_body req))
        (by simp [Statement.inputs, htenant])
      have hupdate := Statement.faithful_iff (.update_tenant (tenant_in_body req) id)
        (by simp [Statement.inputs, htenant, hid])
      simp only [Statement.inputs, List.forall_mem_cons, List.not_mem_nil, false_imp_iff, implies_true, and_true,
        and_self] at hensure hupdate
      simp only [Option.mem_some_iff, forall_eq']
      -- which statements are sent depends on the tenant and on the device
      by_cases ht : tenant_in_body req = []
      · simp [ht]
      by_cases hfound : device_mgr.find_device_by_id id = none
      · simp [ht, hfound, hensure]
      · simp [ht, hfound, hensure, hupdate]
  · have htokens := Statement.faithful_iff (.delete_tokens (device_in_path req.path))
      (by simp [Statement.inputs, hid])
    have hdevice := Statement.faithful_iff (.delete_device (device_in_path req.path))
      (by simp [Statement.inputs, hid])
    simp only [Statement.inputs, List.forall_mem_singleton] at htokens hdevice
    rw [delete_device_sent hdel]
    by_cases hnone : tenant_of (device_in_path req.path) device_mgr = []
    · simp [hnone]
    · simp [hnone, htokens, hdevice]
  · rw [Statement.faithful_iff _ (by simp [Statement.inputs, hkey, hname])]
    simp [Statement.inputs]

/-- One device of the tenant `acme`. -/
def one_device : DeviceManager :=
  ({} : DeviceManager).process_heartbeat 0 "acme".toList "dev-1".toList [] []

def migration_to (tenant : Str) : HttpRequest where
  method := "PUT".toList
  path := "/api/v1/devices/dev-1/tenant".toList
  body := "\x7b\"tenant_id\":\"".toList ++ tenant ++ "\"\x7d".toList

def deletion : HttpRequest where
  method := "DELETE".toList
  path := "/api/v1/devices/dev-1".toList

theorem request_text_plain :
    (∃ h, put_device_tenant .OK (migration_to "globex".toList) one_device = .ok h ∧ ∀ st ∈ h.sent, st.Faithful) ∧
    (∃ h, delete_device deletion one_device = .ok h ∧ ∀ st ∈ h.sent, st.Faithful) ∧
    (Statement.save_tenant_config "globex".toList "Globex".toList).Faithful := by
  obtain ⟨put, hput⟩ : ∃ h, put_device_tenant .OK (migration_to "globex".toList) one_device = .ok h :=
    ok_of_isSome (by decide +kernel)
  obtain ⟨del, hdel⟩ : ∃ h, delete_device deletion one_device = .ok h := ok_of_isSome (by decide +kernel)
  refine ⟨⟨put, hput, ?_⟩, ⟨del, hdel, ?_⟩, ?_⟩
  · exact ((request_text_iff _ _ _ [] []).1 _ hput (by decide +kernel) (by decide +kernel)).2 (by decide +kernel)
  · exact ((request_text_iff .OK _ _ [] []).2.1 _ hdel (by decide +kernel)).2 (by decide +kernel)
  · exact ((request_text_iff .OK deletion one_device _ _).2.2 (by decide) (by decide)).2 (by decide)

/-- A quote in the tenant of a migration ends the literal, and what follows it
is read as SQL. -/
theorem request_text_fails :
    ∃ h, put_device_tenant .OK (migration_to "x','y'); DROP TABLE devices; --".toList) one_device = .ok h ∧
      .ensure_tenant "x','y'); DROP TABLE devices; --".toList ∈ h.sent ∧
      ¬(Statement.ensure_tenant "x','y'); DROP TABLE devices; --".toList).Faithful := by
  obtain ⟨put, hput⟩ : ∃ h, put_device_tenant .OK (migration_to "x','y'); DROP TABLE devices; --".toList) one_device =
    .ok h := ok_of_isSome (by decide +kernel)
  refine ⟨put, hput, ?_, ?_⟩
  · rw [put_device_tenant_sent hput]
    decide +kernel
  · rw [Statement.faithful_iff _ (by decide +kernel)]
    decide +kernel

end DeviceHandlers

end DevSys
