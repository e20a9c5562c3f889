import DevSys.Server.Dispatch
import DevSys.Server.HeaderReaders
/-!
# Filters in a query

Two of the listings look for their filter in the path, with the question mark in
front of it. The server cuts the path off there before it looks for a route.
-/
open Cxx

namespace DevSys

namespace QueryFilters
open ApiServer HeaderNames Json Listings

/-! ## Handlers -/

def org_json (o : OrgInfo) : Str :=
  object
    [member "org_id".toList (to_string o.org_id.toInt), member "parent_id".toList (to_string o.parent_id.toInt),
      strMember "tenant_id".toList o.tenant_id, strMember "org_name".toList o.org_name,
      strMember "org_type".toList o.org_type, member "level".toList (to_string o.level.toInt),
      strMember "path".toList o.path, member "children_count".toList (to_string o.children_count.toInt),
      member "is_active".toList (bool_text o.is_active)]

def orgs_response (orgs : List OrgInfo) : HttpResponse :=
  json_response 200 (success (listing "list".toList (orgs.map org_json)))

/-- The organisations that are listed. The number in the path may be none. -/
def orgs_listed (req : HttpRequest) (s : OrgManager) : Except Exn (List OrgInfo) := do
  let parent_id ← match find "?parent_id=".toList req.path with
    | none => .ok (-1)
    | some qpos => stoi (req.path.drop (qpos + 11))
  let org_type := match find "?org_type=".toList req.path with
    | none => []
    | some qpos => substrTo req.path (qpos + 10) (findFrom ['&'] req.path qpos)
  .ok (s.list_orgs parent_id org_type false)

/-- `GET /api/v1/orgs`. -/
def get_orgs (req : HttpRequest) (s : OrgManager) : Except Exn HttpResponse := (orgs_listed req s).map orgs_response

def models_response (models : List DeviceModelInfo) : HttpResponse :=
  json_response 200 (listing "models".toList (models.map model_json))

/-- The models that `GET /api/v1/device-models` lists. -/
def models_listed (req : HttpRequest) (s : DeviceRegistry) : List DeviceModelInfo :=
  let filter_type := (req.headers.lookup "X-Filter-Type".toList).getD []
  let filter_type := match find "?type_code=".toList req.path with
    | none => filter_type
    | some qpos => req.path.drop (qpos + 11)
  DeviceTypeManager.list_models filter_type true s

theorem get_device_models_eq (req : HttpRequest) (s : DeviceRegistry) :
    get_device_models req s = models_response (models_listed req s) := rfl

/-- The handler in full throws as what it reads does. -/
theorem get_orgs_reads (req : HttpRequest) (s : OrgManager) :
    (get_orgs req s).map (fun _ => ()) = Handlers.get_orgs req := by
  rw [get_orgs, orgs_listed, Handlers.get_orgs]
  cases find "?parent_id=".toList req.path with
  | none => rfl
  | some qpos => cases hid : stoi (req.path.drop (qpos + 11)) <;> simp [hid, Except.map, bind, Except.bind]

/-- The handler of a route, with the listing of the organisations in full. -/
def handle (w : World) (r : Route) : RouteHandler := fun req =>
  match r with
  | .get_orgs => (get_orgs req w.org_mgr).mapError .text
  | r => w.handle r req

def table (w : World) (order : List Route) : List (Str × RouteHandler) := order.map fun r => (r.key, handle w r)

/-! ## Requests -/

/-- A request for a path and a query, as it comes in. -/
structure Asks (r : Route) (query raw : Str) : Prop where
  method : (parsed raw).method = r.method
  path : (parsed raw).path = r.path
  query : (parsed raw).query = query

theorem parsed_path (raw : Str) : '?' ∉ (parsed raw).path := by
  show '?' ∉ (split_query (next_word (next_word (chomp ((getlineAll '\n' raw).headD []))).2).1).1
  generalize (next_word (next_word (chomp ((getlineAll '\n' raw).headD []))).2).1 = path
  rw [split_query]
  cases h : find ['?'] path with
  | none => exact find_single_eq_none_iff.1 h
  | some qpos =>
    rw [find_single] at h
    show '?' ∉ path.take qpos
    rw [take_findIdx h]
    intro hmem
    simpa using List.mem_takeWhile_imp hmem

/-- What is looked for with a question mark is not found. -/
theorem find_parsed_path (raw pat : Str) : find ('?' :: pat) (parsed raw).path = none := by
  cases h : find ('?' :: pat) (parsed raw).path with
  | none => rfl
  | some i =>
    have hmem : '?' ∈ (parsed raw).path.drop i := (prefix_of_find h).subset List.mem_cons_self
    exact absurd (List.mem_of_mem_drop hmem) (parsed_path raw)

theorem orgs_listed_parsed (raw : Str) (s : OrgManager) : orgs_listed (parsed raw) s = .ok s.orgs_ := by
  have hparent : find "?parent_id=".toList (parsed raw).path = none := find_parsed_path raw _
  have htype : find "?org_type=".toList (parsed raw).path = none := find_parsed_path raw _
  have hall : s.list_orgs (-1) [] false = s.orgs_ := by simp [OrgManager.list_orgs]
  rw [orgs_listed, hparent, htype]
  exact congrArg Except.ok hall

theorem models_listed_parsed (raw : Str) (s : DeviceRegistry) :
    models_listed (parsed raw) s =
      DeviceTypeManager.list_models (((parsed raw).headers.lookup "X-Filter-Type".toList).getD []) true s := by
  have htype : find "?type_code=".toList (parsed raw).path = none := find_parsed_path raw _
  rw [models_listed, htype]

/-- A request for a route without parameters is served by its handler. -/
theorem respond_asks (w : World) {order : List Route} {r : Route} {query raw : Str} (hr : r ∈ order) (hb : '{' ∉ r.path)
    (h : Asks r query raw) : respond (table w order) (parsed raw) = handle w r (parsed raw) := by
  have hdispatch : Route.dispatch order (parsed raw) = some r :=
    Route.dispatch_exact hr (Route.exact_match_iff.2 ⟨h.method.symm, hb, h.path.symm⟩)
  have hfind : find_route (parsed raw) (table w order) = (Route.dispatch order (parsed raw)).map (handle w) := by
    rw [Route.dispatch, ← find_route_map, List.map_map]
    rfl
  rw [respond, if_neg (Route.dispatch_serves hdispatch).method_ne_options, hfind, hdispatch]
  rfl

/-- All organisations are shown, whatever the query. -/
theorem respond_orgs (w : World) {order : List Route} {query raw : Str} (hr : Route.get_orgs ∈ order)
    (h : Asks .get_orgs query raw) : respond (table w order) (parsed raw) = .ok (orgs_response w.org_mgr.orgs_) := by
  rw [respond_asks w hr (by decide) h]
  show ((orgs_listed (parsed raw) w.org_mgr).map orgs_response).mapError Thrown.text = _
  rw [orgs_listed_parsed]
  rfl

/-! ## What is listed -/

/-- The models a client wants to see. -/
def models_of (t : Str) (s : DeviceRegistry) : List DeviceModelInfo :=
  s.device_models.filter fun m => m.is_active ∧ m.type_code = t

/-- Without a type in the header, all models that are shown are of type `t`; with
one, it is `t`, or no model is of either type. -/
def Selects (t filter_type : Str) (s : DeviceRegistry) : Prop :=
  if filter_type = [] then ∀ m ∈ s.device_models, m.is_active → m.type_code = t
  else filter_type = t ∨ ∀ m ∈ s.device_models, m.is_active → m.type_code ≠ filter_type ∧ m.type_code ≠ t

theorem filter_eq_filter_iff {α : Type} {p q : α → Bool} {l : List α} :
    l.filter p = l.filter q ↔ ∀ x ∈ l, (p x = true ↔ q x = true) := by
  constructor
  · intro h x hx
    have hmem : x ∈ l.filter p ↔ x ∈ l.filter q := by rw [h]
    rwa [List.mem_filter, List.mem_filter, and_iff_right hx, and_iff_right hx] at hmem
  · exact fun h => List.filter_congr fun x hx => Bool.eq_iff_iff.2 (h x hx)

theorem list_models_eq_iff (t filter_type : Str) (s : DeviceRegistry) :
    DeviceTypeManager.list_models filter_type true s = models_of t s ↔ Selects t filter_type s := by
  rw [DeviceTypeManager.list_models, Database.list_device_models, models_of, filter_eq_filter_iff, Selects]
  simp only [decide_eq_true_eq, true_implies]
  by_cases hnone : filter_type = []
  · rw [if_pos hnone]
    refine forall₂_congr fun m _ => ?_
    simp only [hnone, true_or, true_and]
    tauto
  · rw [if_neg hnone]
    by_cases heq : filter_type = t
    · refine iff_of_true (fun m _ => ?_) (.inl heq)
      rw [or_iff_right hnone, heq, and_comm]
    · rw [or_iff_right heq]
      refine forall₂_congr fun m _ => ?_
      rw [or_iff_right hnone]
      grind

/-- A listing that is asked for with a filter is the filtered one exactly if there
is nothing else to list: every organisation has the parent `p`, and the models
that are shown anyway are those of type `t`. -/
theorem filters_iff (w : World) {order : List Route} (hall : ∀ r, r ∈ order) (raw : Str) :
    (∀ p : Int32, 0 ≤ p → Asks .get_orgs ("parent_id=".toList ++ to_string p.toInt) raw →
      ∃ shown, orgs_listed (parsed raw) w.org_mgr = .ok shown ∧
        respond (table w order) (parsed raw) = .ok (orgs_response shown) ∧
        (shown = w.org_mgr.orgs_.filter (·.parent_id = p) ↔ ∀ o ∈ w.org_mgr.orgs_, o.parent_id = p)) ∧
    (∀ t : Str, Asks .get_device_models ("type_code=".toList ++ t) raw →
      respond (table w order) (parsed raw) = .ok (models_response (models_listed (parsed raw) w.registry)) ∧
      (models_listed (parsed raw) w.registry = models_of t w.registry ↔
        Selects t (((parsed raw).headers.lookup "X-Filter-Type".toList).getD []) w.registry)) := by
  refine ⟨fun p _ hasks => ?_, fun t hasks => ?_⟩
  · refine ⟨w.org_mgr.orgs_, orgs_listed_parsed raw w.org_mgr, respond_orgs w (hall .get_orgs) hasks, ?_⟩
    rw [eq_comm, List.filter_eq_self]
    simp
  · rw [respond_asks w (hall .get_device_models) (by decide) hasks]
    refine ⟨congrArg Except.ok (get_device_models_eq _ _), ?_⟩
    rw [models_listed_parsed, list_models_eq_iff]

/-- Two departments, one below the other. -/
def departments : World where
  org_mgr := { orgs_ := [{ org_id := 1 }, { org_id := 2, parent_id := 1 }], next_id_ := 3 }

def children_request : Str := "GET /api/v1/orgs?parent_id=1 HTTP/1.1\r\n\r\n".toList

def models_request : Str := "GET /api/v1/device-models?type_code=grinder HTTP/1.1\r\n\r\n".toList

theorem asks_children : Asks .get_orgs ("parent_id=".toList ++ to_string (1 : Int32).toInt) children_request :=
  ⟨by decide +kernel, by decide +kernel, by decide +kernel⟩

theorem filters_iff_departments :
    (∃ shown, orgs_listed (parsed children_request) departments.org_mgr = .ok shown ∧
      respond (table departments Route.all) (parsed children_request) = .ok (orgs_response shown) ∧
      (shown = departments.org_mgr.orgs_.filter (·.parent_id = 1) ↔ ∀ o ∈ departments.org_mgr.orgs_, o.parent_id = 1)) ∧
    (models_listed (parsed models_request) departments.registry = models_of "grinder".toList departments.registry ↔
      Selects "grinder".toList (((parsed models_request).headers.lookup "X-Filter-Type".toList).getD [])
        departments.registry) :=
  ⟨(filters_iff departments Route.mem_all children_request).1 1 (by decide) asks_children,
    ((filters_iff departments Route.mem_all models_request).2 "grinder".toList
      ⟨by decide +kernel, by decide +kernel, by decide +kernel⟩).2⟩

/-- A client that asks for the children of a department is shown both. -/
theorem filters_fail :
    ¬∀ (w : World) (raw : Str) (p : Int32), 0 ≤ p → Asks .get_orgs ("parent_id=".toList ++ to_string p.toInt) raw →
      respond (table w Route.all) (parsed raw) = .ok (orgs_response (w.org_mgr.orgs_.filter (·.parent_id = p))) := by
  intro h
  have hsame := h departments children_request 1 (by decide) asks_children
  rw [respond_orgs departments (Route.mem_all _) asks_children] at hsame
  have hbody := congrArg HttpResponse.body (Except.ok.inj hsame)
  revert hbody
  decide

end QueryFilters

end DevSys
