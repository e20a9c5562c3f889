import DevSys.Device.TypeManager
import DevSys.Server.Handlers
/-!
# Model keys

What `POST` and `PUT /api/v1/device-models` make of the registry. A device is
activated as the first model with its key; a key is given by the client, or
generated where there is none.
-/
open Cxx Runs

namespace DevSys

/-! ## Generated keys -/

namespace UlidGenerator

def crockford : Str := "0123456789ABCDEFGHJKMNPQRSTVWXYZ".toList

def encode_time (ms : UInt64) : Str :=
  let v := ms &&& 0xFFFFFFFFFFFF
  (List.range 10).map fun i => crockford.getD ((v >>> UInt64.ofNat (45 - i * 5)) &&& 0x1F).toNat '0'

def encode_random (r : List UInt8) : Str :=
  (List.range 16).map fun i =>
    let bit_off := i * 5
    let byte_off := bit_off / 8
    let bit_pos := bit_off % 8
    let word : UInt16 := ((r.getD byte_off 0).toUInt16 <<< 8) ||| (r.getD (byte_off + 1) 0).toUInt16
    crockford.getD ((word >>> UInt16.ofNat (11 - bit_pos)) &&& 0x1F).toNat '0'

/-- `ms` is the time and `rand_bytes` are ten random bytes. -/
def generate (ms : UInt64) (rand_bytes : List UInt8) : Str := encode_time ms ++ encode_random rand_bytes

theorem length_generate (ms : UInt64) (rand_bytes : List UInt8) : (generate ms rand_bytes).length = 26 := by
  rw [generate, List.length_append, encode_time, encode_random, List.length_map, List.length_map, List.length_range,
    List.length_range]

end UlidGenerator

/-! ## The handlers -/

namespace ModelHandlers
open DeviceTypeManager JsonHelper Handlers Json

/-- The model that a `POST` asks for. -/
def post_info (ms : UInt64) (rand_bytes : List UInt8) (req : HttpRequest) : Except Exn DeviceModelInfo := do
  let model_key := get_string req.body "model_key".toList
  let specs_json := get_string req.body "specs_json".toList
  let firmware_base := get_string req.body "firmware_base".toList
  let sort_order ← get_int req.body "sort_order".toList
  .ok
    { model_code := get_string req.body "model_code".toList
      model_key := if model_key = [] then UlidGenerator.generate ms rand_bytes else model_key
      type_code := get_string req.body "type_code".toList
      display_name := get_string req.body "display_name".toList
      description := get_string req.body "description".toList
      specs_json := if specs_json = [] then "\x7b\x7d".toList else specs_json
      firmware_base := if firmware_base = [] then "1.0.0".toList else firmware_base
      sort_order := sort_order }

/-- The model that a `PUT` asks for; a key that is left out is empty. -/
def put_info (code : Str) (req : HttpRequest) : Except Exn DeviceModelInfo := do
  let sort_order ← get_int req.body "sort_order".toList
  .ok
    { model_code := code
      model_key := get_string req.body "model_key".toList
      type_code := get_string req.body "type_code".toList
      display_name := get_string req.body "display_name".toList
      description := get_string req.body "description".toList
      specs_json := get_string req.body "specs_json".toList
      firmware_base := get_string req.body "firmware_base".toList
      is_active := get_bool req.body "is_active".toList true
      sort_order := sort_order }

/-- The answer to a status code. -/
def answer (code : Nat) (info : DeviceModelInfo) (sc : StatusCode) : HttpResponse :=
  if sc ≠ .OK then error_response 400 sc.toInt.toInt (status_message sc)
  else
    json_response code (object [member "success".toList "true".toList, strMember "model_code".toList info.model_code,
      strMember "model_key".toList info.model_key])

/-- `POST /api/v1/device-models`. -/
def post_device_model (id : Int32) (now : Str) (ms : UInt64) (rand_bytes : List UInt8) (req : HttpRequest)
    (s : DeviceRegistry) : Except Exn (HttpResponse × DeviceRegistry) := do
  let info ← post_info ms rand_bytes req
  let (sc, s) := create_model id now info s
  .ok (answer 201 info sc, s)

/-- `PUT /api/v1/device-models/{code}`. -/
def put_device_model (now : Str) (req : HttpRequest) (s : DeviceRegistry) :
    Except Exn (HttpResponse × DeviceRegistry) := do
  let code ← path_tail "/api/v1/device-models/".toList req
  if ¬model_exists code s then .ok (error_response 404 (-404) ("Model not found: ".toList ++ code), s)
  else
    let info ← put_info code req
    let (sc, s) := update_model now code info s
    .ok (answer 200 info sc, s)

theorem read_ints_singleton (field : Str) (default_val : Int32) (req : HttpRequest) :
    read_ints [(field, default_val)] req = (get_int req.body field default_val).map fun _ => () := by
  rw [read_ints, List.forM_eq_forM, List.forM_cons, List.forM_nil]
  cases get_int req.body field default_val <;> rfl

/-- What they throw is what the dispatcher sees of them. -/
theorem throws_post_device_model (id : Int32) (now : Str) (ms : UInt64) (rand_bytes : List UInt8) (req : HttpRequest)
    (s : DeviceRegistry) :
    (post_device_model id now ms rand_bytes req s).map (fun _ => ()) = Handlers.post_device_model req := by
  rw [Handlers.post_device_model, read_ints_singleton, post_device_model, post_info]
  cases get_int req.body "sort_order".toList <;> rfl

theorem throws_put_device_model (now : Str) (req : HttpRequest) (s : DeviceRegistry) (server : Server)
    (h : ∀ code, server.model_exists code = model_exists code s) :
    (put_device_model now req s).map (fun _ => ()) = Handlers.put_device_model req server := by
  unfold put_device_model Handlers.put_device_model
  cases path_tail "/api/v1/device-models/".toList req with
  | error e => rfl
  | ok code =>
    simp only [Bind.bind, Except.bind, h]
    split
    · rfl
    · rw [read_ints_singleton, put_info]
      cases get_int req.body "sort_order".toList <;> rfl

/-! ## Runs -/

inductive Event where
  | post (id : Int32) (now : Str) (ms : UInt64) (rand_bytes : List UInt8) (req : HttpRequest)
  | put (now : Str) (req : HttpRequest)
  /-- The handlers of the types leave this table. -/
  | types (device_types : List DeviceTypeInfo) (unique : (device_types.map DeviceTypeInfo.type_code).Nodup)

/-- The registry behind a handler, which stays if the handler throws. -/
def after (handled : Except Exn (HttpResponse × DeviceRegistry)) (s : DeviceRegistry) : DeviceRegistry :=
  match handled with
  | .ok (_, s) => s
  | .error _ => s

def Event.apply : Event → DeviceRegistry → DeviceRegistry
  | .post id now ms rand_bytes req, s => after (post_device_model id now ms rand_bytes req s) s
  | .put now req, s => after (put_device_model now req s) s
  | .types device_types unique, s => { s with device_types := device_types, types_unique := unique }

def Step (s : DeviceRegistry) (e : Event) (s' : DeviceRegistry) : Prop := s' = e.apply s

/-- No two models have the same key, if they have one. -/
def UniqueKeys (s : DeviceRegistry) : Prop :=
  ∀ m ∈ s.device_models, ∀ m' ∈ s.device_models, m.model_key ≠ [] → m.model_key = m'.model_key → m = m'

instance (s : DeviceRegistry) : Decidable (UniqueKeys s) :=
  inferInstanceAs (Decidable (∀ m ∈ s.device_models, ∀ m' ∈ s.device_models,
    m.model_key ≠ [] → m.model_key = m'.model_key → m = m'))

/-- What `create_model` asks of a model. -/
def Creatable (info : DeviceModelInfo) (s : DeviceRegistry) : Prop :=
  (info.model_code ≠ [] ∧ info.display_name ≠ [] ∧ info.type_code ≠ []) ∧ type_exists info.type_code s ∧
    ¬model_exists info.model_code s

/-- What `PUT` and `update_model` ask. -/
def Updatable (info : DeviceModelInfo) (s : DeviceRegistry) : Prop :=
  model_exists info.model_code s ∧ type_exists info.type_code s

/-- The step gives no model the key of another one. -/
def FreshKey (s : DeviceRegistry) : Event → Prop
  | .post _ _ ms rand_bytes req =>
    ∀ info, post_info ms rand_bytes req = .ok info → Creatable info s →
      info.model_key ∉ s.device_models.map DeviceModelInfo.model_key
  | .put _ req =>
    ∀ code, path_tail "/api/v1/device-models/".toList req = .ok code → ∀ info, put_info code req = .ok info →
      Updatable info s → info.model_key ≠ [] →
      ∀ m ∈ s.device_models, m.model_code ≠ info.model_code → m.model_key ≠ info.model_key
  | .types _ _ => True

theorem post_key_ne_nil {ms : UInt64} {rand_bytes : List UInt8} {req : HttpRequest} {info : DeviceModelInfo}
    (h : post_info ms rand_bytes req = .ok info) : info.model_key ≠ [] := by
  unfold post_info at h
  cases hint : get_int req.body "sort_order".toList with
  | error e =>
    rw [hint] at h
    cases h
  | ok sort_order =>
    rw [hint] at h
    obtain rfl := Except.ok.inj h
    dsimp only
    split_ifs with hkey
    · rw [← List.length_pos_iff, UlidGenerator.length_generate]
      decide
    · exact hkey

theorem put_code {code : Str} {req : HttpRequest} {info : DeviceModelInfo} (h : put_info code req = .ok info) :
    info.model_code = code := by
  unfold put_info at h
  cases hint : get_int req.body "sort_order".toList with
  | error e =>
    rw [hint] at h
    cases h
  | ok sort_order =>
    rw [hint] at h
    obtain rfl := Except.ok.inj h
    rfl

theorem create_model_cases (id : Int32) (now : Str) (info : DeviceModelInfo) (s : DeviceRegistry) :
    (Creatable info s ∧ (create_model id now info s).2 = Database.insert_device_model id now info s) ∨
    (¬Creatable info s ∧ (create_model id now info s).2 = s) := by
  rw [create_model, Creatable]
  split_ifs with hempty htype hmodel
  · exact .inr ⟨fun h => by simp [h.1] at hempty, rfl⟩
  · exact .inr ⟨fun h => h.2.2 hmodel, rfl⟩
  · exact .inl ⟨⟨by simpa only [not_or] using hempty, htype, hmodel⟩, rfl⟩
  · exact .inr ⟨fun h => htype h.2.1, rfl⟩

theorem update_model_cases (now : Str) (info : DeviceModelInfo) (s : DeviceRegistry) :
    (Updatable info s ∧ (update_model now info.model_code info s).2 = Database.update_device_model now info s) ∨
    (¬Updatable info s ∧ (update_model now info.model_code info s).2 = s) := by
  rw [update_model, Updatable]
  split_ifs with hmodel htype
  · exact .inl ⟨⟨hmodel, htype⟩, rfl⟩
  · exact .inr ⟨fun h => htype h.2, rfl⟩
  · exact .inr ⟨fun h => hmodel h.1, rfl⟩

theorem unique_insert_iff (id : Int32) (now : Str) {info : DeviceModelInfo} {s : DeviceRegistry} (h : UniqueKeys s)
    (hkey : info.model_key ≠ []) (hnew : ¬model_exists info.model_code s) :
    UniqueKeys (Database.insert_device_model id now info s) ↔
      info.model_key ∉ s.device_models.map DeviceModelInfo.model_key := by
  let row := { info with id := id, is_active := true, created_at := now, updated_at := now }
  have hfresh : row.model_code ∉ s.device_models.map DeviceModelInfo.model_code := model_not_mem hnew
  have hmem {m : DeviceModelInfo} : m ∈ (Database.insert_device_model id now info s).device_models ↔
      m ∈ s.device_models ∨ m = row := Rows.mem_insert row hfresh
  constructor
  · intro hs' htaken
    obtain ⟨m, hm, hmkey⟩ := List.mem_map.1 htaken
    obtain rfl := hs' row (hmem.2 (.inr rfl)) m (hmem.2 (.inl hm)) hkey hmkey.symm
    exact hfresh (List.mem_map_of_mem hm)
  · intro hfree m hm m' hm' hne heq
    rcases hmem.1 hm with hm | rfl
    · rcases hmem.1 hm' with hm' | rfl
      · exact h m hm m' hm' hne heq
      · exact absurd (List.mem_map.2 ⟨m, hm, heq⟩) hfree
    · rcases hmem.1 hm' with hm' | rfl
      · exact absurd (List.mem_map.2 ⟨m', hm', heq.symm⟩) hfree
      · rfl

theorem unique_update_iff (now : Str) {info : DeviceModelInfo} {s : DeviceRegistry} (h : UniqueKeys s)
    (hexists : model_exists info.model_code s) :
    UniqueKeys (Database.update_device_model now info s) ↔
      (info.model_key ≠ [] → ∀ m ∈ s.device_models, m.model_code ≠ info.model_code → m.model_key ≠ info.model_key) := by
  let set (r : DeviceModelInfo) :=
    { r with
      model_key := info.model_key
      type_code := info.type_code
      display_name := info.display_name
      description := info.description
      specs_json := info.specs_json
      firmware_base := info.firmware_base
      is_active := info.is_active
      sort_order := info.sort_order
      updated_at := now }
  have hmem {m : DeviceModelInfo} : m ∈ (Database.update_device_model now info s).device_models ↔
      ∃ r ∈ s.device_models, (if r.model_code = info.model_code then set r else r) = m := Rows.mem_update
  constructor
  · -- a clash with a row that keeps its key
    intro hs' hkey m hm hcode heq
    obtain ⟨r, hr, hrcode⟩ := model_exists_iff.1 hexists
    have hset : set r ∈ (Database.update_device_model now info s).device_models := hmem.2 ⟨r, hr, if_pos hrcode⟩
    have hkept : m ∈ (Database.update_device_model now info s).device_models := hmem.2 ⟨m, hm, if_neg hcode⟩
    obtain rfl := hs' m hkept (set r) hset (heq ▸ hkey) heq
    exact hcode hrcode
  · intro hfree m hm m' hm' hne heq
    obtain ⟨r, hr, rfl⟩ := hmem.1 hm
    obtain ⟨r', hr', rfl⟩ := hmem.1 hm'
    -- two rows that share a key afterwards: none, one or both of them updated
    by_cases hcode : r.model_code = info.model_code
    · rw [if_pos hcode] at hne heq ⊢
      by_cases hcode' : r'.model_code = info.model_code
      · rw [if_pos hcode', List.inj_on_of_nodup_map s.models_unique hr hr' (hcode.trans hcode'.symm)]
      · rw [if_neg hcode'] at heq
        exact absurd heq.symm (hfree hne r' hr' hcode')
    · rw [if_neg hcode] at hne heq ⊢
      by_cases hcode' : r'.model_code = info.model_code
      · rw [if_pos hcode'] at heq
        exact absurd heq (hfree (heq ▸ hne) r hr hcode)
      · rw [if_neg hcode'] at heq ⊢
        exact h r hr r' hr' hne heq

theorem unique_post_iff (id : Int32) (now : Str) (ms : UInt64) (rand_bytes : List UInt8) (req : HttpRequest)
    {s : DeviceRegistry} (h : UniqueKeys s) :
    UniqueKeys (after (post_device_model id now ms rand_bytes req s) s) ↔
      FreshKey s (.post id now ms rand_bytes req) := by
  rw [post_device_model, FreshKey]
  cases hinfo : post_info ms rand_bytes req with
  | error e => exact iff_of_true h fun info hok => by cases hok
  | ok info =>
    simp only [Except.ok.injEq, forall_eq']
    have hafter : after (.ok (answer 201 info (create_model id now info s).1, (create_model id now info s).2)) s =
        (create_model id now info s).2 := rfl
    refine Iff.trans (Eq.to_iff (congrArg UniqueKeys hafter)) ?_
    rcases create_model_cases id now info s with ⟨hcreatable, heq⟩ | ⟨hrefused, heq⟩
    · rw [heq, unique_insert_iff id now h (post_key_ne_nil hinfo) hcreatable.2.2]
      exact ⟨fun hfree _ => hfree, fun hall => hall hcreatable⟩
    · rw [heq]
      exact iff_of_true h fun hcreatable => absurd hcreatable hrefused

theorem unique_put_iff (now : Str) (req : HttpRequest) {s : DeviceRegistry} (h : UniqueKeys s) :
    UniqueKeys (after (put_device_model now req s) s) ↔ FreshKey s (.put now req) := by
  rw [put_device_model, FreshKey]
  cases hcode : path_tail "/api/v1/device-models/".toList req with
  | error e => exact iff_of_true h fun code hok => by cases hok
  | ok code =>
    simp only [Except.ok.injEq, forall_eq', Bind.bind, Except.bind]
    split
    · -- the answer is that there is no such model
      rename_i hnone
      refine iff_of_true h fun info hinfo hupdatable => absurd hupdatable.1 ?_
      rwa [put_code hinfo]
    · cases hinfo : put_info code req with
      | error e => exact iff_of_true h fun info hok => by cases hok
      | ok info =>
        simp only [Except.ok.injEq, forall_eq']
        obtain rfl := put_code hinfo
        rcases update_model_cases now info s with ⟨hupdatable, heq⟩ | ⟨hrefused, heq⟩
        · rw [after, heq, unique_update_iff now h hupdatable.1]
          exact ⟨fun hfree _ => hfree, fun hall => hall hupdatable⟩
        · rw [after, heq]
          exact iff_of_true h fun hupdatable => absurd hupdatable hrefused

theorem unique_step_iff {s s' : DeviceRegistry} {e : Event} (h : UniqueKeys s) (hstep : Step s e s') :
    UniqueKeys s' ↔ FreshKey s e := by
  rw [hstep]
  cases e with
  | post id now ms rand_bytes req => exact unique_post_iff id now ms rand_bytes req h
  | put now req => exact unique_put_iff now req h
  | types device_types unique => exact iff_of_true h trivial

/-- The keys of a run from an empty table are unique exactly when no request
that is not refused gives a model the key of another one. -/
theorem unique_run_iff {init : DeviceRegistry} (hempty : init.device_models = []) {tr : List (DeviceRegistry × Event)}
    {s : DeviceRegistry} (h : Run Step init tr s) :
    (∀ p ∈ tr, UniqueKeys p.1) ∧ UniqueKeys s ↔ ∀ p ∈ tr, FreshKey p.1 p.2 := by
  have hinit : UniqueKeys init := by
    intro m hm
    rw [hempty] at hm
    cases hm
  exact h.all_iff (fun _ => True) UniqueKeys FreshKey trivial hinit (fun _ _ _ _ _ => trivial)
    fun _ _ _ _ hunique hstep => unique_step_iff hunique hstep

def acm_200 : HttpRequest where
  body := "\x7b\"model_code\":\"ACM-200\",\"model_key\":\"acm_200_v1\",\"type_code\":\"coffee_machine\",\"display_name\":\"ACM\"\x7d".toList

def posted_acm_200 : DeviceRegistry := after (post_device_model 1 [] 0 [] acm_200 (seeded [])) (seeded [])

theorem run_acm_200 : Run Step (seeded []) [(seeded [], .post 1 [] 0 [] acm_200)] posted_acm_200 := Run.nil.snoc rfl

theorem unique_run_acm_200 : UniqueKeys posted_acm_200 :=
  ((unique_run_iff rfl run_acm_200).2 (List.forall_mem_singleton.2 fun _ _ _ => List.not_mem_nil)).2

def wd_10 : HttpRequest where
  body := "\x7b\"model_code\":\"WD-10\",\"model_key\":\"acm_200_v1\",\"type_code\":\"water_dispenser\",\"display_name\":\"WD\"\x7d".toList

/-- A second model is created with the key of the first, and is never found by it. -/
theorem unique_fails : ∃ tr s, Run Step (seeded []) tr s ∧
    s.device_models.map (·.model_code) = ["ACM-200".toList, "WD-10".toList] ∧
    s.device_models.map (·.model_key) = ["acm_200_v1".toList, "acm_200_v1".toList] ∧ ¬UniqueKeys s := by
  refine ⟨_, _, run_acm_200.snoc (e := .post 2 [] 0 [] wd_10) rfl, ?_⟩
  decide +kernel

end ModelHandlers

end DevSys
