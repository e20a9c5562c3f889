import DevSys.Common.Types
import DevSys.Lib.Rows
import DevSys.Lib.Runs
/-!
# `DeviceTypeManager`

The types and the models that devices are activated as. A type or a model that
is deleted stays in its table and is no longer active.
-/
open Cxx Runs

namespace DevSys

/-- `device_types` and `device_models`, each with its `UNIQUE` code. -/
structure DeviceRegistry where
  device_types : List DeviceTypeInfo
  device_models : List DeviceModelInfo := []
  types_unique : (device_types.map DeviceTypeInfo.type_code).Nodup
  models_unique : (device_models.map DeviceModelInfo.model_code).Nodup := by simp

/-! ## Statements -/

namespace Database

/-- The columns that are not named take their defaults. `id` is the serial
number and `now` the server's time. -/
def insert_device_type (id : Int32) (now : Str) (info : DeviceTypeInfo) (s : DeviceRegistry) : DeviceRegistry :=
  let row := { info with id := id, is_active := true, created_at := now, updated_at := now }
  { s with
    device_types := Rows.insert DeviceTypeInfo.type_code row s.device_types
    types_unique := Rows.nodup_insert s.types_unique _ }

def update_device_type (now : Str) (info : DeviceTypeInfo) (s : DeviceRegistry) : DeviceRegistry :=
  let set (r : DeviceTypeInfo) :=
    { r with
      display_name := info.display_name
      description := info.description
      internal_type := info.internal_type
      icon_url := info.icon_url
      sort_order := info.sort_order
      is_active := info.is_active
      updated_at := now }
  { s with
    device_types := Rows.update DeviceTypeInfo.type_code info.type_code set s.device_types
    types_unique := Rows.nodup_update s.types_unique fun _ h => h }

def delete_device_type (now : Str) (type_code : Str) (s : DeviceRegistry) : DeviceRegistry :=
  let set (r : DeviceTypeInfo) := { r with is_active := false, updated_at := now }
  { s with
    device_types := Rows.update DeviceTypeInfo.type_code type_code set s.device_types
    types_unique := Rows.nodup_update s.types_unique fun _ h => h }

def get_device_type (type_code : Str) (s : DeviceRegistry) : Option DeviceTypeInfo :=
  s.device_types.find? (·.type_code = type_code)

def insert_device_model (id : Int32) (now : Str) (info : DeviceModelInfo) (s : DeviceRegistry) : DeviceRegistry :=
  let row := { info with id := id, is_active := true, created_at := now, updated_at := now }
  { s with
    device_models := Rows.insert DeviceModelInfo.model_code row s.device_models
    models_unique := Rows.nodup_insert s.models_unique _ }

def update_device_model (now : Str) (info : DeviceModelInfo) (s : DeviceRegistry) : DeviceRegistry :=
  let set (r : DeviceModelInfo) :=
    { r with
      model_key := info.model_key
      type_code := info.type_code
      display_name := info.display_name
      description := info.description
      specs_json := info.specs_json
      firmware_base := info.firmware_base
      is_active := info.is_active
      sort_order := info.sort_order
      updated_at := now }
  { s with
    device_models := Rows.update DeviceModelInfo.model_code info.model_code set s.device_models
    models_unique := Rows.nodup_update s.models_unique fun _ h => h }

def delete_device_model (now : Str) (model_code : Str) (s : DeviceRegistry) : DeviceRegistry :=
  let set (r : DeviceModelInfo) := { r with is_active := false, updated_at := now }
  { s with
    device_models := Rows.update DeviceModelInfo.model_code model_code set s.device_models
    models_unique := Rows.nodup_update s.models_unique fun _ h => h }

def get_device_model (model_code : Str) (s : DeviceRegistry) : Option DeviceModelInfo :=
  s.device_models.find? (·.model_code = model_code)

/-- The first row with the key. -/
def get_device_model_by_key (model_key : Str) (s : DeviceRegistry) : Option DeviceModelInfo :=
  s.device_models.find? (·.model_key = model_key)

/-- An empty code is no filter. The order is the table's. -/
def list_device_models (type_code : Str) (active_only : Bool) (s : DeviceRegistry) : List DeviceModelInfo :=
  s.device_models.filter fun m => (type_code = [] ∨ m.type_code = type_code) ∧ (active_only → m.is_active)

/-- The bytes of a text that is not ASCII. -/
def utf8 (s : String) : Str := s.toUTF8.toList.map fun b => Char.ofNat b.toNat

/-- The rows that `create_device_types_table` seeds. -/
def create_device_types_table (now : Str) : List DeviceTypeInfo :=
  [ { id := 1, type_code := "coffee_machine".toList, display_name := utf8 "现磨咖啡机"
      description := utf8 "支持豆仓研磨、冲泡、奶泡", internal_type := 1, sort_order := 1
      created_at := now, updated_at := now },
    { id := 2, type_code := "instant_machine".toList, display_name := utf8 "速溶饮料机"
      description := utf8 "支持多种粉料混合冲泡", internal_type := 2, sort_order := 2
      created_at := now, updated_at := now },
    { id := 3, type_code := "water_dispenser".toList, display_name := utf8 "饮水机"
      description := utf8 "支持常温/热水/冰水出水", internal_type := 3, sort_order := 3
      created_at := now, updated_at := now },
    { id := 4, type_code := "other".toList, display_name := utf8 "其他终端"
      description := utf8 "其他自动售卖/服务终端", internal_type := 4, sort_order := 99
      created_at := now, updated_at := now } ]

end Database

/-! ## Operations -/

namespace DeviceTypeManager

def type_exists (type_code : Str) (s : DeviceRegistry) : Bool := (Database.get_device_type type_code s).isSome

def model_exists (model_code : Str) (s : DeviceRegistry) : Bool := (Database.get_device_model model_code s).isSome

def create_type (id : Int32) (now : Str) (info : DeviceTypeInfo) (s : DeviceRegistry) : StatusCode × DeviceRegistry :=
  if info.type_code = [] ∨ info.display_name = [] then (.ERROR, s)
  else if type_exists info.type_code s then (.DEV_ALREADY_ACTIVE, s)
  else (.OK, Database.insert_device_type id now info s)

/-- The row is the one of `info`, whatever `type_code` is. -/
def update_type (now : Str) (type_code : Str) (info : DeviceTypeInfo) (s : DeviceRegistry) :
    StatusCode × DeviceRegistry :=
  if ¬type_exists type_code s then (.RECIPE_NOT_FOUND, s) else (.OK, Database.update_device_type now info s)

def delete_type (now : Str) (type_code : Str) (s : DeviceRegistry) : StatusCode × DeviceRegistry :=
  if type_code = "other".toList then (.ERROR, s)
  else if Database.list_device_models type_code true s ≠ [] then (.ORG_HAS_DEVICES, s)
  else (.OK, Database.delete_device_type now type_code s)

def create_model (id : Int32) (now : Str) (info : DeviceModelInfo) (s : DeviceRegistry) : StatusCode × DeviceRegistry :=
  if info.model_code = [] ∨ info.display_name = [] ∨ info.type_code = [] then (.ERROR, s)
  else if ¬type_exists info.type_code s then (.RECIPE_NOT_FOUND, s)
  else if model_exists info.model_code s then (.DEV_ALREADY_ACTIVE, s)
  else (.OK, Database.insert_device_model id now info s)

def update_model (now : Str) (model_code : Str) (info : DeviceModelInfo) (s : DeviceRegistry) :
    StatusCode × DeviceRegistry :=
  if ¬model_exists model_code s then (.RECIPE_NOT_FOUND, s)
  else if ¬type_exists info.type_code s then (.RECIPE_NOT_FOUND, s)
  else (.OK, Database.update_device_model now info s)

def delete_model (now : Str) (model_code : Str) (s : DeviceRegistry) : StatusCode × DeviceRegistry :=
  (.OK, Database.delete_device_model now model_code s)

/-! ## Runs -/

inductive Event where
  | create_type (id : Int32) (now : Str) (info : DeviceTypeInfo)
  | update_type (now : Str) (type_code : Str) (info : DeviceTypeInfo)
  | delete_type (now : Str) (type_code : Str)
  | create_model (id : Int32) (now : Str) (info : DeviceModelInfo)
  | update_model (now : Str) (model_code : Str) (info : DeviceModelInfo)
  | delete_model (now : Str) (model_code : Str)

def Event.apply : Event → DeviceRegistry → StatusCode × DeviceRegistry
  | .create_type id now info, s => DeviceTypeManager.create_type id now info s
  | .update_type now type_code info, s => DeviceTypeManager.update_type now type_code info s
  | .delete_type now type_code, s => DeviceTypeManager.delete_type now type_code s
  | .create_model id now info, s => DeviceTypeManager.create_model id now info s
  | .update_model now model_code info, s => DeviceTypeManager.update_model now model_code info s
  | .delete_model now model_code, s => DeviceTypeManager.delete_model now model_code s

def Step (s : DeviceRegistry) (e : Event) (s' : DeviceRegistry) : Prop := s' = (e.apply s).2

theorem types_unique_seeded (now : Str) :
    ((Database.create_device_types_table now).map DeviceTypeInfo.type_code).Nodup := by
  have hcodes : (Database.create_device_types_table now).map DeviceTypeInfo.type_code =
    ["coffee_machine".toList, "instant_machine".toList, "water_dispenser".toList, "other".toList] := rfl
  rw [hcodes]
  decide +kernel

/-- The tables as the service creates them. -/
def seeded (now : Str) : DeviceRegistry where
  device_types := Database.create_device_types_table now
  types_unique := types_unique_seeded now

/-! ## Existing rows -/

theorem type_exists_iff {type_code : Str} {s : DeviceRegistry} :
    type_exists type_code s ↔ ∃ t ∈ s.device_types, t.type_code = type_code := by
  simp [type_exists, Database.get_device_type]

theorem model_exists_iff {model_code : Str} {s : DeviceRegistry} :
    model_exists model_code s ↔ ∃ m ∈ s.device_models, m.model_code = model_code := by
  simp [model_exists, Database.get_device_model]

theorem type_not_mem {type_code : Str} {s : DeviceRegistry} (h : ¬type_exists type_code s) :
    type_code ∉ s.device_types.map DeviceTypeInfo.type_code := by
  intro hmem
  obtain ⟨t, ht, hcode⟩ := List.mem_map.1 hmem
  exact h (type_exists_iff.2 ⟨t, ht, hcode⟩)

theorem model_not_mem {model_code : Str} {s : DeviceRegistry} (h : ¬model_exists model_code s) :
    model_code ∉ s.device_models.map DeviceModelInfo.model_code := by
  intro hmem
  obtain ⟨m, hm, hcode⟩ := List.mem_map.1 hmem
  exact h (model_exists_iff.2 ⟨m, hm, hcode⟩)

/-! ## Active models -/

def ActiveType (type_code : Str) (s : DeviceRegistry) : Prop :=
  ∃ t ∈ s.device_types, t.type_code = type_code ∧ t.is_active

instance (type_code : Str) (s : DeviceRegistry) : Decidable (ActiveType type_code s) :=
  inferInstanceAs (Decidable (∃ t ∈ s.device_types, t.type_code = type_code ∧ t.is_active))

/-- Every active model has an active type. -/
def Active (s : DeviceRegistry) : Prop := ∀ m ∈ s.device_models, m.is_active → ActiveType m.type_code s

instance (s : DeviceRegistry) : Decidable (Active s) :=
  inferInstanceAs (Decidable (∀ m ∈ s.device_models, m.is_active → ActiveType m.type_code s))

/-- The step leaves no active model without an active type. -/
def KeepsActive (s : DeviceRegistry) : Event → Prop
  | .update_type _ type_code info =>
    type_exists type_code s → ¬info.is_active → ∀ m ∈ s.device_models, m.type_code = info.type_code → ¬m.is_active
  | .create_model _ _ info =>
    info.model_code ≠ [] ∧ info.display_name ≠ [] ∧ info.type_code ≠ [] → type_exists info.type_code s →
      ¬model_exists info.model_code s → ActiveType info.type_code s
  | .update_model _ model_code info =>
    model_exists model_code s → type_exists info.type_code s → model_exists info.model_code s → info.is_active →
      ActiveType info.type_code s
  | _ => True

theorem active_create_type (id : Int32) (now : Str) (info : DeviceTypeInfo) {s : DeviceRegistry} (h : Active s) :
    Active (create_type id now info s).2 := by
  rw [create_type]
  split_ifs with hempty hexists
  · exact h
  · exact h
  · intro m hm hactive
    obtain ⟨t, ht, hcode⟩ := h m hm hactive
    let row := { info with id := id, is_active := true, created_at := now, updated_at := now }
    have hfresh : row.type_code ∉ s.device_types.map DeviceTypeInfo.type_code := type_not_mem hexists
    exact ⟨t, (Rows.mem_insert row hfresh).2 (.inl ht), hcode⟩

/-- The types behind an update that sets `is_active`. -/
theorem activeType_update_iff {type_code : Str} {set : DeviceTypeInfo → DeviceTypeInfo} {s s' : DeviceRegistry}
    (htypes : s'.device_types = Rows.update DeviceTypeInfo.type_code type_code set s.device_types)
    (hcode : ∀ t, (set t).type_code = t.type_code) {active : Bool} (hactive : ∀ t, (set t).is_active = active)
    (code : Str) :
    ActiveType code s' ↔ if code = type_code then type_exists code s ∧ active else ActiveType code s := by
  rw [ActiveType, htypes, type_exists_iff, ActiveType]
  simp only [Rows.mem_update, exists_exists_and_eq_and]
  constructor
  · rintro ⟨t, ht, htcode, htactive⟩
    by_cases hkey : t.type_code = type_code
    · rw [if_pos hkey] at htcode htactive
      rw [hcode] at htcode
      rw [hactive] at htactive
      rw [if_pos (htcode.symm.trans hkey)]
      exact ⟨⟨t, ht, htcode⟩, htactive⟩
    · rw [if_neg hkey] at htcode htactive
      rw [if_neg (htcode ▸ hkey)]
      exact ⟨t, ht, htcode, htactive⟩
  · intro hall
    split_ifs at hall with hkey
    · obtain ⟨⟨t, ht, htcode⟩, hactive'⟩ := hall
      refine ⟨t, ht, ?_⟩
      rw [if_pos (htcode.trans hkey), hcode, hactive]
      exact ⟨htcode, hactive'⟩
    · obtain ⟨t, ht, htcode, htactive⟩ := hall
      refine ⟨t, ht, ?_⟩
      rw [if_neg (htcode ▸ hkey)]
      exact ⟨htcode, htactive⟩

theorem active_update_type_iff (now : Str) (type_code : Str) (info : DeviceTypeInfo) {s : DeviceRegistry} (h : Active s) :
    Active (update_type now type_code info s).2 ↔ KeepsActive s (.update_type now type_code info) := by
  rw [update_type, KeepsActive]
  split
  · rename_i hexists
    exact iff_of_true h fun hcode => absurd hcode hexists
  · rename_i hexists
    have htype : ∀ code, ActiveType code (Database.update_device_type now info s) ↔
        if code = info.type_code then type_exists code s ∧ info.is_active else ActiveType code s :=
      activeType_update_iff rfl (fun _ => by rfl) fun _ => by rfl
    constructor
    · intro hs' _ hinactive m hm hcode hactive
      have hat := (htype m.type_code).1 (hs' m hm hactive)
      rw [if_pos hcode] at hat
      exact hinactive hat.2
    · intro hkeeps m hm hactive
      rw [htype]
      obtain ⟨t, ht, hcode, htactive⟩ := h m hm hactive
      split_ifs with hkey
      · refine ⟨type_exists_iff.2 ⟨t, ht, hcode⟩, ?_⟩
        by_contra hinactive
        exact hkeeps (not_not.1 hexists) hinactive m hm hkey hactive
      · exact ⟨t, ht, hcode, htactive⟩

/-- The guard of a deletion looks at the active models. -/
theorem active_delete_type (now : Str) (type_code : Str) {s : DeviceRegistry} (h : Active s) :
    Active (delete_type now type_code s).2 := by
  rw [delete_type]
  split_ifs with hother hmodels
  · exact h
  · exact h
  · have htype : ∀ code, ActiveType code (Database.delete_device_type now type_code s) ↔
        if code = type_code then type_exists code s ∧ false = true else ActiveType code s :=
      activeType_update_iff rfl (fun _ => by rfl) fun _ => by rfl
    intro m hm hactive
    have hne : m.type_code ≠ type_code := by
      intro hcode
      rw [not_not, Database.list_device_models, List.filter_eq_nil_iff] at hmodels
      exact hmodels m hm (by simp [hcode, hactive])
    rw [htype, if_neg hne]
    exact h m hm hactive

theorem active_create_model_iff (id : Int32) (now : Str) (info : DeviceModelInfo) {s : DeviceRegistry} (h : Active s) :
    Active (create_model id now info s).2 ↔ KeepsActive s (.create_model id now info) := by
  rw [create_model, KeepsActive]
  split_ifs with hempty htype hmodel
  · refine iff_of_true h fun hfields => ?_
    simp [hfields] at hempty
  · exact iff_of_true h fun _ _ hfresh => absurd hmodel hfresh
  · simp only [not_or] at hempty
    let row := { info with id := id, is_active := true, created_at := now, updated_at := now }
    have hfresh : row.model_code ∉ s.device_models.map DeviceModelInfo.model_code := model_not_mem hmodel
    constructor
    · intro hs' _ _ _
      exact hs' row ((Rows.mem_insert row hfresh).2 (.inr rfl)) rfl
    · intro hkeeps m hm hactive
      rcases (Rows.mem_insert row hfresh).1 hm with hm | rfl
      · exact h m hm hactive
      · exact hkeeps hempty htype hmodel
  · exact iff_of_true h fun _ hexists => absurd hexists htype

theorem active_update_model_iff (now : Str) (model_code : Str) (info : DeviceModelInfo) {s : DeviceRegistry}
    (h : Active s) :
    Active (update_model now model_code info s).2 ↔ KeepsActive s (.update_model now model_code info) := by
  rw [update_model, KeepsActive]
  split_ifs with hmodel htype
  · have hall : Active (Database.update_device_model now info s) ↔
        ∀ m ∈ s.device_models, if m.model_code = info.model_code then info.is_active → ActiveType info.type_code s
          else m.is_active → ActiveType m.type_code s :=
      Rows.forall_mem_update
    rw [hall]
    constructor
    · intro hs' _ _ hexists hactive
      obtain ⟨m, hm, hcode⟩ := model_exists_iff.1 hexists
      have hm' := hs' m hm
      rw [if_pos hcode] at hm'
      exact hm' hactive
    · intro hkeeps m hm
      split_ifs with hcode
      · exact hkeeps hmodel htype (model_exists_iff.2 ⟨m, hm, hcode⟩)
      · exact h m hm
  · exact iff_of_true h fun _ hexists => absurd hexists htype
  · exact iff_of_true h fun hexists => absurd hexists hmodel

theorem active_delete_model (now : Str) (model_code : Str) {s : DeviceRegistry} (h : Active s) :
    Active (delete_model now model_code s).2 := by
  have hall : Active (delete_model now model_code s).2 ↔
      ∀ m ∈ s.device_models, if m.model_code = model_code then false = true → ActiveType m.type_code s
        else m.is_active → ActiveType m.type_code s :=
    Rows.forall_mem_update
  rw [hall]
  intro m hm
  split_ifs with hcode
  · nofun
  · exact h m hm

theorem active_step_iff {s s' : DeviceRegistry} {e : Event} (h : Active s) (hstep : Step s e s') :
    Active s' ↔ KeepsActive s e := by
  rw [hstep]
  cases e with
  | create_type id now info => exact iff_of_true (active_create_type id now info h) trivial
  | update_type now type_code info => exact active_update_type_iff now type_code info h
  | delete_type now type_code => exact iff_of_true (active_delete_type now type_code h) trivial
  | create_model id now info => exact active_create_model_iff id now info h
  | update_model now model_code info => exact active_update_model_iff now model_code info h
  | delete_model now model_code => exact iff_of_true (active_delete_model now model_code h) trivial

/-- All active models of a run have active types exactly when no step deactivates
the type of an active model, or makes a model active whose type is not. -/
theorem active_run_iff {now : Str} {tr : List (DeviceRegistry × Event)} {s : DeviceRegistry}
    (h : Run Step (seeded now) tr s) : (∀ p ∈ tr, Active p.1) ∧ Active s ↔ ∀ p ∈ tr, KeepsActive p.1 p.2 :=
  h.all_iff (fun _ => True) Active KeepsActive trivial (fun m hm => by cases hm) (fun _ _ _ _ _ => trivial)
    fun _ _ _ _ hactive hstep => active_step_iff hactive hstep

def acm_200 : DeviceModelInfo where
  model_code := "ACM-200".toList
  model_key := "acm_200_v1".toList
  type_code := "coffee_machine".toList
  display_name := "ACM-200".toList

theorem run_acm_200 : Run Step (seeded []) [(seeded [], .create_model 1 [] acm_200)]
    (create_model 1 [] acm_200 (seeded [])).2 := Run.nil.snoc rfl

theorem active_run_acm_200 : Active (create_model 1 [] acm_200 (seeded [])).2 :=
  ((active_run_iff run_acm_200).2 (List.forall_mem_singleton.2 fun _ _ _ =>
    ⟨_, List.mem_cons_self, rfl, rfl⟩)).2

def retired : DeviceTypeInfo where
  type_code := "coffee_machine".toList
  display_name := "ACM".toList
  is_active := false

/-- `delete_type` refuses to deactivate the type of an active model; `update_type` does not. -/
theorem active_fails : ∃ tr s s', Run Step (seeded []) tr s ∧ (delete_type [] retired.type_code s).1 = .ORG_HAS_DEVICES ∧
    Run Step (seeded []) (tr ++ [(s, .update_type [] retired.type_code retired)]) s' ∧ ¬Active s' := by
  refine ⟨_, _, _, run_acm_200, ?_, run_acm_200.snoc rfl, ?_⟩
  · decide +kernel
  · decide +kernel

end DeviceTypeManager

end DevSys
