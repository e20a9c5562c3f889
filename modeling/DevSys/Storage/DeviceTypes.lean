import DevSys.Device.TypeManager
import DevSys.Storage.Directory
/-!
# `Database`: device types and models

Both tables by column. A row comes back as the record that it was written from,
so that the registry is stated with lists of records.
-/
open Cxx Sql

namespace DevSys.DeviceRows
open Database

/-! ## Types -/

inductive DeviceTypesColumn where
  | type_code
  | display_name
  | description
  | internal_type
  | icon_url
  | sort_order
  | is_active
  | created_at
  | updated_at
  deriving DecidableEq, Repr

/-- `now` is the server's time as text, the default of the last two columns. -/
def create_device_types_table (now : Str) : List (Column DeviceTypesColumn) :=
  [ ⟨.type_code, .text, none⟩,
    ⟨.display_name, .text, none⟩,
    ⟨.description, .text, some []⟩,
    ⟨.internal_type, .integer, some ['4']⟩,
    ⟨.icon_url, .text, some []⟩,
    ⟨.sort_order, .integer, some ['0']⟩,
    ⟨.is_active, .boolean, some ['t']⟩,
    ⟨.created_at, .text, some now⟩,
    ⟨.updated_at, .text, some now⟩ ]

/-- The row of a new type, if its values are fine. -/
def insert_device_type (id : Nat) (now : Str) (info : DeviceTypeInfo) : Option (List Str) :=
  insertRow id (create_device_types_table now)
    [ (.type_code, .str info.type_code),
      (.display_name, .str info.display_name),
      (.description, .str info.description),
      (.internal_type, .num (to_string info.internal_type.toInt)),
      (.icon_url, .str info.icon_url),
      (.sort_order, .num (to_string info.sort_order.toInt)) ]

/-- What becomes of a row, if the statement succeeds; other types stay. -/
def update_device_type (now : Str) (info : DeviceTypeInfo) (row : List Str) : Option (List Str) :=
  if cell (create_device_types_table now) row .type_code ≠ some info.type_code then some row
  else
    updateRow (create_device_types_table now)
      [ (.display_name, .str info.display_name),
        (.description, .str info.description),
        (.internal_type, .num (to_string info.internal_type.toInt)),
        (.icon_url, .str info.icon_url),
        (.sort_order, .num (to_string info.sort_order.toInt)),
        (.is_active, .bool info.is_active),
        (.updated_at, .str now) ] row

def delete_device_type (now type_code : Str) (row : List Str) : Option (List Str) :=
  if cell (create_device_types_table now) row .type_code ≠ some type_code then some row
  else updateRow (create_device_types_table now) [(.is_active, .bool false), (.updated_at, .str now)] row

def type_from_row (row : List Str) : Except Exn DeviceTypeInfo :=
  if row.length < 8 then .ok {}
  else do
    let id ← stoi (row.getD 0 [])
    let internal_type ← stoi (row.getD 4 [])
    let sort_order ← stoi (row.getD 6 [])
    .ok
      { id := id
        type_code := row.getD 1 []
        display_name := row.getD 2 []
        description := row.getD 3 []
        internal_type := internal_type
        icon_url := row.getD 5 []
        sort_order := sort_order
        is_active := true_cell (row.getD 7 [])
        created_at := row.getD 8 []
        updated_at := row.getD 9 [] }

/-! ## Models -/

inductive DeviceModelsColumn where
  | model_code
  | model_key
  | type_code
  | display_name
  | description
  | specs_json
  | firmware_base
  | is_active
  | sort_order
  | created_at
  | updated_at
  deriving DecidableEq, Repr

def create_device_models_table (now : Str) : List (Column DeviceModelsColumn) :=
  [ ⟨.model_code, .text, none⟩,
    ⟨.model_key, .text, some []⟩,
    ⟨.type_code, .text, none⟩,
    ⟨.display_name, .text, none⟩,
    ⟨.description, .text, some []⟩,
    ⟨.specs_json, .text, some "\x7b\x7d".toList⟩,
    ⟨.firmware_base, .text, some "1.0.0".toList⟩,
    ⟨.is_active, .boolean, some ['t']⟩,
    ⟨.sort_order, .integer, some ['0']⟩,
    ⟨.created_at, .text, some now⟩,
    ⟨.updated_at, .text, some now⟩ ]

def insert_device_model (id : Nat) (now : Str) (info : DeviceModelInfo) : Option (List Str) :=
  insertRow id (create_device_models_table now)
    [ (.model_code, .str info.model_code),
      (.model_key, .str info.model_key),
      (.type_code, .str info.type_code),
      (.display_name, .str info.display_name),
      (.description, .str info.description),
      (.specs_json, .str info.specs_json),
      (.firmware_base, .str info.firmware_base),
      (.sort_order, .num (to_string info.sort_order.toInt)) ]

def update_device_model (now : Str) (info : DeviceModelInfo) (row : List Str) : Option (List Str) :=
  if cell (create_device_models_table now) row .model_code ≠ some info.model_code then some row
  else
    updateRow (create_device_models_table now)
      [ (.model_key, .str info.model_key),
        (.type_code, .str info.type_code),
        (.display_name, .str info.display_name),
        (.description, .str info.description),
        (.specs_json, .str info.specs_json),
        (.firmware_base, .str info.firmware_base),
        (.is_active, .bool info.is_active),
        (.sort_order, .num (to_string info.sort_order.toInt)),
        (.updated_at, .str now) ] row

def delete_device_model (now model_code : Str) (row : List Str) : Option (List Str) :=
  if cell (create_device_models_table now) row .model_code ≠ some model_code then some row
  else updateRow (create_device_models_table now) [(.is_active, .bool false), (.updated_at, .str now)] row

/-- The statements that read list their columns, in the order of the table. -/
def model_from_row (row : List Str) : Except Exn DeviceModelInfo :=
  if row.length < 12 then .ok {}
  else do
    let id ← stoi (row.getD 0 [])
    let sort_order ← stoi (row.getD 9 [])
    .ok
      { id := id
        model_code := row.getD 1 []
        model_key := row.getD 2 []
        type_code := row.getD 3 []
        display_name := row.getD 4 []
        description := row.getD 5 []
        specs_json := row.getD 6 []
        firmware_base := row.getD 7 []
        is_active := true_cell (row.getD 8 [])
        sort_order := sort_order
        created_at := row.getD 10 []
        updated_at := row.getD 11 [] }

/-! ## Rows and records -/

/-- The row of a type, in column order. -/
def typeRow (t : DeviceTypeInfo) : List Str :=
  [to_string t.id.toInt, t.type_code, t.display_name, t.description, to_string t.internal_type.toInt, t.icon_url,
    to_string t.sort_order.toInt, if t.is_active then ['t'] else ['f'], t.created_at, t.updated_at]

/-- The row of a model, in column order. -/
def modelRow (m : DeviceModelInfo) : List Str :=
  [to_string m.id.toInt, m.model_code, m.model_key, m.type_code, m.display_name, m.description, m.specs_json,
    m.firmware_base, if m.is_active then ['t'] else ['f'], to_string m.sort_order.toInt, m.created_at, m.updated_at]

theorem type_from_typeRow (t : DeviceTypeInfo) : type_from_row (typeRow t) = .ok t := by
  have hrow : type_from_row (typeRow t) = (do
      let id ← stoi (to_string t.id.toInt)
      let internal_type ← stoi (to_string t.internal_type.toInt)
      let sort_order ← stoi (to_string t.sort_order.toInt)
      .ok { t with id, internal_type, sort_order, is_active := true_cell (if t.is_active then ['t'] else ['f']) }) := rfl
  rw [hrow, stoi_int32, stoi_int32, stoi_int32, true_cell_bool]
  rfl

theorem model_from_modelRow (m : DeviceModelInfo) : model_from_row (modelRow m) = .ok m := by
  have hrow : model_from_row (modelRow m) = (do
      let id ← stoi (to_string m.id.toInt)
      let sort_order ← stoi (to_string m.sort_order.toInt)
      .ok { m with id, sort_order, is_active := true_cell (if m.is_active then ['t'] else ['f']) }) := rfl
  rw [hrow, stoi_int32, stoi_int32, true_cell_bool]
  rfl

/-- A serial number that is still one of the column. -/
theorem serial_text {id : Nat} (h : id < 2 ^ 31) : to_string (Int32.ofNat id).toInt = to_string id := by
  rw [Int32.toInt_ofNat_of_lt h]

/-! ## Inserts -/

theorem insert_device_type_eq (id : Nat) (now : Str) (t : DeviceTypeInfo) :
    insert_device_type id now t = (allCells [stored .text (.str t.type_code), stored .text (.str t.display_name),
      stored .text (.str t.description), stored .integer (.num (to_string t.internal_type.toInt)),
      stored .text (.str t.icon_url), stored .integer (.num (to_string t.sort_order.toInt)), some ['t'], some now,
      some now]).map (to_string id :: ·) := rfl

theorem row_of_insert_device_type {id : Nat} (hid : id < 2 ^ 31) {now : Str} {t : DeviceTypeInfo} {row : List Str}
    (h : insert_device_type id now t = some row) :
    row = typeRow { t with id := Int32.ofNat id, is_active := true, created_at := now, updated_at := now } := by
  rw [insert_device_type_eq] at h
  obtain ⟨rest, hrest, -⟩ := Option.map_eq_some_iff.1 h
  have hsome := isSome_of_allCells hrest
  simp only [List.forall_mem_cons, stored_text_isSome_iff] at hsome
  obtain ⟨h1, h2, h3, -, h4, -⟩ := hsome
  rw [stored_text h1, stored_text h2, stored_text h3, stored_text h4, stored_int32, stored_int32, ← serial_text hid] at h
  exact (Option.some.inj h).symm

theorem insert_device_model_eq (id : Nat) (now : Str) (m : DeviceModelInfo) :
    insert_device_model id now m = (allCells [stored .text (.str m.model_code), stored .text (.str m.model_key),
      stored .text (.str m.type_code), stored .text (.str m.display_name), stored .text (.str m.description),
      stored .text (.str m.specs_json), stored .text (.str m.firmware_base), some ['t'],
      stored .integer (.num (to_string m.sort_order.toInt)), some now, some now]).map (to_string id :: ·) := rfl

theorem row_of_insert_device_model {id : Nat} (hid : id < 2 ^ 31) {now : Str} {m : DeviceModelInfo} {row : List Str}
    (h : insert_device_model id now m = some row) :
    row = modelRow { m with id := Int32.ofNat id, is_active := true, created_at := now, updated_at := now } := by
  rw [insert_device_model_eq] at h
  obtain ⟨rest, hrest, -⟩ := Option.map_eq_some_iff.1 h
  have hsome := isSome_of_allCells hrest
  simp only [List.forall_mem_cons, stored_text_isSome_iff] at hsome
  obtain ⟨h1, h2, h3, h4, h5, h6, h7, -⟩ := hsome
  rw [stored_text h1, stored_text h2, stored_text h3, stored_text h4, stored_text h5, stored_text h6, stored_text h7,
    stored_int32, ← serial_text hid] at h
  exact (Option.some.inj h).symm

/-! ## Updates -/

/-- A statement with a `WHERE` changes the row, or it stays. -/
theorem where_cases {κ : Type} [DecidableEq κ] {columns : List (Column κ)} {row row' : List Str} {name : κ}
    {own text : Str} {updated : Option (List Str)} (hcell : cell columns row name = some own)
    (h : (if cell columns row name ≠ some text then some row else updated) = some row') :
    (own = text ∧ updated = some row') ∨ (own ≠ text ∧ row' = row) := by
  rw [hcell] at h
  by_cases hcode : own = text
  · rw [if_neg (not_not.2 (congrArg some hcode))] at h
    exact .inl ⟨hcode, h⟩
  · rw [if_pos fun heq => hcode (Option.some.inj heq)] at h
    exact .inr ⟨hcode, (Option.some.inj h).symm⟩

theorem cell_typeRow (now : Str) (t : DeviceTypeInfo) :
    cell (create_device_types_table now) (typeRow t) .type_code = some t.type_code := rfl

theorem cell_modelRow (now : Str) (m : DeviceModelInfo) :
    cell (create_device_models_table now) (modelRow m) .model_code = some m.model_code := rfl

theorem row_of_update_device_type {now : Str} {info t : DeviceTypeInfo} {row : List Str}
    (h : update_device_type now info (typeRow t) = some row) :
    row = typeRow (if t.type_code = info.type_code then
      { t with
        display_name := info.display_name
        description := info.description
        internal_type := info.internal_type
        icon_url := info.icon_url
        sort_order := info.sort_order
        is_active := info.is_active
        updated_at := now }
      else t) := by
  obtain ⟨hcode, hupdated⟩ | ⟨hcode, rfl⟩ := where_cases (cell_typeRow now t) h
  · have hcells : (allCells [some t.type_code, stored .text (.str info.display_name),
        stored .text (.str info.description), stored .integer (.num (to_string info.internal_type.toInt)),
        stored .text (.str info.icon_url), stored .integer (.num (to_string info.sort_order.toInt)),
        stored .boolean (.bool info.is_active), some t.created_at, stored .text (.str now)]).map
        (to_string t.id.toInt :: ·) = some row := hupdated
    obtain ⟨rest, hrest, -⟩ := Option.map_eq_some_iff.1 hcells
    have hsome := isSome_of_allCells hrest
    simp only [List.forall_mem_cons, stored_text_isSome_iff] at hsome
    obtain ⟨-, h1, h2, -, h3, -, -, -, h4, -⟩ := hsome
    rw [stored_text h1, stored_text h2, stored_text h3, stored_text h4, stored_int32, stored_int32,
      stored_bool] at hcells
    rw [if_pos hcode]
    exact (Option.some.inj hcells).symm
  · rw [if_neg hcode]

theorem row_of_delete_device_type {now type_code : Str} {t : DeviceTypeInfo} {row : List Str}
    (h : delete_device_type now type_code (typeRow t) = some row) :
    row = typeRow (if t.type_code = type_code then { t with is_active := false, updated_at := now } else t) := by
  obtain ⟨hcode, hupdated⟩ | ⟨hcode, rfl⟩ := where_cases (cell_typeRow now t) h
  · have hcells : (allCells [some t.type_code, some t.display_name, some t.description,
        some (to_string t.internal_type.toInt), some t.icon_url, some (to_string t.sort_order.toInt), some ['f'],
        some t.created_at, stored .text (.str now)]).map (to_string t.id.toInt :: ·) = some row := hupdated
    obtain ⟨rest, hrest, -⟩ := Option.map_eq_some_iff.1 hcells
    have hsome := isSome_of_allCells hrest
    simp only [List.forall_mem_cons, stored_text_isSome_iff] at hsome
    obtain ⟨-, -, -, -, -, -, -, -, hnow, -⟩ := hsome
    rw [stored_text hnow] at hcells
    rw [if_pos hcode]
    exact (Option.some.inj hcells).symm
  · rw [if_neg hcode]

theorem row_of_update_device_model {now : Str} {info m : DeviceModelInfo} {row : List Str}
    (h : update_device_model now info (modelRow m) = some row) :
    row = modelRow (if m.model_code = info.model_code then
      { m with
        model_key := info.model_key
        type_code := info.type_code
        display_name := info.display_name
        description := info.description
        specs_json := info.specs_json
        firmware_base := info.firmware_base
        is_active := info.is_active
        sort_order := info.sort_order
        updated_at := now }
      else m) := by
  obtain ⟨hcode, hupdated⟩ | ⟨hcode, rfl⟩ := where_cases (cell_modelRow now m) h
  · have hcells : (allCells [some m.model_code, stored .text (.str info.model_key),
        stored .text (.str info.type_code), stored .text (.str info.display_name), stored .text (.str info.description),
        stored .text (.str info.specs_json), stored .text (.str info.firmware_base),
        stored .boolean (.bool info.is_active), stored .integer (.num (to_string info.sort_order.toInt)),
        some m.created_at, stored .text (.str now)]).map (to_string m.id.toInt :: ·) = some row := hupdated
    obtain ⟨rest, hrest, -⟩ := Option.map_eq_some_iff.1 hcells
    have hsome := isSome_of_allCells hrest
    simp only [List.forall_mem_cons, stored_text_isSome_iff] at hsome
    obtain ⟨-, h1, h2, h3, h4, h5, h6, -, -, -, h7, -⟩ := hsome
    rw [stored_text h1, stored_text h2, stored_text h3, stored_text h4, stored_text h5, stored_text h6, stored_text h7,
      stored_int32, stored_bool] at hcells
    rw [if_pos hcode]
    exact (Option.some.inj hcells).symm
  · rw [if_neg hcode]

theorem row_of_delete_device_model {now model_code : Str} {m : DeviceModelInfo} {row : List Str}
    (h : delete_device_model now model_code (modelRow m) = some row) :
    row = modelRow (if m.model_code = model_code then { m with is_active := false, updated_at := now } else m) := by
  obtain ⟨hcode, hupdated⟩ | ⟨hcode, rfl⟩ := where_cases (cell_modelRow now m) h
  · have hcells : (allCells [some m.model_code, some m.model_key, some m.type_code, some m.display_name,
        some m.description, some m.specs_json, some m.firmware_base, some ['f'],
        some (to_string m.sort_order.toInt), some m.created_at, stored .text (.str now)]).map
        (to_string m.id.toInt :: ·) = some row := hupdated
    obtain ⟨rest, hrest, -⟩ := Option.map_eq_some_iff.1 hcells
    have hsome := isSome_of_allCells hrest
    simp only [List.forall_mem_cons, stored_text_isSome_iff] at hsome
    obtain ⟨-, -, -, -, -, -, -, -, -, -, hnow, -⟩ := hsome
    rw [stored_text hnow] at hcells
    rw [if_pos hcode]
    exact (Option.some.inj hcells).symm
  · rw [if_neg hcode]

/-! ## The tables -/

/-- A statement that does to each row what is done to its record. -/
theorem rows_of_mapM {α : Type} {rowOf : α → List Str} {statement : List Str → Option (List Str)} {set : α → α}
    {t : List α} {rows : List (List Str)} (hrows : (t.map rowOf).mapM statement = some rows)
    (h : ∀ r row, statement (rowOf r) = some row → row = rowOf (set r)) : rows = (t.map set).map rowOf := by
  induction t generalizing rows with
  | nil => exact (Option.some.inj hrows).symm
  | cons r t ih =>
    rw [List.map_cons, List.mapM_cons] at hrows
    obtain ⟨row, hrow, hrest⟩ := Option.bind_eq_some_iff.1 hrows
    obtain ⟨rest, hmapM, heq⟩ := Option.bind_eq_some_iff.1 hrest
    rw [← Option.some.inj heq, h r row hrow, ih hmapM]
    rfl

/-- The statements on types that succeed leave the rows of the registry. -/
theorem type_rows (s : DeviceRegistry) (now : Str) :
    (∀ id row info, id < 2 ^ 31 → info.type_code ∉ s.device_types.map DeviceTypeInfo.type_code →
      insert_device_type id now info = some row → s.device_types.map typeRow ++ [row] =
        (Database.insert_device_type (Int32.ofNat id) now info s).device_types.map typeRow) ∧
    (∀ info rows, (s.device_types.map typeRow).mapM (update_device_type now info) = some rows →
      rows = (Database.update_device_type now info s).device_types.map typeRow) ∧
    ∀ type_code rows, (s.device_types.map typeRow).mapM (delete_device_type now type_code) = some rows →
      rows = (Database.delete_device_type now type_code s).device_types.map typeRow := by
  refine ⟨?_, ?_, ?_⟩
  · intro id row info hid hfresh hrow
    let record := { info with id := Int32.ofNat id, is_active := true, created_at := now, updated_at := now }
    have hinsert : (Database.insert_device_type (Int32.ofNat id) now info s).device_types = s.device_types ++ [record] :=
      Rows.insert_of_fresh hfresh
    rw [row_of_insert_device_type hid hrow, hinsert, List.map_append, List.map_singleton]
  · intro info rows hrows
    exact rows_of_mapM hrows fun _ _ => row_of_update_device_type
  · intro type_code rows hrows
    exact rows_of_mapM hrows fun _ _ => row_of_delete_device_type

/-- The same for the statements on models. -/
theorem model_rows (s : DeviceRegistry) (now : Str) :
    (∀ id row info, id < 2 ^ 31 → info.model_code ∉ s.device_models.map DeviceModelInfo.model_code →
      insert_device_model id now info = some row → s.device_models.map modelRow ++ [row] =
        (Database.insert_device_model (Int32.ofNat id) now info s).device_models.map modelRow) ∧
    (∀ info rows, (s.device_models.map modelRow).mapM (update_device_model now info) = some rows →
      rows = (Database.update_device_model now info s).device_models.map modelRow) ∧
    ∀ model_code rows, (s.device_models.map modelRow).mapM (delete_device_model now model_code) = some rows →
      rows = (Database.delete_device_model now model_code s).device_models.map modelRow := by
  refine ⟨?_, ?_, ?_⟩
  · intro id row info hid hfresh hrow
    let record := { info with id := Int32.ofNat id, is_active := true, created_at := now, updated_at := now }
    have hinsert : (Database.insert_device_model (Int32.ofNat id) now info s).device_models =
        s.device_models ++ [record] := Rows.insert_of_fresh hfresh
    rw [row_of_insert_device_model hid hrow, hinsert, List.map_append, List.map_singleton]
  · intro info rows hrows
    exact rows_of_mapM hrows fun _ _ => row_of_update_device_model
  · intro model_code rows hrows
    exact rows_of_mapM hrows fun _ _ => row_of_delete_device_model

/-- What is read of the rows is the registry. -/
theorem registry_of_rows (s : DeviceRegistry) :
    (s.device_types.map typeRow).map type_from_row = s.device_types.map .ok ∧
      (s.device_models.map modelRow).map model_from_row = s.device_models.map .ok := by
  rw [List.map_map, List.map_map]
  exact ⟨List.map_congr_left fun t _ => type_from_typeRow t, List.map_congr_left fun m _ => model_from_modelRow m⟩

end DevSys.DeviceRows
