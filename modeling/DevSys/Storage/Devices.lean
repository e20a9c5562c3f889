import DevSys.Lib.Rows
import DevSys.Storage.Directory
import DevSys.Storage.RoundTrip
/-!
# `Database`: devices

The table, its rows, and what is read of them. `hardware_uid` and `device_id`
are unique; a foreign key that does not hold fails a statement like any error
of the server.
-/
open Cxx Sql

namespace DevSys.Database

inductive DevicesColumn where
  | device_id
  | tenant_id
  | product_id
  | device_type
  | status
  | firmware_version
  | mac_address
  | model
  | hardware_uid
  | last_heartbeat_at
  | activated
  | activated_at
  | created_at
  | updated_at
  deriving DecidableEq, Repr

/-- `now` is the server's time, the default of the last two columns. -/
def create_devices_table (now : Int) : List (Column DevicesColumn) :=
  [ ⟨.device_id, .text, none⟩,
    ⟨.tenant_id, .text, some "default".toList⟩,
    ⟨.product_id, .text, none⟩,
    ⟨.device_type, .integer, some ['4']⟩,
    ⟨.status, .integer, some ['5']⟩,
    ⟨.firmware_version, .text, some "0.0.0".toList⟩,
    ⟨.mac_address, .text, some []⟩,
    ⟨.model, .text, some []⟩,
    ⟨.hardware_uid, .text, none⟩,
    ⟨.last_heartbeat_at, .bigint, some ['0']⟩,
    ⟨.activated, .boolean, some ['f']⟩,
    ⟨.activated_at, .bigint, some ['0']⟩,
    ⟨.created_at, .bigint, some (to_string now)⟩,
    ⟨.updated_at, .bigint, some (to_string now)⟩ ]

/-- The row of a new device, if its values are fine. -/
def insert_device (now : Int) (id : Nat) (device : Device) : Option (List Str) :=
  insertRow id (create_devices_table now)
    [ (.device_id, .str device.device_id),
      (.tenant_id, .str device.tenant_id),
      (.product_id, .str device.product_id),
      (.device_type, .num (to_string device.type.val.toNat)),
      (.status, .num (to_string device.network_status.val.toNat)),
      (.firmware_version, .str device.firmware_version),
      (.mac_address, .str device.mac_address),
      (.model, .str device.model),
      (.hardware_uid, .str device.hardware_uid),
      (.last_heartbeat_at, .num (to_string device.last_heartbeat_at)),
      (.activated, .bool device.activated),
      (.activated_at, .num (to_string device.activated_at)) ]

/-- What the conflict clause of `upsert_device` makes of the row that is there. -/
def update_on_conflict (now : Int) (device : Device) (row : List Str) : Option (List Str) :=
  updateRow (create_devices_table 0)
    [ (.tenant_id, .str device.tenant_id),
      (.status, .num (to_string device.network_status.val.toNat)),
      (.firmware_version, .str device.firmware_version),
      (.last_heartbeat_at, .num (to_string device.last_heartbeat_at)),
      (.updated_at, .num (to_string now)) ] row

def device_from_row (row : List Str) : Except Exn Device :=
  if row.length < 11 then .ok {}
  else do
    let type ← stoi (row.getD 4 [])
    let status ← stoi (row.getD 5 [])
    let last_heartbeat_at ← if row.length > 10 then stoll (row.getD 10 []) else .ok 0
    let activated_at ← if row.length > 12 then stoll (row.getD 12 []) else .ok 0
    .ok
      { device_id := row.getD 1 []
        tenant_id := row.getD 2 []
        product_id := row.getD 3 []
        type := ⟨castUInt8 type⟩
        network_status := ⟨castUInt8 status⟩
        work_status := .IDLE
        firmware_version := row.getD 6 []
        mac_address := row.getD 7 []
        model := row.getD 8 []
        hardware_uid := row.getD 9 []
        last_heartbeat_at := last_heartbeat_at
        activated := if row.length > 11 then true_cell (row.getD 11 []) else false
        activated_at := activated_at }

/-! ## A row and its device -/

theorem insert_device_eq (now : Int) (id : Nat) (d : Device) :
    insert_device now id d = (allCells [stored .text (.str d.device_id), stored .text (.str d.tenant_id),
      stored .text (.str d.product_id), stored .integer (.num (to_string d.type.val.toNat)),
      stored .integer (.num (to_string d.network_status.val.toNat)), stored .text (.str d.firmware_version),
      stored .text (.str d.mac_address), stored .text (.str d.model), stored .text (.str d.hardware_uid),
      stored .bigint (.num (to_string d.last_heartbeat_at)), stored .boolean (.bool d.activated),
      stored .bigint (.num (to_string d.activated_at)), some (to_string now), some (to_string now)]).map
      (to_string id :: ·) := rfl

/-- The row of a device, in column order. -/
def deviceRow (now : Int) (id : Nat) (d : Device) : List Str :=
  [to_string id, d.device_id, d.tenant_id, d.product_id, to_string d.type.val.toNat,
    to_string d.network_status.val.toNat, d.firmware_version, d.mac_address, d.model, d.hardware_uid,
    to_string d.last_heartbeat_at, if d.activated then ['t'] else ['f'], to_string d.activated_at, to_string now,
    to_string now]

/-- The times of a device fit into the table. -/
structure DeviceTimes (d : Device) : Prop where
  last_heartbeat_at : -2 ^ 63 ≤ d.last_heartbeat_at ∧ d.last_heartbeat_at < 2 ^ 63
  activated_at : -2 ^ 63 ≤ d.activated_at ∧ d.activated_at < 2 ^ 63

theorem isBigint_to_string_iff (n : Int) : IsBigint (to_string n) ↔ -2 ^ 63 ≤ n ∧ n < 2 ^ 63 := by
  rw [IsBigint, decimalVal_to_string]
  exact and_iff_right (isDecimal_to_string n)

theorem row_of_insert_device {now : Int} {id : Nat} {d : Device} {row : List Str}
    (h : insert_device now id d = some row) : row = deviceRow now id d ∧ DeviceTimes d := by
  rw [insert_device_eq] at h
  obtain ⟨rest, hrest, hrow⟩ := Option.map_eq_some_iff.1 h
  have hsome := isSome_of_allCells hrest
  simp only [List.forall_mem_cons, stored_text_isSome_iff, stored_bigint_isSome_iff] at hsome
  obtain ⟨h1, h2, h3, -, -, h4, h5, h6, h7, hseen, -, hact, -⟩ := hsome
  rw [stored_text h1, stored_text h2, stored_text h3, stored_text h4, stored_text h5, stored_text h6, stored_text h7,
    stored_uint8, stored_uint8, stored_bigint hseen, stored_bigint hact, stored_bool, decimalVal_to_string,
    decimalVal_to_string] at h
  exact ⟨(Option.some.inj h).symm, (isBigint_to_string_iff _).1 hseen, (isBigint_to_string_iff _).1 hact⟩

/-- A device comes back, but for the work status, which has no column. -/
theorem device_from_deviceRow (now : Int) (id : Nat) {d : Device} (h : DeviceTimes d) :
    device_from_row (deviceRow now id d) = .ok { d with work_status := .IDLE } := by
  have hrow : device_from_row (deviceRow now id d) = (do
      let type ← stoi (to_string d.type.val.toNat)
      let status ← stoi (to_string d.network_status.val.toNat)
      let last_heartbeat_at ← stoll (to_string d.last_heartbeat_at)
      let activated_at ← stoll (to_string d.activated_at)
      .ok { d with type := ⟨castUInt8 type⟩, network_status := ⟨castUInt8 status⟩, work_status := .IDLE,
                   last_heartbeat_at, activated_at, activated := true_cell (if d.activated then ['t'] else ['f']) }) :=
    rfl
  rw [hrow, stoi_uint8, stoi_uint8, stoll_to_string _ h.last_heartbeat_at, stoll_to_string _ h.activated_at,
    true_cell_bool]
  simp only [Bind.bind, Except.bind, castUInt8_ofNat]

theorem device_from_cells (c0 c1 c2 c3 c4 c5 c6 c7 c8 c9 c10 c11 c12 c13 c14 : Str) :
    device_from_row [c0, c1, c2, c3, c4, c5, c6, c7, c8, c9, c10, c11, c12, c13, c14] = (do
      let type ← stoi c4
      let status ← stoi c5
      let last_heartbeat_at ← stoll c10
      let activated_at ← stoll c12
      .ok { device_id := c1, tenant_id := c2, product_id := c3, type := ⟨castUInt8 type⟩,
            network_status := ⟨castUInt8 status⟩, firmware_version := c6, mac_address := c7, model := c8,
            hardware_uid := c9, last_heartbeat_at, activated := true_cell c11, activated_at }) := rfl

/-- A row that is read as a device has numbers in its four numeric columns. -/
theorem cells_of_device {c0 c1 c2 c3 c4 c5 c6 c7 c8 c9 c10 c11 c12 c13 c14 : Str} {d : Device}
    (h : device_from_row [c0, c1, c2, c3, c4, c5, c6, c7, c8, c9, c10, c11, c12, c13, c14] = .ok d) :
    ∃ type status last_heartbeat_at activated_at, stoi c4 = .ok type ∧ stoi c5 = .ok status ∧
      stoll c10 = .ok last_heartbeat_at ∧ stoll c12 = .ok activated_at ∧
      d = { device_id := c1, tenant_id := c2, product_id := c3, type := ⟨castUInt8 type⟩,
            network_status := ⟨castUInt8 status⟩, firmware_version := c6, mac_address := c7, model := c8,
            hardware_uid := c9, last_heartbeat_at, activated := true_cell c11, activated_at } := by
  rw [device_from_cells] at h
  cases htype : stoi c4 with
  | error e =>
    rw [htype] at h
    cases h
  | ok type =>
    cases hstatus : stoi c5 with
    | error e =>
      rw [htype, hstatus] at h
      cases h
    | ok status =>
      cases hseen : stoll c10 with
      | error e =>
        rw [htype, hstatus, hseen] at h
        cases h
      | ok last_heartbeat_at =>
        cases hactivated : stoll c12 with
        | error e =>
          rw [htype, hstatus, hseen, hactivated] at h
          cases h
        | ok activated_at =>
          rw [htype, hstatus, hseen, hactivated] at h
          exact ⟨type, status, last_heartbeat_at, activated_at, rfl, rfl, rfl, rfl, (Except.ok.inj h).symm⟩

theorem update_on_conflict_eq (now : Int) (d : Device)
    (c0 c1 c2 c3 c4 c5 c6 c7 c8 c9 c10 c11 c12 c13 c14 : Str) :
    update_on_conflict now d [c0, c1, c2, c3, c4, c5, c6, c7, c8, c9, c10, c11, c12, c13, c14] =
      (allCells [some c1, stored .text (.str d.tenant_id), some c3, some c4,
        stored .integer (.num (to_string d.network_status.val.toNat)), stored .text (.str d.firmware_version), some c7,
        some c8, some c9, stored .bigint (.num (to_string d.last_heartbeat_at)), some c11, some c12, some c13,
        stored .bigint (.num (to_string now))]).map (c0 :: ·) := rfl

/-- A conflict leaves what a row says of the product, the type, the model and the unit. -/
theorem device_from_conflict {now : Int} {d existing : Device} {row row' : List Str} (hlen : row.length = 15)
    (hrow : device_from_row row = .ok existing) (h : update_on_conflict now d row = some row') :
    device_from_row row' = .ok
      { existing with
        tenant_id := d.tenant_id
        network_status := d.network_status
        firmware_version := d.firmware_version
        last_heartbeat_at := d.last_heartbeat_at } := by
  match row, hlen with
  | [c0, c1, c2, c3, c4, c5, c6, c7, c8, c9, c10, c11, c12, c13, c14], _ =>
    obtain ⟨type, status, seen, activated_at, htype, -, -, hactivated, rfl⟩ := cells_of_device hrow
    rw [update_on_conflict_eq] at h
    obtain ⟨rest, hrest, -⟩ := Option.map_eq_some_iff.1 h
    have hsome := isSome_of_allCells hrest
    simp only [List.forall_mem_cons, stored_text_isSome_iff, stored_bigint_isSome_iff] at hsome
    obtain ⟨-, htenant, -, -, -, hversion, -, -, -, hseen, -, -, -, hnow, -⟩ := hsome
    rw [stored_text htenant, stored_text hversion, stored_uint8, stored_bigint hseen, stored_bigint hnow,
      decimalVal_to_string, decimalVal_to_string] at h
    obtain rfl := Option.some.inj h
    refine (device_from_cells _ _ _ _ _ _ _ _ _ _ _ _ _ _ _).trans ?_
    rw [htype, stoi_uint8, stoll_to_string _ ((isBigint_to_string_iff _).1 hseen), hactivated]
    simp only [Bind.bind, Except.bind, castUInt8_ofNat]

end DevSys.Database

/-! ## The table -/

namespace DevSys
open Database

/-- The rows of `devices`; no two have the same hardware uid. -/
structure DevicesTable where
  rows : List (List Str) := []
  unique : (rows.map (cell (create_devices_table 0) · .hardware_uid)).Nodup := by simp

namespace DevicesTable

def hardware_uid (row : List Str) : Option Str := cell (create_devices_table 0) row .hardware_uid

def device_id (row : List Str) : Option Str := cell (create_devices_table 0) row .device_id

/-- The row `WHERE hardware_uid=uid`. -/
def select (t : DevicesTable) (uid : Str) : Option (List Str) := t.rows.find? (hardware_uid · = some uid)

/-- `answers` is whether the query succeeds. -/
def device_exists (answers : Bool) (uid : Str) (t : DevicesTable) : Bool := answers && (t.select uid).isSome

def get_device_by_hwuid (answers : Bool) (uid : Str) (t : DevicesTable) : Option (Except Exn Device) :=
  if answers then (t.select uid).map device_from_row else none

/-- One row more, if both unique columns stay unique. -/
def insert (t : DevicesTable) (row : List Str) : Option DevicesTable :=
  if h : hardware_uid row ∉ t.rows.map hardware_uid ∧ device_id row ∉ t.rows.map device_id then
    some ⟨t.rows ++ [row], by
      rw [List.map_append, List.nodup_append]
      refine ⟨t.unique, by simp, ?_⟩
      simp only [List.map_singleton, List.mem_singleton]
      rintro uid huid _ rfl rfl
      exact h.1 huid⟩
  else none

/-- `insert_device`, if the statement succeeds. -/
def insert_device (answers : Bool) (now : Int) (device : Device) (t : DevicesTable) : Option DevicesTable :=
  if answers then (Database.insert_device now (t.rows.length + 1) device).bind t.insert else none

theorem rows_of_insert {t t' : DevicesTable} {row : List Str} (h : t.insert row = some t') :
    t'.rows = t.rows ++ [row] ∧ hardware_uid row ∉ t.rows.map hardware_uid := by
  rw [insert] at h
  split at h
  case isTrue hnew =>
    cases h
    exact ⟨rfl, hnew.1⟩
  case isFalse => cases h

/-- A row that is found is found ever after. -/
theorem select_of_insert {t t' : DevicesTable} {row row' : List Str} {uid : Str} (h : t.insert row = some t')
    (hs : t.select uid = some row') : t'.select uid = some row' := by
  rw [select] at hs
  rw [select, (rows_of_insert h).1, List.find?_append, hs]
  rfl

theorem select_inserted {t t' : DevicesTable} {row : List Str} {uid : Str} (h : t.insert row = some t')
    (huid : hardware_uid row = some uid) : t'.select uid = some row := by
  obtain ⟨hrows, hnew⟩ := rows_of_insert h
  have hnone : t.rows.find? (hardware_uid · = some uid) = none := by
    rw [List.find?_eq_none]
    intro r hr heq
    exact hnew (List.mem_map.2 ⟨r, hr, by rw [huid]; simpa using heq⟩)
  rw [select, hrows, List.find?_append, hnone]
  simp [huid]

/-- The device that an insert leaves under its uid. -/
theorem get_inserted {answers : Bool} {now : Int} {d : Device} {t t' : DevicesTable}
    (h : t.insert_device answers now d = some t') :
    (t'.select d.hardware_uid).map device_from_row = some (.ok { d with work_status := .IDLE }) := by
  rw [insert_device] at h
  split at h
  case isTrue =>
    obtain ⟨row, hrow, hins⟩ := Option.bind_eq_some_iff.1 h
    obtain ⟨rfl, htimes⟩ := row_of_insert_device hrow
    rw [select_inserted hins rfl, Option.map_some, device_from_deviceRow _ _ htimes]
  case isFalse => cases h

/-- An insert leaves the other devices. -/
theorem select_of_insert_device {answers : Bool} {now : Int} {d : Device} {t t' : DevicesTable}
    (h : t.insert_device answers now d = some t') {uid : Str} {row : List Str} (hs : t.select uid = some row) :
    t'.select uid = some row := by
  rw [insert_device] at h
  split at h
  case isTrue =>
    obtain ⟨_, -, hins⟩ := Option.bind_eq_some_iff.1 h
    exact select_of_insert hins hs
  case isFalse => cases h

/-- The row `WHERE device_id=device_id`. -/
def get_device (device_id : Str) (t : DevicesTable) : Option (Except Exn Device) :=
  (t.rows.find? (DevicesTable.device_id · = some device_id)).map device_from_row

/-! ## Upserts -/

/-- What the conflict clause does to a row. -/
def set_on_conflict (now : Int) (device : Device) (row : List Str) : Option (List Str) :=
  if device_id row = some device.device_id then update_on_conflict now device row else some row

theorem cell_of_conflict {now : Int} {device : Device} {row row' : List Str}
    (h : set_on_conflict now device row = some row') :
    hardware_uid row' = hardware_uid row ∧ device_id row' = device_id row := by
  rw [set_on_conflict] at h
  split at h
  case isTrue => exact ⟨cell_of_updateRow h rfl, cell_of_updateRow h rfl⟩
  case isFalse =>
    obtain rfl := Option.some.inj h
    exact ⟨rfl, rfl⟩

def conflict (now : Int) (device : Device) (t : DevicesTable) : Option DevicesTable :=
  match h : t.rows.mapM (set_on_conflict now device) with
  | none => none
  | some rows => some ⟨rows, by
      have huid := Rows.map_of_mapM (fun _ _ hrow => (cell_of_conflict hrow).1) h
      have hunique : (rows.map hardware_uid).Nodup := by
        rw [huid]
        exact t.unique
      exact hunique⟩

/-- `upsert_device`, if the statement succeeds. The values must be fine also where there is a conflict. -/
def upsert_device (answers : Bool) (now : Int) (device : Device) (t : DevicesTable) : Option DevicesTable :=
  if answers then
    (Database.insert_device now (t.rows.length + 1) device).bind fun row =>
      if device_id row ∈ t.rows.map DevicesTable.device_id then t.conflict now device else t.insert row
  else none

theorem rows_of_conflict {now : Int} {device : Device} {t t' : DevicesTable} (h : t.conflict now device = some t') :
    t.rows.mapM (set_on_conflict now device) = some t'.rows := by
  rw [conflict] at h
  split at h
  · cases h
  · rename_i rows hrows
    obtain rfl := Option.some.inj h
    exact hrows

/-- What the schema promises of the rows, beside the unique unit: all columns, and the unique device. -/
structure Valid (t : DevicesTable) : Prop where
  columns : ∀ row ∈ t.rows, row.length = 15
  ids : (t.rows.map DevicesTable.device_id).Nodup

theorem valid_empty : Valid {} := ⟨by simp, by simp⟩

theorem valid_insert {t t' : DevicesTable} {row : List Str} (h : t.insert row = some t') (hlen : row.length = 15)
    (ht : t.Valid) : t'.Valid := by
  rw [insert] at h
  split at h
  case isFalse => cases h
  case isTrue hnew =>
    obtain rfl := Option.some.inj h
    refine ⟨?_, ?_⟩
    · rw [List.forall_mem_append, List.forall_mem_singleton]
      exact ⟨ht.columns, hlen⟩
    · rw [List.map_append, List.map_singleton, List.nodup_append]
      refine ⟨ht.ids, List.nodup_singleton _, fun id hid id' hid' heq => ?_⟩
      rw [heq, List.mem_singleton.1 hid'] at hid
      exact hnew.2 hid

theorem valid_insert_device {answers : Bool} {now : Int} {d : Device} {t t' : DevicesTable}
    (h : t.insert_device answers now d = some t') (ht : t.Valid) : t'.Valid := by
  rw [insert_device] at h
  split at h
  case isFalse => cases h
  case isTrue =>
    obtain ⟨row, hrow, hinsert⟩ := Option.bind_eq_some_iff.1 h
    obtain ⟨rfl, -⟩ := row_of_insert_device hrow
    exact valid_insert hinsert rfl ht

theorem valid_upsert_device {answers : Bool} {now : Int} {d : Device} {t t' : DevicesTable}
    (h : t.upsert_device answers now d = some t') (ht : t.Valid) : t'.Valid := by
  rw [upsert_device] at h
  split at h
  case isFalse => cases h
  case isTrue =>
    obtain ⟨row, hrow, hupsert⟩ := Option.bind_eq_some_iff.1 h
    obtain ⟨rfl, -⟩ := row_of_insert_device hrow
    split at hupsert
    case isFalse => exact valid_insert hupsert rfl ht
    case isTrue =>
      have hmapM := rows_of_conflict hupsert
      have hids := Rows.map_of_mapM (fun _ _ hr => (cell_of_conflict hr).2) hmapM
      refine ⟨fun r' hr' => ?_, hids ▸ ht.ids⟩
      obtain ⟨r, hr, hset⟩ := Rows.exists_of_mapM hmapM hr'
      rw [set_on_conflict] at hset
      split at hset
      case isTrue => exact (length_of_updateRow hset (ht.columns r hr)).trans (ht.columns r hr)
      case isFalse =>
        obtain rfl := Option.some.inj hset
        exact ht.columns r hr

/-- The row that an insert leaves under its device. -/
theorem find?_inserted {answers : Bool} {now : Int} {d : Device} {t t' : DevicesTable}
    (h : t.insert_device answers now d = some t') :
    ∃ row, t'.rows.find? (DevicesTable.device_id · = some d.device_id) = some row ∧ row.length = 15 ∧
      device_from_row row = .ok { d with work_status := .IDLE } := by
  rw [insert_device] at h
  split at h
  case isFalse => cases h
  case isTrue =>
    obtain ⟨row, hrow, hinsert⟩ := Option.bind_eq_some_iff.1 h
    obtain ⟨rfl, htimes⟩ := row_of_insert_device hrow
    refine ⟨deviceRow now (t.rows.length + 1) d, ?_, rfl, device_from_deviceRow _ _ htimes⟩
    rw [insert] at hinsert
    split at hinsert
    case isFalse => cases hinsert
    case isTrue hnew =>
      obtain rfl := Option.some.inj hinsert
      have hnone : t.rows.find? (DevicesTable.device_id · = some d.device_id) = none := by
        rw [List.find?_eq_none]
        intro r hr heq
        exact hnew.2 (List.mem_map.2 ⟨r, hr, of_decide_eq_true heq⟩)
      rw [List.find?_append, hnone, Option.none_or]
      exact List.find?_cons_of_pos (decide_eq_true rfl)

/-- The row of a unit, by the device that it stands for. -/
theorem find?_existing {answers : Bool} {uid : Str} {existing : Device} {t : DevicesTable} (ht : t.Valid)
    (h : t.get_device_by_hwuid answers uid = some (.ok existing)) :
    ∃ row, t.rows.find? (DevicesTable.device_id · = some existing.device_id) = some row ∧ row.length = 15 ∧
      device_from_row row = .ok existing ∧ existing.hardware_uid = uid := by
  rw [get_device_by_hwuid] at h
  split at h
  case isFalse => cases h
  case isTrue =>
    obtain ⟨row, hrow, hdecode⟩ := Option.map_eq_some_iff.1 h
    have hmem := List.mem_of_find?_eq_some hrow
    have huid : DevicesTable.hardware_uid row = some uid := by simpa using List.find?_some hrow
    have hlen := ht.columns row hmem
    have hcells : DevicesTable.device_id row = some existing.device_id ∧
        DevicesTable.hardware_uid row = some existing.hardware_uid := by
      match row, hlen with
      | [c0, c1, c2, c3, c4, c5, c6, c7, c8, c9, c10, c11, c12, c13, c14], _ =>
        obtain ⟨type, status, seen, activated_at, -, -, -, -, rfl⟩ := cells_of_device hdecode
        exact ⟨rfl, rfl⟩
    refine ⟨row, ?_, hlen, hdecode, ?_⟩
    · have hfind : t.rows.find? (DevicesTable.device_id · = DevicesTable.device_id row) = some row :=
        (Rows.find?_eq_some_iff ht.ids).2 ⟨hmem, rfl⟩
      rwa [hcells.1] at hfind
    · exact Option.some.inj (hcells.2.symm.trans huid)

/-- An upsert over a row that is there. -/
theorem find?_upserted {answers : Bool} {now : Int} {device : Device} {t t' : DevicesTable}
    (h : t.upsert_device answers now device = some t') {row : List Str}
    (hrow : t.rows.find? (DevicesTable.device_id · = some device.device_id) = some row) :
    ∃ row', update_on_conflict now device row = some row' ∧
      t'.rows.find? (DevicesTable.device_id · = some device.device_id) = some row' := by
  rw [upsert_device] at h
  split at h
  case isFalse => cases h
  case isTrue =>
    obtain ⟨new, hnew, hupsert⟩ := Option.bind_eq_some_iff.1 h
    obtain ⟨rfl, -⟩ := row_of_insert_device hnew
    have hid : DevicesTable.device_id row = some device.device_id := by simpa using List.find?_some hrow
    have hmem : DevicesTable.device_id (deviceRow now (t.rows.length + 1) device) ∈
        t.rows.map DevicesTable.device_id := List.mem_map.2 ⟨row, List.mem_of_find?_eq_some hrow, hid⟩
    rw [if_pos hmem] at hupsert
    have hmapM := rows_of_conflict hupsert
    have hsame : ∀ r r', set_on_conflict now device r = some r' →
        decide (DevicesTable.device_id r' = some device.device_id) =
          decide (DevicesTable.device_id r = some device.device_id) := by
      intro r r' hr
      rw [(cell_of_conflict hr).2]
    have hfind := Rows.find?_of_mapM hsame hmapM
    rw [hrow, Option.bind_some, set_on_conflict, if_pos hid] at hfind
    have hids := Rows.map_of_mapM (fun _ _ hr => (cell_of_conflict hr).2) hmapM
    have hmem' : some device.device_id ∈ t'.rows.map DevicesTable.device_id := by
      rw [hids]
      exact hmem
    obtain ⟨row', hrow', hid'⟩ := List.mem_map.1 hmem'
    have hsome : (t'.rows.find? (DevicesTable.device_id · = some device.device_id)).isSome :=
      List.find?_isSome.2 ⟨row', hrow', decide_eq_true hid'⟩
    obtain ⟨found, hfound⟩ := Option.isSome_iff_exists.1 hsome
    exact ⟨found, hfind.symm.trans hfound, hfound⟩

end DevicesTable

end DevSys
