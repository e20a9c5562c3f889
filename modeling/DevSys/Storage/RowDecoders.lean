import DevSys.Lib.Cells
import DevSys.Lib.Returns
import DevSys.Storage.Devices
import DevSys.Storage.DeviceTypes
import DevSys.Storage.Recipes
import DevSys.Storage.Directory
/-!
# The decoders and the width of a row

Each decoder first tests the number of columns and then reads them by index.
Here an index past the end of the row is an outcome of its own.
-/
open Cxx Cells

namespace DevSys.RowDecoders

abbrev Decoded (α : Type) := Except (ReadError Exn) α

/-- A flag behind a test of the number of columns. -/
def flag (s : Str) : Except Exn Bool := .ok (Database.true_cell s)

/-- The integer of a cell, 0 if it has none. -/
def safe_int (s : Str) : Except Exn Int32 := .ok (Database.safe_stoi s)

def device_from_row (row : List Str) : Decoded Device :=
  if row.length < 11 then .ok {}
  else do
    let device_id ← cell row 1
    let tenant_id ← cell row 2
    let product_id ← cell row 3
    let type ← lift (stoi (← cell row 4))
    let status ← lift (stoi (← cell row 5))
    let firmware_version ← cell row 6
    let mac_address ← cell row 7
    let model ← cell row 8
    let hardware_uid ← cell row 9
    let last_heartbeat_at ← cell_or row 10 0 stoll
    let activated ← cell_or row 11 false flag
    let activated_at ← cell_or row 12 0 stoll
    .ok
      { device_id, tenant_id, product_id
        type := ⟨castUInt8 type⟩
        network_status := ⟨castUInt8 status⟩
        work_status := .IDLE
        firmware_version, mac_address, model, hardware_uid, last_heartbeat_at, activated, activated_at }

def type_from_row (row : List Str) : Decoded DeviceTypeInfo :=
  if row.length < 8 then .ok {}
  else do
    let id ← lift (stoi (← cell row 0))
    let type_code ← cell row 1
    let display_name ← cell row 2
    let description ← cell row 3
    let internal_type ← lift (stoi (← cell row 4))
    let icon_url ← cell_or row 5 [] .ok
    let sort_order ← cell_or row 6 0 stoi
    let is_active ← cell_or row 7 true flag
    let created_at ← cell_or row 8 [] .ok
    let updated_at ← cell_or row 9 [] .ok
    .ok
      { id, type_code, display_name, description, internal_type, icon_url, sort_order, is_active
        created_at, updated_at }

def model_from_row (row : List Str) : Decoded DeviceModelInfo :=
  if row.length < 12 then .ok {}
  else do
    let id ← lift (stoi (← cell row 0))
    let model_code ← cell row 1
    let model_key ← cell row 2
    let type_code ← cell row 3
    let display_name ← cell row 4
    let description ← cell row 5
    let specs_json ← cell row 6
    let firmware_base ← cell row 7
    let is_active := Database.true_cell (← cell row 8)
    let sort_order ← lift (stoi (← cell row 9))
    let created_at ← cell row 10
    let updated_at ← cell row 11
    .ok
      { id, model_code, model_key, type_code, display_name, description, specs_json, firmware_base, is_active
        sort_order, created_at, updated_at }

def order_from_row (row : List Str) : Decoded Order :=
  if row.length < 6 then .ok {}
  else do
    let order_id ← cell row 1
    let tenant_id ← cell row 2
    let device_id ← cell row 3
    let recipe_id ← cell row 4
    let cup_size ← cell row 5
    let quantity ← cell_or row 6 0 safe_int
    let total_amount ← cell_or row 7 0 safe_int
    let payment_method ← cell_or row 8 [] .ok
    let status ← cell_or row 9 3 safe_int
    let failure_reason ← cell_or row 10 [] .ok
    let created_at ← cell_or row 11 ['0'] .ok
    let recipe_name ← cell_or row 12 [] .ok
    .ok
      { order_id, tenant_id, device_id, recipe_id, cup_size, quantity, total_amount, payment_method
        status := ⟨castUInt8 status⟩
        failure_reason, created_at, recipe_name }

def recipe_from_row (row : List Str) : Decoded Recipe :=
  if row.length < 8 then .ok {}
  else do
    let recipe_id ← cell row 1
    let recipe_name ← cell row 2
    let device_type ← lift (stoi (← cell row 3))
    let category ← cell row 4
    let is_active := Database.true_cell (← cell row 5)
    let version ← lift (stoi (← cell row 6))
    let description ← cell row 7
    .ok { recipe_id, recipe_name, device_type := ⟨castUInt8 device_type⟩, category, is_active, version, description }

/-- `now` replaces a time stamp that is not a row of digits. -/
def fault_from_row (now : Nat) (row : List Str) : Decoded FaultInfo :=
  if row.length < 7 then .ok {}
  else do
    let tenant_id ← cell row 1
    let device_id ← cell row 2
    let code ← lift (stoi (← cell row 3))
    let ol ← lift (stoi (← cell row 4))
    let description ← cell row 5
    let timestamp ← cell_or row 6 ['0'] .ok
    let sensor_snapshot ← cell_or row 8 [] .ok
    .ok
      { tenant_id, device_id
        code := ⟨castUInt8 code⟩
        level := if ol ≥ 3 then .ERROR else .WARNING
        description
        timestamp :=
          if timestamp = [] ∨ timestamp = ['f'] ∨ ¬timestamp.all Char.isDigit then to_string now else timestamp
        sensor_snapshot }

def firmware_from_row (row : List Str) : Decoded FirmwareVersion :=
  if row.length < 7 then .ok {}
  else do
    let version ← cell row 1
    let product_id ← cell row 2
    let download_url ← cell row 3
    let checksum_sha256 ← cell row 4
    let changelog ← cell row 5
    let force_upgrade := Database.true_cell (← cell row 6)
    let created_at ← lift (stoll (← cell row 7))
    .ok { version, product_id, download_url, checksum_sha256, changelog, force_upgrade, created_at }

def org_from_row (row : List Str) : Decoded OrgInfo :=
  if row.length < 15 then .ok {}
  else do
    let org_id ← lift (stoi (← cell row 1))
    let parent_id ← lift (stoi (← cell row 2))
    let tenant_id ← cell row 3
    let org_name ← cell row 4
    let org_type ← cell row 5
    let contact_name ← cell row 6
    let contact_phone ← cell row 7
    let contact_email ← cell row 8
    let address ← cell row 9
    let is_active := Database.true_cell (← cell row 10)
    let level ← lift (stoi (← cell row 11))
    let path ← cell row 12
    let children_count ← lift (stoi (← cell row 13))
    let created_at ← cell row 14
    let updated_at ← cell row 15
    .ok
      { org_id, parent_id, tenant_id, org_name, org_type, contact_name, contact_phone, contact_email, address
        is_active, level, path, children_count, created_at, updated_at }

def account_from_row (row : List Str) : Decoded AccountInfo :=
  if row.length < 13 then .ok {}
  else do
    let account_id ← lift (stoi (← cell row 1))
    let username ← cell row 2
    let display_name ← cell row 3
    let password_hash ← cell row 4
    let role_code ← cell row 5
    let org_id ← lift (stoi (← cell row 6))
    let org_name ← cell row 7
    let email ← cell row 8
    let phone ← cell row 9
    let is_active := Database.true_cell (← cell row 10)
    let last_login_at ← cell row 11
    let created_at ← cell row 12
    let updated_at ← cell row 13
    .ok
      { account_id, username, display_name, password_hash, role_code, org_id, org_name, email, phone
        is_active, last_login_at, created_at, updated_at }

/-!
## The same decoders

Where the row is wide enough, nothing is changed by the test of an index.
-/

theorem device_from_row_eq (row : List Str) : device_from_row row = lift (Database.device_from_row row) := by
  unfold device_from_row Database.device_from_row
  split
  · rfl
  by_cases h11 : row.length > 11
  · by_cases h12 : row.length > 12
    · simp (disch := omega) only [cell_of_lt [], cell_or_of_lt [], if_pos, flag, ok_bind, lift_bind, lift_ok]
    · simp (disch := omega) only [cell_of_lt [], cell_or_of_lt [], cell_or_of_le, if_pos, if_neg, flag, ok_bind,
        lift_bind, lift_ok]
  · simp (disch := omega) only [cell_of_lt [], cell_or_of_lt [], cell_or_of_le, if_pos, if_neg, ok_bind, lift_bind,
      lift_ok]

theorem type_from_row_eq (row : List Str) : type_from_row row = lift (DeviceRows.type_from_row row) := by
  unfold type_from_row DeviceRows.type_from_row
  split
  · rfl
  · simp (disch := omega) only [cell_of_lt [], cell_or_default, cell_or_of_lt [], flag, ok_bind, lift_bind, lift_ok]

theorem model_from_row_eq (row : List Str) : model_from_row row = lift (DeviceRows.model_from_row row) := by
  unfold model_from_row DeviceRows.model_from_row
  split
  · rfl
  · simp (disch := omega) only [cell_of_lt [], ok_bind, lift_bind, lift_ok]

theorem order_from_row_eq (row : List Str) : order_from_row row = lift (.ok (Database.order_from_row row)) := by
  unfold order_from_row Database.order_from_row
  split
  · rfl
  · simp (disch := omega) only [cell_of_lt [], ok_bind, cell_or_eq [], safe_int, ← apply_ite Except.ok, lift_ok]

theorem recipe_from_row_eq (row : List Str) : recipe_from_row row = lift (Database.recipe_from_row row) := by
  unfold recipe_from_row Database.recipe_from_row
  split
  · rfl
  · simp (disch := omega) only [cell_of_lt [], ok_bind, lift_bind, lift_ok]

theorem fault_from_row_eq (now : Nat) (row : List Str) :
    fault_from_row now row = lift (Database.fault_from_row now row) := by
  unfold fault_from_row Database.fault_from_row
  split
  · rfl
  · simp (disch := omega) only [cell_of_lt [], ok_bind, cell_or_eq [], ← apply_ite Except.ok, lift_bind, lift_ok]

theorem org_from_row_eq {row : List Str} (h : row.length ≠ 15) :
    org_from_row row = lift (DirectoryRows.org_from_row row) := by
  unfold org_from_row DirectoryRows.org_from_row
  split
  · rfl
  · simp (disch := omega) only [cell_of_lt [], ok_bind, lift_bind, lift_ok]

theorem account_from_row_eq {row : List Str} (h : row.length ≠ 13) :
    account_from_row row = lift (DirectoryRows.account_from_row row) := by
  unfold account_from_row DirectoryRows.account_from_row
  split
  · rfl
  · simp (disch := omega) only [cell_of_lt [], ok_bind, lift_bind, lift_ok]

/-! ## Rows that are one column short -/

theorem firmware_from_row_inside_iff (row : List Str) : Inside (firmware_from_row row) ↔ row.length ≠ 7 := by
  unfold firmware_from_row
  by_cases hshort : row.length < 7
  · rw [if_pos hshort]
    exact iff_of_true (inside_ok _) (by omega)
  rw [if_neg hshort]
  by_cases hlen : row.length = 7
  · simp (disch := omega) only [inside_cell [], not_inside_cell, hlen, ne_eq, not_true]
  · simp (disch := omega) only [inside_cell [], inside_lift, inside_ok, implies_true, hlen, ne_eq, not_false_eq_true]

/-- The numbers before the last column are read before it. -/
theorem org_from_row_inside_iff (row : List Str) :
    Inside (org_from_row row) ↔ ¬(row.length = 15 ∧ ∀ i ∈ [1, 2, 11, 13], IsIntText 32 (row.getD i [])) := by
  by_cases hlen : row.length = 15
  · unfold org_from_row
    rw [if_neg (by omega)]
    simp (disch := omega) only [inside_cell [], inside_lift, not_inside_cell, forall_ok_iff, stoi_returns_iff]
    rw [and_iff_right hlen]
    simp only [List.forall_mem_cons, List.not_mem_nil, false_implies, implies_true, and_true, not_and]
  · exact iff_of_true (inside_of_eq_lift (org_from_row_eq hlen)) fun h => hlen h.1

theorem account_from_row_inside_iff (row : List Str) :
    Inside (account_from_row row) ↔ ¬(row.length = 13 ∧ ∀ i ∈ [1, 6], IsIntText 32 (row.getD i [])) := by
  by_cases hlen : row.length = 13
  · unfold account_from_row
    rw [if_neg (by omega)]
    simp (disch := omega) only [inside_cell [], inside_lift, not_inside_cell, forall_ok_iff, stoi_returns_iff]
    rw [and_iff_right hlen]
    simp only [List.forall_mem_cons, List.not_mem_nil, false_implies, implies_true, and_true, not_and]
  · exact iff_of_true (inside_of_eq_lift (account_from_row_eq hlen)) fun h => hlen h.1

/-! ## All decoders -/

inductive RowDecoder where
  | device
  | type
  | model
  | order
  | recipe
  | fault
  | firmware
  | org
  | account
  deriving DecidableEq, Repr

/-- The decoder reads only columns that the row has. -/
def RowDecoder.StaysInside (now : Nat) (row : List Str) : RowDecoder → Prop
  | device => Inside (device_from_row row)
  | type => Inside (type_from_row row)
  | model => Inside (model_from_row row)
  | order => Inside (order_from_row row)
  | recipe => Inside (recipe_from_row row)
  | fault => Inside (fault_from_row now row)
  | firmware => Inside (firmware_from_row row)
  | org => Inside (org_from_row row)
  | account => Inside (account_from_row row)

/-- The row has as many columns as the test asks for, one less than are read,
and no number that is read before is refused. -/
def RowDecoder.OneShort (row : List Str) : RowDecoder → Prop
  | firmware => row.length = 7
  | org => row.length = 15 ∧ ∀ i ∈ [1, 2, 11, 13], IsIntText 32 (row.getD i [])
  | account => row.length = 13 ∧ ∀ i ∈ [1, 6], IsIntText 32 (row.getD i [])
  | _ => False

/-- Three of the tests are one column short; the others cover all reads that
have no test of their own. -/
theorem row_decoder_inside_iff (decoder : RowDecoder) (now : Nat) (row : List Str) :
    decoder.StaysInside now row ↔ ¬decoder.OneShort row := by
  cases decoder with
  | device => exact iff_of_true (inside_of_eq_lift (device_from_row_eq row)) not_false
  | type => exact iff_of_true (inside_of_eq_lift (type_from_row_eq row)) not_false
  | model => exact iff_of_true (inside_of_eq_lift (model_from_row_eq row)) not_false
  | order => exact iff_of_true (inside_of_eq_lift (order_from_row_eq row)) not_false
  | recipe => exact iff_of_true (inside_of_eq_lift (recipe_from_row_eq row)) not_false
  | fault => exact iff_of_true (inside_of_eq_lift (fault_from_row_eq now row)) not_false
  | firmware => exact firmware_from_row_inside_iff row
  | org => exact org_from_row_inside_iff row
  | account => exact account_from_row_inside_iff row

/-- A version without its time, an organisation and an account without their
second time. -/
def firmware_row : List Str :=
  [['1'], "1.0.0".toList, "dev-sys".toList, "http://ota".toList, "ab".toList, [], ['f']]

def org_row : List Str :=
  [['1'], ['1'], ['0'], "default".toList, "Acme".toList, "company".toList, [], [], [], [], ['t'], ['1'], "/1/".toList,
    ['0'], "2024".toList]

def account_row : List Str :=
  [['1'], ['1'], "admin".toList, [], [], "admin".toList, ['1'], "Acme".toList, [], [], ['t'], [], "2024".toList]

/-- The three decoders read a column past the end, of rows whose numbers are well formed. -/
theorem rows_are_overrun :
    (∀ now, ¬RowDecoder.firmware.StaysInside now firmware_row) ∧
      (∀ now, ¬RowDecoder.org.StaysInside now org_row) ∧
      ∀ now, ¬RowDecoder.account.StaysInside now account_row := by
  refine ⟨?_, ?_, ?_⟩
  · intro now hinside
    exact hinside 7 rfl
  · intro now hinside
    exact hinside 15 rfl
  · intro now hinside
    exact hinside 13 rfl

end DevSys.RowDecoders
