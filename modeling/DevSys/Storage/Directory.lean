import DevSys.Lib.SqlTable
import DevSys.Organization.Accounts
import DevSys.Organization.Organizations
/-!
# `Database`: organisations and accounts

Both tables as their `CREATE TABLE` lists the columns behind the serial `id`,
the statements by column name and the decoders by column position. Each row
comes back as the record that was written, so that the tables are the lists of
records the managers are stated with.
-/
open Cxx Sql

namespace DevSys

namespace Database

/-- Whether a cell stands for true. -/
def true_cell (s : Str) : Bool := s = ['t'] || s = "true".toList || s = "TRUE".toList || s = ['1']

theorem true_cell_bool (b : Bool) : true_cell (if b then ['t'] else ['f']) = b := by cases b <;> decide

theorem stoi_int32 (n : Int32) : stoi (to_string n.toInt) = .ok n := by
  have h := stoi_to_string n [] (by simp)
  rwa [List.append_nil] at h

end Database

namespace DirectoryRows
open Database

/-! ## Organisations -/

inductive OrganizationsColumn where
  | org_id
  | parent_id
  | tenant_id
  | org_name
  | org_type
  | contact_name
  | contact_phone
  | contact_email
  | address
  | is_active
  | level
  | path
  | children_count
  | created_at
  | updated_at
  deriving DecidableEq, Repr

def create_organizations_table : List (Column OrganizationsColumn) :=
  [ ⟨.org_id, .integer, none⟩,
    ⟨.parent_id, .integer, some ['0']⟩,
    ⟨.tenant_id, .text, none⟩,
    ⟨.org_name, .text, none⟩,
    ⟨.org_type, .text, some "department".toList⟩,
    ⟨.contact_name, .text, some []⟩,
    ⟨.contact_phone, .text, some []⟩,
    ⟨.contact_email, .text, some []⟩,
    ⟨.address, .text, some []⟩,
    ⟨.is_active, .boolean, some ['t']⟩,
    ⟨.level, .integer, some ['0']⟩,
    ⟨.path, .text, some []⟩,
    ⟨.children_count, .integer, some ['0']⟩,
    ⟨.created_at, .text, some []⟩,
    ⟨.updated_at, .text, some []⟩ ]

/-- The row stored for an organisation, if the statement succeeds. -/
def insert_org (id : Nat) (info : OrgInfo) : Option (List Str) :=
  insertRow id create_organizations_table
    [ (.org_id, .num (to_string info.org_id.toInt)),
      (.parent_id, .num (to_string info.parent_id.toInt)),
      (.tenant_id, .str info.tenant_id),
      (.org_name, .str info.org_name),
      (.org_type, .str info.org_type),
      (.contact_name, .str info.contact_name),
      (.contact_phone, .str info.contact_phone),
      (.contact_email, .str info.contact_email),
      (.address, .str info.address),
      (.is_active, .bool info.is_active),
      (.level, .num (to_string info.level.toInt)),
      (.path, .str info.path),
      (.children_count, .num (to_string info.children_count.toInt)),
      (.created_at, .str info.created_at),
      (.updated_at, .str info.updated_at) ]

/-- What becomes of a row, if the statement succeeds; other organisations stay. -/
def update_org_db (info : OrgInfo) (row : List Str) : Option (List Str) :=
  if cell create_organizations_table row .org_id ≠ some (to_string info.org_id.toInt) then some row
  else
    updateRow create_organizations_table
      [ (.parent_id, .num (to_string info.parent_id.toInt)),
        (.tenant_id, .str info.tenant_id),
        (.org_name, .str info.org_name),
        (.org_type, .str info.org_type),
        (.contact_name, .str info.contact_name),
        (.contact_phone, .str info.contact_phone),
        (.contact_email, .str info.contact_email),
        (.address, .str info.address),
        (.is_active, .bool info.is_active),
        (.level, .num (to_string info.level.toInt)),
        (.path, .str info.path),
        (.children_count, .num (to_string info.children_count.toInt)),
        (.updated_at, .str info.updated_at) ] row

/-- `SELECT *` gives sixteen cells; the test for fifteen is the source's. -/
def org_from_row (row : List Str) : Except Exn OrgInfo :=
  if row.length < 15 then .ok {}
  else do
    let org_id ← stoi (row.getD 1 [])
    let parent_id ← stoi (row.getD 2 [])
    let level ← stoi (row.getD 11 [])
    let children_count ← stoi (row.getD 13 [])
    .ok
      { org_id := org_id
        parent_id := parent_id
        tenant_id := row.getD 3 []
        org_name := row.getD 4 []
        org_type := row.getD 5 []
        contact_name := row.getD 6 []
        contact_phone := row.getD 7 []
        contact_email := row.getD 8 []
        address := row.getD 9 []
        is_active := true_cell (row.getD 10 [])
        level := level
        path := row.getD 12 []
        children_count := children_count
        created_at := row.getD 14 []
        updated_at := row.getD 15 [] }

/-! ## Accounts -/

inductive AccountsColumn where
  | account_id
  | username
  | display_name
  | password_hash
  | role_code
  | org_id
  | org_name
  | email
  | phone
  | is_active
  | last_login_at
  | created_at
  | updated_at
  deriving DecidableEq, Repr

def create_accounts_table : List (Column AccountsColumn) :=
  [ ⟨.account_id, .integer, none⟩,
    ⟨.username, .text, none⟩,
    ⟨.display_name, .text, some []⟩,
    ⟨.password_hash, .text, some []⟩,
    ⟨.role_code, .text, some "viewer".toList⟩,
    ⟨.org_id, .integer, some ['0']⟩,
    ⟨.org_name, .text, some []⟩,
    ⟨.email, .text, some []⟩,
    ⟨.phone, .text, some []⟩,
    ⟨.is_active, .boolean, some ['t']⟩,
    ⟨.last_login_at, .text, some []⟩,
    ⟨.created_at, .text, some []⟩,
    ⟨.updated_at, .text, some []⟩ ]

/-- The row stored for an account, if the statement succeeds. -/
def insert_account (id : Nat) (info : AccountInfo) : Option (List Str) :=
  insertRow id create_accounts_table
    [ (.account_id, .num (to_string info.account_id.toInt)),
      (.username, .str info.username),
      (.display_name, .str info.display_name),
      (.password_hash, .str info.password_hash),
      (.role_code, .str info.role_code),
      (.org_id, .num (to_string info.org_id.toInt)),
      (.org_name, .str info.org_name),
      (.email, .str info.email),
      (.phone, .str info.phone),
      (.is_active, .bool info.is_active),
      (.last_login_at, .str info.last_login_at),
      (.created_at, .str info.created_at),
      (.updated_at, .str info.updated_at) ]

def account_from_row (row : List Str) : Except Exn AccountInfo :=
  if row.length < 13 then .ok {}
  else do
    let account_id ← stoi (row.getD 1 [])
    let org_id ← stoi (row.getD 6 [])
    .ok
      { account_id := account_id
        username := row.getD 2 []
        display_name := row.getD 3 []
        password_hash := row.getD 4 []
        role_code := row.getD 5 []
        org_id := org_id
        org_name := row.getD 7 []
        email := row.getD 8 []
        phone := row.getD 9 []
        is_active := true_cell (row.getD 10 [])
        last_login_at := row.getD 11 []
        created_at := row.getD 12 []
        updated_at := row.getD 13 [] }

/-! ## The rows -/

/-- The texts of an organisation. -/
def orgTexts (o : OrgInfo) : List Str :=
  [o.tenant_id, o.org_name, o.org_type, o.contact_name, o.contact_phone, o.contact_email, o.address, o.path,
    o.created_at, o.updated_at]

/-- The row of an organisation, in column order. -/
def orgRow (id : Str) (o : OrgInfo) : List Str :=
  [id, to_string o.org_id.toInt, to_string o.parent_id.toInt, o.tenant_id, o.org_name, o.org_type, o.contact_name,
    o.contact_phone, o.contact_email, o.address, if o.is_active then ['t'] else ['f'], to_string o.level.toInt,
    o.path, to_string o.children_count.toInt, o.created_at, o.updated_at]

theorem org_from_orgRow (id : Str) (o : OrgInfo) : org_from_row (orgRow id o) = .ok o := by
  have hrow : org_from_row (orgRow id o) = (do
      let org_id ← stoi (to_string o.org_id.toInt)
      let parent_id ← stoi (to_string o.parent_id.toInt)
      let level ← stoi (to_string o.level.toInt)
      let children_count ← stoi (to_string o.children_count.toInt)
      .ok { o with org_id, parent_id, level, children_count,
                   is_active := true_cell (if o.is_active then ['t'] else ['f']) }) := rfl
  rw [hrow, stoi_int32, stoi_int32, stoi_int32, stoi_int32, true_cell_bool]
  rfl

theorem insert_org_eq (id : Nat) (o : OrgInfo) :
    insert_org id o = (allCells [stored .integer (.num (to_string o.org_id.toInt)),
      stored .integer (.num (to_string o.parent_id.toInt)), stored .text (.str o.tenant_id),
      stored .text (.str o.org_name), stored .text (.str o.org_type), stored .text (.str o.contact_name),
      stored .text (.str o.contact_phone), stored .text (.str o.contact_email), stored .text (.str o.address),
      stored .boolean (.bool o.is_active), stored .integer (.num (to_string o.level.toInt)),
      stored .text (.str o.path), stored .integer (.num (to_string o.children_count.toInt)),
      stored .text (.str o.created_at), stored .text (.str o.updated_at)]).map (to_string id :: ·) := rfl

theorem insert_org_of_plain (id : Nat) {o : OrgInfo} (h : ∀ s ∈ orgTexts o, '\x00' ∉ s) :
    insert_org id o = some (orgRow (to_string id) o) := by
  simp only [orgTexts, List.forall_mem_cons] at h
  obtain ⟨h1, h2, h3, h4, h5, h6, h7, h8, h9, h10, -⟩ := h
  rw [insert_org_eq, stored_int32, stored_int32, stored_text h1, stored_text h2, stored_text h3, stored_text h4,
    stored_text h5, stored_text h6, stored_text h7, stored_bool, stored_int32, stored_text h8, stored_int32,
    stored_text h9, stored_text h10]
  rfl

theorem plain_of_insert_org {id : Nat} {o : OrgInfo} {row : List Str} (h : insert_org id o = some row) :
    ∀ s ∈ orgTexts o, '\x00' ∉ s := by
  rw [insert_org_eq] at h
  obtain ⟨rest, hrest, -⟩ := Option.map_eq_some_iff.1 h
  have hsome := isSome_of_allCells hrest
  simp only [List.forall_mem_cons, stored_text_isSome_iff] at hsome
  obtain ⟨-, -, h1, h2, h3, h4, h5, h6, h7, -, -, h8, -, h9, h10, -⟩ := hsome
  simp only [orgTexts, List.forall_mem_cons]
  exact ⟨h1, h2, h3, h4, h5, h6, h7, h8, h9, h10, by simp⟩

/-- An update keeps the cells of the two columns that it does not name. -/
theorem update_org_db_eq (o : OrgInfo) {row : List Str} (hlen : row.length = 16)
    (hid : cell create_organizations_table row .org_id = some (to_string o.org_id.toInt))
    (hcreated : cell create_organizations_table row .created_at = some o.created_at) :
    update_org_db o row = (allCells [some (to_string o.org_id.toInt),
      stored .integer (.num (to_string o.parent_id.toInt)), stored .text (.str o.tenant_id),
      stored .text (.str o.org_name), stored .text (.str o.org_type), stored .text (.str o.contact_name),
      stored .text (.str o.contact_phone), stored .text (.str o.contact_email), stored .text (.str o.address),
      stored .boolean (.bool o.is_active), stored .integer (.num (to_string o.level.toInt)),
      stored .text (.str o.path), stored .integer (.num (to_string o.children_count.toInt)),
      some o.created_at, stored .text (.str o.updated_at)]).map (row.getD 0 [] :: ·) := by
  rw [update_org_db, if_neg (not_not.2 hid)]
  match row, hlen with
  | [c0, c1, c2, c3, c4, c5, c6, c7, c8, c9, c10, c11, c12, c13, c14, c15], _ =>
    obtain rfl : c1 = to_string o.org_id.toInt := Option.some.inj hid
    obtain rfl : c14 = o.created_at := Option.some.inj hcreated
    rfl

/-- The texts that an update writes. -/
def updatedTexts (o : OrgInfo) : List Str :=
  [o.tenant_id, o.org_name, o.org_type, o.contact_name, o.contact_phone, o.contact_email, o.address, o.path,
    o.updated_at]

theorem update_org_db_of_plain {o : OrgInfo} {row : List Str} (hlen : row.length = 16)
    (hid : cell create_organizations_table row .org_id = some (to_string o.org_id.toInt))
    (hcreated : cell create_organizations_table row .created_at = some o.created_at)
    (h : ∀ s ∈ updatedTexts o, '\x00' ∉ s) : update_org_db o row = some (orgRow (row.getD 0 []) o) := by
  simp only [updatedTexts, List.forall_mem_cons] at h
  obtain ⟨h1, h2, h3, h4, h5, h6, h7, h8, h9, -⟩ := h
  rw [update_org_db_eq o hlen hid hcreated, stored_int32, stored_text h1, stored_text h2, stored_text h3,
    stored_text h4, stored_text h5, stored_text h6, stored_text h7, stored_bool, stored_int32, stored_text h8,
    stored_int32, stored_text h9]
  rfl

theorem plain_of_update_org_db {o : OrgInfo} {row row' : List Str} (hlen : row.length = 16)
    (hid : cell create_organizations_table row .org_id = some (to_string o.org_id.toInt))
    (hcreated : cell create_organizations_table row .created_at = some o.created_at)
    (h : update_org_db o row = some row') : ∀ s ∈ updatedTexts o, '\x00' ∉ s := by
  rw [update_org_db_eq o hlen hid hcreated] at h
  obtain ⟨rest, hrest, -⟩ := Option.map_eq_some_iff.1 h
  have hsome := isSome_of_allCells hrest
  simp only [List.forall_mem_cons, stored_text_isSome_iff] at hsome
  obtain ⟨-, -, h1, h2, h3, h4, h5, h6, h7, -, -, h8, -, -, h9, -⟩ := hsome
  simp only [updatedTexts, List.forall_mem_cons]
  exact ⟨h1, h2, h3, h4, h5, h6, h7, h8, h9, by simp⟩

/-- The texts of an account. -/
def accountTexts (a : AccountInfo) : List Str :=
  [a.username, a.display_name, a.password_hash, a.role_code, a.org_name, a.email, a.phone, a.last_login_at,
    a.created_at, a.updated_at]

/-- The row of an account, in column order. -/
def accountRow (id : Str) (a : AccountInfo) : List Str :=
  [id, to_string a.account_id.toInt, a.username, a.display_name, a.password_hash, a.role_code,
    to_string a.org_id.toInt, a.org_name, a.email, a.phone, if a.is_active then ['t'] else ['f'], a.last_login_at,
    a.created_at, a.updated_at]

theorem account_from_accountRow (id : Str) (a : AccountInfo) : account_from_row (accountRow id a) = .ok a := by
  have hrow : account_from_row (accountRow id a) = (do
      let account_id ← stoi (to_string a.account_id.toInt)
      let org_id ← stoi (to_string a.org_id.toInt)
      .ok { a with account_id, org_id, is_active := true_cell (if a.is_active then ['t'] else ['f']) }) := rfl
  rw [hrow, stoi_int32, stoi_int32, true_cell_bool]
  rfl

theorem insert_account_eq (id : Nat) (a : AccountInfo) :
    insert_account id a = (allCells [stored .integer (.num (to_string a.account_id.toInt)),
      stored .text (.str a.username), stored .text (.str a.display_name), stored .text (.str a.password_hash),
      stored .text (.str a.role_code), stored .integer (.num (to_string a.org_id.toInt)),
      stored .text (.str a.org_name), stored .text (.str a.email), stored .text (.str a.phone),
      stored .boolean (.bool a.is_active), stored .text (.str a.last_login_at), stored .text (.str a.created_at),
      stored .text (.str a.updated_at)]).map (to_string id :: ·) := rfl

theorem insert_account_of_plain (id : Nat) {a : AccountInfo} (h : ∀ s ∈ accountTexts a, '\x00' ∉ s) :
    insert_account id a = some (accountRow (to_string id) a) := by
  simp only [accountTexts, List.forall_mem_cons] at h
  obtain ⟨h1, h2, h3, h4, h5, h6, h7, h8, h9, h10, -⟩ := h
  rw [insert_account_eq, stored_int32, stored_text h1, stored_text h2, stored_text h3, stored_text h4, stored_int32,
    stored_text h5, stored_text h6, stored_text h7, stored_bool, stored_text h8, stored_text h9, stored_text h10]
  rfl

theorem plain_of_insert_account {id : Nat} {a : AccountInfo} {row : List Str} (h : insert_account id a = some row) :
    ∀ s ∈ accountTexts a, '\x00' ∉ s := by
  rw [insert_account_eq] at h
  obtain ⟨rest, hrest, -⟩ := Option.map_eq_some_iff.1 h
  have hsome := isSome_of_allCells hrest
  simp only [List.forall_mem_cons, stored_text_isSome_iff] at hsome
  obtain ⟨-, h1, h2, h3, h4, -, h5, h6, h7, -, h8, h9, h10, -⟩ := hsome
  simp only [accountTexts, List.forall_mem_cons]
  exact ⟨h1, h2, h3, h4, h5, h6, h7, h8, h9, h10, by simp⟩

/-! ## What comes back -/

/-- A statement that writes one row, and only for plain texts. -/
theorem written_iff {α : Type} {written : Option (List Str)} {plain : Prop} {row : List Str}
    {decode : List Str → Except Exn α} {record : α} (hwritten : plain → written = some row)
    (hplain : ∀ {row'}, written = some row' → plain) (hdecode : decode row = .ok record) :
    (written.isSome ↔ plain) ∧ ∀ row' ∈ written, decode row' = .ok record := by
  refine ⟨⟨fun h => ?_, fun h => ?_⟩, fun row' hrow => ?_⟩
  · obtain ⟨row', hrow⟩ := Option.isSome_iff_exists.1 h
    exact hplain hrow
  · rw [hwritten h]
    rfl
  · have hrow' := (hwritten (hplain hrow)).symm.trans hrow
    rw [← Option.some.inj hrow']
    exact hdecode

/-- Every row that is written decodes to the record it was written from, and a
row is written as long as no text has a NUL. -/
theorem directory_round_trip :
    (∀ id o, ((insert_org id o).isSome ↔ ∀ s ∈ orgTexts o, '\x00' ∉ s) ∧
      ∀ row ∈ insert_org id o, org_from_row row = .ok o) ∧
    (∀ id a, ((insert_account id a).isSome ↔ ∀ s ∈ accountTexts a, '\x00' ∉ s) ∧
      ∀ row ∈ insert_account id a, account_from_row row = .ok a) ∧
    ∀ o row, row.length = 16 → cell create_organizations_table row .org_id = some (to_string o.org_id.toInt) →
      cell create_organizations_table row .created_at = some o.created_at →
      ((update_org_db o row).isSome ↔ ∀ s ∈ updatedTexts o, '\x00' ∉ s) ∧
      ∀ row' ∈ update_org_db o row, org_from_row row' = .ok o := by
  refine ⟨fun id o => ?_, fun id a => ?_, fun o row hlen hid hcreated => ?_⟩
  · exact written_iff (insert_org_of_plain id) plain_of_insert_org (org_from_orgRow _ o)
  · exact written_iff (insert_account_of_plain id) plain_of_insert_account (account_from_accountRow _ a)
  · exact written_iff (update_org_db_of_plain hlen hid hcreated) (plain_of_update_org_db hlen hid hcreated)
      (org_from_orgRow _ o)

/-- An organisation is renamed in the row it was inserted as. -/
theorem directory_round_trip_renamed :
    let o : OrgInfo := { org_id := 7, tenant_id := "acme".toList, created_at := "2024-07-01".toList }
    ∀ row' ∈ update_org_db { o with org_name := "Acme".toList } (orgRow ['1'] o),
      org_from_row row' = .ok { o with org_name := "Acme".toList } :=
  (directory_round_trip.2.2 _ _ rfl rfl rfl).2

/-! ## The tables -/

/-- The rows of a table of records. -/
def Holds {α : Type} (rowOf : Str → α → List Str) (rows : List (List Str)) (t : List α) : Prop :=
  List.Forall₂ (fun row record => ∃ id, row = rowOf id record) rows t

section
variable {α : Type} {rowOf : Str → α → List Str} {rows : List (List Str)} {t : List α}

/-- What `SELECT *` yields is the records. -/
theorem Holds.decode {decode : List Str → Except Exn α} (hdecode : ∀ id record, decode (rowOf id record) = .ok record)
    (h : Holds rowOf rows t) : rows.map decode = t.map .ok := by
  induction h with
  | nil => rfl
  | cons hrow _ ih =>
    obtain ⟨id, rfl⟩ := hrow
    rw [List.map_cons, List.map_cons, hdecode, ih]

theorem Holds.append (h : Holds rowOf rows t) (id : Str) (record : α) :
    Holds rowOf (rows ++ [rowOf id record]) (t ++ [record]) :=
  List.rel_append h (.cons ⟨id, rfl⟩ .nil)

end

/-- A new organisation, unless a `UNIQUE` column refuses it. -/
theorem holds_insert_org {rows : List (List Str)} {t : List OrgInfo} (h : Holds orgRow rows t) {id : Nat} {o : OrgInfo}
    {row : List Str} (hrow : insert_org id o = some row) (hid : o.org_id ∉ t.map OrgInfo.org_id)
    (htenant : ¬t.any (·.tenant_id = o.tenant_id)) : Holds orgRow (rows ++ [row]) (Database.insert_org o t) := by
  obtain rfl := Option.some.inj ((insert_org_of_plain id (plain_of_insert_org hrow)).symm.trans hrow)
  rw [Database.insert_org, if_neg htenant, Rows.insert_of_fresh hid]
  exact h.append _ o

theorem holds_insert_account {rows : List (List Str)} {t : List AccountInfo} (h : Holds accountRow rows t) {id : Nat}
    {a : AccountInfo} {row : List Str} (hrow : insert_account id a = some row)
    (hid : a.account_id ∉ t.map AccountInfo.account_id) :
    Holds accountRow (rows ++ [row]) (Database.insert_account a t) := by
  obtain rfl := Option.some.inj ((insert_account_of_plain id (plain_of_insert_account hrow)).symm.trans hrow)
  rw [Database.insert_account, Rows.insert_of_fresh hid]
  exact h.append _ a

/-- An update of one row, by the record behind it. -/
theorem update_org_db_orgRow {info : OrgInfo} (h : ∀ s ∈ updatedTexts info, '\x00' ∉ s) (id : Str) (o : OrgInfo) :
    update_org_db info (orgRow id o) = some (orgRow id (if o.org_id = info.org_id then
      { info with org_id := o.org_id, created_at := o.created_at } else o)) := by
  by_cases hid : o.org_id = info.org_id
  · rw [if_pos hid]
    have hcell : cell create_organizations_table (orgRow id o) .org_id = some (to_string o.org_id.toInt) := rfl
    have hupdate := update_org_db_of_plain (o := { info with org_id := o.org_id, created_at := o.created_at }) rfl
      hcell rfl h
    rw [update_org_db, hid] at hupdate
    rw [update_org_db, hid]
    exact hupdate
  · have hcell : cell create_organizations_table (orgRow id o) .org_id ≠ some (to_string info.org_id.toInt) := by
      intro hcell
      have htext : to_string o.org_id.toInt = to_string info.org_id.toInt := Option.some.inj hcell
      have hread := stoi_int32 o.org_id
      rw [htext, stoi_int32] at hread
      exact hid (Except.ok.inj hread).symm
    rw [if_neg hid, update_org_db, if_pos hcell]

/-- Row by row, an update does to the table what it does to the records. -/
theorem holds_update_org_db {info : OrgInfo} (hplain : ∀ s ∈ updatedTexts info, '\x00' ∉ s) {rows : List (List Str)}
    {t : List OrgInfo} (h : Holds orgRow rows t) :
    ∃ rows', rows.mapM (update_org_db info) = some rows' ∧ Holds orgRow rows' (Database.update_org_db info t) := by
  induction h with
  | nil => exact ⟨[], rfl, .nil⟩
  | cons hrow _ ih =>
    obtain ⟨id, rfl⟩ := hrow
    obtain ⟨rows', hrows, hholds⟩ := ih
    refine ⟨_ :: rows', ?_, .cons ⟨id, rfl⟩ hholds⟩
    rw [List.mapM_cons, update_org_db_orgRow hplain, hrows]
    rfl

end DirectoryRows

end DevSys
