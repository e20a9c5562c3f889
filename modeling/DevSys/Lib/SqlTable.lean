import DevSys.Lib.Strings
/-!
# Tables, inserts by column name, rows in column order

What a PostgreSQL server makes of `INSERT INTO t (names) VALUES (values)` and
of `SELECT *`: every cell has a text form, columns that are not named take
their default, and a value outside its column's type fails the statement.
-/
open Cxx

namespace Sql

inductive ColType where
  | integer
  | bigint
  | text
  | boolean
  deriving DecidableEq, Repr

/-- `dflt` is the text form of the default, if the column has one. -/
structure Column (κ : Type) where
  name : κ
  type : ColType
  dflt : Option Str := none

/-- A string literal with this contents, a spliced decimal numeral, or a boolean. -/
inductive Expr where
  | str (s : Str)
  | num (numeral : Str)
  | bool (b : Bool)
  deriving DecidableEq, Repr

/-- The text form of a decimal numeral in a column of `bits` bits. -/
def numeral (bits : Nat) (t : Str) : Option Str :=
  if IsDecimal t ∧ -2 ^ (bits - 1) ≤ decimalVal t ∧ decimalVal t < 2 ^ (bits - 1) then some (to_string (decimalVal t))
  else none

/-- The text form of a stored value; `none` fails the statement. A text has no NUL. -/
def stored : ColType → Expr → Option Str
  | .text, .str s => if '\x00' ∈ s then none else some s
  | .integer, .num t => numeral 32 t
  | .bigint, .num t => numeral 64 t
  | .boolean, .bool b => some (if b then ['t'] else ['f'])
  | _, _ => none

section Insert
variable {κ : Type} [DecidableEq κ]

/-- The cells of an inserted row, in column order. -/
def cells (columns : List (Column κ)) (values : List (κ × Expr)) : List (Option Str) :=
  columns.map fun c => match values.find? (·.1 = c.name) with
    | some v => stored c.type v.2
    | none => c.dflt

/-- All cells of a row, if every one is a value. -/
def allCells : List (Option Str) → Option (List Str)
  | [] => some []
  | none :: _ => none
  | some cell :: rest => (allCells rest).map (cell :: ·)

/-- The row an `INSERT` stores behind its serial id, as `SELECT *` returns it. -/
def insertRow (id : Nat) (columns : List (Column κ)) (values : List (κ × Expr)) : Option (List Str) :=
  (allCells (cells columns values)).map (to_string id :: ·)

/-- The row behind an `UPDATE`, which keeps the cells of the columns it does not name. -/
def updateRow (columns : List (Column κ)) (values : List (κ × Expr)) (row : List Str) : Option (List Str) :=
  (allCells (List.zipWith (fun c old => match values.find? (·.1 = c.name) with
    | some v => stored c.type v.2
    | none => some old) columns row.tail)).map ((row.getD 0 []) :: ·)

/-- The cell of a column. -/
def cell (columns : List (Column κ)) (row : List Str) (name : κ) : Option Str :=
  ((columns.zip row.tail).find? (·.1.name = name)).map (·.2)

end Insert

theorem isSome_of_allCells {cs : List (Option Str)} {row : List Str} (h : allCells cs = some row) :
    ∀ c ∈ cs, c.isSome := by
  induction cs generalizing row with
  | nil => simp
  | cons c cs ih =>
    cases c with
    | none => cases h
    | some cell =>
      obtain ⟨rest, hrest, -⟩ := Option.map_eq_some_iff.1 h
      exact List.forall_mem_cons.2 ⟨rfl, ih hrest⟩

theorem length_of_allCells {cs : List (Option Str)} {row : List Str} (h : allCells cs = some row) :
    row.length = cs.length := by
  induction cs generalizing row with
  | nil =>
    obtain rfl := Option.some.inj h
    rfl
  | cons c cs ih =>
    cases c with
    | none => cases h
    | some cell =>
      obtain ⟨rest, hrest, rfl⟩ := Option.map_eq_some_iff.1 h
      rw [List.length_cons, List.length_cons, ih hrest]

theorem length_of_updateRow {κ : Type} [DecidableEq κ] {columns : List (Column κ)} {values : List (κ × Expr)}
    {row row' : List Str} (h : updateRow columns values row = some row') (hlen : row.length = columns.length + 1) :
    row'.length = row.length := by
  obtain ⟨cells, hcells, rfl⟩ := Option.map_eq_some_iff.1 h
  have htail : row.tail.length = columns.length := by rw [List.length_tail, hlen, Nat.add_sub_cancel]
  rw [List.length_cons, length_of_allCells hcells, List.length_zipWith, htail, Nat.min_self, hlen]

/-- An update leaves the cell of a column that it does not name. -/
theorem cell_of_updateRow {κ : Type} [DecidableEq κ] {columns : List (Column κ)} {values : List (κ × Expr)}
    {row row' : List Str} (h : updateRow columns values row = some row') {name : κ}
    (hname : values.find? (·.1 = name) = none) : cell columns row' name = cell columns row name := by
  obtain ⟨cells, hcells, rfl⟩ := Option.map_eq_some_iff.1 h
  rw [cell, cell, List.tail_cons]
  clear h
  generalize row.tail = olds at hcells ⊢
  induction columns generalizing olds cells with
  | nil => rfl
  | cons c columns ih =>
    cases olds with
    | nil =>
      obtain rfl := Option.some.inj hcells
      rfl
    | cons old olds =>
      rw [List.zipWith_cons_cons] at hcells
      generalize hfirst : (match values.find? (·.1 = c.name) with
        | some v => stored c.type v.2
        | none => some old) = first at hcells
      cases first with
      | none => cases hcells
      | some value =>
        obtain ⟨rest, hrest, rfl⟩ := Option.map_eq_some_iff.1 hcells
        rw [List.zip_cons_cons, List.zip_cons_cons]
        by_cases hc : c.name = name
        · rw [hc, hname] at hfirst
          obtain rfl := Option.some.inj hfirst
          rw [List.find?_cons_of_pos (by simpa using hc), List.find?_cons_of_pos (by simpa using hc)]
        · rw [List.find?_cons_of_neg (by simpa using hc), List.find?_cons_of_neg (by simpa using hc)]
          exact ih rest olds hrest

/-! ## Single cells -/

/-- A numeral within the range of a `bigint`. -/
def IsBigint (t : Str) : Prop := IsDecimal t ∧ -2 ^ 63 ≤ decimalVal t ∧ decimalVal t < 2 ^ 63

instance (t : Str) : Decidable (IsBigint t) := inferInstanceAs (Decidable (_ ∧ _))

theorem stored_text {s : Str} (h : '\x00' ∉ s) : stored .text (.str s) = some s := if_neg h

theorem stored_text_isSome_iff (s : Str) : (stored .text (.str s)).isSome ↔ '\x00' ∉ s := by
  constructor
  · intro h hs
    rw [show stored .text (.str s) = none from if_pos hs] at h
    cases h
  · intro h
    rw [stored_text h]
    rfl

theorem stored_bigint {t : Str} (h : IsBigint t) : stored .bigint (.num t) = some (to_string (decimalVal t)) := if_pos h

theorem stored_bigint_isSome_iff (t : Str) : (stored .bigint (.num t)).isSome ↔ IsBigint t := by
  constructor
  · intro h
    by_contra ht
    rw [show stored .bigint (.num t) = none from if_neg ht] at h
    cases h
  · intro h
    rw [stored_bigint h]
    rfl

/-- A printed number that fits is stored as it is. -/
theorem stored_integer (n : Int) (h : -2 ^ 31 ≤ n ∧ n < 2 ^ 31) :
    stored .integer (.num (to_string n)) = some (to_string n) := by
  have hn := decimalVal_to_string n
  rw [show stored .integer (.num (to_string n)) = some (to_string (decimalVal (to_string n))) from
    if_pos ⟨isDecimal_to_string n, by rwa [hn]⟩, hn]

theorem stored_int32 (n : Int32) : stored .integer (.num (to_string n.toInt)) = some (to_string n.toInt) :=
  stored_integer n.toInt ⟨n.minValue_le_toInt, n.toInt_lt⟩

theorem stored_uint8 (n : UInt8) : stored .integer (.num (to_string n.toNat)) = some (to_string n.toNat) := by
  have h := n.toNat_lt
  exact stored_integer n.toNat ⟨by omega, by omega⟩

theorem stored_bool (b : Bool) : stored .boolean (.bool b) = some (if b then ['t'] else ['f']) := rfl

end Sql
