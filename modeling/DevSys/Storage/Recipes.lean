import DevSys.Lib.Rows
import DevSys.Storage.Directory
import DevSys.Storage.RoundTrip
/-!
# `Database`: recipes

The table has a column for everything but the steps and the cup sizes. The
statements that write to it have no caller.
-/
open Cxx Sql

namespace DevSys.Database

inductive RecipesColumn where
  | recipe_id
  | recipe_name
  | device_type
  | category
  | is_active
  | version
  | description
  deriving DecidableEq, Repr

def create_recipes_table : List (Column RecipesColumn) :=
  [ ⟨.recipe_id, .text, none⟩,
    ⟨.recipe_name, .text, none⟩,
    ⟨.device_type, .integer, some ['1']⟩,
    ⟨.category, .text, some []⟩,
    ⟨.is_active, .boolean, some ['t']⟩,
    ⟨.version, .integer, some ['1']⟩,
    ⟨.description, .text, some []⟩ ]

/-- The row of a recipe, if its values are fine. `update_recipe` is the same. -/
def insert_recipe (id : Nat) (recipe : Recipe) : Option (List Str) :=
  insertRow id create_recipes_table
    [ (.recipe_id, .str recipe.recipe_id),
      (.recipe_name, .str recipe.recipe_name),
      (.device_type, .num (to_string recipe.device_type.val.toNat)),
      (.category, .str recipe.category),
      (.is_active, .bool recipe.is_active),
      (.version, .num (to_string recipe.version.toInt)),
      (.description, .str recipe.description) ]

def recipe_from_row (row : List Str) : Except Exn Recipe :=
  if row.length < 8 then .ok {}
  else do
    let device_type ← stoi (row.getD 3 [])
    let version ← stoi (row.getD 6 [])
    .ok
      { recipe_id := row.getD 1 []
        recipe_name := row.getD 2 []
        device_type := ⟨castUInt8 device_type⟩
        category := row.getD 4 []
        is_active := true_cell (row.getD 5 [])
        version := version
        description := row.getD 7 [] }

theorem insert_recipe_eq (id : Nat) (r : Recipe) :
    insert_recipe id r = (allCells [stored .text (.str r.recipe_id), stored .text (.str r.recipe_name),
      stored .integer (.num (to_string r.device_type.val.toNat)), stored .text (.str r.category),
      stored .boolean (.bool r.is_active), stored .integer (.num (to_string r.version.toInt)),
      stored .text (.str r.description)]).map (to_string id :: ·) := rfl

/-- The row of a recipe, in column order. -/
def recipeRow (id : Nat) (r : Recipe) : List Str :=
  [to_string id, r.recipe_id, r.recipe_name, to_string r.device_type.val.toNat, r.category,
    if r.is_active then ['t'] else ['f'], to_string r.version.toInt, r.description]

theorem row_of_insert_recipe {id : Nat} {r : Recipe} {row : List Str} (h : insert_recipe id r = some row) :
    row = recipeRow id r := by
  rw [insert_recipe_eq] at h
  obtain ⟨rest, hrest, hrow⟩ := Option.map_eq_some_iff.1 h
  have hsome := isSome_of_allCells hrest
  simp only [List.forall_mem_cons, stored_text_isSome_iff] at hsome
  obtain ⟨h1, h2, -, h3, -, -, h4, -⟩ := hsome
  rw [stored_text h1, stored_text h2, stored_text h3, stored_text h4, stored_uint8, stored_int32, stored_bool] at h
  exact (Option.some.inj h).symm

/-- A recipe comes back, but for its steps and its cup sizes. -/
theorem recipe_from_insert {id : Nat} {r : Recipe} {row : List Str} (h : insert_recipe id r = some row) :
    recipe_from_row row = .ok { r with steps := [], cup_sizes := [] } := by
  rw [row_of_insert_recipe h]
  have hrow : recipe_from_row (recipeRow id r) = (do
      let device_type ← stoi (to_string r.device_type.val.toNat)
      let version ← stoi (to_string r.version.toInt)
      .ok { r with device_type := ⟨castUInt8 device_type⟩, version, steps := [], cup_sizes := []
                   is_active := true_cell (if r.is_active then ['t'] else ['f']) }) := rfl
  rw [hrow, stoi_uint8, stoi_int32, true_cell_bool]
  simp only [Bind.bind, Except.bind, castUInt8_ofNat]

end DevSys.Database

/-! ## The table -/

namespace DevSys
open Database

/-- The rows of `recipes`; no two have the same `recipe_id`. -/
structure RecipesTable where
  rows : List (List Str) := []
  unique : (rows.map (cell create_recipes_table · .recipe_id)).Nodup := by simp

namespace RecipesTable

def is_active (row : List Str) : Bool := cell create_recipes_table row .is_active = some ['t']

/-- The rows `WHERE is_active=TRUE`. -/
def list_all_recipes (t : RecipesTable) : Except Exn (List Recipe) := (t.rows.filter is_active).mapM recipe_from_row

end RecipesTable

end DevSys
