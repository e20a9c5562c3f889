import DevSys.Lib.Runs
import DevSys.Storage.Recipes
/-!
# `RecipeManager`

The recipes in memory, and the database that they are loaded from. No operation
writes to it.
-/
open Cxx Runs

namespace DevSys

structure RecipeManager where
  recipes : List Recipe := []
  device_type : DeviceType := .OTHER
  db_ : Option RecipesTable := none

namespace RecipeManager

/-! ## Operations -/

def find_by_id (recipe_id : Str) (s : RecipeManager) : Option Recipe := s.recipes.find? (·.recipe_id = recipe_id)

def create_recipe (recipe : Recipe) (s : RecipeManager) : StatusCode × RecipeManager :=
  if (s.find_by_id recipe.recipe_id).isSome then (.ORDER_INVALID_STATE, s)
  else (.OK, { s with recipes := s.recipes ++ [recipe] })

def update_recipe (recipe : Recipe) (s : RecipeManager) : StatusCode × RecipeManager :=
  match s.recipes.findIdx? (·.recipe_id = recipe.recipe_id) with
  | some i => (.OK, { s with recipes := s.recipes.set i recipe })
  | none => (.OK, { s with recipes := s.recipes ++ [recipe] })

def remove_recipe (recipe_id : Str) (s : RecipeManager) : StatusCode × RecipeManager :=
  (.OK, { s with recipes := s.recipes.filter (·.recipe_id ≠ recipe_id) })

def load_from_database (s : RecipeManager) : Except Exn (StatusCode × RecipeManager) :=
  match s.db_ with
  | none => .ok (.STORAGE_READ_ERROR, s)
  | some db => do
    let recipes ← db.list_all_recipes
    .ok (.OK, { s with recipes := recipes })

/-- A fresh manager on the same database. -/
def restart (s : RecipeManager) : Except Exn (StatusCode × RecipeManager) := load_from_database { db_ := s.db_ }

/-! ## Runs -/

inductive Event where
  | create (recipe : Recipe)
  | update (recipe : Recipe)
  | remove (recipe_id : Str)

def Event.apply : Event → RecipeManager → RecipeManager
  | .create recipe, s => (s.create_recipe recipe).2
  | .update recipe, s => (s.update_recipe recipe).2
  | .remove recipe_id, s => (s.remove_recipe recipe_id).2

def Step (s : RecipeManager) (e : Event) (s' : RecipeManager) : Prop := s' = e.apply s

/-- An empty system, with a recipes table. -/
def empty : RecipeManager := { db_ := some {} }

/-- What is compared of a recipe. -/
def contents (r : Recipe) : Str × Str × Str × Int32 × List RecipeStep × List CupSizeOption :=
  (r.recipe_id, r.recipe_name, r.category, r.version, r.steps, r.cup_sizes)

/-- A fresh manager loads the same recipes. -/
def Survives (s : RecipeManager) : Prop :=
  ∃ code loaded, s.restart = .ok (code, loaded) ∧ (loaded.recipes.map contents).Perm (s.recipes.map contents)

/-! ## The database is never written to -/

theorem db_apply (e : Event) (s : RecipeManager) : (e.apply s).db_ = s.db_ := by
  cases e with
  | create recipe =>
    rw [Event.apply, create_recipe]
    split <;> rfl
  | update recipe =>
    rw [Event.apply, update_recipe]
    split <;> rfl
  | remove recipe_id => rfl

theorem db_run {tr : List (RecipeManager × Event)} {s : RecipeManager} (h : Run Step empty tr s) : s.db_ = some {} := by
  induction h with
  | nil => rfl
  | @snoc tr s e s' _ hstep ih =>
    rw [hstep, db_apply]
    exact ih

theorem restart_of_empty {s : RecipeManager} (h : s.db_ = some {}) : s.restart = .ok (.OK, empty) := by
  rw [restart, h]
  rfl

/-- With a table that is empty, only the empty manager survives a restart. -/
theorem survives_iff {s : RecipeManager} (h : s.db_ = some {}) : Survives s ↔ s.recipes = [] := by
  rw [Survives, restart_of_empty h]
  constructor
  · rintro ⟨code, loaded, heq, hperm⟩
    obtain ⟨-, rfl⟩ := Prod.mk.inj (Except.ok.inj heq)
    exact List.map_eq_nil_iff.1 hperm.symm.eq_nil
  · intro hnil
    exact ⟨.OK, empty, rfl, by rw [hnil]; exact List.Perm.refl _⟩

/-- No run that leaves a recipe survives a restart. -/
theorem recipes_lost {tr : List (RecipeManager × Event)} {s : RecipeManager} (h : Run Step empty tr s)
    (hne : s.recipes ≠ []) : ¬Survives s :=
  fun hs => hne ((survives_iff (db_run h)).1 hs)

def americano : Recipe where
  recipe_id := "REC-AMERICANO-001".toList
  recipe_name := "Americano".toList
  category := "coffee".toList
  steps := [{ action := "grind".toList, duration_ms := 8000 }]
  cup_sizes := [{ size := "M".toList, price := 1500, volume_ml := 300 }]

theorem run_americano : Run Step empty [(empty, .create americano)] (empty.create_recipe americano).2 := Run.nil.snoc rfl

theorem recipes_lost_americano : ¬Survives (empty.create_recipe americano).2 :=
  recipes_lost run_americano (List.cons_ne_nil _ _)

/-- One recipe is created, and none is loaded. -/
theorem recipes_lost_fails : ∃ tr s, Run Step empty tr s ∧ s.recipes = [americano] ∧ s.restart = .ok (.OK, empty) :=
  ⟨_, _, run_americano, rfl, rfl⟩

end RecipeManager

end DevSys
