import DevSys.Lib.Runs
import DevSys.Lib.Strings
/-!
# `Database::migrate_if_needed`

The migrations that a start runs, with statements that may fail one by one. The
results of the statements are not looked at.
-/
open Cxx Runs

namespace DevSys.Migrations

/-! ## Statements -/

inductive Statement where
  /-- `CREATE TABLE IF NOT EXISTS schema_version`. -/
  | create_schema_version
  /-- `INSERT INTO schema_version (version) VALUES (n)`. -/
  | insert_version (n : Int32)
  /-- `ALTER TABLE device_models ADD COLUMN IF NOT EXISTS model_key`. -/
  | add_model_key
  /-- `CREATE INDEX IF NOT EXISTS idx_dm_key ON device_models(model_key)`. -/
  | create_idx_dm_key
  deriving DecidableEq, Repr

/-- The rows of `schema_version`, when there is that table, and the statements
of all starts that have succeeded. -/
structure Schema where
  schema_version : Option (List Int32) := none
  succeeded : List Statement := []
  deriving DecidableEq, Repr

/-- A statement that succeeds has its effect; there is nothing to insert into without a table. -/
def execute (statement : Statement) (succeeds : Bool) (s : Schema) : Schema :=
  if succeeds then
    match statement with
    | .create_schema_version =>
      { schema_version := some (s.schema_version.getD []), succeeded := s.succeeded ++ [statement] }
    | .insert_version n =>
      match s.schema_version with
      | none => s
      | some versions => { schema_version := some (versions ++ [n]), succeeded := s.succeeded ++ [statement] }
    | _ => { s with succeeded := s.succeeded ++ [statement] }
  else s

/-- The rows of `SELECT MAX(version) FROM schema_version`; NULL is empty. -/
def select_max_version (succeeds : Bool) (s : Schema) : Option (List (List Str)) :=
  match s.schema_version with
  | none => none
  | some versions =>
    if succeeds then some [[((versions.map Int32.toInt).max?).elim [] to_string]] else none

/-! ## One start -/

/-- Which statements of a start succeed. -/
structure Outcome where
  create : Bool
  select : Bool
  insert_1 : Bool
  alter : Bool
  index : Bool
  insert_2 : Bool
  deriving DecidableEq, Repr

def current_version (rows : Option (List (List Str))) : Except Exn Int32 :=
  match rows with
  | some ((version :: _) :: _) => if version = [] then .ok 0 else stoi version
  | _ => .ok 0

def migrate_if_needed (o : Outcome) (s : Schema) : Except Exn Schema := do
  let s := execute .create_schema_version o.create s
  let current_version ← current_version (select_max_version o.select s)
  let (current_version, s) :=
    if current_version < 1 then (1, execute (.insert_version 1) o.insert_1 s) else (current_version, s)
  if current_version < 2 then
    let s := execute .add_model_key o.alter s
    let s := execute .create_idx_dm_key o.index s
    .ok (execute (.insert_version 2) o.insert_2 s)
  else .ok s

/-- The version that a start finds. -/
def version (o : Outcome) (s : Schema) : Int32 :=
  match current_version (select_max_version o.select (execute .create_schema_version o.create s)) with
  | .ok n => n
  | .error _ => 0

theorem current_version_eq (select : Bool) (s : Schema) : ∃ n, current_version (select_max_version select s) = .ok n := by
  rw [select_max_version]
  cases s.schema_version with
  | none => exact ⟨0, rfl⟩
  | some versions =>
    dsimp only
    split_ifs
    · rw [current_version]
      cases hmax : (versions.map Int32.toInt).max? with
      | none => exact ⟨0, rfl⟩
      | some m =>
        obtain ⟨n, -, rfl⟩ := List.mem_map.1 (List.max?_mem hmax)
        have hread := stoi_to_string n [] (by simp)
        rw [List.append_nil] at hread
        exact ⟨n, by rw [Option.elim_some, if_neg (to_string_ne_nil _), hread]⟩
    · exact ⟨0, rfl⟩

/-- The schema behind the first migration. -/
def first (o : Outcome) (s : Schema) : Schema :=
  let s' := execute .create_schema_version o.create s
  if version o s < 1 then execute (.insert_version 1) o.insert_1 s' else s'

/-- The second migration. -/
def second (o : Outcome) (s : Schema) : Schema :=
  execute (.insert_version 2) o.insert_2 (execute .create_idx_dm_key o.index (execute .add_model_key o.alter s))

/-- A start does not throw, and runs the second migration below version 2. -/
theorem migrate_eq (o : Outcome) (s : Schema) :
    migrate_if_needed o s = .ok (if version o s < 2 then second o (first o s) else first o s) := by
  obtain ⟨n, hn⟩ := current_version_eq o.select (execute .create_schema_version o.create s)
  have hversion : version o s = n := by rw [version, hn]
  rw [migrate_if_needed, hn, first, hversion]
  simp only [Bind.bind, Except.bind]
  by_cases h1 : n < 1
  · have h2 : n < 2 := by
      rw [Int32.lt_iff_toInt_lt] at h1 ⊢
      exact Int.lt_trans h1 (by decide)
    rw [if_pos h1, if_pos h1, if_pos h2, if_pos (show (1 : Int32) < 2 by decide)]
    rfl
  · rw [if_neg h1, if_neg h1]
    dsimp only
    split_ifs
    · rfl
    · rfl

/-! ## What has succeeded -/

/-- Inserts need the table. -/
def Takes (statement : Statement) (succeeds : Bool) (s : Schema) : Prop :=
  succeeds ∧ ((∃ n, statement = .insert_version n) → s.schema_version.isSome)

theorem mem_execute {st statement : Statement} {succeeds : Bool} {s : Schema} :
    st ∈ (execute statement succeeds s).succeeded ↔ st ∈ s.succeeded ∨ st = statement ∧ Takes statement succeeds s := by
  cases succeeds with
  | false => simp [execute, Takes]
  | true =>
    cases statement with
    | create_schema_version => simp [execute, Takes]
    | insert_version n =>
      cases hversions : s.schema_version with
      | none => simp [execute, Takes, hversions]
      | some versions => simp [execute, Takes, hversions]
    | add_model_key => simp [execute, Takes]
    | create_idx_dm_key => simp [execute, Takes]

theorem isSome_execute {statement : Statement} {succeeds : Bool} {s : Schema} :
    (execute statement succeeds s).schema_version.isSome ↔
      s.schema_version.isSome ∨ statement = .create_schema_version ∧ succeeds := by
  cases succeeds with
  | false => simp [execute]
  | true =>
    cases statement with
    | create_schema_version => simp [execute]
    | insert_version n =>
      cases hversions : s.schema_version with
      | none => simp [execute, hversions]
      | some versions => simp [execute, hversions]
    | add_model_key => simp [execute]
    | create_idx_dm_key => simp [execute]

theorem mem_first {st : Statement} {o : Outcome} {s : Schema} (hcreate : st ≠ .create_schema_version)
    (hinsert : st ≠ .insert_version 1) : st ∈ (first o s).succeeded ↔ st ∈ s.succeeded := by
  rw [first]
  split_ifs
  · rw [mem_execute, mem_execute, or_iff_left fun h => hinsert h.1, or_iff_left fun h => hcreate h.1]
  · rw [mem_execute, or_iff_left fun h => hcreate h.1]

theorem isSome_first {o : Outcome} {s : Schema} :
    (first o s).schema_version.isSome ↔ s.schema_version.isSome ∨ o.create := by
  rw [first]
  split_ifs
  · simp [isSome_execute]
  · simp [isSome_execute]

/-- A start that inserts version 2. -/
def Inserts (o : Outcome) (s : Schema) : Prop :=
  version o s < 2 ∧ o.insert_2 ∧ (s.schema_version.isSome ∨ o.create)

instance (o : Outcome) (s : Schema) : Decidable (Inserts o s) := inferInstanceAs (Decidable (_ ∧ _))

def MigrateStep (s : Schema) (o : Outcome) (s' : Schema) : Prop := migrate_if_needed o s = .ok s'

theorem mem_migrate {s s' : Schema} {o : Outcome} (h : MigrateStep s o s') :
    (.add_model_key ∈ s'.succeeded ↔ .add_model_key ∈ s.succeeded ∨ version o s < 2 ∧ o.alter) ∧
    (.create_idx_dm_key ∈ s'.succeeded ↔ .create_idx_dm_key ∈ s.succeeded ∨ version o s < 2 ∧ o.index) ∧
    (.insert_version 2 ∈ s'.succeeded ↔ .insert_version 2 ∈ s.succeeded ∨ Inserts o s) := by
  rw [MigrateStep, migrate_eq] at h
  cases h
  by_cases hv : version o s < 2
  · simp [hv, second, mem_execute, isSome_execute, isSome_first, mem_first, Takes, Inserts]
  · simp [hv, mem_first, Inserts]

/-! ## Every run of starts -/

/-- Version 2 is recorded only with its column and its index. -/
def Truthful (s : Schema) : Prop :=
  .insert_version 2 ∈ s.succeeded → .add_model_key ∈ s.succeeded ∧ .create_idx_dm_key ∈ s.succeeded

/-- If version 2 is inserted, then neither of the statements before it fails
that has not succeeded at an earlier start. -/
def Sound (s : Schema) (o : Outcome) : Prop :=
  Inserts o s → (.add_model_key ∈ s.succeeded ∨ o.alter) ∧ (.create_idx_dm_key ∈ s.succeeded ∨ o.index)

instance (s : Schema) (o : Outcome) : Decidable (Sound s o) := inferInstanceAs (Decidable (_ → _))

theorem truthful_migrate {s s' : Schema} {o : Outcome} (hs : Truthful s) (h : MigrateStep s o s') :
    Truthful s' ↔ Sound s o := by
  obtain ⟨halter, hindex, hinsert⟩ := mem_migrate h
  rw [Truthful, halter, hindex, hinsert, Sound]
  constructor
  · intro htruth hins
    obtain ⟨hcolumn, hidx⟩ := htruth (.inr hins)
    exact ⟨hcolumn.imp_right And.right, hidx.imp_right And.right⟩
  · rintro hsound (hold | hins)
    · obtain ⟨hcolumn, hidx⟩ := hs hold
      exact ⟨.inl hcolumn, .inl hidx⟩
    · obtain ⟨hcolumn, hidx⟩ := hsound hins
      exact ⟨hcolumn.imp_right fun h => ⟨hins.1, h⟩, hidx.imp_right fun h => ⟨hins.1, h⟩⟩

/-- After every start the schema is as its version says, exactly when every
start that inserts version 2 is sound. -/
theorem truthful_iff {versions : Option (List Int32)} {tr : List (Schema × Outcome)} {s : Schema}
    (h : Run MigrateStep { schema_version := versions } tr s) :
    (∀ u ∈ moments tr s, Truthful u) ↔ ∀ p ∈ tr, Sound p.1 p.2 := by
  have hstart : Truthful { schema_version := versions } := fun h => absurd h List.not_mem_nil
  have hiff := h.all_iff (fun _ => True) Truthful Sound trivial hstart (fun _ _ _ _ _ => trivial)
    (fun _ _ _ _ hs hstep => truthful_migrate hs hstep)
  rw [← hiff, moments, List.forall_mem_append, List.forall_mem_map, List.forall_mem_singleton]

/-- A schema of version 1. -/
def version_1 : Schema := { schema_version := some [1] }

/-- Neither of the statements of the second migration succeeds, nor the insert behind them. -/
def refused : Outcome := ⟨true, true, true, false, false, false⟩

/-- A second start makes up for the first one. -/
theorem truthful_retried :
    let s₁ : Schema := { schema_version := some [1], succeeded := [.create_schema_version] }
    let s₂ : Schema := { schema_version := some [1, 2], succeeded :=
      [.create_schema_version, .create_schema_version, .add_model_key, .create_idx_dm_key, .insert_version 2] }
    ∀ u ∈ moments [(version_1, refused), (s₁, ⟨true, true, true, true, true, true⟩)] s₂, Truthful u := by
  intro s₁ s₂
  have hfirst : MigrateStep version_1 refused s₁ := by
    rw [MigrateStep]
    decide
  have hsecond : MigrateStep s₁ ⟨true, true, true, true, true, true⟩ s₂ := by
    rw [MigrateStep]
    decide
  refine (truthful_iff ((Run.nil.snoc hfirst).snoc hsecond)).2 ?_
  decide

/-- The column is not added, and version 2 recorded. -/
theorem truthful_fails : ∃ o s, MigrateStep version_1 o s ∧
    .insert_version 2 ∈ s.succeeded ∧ .add_model_key ∉ s.succeeded ∧ .create_idx_dm_key ∉ s.succeeded :=
  ⟨{ refused with insert_2 := true },
    { schema_version := some [1, 2], succeeded := [.create_schema_version, .insert_version 2] }, by
      rw [MigrateStep]
      decide, by decide, by decide, by decide⟩

end DevSys.Migrations
