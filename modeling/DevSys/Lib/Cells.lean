import Mathlib.Data.List.GetD
/-!
# Reading the cells of a row

`row[i]` of a vector is only defined where the row has a cell `i`. A read past
the end is an outcome of its own here, next to the exceptions of what is done
with the cells.
-/

namespace Cells
variable {α ε β γ : Type}

inductive ReadError (ε : Type) where
  | thrown (e : ε)
  | past_end (i : Nat)
  deriving DecidableEq, Repr

/-- `row[i]`. -/
def cell (row : List α) (i : Nat) : Except (ReadError ε) α :=
  match row[i]? with
  | some c => .ok c
  | none => .error (.past_end i)

/-- A computation that reads no cell. -/
def lift (x : Except ε β) : Except (ReadError ε) β := x.mapError .thrown

/-- `row.size() > i ? read(row[i]) : dflt`. -/
def cell_or (row : List α) (i : Nat) (dflt : β) (read : α → Except ε β) : Except (ReadError ε) β :=
  if row.length > i then cell row i >>= fun c => lift (read c) else .ok dflt

/-- Only cells that exist are read. -/
def Inside (x : Except (ReadError ε) β) : Prop := ∀ i, x ≠ .error (.past_end i)

variable {row : List α} {i : Nat} {f : β → Except (ReadError ε) γ}

theorem cell_of_lt (d : α) (h : i < row.length) : (cell row i : Except (ReadError ε) α) = .ok (row.getD i d) := by
  rw [cell, List.getElem?_eq_getElem h, List.getD_eq_getElem _ d h]

theorem cell_of_le (h : row.length ≤ i) : (cell row i : Except (ReadError ε) α) = .error (.past_end i) := by
  rw [cell, List.getElem?_eq_none h]

theorem ok_bind (b : β) : ((.ok b : Except (ReadError ε) β) >>= f) = f b := rfl

theorem lift_ok (b : β) : lift (.ok b : Except ε β) = .ok b := rfl

theorem lift_bind (x : Except ε β) (g : β → Except ε γ) : lift (x >>= g) = lift x >>= fun b => lift (g b) := by
  cases x <;> rfl

/-- A cell behind a test of its own is never past the end. -/
theorem cell_or_eq (d : α) (dflt : β) (read : α → Except ε β) :
    cell_or row i dflt read = lift (if row.length > i then read (row.getD i d) else .ok dflt) := by
  rw [cell_or]
  split
  · rename_i h
    rw [cell_of_lt d h]
    rfl
  · rfl

theorem cell_or_of_lt (d : α) (dflt : β) (read : α → Except ε β) (h : i < row.length) :
    cell_or row i dflt read = lift (read (row.getD i d)) := by
  rw [cell_or_eq d, if_pos h]

theorem cell_or_of_le (dflt : β) (read : α → Except ε β) (h : row.length ≤ i) :
    cell_or row i dflt read = .ok dflt := if_neg (Nat.not_lt.2 h)

theorem cell_or_default (d : α) : (cell_or row i d .ok : Except (ReadError ε) α) = .ok (row.getD i d) := by
  by_cases h : i < row.length
  · rw [cell_or_of_lt d d .ok h, lift_ok]
  · rw [cell_or_of_le d .ok (Nat.le_of_not_lt h), List.getD_eq_default row d (Nat.le_of_not_lt h)]

/-! ## What stays inside -/

theorem inside_ok (b : β) : Inside (.ok b : Except (ReadError ε) β) := by
  rintro i ⟨⟩

theorem inside_of_eq_lift {x : Except (ReadError ε) β} {y : Except ε β} (h : x = lift y) : Inside x := by
  subst h
  cases y <;> rintro i ⟨⟩

theorem inside_cell {f : α → Except (ReadError ε) γ} (d : α) (h : i < row.length) :
    Inside (cell row i >>= f) ↔ Inside (f (row.getD i d)) := by
  rw [cell_of_lt d h, ok_bind]

theorem not_inside_cell {f : α → Except (ReadError ε) γ} (h : row.length ≤ i) : ¬Inside (cell row i >>= f) := by
  rw [cell_of_le h]
  exact fun hinside => hinside i rfl

theorem inside_lift {x : Except ε β} : Inside (lift x >>= f) ↔ ∀ b, x = .ok b → Inside (f b) := by
  cases x with
  | error e =>
    refine iff_of_true ?_ ?_
    · rintro i ⟨⟩
    · rintro b ⟨⟩
  | ok b =>
    constructor
    · rintro h _ ⟨⟩
      exact h
    · intro h
      exact h b rfl

end Cells
