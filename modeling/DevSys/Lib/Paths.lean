import Mathlib.Data.List.Basic
/-!
# Relative paths

Where a path leads when its components `.` and `..` are resolved by name.
-/

namespace Paths

/-- A number of levels up from the working directory, and the names down from there. -/
structure Location where
  ups : Nat := 0
  names : List (List Char) := []
  deriving DecidableEq, Repr

def Location.up (l : Location) : Location :=
  if l.names = [] then { l with ups := l.ups + 1 } else { l with names := l.names.dropLast }

def Location.step (l : Location) (component : List Char) : Location :=
  if component = [] ∨ component = ['.'] then l
  else if component = ['.', '.'] then l.up
  else { l with names := l.names ++ [component] }

/-- Follow a path from a location. -/
def Location.walk (l : Location) (path : List Char) : Location := (path.splitOn '/').foldl Location.step l

def resolve (path : List Char) : Location := Location.walk {} path

/-- The location of `r` when `l` is the working directory. -/
def Location.append (l r : Location) : Location :=
  if r.ups ≤ l.names.length then ⟨l.ups, l.names.take (l.names.length - r.ups) ++ r.names⟩
  else ⟨l.ups + (r.ups - l.names.length), r.names⟩

/-- Something in the directory `d`, at any depth. -/
def Inside (d l : Location) : Prop := l.ups = d.ups ∧ d.names <+: l.names ∧ d.names.length < l.names.length

instance (d l : Location) : Decidable (Inside d l) := inferInstanceAs (Decidable (_ ∧ _ ∧ _))

/-- From a directory with these names a path leads to something in it: it does
not climb higher than the directory is deep, and it comes back by the same names. -/
def Stays (names : List (List Char)) (path : List Char) : Prop :=
  (resolve path).ups ≤ names.length ∧ names.drop (names.length - (resolve path).ups) <+: (resolve path).names ∧
    (resolve path).ups < (resolve path).names.length

instance (names : List (List Char)) (path : List Char) : Decidable (Stays names path) :=
  inferInstanceAs (Decidable (_ ∧ _ ∧ _))

/-! ## Walking on -/

theorem append_nil (l : Location) : l.append {} = l := by
  rw [Location.append, if_pos (Nat.zero_le _)]
  simp

theorem append_of_le {l r : Location} (h : r.ups ≤ l.names.length) :
    l.append r = ⟨l.ups, l.names.take (l.names.length - r.ups) ++ r.names⟩ :=
  if_pos h

/-- Climbing as high as the names, or higher, leaves none of them. -/
theorem append_of_ge {l r : Location} (h : l.names.length ≤ r.ups) :
    l.append r = ⟨l.ups + (r.ups - l.names.length), r.names⟩ := by
  unfold Location.append
  split_ifs with hle
  · have heq : r.ups = l.names.length := Nat.le_antisymm hle h
    rw [heq, Nat.sub_self]
    simp
  · rfl

theorem up_of_nil {l : Location} (h : l.names = []) : l.up = ⟨l.ups + 1, l.names⟩ := if_pos h

theorem up_of_ne_nil {l : Location} (h : l.names ≠ []) : l.up = ⟨l.ups, l.names.dropLast⟩ := if_neg h

theorem dropLast_take_succ {α : Type} {l : List α} {n : Nat} (h : n < l.length) : (l.take (n + 1)).dropLast = l.take n := by
  rw [List.dropLast_eq_take, List.take_take, List.length_take]
  congr 1
  omega

theorem up_append (l r : Location) : (l.append r).up = l.append r.up := by
  by_cases hr : r.names = []
  · rw [up_of_nil hr]
    by_cases hlt : r.ups < l.names.length
    · -- a name of `l` is left to go up from
      obtain ⟨n, hn⟩ : ∃ n, l.names.length - r.ups = n + 1 := ⟨l.names.length - r.ups - 1, by omega⟩
      have hsub : l.names.length - (r.ups + 1) = n := by omega
      rw [append_of_le (Nat.le_of_lt hlt), append_of_le (r := ⟨r.ups + 1, r.names⟩) hlt, hn, hsub, hr, List.append_nil, List.append_nil,
        up_of_ne_nil, dropLast_take_succ (by omega)]
      rw [ne_eq, List.take_eq_nil_iff]
      rintro (hzero | hnil)
      · omega
      · rw [hnil, List.length_nil] at hlt
        omega
    · have hge := Nat.not_lt.1 hlt
      rw [append_of_ge hge, append_of_ge (r := ⟨r.ups + 1, r.names⟩) (Nat.le_succ_of_le hge),
        up_of_nil (l := ⟨l.ups + (r.ups - l.names.length), r.names⟩) hr]
      congr 1
      dsimp only
      omega
  · rw [up_of_ne_nil hr]
    by_cases hle : r.ups ≤ l.names.length
    · rw [append_of_le hle, append_of_le (r := ⟨r.ups, r.names.dropLast⟩) hle, up_of_ne_nil (by simp [hr])]
      dsimp only
      rw [List.dropLast_append_of_ne_nil hr]
    · have hge := Nat.le_of_lt (Nat.not_le.1 hle)
      rw [append_of_ge hge, append_of_ge (r := ⟨r.ups, r.names.dropLast⟩) hge,
        up_of_ne_nil (l := ⟨l.ups + (r.ups - l.names.length), r.names⟩) hr]

theorem step_append (l r : Location) (component : List Char) :
    (l.append r).step component = l.append (r.step component) := by
  unfold Location.step
  split_ifs with hsame hup
  · rfl
  · exact up_append l r
  · unfold Location.append
    split_ifs
    · rw [List.append_assoc]
    · rfl

/-- Following a path from a location leads to where the path leads on its own,
seen from there. -/
theorem walk_eq (l : Location) (path : List Char) : l.walk path = l.append (resolve path) := by
  have hfold (components : List (List Char)) (r : Location) :
      components.foldl Location.step (l.append r) = l.append (components.foldl Location.step r) := by
    induction components generalizing r with
    | nil => rfl
    | cons component components ih => rw [List.foldl_cons, List.foldl_cons, step_append, ih]
  have hstart := hfold (path.splitOn '/') {}
  rwa [append_nil] at hstart

theorem resolve_append (dir path : List Char) : resolve (dir ++ '/' :: path) = (resolve dir).walk path := by
  rw [resolve, Location.walk, List.splitOn_append_cons_self, List.foldl_append]
  rfl

/-- A path in a directory leads to something in it exactly when it stays. -/
theorem inside_walk_iff (d : Location) (path : List Char) : Inside d (d.walk path) ↔ Stays d.names path := by
  rw [walk_eq, Inside, Stays]
  by_cases hle : (resolve path).ups ≤ d.names.length
  · rw [append_of_le hle]
    dsimp only
    have hsplit : d.names.take (d.names.length - (resolve path).ups) ++
        d.names.drop (d.names.length - (resolve path).ups) = d.names := List.take_append_drop _ _
    have hpre : d.names <+: d.names.take (d.names.length - (resolve path).ups) ++ (resolve path).names ↔
        d.names.drop (d.names.length - (resolve path).ups) <+: (resolve path).names := by
      nth_rewrite 1 [← hsplit]
      exact List.prefix_append_right_inj _
    have hlen : (d.names.take (d.names.length - (resolve path).ups) ++ (resolve path).names).length =
        d.names.length - (resolve path).ups + (resolve path).names.length := by
      rw [List.length_append, List.length_take]
      omega
    rw [hpre, hlen, and_iff_right rfl, and_iff_right hle]
    refine and_congr_right fun _ => ?_
    omega
  · rw [append_of_ge (Nat.le_of_lt (Nat.not_le.1 hle))]
    refine iff_of_false ?_ fun h => hle h.1
    rintro ⟨hups, -⟩
    dsimp only at hups
    omega

end Paths
