import Mathlib.Logic.Function.Basic
import Mathlib.Data.List.Basic
/-!
# Rotated files

Files of lines by name, and the rotation of a base file into numbered ones: file
`i` becomes file `i + 1`, the last one is removed, and the base becomes file 0.
-/

namespace Rotation

/-- The lines of the files there are. -/
abbrev Files (κ α : Type) := κ → Option (List α)

section
variable {κ α : Type}

def lines (fs : Files κ α) (k : κ) : List α := (fs k).getD []

/-- The lines of the numbered files below `n`, from the highest index down to 0. -/
def numbered (name : Nat → κ) : Nat → Files κ α → List α
  | 0, _ => []
  | i + 1, fs => lines fs (name i) ++ numbered name i fs

theorem lines_of_none {fs : Files κ α} {k : κ} (h : fs k = none) : lines fs k = [] := by rw [lines, h, Option.getD_none]

theorem numbered_congr {name : Nat → κ} {fs fs' : Files κ α} {n : Nat} (h : ∀ i < n, fs' (name i) = fs (name i)) :
    numbered name n fs' = numbered name n fs := by
  induction n with
  | zero => rfl
  | succ n ih =>
    rw [numbered, numbered, lines, h n (Nat.lt_succ_self n), ih fun i hi => h i (Nat.lt_succ_of_lt hi), lines]

/-- Each file has the lines of the one before it, and file 0 those of the base. -/
theorem numbered_succ_of_moved {name : Nat → κ} {base : κ} {n : Nat} {fs fs' : Files κ α} (hzero : fs' (name 0) = fs base)
    (hmoved : ∀ j < n, fs' (name (j + 1)) = fs (name j)) :
    numbered name (n + 1) fs' = numbered name n fs ++ lines fs base := by
  induction n with
  | zero => rw [numbered, numbered, numbered, lines, hzero, List.append_nil, List.nil_append, lines]
  | succ n ih =>
    have hlast : lines fs' (name (n + 1)) = lines fs (name n) := by rw [lines, hmoved n (Nat.lt_succ_self n), lines]
    rw [numbered, ih fun j hj => hmoved j (Nat.lt_succ_of_lt hj), hlast, ← List.append_assoc, ← numbered]

end

variable {κ α : Type} [DecidableEq κ]

/-! ## The operations -/

def remove (k : κ) (fs : Files κ α) : Files κ α := fun x => if x = k then none else fs x

/-- A file of the new name is replaced. -/
def rename (old new : κ) (fs : Files κ α) : Files κ α :=
  fun x => if x = new then fs old else if x = old then none else fs x

/-- Opened for appending, a file is created when there is none. -/
def append (k : κ) (ls : List α) (fs : Files κ α) : Files κ α :=
  fun x => if x = k then some (lines fs k ++ ls) else fs x

/-- The loop over the numbered files below `n`, from the last one down. -/
def shift (name : Nat → κ) (max : Nat) : Nat → Files κ α → Files κ α
  | 0, fs => fs
  | i + 1, fs =>
    shift name max i
      (if (fs (name i)).isSome then
        if i + 1 ≥ max then remove (name i) fs else rename (name i) (name (i + 1)) fs
      else fs)

def rotate (base : κ) (name : Nat → κ) (max : Nat) (fs : Files κ α) : Files κ α :=
  let fs := shift name max max fs
  if (fs base).isSome then rename base (name 0) fs else fs

theorem remove_self (k : κ) (fs : Files κ α) : remove k fs k = none := if_pos rfl

theorem remove_ne {k x : κ} (h : x ≠ k) (fs : Files κ α) : remove k fs x = fs x := if_neg h

theorem rename_new (old new : κ) (fs : Files κ α) : rename old new fs new = fs old := if_pos rfl

theorem rename_old {old new : κ} (h : old ≠ new) (fs : Files κ α) : rename old new fs old = none := by
  rw [rename, if_neg h, if_pos rfl]

theorem rename_ne {old new x : κ} (hnew : x ≠ new) (hold : x ≠ old) (fs : Files κ α) : rename old new fs x = fs x := by
  rw [rename, if_neg hnew, if_neg hold]

theorem lines_append_self (k : κ) (ls : List α) (fs : Files κ α) : lines (append k ls fs) k = lines fs k ++ ls := by
  rw [lines, append, if_pos rfl, Option.getD_some]

theorem append_ne {k x : κ} (h : x ≠ k) (ls : List α) (fs : Files κ α) : append k ls fs x = fs x := if_neg h

/-! ## Rotation -/

/-- Files of other names stay, those of a higher index among them. -/
theorem shift_other {name : Nat → κ} {max n : Nat} (hn : n ≤ max) {k : κ} (hk : ∀ i < max, k ≠ name i)
    (fs : Files κ α) : shift name max n fs k = fs k := by
  induction n generalizing fs with
  | zero => rfl
  | succ n ih =>
    rw [shift, ih (Nat.le_of_succ_le hn)]
    have hne : k ≠ name n := hk n hn
    split_ifs with hsome hlast
    · exact remove_ne hne fs
    · exact rename_ne (hk (n + 1) (Nat.not_le.1 hlast)) hne fs
    · rfl

theorem rotate_other {base : κ} {name : Nat → κ} {max : Nat} (hmax : 0 < max) {k : κ} (hbase : k ≠ base)
    (hk : ∀ i < max, k ≠ name i) (fs : Files κ α) : rotate base name max fs k = fs k := by
  have hshift := shift_other (Nat.le_refl max) hk fs
  rw [rotate]
  split_ifs
  · rw [rename_ne (hk 0 hmax) hbase, hshift]
  · exact hshift

section
variable {name : Nat → κ} (hname : Function.Injective name)
include hname

/-- One turn of the loop: the place of file `i` is free, and that of file `i + 1`
has it when it is kept. -/
theorem turn_spec {max i : Nat} (fs : Files κ α) (hfree : i + 1 < max → fs (name (i + 1)) = none) :
    let fs' := if (fs (name i)).isSome then
        if i + 1 ≥ max then remove (name i) fs else rename (name i) (name (i + 1)) fs
      else fs
    fs' (name i) = none ∧ (i + 1 < max → fs' (name (i + 1)) = fs (name i)) ∧
      ∀ k, k ≠ name i → k ≠ name (i + 1) → fs' k = fs k := by
  have hne : name i ≠ name (i + 1) := fun h => Nat.succ_ne_self i (hname h).symm
  dsimp only
  split_ifs with hsome hlast
  · refine ⟨remove_self _ _, ?_, ?_⟩
    · intro hlt
      omega
    · exact fun k hk _ => remove_ne hk fs
  · refine ⟨rename_old hne fs, fun _ => rename_new _ _ _, ?_⟩
    exact fun k hk hk' => rename_ne hk' hk fs
  · rw [Bool.not_eq_true, Option.isSome_eq_false_iff, Option.isNone_iff_eq_none] at hsome
    refine ⟨hsome, ?_, fun _ _ _ => rfl⟩
    intro hlt
    rw [hfree hlt, hsome]

theorem shift_spec (max n : Nat) (fs : Files κ α) (hfree : n < max → fs (name n) = none) :
    (0 < n → shift name max n fs (name 0) = none) ∧
    (∀ j < n, j + 1 < max → shift name max n fs (name (j + 1)) = fs (name j)) ∧
    ∀ k, (∀ j ≤ n, k ≠ name j) → shift name max n fs k = fs k := by
  -- on the number of turns left; the place above the next file is free
  induction n generalizing fs with
  | zero => exact ⟨fun h => absurd h (Nat.lt_irrefl 0), nofun, fun _ _ => rfl⟩
  | succ n ih =>
    obtain ⟨hhere, hnext, hother⟩ := turn_spec hname fs hfree
    rw [shift]
    obtain ⟨hzero, hmoved, hrest⟩ := ih _ fun _ => hhere
    refine ⟨?_, ?_, ?_⟩
    · intro _
      rcases Nat.eq_zero_or_pos n with rfl | hpos
      · exact hhere
      · exact hzero hpos
    · intro j hj hmax
      rcases Nat.lt_succ_iff_lt_or_eq.1 hj with hlt | rfl
      · rw [hmoved j hlt hmax]
        apply hother
        · exact fun h => by have := hname h; omega
        · exact fun h => by have := hname h; omega
      · rw [hrest (name (j + 1)), hnext hmax]
        exact fun i hi h => by have := hname h; omega
    · intro k hk
      rw [hrest k fun j hj => hk j (Nat.le_succ_of_le hj)]
      exact hother k (hk n (Nat.le_succ n)) (hk (n + 1) (Nat.le_refl _))

/-- The base is free, it is file 0, and every file but the last is the next one. -/
theorem rotate_spec {base : κ} (hbase : ∀ i, base ≠ name i) {max : Nat} (hmax : 0 < max) (fs : Files κ α) :
    rotate base name max fs base = none ∧ rotate base name max fs (name 0) = fs base ∧
    ∀ j, j + 1 < max → rotate base name max fs (name (j + 1)) = fs (name j) := by
  obtain ⟨hzero, hmoved, hother⟩ := shift_spec hname max max fs fun h => absurd h (Nat.lt_irrefl _)
  have hkept : shift name max max fs base = fs base := hother base fun j _ => hbase j
  rw [rotate, hkept]
  split_ifs with hsome
  · refine ⟨rename_old (hbase 0) _, ?_, ?_⟩
    · rw [rename_new, hkept]
    · intro j hj
      rw [rename_ne (fun h => Nat.succ_ne_zero j (hname h)) (hbase (j + 1)).symm, hmoved j (by omega) hj]
  · rw [Bool.not_eq_true, Option.isSome_eq_false_iff, Option.isNone_iff_eq_none] at hsome
    refine ⟨hkept.trans hsome, ?_, ?_⟩
    · rw [hzero hmax, hsome]
    · intro j hj
      exact hmoved j (by omega) hj

/-- What there is after a rotation was there before, under another name than the last. -/
theorem exists_before_rotate {base : κ} (hbase : ∀ i, base ≠ name i) {max : Nat} (hmax : 0 < max) (fs : Files κ α)
    (k : κ) : rotate base name max fs k = none ∨ ∃ k', k' ≠ name (max - 1) ∧ rotate base name max fs k = fs k' := by
  obtain ⟨hfree, hzero, hmoved⟩ := rotate_spec hname hbase hmax fs
  by_cases hk : k = base
  · exact .inl (hk ▸ hfree)
  by_cases hnumber : ∃ i < max, k = name i
  · obtain ⟨i, hi, rfl⟩ := hnumber
    cases i with
    | zero => exact .inr ⟨base, hbase _, hzero⟩
    | succ i =>
      refine .inr ⟨name i, fun h => ?_, hmoved i hi⟩
      have := hname h
      omega
  · have hother : ∀ i < max, k ≠ name i := fun i hi h => hnumber ⟨i, hi, h⟩
    exact .inr ⟨k, hother _ (by omega), rotate_other hmax hk hother fs⟩

/-- Only the lines of the last file go. -/
theorem numbered_rotate {base : κ} (hbase : ∀ i, base ≠ name i) (n : Nat) (fs : Files κ α) :
    lines fs (name n) ++ numbered name (n + 1) (rotate base name (n + 1) fs) =
      numbered name (n + 1) fs ++ lines fs base := by
  obtain ⟨-, hzero, hmoved⟩ := rotate_spec hname hbase (Nat.succ_pos n) fs
  rw [numbered_succ_of_moved hzero fun j hj => hmoved j (Nat.succ_lt_succ hj), numbered, List.append_assoc]

end

end Rotation
