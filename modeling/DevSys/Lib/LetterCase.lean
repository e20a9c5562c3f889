import DevSys.Lib.Strings
/-!
# Letter case

`tolower` changes the capital letters of a text only. What looks for other
characters finds the same: searches, blanks, signs and digits.
-/
namespace Cxx

/-! ## Characters -/

/-- A capital letter is 32 below its small one. -/
theorem toLower_cases (c : Char) :
    c.toLower = c ∨ 65 ≤ c.val.toNat ∧ c.val.toNat ≤ 90 ∧ c.toLower.val.toNat = c.val.toNat + 32 := by
  unfold Char.toLower
  split
  · rename_i hc
    have hlow : 65 ≤ c.val.toNat := hc.1
    have hhigh : c.val.toNat ≤ 90 := hc.2
    refine .inr ⟨hlow, hhigh, ?_⟩
    show (c.val + ('a'.val - 'A'.val)).toNat = c.val.toNat + 32
    rw [UInt32.toNat_add]
    exact Nat.mod_eq_of_lt (show c.val.toNat + 32 < 2 ^ 32 by omega)
  · exact .inl rfl

theorem isLower_iff (c : Char) : c.isLower = true ↔ 97 ≤ c.val.toNat ∧ c.val.toNat ≤ 122 := by
  have hlower : c.isLower = (decide (97 ≤ c.val) && decide (c.val ≤ 122)) := rfl
  simp [hlower, UInt32.le_iff_toNat_le]

theorem isDigit_iff (c : Char) : c.isDigit = true ↔ 48 ≤ c.val.toNat ∧ c.val.toNat ≤ 57 := by
  simp [Char.isDigit, UInt32.le_iff_toNat_le]

/-- What is no small letter is not made from another character. -/
theorem eq_of_toLower {c d : Char} (hd : d.isLower = false) (h : c.toLower = d) : c = d := by
  subst h
  rcases toLower_cases c with hsame | ⟨hlow, hhigh, hval⟩
  · exact hsame.symm
  · have hlower : c.toLower.isLower = true := (isLower_iff _).2 (by omega)
    rw [hd] at hlower
    cases hlower

theorem toLower_toLower (c : Char) : c.toLower.toLower = c.toLower := by
  rcases toLower_cases c with hsame | ⟨hlow, -, hval⟩
  · rw [hsame, hsame]
  · rcases toLower_cases c.toLower with hsame | ⟨-, hhigh, -⟩
    · exact hsame
    · omega

/-- Not the small letter of anything else. -/
def Caseless (c : Char) : Prop := c.isLower = false ∧ c.toLower = c

instance (c : Char) : Decidable (Caseless c) := inferInstanceAs (Decidable (_ ∧ _))

theorem Caseless.toLower_eq_iff {c d : Char} (hd : Caseless d) : c.toLower = d ↔ c = d := by
  constructor
  · exact eq_of_toLower hd.1
  · rintro rfl
    exact hd.2

/-- A lowered text has the same characters that are no letters. -/
theorem mem_map_toLower_iff {s : Str} {d : Char} (hd : Caseless d) : d ∈ s.map Char.toLower ↔ d ∈ s := by
  rw [List.mem_map]
  constructor
  · rintro ⟨c, hc, hlower⟩
    rwa [← hd.toLower_eq_iff.1 hlower]
  · exact fun h => ⟨d, h, hd.2⟩

theorem isspace_toLower (c : Char) : isspace c.toLower = isspace c := by
  have hblank {d : Char} (hd : d ∈ [' ', '\t', '\n', '\x0b', '\x0c', '\r']) : c.toLower = d ↔ c = d := by
    refine Caseless.toLower_eq_iff ?_
    simp only [List.mem_cons, List.not_mem_nil, or_false] at hd
    rcases hd with rfl | rfl | rfl | rfl | rfl | rfl <;> decide
  unfold isspace
  rw [decide_eq_decide]
  simp only [List.mem_cons, List.not_mem_nil, or_false]
  rw [hblank (by simp), hblank (by simp), hblank (by simp), hblank (by simp), hblank (by simp), hblank (by simp)]

theorem isDigit_toLower (c : Char) : c.toLower.isDigit = c.isDigit := by
  rcases toLower_cases c with hsame | ⟨hlow, hhigh, hval⟩
  · rw [hsame]
  · rw [Bool.eq_iff_iff, isDigit_iff, isDigit_iff]
    omega

/-- Digits stay as they are. -/
theorem map_toLower_digits {ds : Str} (hds : ∀ c ∈ ds, c.isDigit) : ds.map Char.toLower = ds := by
  refine (List.map_congr_left fun c hc => ?_).trans (List.map_id ds)
  rcases toLower_cases c with hsame | ⟨hlow, -, -⟩
  · exact hsame
  · have hdigit := (isDigit_iff c).1 (hds c hc)
    omega

/-! ## Texts -/

theorem prefix_map_toLower_iff {pat s : Str} (hpat : ∀ c ∈ pat, Caseless c) : pat <+: s.map Char.toLower ↔ pat <+: s := by
  induction pat generalizing s with
  | nil => simp
  | cons d pat ih =>
    rw [List.forall_mem_cons] at hpat
    cases s with
    | nil => simp
    | cons c s =>
      rw [List.map_cons, List.cons_prefix_cons, List.cons_prefix_cons, ih hpat.2, eq_comm, hpat.1.toLower_eq_iff, eq_comm]

theorem find_map_toLower {pat : Str} (hpat : ∀ c ∈ pat, Caseless c) (s : Str) : find pat (s.map Char.toLower) = find pat s := by
  induction s with
  | nil => rfl
  | cons c s ih =>
    have hstarts := prefix_map_toLower_iff (s := c :: s) hpat
    rw [List.map_cons] at hstarts ⊢
    rw [find, find, ih]
    simp only [hstarts]

theorem map_toLower_idem (s : Str) : (s.map Char.toLower).map Char.toLower = s.map Char.toLower := by
  rw [List.map_map]
  exact List.map_congr_left fun c _ => toLower_toLower c

/-- What is no letter is in both of two texts that differ in letter case. -/
theorem mem_iff_of_map_toLower {s s' : Str} (h : s.map Char.toLower = s'.map Char.toLower) {d : Char} (hd : Caseless d) :
    d ∈ s ↔ d ∈ s' := by
  rw [← mem_map_toLower_iff hd, h, mem_map_toLower_iff hd]

theorem dropWhile_map_toLower {p : Char → Bool} (hp : ∀ c, p c.toLower = p c) (s : Str) :
    (s.map Char.toLower).dropWhile p = (s.dropWhile p).map Char.toLower := by
  rw [List.dropWhile_map, show p ∘ Char.toLower = p from funext hp]

theorem takeWhile_map_toLower {p : Char → Bool} (hp : ∀ c, p c.toLower = p c) (s : Str) :
    (s.map Char.toLower).takeWhile p = (s.takeWhile p).map Char.toLower := by
  rw [List.takeWhile_map, show p ∘ Char.toLower = p from funext hp]

theorem splitSign_map_toLower (s : Str) :
    splitSign (s.map Char.toLower) = ((splitSign s).1, (splitSign s).2.map Char.toLower) := by
  cases s with
  | nil => rfl
  | cons c s =>
    by_cases hminus : c = '-'
    · subst hminus
      rfl
    by_cases hplus : c = '+'
    · subst hplus
      rfl
    have hminus' : c.toLower ≠ '-' := mt (eq_of_toLower (by decide)) hminus
    have hplus' : c.toLower ≠ '+' := mt (eq_of_toLower (by decide)) hplus
    simp [splitSign, hminus, hplus, hminus', hplus']

/-- A number is read without regard to letters. -/
theorem strtol_map_toLower (s : Str) : strtol (s.map Char.toLower) = strtol s := by
  have hdigits (t : Str) : (t.map Char.toLower).takeWhile Char.isDigit = t.takeWhile Char.isDigit := by
    rw [takeWhile_map_toLower isDigit_toLower]
    exact map_toLower_digits fun c hc => List.mem_takeWhile_imp hc
  unfold strtol
  rw [dropWhile_map_toLower isspace_toLower, splitSign_map_toLower]
  dsimp only
  rw [hdigits]

theorem stoull_map_toLower (s : Str) : stoull (s.map Char.toLower) = stoull s := by
  rw [stoull, stoull, strtol_map_toLower]

end Cxx
