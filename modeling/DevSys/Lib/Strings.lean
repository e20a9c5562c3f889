import Mathlib.Algebra.Ring.Int.Defs
import Mathlib.Algebra.Ring.Nat
import Mathlib.Data.List.Infix
import Mathlib.Data.List.TakeWhile
/-!
# C++ strings as character lists

A `std::string` is the list of its characters. `find`, `getlineAll`,
`to_string` and `stoi` follow the standard library; `npos` is `none` and an
exception is an `Except.error`.
-/
namespace Cxx

abbrev Str := List Char

/-- The exceptions the standard library raises. -/
inductive Exn where
  | invalid_argument
  | out_of_range
  deriving DecidableEq, Repr

/-- A computation that ends well went well in its first part. -/
theorem bind_eq_ok {ε α β : Type} {x : Except ε α} {f : α → Except ε β} {r : β} :
    x >>= f = .ok r ↔ ∃ a, x = .ok a ∧ f a = .ok r := by
  cases x with
  | error e => simp [Bind.bind, Except.bind]
  | ok a => simp [Bind.bind, Except.bind]

/-! ## Cutting where a test fails -/

section Cut
variable {α : Type} {p : α → Bool}

theorem take_findIdx {s : List α} {i : Nat} (h : s.findIdx? p = some i) :
    s.take i = s.takeWhile (fun c => !p c) := by
  induction s generalizing i with
  | nil => simp at h
  | cons c s ih =>
    rw [List.findIdx?_cons] at h
    by_cases hc : p c
    · simp only [hc, if_true, Option.some.injEq] at h
      simp [← h, hc]
    · simp only [hc] at h
      obtain ⟨j, hj, rfl⟩ := Option.map_eq_some_iff.1 h
      simp [hc, ih hj]

theorem takeWhile_append_stop (s rest : List α) {c : α} (hc : p c = false) :
    (s ++ c :: rest).takeWhile p = s.takeWhile p := by
  induction s with
  | nil => simp [hc]
  | cons d s ih =>
    rw [List.cons_append, List.takeWhile_cons, List.takeWhile_cons, ih]

theorem dropWhile_append_stop (s rest : List α) {c : α} (hc : p c = false) :
    (s ++ c :: rest).dropWhile p = s.dropWhile p ++ c :: rest := by
  induction s with
  | nil => simp [hc]
  | cons d s ih =>
    rw [List.cons_append, List.dropWhile_cons, List.dropWhile_cons, ih]
    split <;> rfl

/-- Two pairs with different first parts are written alike exactly when text moves
from the start of one second part to the end of the other first part. -/
theorem append_sep_eq_iff {sep a b a' b' : List α} (hsep : sep.length ≤ 1) (hne : a ≠ a') :
    a ++ (sep ++ b) = a' ++ (sep ++ b') ↔
      (∃ w, a' = a ++ (sep ++ w) ∧ b = w ++ (sep ++ b')) ∨ ∃ w, a = a' ++ (sep ++ w) ∧ b' = w ++ (sep ++ b) := by
  -- what one first part has more than the other starts with the separator
  have hcut {as c c' : List α} (has : as ≠ []) (h : sep ++ c = as ++ (sep ++ c')) :
      ∃ w, as = sep ++ w ∧ c = w ++ (sep ++ c') := by
    rcases List.append_eq_append_iff.1 h with ⟨w, rfl, hc⟩ | ⟨w, hw, hc⟩
    · exact ⟨w, rfl, hc⟩
    · have hlen := congrArg List.length hw
      have hpos := List.length_pos_of_ne_nil has
      rw [List.length_append] at hlen
      obtain rfl := List.length_eq_zero_iff.1 (show w.length = 0 by omega)
      rw [List.append_nil] at hw
      exact ⟨[], by rw [hw, List.append_nil], hc.symm⟩
  rw [List.append_eq_append_iff]
  constructor
  · rintro (⟨as, rfl, h⟩ | ⟨as, rfl, h⟩)
    · obtain ⟨w, rfl, hb⟩ := hcut (by rintro rfl; simp at hne) h
      exact .inl ⟨w, rfl, hb⟩
    · obtain ⟨w, rfl, hb⟩ := hcut (by rintro rfl; simp at hne) h
      exact .inr ⟨w, rfl, hb⟩
  · rintro (⟨w, rfl, rfl⟩ | ⟨w, rfl, rfl⟩)
    · exact .inl ⟨sep ++ w, rfl, by simp⟩
    · exact .inr ⟨sep ++ w, rfl, by simp⟩

/-- A word without `c` stands on one side of it. -/
theorem infix_split_iff {word : List α} {c : α} (hne : word ≠ []) (hc : c ∉ word) (a b : List α) :
    word <:+: a ++ c :: b ↔ word <:+: a ∨ word <:+: b := by
  have hstart {l : List α} (hl : l ≠ []) (hp : l <+: c :: b) : c ∈ l := by
    obtain ⟨d, l, rfl⟩ := List.exists_cons_of_ne_nil hl
    rw [(List.cons_prefix_cons.1 hp).1]
    exact List.mem_cons_self
  rw [List.infix_append_iff_ne_nil, List.infix_cons_iff]
  constructor
  · rintro (h | (h | h) | ⟨l₁, l₂, hl₁, hl₂, rfl, -, hp⟩)
    · exact .inl h
    · exact absurd (hstart hne h) hc
    · exact .inr h
    · exact absurd (List.mem_append_right _ (hstart hl₂ hp)) hc
  · rintro (h | h)
    · exact .inl h
    · exact .inr (.inl (.inr h))

end Cut

/-! ## Searching -/

section Find
variable {α : Type} [DecidableEq α]

/-- `s.find(pat)`. -/
def find (pat : List α) : List α → Option Nat
  | [] => if pat = [] then some 0 else none
  | c :: s => if pat <+: c :: s then some 0 else (find pat s).map (· + 1)

/-- `s.rfind(pat)`. -/
def rfind (pat : List α) : List α → Option Nat
  | [] => if pat = [] then some 0 else none
  | c :: s => match rfind pat s with
    | some i => some (i + 1)
    | none => if pat <+: c :: s then some 0 else none

/-- `s.find(pat, pos)`, for `pos` within the string. -/
def findFrom (pat s : List α) (pos : Nat) : Option Nat :=
  (find pat (s.drop pos)).map (· + pos)

/-- `s.find_first_of(set, pos)`. -/
def find_first_of (set s : List α) (pos : Nat) : Option Nat :=
  ((s.drop pos).findIdx? (· ∈ set)).map (· + pos)

/-- `s.substr(start, stop - start)`; to the end of the string when `stop` is `npos`. -/
def substrTo (s : List α) (start : Nat) : Option Nat → List α
  | none => s.drop start
  | some stop => (s.drop start).take (stop - start)

/-- What follows the first occurrence of `pat`. -/
def after (pat s : List α) : Option (List α) :=
  (find pat s).map fun i => s.drop (i + pat.length)

/-- Cutting at the first character of a set. -/
theorem substrTo_find_first_of (set s : List α) (start : Nat) :
    substrTo s start (find_first_of set s start) = (s.drop start).takeWhile (· ∉ set) := by
  unfold find_first_of
  cases h : (s.drop start).findIdx? (· ∈ set) with
  | none =>
    refine (List.takeWhile_eq_self_iff.2 fun c hc => ?_).symm
    simpa using List.findIdx?_eq_none_iff.1 h c hc
  | some i =>
    simp only [Option.map_some, substrTo, Nat.add_sub_cancel, take_findIdx h]
    simp

theorem find_single (c : α) (s : List α) : find [c] s = s.findIdx? (· = c) := by
  induction s with
  | nil => simp [find]
  | cons d s ih =>
    by_cases h : d = c
    · simp [find, h, List.findIdx?_cons]
    · simp [find, List.findIdx?_cons, h, Ne.symm h, ih]

/-- The first `c` is the one with no `c` before it. -/
theorem find_single_append {c : α} {a : List α} (h : c ∉ a) (b : List α) : find [c] (a ++ c :: b) = some a.length := by
  rw [find_single, List.findIdx?_append]
  have hnone : a.findIdx? (· = c) = none := by
    rw [List.findIdx?_eq_none_iff]
    intro d hd
    simpa using fun hdc : d = c => h (hdc ▸ hd)
  simp [hnone, List.findIdx?_cons]

/-- A string has one first `c`. -/
theorem cut_inj {c : α} {a a' b b' : List α} (ha : c ∉ a) (ha' : c ∉ a') (h : a ++ c :: b = a' ++ c :: b') :
    a = a' ∧ b = b' := by
  have hlen : a.length = a'.length := by
    have hfind := find_single_append ha b
    rw [h, find_single_append ha'] at hfind
    exact (Option.some.inj hfind).symm
  obtain ⟨rfl, htail⟩ := List.append_inj h hlen
  exact ⟨rfl, (List.cons.inj htail).2⟩

theorem find_single_eq_none_iff {c : α} {s : List α} : find [c] s = none ↔ c ∉ s := by
  rw [find_single, List.findIdx?_eq_none_iff]
  refine ⟨fun h hc => by simpa using h c hc, fun h d hd => ?_⟩
  simpa using fun hdc : d = c => h (hdc ▸ hd)

theorem findFrom_single_isSome_iff {c : α} {s : List α} {pos : Nat} :
    (findFrom [c] s pos).isSome = true ↔ c ∈ s.drop pos := by
  rw [findFrom, Option.isSome_map, Option.isSome_iff_ne_none, Ne, find_single_eq_none_iff, not_not]

theorem after_nil {pat : List α} (h : pat ≠ []) : after pat [] = none := by
  simp [after, find, h]

theorem after_cons (pat : List α) (c : α) (s : List α) :
    after pat (c :: s) = if pat <+: c :: s then some ((c :: s).drop pat.length) else after pat s := by
  unfold after
  rw [find]
  split
  · simp
  · cases find pat s with
    | none => rfl
    | some i => simp [Nat.add_right_comm i 1 pat.length]

/-- A prefix without the pattern's first character is skipped. -/
theorem after_skip (a : α) (p pre s : List α) (h : a ∉ pre) :
    after (a :: p) (pre ++ s) = after (a :: p) s := by
  induction pre with
  | nil => rfl
  | cons c pre ih =>
    simp only [List.mem_cons, not_or] at h
    rw [List.cons_append, after_cons, if_neg, ih h.2]
    exact fun hpre => h.1 (List.cons_prefix_cons.1 hpre).1

theorem find_isSome_of_prefix {pat s : List α} (h : pat <+: s) : find pat s = some 0 := by
  cases s with
  | nil => simp [find, List.prefix_nil.1 h]
  | cons c s => simp [find, h]

/-- `s.find(pat) == 0` is a prefix test. -/
theorem find_eq_zero_iff (pat s : List α) : find pat s = some 0 ↔ pat <+: s := by
  refine ⟨fun h => ?_, find_isSome_of_prefix⟩
  cases s with
  | nil =>
    by_cases hp : pat = []
    · simp [hp]
    · simp [find, hp] at h
  | cons c s =>
    by_cases hp : pat <+: c :: s
    · exact hp
    · cases hf : find pat s <;> simp [find, hp, hf] at h

theorem prefix_of_find {pat s : List α} {i : Nat} (h : find pat s = some i) : pat <+: s.drop i := by
  induction s generalizing i with
  | nil =>
    rw [find] at h
    split at h
    · rename_i hp
      simp [hp]
    · cases h
  | cons c s ih =>
    rw [find] at h
    split at h
    · rename_i hp
      rwa [← Option.some.inj h]
    · obtain ⟨j, hj, rfl⟩ := Option.map_eq_some_iff.1 h
      exact ih hj

/-! ## Which comes first -/

/-- A comparison of positions; `npos` is above all others. -/
def posLt : Option Nat → Option Nat → Bool
  | none, _ => false
  | some _, none => true
  | some a, some b => a < b

theorem posLt_shift (a b : Option Nat) (n : Nat) : posLt (a.map (· + n)) (b.map (· + n)) = posLt a b := by
  cases a <;> cases b <;> simp [posLt]

/-- A word starts before the first of a set of other characters exactly if it
is complete by then. -/
theorem posLt_find_iff {word set : List α} (hne : word ≠ []) (hset : ∀ c ∈ word, c ∉ set) (s : List α) :
    posLt (find word s) (s.findIdx? (· ∈ set)) = true ↔ word <:+: s.takeWhile (· ∉ set) := by
  induction s with
  | nil => simp [find, hne, posLt]
  | cons c s ih =>
    rw [List.findIdx?_cons]
    by_cases hc : c ∈ set
    · cases hfind : find word (c :: s) <;> simp [hc, hne, posLt]
    · have htake : (c :: s).takeWhile (· ∉ set) = c :: s.takeWhile (· ∉ set) := by simp [hc]
      have hprefix : word <+: c :: s.takeWhile (· ∉ set) ↔ word <+: c :: s := by
        rw [← htake]
        constructor
        · exact fun h => h.trans (List.takeWhile_prefix _)
        · rintro ⟨rest, hrest⟩
          rw [← hrest, List.takeWhile_append_of_pos (by simpa using hset)]
          exact List.prefix_append _ _
      rw [htake, List.infix_cons_iff, hprefix, find]
      by_cases hw : word <+: c :: s
      · simp only [hw, if_true, true_or, iff_true]
        cases hidx : s.findIdx? (· ∈ set) <;> simp [hc, posLt]
      · rw [if_neg hw, or_iff_right hw, ← ih]
        simp only [hc, decide_false, Bool.false_eq_true, if_false, posLt_shift]

end Find

/-! ## Splitting -/

section Split
variable {α : Type} [DecidableEq α]

/-- The pieces `std::getline(stream, piece, d)` yields until it fails: an
empty piece after the last delimiter is not one of them. -/
def getlineAll (d : α) : List α → List (List α)
  | [] => []
  | c :: s =>
    if c = d then [] :: getlineAll d s
    else match getlineAll d s with
      | [] => [[c]]
      | piece :: pieces => (c :: piece) :: pieces

theorem getlineAll_ne_nil (d : α) {s : List α} (h : s ≠ []) : getlineAll d s ≠ [] := by
  cases s with
  | nil => exact absurd rfl h
  | cons c s =>
    simp only [getlineAll]
    split
    · simp
    · split <;> simp

theorem getlineAll_cut (d : α) (piece s : List α) (h : d ∉ piece) :
    getlineAll d (piece ++ d :: s) = piece :: getlineAll d s := by
  induction piece with
  | nil => simp [getlineAll]
  | cons c piece ih =>
    simp only [List.mem_cons, not_or] at h
    simp [getlineAll, Ne.symm h.1, ih h.2]

theorem getlineAll_last (d : α) {piece : List α} (h : d ∉ piece) (hne : piece ≠ []) : getlineAll d piece = [piece] := by
  induction piece with
  | nil => exact absurd rfl hne
  | cons c piece ih =>
    simp only [List.mem_cons, not_or] at h
    cases piece with
    | nil => simp [getlineAll, Ne.symm h.1]
    | cons c' piece =>
      rw [getlineAll, if_neg (Ne.symm h.1), ih h.2 (List.cons_ne_nil _ _)]

/-- Without an empty piece at the end, these are all the pieces. -/
theorem getlineAll_eq_splitOn (d : α) {s : List α} (h : (s.splitOn d).getLast? ≠ some []) :
    getlineAll d s = s.splitOn d := by
  induction s with
  | nil => exact absurd rfl h
  | cons c s ih =>
    rw [List.splitOn_cons_eq_if_modifyHead] at h ⊢
    obtain ⟨piece, pieces, hs⟩ := List.exists_cons_of_ne_nil (List.splitOn_ne_nil d s)
    rw [hs] at h ih ⊢
    by_cases hc : c = d
    · simp only [hc, beq_self_eq_true, if_true, List.getLast?_cons_cons] at h ⊢
      rw [getlineAll, if_pos rfl, ih h]
    · simp only [beq_iff_eq, if_neg hc, List.modifyHead_cons] at h ⊢
      rw [getlineAll, if_neg hc]
      cases pieces with
      | cons p ps => rw [ih (by simpa using h)]
      | nil =>
        by_cases hpiece : piece = []
        · have hnil : s = [] := by simpa [hs, hpiece] using (List.intercalate_splitOn d : [d].intercalate (s.splitOn d) = s).symm
          simp [hnil, getlineAll, hpiece]
        · rw [ih (by simpa using hpiece)]

end Split

/-! ## Substrings -/

/-- `s.substr(pos, n)`, to the end of the string without `n`. -/
def substr (s : Str) (pos : Nat) (n : Option Nat := none) : Except Exn Str :=
  if pos > s.length then .error .out_of_range
  else match n with
    | none => .ok (s.drop pos)
    | some n => .ok ((s.drop pos).take n)

/-- A difference of two sizes, which wraps around below zero. -/
def sizeSub (a b : Nat) : Nat := if b ≤ a then a - b else a + 2 ^ 64 - b

/-- A text that starts with `pre` can be cut behind it. -/
theorem substr_of_prefix {pre s : Str} (h : pre <+: s) : substr s pre.length = .ok (s.drop pre.length) := by
  unfold substr
  rw [if_neg (Nat.not_lt.2 h.length_le)]

/-! ## Decimal numerals -/

/-- `std::to_string(n)`. -/
def to_string : Int → Str
  | .ofNat n => Nat.toDigits 10 n
  | .negSucc n => '-' :: Nat.toDigits 10 (n + 1)

/-- The number a run of digits stands for. -/
def ofDigits (ds : Str) : Nat := Nat.ofDigitChars 10 ds 0

/-- A numeral without its minus sign. -/
def unsigned : Str → Str
  | '-' :: ds => ds
  | ds => ds

/-- A decimal numeral: an optional minus sign and at least one digit. -/
def IsDecimal (s : Str) : Prop := unsigned s ≠ [] ∧ (unsigned s).all Char.isDigit

instance (s : Str) : Decidable (IsDecimal s) := inferInstanceAs (Decidable (_ ∧ _))

/-- The number a decimal numeral stands for. -/
def decimalVal : Str → Int
  | '-' :: ds => -(ofDigits ds : Int)
  | ds => ofDigits ds

def isspace (c : Char) : Bool := c ∈ [' ', '\t', '\n', '\x0b', '\x0c', '\r']

/-- The sign `strtol` reads (true for minus), and the rest. -/
def splitSign : Str → Bool × Str
  | '-' :: s => (true, s)
  | '+' :: s => (false, s)
  | s => (false, s)

/-- The number of a sign and a run of digits. -/
def signed (neg : Bool) (ds : Str) : Int := if neg then -(ofDigits ds : Int) else ofDigits ds

/-- What `strtol` and `strtoll` read in base 10: blanks, a sign, digits. -/
def strtol (s : Str) : Except Exn Int :=
  let (neg, s) := splitSign (s.dropWhile isspace)
  match s.takeWhile Char.isDigit with
  | [] => .error .invalid_argument
  | c :: ds => .ok (signed neg (c :: ds))

/-- `std::stoi(s)`. -/
def stoi (s : Str) : Except Exn Int32 := do
  let n ← strtol s
  if -2 ^ 31 ≤ n ∧ n < 2 ^ 31 then .ok (Int32.ofInt n) else .error .out_of_range

/-- `std::stoll(s)`. -/
def stoll (s : Str) : Except Exn Int := do
  let n ← strtol s
  if -2 ^ 63 ≤ n ∧ n < 2 ^ 63 then .ok n else .error .out_of_range

/-- `std::stoull(s)`: a minus sign negates modulo 2^64. -/
def stoull (s : Str) : Except Exn Nat := do
  let n ← strtol s
  if n.natAbs < 2 ^ 64 then .ok (n % 2 ^ 64).toNat else .error .out_of_range

/-- The result of an operation on two `int64_t`: one that does not fit wraps around. -/
def int64 (n : Int) : Int := n.bmod (2 ^ 64)

theorem int64_of_fits {n : Int} (h : -2 ^ 63 ≤ n ∧ n < 2 ^ 63) : int64 n = n :=
  Int.bmod_eq_of_le (by omega) (by omega)

/-- A numeral, behind blanks and up to anything else, within the range of `bits` bits. -/
def IsIntText (bits : Nat) (s : Str) : Prop :=
  match strtol s with
  | .error _ => False
  | .ok n => -2 ^ (bits - 1) ≤ n ∧ n < 2 ^ (bits - 1)

instance (bits : Nat) (s : Str) : Decidable (IsIntText bits s) := by
  unfold IsIntText
  cases strtol s <;> infer_instance

theorem stoi_isOk_iff (s : Str) : (∃ n, stoi s = .ok n) ↔ IsIntText 32 s := by
  unfold stoi IsIntText
  cases strtol s with
  | error e => simp [Bind.bind, Except.bind]
  | ok n =>
    simp only [Bind.bind, Except.bind]
    by_cases hn : (-2 ^ 31 ≤ n ∧ n < 2 ^ 31)
    · rw [if_pos hn]
      exact iff_of_true ⟨_, rfl⟩ hn
    · rw [if_neg hn]
      refine iff_of_false ?_ hn
      rintro ⟨m, hm⟩
      cases hm

theorem stoll_isOk_iff (s : Str) : (∃ n, stoll s = .ok n) ↔ IsIntText 64 s := by
  unfold stoll IsIntText
  cases strtol s with
  | error e => simp [Bind.bind, Except.bind]
  | ok n =>
    simp only [Bind.bind, Except.bind]
    by_cases hn : (-2 ^ 63 ≤ n ∧ n < 2 ^ 63)
    · rw [if_pos hn]
      exact iff_of_true ⟨_, rfl⟩ hn
    · rw [if_neg hn]
      refine iff_of_false ?_ hn
      rintro ⟨m, hm⟩
      cases hm

theorem isDigit_of_mem_toDigits {n : Nat} {c : Char} (h : c ∈ Nat.toDigits 10 n) : c.isDigit :=
  Nat.isDigit_of_mem_toDigits (by decide) (by decide) h

theorem ofDigits_toDigits (n : Nat) : ofDigits (Nat.toDigits 10 n) = n := by
  simp [ofDigits]

theorem toDigits_head (n : Nat) : ∃ c ds, Nat.toDigits 10 n = c :: ds ∧ c.isDigit := by
  obtain ⟨c, ds, h⟩ := List.exists_cons_of_ne_nil (Nat.toDigits_ne_nil (n := n) (b := 10))
  exact ⟨c, ds, h, isDigit_of_mem_toDigits (h ▸ List.mem_cons_self)⟩

theorem to_string_ne_nil (n : Int) : to_string n ≠ [] := by
  cases n <;> simp [to_string]

theorem mem_to_string {n : Int} {c : Char} (h : c ∈ to_string n) : c = '-' ∨ c.isDigit := by
  cases n with
  | ofNat n => exact .inr (isDigit_of_mem_toDigits h)
  | negSucc n =>
    rcases List.mem_cons.1 h with h | h
    · exact .inl h
    · exact .inr (isDigit_of_mem_toDigits h)

theorem not_mem_to_string {n : Int} {c : Char} (h : c ≠ '-') (hd : c.isDigit = false) : c ∉ to_string n := by
  intro hc
  rcases mem_to_string hc with h' | h'
  · exact h h'
  · simp [hd] at h'

theorem decimalVal_to_string (n : Int) : decimalVal (to_string n) = n := by
  cases n with
  | ofNat n =>
    obtain ⟨c, ds, h, hc⟩ := toDigits_head n
    have hne : c ≠ '-' := by rintro rfl; simp [Char.isDigit] at hc
    have hv := ofDigits_toDigits n
    simp only [to_string]
    rw [h] at hv ⊢
    rw [decimalVal]
    · simp [hv]
    · rintro ds' h'; exact hne (List.cons.inj h').1
  | negSucc n => simp [to_string, decimalVal, ofDigits_toDigits, Int.negSucc_eq]

theorem isDecimal_to_string (n : Int) : IsDecimal (to_string n) := by
  cases n with
  | ofNat n =>
    obtain ⟨c, ds, h, hc⟩ := toDigits_head n
    have hne : c ≠ '-' := by rintro rfl; simp [Char.isDigit] at hc
    have hds (d : Char) (hd : d ∈ c :: ds) : d.isDigit := isDigit_of_mem_toDigits (h ▸ hd)
    have hu : unsigned (to_string (.ofNat n)) = c :: ds := by
      simp only [to_string, h]
      unfold unsigned
      split
      · rename_i he; exact absurd (List.cons.inj he).1 hne
      · rfl
    unfold IsDecimal
    rw [hu]
    exact ⟨by simp, List.all_eq_true.2 hds⟩
  | negSucc n =>
    exact ⟨Nat.toDigits_ne_nil, List.all_eq_true.2 fun c hc => isDigit_of_mem_toDigits hc⟩

theorem to_string_injective : Function.Injective to_string := fun m n h => by
  rw [← decimalVal_to_string m, h, decimalVal_to_string]

theorem takeWhile_digits (ds : Str) {rest : Str} (h : ∀ c ∈ ds, c.isDigit) (hr : ∀ c ∈ rest.head?, c.isDigit = false) :
    (ds ++ rest).takeWhile Char.isDigit = ds := by
  rw [List.takeWhile_append_of_pos h]
  cases rest with
  | nil => simp
  | cons c rest => simp [hr c (by simp)]

theorem not_isspace_of_isDigit {c : Char} (hc : c.isDigit) : isspace c = false := by
  simp only [isspace, List.mem_cons, List.not_mem_nil, or_false, decide_eq_false_iff_not, not_or]
  refine ⟨?_, ?_, ?_, ?_, ?_, ?_⟩ <;> rintro rfl <;> simp [Char.isDigit] at hc

theorem splitSign_of_isDigit {c : Char} (hc : c.isDigit) (s : Str) : splitSign (c :: s) = (false, c :: s) := by
  unfold splitSign
  split
  · rename_i h; obtain ⟨rfl, -⟩ := List.cons.inj h; simp [Char.isDigit] at hc
  · rename_i h; obtain ⟨rfl, -⟩ := List.cons.inj h; simp [Char.isDigit] at hc
  · rfl

theorem splitSign_append_stop (s rest : Str) {c : Char} (hm : c ≠ '-') (hp : c ≠ '+') :
    splitSign (s ++ c :: rest) = ((splitSign s).1, (splitSign s).2 ++ c :: rest) := by
  cases s with
  | nil => simp [splitSign, hm, hp]
  | cons d s =>
    by_cases hdm : d = '-'
    · subst hdm
      rfl
    by_cases hdp : d = '+'
    · subst hdp
      rfl
    simp [splitSign, hdm, hdp]

/-- What follows a character of no numeral is not read. -/
theorem strtol_append_stop (s rest : Str) {c : Char} (hd : c.isDigit = false) (hs : isspace c = false) (hm : c ≠ '-')
    (hp : c ≠ '+') : strtol (s ++ c :: rest) = strtol s := by
  unfold strtol
  rw [dropWhile_append_stop s rest hs, splitSign_append_stop _ rest hm hp]
  dsimp only
  rw [takeWhile_append_stop _ rest hd]

/-- Blanks in front are skipped. -/
theorem strtol_replicate_space (k : Nat) (s : Str) : strtol (List.replicate k ' ' ++ s) = strtol s := by
  have hblank : ∀ c ∈ List.replicate k ' ', isspace c = true := fun c hc => by rw [(List.mem_replicate.1 hc).2]; rfl
  rw [strtol, strtol, List.dropWhile_append_of_pos hblank]

/-- A run of digits has no sign. It is read behind blanks and up to a non-digit. -/
theorem strtol_blanks_digits {lead ds rest : Str} (hlead : ∀ c ∈ lead, isspace c = true) (hne : ds ≠ [])
    (hds : ∀ c ∈ ds, c.isDigit) (hrest : ∀ c ∈ rest.head?, c.isDigit = false) :
    strtol (lead ++ (ds ++ rest)) = .ok (ofDigits ds) := by
  obtain ⟨c, ds, rfl⟩ := List.exists_cons_of_ne_nil hne
  have hc := hds c List.mem_cons_self
  have hblank : (c :: ds ++ rest).dropWhile isspace = c :: ds ++ rest := by
    rw [List.cons_append, List.dropWhile_cons, if_neg (by simp [not_isspace_of_isDigit hc])]
  have hread : (c :: ds ++ rest).takeWhile Char.isDigit = c :: ds := takeWhile_digits (c :: ds) hds hrest
  rw [strtol, List.dropWhile_append_of_pos hlead, hblank, List.cons_append, splitSign_of_isDigit hc]
  dsimp only
  rw [← List.cons_append, hread]
  rfl

theorem strtol_digits {s : Str} (hne : s ≠ []) (hs : ∀ c ∈ s, c.isDigit) : strtol s = .ok (ofDigits s) := by
  have h : strtol ([] ++ (s ++ [])) = .ok (ofDigits s) := strtol_blanks_digits nofun hne hs (by simp)
  rwa [List.nil_append, List.append_nil] at h

/-- Reading a printed number, up to a non-digit. -/
theorem strtol_to_string (n : Int) (rest : Str) (hr : ∀ c ∈ rest.head?, c.isDigit = false) :
    strtol (to_string n ++ rest) = .ok n := by
  cases n with
  | ofNat n =>
    obtain ⟨c, ds, h, hc⟩ := toDigits_head n
    have htw := takeWhile_digits (Nat.toDigits 10 n) (fun _ => isDigit_of_mem_toDigits) hr
    have hv := ofDigits_toDigits n
    have hd : (Nat.toDigits 10 n ++ rest).dropWhile isspace = c :: (ds ++ rest) := by
      rw [h, List.cons_append, List.dropWhile_cons, if_neg (by simp [not_isspace_of_isDigit hc])]
    rw [h, List.cons_append] at htw
    rw [h] at hv
    simp [to_string, strtol, hd, splitSign_of_isDigit hc, htw, signed, hv]
  | negSucc n =>
    obtain ⟨c, ds, h, -⟩ := toDigits_head (n + 1)
    have htw := takeWhile_digits (Nat.toDigits 10 (n + 1)) (fun _ => isDigit_of_mem_toDigits) hr
    have hv := ofDigits_toDigits (n + 1)
    rw [h, List.cons_append] at htw
    rw [h] at hv
    simp [to_string, strtol, isspace, splitSign, h, htw, signed, hv, Int.negSucc_eq]

theorem stoi_to_string (n : Int32) (rest : Str) (hr : ∀ c ∈ rest.head?, c.isDigit = false) :
    stoi (to_string n.toInt ++ rest) = .ok n := by
  have h1 := n.minValue_le_toInt
  have h2 := n.toInt_lt
  have hb : -2 ^ 31 ≤ n.toInt ∧ n.toInt < 2 ^ 31 := ⟨h1, h2⟩
  rw [stoi, strtol_to_string _ _ hr]
  simp only [Bind.bind, Except.bind, if_pos hb, Int32.ofInt_toInt]

theorem stoll_of_strtol {s : Str} {n : Int} (h : strtol s = .ok n) :
    stoll s = if -2 ^ 63 ≤ n ∧ n < 2 ^ 63 then .ok n else .error .out_of_range := by
  rw [stoll, h]
  rfl

theorem stoll_digits {s : Str} (hne : s ≠ []) (hs : ∀ c ∈ s, c.isDigit) :
    stoll s = if ofDigits s < 2 ^ 63 then .ok (ofDigits s : Int) else .error .out_of_range := by
  have hrange : (-2 ^ 63 ≤ (ofDigits s : Int) ∧ (ofDigits s : Int) < 2 ^ 63) ↔ ofDigits s < 2 ^ 63 := by omega
  rw [stoll_of_strtol (strtol_digits hne hs)]
  by_cases h : ofDigits s < 2 ^ 63
  · rw [if_pos h, if_pos (hrange.2 h)]
  · rw [if_neg h, if_neg (mt hrange.1 h)]

theorem stoll_to_string (n : Int) (hn : -2 ^ 63 ≤ n ∧ n < 2 ^ 63) : stoll (to_string n) = .ok n := by
  have h := strtol_to_string n [] (by simp)
  rw [List.append_nil] at h
  rw [stoll, h]
  simp only [Bind.bind, Except.bind, if_pos hn]

end Cxx
