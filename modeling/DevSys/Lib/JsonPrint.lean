import DevSys.Lib.JsonGrammar
import Mathlib.Tactic.IntervalCases
/-!
# Printing without escapes

A value that is printed without white space and without escapes is read back
exactly when its strings need none. In every JSON text the quotes are closed.
-/
open Cxx

namespace JsonGrammar

/-! ## Printing -/

mutual

def print : Value → Str
  | .str s => '"' :: (s ++ ['"'])
  | .num text => text
  | .bool b => if b then "true".toList else "false".toList
  | .null => "null".toList
  | .arr vs => '[' :: (printElements vs ++ [']'])
  | .obj fs => '{' :: (printMembers fs ++ ['}'])

def printElements : List Value → Str
  | [] => []
  | [v] => print v
  | v :: w :: vs => print v ++ ',' :: printElements (w :: vs)

def printMembers : List (Str × Value) → Str
  | [] => []
  | [(k, v)] => '"' :: (k ++ '"' :: ':' :: print v)
  | (k, v) :: f :: fs => '"' :: (k ++ '"' :: ':' :: (print v ++ ',' :: printMembers (f :: fs)))

end

mutual

/-- Every string needs no escapes, and every number is one. -/
def Clean (raw : Char → Prop) : Value → Prop
  | .str s => Plain raw s
  | .num text => Number text
  | .arr vs => CleanElements raw vs
  | .obj fs => CleanMembers raw fs
  | .bool _ | .null => True

def CleanElements (raw : Char → Prop) : List Value → Prop
  | [] => True
  | v :: vs => Clean raw v ∧ CleanElements raw vs

def CleanMembers (raw : Char → Prop) : List (Str × Value) → Prop
  | [] => True
  | (k, v) :: fs => Plain raw k ∧ Clean raw v ∧ CleanMembers raw fs

end

section
variable {raw : Char → Prop}

theorem cleanElements_iff {vs : List Value} : CleanElements raw vs ↔ ∀ v ∈ vs, Clean raw v := by
  induction vs with
  | nil => simp [CleanElements]
  | cons v vs ih => rw [CleanElements, ih, List.forall_mem_cons]

/-! ## White space -/

def IsBlank (c : Char) : Prop := c = ' ' ∨ c = '\t' ∨ c = '\n' ∨ c = '\r'

instance (c : Char) : Decidable (IsBlank c) := inferInstanceAs (Decidable (_ ∨ _))

theorem eq_nil_of_blank {w s t : Str} {c : Char} (hw : Blank w) (hc : ¬IsBlank c) (h : w ++ s = c :: t) : w = [] := by
  cases w with
  | nil => rfl
  | cons d w =>
    obtain ⟨rfl, -⟩ := List.cons.inj h
    exact absurd (hw d List.mem_cons_self) hc

theorem eq_of_blank_append {w s t : Str} {c d : Char} (hw : Blank w) (hd : ¬IsBlank d) (h : w ++ c :: s = d :: t) :
    s = t := by
  obtain rfl := eq_nil_of_blank hw hd h
  exact (List.cons.inj h).2

theorem not_isBlank_of_isDigit {c : Char} (h : c.isDigit) : ¬IsBlank c := by
  rintro (rfl | rfl | rfl | rfl) <;> cases h

theorem IntPart.head {s : Str} (h : IntPart s) : ∃ c t, s = c :: t ∧ c.isDigit := by
  rcases h with rfl | ⟨-, hne, hdigits⟩
  · exact ⟨'0', [], rfl, rfl⟩
  · obtain ⟨c, t, rfl⟩ := List.exists_cons_of_ne_nil hne
    exact ⟨c, t, rfl, hdigits c List.mem_cons_self⟩

theorem Number.head {s : Str} (h : Number s) : ∃ c t, s = c :: t ∧ ¬IsBlank c := by
  obtain ⟨sign, i, f, e, hsign, hi, -, -, rfl⟩ := h
  obtain ⟨c, t, rfl, hc⟩ := hi.head
  rcases hsign with rfl | rfl
  · exact ⟨c, _, rfl, not_isBlank_of_isDigit hc⟩
  · exact ⟨'-', _, rfl, by decide⟩

/-- A printed number has no zero in front of other digits. -/
theorem head_toDigits {n : Nat} (h : 0 < n) : (Nat.toDigits 10 n).head? ≠ some '0' := by
  induction n using Nat.strong_induction_on with
  | _ n ih =>
    rw [Nat.toDigits_eq_if (by decide)]
    split
    · interval_cases n <;> decide
    · rw [List.head?_append_of_ne_nil _ Nat.toDigits_ne_nil]
      exact ih (n / 10) (by omega) (by omega)

theorem number_to_string (n : Nat) : Number (to_string n) := by
  refine ⟨[], to_string n, [], [], .inl rfl, ?_, .inl rfl, .inl rfl, by simp⟩
  by_cases hn : n = 0
  · exact .inl (by rw [hn]; rfl)
  · exact .inr ⟨head_toDigits (Nat.pos_of_ne_zero hn), to_string_ne_nil n, fun c hc => isDigit_of_mem_toDigits hc⟩

/-! ## What a reading of a value looks like -/

theorem Reads.str_inv {t s r : Str} (h : Reads raw t (.str s) r) : ∃ t', t = '"' :: t' ∧ Quoted raw t' s r := by
  cases h with
  | str h => exact ⟨_, rfl, h⟩

theorem Reads.num_inv {t n r : Str} (h : Reads raw t (.num n) r) : Number n ∧ t = n ++ r := by
  cases h with
  | num h => exact ⟨h, rfl⟩

theorem Reads.bool_inv {t r : Str} {b : Bool} (h : Reads raw t (.bool b) r) : t = print (.bool b) ++ r := by
  cases h with
  | bool => rw [print]

theorem Reads.null_inv {t r : Str} (h : Reads raw t .null r) : t = print .null ++ r := by
  cases h with
  | null => rw [print]

theorem Reads.arr_nil_inv {t r : Str} (h : Reads raw t (.arr []) r) : ∃ w, Blank w ∧ t = '[' :: (w ++ ']' :: r) := by
  cases h with
  | arr_nil hw => exact ⟨_, hw, rfl⟩
  | arr h => cases h

theorem Reads.arr_cons_inv {t r : Str} {v : Value} {vs : List Value} (h : Reads raw t (.arr (v :: vs)) r) :
    ∃ s, t = '[' :: s ∧ Elements raw s (v :: vs) r := by
  cases h with
  | arr h => exact ⟨_, rfl, h⟩

theorem Reads.obj_nil_inv {t r : Str} (h : Reads raw t (.obj []) r) : ∃ w, Blank w ∧ t = '{' :: (w ++ '}' :: r) := by
  cases h with
  | obj_nil hw => exact ⟨_, hw, rfl⟩
  | obj h => cases h

theorem Reads.obj_cons_inv {t r : Str} {f : Str × Value} {fs : List (Str × Value)} (h : Reads raw t (.obj (f :: fs)) r) :
    ∃ s, t = '{' :: s ∧ Members raw s (f :: fs) r := by
  cases h with
  | obj h => exact ⟨_, rfl, h⟩

theorem Elements.last_inv {t r : Str} {v : Value} (h : Elements raw t [v] r) :
    ∃ w s w', Blank w ∧ Blank w' ∧ t = w ++ s ∧ Reads raw s v (w' ++ ']' :: r) := by
  cases h with
  | last hw hv hw' => exact ⟨_, _, _, hw, hw', rfl, hv⟩
  | more _ _ _ h => cases h

theorem Elements.more_inv {t r : Str} {v v' : Value} {vs : List Value} (h : Elements raw t (v :: v' :: vs) r) :
    ∃ w s w' u, Blank w ∧ Blank w' ∧ t = w ++ s ∧ Reads raw s v (w' ++ ',' :: u) ∧ Elements raw u (v' :: vs) r := by
  cases h with
  | more hw hv hw' h => exact ⟨_, _, _, _, hw, hw', rfl, hv, h⟩

theorem Members.last_inv {t r k : Str} {v : Value} (h : Members raw t [(k, v)] r) :
    ∃ w s w₁ w₂ t' w', Blank w ∧ Blank w₁ ∧ Blank w₂ ∧ Blank w' ∧ t = w ++ '"' :: s ∧
      Quoted raw s k (w₁ ++ ':' :: (w₂ ++ t')) ∧ Reads raw t' v (w' ++ '}' :: r) := by
  cases h with
  | last hw hk hw₁ hw₂ hv hw' => exact ⟨_, _, _, _, _, _, hw, hw₁, hw₂, hw', rfl, hk, hv⟩
  | more _ _ _ _ _ _ h => cases h

theorem Members.more_inv {t r k : Str} {v : Value} {f : Str × Value} {fs : List (Str × Value)}
    (h : Members raw t ((k, v) :: f :: fs) r) :
    ∃ w s w₁ w₂ t' w' u, Blank w ∧ Blank w₁ ∧ Blank w₂ ∧ Blank w' ∧ t = w ++ '"' :: s ∧
      Quoted raw s k (w₁ ++ ':' :: (w₂ ++ t')) ∧ Reads raw t' v (w' ++ ',' :: u) ∧ Members raw u (f :: fs) r := by
  cases h with
  | more hw hk hw₁ hw₂ hv hw' h => exact ⟨_, _, _, _, _, _, _, hw, hw₁, hw₂, hw', rfl, hk, hv, h⟩

/-- A value that is read is printed from something else than white space on. -/
theorem Reads.head_print {s r : Str} {v : Value} (h : Reads raw s v r) : ∃ c t, print v = c :: t ∧ ¬IsBlank c := by
  cases v with
  | str s => exact ⟨'"', _, by rw [print], by decide⟩
  | num text =>
    obtain ⟨c, t, htext, hc⟩ := h.num_inv.1.head
    exact ⟨c, t, by rw [print, htext], hc⟩
  | bool b =>
    cases b with
    | true => exact ⟨'t', "rue".toList, by rw [print]; rfl, by decide⟩
    | false => exact ⟨'f', "alse".toList, by rw [print]; rfl, by decide⟩
  | null => exact ⟨'n', "ull".toList, by rw [print]; rfl, by decide⟩
  | arr vs => exact ⟨'[', _, by rw [print], by decide⟩
  | obj fs => exact ⟨'{', _, by rw [print], by decide⟩

/-- There is no white space in front of a value that is printed. -/
theorem Reads.skip {w s r x : Str} {v : Value} (h : Reads raw s v r) (hw : Blank w) (heq : w ++ s = print v ++ x) :
    Reads raw (print v ++ x) v r := by
  obtain ⟨c, t, hprint, hc⟩ := h.head_print
  rw [hprint, List.cons_append] at heq
  have hnil := eq_nil_of_blank hw hc heq
  rw [hnil, List.nil_append, ← List.cons_append, ← hprint] at heq
  rwa [← heq]

/-- Nor is there any in a member. -/
theorem Reads.skip_member {w s k w₁ w₂ t r x : Str} {v : Value} (h : Reads raw t v r) (hw : Blank w) (hw₁ : Blank w₁)
    (hw₂ : Blank w₂) (hk : Quoted raw s k (w₁ ++ ':' :: (w₂ ++ t)))
    (heq : w ++ '"' :: s = '"' :: (k ++ '"' :: ':' :: (print v ++ x))) : Plain raw k ∧ Reads raw (print v ++ x) v r := by
  rw [eq_of_blank_append hw (by decide) heq] at hk
  obtain ⟨hplain, hbehind⟩ := quoted_iff.1 hk
  exact ⟨hplain, h.skip hw₂ (eq_of_blank_append hw₁ (by decide) hbehind)⟩

/-! ## Reading what is printed -/

mutual

/-- A printed value is read back exactly if it is clean. -/
theorem reads_print_iff (v : Value) (r r' : Str) : Reads raw (print v ++ r) v r' ↔ Clean raw v ∧ r' = r := by
  -- there are no blanks in front of a printed value, so that its first character
  -- tells the rule
  cases v with
  | str s =>
    have hprint : print (.str s) ++ r = '"' :: (s ++ '"' :: r) := by simp [print]
    rw [hprint, Clean, ← quoted_iff]
    constructor
    · intro h
      obtain ⟨t, ht, hquoted⟩ := h.str_inv
      rwa [(List.cons.inj ht).2]
    · exact .str
  | num text =>
    rw [print, Clean]
    constructor
    · intro h
      obtain ⟨hnum, ht⟩ := h.num_inv
      exact ⟨hnum, (List.append_cancel_left ht).symm⟩
    · rintro ⟨hnum, rfl⟩
      exact .num hnum
  | bool b =>
    rw [Clean, true_and]
    constructor
    · exact fun h => (List.append_cancel_left h.bool_inv).symm
    · rintro rfl
      rw [print]
      exact .bool
  | null =>
    rw [Clean, true_and]
    constructor
    · exact fun h => (List.append_cancel_left h.null_inv).symm
    · rintro rfl
      rw [print]
      exact .null
  | arr vs =>
    have hprint : print (.arr vs) ++ r = '[' :: (printElements vs ++ ']' :: r) := by simp [print]
    rw [hprint, Clean]
    cases vs with
    | nil =>
      rw [printElements, CleanElements, true_and, List.nil_append]
      constructor
      · intro h
        obtain ⟨w, hw, ht⟩ := h.arr_nil_inv
        exact eq_of_blank_append hw (by decide) (List.cons.inj ht).2.symm
      · rintro rfl
        exact .arr_nil blank_nil
    | cons v vs =>
      rw [← elements_print_iff (v :: vs) (List.cons_ne_nil _ _)]
      constructor
      · intro h
        obtain ⟨s, hs, helements⟩ := h.arr_cons_inv
        rwa [(List.cons.inj hs).2]
      · exact .arr
  | obj fs =>
    have hprint : print (.obj fs) ++ r = '{' :: (printMembers fs ++ '}' :: r) := by simp [print]
    rw [hprint, Clean]
    cases fs with
    | nil =>
      rw [printMembers, CleanMembers, true_and, List.nil_append]
      constructor
      · intro h
        obtain ⟨w, hw, ht⟩ := h.obj_nil_inv
        exact eq_of_blank_append hw (by decide) (List.cons.inj ht).2.symm
      · rintro rfl
        exact .obj_nil blank_nil
    | cons f fs =>
      rw [← members_print_iff (f :: fs) (List.cons_ne_nil _ _)]
      constructor
      · intro h
        obtain ⟨s, hs, hmembers⟩ := h.obj_cons_inv
        rwa [(List.cons.inj hs).2]
      · exact .obj

theorem elements_print_iff (vs : List Value) (hne : vs ≠ []) (r r' : Str) :
    Elements raw (printElements vs ++ ']' :: r) vs r' ↔ CleanElements raw vs ∧ r' = r := by
  obtain _ | ⟨v, _ | ⟨v', vs⟩⟩ := vs
  · exact absurd rfl hne
  · rw [printElements, CleanElements, CleanElements, and_true]
    constructor
    · intro h
      obtain ⟨w, s, w', hw, hw', ht, hv⟩ := h.last_inv
      obtain ⟨hclean, hrest⟩ := (reads_print_iff v _ _).1 (hv.skip hw ht.symm)
      exact ⟨hclean, eq_of_blank_append hw' (by decide) hrest⟩
    · rintro ⟨hclean, rfl⟩
      exact .last (w := []) blank_nil ((reads_print_iff v _ _).2 ⟨hclean, rfl⟩) blank_nil
  · have hprint : printElements (v :: v' :: vs) ++ ']' :: r = print v ++ ',' :: (printElements (v' :: vs) ++ ']' :: r) := by
      simp [printElements]
    rw [hprint, CleanElements, and_assoc, ← elements_print_iff (v' :: vs) (List.cons_ne_nil _ _)]
    constructor
    · intro h
      obtain ⟨w, s, w', u, hw, hw', ht, hv, helements⟩ := h.more_inv
      obtain ⟨hclean, hrest⟩ := (reads_print_iff v _ _).1 (hv.skip hw ht.symm)
      rw [eq_of_blank_append hw' (by decide) hrest] at helements
      exact ⟨hclean, helements⟩
    · rintro ⟨hclean, helements⟩
      exact .more (w := []) blank_nil ((reads_print_iff v _ _).2 ⟨hclean, rfl⟩) blank_nil helements

theorem members_print_iff (fs : List (Str × Value)) (hne : fs ≠ []) (r r' : Str) :
    Members raw (printMembers fs ++ '}' :: r) fs r' ↔ CleanMembers raw fs ∧ r' = r := by
  obtain _ | ⟨⟨k, v⟩, _ | ⟨f, fs⟩⟩ := fs
  · exact absurd rfl hne
  · have hprint : printMembers [(k, v)] ++ '}' :: r = '"' :: (k ++ '"' :: ':' :: (print v ++ '}' :: r)) := by
      simp [printMembers]
    rw [hprint, CleanMembers, CleanMembers, and_true]
    constructor
    · intro h
      obtain ⟨w, s, w₁, w₂, t, w', hw, hw₁, hw₂, hw', ht, hk, hv⟩ := h.last_inv
      obtain ⟨hplain, hv⟩ := hv.skip_member hw hw₁ hw₂ hk ht.symm
      obtain ⟨hclean, hrest⟩ := (reads_print_iff v _ _).1 hv
      exact ⟨⟨hplain, hclean⟩, eq_of_blank_append hw' (by decide) hrest⟩
    · rintro ⟨⟨hplain, hclean⟩, rfl⟩
      exact .singleton hplain ((reads_print_iff v _ _).2 ⟨hclean, rfl⟩)
  · have hprint : printMembers ((k, v) :: f :: fs) ++ '}' :: r =
        '"' :: (k ++ '"' :: ':' :: (print v ++ ',' :: (printMembers (f :: fs) ++ '}' :: r))) := by
      simp [printMembers]
    rw [hprint, CleanMembers, and_assoc, and_assoc, ← members_print_iff (f :: fs) (List.cons_ne_nil _ _)]
    constructor
    · intro h
      obtain ⟨w, s, w₁, w₂, t, w', u, hw, hw₁, hw₂, hw', ht, hk, hv, hmembers⟩ := h.more_inv
      obtain ⟨hplain, hv⟩ := hv.skip_member hw hw₁ hw₂ hk ht.symm
      obtain ⟨hclean, hrest⟩ := (reads_print_iff v _ _).1 hv
      rw [eq_of_blank_append hw' (by decide) hrest] at hmembers
      exact ⟨hplain, hclean, hmembers⟩
    · rintro ⟨hplain, hclean, hmembers⟩
      exact .cons hplain ((reads_print_iff v _ _).2 ⟨hclean, rfl⟩) hmembers

end

/-- The whole text is the value exactly if that is clean. -/
theorem text_print_iff (v : Value) : Text raw (print v) v ↔ Clean raw v := by
  have hread (r' : Str) : Reads raw (print v) v r' ↔ Clean raw v ∧ r' = [] := by
    simpa only [List.append_nil] using reads_print_iff v [] r'
  constructor
  · rintro ⟨w, t, w', hw, -, heq, h⟩
    rw [← List.append_nil (print v)] at heq
    have hskip := h.skip hw heq.symm
    rw [List.append_nil] at hskip
    exact ((hread w').1 hskip).1
  · intro hclean
    exact ⟨[], print v, [], blank_nil, blank_nil, rfl, (hread []).2 ⟨hclean, rfl⟩⟩

/-! ## Closed quotes -/

/-- Where a character stands in a text: outside of the strings, in one, or behind
a backslash in one. -/
inductive Place where
  | outside
  | inside
  | escaped
  deriving DecidableEq

def Place.next : Place → Char → Place
  | .outside, c => if c = '"' then .inside else .outside
  | .inside, c => if c = '"' then .outside else if c = '\\' then .escaped else .inside
  | .escaped, _ => .inside

/-- The strings of a text are closed up to the rest `r`. -/
def Closes (s r : Str) : Prop := ∃ pre, s = pre ++ r ∧ pre.foldl Place.next .outside = .outside

theorem Closes.trans {s r t : Str} (h : Closes s r) (h' : Closes r t) : Closes s t := by
  obtain ⟨pre, rfl, hpre⟩ := h
  obtain ⟨pre', rfl, hpre'⟩ := h'
  exact ⟨pre ++ pre', by simp, by rw [List.foldl_append, hpre, hpre']⟩

theorem Closes.of_not_mem {t : Str} (h : '"' ∉ t) (r : Str) : Closes (t ++ r) r := by
  refine ⟨t, rfl, ?_⟩
  induction t with
  | nil => rfl
  | cons c t ih =>
    simp only [List.mem_cons, not_or] at h
    rw [List.foldl_cons, Place.next, if_neg (Ne.symm h.1)]
    exact ih h.2

theorem Closes.of_blank {w : Str} (hw : Blank w) (r : Str) : Closes (w ++ r) r := by
  refine .of_not_mem (fun hmem => ?_) r
  have hblank : ¬IsBlank '"' := by decide
  exact hblank (hw _ hmem)

theorem Closes.of_ne {c : Char} (h : c ≠ '"') (r : Str) : Closes (c :: r) r :=
  .of_not_mem (t := [c]) (by simpa using Ne.symm h) r

theorem next_of_hexDigit {c : Char} {n : Nat} (h : hexDigit c = some n) : Place.next .inside c = .inside := by
  have hquote : hexDigit '"' = none := by decide
  have hback : hexDigit '\\' = none := by decide
  rw [Place.next, if_neg, if_neg]
  · rintro rfl
    exact absurd (hback.symm.trans h) (by simp)
  · rintro rfl
    exact absurd (hquote.symm.trans h) (by simp)

theorem foldl_of_unit {a b c d : Char} {n : Nat} (h : unit a b c d = some n) :
    [a, b, c, d].foldl Place.next .inside = .inside := by
  simp only [unit, Option.bind_eq_bind, Option.bind_eq_some_iff] at h
  obtain ⟨_, ha, _, hb, _, hc, _, hd, -⟩ := h
  simp only [List.foldl_cons, List.foldl_nil, next_of_hexDigit ha, next_of_hexDigit hb, next_of_hexDigit hc,
    next_of_hexDigit hd]

theorem Coded.foldl_next {ds : Str} {c : Char} (h : Coded ds c) : ds.foldl Place.next .inside = .inside := by
  cases h with
  | one hunit _ => exact foldl_of_unit hunit
  | @two a b c d a' b' c' d' _ _ hhi hlo _ _ _ _ =>
    have hsplit : [a, b, c, d, '\\', 'u', a', b', c', d'] = [a, b, c, d] ++ ('\\' :: 'u' :: [a', b', c', d']) := rfl
    rw [hsplit, List.foldl_append, foldl_of_unit hhi]
    exact foldl_of_unit hlo

/-- A string is closed by the quote it ends with. -/
theorem Quoted.closes {s v r : Str} (h : Quoted raw s v r) : Closes ('"' :: s) r := by
  have hinside : ∃ pre, s = pre ++ r ∧ pre.foldl Place.next .inside = .outside := by
    induction h with
    | close => exact ⟨['"'], rfl, rfl⟩
    | @plain c _ _ _ _ hquote hback _ ih =>
      obtain ⟨pre, rfl, hpre⟩ := ih
      exact ⟨c :: pre, rfl, by rwa [List.foldl_cons, Place.next, if_neg hquote, if_neg hback]⟩
    | @escape e _ _ _ _ _ _ ih =>
      obtain ⟨pre, rfl, hpre⟩ := ih
      exact ⟨'\\' :: e :: pre, rfl, hpre⟩
    | @coded ds _ _ _ _ hcoded _ ih =>
      obtain ⟨pre, rfl, hpre⟩ := ih
      refine ⟨'\\' :: 'u' :: (ds ++ pre), by simp, ?_⟩
      show (ds ++ pre).foldl Place.next .inside = .outside
      rw [List.foldl_append, hcoded.foldl_next, hpre]
  obtain ⟨pre, rfl, hpre⟩ := hinside
  exact ⟨'"' :: pre, rfl, hpre⟩

theorem Digits.not_mem {s : Str} {c : Char} (h : Digits s) (hc : c.isDigit = false) : c ∉ s := by
  intro hmem
  rw [h.2 c hmem] at hc
  cases hc

theorem Number.quote_not_mem {s : Str} (h : Number s) : '"' ∉ s := by
  have hquote : '"'.isDigit = false := rfl
  obtain ⟨sign, i, f, e, hsign, hi, hf, he, rfl⟩ := h
  simp only [List.mem_append, not_or]
  refine ⟨?_, ?_, ?_, ?_⟩
  · rcases hsign with rfl | rfl <;> decide
  · rcases hi with rfl | ⟨-, hdigits⟩
    · decide
    · exact hdigits.not_mem hquote
  · rcases hf with rfl | ⟨ds, hdigits, rfl⟩
    · decide
    · simpa using hdigits.not_mem hquote
  · rcases he with rfl | ⟨x, sgn, ds, hx, hsgn, hdigits, rfl⟩
    · decide
    · have hnot := hdigits.not_mem hquote
      rcases hx with rfl | rfl <;> rcases hsgn with rfl | rfl | rfl <;> simpa using hnot

/-- The strings of a value are closed where it ends. -/
theorem Reads.closes {s r : Str} {v : Value} (h : Reads raw s v r) : Closes s r := by
  refine @Reads.rec raw (fun s _ r _ => Closes s r) (fun s _ r _ => Closes s r) (fun s _ r _ => Closes s r)
    ?_ ?_ ?_ ?_ ?_ ?_ ?_ ?_ ?_ ?_ ?_ ?_ s v r h
  · intro s v r h
    exact h.closes
  · intro t r h
    exact .of_not_mem h.quote_not_mem r
  · intro b r
    cases b <;> exact .of_not_mem (by decide) r
  · intro r
    exact .of_not_mem (by decide) r
  · intro w r hw
    exact (Closes.of_ne (by decide) _).trans ((Closes.of_blank hw _).trans (.of_ne (by decide) r))
  · intro s vs r _ ih
    exact (Closes.of_ne (by decide) _).trans ih
  · intro w r hw
    exact (Closes.of_ne (by decide) _).trans ((Closes.of_blank hw _).trans (.of_ne (by decide) r))
  · intro s fs r _ ih
    exact (Closes.of_ne (by decide) _).trans ih
  · intro w s v w' r hw _ hw' ih
    exact (Closes.of_blank hw _).trans (ih.trans ((Closes.of_blank hw' _).trans (.of_ne (by decide) r)))
  · intro w s v w' t vs r hw _ hw' _ ih ihs
    exact (Closes.of_blank hw _).trans
      (ih.trans ((Closes.of_blank hw' _).trans ((Closes.of_ne (by decide) t).trans ihs)))
  · intro w s k w₁ w₂ t v w' r hw hk hw₁ hw₂ _ hw' ih
    exact (Closes.of_blank hw _).trans (hk.closes.trans ((Closes.of_blank hw₁ _).trans
      ((Closes.of_ne (by decide) _).trans ((Closes.of_blank hw₂ _).trans
        (ih.trans ((Closes.of_blank hw' _).trans (.of_ne (by decide) r)))))))
  · intro w s k w₁ w₂ t v w' u fs r hw hk hw₁ hw₂ _ hw' _ ih ihs
    exact (Closes.of_blank hw _).trans (hk.closes.trans ((Closes.of_blank hw₁ _).trans
      ((Closes.of_ne (by decide) _).trans ((Closes.of_blank hw₂ _).trans
        (ih.trans ((Closes.of_blank hw' _).trans ((Closes.of_ne (by decide) u).trans ihs)))))))

/-- In a text that is one value every string is closed. -/
theorem Text.closed {s : Str} {v : Value} (h : Text raw s v) : s.foldl Place.next .outside = .outside := by
  obtain ⟨w, t, w', hw, hw', rfl, h⟩ := h
  obtain ⟨pre, hpre, hclosed⟩ :=
    ((Closes.of_blank hw t).trans h.closes).trans (by simpa using Closes.of_blank hw' [])
  rw [hpre, List.append_nil, hclosed]

end

end JsonGrammar
