import DevSys.Lib.Strings
import Mathlib.Data.Bool.AllAny
/-!
# JSON texts and their values

The grammar of JSON, as relations between a text, the value at its start and
what is behind it. A string that is put between quotes without escapes is read
back exactly when it needed none.
-/
open Cxx

namespace JsonGrammar

/-! ## Strings -/

/-- What a character behind a backslash stands for, `u` apart. -/
def unescape : Char → Option Char
  | '"' => some '"'
  | '\\' => some '\\'
  | '/' => some '/'
  | 'b' => some '\x08'
  | 'f' => some '\x0c'
  | 'n' => some '\n'
  | 'r' => some '\r'
  | 't' => some '\t'
  | _ => none

def hexDigit (c : Char) : Option Nat :=
  if '0' ≤ c ∧ c ≤ '9' then some (c.toNat - '0'.toNat)
  else if 'a' ≤ c ∧ c ≤ 'f' then some (c.toNat - 'a'.toNat + 10)
  else if 'A' ≤ c ∧ c ≤ 'F' then some (c.toNat - 'A'.toNat + 10)
  else none

/-- The 16-bit number of four digits. -/
def unit (a b c d : Char) : Option Nat := do
  let a ← hexDigit a
  let b ← hexDigit b
  let c ← hexDigit c
  let d ← hexDigit d
  some (((a * 16 + b) * 16 + c) * 16 + d)

/-- What stands behind `\u`: a character by its number, or by two surrogates. -/
inductive Coded : Str → Char → Prop
  | one {a b c d n} : unit a b c d = some n → n < 0xD800 ∨ 0xE000 ≤ n → Coded [a, b, c, d] (Char.ofNat n)
  | two {a b c d a' b' c' d' hi lo} : unit a b c d = some hi → unit a' b' c' d' = some lo → 0xD800 ≤ hi → hi < 0xDC00 →
      0xDC00 ≤ lo → lo < 0xE000 →
      Coded [a, b, c, d, '\\', 'u', a', b', c', d'] (Char.ofNat (0x10000 + (hi - 0xD800) * 0x400 + (lo - 0xDC00)))

/-- The text behind an opening quote, the string it stands for, and what is
behind its first unescaped quote. The characters that are `raw` may stand for
themselves. -/
inductive Quoted (raw : Char → Prop) : Str → Str → Str → Prop
  | close {r} : Quoted raw ('"' :: r) [] r
  | plain {c s v r} : raw c → c ≠ '"' → c ≠ '\\' → Quoted raw s v r → Quoted raw (c :: s) (c :: v) r
  | escape {e c s v r} : unescape e = some c → Quoted raw s v r → Quoted raw ('\\' :: e :: s) (c :: v) r
  | coded {ds c s v r} : Coded ds c → Quoted raw s v r → Quoted raw ('\\' :: 'u' :: (ds ++ s)) (c :: v) r

/-- A character that may stand for itself in a JSON string. -/
def Allowed (c : Char) : Prop := ' ' ≤ c

instance : DecidablePred Allowed := fun c => inferInstanceAs (Decidable (' ' ≤ c))

/-- A string that needs no escapes. -/
def Plain (raw : Char → Prop) (s : Str) : Prop := ∀ c ∈ s, raw c ∧ c ≠ '"' ∧ c ≠ '\\'

instance (raw : Char → Prop) [DecidablePred raw] (s : Str) : Decidable (Plain raw s) := List.decidableBAll _ _

section
variable {raw : Char → Prop}

theorem quote_not_mem_of_unit {a b c d : Char} {n : Nat} (h : unit a b c d = some n) : '"' ∉ [a, b, c, d] := by
  have hquote : hexDigit '"' = none := by decide
  intro hmem
  simp only [List.mem_cons, List.not_mem_nil, or_false] at hmem
  simp only [unit, Option.bind_eq_bind, Option.bind_eq_some_iff] at h
  obtain ⟨_, ha, _, hb, _, hc, _, hd, -⟩ := h
  rcases hmem with rfl | rfl | rfl | rfl
  · exact absurd (hquote.symm.trans ha) (by simp)
  · exact absurd (hquote.symm.trans hb) (by simp)
  · exact absurd (hquote.symm.trans hc) (by simp)
  · exact absurd (hquote.symm.trans hd) (by simp)

theorem Coded.quote_not_mem {ds : Str} {c : Char} (h : Coded ds c) : '"' ∉ ds := by
  cases h with
  | one hunit _ => exact quote_not_mem_of_unit hunit
  | two hhi hlo _ _ _ _ =>
    have hhi := quote_not_mem_of_unit hhi
    have hlo := quote_not_mem_of_unit hlo
    simp only [List.mem_cons, List.not_mem_nil, or_false, not_or] at hhi hlo ⊢
    exact ⟨hhi.1, hhi.2.1, hhi.2.2.1, hhi.2.2.2, by decide, by decide, hlo⟩

theorem Plain.quoted {s : Str} (h : Plain raw s) (r : Str) : Quoted raw (s ++ '"' :: r) s r := by
  induction s with
  | nil => exact .close
  | cons c s ih =>
    obtain ⟨⟨hraw, hquote, hback⟩, hs⟩ := List.forall_mem_cons.1 h
    exact .plain hraw hquote hback (ih hs)

/-- What stands before the first quote of a text, if it has none itself, ends
before that quote. -/
theorem exists_of_append_eq {ds s y r : Str} (hds : '"' ∉ ds) (h : ds ++ s = y ++ '"' :: r) :
    ∃ y', y = ds ++ y' ∧ s = y' ++ '"' :: r := by
  rcases List.append_eq_append_iff.1 h with ⟨as, rfl, hs⟩ | ⟨as, rfl, hs⟩
  · exact ⟨as, rfl, hs⟩
  · cases as with
    | nil => exact ⟨[], by simp, by simpa using hs.symm⟩
    | cons c as =>
      obtain ⟨rfl, -⟩ := List.cons.inj hs
      exact absurd (List.mem_append_right y List.mem_cons_self) hds

/-- A reader that has taken in more of a string than it has given out cannot
give out all of it by the quote behind it: only an escaped quote leads past
that, and the surplus `d` has none. -/
theorem Quoted.not_ahead {s v r' : Str} (h : Quoted raw s v r') {d y r : Str} (hd : d ≠ []) (hquote : '"' ∉ d)
    (hs : s = y ++ '"' :: r) (hv : v = d ++ y) : False := by
  induction h generalizing d y with
  | close => exact hd (List.append_eq_nil_iff.1 hv.symm).1
  | @plain c s v r' hraw hc hback _ ih =>
    obtain ⟨x, d, rfl⟩ := List.exists_cons_of_ne_nil hd
    obtain ⟨y, rfl, hrest⟩ := exists_of_append_eq (show '"' ∉ [c] by simpa using Ne.symm hc) hs
    obtain ⟨rfl, hvalue⟩ := List.cons.inj hv
    simp only [List.mem_cons, not_or] at hquote
    exact ih (d := d ++ [c]) (by simp) (by simpa using ⟨hquote.2, hquote.1⟩) hrest (by simp [hvalue])
  | @escape e c s v r' hunescape _ ih =>
    obtain ⟨x, d, rfl⟩ := List.exists_cons_of_ne_nil hd
    obtain ⟨rfl, hvalue⟩ := List.cons.inj hv
    simp only [List.mem_cons, not_or] at hquote
    -- an escaped quote is not what is given out next
    have he : e ≠ '"' := by
      rintro rfl
      exact hquote.1 (Option.some.inj hunescape)
    have hesc : '"' ∉ ['\\', e] := by simpa using Ne.symm he
    obtain ⟨y, rfl, hrest⟩ := exists_of_append_eq hesc hs
    exact ih (d := d ++ ['\\', e]) (by simp) (by simpa using ⟨hquote.2, Ne.symm he⟩) hrest (by simp [hvalue])
  | @coded ds c s v r' hcoded _ ih =>
    obtain ⟨x, d, rfl⟩ := List.exists_cons_of_ne_nil hd
    obtain ⟨rfl, hvalue⟩ := List.cons.inj hv
    simp only [List.mem_cons, not_or] at hquote
    have hds := hcoded.quote_not_mem
    have hesc : '"' ∉ '\\' :: 'u' :: ds := by simpa using hds
    obtain ⟨y, rfl, hrest⟩ := exists_of_append_eq hesc hs
    exact ih (d := d ++ '\\' :: 'u' :: ds) (by simp) (by simpa using ⟨hquote.2, hds⟩) hrest (by simp [hvalue])

/-- Put between quotes as it is, a string is read back exactly when it is plain. -/
theorem quoted_iff {s r r' : Str} : Quoted raw (s ++ '"' :: r) s r' ↔ Plain raw s ∧ r' = r := by
  constructor
  · intro h
    induction s with
    | nil =>
      cases h with
      | close => exact ⟨by simp [Plain], rfl⟩
    | cons c s ih =>
      generalize htext : c :: s ++ '"' :: r = text at h
      generalize hvalue : c :: s = value at h
      cases h with
      | close => cases hvalue
      | plain hraw hquote hback h =>
        obtain ⟨rfl, rfl⟩ := List.cons.inj hvalue
        obtain ⟨-, rfl⟩ := List.cons.inj htext
        obtain ⟨hplain, rfl⟩ := ih h
        exact ⟨List.forall_mem_cons.2 ⟨⟨hraw, hquote, hback⟩, hplain⟩, rfl⟩
      | @escape e c' t v _ hunescape h =>
        obtain ⟨rfl, rfl⟩ := List.cons.inj hvalue
        obtain ⟨rfl, hbehind⟩ := List.cons.inj htext
        have he : e ≠ '"' := by
          rintro rfl
          cases hunescape
        obtain ⟨y, rfl, ht⟩ := exists_of_append_eq (show '"' ∉ [e] by simpa using Ne.symm he) hbehind.symm
        exact (h.not_ahead (d := [e]) (by simp) (by simpa using Ne.symm he) ht rfl).elim
      | @coded ds c' t v _ hcoded h =>
        obtain ⟨rfl, rfl⟩ := List.cons.inj hvalue
        obtain ⟨rfl, hbehind⟩ := List.cons.inj htext
        have hesc : '"' ∉ 'u' :: ds := by simpa using hcoded.quote_not_mem
        obtain ⟨y, rfl, ht⟩ := exists_of_append_eq hesc hbehind.symm
        exact (h.not_ahead (d := 'u' :: ds) (by simp) hesc ht rfl).elim
  · rintro ⟨hplain, rfl⟩
    exact hplain.quoted _

/-- A code is as long as its first number says. -/
theorem Coded.unique {ds ds' s s' : Str} {c c' : Char} (h : Coded ds c) (h' : Coded ds' c') (heq : ds ++ s = ds' ++ s') :
    c = c' ∧ s = s' := by
  cases h with
  | one hn hplane =>
    cases h' with
    | one hn' _ =>
      simp only [List.cons_append, List.nil_append, List.cons.injEq] at heq
      obtain ⟨rfl, rfl, rfl, rfl, rfl⟩ := heq
      cases hn.symm.trans hn'
      exact ⟨rfl, rfl⟩
    | two hhi _ hlow hhigh _ _ =>
      simp only [List.cons_append, List.nil_append, List.cons.injEq] at heq
      obtain ⟨rfl, rfl, rfl, rfl, -⟩ := heq
      cases hn.symm.trans hhi
      omega
  | two hhi hlo hlow hhigh _ _ =>
    cases h' with
    | one hn hplane =>
      simp only [List.cons_append, List.nil_append, List.cons.injEq] at heq
      obtain ⟨rfl, rfl, rfl, rfl, -⟩ := heq
      cases hn.symm.trans hhi
      omega
    | two hhi' hlo' _ _ _ _ =>
      simp only [List.cons_append, List.nil_append, List.cons.injEq] at heq
      obtain ⟨rfl, rfl, rfl, rfl, -, -, rfl, rfl, rfl, rfl, rfl⟩ := heq
      cases hhi.symm.trans hhi'
      cases hlo.symm.trans hlo'
      exact ⟨rfl, rfl⟩

/-- A text has one first unescaped quote, and stands for one string up to it. -/
theorem Quoted.unique {s v v' r r' : Str} (h : Quoted raw s v r) (h' : Quoted raw s v' r') : v = v' ∧ r = r' := by
  -- the first characters tell which rule it was
  induction h generalizing v' r' with
  | close =>
    cases h' with
    | close => exact ⟨rfl, rfl⟩
    | plain _ hquote _ _ => exact absurd rfl hquote
  | plain hraw hquote hback _ ih =>
    cases h' with
    | close => exact absurd rfl hquote
    | plain _ _ _ h' =>
      obtain ⟨rfl, rfl⟩ := ih h'
      exact ⟨rfl, rfl⟩
    | escape _ _ => exact absurd rfl hback
    | coded _ _ => exact absurd rfl hback
  | escape hunescape _ ih =>
    generalize htext : '\\' :: _ :: _ = text at h'
    cases h' with
    | close => cases htext
    | plain _ _ hback' _ => exact absurd (List.cons.inj htext).1.symm hback'
    | escape hunescape' h' =>
      obtain ⟨-, rfl, rfl⟩ := List.cons_eq_cons.1 htext |>.imp_right List.cons.inj
      cases hunescape.symm.trans hunescape'
      obtain ⟨rfl, rfl⟩ := ih h'
      exact ⟨rfl, rfl⟩
    | coded _ _ =>
      obtain ⟨-, rfl, -⟩ := List.cons_eq_cons.1 htext |>.imp_right List.cons.inj
      cases hunescape
  | coded hcoded _ ih =>
    generalize htext : '\\' :: 'u' :: _ = text at h'
    cases h' with
    | close => cases htext
    | plain _ _ hback' _ => exact absurd (List.cons.inj htext).1.symm hback'
    | escape hunescape' _ =>
      obtain ⟨-, rfl, -⟩ := List.cons_eq_cons.1 htext |>.imp_right List.cons.inj
      cases hunescape'
    | coded hcoded' h' =>
      obtain ⟨-, -, htext⟩ := List.cons_eq_cons.1 htext |>.imp_right List.cons.inj
      obtain ⟨rfl, rfl⟩ := hcoded.unique hcoded' htext
      obtain ⟨rfl, rfl⟩ := ih h'
      exact ⟨rfl, rfl⟩

end

/-! ## Values -/

inductive Value where
  | str (s : Str)
  /-- A number, by the text it is given as. -/
  | num (text : Str)
  | bool (b : Bool)
  | null
  | arr (vs : List Value)
  | obj (fs : List (Str × Value))

def Blank (w : Str) : Prop := ∀ c ∈ w, c = ' ' ∨ c = '\t' ∨ c = '\n' ∨ c = '\r'

def Digits (s : Str) : Prop := s ≠ [] ∧ ∀ c ∈ s, c.isDigit

/-- An integer part has no zero in front of other digits. -/
def IntPart (s : Str) : Prop := s = ['0'] ∨ s.head? ≠ some '0' ∧ Digits s

def Fraction (s : Str) : Prop := s = [] ∨ ∃ ds, Digits ds ∧ s = '.' :: ds

def Exponent (s : Str) : Prop :=
  s = [] ∨ ∃ e sign ds, (e = 'e' ∨ e = 'E') ∧ (sign = [] ∨ sign = ['+'] ∨ sign = ['-']) ∧ Digits ds ∧ s = e :: (sign ++ ds)

def Number (s : Str) : Prop :=
  ∃ sign i f e, (sign = [] ∨ sign = ['-']) ∧ IntPart i ∧ Fraction f ∧ Exponent e ∧ s = sign ++ (i ++ (f ++ e))

mutual

/-- A text, the value at its start and what is behind that. -/
inductive Reads (raw : Char → Prop) : Str → Value → Str → Prop
  | str {s v r} : Quoted raw s v r → Reads raw ('"' :: s) (.str v) r
  | num {t r} : Number t → Reads raw (t ++ r) (.num t) r
  | bool {b r} : Reads raw ((if b then "true".toList else "false".toList) ++ r) (.bool b) r
  | null {r} : Reads raw ("null".toList ++ r) .null r
  | arr_nil {w r} : Blank w → Reads raw ('[' :: (w ++ ']' :: r)) (.arr []) r
  | arr {s vs r} : Elements raw s vs r → Reads raw ('[' :: s) (.arr vs) r
  | obj_nil {w r} : Blank w → Reads raw ('{' :: (w ++ '}' :: r)) (.obj []) r
  | obj {s fs r} : Members raw s fs r → Reads raw ('{' :: s) (.obj fs) r

/-- The values of an array up to its closing bracket. -/
inductive Elements (raw : Char → Prop) : Str → List Value → Str → Prop
  | last {w s v w' r} : Blank w → Reads raw s v (w' ++ ']' :: r) → Blank w' → Elements raw (w ++ s) [v] r
  | more {w s v w' t vs r} : Blank w → Reads raw s v (w' ++ ',' :: t) → Blank w' → Elements raw t vs r →
      Elements raw (w ++ s) (v :: vs) r

/-- The names and values of an object up to its closing brace. -/
inductive Members (raw : Char → Prop) : Str → List (Str × Value) → Str → Prop
  | last {w s k w₁ w₂ t v w' r} : Blank w → Quoted raw s k (w₁ ++ ':' :: (w₂ ++ t)) → Blank w₁ → Blank w₂ →
      Reads raw t v (w' ++ '}' :: r) → Blank w' → Members raw (w ++ '"' :: s) [(k, v)] r
  | more {w s k w₁ w₂ t v w' u fs r} : Blank w → Quoted raw s k (w₁ ++ ':' :: (w₂ ++ t)) → Blank w₁ → Blank w₂ →
      Reads raw t v (w' ++ ',' :: u) → Blank w' → Members raw u fs r → Members raw (w ++ '"' :: s) ((k, v) :: fs) r

end

section
variable {raw : Char → Prop}

theorem blank_nil : Blank [] := fun _ h => absurd h List.not_mem_nil

/-- A member in front of others, without white space. -/
theorem Members.cons {k t u r : Str} {v : Value} {fs : List (Str × Value)} (hk : Plain raw k)
    (hv : Reads raw t v (',' :: u)) (hfs : Members raw u fs r) :
    Members raw ('"' :: (k ++ '"' :: ':' :: t)) ((k, v) :: fs) r :=
  .more blank_nil (hk.quoted (':' :: t)) blank_nil blank_nil hv blank_nil hfs

theorem Members.singleton {k t r : Str} {v : Value} (hk : Plain raw k) (hv : Reads raw t v ('}' :: r)) :
    Members raw ('"' :: (k ++ '"' :: ':' :: t)) [(k, v)] r :=
  .last blank_nil (hk.quoted (':' :: t)) blank_nil blank_nil hv blank_nil

end

/-- The whole text is one value. -/
def Text (raw : Char → Prop) (s : Str) (v : Value) : Prop :=
  ∃ w t w', Blank w ∧ Blank w' ∧ s = w ++ t ∧ Reads raw t v w'

end JsonGrammar
