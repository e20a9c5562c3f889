import DevSys.Common.Types
import DevSys.Lib.JsonText
/-!
# `JsonHelper`

Textual extraction of the fields of a flat JSON body, and what it returns in terms
of the first place where a key stands in the text.
-/
open Cxx JsonText

namespace DevSys.JsonHelper

/-- Extract a string field: the text between the quotes, or empty. -/
def get_string (json key : Str) : Str :=
  let search := "\"".toList ++ key ++ "\":\"".toList
  match find search json with
  | none => []
  | some pos =>
    let start := pos + search.length
    match findFrom ['"'] json start with
    | none => []
    | some stop => substrTo json start (some stop)

/-- Extract an integer field; `std::stoi` throws on what is not a number. -/
def get_int (json key : Str) (default_val : Int32 := 0) : Except Exn Int32 :=
  let search := "\"".toList ++ key ++ "\":".toList
  match find search json with
  | none => .ok default_val
  | some pos =>
    let start := pos + search.length
    let num := substrTo json start (find_first_of ",\x7d\n\r ]".toList json start)
    if num = [] then .ok default_val else stoi num

/-- Extract a boolean field. -/
def get_bool (json key : Str) (default_val : Bool := false) : Bool :=
  let search := "\"".toList ++ key ++ "\":".toList
  match find search json with
  | none => default_val
  | some pos =>
    -- `npos` is above every position
    let before (a b : Option Nat) : Bool := match a, b with
      | none, _ => false
      | some _, none => true
      | some a, some b => a < b
    let stop := find_first_of ",\x7d\n\r".toList json pos
    if before (findFrom "true".toList json pos) stop then true
    else if before (findFrom "false".toList json pos) stop then false
    else default_val

/-! ## In terms of what follows the key -/

theorem get_string_eq (json key : Str) :
    get_string json key = match after (keyPat key ++ ['"']) json with
      | none => []
      | some s => if '"' ∈ s then s.takeWhile (· ≠ '"') else [] := by
  have hpat : "\"".toList ++ key ++ "\":\"".toList = keyPat key ++ ['"'] :=
    (List.append_assoc ('"' :: key) ['"', ':'] ['"']).symm
  unfold get_string after
  rw [hpat]
  cases hf : find (keyPat key ++ ['"']) json with
  | none => simp [hf]
  | some pos =>
    simp only [hf, Option.map_some, findFrom, find_single]
    cases h : (json.drop (pos + (keyPat key ++ ['"']).length)).findIdx? (· = '"') with
    | none =>
      rw [if_neg]
      · rfl
      · exact fun hq => by simpa using List.findIdx?_eq_none_iff.1 h _ hq
    | some i =>
      obtain ⟨hi, hp, -⟩ := List.findIdx?_eq_some_iff_getElem.1 h
      have hq := List.getElem_mem hi
      rw [of_decide_eq_true hp] at hq
      rw [if_pos hq]
      simp only [Option.map_some, substrTo, Nat.add_sub_cancel, take_findIdx h]
      simp

/-- The characters that end a number for `get_int`. -/
def numStops : Str := [',', '}', '\n', '\r', ' ', ']']

/-- A number is read to its end. -/
theorem takeWhile_number (n : Int) : (to_string n).takeWhile (· ∉ numStops) = to_string n := by
  rw [List.takeWhile_eq_self_iff]
  intro c hc
  simp only [numStops, List.mem_cons, List.not_mem_nil, or_false, decide_eq_true_eq]
  rintro (rfl | rfl | rfl | rfl | rfl | rfl) <;> exact not_mem_to_string (by decide) (by decide) hc

theorem get_int_eq (json key : Str) (d : Int32) :
    get_int json key d = match after (keyPat key) json with
      | none => .ok d
      | some s => if s.takeWhile (· ∉ numStops) = [] then .ok d else stoi (s.takeWhile (· ∉ numStops)) := by
  have hpat : "\"".toList ++ key ++ "\":".toList = keyPat key := rfl
  unfold get_int after
  rw [hpat]
  cases hf : find (keyPat key) json with
  | none => simp [hf]
  | some pos =>
    simp only [hf, Option.map_some, substrTo_find_first_of]
    rfl

/-- What follows the key, up to a stop character, is nothing or an `int`. -/
def ReadableInt (json key : Str) : Prop :=
  ∀ s, after (keyPat key) json = some s →
    s.takeWhile (· ∉ numStops) = [] ∨ IsIntText 32 (s.takeWhile (· ∉ numStops))

/-- `get_int` throws exactly on a field it cannot read. -/
theorem get_int_isOk_iff (json key : Str) (d : Int32) : (∃ n, get_int json key d = .ok n) ↔ ReadableInt json key := by
  rw [get_int_eq]
  unfold ReadableInt
  cases after (keyPat key) json with
  | none => simp
  | some s =>
    simp only [Option.some.injEq, forall_eq']
    by_cases h : s.takeWhile (· ∉ numStops) = []
    · rw [if_pos h]
      exact iff_of_true ⟨d, rfl⟩ (.inl h)
    · rw [if_neg h, stoi_isOk_iff, or_iff_right h]

/-- The characters that end a boolean for `get_bool`. -/
def boolStops : Str := [',', '}', '\n', '\r']

/-- The word is in the key or in what follows it, up to a stop character. -/
def Says (word key s : Str) : Prop := word <:+: key ∨ word <:+: s.takeWhile (· ∉ boolStops)

instance (word key s : Str) : Decidable (Says word key s) := inferInstanceAs (Decidable (_ ∨ _))

/-- The search for the word starts at the key's opening quote. -/
theorem posLt_at_key_iff {word key : Str} (s : Str) (hk : IsKey key) (hne : word ≠ []) (hword : ∀ c ∈ word, c.isAlpha) :
    posLt (find word (keyPat key ++ s)) ((keyPat key ++ s).findIdx? (· ∈ boolStops)) = true ↔ Says word key s := by
  have hnot {c : Char} (hc : c.isAlpha = false) : c ∉ word := fun h => by simp [hword c h] at hc
  have hstops : ∀ c ∈ word, c ∉ boolStops := by
    intro c hc hstop
    simp only [boolStops, List.mem_cons, List.not_mem_nil, or_false] at hstop
    rcases hstop with rfl | rfl | rfl | rfl <;> exact hnot (by decide) hc
  have hkey : ∀ c ∈ keyPat key, c ∉ boolStops := by
    intro c hc hstop
    simp only [boolStops, List.mem_cons, List.not_mem_nil, or_false] at hstop
    simp only [keyPat, List.mem_append, List.mem_cons, List.not_mem_nil, or_false] at hc
    rcases hstop with rfl | rfl | rfl | rfl <;> simp [hk.not_mem] at hc
  have hpat : keyPat key ++ s.takeWhile (· ∉ boolStops) = [] ++ '"' :: (key ++ '"' :: ([] ++ ':' :: s.takeWhile (· ∉ boolStops))) := by
    simp [keyPat]
  rw [posLt_find_iff hne hstops, List.takeWhile_append_of_pos (by simpa using hkey), hpat,
    infix_split_iff hne (hnot (by decide)), infix_split_iff hne (hnot (by decide)), infix_split_iff hne (hnot (by decide))]
  simp [Says, hne]

theorem get_bool_eq (json : Str) {key : Str} (hk : IsKey key) (d : Bool) :
    get_bool json key d = match after (keyPat key) json with
      | none => d
      | some s =>
        if Says "true".toList key s then true
        else if Says "false".toList key s then false
        else d := by
  have hpat : "\"".toList ++ key ++ "\":".toList = keyPat key := rfl
  unfold get_bool after
  rw [hpat]
  cases hf : find (keyPat key) json with
  | none => simp [hf]
  | some pos =>
    have hdrop : json.drop pos = keyPat key ++ json.drop (pos + (keyPat key).length) := by
      rw [← List.drop_drop]
      exact (List.prefix_append_drop (prefix_of_find hf))
    have hbefore (word : Str) : posLt (findFrom word json pos) (find_first_of ",\x7d\n\r".toList json pos) =
        posLt (find word (keyPat key ++ json.drop (pos + (keyPat key).length)))
          ((keyPat key ++ json.drop (pos + (keyPat key).length)).findIdx? (· ∈ boolStops)) := by
      rw [findFrom, find_first_of, posLt_shift, hdrop]
      rfl
    have htrue : _ ↔ Says "true".toList key _ :=
      posLt_at_key_iff (json.drop (pos + (keyPat key).length)) hk (by simp) (by simp)
    have hfalse : _ ↔ Says "false".toList key _ :=
      posLt_at_key_iff (json.drop (pos + (keyPat key).length)) hk (by simp) (by simp)
    rw [← hbefore] at htrue hfalse
    simp only [hf, Option.map_some, ← htrue, ← hfalse]
    rfl

/-! ## The first string -/

/-- The first `"key":"` of the text is followed by `s` and a quote. -/
def FirstString (json key s : Str) : Prop := '"' ∉ s ∧ ∃ rest, after (keyPat key ++ ['"']) json = some (s ++ '"' :: rest)

theorem get_string_of_first {json key s : Str} (h : FirstString json key s) : get_string json key = s := by
  obtain ⟨hq, rest, hafter⟩ := h
  have hstop : (s ++ '"' :: rest).takeWhile (· ≠ '"') = s := by
    rw [takeWhile_append_stop _ _ (by simp), List.takeWhile_eq_self_iff]
    intro c hc
    simpa using fun heq : c = '"' => hq (heq ▸ hc)
  rw [get_string_eq, hafter]
  simp only [List.mem_append, List.mem_cons, true_or, or_true, if_true, hstop]

/-- A text is read exactly if it is the first string of the key. -/
theorem get_string_eq_iff {json key s : Str} (hne : s ≠ []) : get_string json key = s ↔ FirstString json key s := by
  refine ⟨fun h => ?_, get_string_of_first⟩
  rw [get_string_eq] at h
  cases hafter : after (keyPat key ++ ['"']) json with
  | none =>
    rw [hafter] at h
    exact absurd h.symm hne
  | some t =>
    rw [hafter] at h
    dsimp only at h
    split at h
    · rename_i hq
      refine ⟨fun hmem => ?_, ?_⟩
      · rw [← h] at hmem
        simpa using List.mem_takeWhile_imp hmem
      · obtain ⟨a, b, rfl, ha⟩ := List.eq_append_cons_of_mem hq
        have hstop : (a ++ '"' :: b).takeWhile (· ≠ '"') = a := by
          rw [takeWhile_append_stop _ _ (by simp), List.takeWhile_eq_self_iff]
          intro c hc
          simpa using fun heq : c = '"' => ha (heq ▸ hc)
        rw [hstop] at h
        exact ⟨b, by rw [hafter, h]⟩
    · exact absurd h.symm hne

end DevSys.JsonHelper
