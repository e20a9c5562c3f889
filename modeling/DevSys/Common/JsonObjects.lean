import DevSys.Common.JsonHelper
import DevSys.Lib.FlatJson
/-!
# `JsonHelper` on flat objects

On an object printed without white space the three functions read every field.
A blank behind a colon hides strings and numbers from them.
-/
open Cxx JsonText FlatJson

namespace DevSys.JsonHelper

section Print
variable (o : Object) (l : Layout) {k : Str}

/-! ## Absent keys -/

theorem get_string_of_absent (hk : IsKey k) (h : k ∉ o.fields.map (·.1)) : get_string (l.print o) k = [] := by
  rw [get_string_eq, o.after_absent l ['"'] hk h]

theorem get_int_of_absent (hk : IsKey k) (h : k ∉ o.fields.map (·.1)) (d : Int32) :
    get_int (l.print o) k d = .ok d := by
  have hafter := o.after_absent l [] hk h
  rw [List.append_nil] at hafter
  rw [get_int_eq, hafter]

theorem get_bool_of_absent (hk : IsKey k) (h : k ∉ o.fields.map (·.1)) (d : Bool) : get_bool (l.print o) k d = d := by
  have hafter := o.after_absent l [] hk h
  rw [List.append_nil] at hafter
  rw [get_bool_eq _ hk, hafter]

/-! ## Fields -/

variable {v : Scalar}

/-- Behind the key stand the blanks, the value and a separator. -/
theorem after_field (h : (k, v) ∈ o.fields) : ∃ sep rest, IsEnd sep ∧
    after (keyPat k) (l.print o) = some (l.colon k ++ (v.text ++ sep :: rest)) := by
  obtain ⟨sep, rest, hsep, hafter⟩ := o.after_of_mem l [] h
  rw [List.append_nil] at hafter
  exact ⟨sep, rest, hsep, by simpa using hafter⟩

/-- The text of a string. -/
def asString : Scalar → Str
  | .str s => s
  | _ => []

/-- The value of a number; `std::stoi` throws on the others. -/
def asInt : Scalar → Except Exn Int32
  | .int n => .ok n
  | _ => .error .invalid_argument

theorem get_string_field (h : (k, v) ∈ o.fields) :
    get_string (l.print o) k = if l.colon k = [] then asString v else [] := by
  obtain ⟨sep, rest, -, hafter⟩ := o.after_of_mem l ['"'] h
  have hplain := o.plain _ h
  rw [get_string_eq, hafter]
  rcases hcolon : l.colon k with _ | ⟨c, cs⟩
  · cases v with
    | str s =>
      have htake : (s ++ '"' :: sep :: rest).takeWhile (· ≠ '"') = s := by
        rw [takeWhile_append_stop _ _ (by simp), List.takeWhile_eq_self_iff]
        intro c hc
        simpa using fun hq : c = '"' => hplain.1 (hq ▸ hc)
      simpa [Scalar.text, asString] using htake
    | int n =>
      have hhead : ¬['"'] <+: to_string n.toInt ++ sep :: rest := by
        obtain ⟨c, ds, hn⟩ := List.exists_cons_of_ne_nil (to_string_ne_nil n.toInt)
        have hq : '"' ∉ to_string n.toInt := not_mem_to_string (by decide) (by decide)
        rw [hn] at hq ⊢
        intro hp
        rw [← (List.cons_prefix_cons.1 hp).1] at hq
        exact hq List.mem_cons_self
      simp [Scalar.text, asString, hhead]
    | bool b => cases b <;> simp [Scalar.text, asString]
  · have hc : c ≠ '"' := by
      rcases (l.blank k).1 c (by simp [hcolon]) with rfl | rfl <;> simp
    simp [hc.symm]

/-- A string is no number. -/
theorem stoi_quote (s : Str) : stoi ('"' :: s) = .error .invalid_argument := rfl

theorem get_int_field (h : (k, v) ∈ o.fields) (d : Int32) :
    get_int (l.print o) k d = if l.colon k = [] then asInt v else .ok d := by
  obtain ⟨sep, rest, hsep, hafter⟩ := after_field o l h
  have hstop : sep ∈ numStops := by rcases hsep with rfl | rfl <;> simp [numStops]
  rw [get_int_eq, hafter]
  rcases hcolon : l.colon k with _ | ⟨c, cs⟩
  · have htake : (v.text ++ sep :: rest).takeWhile (· ∉ numStops) = v.text.takeWhile (· ∉ numStops) :=
      takeWhile_append_stop _ _ (by simp [hstop])
    simp only [List.nil_append, htake, if_true]
    cases v with
    | str s =>
      have hquote : (Scalar.str s).text.takeWhile (· ∉ numStops) = '"' :: (s ++ ['"']).takeWhile (· ∉ numStops) := by
        simp [Scalar.text, numStops]
      rw [hquote, if_neg (List.cons_ne_nil _ _), stoi_quote]
      rfl
    | int n =>
      have hread := stoi_to_string n [] (by simp)
      rw [List.append_nil] at hread
      rw [Scalar.text, takeWhile_number, if_neg (to_string_ne_nil _), hread]
      rfl
    | bool b => cases b <;> rfl
  · have hc : c ∈ numStops := by
      rcases (l.blank k).1 c (by simp [hcolon]) with rfl | rfl <;> simp [numStops]
    simp [hc]

theorem get_bool_field (h : (k, v) ∈ o.fields) (d : Bool) :
    get_bool (l.print o) k d =
      if Says "true".toList k (l.colon k ++ v.text) then true
      else if Says "false".toList k (l.colon k ++ v.text) then false
      else d := by
  obtain ⟨sep, rest, hsep, hafter⟩ := after_field o l h
  have hstop : sep ∈ boolStops := by rcases hsep with rfl | rfl <;> simp [boolStops]
  have hword (word : Str) : Says word k (l.colon k ++ (v.text ++ sep :: rest)) ↔ Says word k (l.colon k ++ v.text) := by
    rw [Says, ← List.append_assoc, takeWhile_append_stop _ _ (by simp [hstop]), Says]
  rw [get_bool_eq _ (o.keys _ h), hafter]
  simp only [hword]

end Print

/-! ## Without white space -/

/-- Every field is read, and the others yield the default. -/
structure Extracts (o : Object) (json : Str) : Prop where
  string : ∀ k s, (k, .str s) ∈ o.fields → get_string json k = s
  int : ∀ k n d, (k, .int n) ∈ o.fields → get_int json k d = .ok n
  bool : ∀ k b d, (k, .bool b) ∈ o.fields → ¬"true".toList <:+: k → ¬"false".toList <:+: k → get_bool json k d = b
  absent : ∀ k, IsKey k → k ∉ o.fields.map (·.1) →
    get_string json k = [] ∧ (∀ d, get_int json k d = .ok d) ∧ ∀ d, get_bool json k d = d

/-- The fields of a compact object are extracted. -/
theorem compact_extracts (o : Object) : Extracts o (compact.print o) where
  string k s h := by
    rw [get_string_field o compact h]
    rfl
  int k n d h := by
    rw [get_int_field o compact h]
    rfl
  bool k b d h htrue hfalse := by
    rw [get_bool_field o compact h]
    cases b
    · have hno : ¬Says "true".toList k "false".toList := not_or.2 ⟨htrue, by decide⟩
      have hyes : Says "false".toList k "false".toList := .inr (by decide)
      exact (if_neg hno).trans (if_pos hyes)
    · have hyes : Says "true".toList k "true".toList := .inr (by decide)
      exact if_pos hyes
  absent k hk h :=
    ⟨get_string_of_absent o compact hk h, get_int_of_absent o compact hk h, get_bool_of_absent o compact hk h⟩

/-! ## With white space -/

/-- For every key the three functions return the same as without white space. -/
structure Unchanged (l : Layout) (o : Object) : Prop where
  string : ∀ k, IsKey k → get_string (l.print o) k = get_string (compact.print o) k
  int : ∀ k d, IsKey k → get_int (l.print o) k d = get_int (compact.print o) k d
  bool : ∀ k d, IsKey k → get_bool (l.print o) k d = get_bool (compact.print o) k d

/-- Behind a blank, `get_int` finds no number and returns the default. -/
theorem colon_of_unchanged {l : Layout} {o : Object} (h : Unchanged l o) {k : Str} {v : Scalar} (hf : (k, v) ∈ o.fields) :
    l.colon k = [] := by
  by_contra hcolon
  have hint (d : Int32) : asInt v = .ok d := by
    have := h.int k d (o.keys _ hf)
    rw [get_int_field o l hf, get_int_field o compact hf, if_neg hcolon] at this
    exact this.symm
  have h0 := hint 0
  rw [hint 1] at h0
  exact absurd h0 (by decide)

/-- White space changes nothing exactly when none of it is behind a colon. -/
theorem unchanged_iff (l : Layout) (o : Object) : Unchanged l o ↔ ∀ f ∈ o.fields, l.colon f.1 = [] := by
  constructor
  · exact fun h f hf => colon_of_unchanged h hf
  · intro h
    have hcases (k : Str) : (∃ v, (k, v) ∈ o.fields ∧ l.colon k = compact.colon k) ∨ k ∉ o.fields.map (·.1) := by
      by_cases hk : k ∈ o.fields.map (·.1)
      · obtain ⟨f, hf, rfl⟩ := List.mem_map.1 hk
        exact .inl ⟨f.2, hf, h f hf⟩
      · exact .inr hk
    constructor
    · intro k hk
      rcases hcases k with ⟨v, hv, hcolon⟩ | habsent
      · rw [get_string_field o l hv, get_string_field o compact hv, hcolon]
      · rw [get_string_of_absent o l hk habsent, get_string_of_absent o compact hk habsent]
    · intro k d hk
      rcases hcases k with ⟨v, hv, hcolon⟩ | habsent
      · rw [get_int_field o l hv, get_int_field o compact hv, hcolon]
      · rw [get_int_of_absent o l hk habsent, get_int_of_absent o compact hk habsent]
    · intro k d hk
      rcases hcases k with ⟨v, hv, hcolon⟩ | habsent
      · rw [get_bool_field o l hv, get_bool_field o compact hv, hcolon]
      · rw [get_bool_of_absent o l hk habsent, get_bool_of_absent o compact hk habsent]

/-- An order report with a space behind its colon. -/
theorem unchanged_fails :
    ∃ (l : Layout) (o : Object), l.print o = "\x7b\"event_type\": \"order_completed\"\x7d".toList ∧ ¬Unchanged l o := by
  let l : Layout := ⟨fun _ => [' '], fun _ => [], fun _ => ⟨by simp [Blank], by simp [Blank]⟩⟩
  let o : Object :=
    { fields := [("event_type".toList, .str "order_completed".toList)]
      keys := by decide
      plain := by simp [Scalar.Plain]
      distinct := by decide }
  refine ⟨l, o, by decide, fun h => ?_⟩
  have hstring := h.string "event_type".toList (by decide)
  revert hstring
  decide

end DevSys.JsonHelper
