import DevSys.Lib.LetterCase
import DevSys.Lib.Lines
import DevSys.Server.ApiServer
/-!
# Header fields

The lines behind the request line and up to the first empty one. A line with a
colon is a field: the name in front of its first colon, the value behind it.
-/
open Cxx Lines

namespace DevSys

namespace ApiServer

/-- The lines that `parse_request` takes the headers from. -/
def field_lines (text : Str) : List Str := ((getlineAll '\n' text).tail.map chomp).takeWhile (· ≠ [])

/-- The name and the value of a line. -/
def header_field (line : Str) : Option (Str × Str) :=
  (find [':'] line).map fun colon => (line.take colon, line.drop (colon + 1))

/-- The values of the fields with this name, in any letter case. The name is given in lower case. -/
def field_values (name text : Str) : List Str :=
  ((field_lines text).filterMap header_field).filterMap fun f => if f.1.map Char.toLower = name then some f.2 else none

/-! ## A line -/

/-- A name and a colon at the start of a lowered text. -/
theorem exists_field_of_lower {name s : Str} (h : name ++ [':'] <+: s.map Char.toLower) :
    ∃ field value, s = field ++ ':' :: value ∧ field.map Char.toLower = name := by
  obtain ⟨t, ht⟩ := h
  obtain ⟨field, rest, rfl, hname, hrest⟩ := List.map_eq_append_iff.1 (ht.symm.trans (List.append_assoc _ _ _))
  obtain ⟨c, value, rfl, hc, -⟩ := List.map_eq_cons_iff.1 hrest
  obtain rfl := eq_of_toLower (by decide) hc
  exact ⟨field, value, rfl, hname⟩

theorem header_field_eq_some_iff {line : Str} {f : Str × Str} :
    header_field line = some f ↔ ':' ∉ f.1 ∧ line = f.1 ++ ':' :: f.2 := by
  obtain ⟨name, value⟩ := f
  constructor
  · intro h
    obtain ⟨colon, hcolon, hf⟩ := Option.map_eq_some_iff.1 h
    obtain ⟨rfl, rfl⟩ := Prod.mk.inj hf
    have hno : ':' ∉ line.take colon := by
      rw [find_single] at hcolon
      rw [take_findIdx hcolon]
      intro hmem
      simpa using List.mem_takeWhile_imp hmem
    obtain ⟨rest, hrest⟩ := prefix_of_find hcolon
    refine ⟨hno, ?_⟩
    conv_lhs => rw [← List.take_append_drop colon line, ← hrest]
    rw [← List.drop_drop, ← hrest]
    rfl
  · rintro ⟨hno, rfl⟩
    rw [header_field, find_single_append hno]
    simp

theorem header_field_eq_none_iff {line : Str} : header_field line = none ↔ ':' ∉ line := by
  rw [header_field, Option.map_eq_none_iff, find_single_eq_none_iff]

theorem chomp_starts (line : Str) : chomp line <+: line := by
  unfold chomp
  split
  · exact List.dropLast_prefix line
  · exact List.prefix_rfl

/-- A carriage return is cut off at the end. -/
theorem eq_chomp_append (line : Str) : ∃ cr : Str, line = chomp line ++ cr ∧ (cr = [] ∨ cr = ['\r']) := by
  unfold chomp
  split
  · rename_i h
    exact ⟨['\r'], (List.dropLast_append_getLast? '\r' h).symm, .inr rfl⟩
  · exact ⟨[], (List.append_nil line).symm, .inl rfl⟩

theorem chomp_append_cons (pre : Str) {c : Char} (hc : c ≠ '\r') (post : Str) :
    chomp (pre ++ c :: post) = pre ++ c :: chomp post := by
  cases post with
  | nil => simp [chomp, hc]
  | cons d post =>
    have hlast : (pre ++ c :: d :: post).getLast? = (d :: post).getLast? := by
      rw [List.getLast?_append, List.getLast?_cons_cons]
      cases h : (d :: post).getLast? with
      | none => simp at h
      | some e => rfl
    unfold chomp
    rw [hlast]
    split
    · rw [List.dropLast_append_of_ne_nil (List.cons_ne_nil _ _), List.dropLast_cons_cons]
    · rfl

/-! ## The lines of a header -/

theorem mem_field_lines {text line : Str} (h : line ∈ field_lines text) : line ≠ [] ∧ line <:+: text := by
  have hne : line ≠ [] := by simpa using List.mem_takeWhile_imp h
  obtain ⟨piece, hpiece, rfl⟩ := List.mem_map.1 ((List.takeWhile_prefix _).subset h)
  exact ⟨hne, (chomp_starts piece).isInfix.trans (infix_of_mem_getlineAll (List.mem_of_mem_tail hpiece))⟩

theorem mem_field_values {name value text : Str} :
    value ∈ field_values name text ↔
      ∃ field, ':' ∉ field ∧ field.map Char.toLower = name ∧ field ++ ':' :: value ∈ field_lines text := by
  rw [field_values, List.mem_filterMap]
  constructor
  · rintro ⟨⟨field, v⟩, hf, hvalue⟩
    obtain ⟨line, hline, hfield⟩ := List.mem_filterMap.1 hf
    obtain ⟨hno, rfl⟩ := header_field_eq_some_iff.1 hfield
    split at hvalue
    · rename_i hname
      cases hvalue
      exact ⟨field, hno, hname, hline⟩
    · cases hvalue
  · rintro ⟨field, hno, hname, hline⟩
    exact ⟨(field, value), List.mem_filterMap.2 ⟨_, hline, header_field_eq_some_iff.2 ⟨hno, rfl⟩⟩, if_pos hname⟩

/-- A field is found where its name and colon are searched for. -/
theorem find_ne_none_of_field {name value text : Str} (h : value ∈ field_values name text) :
    find (name ++ [':']) (text.map Char.toLower) ≠ none := by
  obtain ⟨field, -, rfl, hline⟩ := mem_field_values.1 h
  have hinfix : field ++ [':'] <:+: text := by
    have hstarts : field ++ [':'] <+: field ++ ':' :: value := ⟨value, by simp⟩
    exact hstarts.isInfix.trans (mem_field_lines hline).2
  refine find_ne_none_of_infix ?_
  have hmap := hinfix.map Char.toLower
  rwa [List.map_append] at hmap

/-- Behind lines that are not empty, the next line that is not is one of the header. -/
theorem field_lines_append {a s : Str} (hlines : ∀ l ∈ (getlineAll '\n' (a ++ ['\n'])).tail, chomp l ≠ []) (hs : s ≠ [])
    (hline : chomp (s.takeWhile (· ≠ '\n')) ≠ []) :
    ∃ more, field_lines (a ++ '\n' :: s) = field_lines (a ++ ['\n']) ++ chomp (s.takeWhile (· ≠ '\n')) :: more := by
  have hpass : ∀ l ∈ (getlineAll '\n' (a ++ ['\n'])).tail.map chomp, decide (l ≠ []) = true := by
    intro l hl
    obtain ⟨piece, hpiece, rfl⟩ := List.mem_map.1 hl
    exact decide_eq_true (hlines piece hpiece)
  have hne : getlineAll '\n' (a ++ ['\n']) ≠ [] := getlineAll_ne_nil '\n' (by simp)
  unfold field_lines
  rw [getlineAll_append, getlineAll_eq_cons '\n' hs, List.tail_append_of_ne_nil hne, List.map_append,
    List.takeWhile_append_of_pos hpass, List.takeWhile_eq_self_iff.2 hpass, List.map_cons,
    List.takeWhile_cons, if_pos (decide_eq_true hline)]
  exact ⟨_, rfl⟩

/-- A field behind lines that are not empty. -/
theorem field_value_behind {a field : Str} (value : Str) (hlines : ∀ l ∈ (getlineAll '\n' (a ++ ['\n'])).tail, chomp l ≠ [])
    (hcolon : ':' ∉ field) (hlf : '\n' ∉ field) :
    chomp (value.takeWhile (· ≠ '\n')) ∈ field_values (field.map Char.toLower) (a ++ '\n' :: (field ++ ':' :: value)) := by
  have hline : chomp ((field ++ ':' :: value).takeWhile (· ≠ '\n')) = field ++ ':' :: chomp (value.takeWhile (· ≠ '\n')) := by
    have hpass : ∀ c ∈ field, decide (c ≠ '\n') = true := fun c hc => decide_eq_true fun h => hlf (h ▸ hc)
    rw [List.takeWhile_append_of_pos hpass, List.takeWhile_cons_of_pos (by decide), chomp_append_cons field (by decide)]
  obtain ⟨more, hmore⟩ := field_lines_append hlines (s := field ++ ':' :: value) (by simp) (by rw [hline]; simp)
  refine mem_field_values.2 ⟨field, hcolon, rfl, ?_⟩
  rw [hmore, hline]
  simp

end ApiServer

end DevSys
