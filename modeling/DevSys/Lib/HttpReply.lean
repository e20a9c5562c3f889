import DevSys.Lib.Lines
/-!
# Replies of an HTTP server

What a client reads from a connection: a status line, fields, and a body as
long as a field says. A reply that is cut is not read as a shorter one.
-/
open Cxx Lines

namespace HttpReply

structure Reply where
  status : Nat
  reason : Str
  fields : List (Str × Str)
  body : Str
  deriving DecidableEq, Repr

/-! ## Reading -/

/-- A line without its carriage return. -/
def unterminated (line : Str) : Str := if line.getLast? = some '\r' then line.dropLast else line

def version : Str := ['H', 'T', 'T', 'P', '/', '1', '.', '1', ' ']

/-- Three digits and a reason. -/
def status_line (line : Str) : Option (Nat × Str) :=
  let s := line.drop 9
  if version <+: line ∧ (s.take 3).length = 3 ∧ (s.take 3).all Char.isDigit ∧ (s.drop 3).head? = some ' ' then
    some (ofDigits (s.take 3), s.drop 4)
  else none

/-- A name up to the colon, and a value behind the blanks. -/
def field (line : Str) : Option (Str × Str) :=
  match line.dropWhile (· ≠ ':') with
  | [] => none
  | _ :: value => some (line.takeWhile (· ≠ ':'), value.dropWhile (· = ' '))

/-- The value of a field, whatever the letter case of its name. -/
def value_of (name : Str) (fields : List (Str × Str)) : Option Str :=
  (fields.find? fun f => f.1.map Char.toLower = name).map (·.2)

/-- The length of the body. Some kinds of reply have none. -/
def body_length (status : Nat) (fields : List (Str × Str)) : Option Nat :=
  if status / 100 = 1 ∨ status = 204 ∨ status = 304 then some 0
  else match value_of "content-length".toList fields with
    | none => none
    | some value => if value ≠ [] ∧ value.all Char.isDigit then some (ofDigits value) else none

/-- A reply and what comes after it, once all of it has come in. -/
def read (s : Str) : Option (Reply × Str) := do
  let n ← find blank s
  let lines := ((getlineAll '\n' s).map unterminated).takeWhile (· ≠ [])
  let (status, reason) ← status_line (lines.headD [])
  let fields ← lines.tail.mapM field
  let length ← body_length status fields
  let rest := s.drop (n + 4)
  if rest.length < length then none else some (⟨status, reason, fields, rest.take length⟩, rest.drop length)

theorem length_of_read {s rest : Str} {r : Reply} (h : read s = some (r, rest)) : rest.length < s.length := by
  simp only [read, Option.bind_eq_bind, Option.bind_eq_some_iff] at h
  obtain ⟨n, hn, ⟨status, reason⟩, -, fields, -, length, -, h⟩ := h
  have hlen := (prefix_of_find hn).length_le
  rw [List.length_drop] at hlen
  have hfour : blank.length = 4 := rfl
  split at h
  · cases h
  · have hrest : (s.drop (n + 4)).drop length = rest := (Prod.mk.inj (Option.some.inj h)).2
    rw [← hrest, List.length_drop, List.length_drop]
    omega

/-- The final reply, behind any interim ones. -/
def read_final (s : Str) : Option (Reply × Str) :=
  match _h : read s with
  | none => none
  | some (r, rest) => if r.status / 100 = 1 then read_final rest else some (r, rest)
termination_by s.length
decreasing_by exact length_of_read _h

/-! ## Printing -/

def status_text (status : Nat) (reason : Str) : Str := version ++ (to_string status ++ ' ' :: reason)

def field_text (f : Str × Str) : Str := f.1 ++ ':' :: ' ' :: f.2

def head_lines (r : Reply) : List Str := status_text r.status r.reason :: r.fields.map field_text

def text (r : Reply) : Str := render (head_lines r) ++ '\r' :: '\n' :: r.body

/-- A field whose name ends at the colon and whose value has no blanks in front. -/
structure IsField (f : Str × Str) : Prop where
  name : ∀ c ∈ f.1, c ≠ ':' ∧ c ≠ '\r' ∧ c ≠ '\n'
  value : ∀ c ∈ f.2, c ≠ '\r' ∧ c ≠ '\n'
  start : f.2.head? ≠ some ' '

/-- A reply that says how long its body is. -/
structure Reply.WellFormed (r : Reply) : Prop where
  status : 100 ≤ r.status ∧ r.status ≤ 999
  reason : ∀ c ∈ r.reason, c ≠ '\r' ∧ c ≠ '\n'
  fields : ∀ f ∈ r.fields, IsField f
  length : body_length r.status r.fields = some r.body.length

/-! ## What is read of what is printed -/

/-- A number as a value. -/
theorem isField_number {name : Str} (hname : ∀ c ∈ name, c ≠ ':' ∧ c ≠ '\r' ∧ c ≠ '\n') (n : Nat) :
    IsField (name, to_string n) := by
  have hdigits : ∀ c ∈ to_string n, c.isDigit := fun c hc => isDigit_of_mem_toDigits hc
  refine ⟨hname, fun c hc => ⟨?_, ?_⟩, fun hstart => ?_⟩
  · rintro rfl
    exact absurd (hdigits _ hc) (by decide)
  · rintro rfl
    exact absurd (hdigits _ hc) (by decide)
  · exact absurd (hdigits _ (List.mem_of_mem_head? hstart)) (by decide)

/-- A length is read as it was printed. -/
theorem length_number (n : Nat) :
    (if to_string n ≠ [] ∧ (to_string n).all Char.isDigit then some (ofDigits (to_string n)) else none) = some n := by
  have hdigits : (to_string n).all Char.isDigit := List.all_eq_true.2 fun c hc => isDigit_of_mem_toDigits hc
  rw [if_pos ⟨to_string_ne_nil _, hdigits⟩]
  exact congrArg some (ofDigits_toDigits n)

theorem unterminated_line (l : Str) : unterminated (l ++ ['\r']) = l := by simp [unterminated]

theorem length_to_string {n : Nat} (h : 100 ≤ n ∧ n ≤ 999) : (to_string n).length = 3 := by
  have hhigh : (Nat.toDigits 10 n).length ≤ 3 := by
    rw [Nat.length_toDigits_le_iff (by decide) (by decide)]
    omega
  have hlow : ¬(Nat.toDigits 10 n).length ≤ 2 := by
    rw [Nat.length_toDigits_le_iff (by decide) (by decide)]
    omega
  show (Nat.toDigits 10 n).length = 3
  omega

theorem status_line_text {n : Nat} (h : 100 ≤ n ∧ n ≤ 999) (reason : Str) :
    status_line (status_text n reason) = some (n, reason) := by
  have hdrop : (status_text n reason).drop 9 = to_string n ++ ' ' :: reason := rfl
  have hlen := length_to_string h
  have htake : (to_string n ++ ' ' :: reason).take 3 = to_string n := by
    rw [← hlen, List.take_left]
  have hrest : (to_string n ++ ' ' :: reason).drop 3 = ' ' :: reason := by
    rw [← hlen, List.drop_left]
  have hfour : (to_string n ++ ' ' :: reason).drop 4 = reason := by
    rw [← List.drop_drop (i := 1) (j := 3), hrest]
    rfl
  have hdigits : (to_string n).all Char.isDigit := List.all_eq_true.2 fun c hc => isDigit_of_mem_toDigits hc
  have hvalue : ofDigits (to_string n) = n := ofDigits_toDigits n
  have hfront : version <+: status_text n reason := List.prefix_append _ _
  rw [status_line, hdrop, htake, hrest, hfour, hvalue, if_pos ⟨hfront, hlen, hdigits, rfl⟩]

theorem field_field_text {f : Str × Str} (h : IsField f) : field (field_text f) = some f := by
  have hname : ∀ c ∈ f.1, decide (c ≠ ':') = true := fun c hc => decide_eq_true (h.name c hc).1
  have hstart : (' ' :: f.2).dropWhile (· = ' ') = f.2 := by
    rw [List.dropWhile_cons_of_pos (by decide)]
    cases hvalue : f.2 with
    | nil => rfl
    | cons c cs =>
      have hc : c ≠ ' ' := fun hc => h.start (by rw [hvalue, hc]; rfl)
      rw [List.dropWhile_cons_of_neg (by simpa using hc)]
  have hdrop : (field_text f).dropWhile (· ≠ ':') = ':' :: ' ' :: f.2 := by
    rw [field_text, List.dropWhile_append_of_pos hname, List.dropWhile_cons_of_neg (by decide)]
  have htake : (field_text f).takeWhile (· ≠ ':') = f.1 := by
    rw [field_text, List.takeWhile_append_of_pos hname, List.takeWhile_cons_of_neg (by decide), List.append_nil]
  rw [field, hdrop, htake]
  simp only [hstart]

theorem mapM_field {fields : List (Str × Str)} (h : ∀ f ∈ fields, IsField f) :
    (fields.map field_text).mapM field = some fields := by
  induction fields with
  | nil => rfl
  | cons f fields ih =>
    rw [List.forall_mem_cons] at h
    rw [List.map_cons, List.mapM_cons, field_field_text h.1, ih h.2]
    rfl

theorem line_of_no_break {l : Str} (hne : l ≠ []) (h : ∀ c ∈ l, c ≠ '\r' ∧ c ≠ '\n') : Line l :=
  ⟨hne, fun hc => (h _ hc).1 rfl, fun hc => (h _ hc).2 rfl⟩

/-- The lines in front of the blank one, without their ends. -/
theorem takeWhile_render {lines : List Str} (hlines : ∀ l ∈ lines, Line l) (s : Str) :
    ((getlineAll '\n' (render lines ++ '\r' :: '\n' :: s)).map unterminated).takeWhile (· ≠ []) = lines := by
  have hunterminated : lines.map (unterminated ∘ (· ++ ['\r'])) = lines := by
    simp [Function.comp_def, unterminated_line]
  rw [getlineAll_render hlines, List.map_append, List.map_map, hunterminated,
    List.takeWhile_append_of_pos fun l hl => by simpa using (hlines l hl).ne_nil]
  simp [unterminated]

/-- What is behind the blank line. -/
theorem drop_render {lines : List Str} (hne : lines ≠ []) (s : Str) :
    (render lines ++ '\r' :: '\n' :: s).drop ((render lines).length - 2 + 4) = s := by
  have htwo : 2 ≤ (render lines).length := by
    obtain ⟨l, ls, rfl⟩ := List.exists_cons_of_ne_nil hne
    rw [render_cons, List.length_append, List.length_cons, List.length_cons]
    omega
  have hfour : (render lines).length - 2 + 4 = (render lines).length + 2 := by omega
  rw [hfour, List.drop_length_add_append]
  rfl

section
variable {r : Reply} (h : r.WellFormed)
include h

theorem Reply.WellFormed.lines : ∀ l ∈ head_lines r, Line l := by
  have hdigits : ∀ c ∈ to_string r.status, c ≠ '\r' ∧ c ≠ '\n' := by
    intro c hc
    have hdigit : c.isDigit := isDigit_of_mem_toDigits hc
    constructor
    · rintro rfl
      exact absurd hdigit (by decide)
    · rintro rfl
      exact absurd hdigit (by decide)
  rw [head_lines, List.forall_mem_cons]
  constructor
  · have hne : status_text r.status r.reason ≠ [] := by
      rw [status_text]
      exact List.append_ne_nil_of_right_ne_nil _ (List.append_ne_nil_of_right_ne_nil _ (List.cons_ne_nil _ _))
    refine line_of_no_break hne fun c hc => ?_
    simp only [status_text, List.mem_append, List.mem_cons] at hc
    rcases hc with hc | hc | rfl | hc
    · have hversion : ∀ c ∈ version, c ≠ '\r' ∧ c ≠ '\n' := by simp [version]
      exact hversion c hc
    · exact hdigits c hc
    · decide
    · exact h.reason c hc
  · intro l hl
    obtain ⟨f, hf, rfl⟩ := List.mem_map.1 hl
    have hne : field_text f ≠ [] := by
      rw [field_text]
      exact List.append_ne_nil_of_right_ne_nil _ (List.cons_ne_nil _ _)
    refine line_of_no_break hne fun c hc => ?_
    simp only [field_text, List.mem_append, List.mem_cons] at hc
    rcases hc with hc | rfl | rfl | hc
    · exact ((h.fields f hf).name c hc).2
    · decide
    · decide
    · exact (h.fields f hf).value c hc

/-- Behind a complete head the body is read once it is long enough. -/
theorem read_head (s : Str) : read (render (head_lines r) ++ '\r' :: '\n' :: s) =
    if s.length < r.body.length then none
    else some ({ r with body := s.take r.body.length }, s.drop r.body.length) := by
  have hlines := h.lines
  have hne : head_lines r ≠ [] := List.cons_ne_nil _ _
  rw [read, find_blank hne hlines]
  simp only [Option.bind_eq_bind, Option.bind_some, takeWhile_render hlines, drop_render hne]
  rw [head_lines, List.headD_cons, List.tail_cons, status_line_text h.status, mapM_field h.fields]
  simp only [Option.bind_some, h.length]

theorem read_text (rest : Str) : read (text r ++ rest) = some (r, rest) := by
  have htext : text r ++ rest = render (head_lines r) ++ '\r' :: '\n' :: (r.body ++ rest) := by
    rw [text, List.append_assoc, List.cons_append, List.cons_append]
  rw [htext, read_head h, if_neg (by rw [List.length_append]; omega), List.take_left, List.drop_left]

/-- A reply that is cut is not read. -/
theorem read_cut {s : Str} (hs : s <+: text r) (hne : s ≠ text r) : read s = none := by
  have hlines := h.lines
  obtain ⟨t, ht⟩ := hs
  have hblank : find blank (s ++ t) = some ((render (head_lines r)).length - 2) := by
    rw [ht]
    exact find_blank (List.cons_ne_nil _ _) hlines r.body
  have hfind := find_of_append (by decide) hblank
  have htwo : 2 ≤ (render (head_lines r)).length := by
    rw [head_lines, render_cons, List.length_append, List.length_cons, List.length_cons]
    omega
  have hfour : (render (head_lines r)).length - 2 + blank.length = (render (head_lines r)).length + 2 := by
    rw [show blank.length = 4 from rfl]
    omega
  rw [hfour] at hfind
  split at hfind
  · -- the head is there: what is missing is at the end of the body
    rename_i hlen
    have hhead : render (head_lines r) ++ ['\r', '\n'] <+: s := by
      have htext : render (head_lines r) ++ ['\r', '\n'] <+: s ++ t := by
        rw [ht]
        exact ⟨r.body, by simp [text]⟩
      exact List.prefix_of_prefix_length_le htext (List.prefix_append _ _) (by simpa using hlen)
    obtain ⟨body, rfl⟩ := hhead
    have hbody : body ++ t = r.body := by
      rw [text, List.append_assoc, List.append_assoc, List.append_cancel_left_eq] at ht
      simpa using ht
    have ht' : t ≠ [] := by
      rintro rfl
      exact hne (by rw [← ht, List.append_nil])
    have hshort : body.length < r.body.length := by
      have hpos := List.length_pos_iff.2 ht'
      rw [← hbody, List.length_append]
      omega
    have hread := read_head h body
    rw [if_pos hshort] at hread
    simpa using hread
  · rw [read, hfind]
    rfl

end

/-! ## Interim replies -/

theorem read_final_of_interim {s rest : Str} {r : Reply} (h : read s = some (r, rest)) (hr : r.status / 100 = 1) :
    read_final s = read_final rest := by
  rw [read_final]
  split
  · rename_i hnone
    rw [h] at hnone
    cases hnone
  · rename_i r' rest' hsome
    rw [h] at hsome
    cases hsome
    rw [if_pos hr]

theorem read_final_of_final {s rest : Str} {r : Reply} (h : read s = some (r, rest)) (hr : r.status / 100 ≠ 1) :
    read_final s = some (r, rest) := by
  rw [read_final]
  split
  · rename_i hnone
    rw [h] at hnone
    cases hnone
  · rename_i r' rest' hsome
    rw [h] at hsome
    cases hsome
    rw [if_neg hr]

theorem read_final_of_none {s : Str} (h : read s = none) : read_final s = none := by
  rw [read_final]
  split
  · rfl
  · rename_i r' rest' hsome
    rw [h] at hsome
    cases hsome

end HttpReply
