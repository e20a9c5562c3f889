import DevSys.Lib.HttpReply
import DevSys.Lib.JsonGrammar
/-!
# Requests to an HTTP server

What a server reads from a connection: a request line of three words, fields,
and a body as long as a field says. A resource is named by the last segment of
the path, in which some characters are escaped.
-/
open Cxx Lines HttpReply

namespace HttpRequests

structure Request where
  method : Str
  target : Str
  body : Str
  deriving DecidableEq, Repr

/-! ## Reading -/

/-- A method, a target without white space and the version. -/
def request_line (line : Str) : Option (Str × Str) :=
  let method := line.takeWhile (· ≠ ' ')
  let rest := (line.dropWhile (· ≠ ' ')).drop 1
  let target := rest.takeWhile (· ≠ ' ')
  if method ≠ [] ∧ target ≠ [] ∧ target.any isspace = false ∧ rest.dropWhile (· ≠ ' ') = " HTTP/1.1".toList then
    some (method, target)
  else none

/-- Without a length there is no body. -/
def body_length (fields : List (Str × Str)) : Option Nat :=
  match value_of "content-length".toList fields with
  | none => some 0
  | some value => if value ≠ [] ∧ value.all Char.isDigit then some (ofDigits value) else none

def read (s : Str) : Option Request := do
  let n ← find blank s
  let lines := ((getlineAll '\n' s).map unterminated).takeWhile (· ≠ [])
  let (method, target) ← request_line (lines.headD [])
  let fields ← lines.tail.mapM field
  let length ← body_length fields
  let rest := s.drop (n + 4)
  if rest.length < length then none else some ⟨method, target, rest.take length⟩

/-- Two hexadecimal digits behind a percent sign are one character. -/
def unquote : Str → Option Str
  | [] => some []
  | c :: s =>
    if c = '%' then
      match s with
      | a :: b :: s => do
        let high ← JsonGrammar.hexDigit a
        let low ← JsonGrammar.hexDigit b
        (unquote s).map (Char.ofNat (16 * high + low) :: ·)
      | _ => none
    else (unquote s).map (c :: ·)

/-- The name behind the path `pre`, if that is one segment. -/
def segment (pre target : Str) : Option Str :=
  if pre <+: target then
    let name := (target.drop pre.length).takeWhile fun c => c ≠ '?' ∧ c ≠ '#'
    if name = [] ∨ '/' ∈ name then none else unquote name
  else none

/-! ## Printing -/

def request_text (method target : Str) : Str := method ++ ' ' :: (target ++ " HTTP/1.1".toList)

def text (method target : Str) (fields : List (Str × Str)) (body : Str) : Str :=
  render (request_text method target :: fields.map field_text) ++ '\r' :: '\n' :: body

/-- A word of a request line. -/
def Word (w : Str) : Prop := w ≠ [] ∧ ∀ c ∈ w, isspace c = false

/-- A name that is a segment as it stands. -/
def Name (t : Str) : Prop := t ≠ [] ∧ ∀ c ∈ t, isspace c = false ∧ c ∉ ['/', '?', '#', '%']

/-! ## What is read of what is printed -/

theorem ne_space_of_word {w : Str} (h : Word w) : ∀ c ∈ w, c ≠ ' ' := by
  intro c hc heq
  have hspace := h.2 c hc
  rw [heq] at hspace
  exact absurd hspace (by decide)

theorem cut_at_space {w : Str} (h : ∀ c ∈ w, c ≠ ' ') (rest : Str) :
    (w ++ ' ' :: rest).takeWhile (· ≠ ' ') = w ∧ (w ++ ' ' :: rest).dropWhile (· ≠ ' ') = ' ' :: rest := by
  have hpos : ∀ c ∈ w, decide (c ≠ ' ') = true := fun c hc => decide_eq_true (h c hc)
  constructor
  · rw [List.takeWhile_append_of_pos hpos, List.takeWhile_cons_of_neg (by decide), List.append_nil]
  · rw [List.dropWhile_append_of_pos hpos, List.dropWhile_cons_of_neg (by decide)]

theorem request_line_text {method target : Str} (hm : Word method) (ht : Word target) :
    request_line (request_text method target) = some (method, target) := by
  obtain ⟨hmethod, hrest⟩ := cut_at_space (ne_space_of_word hm) (target ++ ' ' :: "HTTP/1.1".toList)
  obtain ⟨htarget, hversion⟩ := cut_at_space (ne_space_of_word ht) "HTTP/1.1".toList
  have htext : request_text method target = method ++ ' ' :: (target ++ ' ' :: "HTTP/1.1".toList) := rfl
  rw [request_line, htext, hmethod, hrest, List.drop_one, List.tail_cons, htarget, hversion,
    if_pos ⟨hm.1, ht.1, List.any_eq_false.2 fun c hc => by simp [ht.2 c hc], rfl⟩]

theorem line_of_word {w : Str} (h : Word w) : ∀ c ∈ w, c ≠ '\r' ∧ c ≠ '\n' := by
  intro c hc
  have hspace := h.2 c hc
  constructor
  · rintro rfl
    exact absurd hspace (by decide)
  · rintro rfl
    exact absurd hspace (by decide)

theorem lines_text {method target : Str} (hm : Word method) (ht : Word target) {fields : List (Str × Str)}
    (hf : ∀ f ∈ fields, IsField f) : ∀ l ∈ request_text method target :: fields.map field_text, Line l := by
  rw [List.forall_mem_cons]
  constructor
  · refine line_of_no_break (by simp [request_text]) fun c hc => ?_
    simp only [request_text, List.mem_append, List.mem_cons] at hc
    rcases hc with hc | rfl | hc | hc
    · exact line_of_word hm c hc
    · decide
    · exact line_of_word ht c hc
    · have hversion : ∀ c ∈ [' ', 'H', 'T', 'T', 'P', '/', '1', '.', '1'], c ≠ '\r' ∧ c ≠ '\n' := by simp
      exact hversion c hc
  · intro l hl
    obtain ⟨f, hmem, rfl⟩ := List.mem_map.1 hl
    refine line_of_no_break (by simp [field_text]) fun c hc => ?_
    simp only [field_text, List.mem_append, List.mem_cons] at hc
    rcases hc with hc | rfl | rfl | hc
    · exact ((hf f hmem).name c hc).2
    · decide
    · decide
    · exact (hf f hmem).value c hc

/-- A request that counts its body is read as it is. -/
theorem read_text {method target : Str} (hm : Word method) (ht : Word target) {fields : List (Str × Str)}
    (hf : ∀ f ∈ fields, IsField f) {body : Str} (hlen : body_length fields = some body.length) :
    read (text method target fields body) = some ⟨method, target, body⟩ := by
  have hlines := lines_text hm ht hf
  rw [text, read, find_blank (List.cons_ne_nil _ _) hlines]
  simp only [Option.bind_eq_bind, Option.bind_some, takeWhile_render hlines, drop_render (List.cons_ne_nil _ _)]
  rw [List.headD_cons, List.tail_cons, request_line_text hm ht, mapM_field hf]
  simp [hlen]

theorem eq_of_request_line {line method target : Str} (h : request_line line = some (method, target)) :
    ' ' ∉ method ∧ Word target ∧ line = request_text method target := by
  rw [request_line] at h
  split at h
  · rename_i hword
    obtain ⟨hne, hnil, hspace, hversion⟩ := hword
    cases h
    refine ⟨fun hc => by simpa using List.mem_takeWhile_imp hc, ⟨hnil, by simpa using hspace⟩, ?_⟩
    have hline := List.takeWhile_append_dropWhile (p := (· ≠ ' ')) (l := line)
    have hrest := List.takeWhile_append_dropWhile (p := (· ≠ ' ')) (l := (line.dropWhile (· ≠ ' ')).drop 1)
    rw [hversion] at hrest
    cases hdrop : line.dropWhile (· ≠ ' ') with
    | nil =>
      rw [hdrop] at hnil
      exact absurd rfl hnil
    | cons c rest =>
      obtain rfl : c = ' ' := eq_of_head?_dropWhile (s := line) (by rw [hdrop]; rfl)
      rw [hdrop] at hline hrest
      rw [List.drop_one, List.tail_cons] at hrest
      rw [request_text, List.drop_one, List.tail_cons, hrest, hline]
  · cases h

/-- The first line of what is read is at the start of the text. -/
theorem prefix_of_read {s : Str} {r : Request} (h : read s = some r) :
    ' ' ∉ r.method ∧ Word r.target ∧ request_text r.method r.target <+: s := by
  simp only [read, Option.bind_eq_bind, Option.bind_eq_some_iff] at h
  obtain ⟨n, -, ⟨method, target⟩, hline, fields, -, length, -, h⟩ := h
  have hr : r.method = method ∧ r.target = target := by
    split at h
    · cases h
    · cases h
      exact ⟨rfl, rfl⟩
  rw [hr.1, hr.2]
  obtain ⟨hmethod, htarget, heq⟩ := eq_of_request_line hline
  refine ⟨hmethod, htarget, ?_⟩
  rw [← heq]
  have hunterminated (l : Str) : unterminated l <+: l := by
    rw [unterminated]
    split
    · exact List.dropLast_prefix l
    · exact List.prefix_rfl
  by_cases hs : s = []
  · subst hs
    exact List.prefix_rfl
  · rw [getlineAll_eq_cons '\n' hs, List.map_cons, List.takeWhile_cons]
    split
    · exact (hunterminated _).trans (List.takeWhile_prefix _)
    · exact List.nil_prefix

theorem prefix_at_space {a b x y : Str} (ha : ' ' ∉ a) (hb : ' ' ∉ b) (h : a ++ ' ' :: x <+: b ++ ' ' :: y) :
    a = b ∧ x <+: y := by
  induction a generalizing b with
  | nil =>
    cases b with
    | nil => exact ⟨rfl, (List.cons_prefix_cons.1 h).2⟩
    | cons d b =>
      obtain ⟨rfl, -⟩ := List.cons_prefix_cons.1 h
      exact absurd List.mem_cons_self hb
  | cons c a ih =>
    rw [List.mem_cons, not_or] at ha
    cases b with
    | nil =>
      obtain ⟨rfl, -⟩ := List.cons_prefix_cons.1 h
      exact absurd rfl ha.1
    | cons d b =>
      rw [List.mem_cons, not_or] at hb
      obtain ⟨rfl, hrest⟩ := List.cons_prefix_cons.1 h
      obtain ⟨rfl, hx⟩ := ih ha.2 hb.2 hrest
      exact ⟨rfl, hx⟩

theorem prefix_before_space {a b x y : Str} (ha : ' ' ∉ a) (h : a ++ ' ' :: x <+: b ++ ' ' :: y) : a <+: b := by
  induction b generalizing a with
  | nil =>
    cases a with
    | nil => exact List.prefix_rfl
    | cons c a =>
      obtain ⟨rfl, -⟩ := List.cons_prefix_cons.1 h
      exact absurd List.mem_cons_self ha
  | cons d b ih =>
    cases a with
    | nil => exact List.nil_prefix
    | cons c a =>
      obtain ⟨rfl, hrest⟩ := List.cons_prefix_cons.1 h
      exact List.cons_prefix_cons.2 ⟨rfl, ih (fun hc => ha (List.mem_cons_of_mem _ hc)) hrest⟩

/-- Whatever is written for a target, the method is the one in front of it, and
what is read as the target is the start of it. -/
theorem target_of_read {method w rest : Str} (hm : ' ' ∉ method) {r : Request}
    (h : read (method ++ ' ' :: (w ++ ' ' :: rest)) = some r) : r.method = method ∧ Word r.target ∧ r.target <+: w := by
  obtain ⟨hmethod, htarget, hpre⟩ := prefix_of_read h
  have hspace : ' ' ∉ r.target := fun hc => ne_space_of_word htarget ' ' hc rfl
  obtain ⟨heq, hrest⟩ := prefix_at_space hmethod hm hpre
  exact ⟨heq, htarget, prefix_before_space hspace hrest⟩

/-! ## Names -/

theorem unquote_cons {c : Char} (hc : c ≠ '%') (s : Str) : unquote (c :: s) = (unquote s).map (c :: ·) := by
  rw [unquote.eq_def]
  exact if_neg hc

theorem unquote_of_not_mem {s : Str} (h : '%' ∉ s) : unquote s = some s := by
  induction s with
  | nil => rw [unquote]
  | cons c s ih =>
    rw [List.mem_cons, not_or] at h
    rw [unquote_cons (Ne.symm h.1), ih h.2, Option.map_some]

/-- Escapes make a text longer. -/
theorem length_unquote {s t : Str} (h : unquote s = some t) : t.length ≤ s.length ∧ (t.length = s.length → '%' ∉ s) := by
  induction s using unquote.induct generalizing t with
  | case1 =>
    rw [unquote] at h
    cases h
    simp
  | case2 a b s ih =>
    rw [unquote, if_pos rfl] at h
    simp only [Option.bind_eq_bind, Option.bind_eq_some_iff, Option.map_eq_some_iff] at h
    obtain ⟨high, -, low, -, u, hu, rfl⟩ := h
    have hlen := (ih hu).1
    simp only [List.length_cons]
    exact ⟨by omega, fun heq => by omega⟩
  | case3 s hs =>
    rw [unquote.eq_def] at h
    dsimp only at h
    rw [if_pos rfl] at h
    split at h
    · exact absurd rfl (hs _ _ _)
    · cases h
  | case4 c s hc ih =>
    rw [unquote_cons hc, Option.map_eq_some_iff] at h
    obtain ⟨u, hu, rfl⟩ := h
    obtain ⟨hle, hnot⟩ := ih hu
    simp only [List.length_cons, List.mem_cons, not_or]
    exact ⟨by omega, fun heq => ⟨Ne.symm hc, hnot (by omega)⟩⟩

/-- A name is read back from its path exactly when it has no character that
means something there. -/
theorem segment_iff {pre t : Str} : segment pre (pre ++ t) = some t ↔ t ≠ [] ∧ ∀ c ∈ t, c ∉ ['/', '?', '#', '%'] := by
  have hname : (pre ++ t).drop pre.length = t := List.drop_left
  rw [segment, if_pos (List.prefix_append _ _), hname]
  dsimp only
  constructor
  · intro h
    split at h
    · cases h
    · rename_i hnot
      rw [not_or] at hnot
      obtain ⟨hle, hpercent⟩ := length_unquote h
      have hpre : (t.takeWhile fun c => c ≠ '?' ∧ c ≠ '#') <+: t := List.takeWhile_prefix _
      have heq : (t.takeWhile fun c => c ≠ '?' ∧ c ≠ '#') = t := hpre.eq_of_length_le hle
      rw [heq] at hnot hpercent
      refine ⟨hnot.1, fun c hc hmem => ?_⟩
      rw [List.takeWhile_eq_self_iff] at heq
      have hquery := heq c hc
      simp only [List.mem_cons, List.not_mem_nil, or_false] at hmem
      rcases hmem with rfl | rfl | rfl | rfl
      · exact hnot.2 hc
      · exact absurd hquery (by decide)
      · exact absurd hquery (by decide)
      · exact hpercent rfl hc
  · rintro ⟨hne, hall⟩
    have htake : (t.takeWhile fun c => c ≠ '?' ∧ c ≠ '#') = t := by
      rw [List.takeWhile_eq_self_iff]
      intro c hc
      have hc := hall c hc
      simp only [List.mem_cons, not_or] at hc
      simp [hc]
    have hslash : '/' ∉ t := fun hc => hall _ hc (by simp)
    have hpercent : '%' ∉ t := fun hc => hall _ hc (by simp)
    rw [htake, if_neg (not_or.2 ⟨hne, hslash⟩), unquote_of_not_mem hpercent]

theorem segment_length {pre target t : Str} (h : segment pre target = some t) : pre.length + t.length ≤ target.length := by
  rw [segment] at h
  split at h
  · rename_i hpre
    dsimp only at h
    split at h
    · cases h
    · have hle := (length_unquote h).1
      have hcut : ((target.drop pre.length).takeWhile fun c => c ≠ '?' ∧ c ≠ '#') <+: target.drop pre.length :=
        List.takeWhile_prefix _
      have htake := hcut.length_le
      have hdrop := List.length_drop (i := pre.length) (l := target)
      have hfront := hpre.length_le
      omega
  · cases h

/-- A name that is read back from the path of a request is one word and one
segment as it stands. -/
theorem name_of_read {method pre t body : Str} {fields : List (Str × Str)} (hm : Word method) {r : Request}
    (h : read (text method (pre ++ t) fields body) = some r) (ht : segment pre r.target = some t) : Name t := by
  have hspace : ' ' ∉ method := fun hc => ne_space_of_word hm ' ' hc rfl
  have htext : text method (pre ++ t) fields body = method ++ ' ' :: ((pre ++ t) ++ ' ' ::
      ("HTTP/1.1".toList ++ '\r' :: '\n' :: (render (fields.map field_text) ++ '\r' :: '\n' :: body))) := by
    rw [text, render_cons, request_text]
    simp only [List.append_assoc, List.cons_append]
    rfl
  rw [htext] at h
  obtain ⟨-, htarget, hfront⟩ := target_of_read hspace h
  have heq : r.target = pre ++ t := hfront.eq_of_length_le (by rw [List.length_append]; exact segment_length ht)
  rw [heq, segment_iff] at ht
  refine ⟨ht.1, fun c hc => ⟨?_, ht.2 c hc⟩⟩
  rw [heq] at htarget
  exact htarget.2 c (List.mem_append_right _ hc)

end HttpRequests
