import DevSys.Lib.Strings
/-!
# Reading SQL text

A lexer as a machine that takes one character at a time, for the text of
PostgreSQL with `standard_conforming_strings` on: a literal ends at its first
single quote that is not doubled, and goes on behind white space with a line end
in it if another quote follows. Escape strings and dollar quoting are left out.
-/
open Cxx

namespace SqlText

inductive Token where
  | word (s : Str)
  | number (s : Str)
  | literal (value : Str)
  | quoted (name : Str)
  | symbol (c : Char)
  deriving DecidableEq, Repr

/-- White space behind a literal; `newline` is whether it has had a line end. -/
inductive Gap where
  | space (newline : Bool)
  | dash (newline : Bool)
  | comment
  deriving DecidableEq, Repr

/-- What the lexer is in the middle of. -/
inductive Mode where
  | start
  | word (s : Str)
  | number (s : Str)
  | literal (value : Str)
  -- behind a quote in a literal: its end, or the first of two
  | literal_quote (value : Str)
  | literal_gap (value : Str) (gap : Gap)
  | quoted (name : Str)
  | quoted_quote (name : Str)
  | dash
  | line_comment
  | slash
  -- in a comment, by how many others it is nested in
  | comment (depth : Nat)
  | comment_star (depth : Nat)
  | comment_slash (depth : Nat)
  deriving DecidableEq, Repr

def isWordStart (c : Char) : Bool := c.isAlpha || c = '_' || 128 ≤ c.toNat

def isWord (c : Char) : Bool := isWordStart c || c.isDigit || c = '$'

def isNewline (c : Char) : Bool := c = '\n' || c = '\r'

/-- A character between two tokens. -/
def begin_token (c : Char) : List Token × Mode :=
  if isspace c then ([], .start)
  else if c = '\'' then ([], .literal [])
  else if c = '"' then ([], .quoted [])
  else if c = '-' then ([], .dash)
  else if c = '/' then ([], .slash)
  else if isWordStart c then ([], .word [c])
  else if c.isDigit then ([], .number [c])
  else ([.symbol c], .start)

/-- The character behind a token that is complete. -/
def next_token (t : Token) (c : Char) : List Token × Mode := (t :: (begin_token c).1, (begin_token c).2)

/-- A character behind a literal, which goes on at a quote in another line. -/
def step_gap (value : Str) : Gap → Char → List Token × Mode
  | .space newline, c =>
    if isspace c then ([], .literal_gap value (.space (newline || isNewline c)))
    else if c = '-' then ([], .literal_gap value (.dash newline))
    else if c = '\'' ∧ newline then ([], .literal value)
    else next_token (.literal value) c
  | .dash _, c =>
    if c = '-' then ([], .literal_gap value .comment)
    else (.literal value :: (next_token (.symbol '-') c).1, (next_token (.symbol '-') c).2)
  | .comment, c =>
    if isNewline c then ([], .literal_gap value (.space true)) else ([], .literal_gap value .comment)

def step : Mode → Char → List Token × Mode
  | .start, c => begin_token c
  | .word s, c => if isWord c then ([], .word (s ++ [c])) else next_token (.word s) c
  | .number s, c => if c.isDigit || c = '.' then ([], .number (s ++ [c])) else next_token (.number s) c
  | .literal s, c => if c = '\'' then ([], .literal_quote s) else ([], .literal (s ++ [c]))
  | .literal_quote s, c => if c = '\'' then ([], .literal (s ++ ['\''])) else step_gap s (.space false) c
  | .literal_gap s gap, c => step_gap s gap c
  | .quoted s, c => if c = '"' then ([], .quoted_quote s) else ([], .quoted (s ++ [c]))
  | .quoted_quote s, c => if c = '"' then ([], .quoted (s ++ ['"'])) else next_token (.quoted s) c
  | .dash, c => if c = '-' then ([], .line_comment) else next_token (.symbol '-') c
  | .line_comment, c => if isNewline c then ([], .start) else ([], .line_comment)
  | .slash, c => if c = '*' then ([], .comment 0) else next_token (.symbol '/') c
  | .comment n, c =>
    if c = '*' then ([], .comment_star n) else if c = '/' then ([], .comment_slash n) else ([], .comment n)
  | .comment_star n, c =>
    if c = '/' then ([], match n with | 0 => .start | n + 1 => .comment n)
    else if c = '*' then ([], .comment_star n)
    else ([], .comment n)
  | .comment_slash n, c =>
    if c = '*' then ([], .comment (n + 1)) else if c = '/' then ([], .comment_slash n) else ([], .comment n)

/-- The end of the text; a literal, a name or a comment that is still open is an error. -/
def finish : Mode → Option (List Token)
  | .start => some []
  | .word s => some [.word s]
  | .number s => some [.number s]
  | .literal_quote s => some [.literal s]
  | .literal_gap s (.dash _) => some [.literal s, .symbol '-']
  | .literal_gap s _ => some [.literal s]
  | .quoted_quote s => some [.quoted s]
  | .dash => some [.symbol '-']
  | .slash => some [.symbol '/']
  | .line_comment => some []
  | .literal _ => none
  | .quoted _ => none
  | .comment _ => none
  | .comment_star _ => none
  | .comment_slash _ => none

def lexFrom (m : Mode) : Str → Option (List Token)
  | [] => finish m
  | c :: s => (lexFrom (step m c).2 s).map ((step m c).1 ++ ·)

/-- The tokens of a text. -/
def lex (s : Str) : Option (List Token) := lexFrom .start s

/-- The tokens that are complete within a part of a text, and the mode after it. -/
def run (m : Mode) : Str → List Token × Mode
  | [] => ([], m)
  | c :: s => ((step m c).1 ++ (run (step m c).2 s).1, (run (step m c).2 s).2)

theorem lexFrom_append (m : Mode) (a b : Str) :
    lexFrom m (a ++ b) = (lexFrom (run m a).2 b).map ((run m a).1 ++ ·) := by
  induction a generalizing m with
  | nil => simp [run]
  | cons c a ih => simp [lexFrom, run, ih, Option.map_map, Function.comp_def]

/-- A part of a text that ends between two tokens. -/
theorem lex_of_run {s : Str} {ts : List Token} (h : run .start s = (ts, .start)) (r : Str) :
    lex (s ++ r) = (lex r).map (ts ++ ·) := by
  rw [lex, lexFrom_append, h]
  rfl

/-- A complete token, and what follows it. -/
theorem lexFrom_of_step {m : Mode} {t : Token} {c : Char} (h : step m c = next_token t c) (s : Str) :
    lexFrom m (c :: s) = (lex (c :: s)).map (t :: ·) := by
  rw [lexFrom, h, lex, lexFrom, Option.map_map]
  rfl

/-! ## Literals -/

/-- A text as a literal, with its quotes doubled. -/
def quote (s : Str) : Str := '\'' :: s.flatMap (fun c => if c = '\'' then ['\'', '\''] else [c]) ++ ['\'']

/-- What follows the quote in another line with which a literal goes on. -/
def continuation : Gap → Str → Option Str
  | _, [] => none
  | .space newline, c :: s =>
    if isspace c then continuation (.space (newline || isNewline c)) s
    else if c = '-' then continuation (.dash newline) s
    else if c = '\'' ∧ newline then some s
    else none
  | .dash _, c :: s => if c = '-' then continuation .comment s else none
  | .comment, c :: s => if isNewline c then continuation (.space true) s else continuation .comment s

/-- A text with which a literal in front of it goes on: a quote, or white space
and comments with a line end and a quote behind them. -/
def Continues (r : Str) : Prop := r.head? = some '\'' ∨ (continuation (.space false) r).isSome

instance (r : Str) : Decidable (Continues r) := inferInstanceAs (Decidable (_ ∨ _))

/-- The lexer without the literal in front. -/
def Gap.mode : Gap → Mode
  | .space _ => .start
  | .dash _ => .dash
  | .comment => .line_comment

/-- White space behind a literal belongs to it, or to what follows. -/
theorem lexFrom_gap (v : Str) (g : Gap) (r : Str) :
    lexFrom (.literal_gap v g) r = match continuation g r with
      | some s => lexFrom (.literal v) s
      | none => (lexFrom g.mode r).map (.literal v :: ·) := by
  induction r generalizing g with
  | nil => cases g <;> rfl
  | cons c r ih =>
    cases g with
    | space newline =>
      by_cases hspace : isspace c
      · simp [lexFrom, step, step_gap, continuation, Gap.mode, begin_token, hspace, ih]
      by_cases hdash : c = '-'
      · subst hdash
        simp [lexFrom, step, step_gap, continuation, Gap.mode, begin_token, hspace, ih]
      by_cases hquote : c = '\'' ∧ newline
      · obtain ⟨rfl, rfl⟩ := hquote
        simp [lexFrom, step, step_gap, continuation, isspace]
      · simp [lexFrom, step, step_gap, continuation, Gap.mode, next_token, hspace, hdash, hquote, Function.comp_def]
    | dash newline =>
      by_cases hdash : c = '-'
      · simp [lexFrom, step, step_gap, continuation, Gap.mode, hdash, ih]
      · simp [lexFrom, step, step_gap, continuation, Gap.mode, hdash, Function.comp_def]
    | comment =>
      by_cases hnewline : isNewline c
      · simp [lexFrom, step, step_gap, continuation, Gap.mode, hnewline, ih]
      · simp [lexFrom, step, step_gap, continuation, Gap.mode, hnewline, ih]

/-- A literal that is closed, in front of anything but another quote. -/
theorem lexFrom_closed (v : Str) {r : Str} (hr : r.head? ≠ some '\'') :
    lexFrom (.literal_quote v) r = match continuation (.space false) r with
      | some s => lexFrom (.literal v) s
      | none => (lex r).map (.literal v :: ·) := by
  cases r with
  | nil => rfl
  | cons c r =>
    have hc : c ≠ '\'' := by simpa using hr
    have hstep : step (.literal_quote v) c = step (.literal_gap v (.space false)) c := by simp [step, hc]
    have hgap := lexFrom_gap v (.space false) (c :: r)
    rw [lexFrom, ← hstep] at hgap
    exact hgap

theorem lexFrom_literal_quote (v : Str) {r : Str} (hr : ¬Continues r) :
    lexFrom (.literal_quote v) r = (lex r).map (.literal v :: ·) := by
  rw [Continues, not_or, Option.not_isSome_iff_eq_none] at hr
  rw [lexFrom_closed v hr.1, hr.2]

theorem lexFrom_doubled (v s r : Str) :
    lexFrom (.literal v) (s.flatMap (fun c => if c = '\'' then ['\'', '\''] else [c]) ++ '\'' :: r) =
      lexFrom (.literal_quote (v ++ s)) r := by
  induction s generalizing v with
  | nil => simp [lexFrom, step]
  | cons c s ih => by_cases hc : c = '\'' <;> simp [hc, lexFrom, step, ih]

/-- A quoted text is one literal in front of a text that does not continue it. -/
theorem lex_quote (s : Str) {r : Str} (hr : ¬Continues r) :
    lex (quote s ++ r) = (lex r).map (.literal s :: ·) := by
  have h := lexFrom_doubled [] s r
  rw [List.nil_append, lexFrom_literal_quote s hr] at h
  rw [← h, quote, lex]
  simp [lexFrom, step, begin_token, isspace]

/-! ## Unescaped literals -/

/-- A text between quotes as it is. -/
def raw (s : Str) : Str := '\'' :: s ++ ['\'']

/-- A text behind an opening quote, through the closing one, and its value.
Each quote in the value takes two, and a line end in between takes more. -/
structure Closed (text value : Str) : Prop where
  last : text.getLast? = some '\''
  length : value.length < text.length
  plain : text.length = value.length + 1 → text = value ++ ['\''] ∧ '\'' ∉ value

theorem Closed.close : Closed ['\''] [] := ⟨rfl, by simp, by simp⟩

section
variable {text value : Str} (h : Closed text value)
include h

theorem Closed.append (s : Str) : (s ++ text).getLast? = some '\'' := by
  rw [List.getLast?_append, h.last]
  rfl

theorem Closed.cons {c : Char} (hc : c ≠ '\'') : Closed (c :: text) (c :: value) := by
  refine ⟨h.append [c], Nat.succ_lt_succ h.length, fun hlen => ?_⟩
  obtain ⟨htext, hvalue⟩ := h.plain (Nat.succ.inj hlen)
  exact ⟨by rw [htext, List.cons_append], by simp [hvalue, Ne.symm hc]⟩

theorem Closed.pair : Closed ('\'' :: '\'' :: text) ('\'' :: value) := by
  have hlen := h.length
  refine ⟨h.append ['\'', '\''], ?_, fun heq => ?_⟩
  · simp only [List.length_cons]
    omega
  · simp only [List.length_cons] at heq
    omega

theorem Closed.join (gap : Str) : Closed ('\'' :: (gap ++ '\'' :: text)) value := by
  have hlen := h.length
  have hlast := h.append ('\'' :: gap ++ ['\''])
  refine ⟨?_, ?_, fun heq => ?_⟩
  · simpa using hlast
  · simp only [List.length_cons, List.length_append]
    omega
  · simp only [List.length_cons, List.length_append] at heq
    omega

end

theorem continuation_suffix {g : Gap} {r s : Str} (h : continuation g r = some s) :
    ∃ gap, r = gap ++ '\'' :: s := by
  have hcons {c : Char} {r : Str} : (∃ gap, r = gap ++ '\'' :: s) → ∃ gap, c :: r = gap ++ '\'' :: s := by
    rintro ⟨gap, rfl⟩
    exact ⟨c :: gap, rfl⟩
  induction r generalizing g with
  | nil => cases g <;> cases h
  | cons c r ih =>
    cases g with
    | space newline =>
      rw [continuation] at h
      split at h
      · exact hcons (ih h)
      split at h
      · exact hcons (ih h)
      split at h
      · next hquote =>
        obtain rfl := Option.some.inj h
        exact ⟨[], by rw [hquote.1, List.nil_append]⟩
      · cases h
    | dash newline =>
      rw [continuation] at h
      split at h
      · exact hcons (ih h)
      · cases h
    | comment =>
      rw [continuation] at h
      split at h
      · exact hcons (ih h)
      · exact hcons (ih h)

/-- Every literal that is read to its end is one, and the lexer goes on behind it. -/
theorem closed_of_lexFrom {v s : Str} {toks : List Token} (h : lexFrom (.literal v) s = some toks) :
    ∃ text value rest toks', s = text ++ rest ∧ Closed text value ∧ lex rest = some toks' ∧
      toks = .literal (v ++ value) :: toks' := by
  match s with
  | [] => cases h
  | c :: s =>
    by_cases hc : c = '\''
    · subst hc
      have hstep : lexFrom (.literal v) ('\'' :: s) = lexFrom (.literal_quote v) s := by simp [lexFrom, step]
      rw [hstep] at h
      by_cases hs : s.head? = some '\''
      · obtain ⟨s, rfl⟩ := List.head?_eq_some_iff.1 hs
        have hpair : lexFrom (.literal_quote v) ('\'' :: s) = lexFrom (.literal (v ++ ['\''])) s := by
          simp [lexFrom, step]
        rw [hpair] at h
        obtain ⟨text, value, rest, toks', rfl, hclosed, hrest, rfl⟩ := closed_of_lexFrom h
        exact ⟨_, _, rest, toks', rfl, hclosed.pair, hrest, by rw [List.append_assoc]; rfl⟩
      rw [lexFrom_closed v hs] at h
      cases hcont : continuation (.space false) s with
      | none =>
        rw [hcont] at h
        obtain ⟨toks', hrest, rfl⟩ := Option.map_eq_some_iff.1 h
        exact ⟨['\''], [], s, toks', rfl, .close, hrest, by rw [List.append_nil]⟩
      | some s' =>
        rw [hcont] at h
        obtain ⟨gap, rfl⟩ := continuation_suffix hcont
        obtain ⟨text, value, rest, toks', rfl, hclosed, hrest, rfl⟩ := closed_of_lexFrom h
        exact ⟨_, value, rest, toks', by simp, hclosed.join gap, hrest, rfl⟩
    · have hstep : lexFrom (.literal v) (c :: s) = lexFrom (.literal (v ++ [c])) s := by simp [lexFrom, step, hc]
      rw [hstep] at h
      obtain ⟨text, value, rest, toks', rfl, hclosed, hrest, rfl⟩ := closed_of_lexFrom h
      exact ⟨_, _, rest, toks', rfl, hclosed.cons hc, hrest, by rw [List.append_assoc]; rfl⟩
termination_by s.length

theorem lex_raw (s r : Str) : lex (raw s ++ r) = lexFrom (.literal []) (s ++ '\'' :: r) := by
  simp [raw, lex, lexFrom, step, begin_token, isspace]

theorem quote_of_plain {s : Str} (hs : '\'' ∉ s) : quote s = raw s := by
  have hid : s.flatMap (fun c => if c = '\'' then ['\'', '\''] else [c]) = s := by
    induction s with
    | nil => rfl
    | cons c s ih =>
      simp only [List.mem_cons, not_or] at hs
      rw [List.flatMap_cons, if_neg (Ne.symm hs.1), ih hs.2]
      rfl
  rw [quote, raw, hid]

/-- If a text between quotes reads as itself, it has no quotes, or its literal
goes on to a quote further behind. -/
theorem plain_or_overrun {s r : Str} {toks : List Token} (h : lex (raw s ++ r) = some (.literal s :: toks)) :
    ('\'' ∉ s ∧ lex r = some toks) ∨ ∃ u rest, r = u ++ '\'' :: rest ∧ lex rest = some toks := by
  rw [lex_raw] at h
  obtain ⟨text, value, rest, toks', heq, hclosed, hrest, htoks⟩ := closed_of_lexFrom h
  obtain ⟨hvalue, rfl⟩ := List.cons.inj htoks
  obtain rfl := Token.literal.inj hvalue
  rcases Nat.eq_or_lt_of_le hclosed.length with hlen | hlen
  · obtain ⟨rfl, hs⟩ := hclosed.plain hlen.symm
    rw [List.append_assoc] at heq
    obtain ⟨-, rfl⟩ := List.cons.inj (List.append_cancel_left heq)
    exact .inl ⟨hs, hrest⟩
  · rw [← List.singleton_append, ← List.append_assoc] at heq
    obtain ⟨w, rfl, rfl⟩ | ⟨w, hw, -⟩ := List.append_eq_append_iff.1 heq
    · have hne : w ≠ [] := by
        rintro rfl
        simp at hlen
      obtain ⟨u, hu⟩ : ∃ u, w = u ++ ['\''] := by
        have hlast := hclosed.last
        rw [List.getLast?_append_of_ne_nil _ hne] at hlast
        exact List.getLast?_eq_some_iff.1 hlast
      exact .inr ⟨u, rest, by rw [hu, List.append_assoc]; rfl, hrest⟩
    · have hlen' := congrArg List.length hw
      simp only [List.length_append, List.length_singleton] at hlen'
      omega

/-! ## Room for a literal -/

/-- The length of a text through its last quote. -/
def room : Str → Nat
  | [] => 0
  | c :: s => if '\'' ∈ c :: s then room s + 1 else 0

/-- What a literal that is being read has of the text already. -/
def Mode.held : Mode → Nat
  | .literal s => s.length + 1
  | .literal_quote s => s.length + 2
  | .literal_gap s _ => s.length + 2
  | _ => 0

theorem room_eq_zero {s : Str} (h : '\'' ∉ s) : room s = 0 := by
  cases s with
  | nil => rfl
  | cons c s => rw [room, if_neg h]

theorem room_append_quote (a : Str) {b : Str} (hb : '\'' ∉ b) : room (a ++ '\'' :: b) = a.length + 1 := by
  induction a with
  | nil => simp [room, room_eq_zero hb]
  | cons c a ih =>
    rw [List.cons_append, room, if_pos (by simp), ih]
    rfl

theorem room_le_append (a b : Str) : room b ≤ room (a ++ b) := by
  induction a with
  | nil => exact le_rfl
  | cons c a ih =>
    by_cases hmem : '\'' ∈ c :: (a ++ b)
    · rw [List.cons_append, room, if_pos hmem]
      omega
    · have hb : '\'' ∉ b := fun hb => hmem (by simp [hb])
      rw [room_eq_zero hb]
      exact Nat.zero_le _

theorem room_lt_append (a s : Str) : room s < room (a ++ '\'' :: s) := by
  have h := room_le_append a ('\'' :: s)
  rw [room, if_pos List.mem_cons_self] at h
  exact h

theorem lexFrom_literal_none {v s : Str} (h : '\'' ∉ s) : lexFrom (.literal v) s = none := by
  induction s generalizing v with
  | nil => rfl
  | cons c s ih =>
    simp only [List.mem_cons, not_or] at h
    simp [lexFrom, step, Ne.symm h.1, ih h.2]

theorem begin_token_held (c : Char) :
    (∀ v, .literal v ∉ (begin_token c).1) ∧ (begin_token c).2.held ≤ 1 ∧
      (c ≠ '\'' → (begin_token c).2.held = 0) := by
  unfold begin_token
  repeat' split
  all_goals simp_all [Mode.held]

/-- What a step emits was held, and a quote makes it one more. Any other
character does so in a literal only. -/
structure Holds (m : Mode) (c : Char) (st : List Token × Mode) : Prop where
  emitted : ∀ v, .literal v ∈ st.1 → v.length + 2 ≤ m.held
  held : st.2.held ≤ m.held + 1
  plain : c ≠ '\'' → st.2.held ≤ m.held ∨ ∃ v, st.2 = .literal v

theorem holds_begin (m : Mode) (c : Char) : Holds m c (begin_token c) := by
  obtain ⟨hnone, hle, hplain⟩ := begin_token_held c
  refine ⟨fun v hv => absurd hv (hnone v), by omega, fun hc => .inl ?_⟩
  rw [hplain hc]
  exact Nat.zero_le _

theorem Holds.emit {m : Mode} {c : Char} {st : List Token × Mode} (h : Holds m c st) {t : Token}
    (ht : ∀ v, t = .literal v → v.length + 2 ≤ m.held) : Holds m c (t :: st.1, st.2) := by
  refine ⟨fun v hv => ?_, h.held, h.plain⟩
  rcases List.mem_cons.1 hv with hv | hv
  · exact ht v hv.symm
  · exact h.emitted v hv

/-- A step that emits nothing and holds no more. -/
theorem holds_on {m m' : Mode} (c : Char) (h : m'.held ≤ m.held) : Holds m c ([], m') :=
  ⟨by simp, by simp only; omega, fun _ => .inl h⟩

theorem holds_gap (v : Str) (g : Gap) (c : Char) {m : Mode} (hm : m.held = v.length + 2) :
    Holds m c (step_gap v g c) := by
  have hliteral : ∀ u, Token.literal v = .literal u → u.length + 2 ≤ m.held := by
    rintro u ⟨⟩
    exact hm.ge
  have hgap (g' : Gap) : Holds m c ([], .literal_gap v g') := holds_on c hm.ge
  cases g with
  | space newline =>
    rw [step_gap]
    split
    · exact hgap _
    split
    · exact hgap _
    split
    · exact holds_on c (by rw [hm]; exact Nat.le_succ _)
    · exact (holds_begin m c).emit hliteral
  | dash newline =>
    rw [step_gap]
    split
    · exact hgap _
    · exact ((holds_begin m c).emit (by simp)).emit hliteral
  | comment =>
    rw [step_gap]
    split <;> exact hgap _

theorem holds_step (m : Mode) (c : Char) : Holds m c (step m c) := by
  -- only the modes of a literal hold characters
  have hnext {t : Token} (ht : ∀ v, t ≠ .literal v) : Holds m c (next_token t c) :=
    (holds_begin m c).emit fun v hv => absurd hv (ht v)
  have hon {m' : Mode} (h : m'.held = 0) : Holds m c ([], m') := holds_on c (by omega)
  cases m with
  | start => exact holds_begin _ c
  | literal v =>
    rw [step]
    split
    · next hc => exact ⟨by simp, le_rfl, fun hne => absurd hc hne⟩
    · exact ⟨by simp, by simp [Mode.held], fun _ => .inr ⟨_, rfl⟩⟩
  | literal_quote v =>
    rw [step]
    split
    · exact holds_on c (by simp [Mode.held])
    · exact holds_gap v _ c rfl
  | literal_gap v g => exact holds_gap v g c rfl
  | word | number | quoted_quote | dash | slash =>
    rw [step]
    split
    · exact hon rfl
    · exact hnext (by simp)
  | quoted | line_comment =>
    rw [step]
    split <;> exact hon rfl
  | comment | comment_slash =>
    rw [step]
    split
    · exact hon rfl
    split <;> exact hon rfl
  | comment_star n =>
    simp only [step]
    split
    · cases n <;> exact hon rfl
    split <;> exact hon rfl

/-- A literal that is read from a text has its two quotes there. -/
theorem room_of_mem {m : Mode} {s : Str} {toks : List Token} (h : lexFrom m s = some toks) {v : Str}
    (hv : .literal v ∈ toks) : v.length + 2 ≤ m.held + room s := by
  induction s generalizing m toks with
  | nil =>
    cases m with
    | literal_gap u g => cases g <;> cases h <;> simp_all [Mode.held]
    | _ => cases h <;> simp_all [Mode.held]
  | cons c s ih =>
    obtain ⟨toks', htoks, rfl⟩ := Option.map_eq_some_iff.1 h
    obtain ⟨hemitted, hheld, hplain⟩ := holds_step m c
    rcases List.mem_append.1 hv with hv | hv
    · exact (hemitted v hv).trans (Nat.le_add_right _ _)
    have hroom := ih htoks hv
    by_cases hmem : '\'' ∈ c :: s
    · rw [room, if_pos hmem]
      omega
    · have hs : '\'' ∉ s := fun hs => hmem (List.mem_cons_of_mem c hs)
      rw [room_eq_zero hs] at hroom
      rcases hplain fun hc => hmem (hc ▸ List.mem_cons_self) with hle | ⟨u, hu⟩
      · omega
      · rw [hu, lexFrom_literal_none hs] at htoks
        cases htoks

/-! ## Values -/

/-- A value in a statement. -/
inductive Arg where
  | str (value : Str)
  | num (n : Int)
  | bool (b : Bool)
  deriving DecidableEq, Repr

def Arg.text : Arg → Str
  | .str s => quote s
  | .num n => to_string n
  | .bool b => if b then "TRUE".toList else "FALSE".toList

/-- A number, behind its sign if it is negative. -/
def numeral : Int → List Token
  | .ofNat n => [.number (Nat.toDigits 10 n)]
  | .negSucc n => [.symbol '-', .number (Nat.toDigits 10 (n + 1))]

def Arg.tokens : Arg → List Token
  | .str s => [.literal s]
  | .num n => numeral n
  | .bool b => [.word (if b then "TRUE".toList else "FALSE".toList)]

/-- What can stand behind a value. -/
def Ends (r : Str) : Prop :=
  ∀ c ∈ r.head?, isWord c = false ∧ c ≠ '.' ∧ isspace c = false ∧ c ≠ '-' ∧ c ≠ '\''

instance : (r : Str) → Decidable (Ends r)
  | [] => .isTrue (by simp [Ends])
  | c :: _ =>
    decidable_of_iff (isWord c = false ∧ c ≠ '.' ∧ isspace c = false ∧ c ≠ '-' ∧ c ≠ '\'') (by simp [Ends])

theorem Ends.append {p : Str} (hp : Ends p) (hne : p ≠ []) (r : Str) : Ends (p ++ r) := by
  obtain ⟨c, p, rfl⟩ := List.exists_cons_of_ne_nil hne
  exact hp

theorem Ends.not_continues {r : Str} (h : Ends r) : ¬Continues r := by
  cases r with
  | nil => decide
  | cons c r =>
    obtain ⟨-, -, hspace, hdash, hquote⟩ := h c rfl
    simp [Continues, continuation, hspace, hdash, hquote]

theorem lexFrom_number (v ds : Str) (hds : ∀ c ∈ ds, c.isDigit) {r : Str} (hr : Ends r) :
    lexFrom (.number v) (ds ++ r) = (lex r).map (.number (v ++ ds) :: ·) := by
  induction ds generalizing v with
  | nil =>
    cases r with
    | nil => simp [lexFrom, finish, lex]
    | cons c r =>
      obtain ⟨hword, hdot, -⟩ := hr c rfl
      simp only [isWord, Bool.or_eq_false_iff] at hword
      rw [List.nil_append, List.append_nil]
      exact lexFrom_of_step (by simp [step, hword.1.2, hdot]) r
  | cons c ds ih =>
    rw [List.forall_mem_cons] at hds
    have hstep : step (.number v) c = ([], .number (v ++ [c])) := by simp [step, hds.1]
    rw [List.cons_append, lexFrom, hstep, ih (v ++ [c]) hds.2, Option.map_map]
    simp [Function.comp_def]

theorem not_isWordStart_of_isDigit {c : Char} (hc : c.isDigit) : isWordStart c = false := by
  have hval : 48 ≤ c.toNat ∧ c.toNat ≤ 57 := by simpa [Char.isDigit, UInt32.le_iff_toNat_le] using hc
  have hne : c ≠ '_' := by
    rintro rfl
    simp at hval
  have halpha : c.isAlpha = false := by
    rw [Bool.eq_false_iff]
    intro h
    rcases Bool.or_eq_true_iff.1 h with h | h
    · have hupper : c.val ≥ 'A'.val ∧ c.val ≤ 'Z'.val := of_decide_eq_true h
      have hge : 65 ≤ c.toNat := UInt32.le_iff_toNat_le.1 hupper.1
      omega
    · have hlower : c.val ≥ 'a'.val := of_decide_eq_true (Bool.and_eq_true_iff.1 h).1
      have hge : 97 ≤ c.toNat := UInt32.le_iff_toNat_le.1 hlower
      omega
  have hnat : ¬128 ≤ c.toNat := by omega
  simp [isWordStart, halpha, hne, hnat]

theorem begin_token_of_isDigit {c : Char} (hc : c.isDigit) : begin_token c = ([], .number [c]) := by
  have hne (d : Char) (hd : d.isDigit = false) : c ≠ d := by
    rintro rfl
    simp [hd] at hc
  simp [begin_token, not_isspace_of_isDigit hc, not_isWordStart_of_isDigit hc, hc, hne '\'' (by decide),
    hne '"' (by decide), hne '-' (by decide), hne '/' (by decide)]

/-- Digits are one number. -/
theorem lex_digits (n : Nat) {r : Str} (hr : Ends r) :
    lex (Nat.toDigits 10 n ++ r) = (lex r).map (.number (Nat.toDigits 10 n) :: ·) := by
  have hall : ∀ c ∈ Nat.toDigits 10 n, c.isDigit := fun _ => isDigit_of_mem_toDigits
  obtain ⟨c, ds, h, hc⟩ := toDigits_head n
  rw [h] at hall ⊢
  have hbegin : step .start c = ([], .number [c]) := begin_token_of_isDigit hc
  rw [lex, List.cons_append, lexFrom, hbegin, lexFrom_number [c] ds (List.forall_mem_cons.1 hall).2 hr,
    Option.map_map]
  rfl

/-- A printed value is read as it is, up to what can stand behind it. -/
theorem lex_arg (a : Arg) {r : Str} (hr : Ends r) : lex (a.text ++ r) = (lex r).map (a.tokens ++ ·) := by
  cases a with
  | str s => exact lex_quote s hr.not_continues
  | num n =>
    cases n with
    | ofNat n => exact lex_digits n hr
    | negSucc n =>
      obtain ⟨c, ds, h, hc⟩ := toDigits_head (n + 1)
      have hdash : step .dash c = next_token (.symbol '-') c := by
        have hne : c ≠ '-' := by
          rintro rfl
          simp at hc
        simp [step, hne]
      have hdigits := lex_digits (n + 1) hr
      have hstep : step .start '-' = ([], .dash) := rfl
      rw [Arg.text, to_string, List.cons_append, lex, lexFrom, hstep]
      rw [h, List.cons_append] at hdigits ⊢
      rw [lexFrom_of_step hdash, hdigits, Option.map_map, Option.map_map, Arg.tokens, numeral, h]
      rfl
  | bool b =>
    have hrun : run .start (Arg.bool b).text = ([], .word (Arg.bool b).text) := by cases b <;> decide
    have htokens : (Arg.bool b).tokens = [.word (Arg.bool b).text] := rfl
    rw [lex, lexFrom_append, hrun, htokens]
    cases r with
    | nil => simp [lexFrom, finish, lex]
    | cons c r =>
      have hword := (hr c rfl).1
      have hstep : step (.word (Arg.bool b).text) c = next_token (.word (Arg.bool b).text) c := by simp [step, hword]
      rw [lexFrom_of_step hstep, Option.map_map]
      simp [Function.comp_def]

/-! ## Statements -/

/-- Tokens that a statement always has, or the place of a value. -/
inductive Item where
  | tokens (ts : List Token)
  | slot
  deriving DecidableEq, Repr

/-- The tokens of a template with these values. -/
def fill : List Item → List Arg → List Token
  | [], _ => []
  | .tokens ts :: is, as => ts ++ fill is as
  | .slot :: is, [] => fill is []
  | .slot :: is, a :: as => a.tokens ++ fill is as

/-- The values of a row, between commas. -/
def valuesText : List Arg → Str
  | [] => []
  | [a] => a.text
  | a :: as => a.text ++ ',' :: valuesText as

def valueSlots : Nat → List Item
  | 0 => []
  | 1 => [.slot]
  | n + 2 => .slot :: .tokens [.symbol ','] :: valueSlots (n + 1)

/-- The tokens of a fixed part. -/
def part (s : Str) : List Token := (run .start s).1

/-- A list of values between fixed parts and the rest of the statement. -/
def template (head : List Str) (n : Nat) (rest : List Item) : List Item :=
  head.map (fun p => .tokens (part p)) ++ (valueSlots n ++ rest)

/-- The tokens at the end of a statement. -/
def ending (s : Str) : List Item := [.tokens ((lex s).getD [])]

def Arg.Plain : Arg → Prop
  | .str s => '\x00' ∉ s
  | _ => True

/-- A fixed part of a statement that ends between two tokens. -/
structure Fixed (s : Str) (ts : List Token) : Prop where
  run_eq : run .start s = (ts, .start)
  plain : '\x00' ∉ s

/-- A text has these tokens, and no NUL that would cut it short. -/
structure Reads (s : Str) (is : List Item) (as : List Arg) : Prop where
  tokens : lex s = some (fill is as)
  plain : '\x00' ∉ s

/-- For a literal, which the kernel reads faster as a list. -/
theorem Fixed.of_eq {s l : Str} (hs : s = l) (h : (run .start l).2 = .start ∧ '\x00' ∉ l) : Fixed s (part s) := by
  subst hs
  exact ⟨Prod.ext rfl h.1, h.2⟩

/-- Reading on behind a fixed part. -/
theorem Fixed.lex_append_iff {p : Str} {ts : List Token} (hp : Fixed p ts) (r : Str) (toks : List Token) :
    lex (p ++ r) = some (ts ++ toks) ↔ lex r = some toks := by
  rw [lex_of_run hp.run_eq, Option.map_eq_some_iff]
  constructor
  · rintro ⟨toks', hr, heq⟩
    rw [hr, List.append_cancel_left heq]
  · intro hr
    exact ⟨toks, hr, rfl⟩

theorem quote_plain {s : Str} (h : '\x00' ∉ s) : '\x00' ∉ quote s := by
  simp only [quote, List.cons_append, List.mem_cons, List.mem_append, List.mem_flatMap, List.not_mem_nil, or_false,
    not_or, not_exists, not_and]
  refine ⟨by decide, fun c hc => ?_, by decide⟩
  have hne : c ≠ '\x00' := fun heq => h (heq ▸ hc)
  split <;> simp [Ne.symm hne]

theorem Arg.text_plain {a : Arg} (h : a.Plain) : '\x00' ∉ a.text := by
  cases a with
  | str s => exact quote_plain h
  | num n => exact not_mem_to_string (by decide) (by decide)
  | bool b => cases b <;> decide

theorem ending_reads {s l : Str} (hs : s = l) (h : (lex l).isSome ∧ '\x00' ∉ l) : Reads s (ending s) [] := by
  subst hs
  obtain ⟨ts, hts⟩ := Option.isSome_iff_exists.1 h.1
  exact ⟨by simp [hts, fill, ending], h.2⟩

section
variable {s : Str} {is : List Item} {as : List Arg} (h : Reads s is as)
include h

theorem Reads.fixed {p : Str} {ts : List Token} (hp : Fixed p ts) : Reads (p ++ s) (.tokens ts :: is) as := by
  refine ⟨?_, by simp [hp.plain, h.plain]⟩
  rw [lex_of_run hp.run_eq, h.tokens]
  rfl

theorem Reads.parts {ps : List Str} (hps : ∀ p ∈ ps, Fixed p (part p)) :
    Reads (ps.flatten ++ s) (ps.map (fun p => .tokens (part p)) ++ is) as := by
  induction ps with
  | nil => exact h
  | cons p ps ih =>
    rw [List.forall_mem_cons] at hps
    rw [List.flatten_cons, List.append_assoc]
    exact (ih hps.2).fixed hps.1

theorem Reads.arg {a : Arg} (ha : a.Plain) (hs : Ends s) : Reads (a.text ++ s) (.slot :: is) (a :: as) := by
  refine ⟨?_, by simp [Arg.text_plain ha, h.plain]⟩
  rw [lex_arg a hs, h.tokens]
  rfl

theorem Reads.values {as' : List Arg} (ha : ∀ a ∈ as', a.Plain) (hs : Ends s) :
    Reads (valuesText as' ++ s) (valueSlots as'.length ++ is) (as' ++ as) := by
  induction as' with
  | nil => exact h
  | cons a as' ih =>
    rw [List.forall_mem_cons] at ha
    cases as' with
    | nil => exact h.arg ha.1 hs
    | cons a' as' =>
      have hcomma : Fixed [','] [.symbol ','] := ⟨by decide, by decide⟩
      have hends : Ends ([','] ++ (valuesText (a' :: as') ++ s)) := by simp [Ends, isWord, isWordStart, isspace]
      have hall := ((ih ha.2).fixed hcomma).arg ha.1 hends
      simpa [valuesText, valueSlots] using hall

/-- A list of values between fixed parts. -/
theorem Reads.template {head : List Str} (hhead : ∀ p ∈ head, Fixed p (part p)) {as' : List Arg}
    (ha : ∀ a ∈ as', a.Plain) (hs : Ends s) :
    Reads (head.flatten ++ (valuesText as' ++ s)) (template head as'.length is) (as' ++ as) :=
  (h.values ha hs).parts hhead

end

/-! ## Statements with unescaped literals -/

/-- One statement of fixed parts with texts between quotes, by its tokens and
these texts. -/
inductive Unescaped : Str → List Item → List Str → Prop where
  | ending {e : Str} (he : Reads e (ending e) []) (hsingle : .symbol ';' ∉ fill (ending e) []) (hquote : '\'' ∉ e) :
    Unescaped e (ending e) []
  | literal {p x r : Str} {is : List Item} {xs : List Str} (hp : Fixed p (part p)) (hsingle : .symbol ';' ∉ part p)
      (hquote : '\'' ∉ p) (hr : ¬Continues r) (h : Unescaped r is xs) :
    Unescaped (p ++ (raw x ++ r)) (template [p] 1 is) (x :: xs)

theorem Unescaped.ending_of_eq {e l : Str} (he : e = l)
    (h : (lex l).isSome ∧ '\x00' ∉ l ∧ .symbol ';' ∉ (lex l).getD [] ∧ '\'' ∉ l) :
    Unescaped e (SqlText.ending e) [] := by
  subst he
  refine .ending (ending_reads rfl ⟨h.1, h.2.1⟩) ?_ h.2.2.2
  simpa [SqlText.ending, fill] using h.2.2.1

theorem Unescaped.literal_of_eq {p l x r : Str} {is : List Item} {xs : List Str} (hp : p = l)
    (h : (run .start l).2 = .start ∧ '\x00' ∉ l ∧ .symbol ';' ∉ part l ∧ '\'' ∉ l) (hr : ¬Continues r)
    (hu : Unescaped r is xs) : Unescaped (p ++ (raw x ++ r)) (template [p] 1 is) (x :: xs) := by
  subst hp
  exact .literal (Fixed.of_eq rfl ⟨h.1, h.2.1⟩) h.2.2.1 h.2.2.2 hr hu

theorem fill_literal (p x : Str) (is : List Item) (xs : List Str) :
    fill (template [p] 1 is) ((x :: xs).map .str) = part p ++ .literal x :: fill is (xs.map .str) := rfl

section
variable {s : Str} {is : List Item} {xs : List Str} (h : Unescaped s is xs)
include h

/-- Texts without quotes are its literals. -/
theorem Unescaped.lex_of_plain (hxs : ∀ x ∈ xs, '\'' ∉ x) : lex s = some (fill is (xs.map .str)) := by
  induction h with
  | ending he => exact he.tokens
  | literal hp _ _ hr _ ih =>
    rw [List.forall_mem_cons] at hxs
    rw [fill_literal, hp.lex_append_iff, ← quote_of_plain hxs.1, lex_quote _ hr, ih hxs.2]
    rfl

/-- Behind the closing quote of the last text there is no room for it, so the
literal in front of it cannot go on into it. -/
theorem Unescaped.not_overrun (hlen : xs.length ≤ 1) {u rest : Str} (hs : s = u ++ '\'' :: rest) :
    lex rest ≠ some (fill is (xs.map .str)) := by
  intro hlex
  cases h with
  | ending _ _ hquote =>
    subst hs
    simp at hquote
  | @literal p x r is xs _ _ hquote _ h =>
    obtain rfl : xs = [] := List.eq_nil_of_length_eq_zero (by simpa using hlen)
    cases h with
    | ending _ _ hend =>
      rw [fill_literal] at hlex
      have hroom := room_of_mem (v := x) hlex (by simp)
      have htext : room (raw x ++ r) = x.length + 2 := by
        have h := room_append_quote ('\'' :: x) hend
        simpa [raw] using h
      obtain ⟨w, hw⟩ : ∃ w, raw x ++ r = w ++ '\'' :: rest := by
        obtain ⟨w, rfl, hw⟩ | ⟨w, rfl, hw⟩ := List.append_eq_append_iff.1 hs
        · exact ⟨w, hw⟩
        · cases w with
          | nil => exact ⟨[], hw.symm⟩
          | cons c w =>
            obtain ⟨rfl, -⟩ := List.cons.inj hw
            simp at hquote
      have hlt := room_lt_append w rest
      rw [← hw, htext] at hlt
      simp only [Mode.held] at hroom
      omega

/-- It reads as its tokens and its texts exactly if they have no quotes. With
three texts white space in the fixed parts could make room for others. -/
theorem Unescaped.lex_iff (hlen : xs.length ≤ 2) :
    lex s = some (fill is (xs.map .str)) ↔ ∀ x ∈ xs, '\'' ∉ x := by
  refine ⟨fun hlex => ?_, h.lex_of_plain⟩
  induction h with
  | ending => simp
  | @literal p x r is xs hp _ _ _ h ih =>
    rw [List.length_cons, Nat.succ_le_succ_iff] at hlen
    rw [fill_literal, hp.lex_append_iff] at hlex
    rcases plain_or_overrun hlex with ⟨hx, hr⟩ | ⟨u, rest, hr, hrest⟩
    · exact List.forall_mem_cons.2 ⟨hx, ih (hlen.trans (Nat.le_succ 1)) hr⟩
    · exact absurd hrest (h.not_overrun hlen hr)

theorem Unescaped.plain (hxs : ∀ x ∈ xs, '\x00' ∉ x) : '\x00' ∉ s := by
  induction h with
  | ending he => exact he.plain
  | literal hp _ _ _ _ ih =>
    rw [List.forall_mem_cons] at hxs
    simp [raw, hp.plain, hxs.1, ih hxs.2]

/-- None of its tokens ends a statement. -/
theorem Unescaped.single : .symbol ';' ∉ fill is (xs.map .str) := by
  induction h with
  | ending _ hsingle _ => exact hsingle
  | literal _ hsingle _ _ _ ih =>
    rw [fill_literal]
    simp [hsingle, ih]

end

end SqlText
