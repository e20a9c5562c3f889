import DevSys.Lib.SqlLexer
/-!
# The expressions of a VALUES list

The tokens between the parentheses behind `VALUES`, cut at the commas that are
in no other parentheses.
-/
open Cxx

namespace SqlText

/-- The expressions up to the closing parenthesis; `cur` is the one being read,
in `depth` open parentheses. -/
def expressions (depth : Nat) (cur : List Token) : List Token → Option (List (List Token))
  | [] => none
  | t :: ts =>
    if t = .symbol '(' then expressions (depth + 1) (cur ++ [t]) ts
    else if t = .symbol ')' then
      match depth with
      | 0 => some [cur]
      | depth + 1 => expressions depth (cur ++ [t]) ts
    else if t = .symbol ',' ∧ depth = 0 then (expressions 0 [] ts).map (cur :: ·)
    else expressions depth (cur ++ [t]) ts

/-- The expressions of the first VALUES list of a statement. -/
def valuesList (ts : List Token) : Option (List (List Token)) :=
  match ts.dropWhile (· ≠ .word "VALUES".toList) with
  | _ :: .symbol '(' :: rest => expressions 0 [] rest
  | _ => none

/-- Tokens that neither end an expression nor open a parenthesis. -/
def Flat (ts : List Token) : Prop := ∀ t ∈ ts, t ≠ .symbol '(' ∧ t ≠ .symbol ')' ∧ t ≠ .symbol ','

theorem expressions_flat {ts : List Token} (h : Flat ts) (depth : Nat) (cur rest : List Token) :
    expressions depth cur (ts ++ rest) = expressions depth (cur ++ ts) rest := by
  induction ts generalizing cur with
  | nil => rw [List.nil_append, List.append_nil]
  | cons t ts ih =>
    rw [Flat, List.forall_mem_cons] at h
    obtain ⟨⟨hopen, hclose, hcomma⟩, hts⟩ := h
    rw [List.cons_append, expressions.eq_def]
    dsimp only
    rw [if_neg hopen, if_neg hclose, if_neg fun hc => hcomma hc.1, ih hts, List.append_assoc]
    rfl

/-- A text that reads as the tokens of one expression, up to what can stand behind it. -/
structure Expression (text : Str) (ts : List Token) : Prop where
  reads (r : Str) (hr : Ends r) : lex (text ++ r) = (lex r).map (ts ++ ·)
  flat : Flat ts

theorem Expression.empty : Expression [] [] := by
  refine ⟨fun r _ => ?_, by simp [Flat]⟩
  simp

theorem Expression.arg (a : Arg) : Expression a.text a.tokens := by
  refine ⟨fun r hr => lex_arg a hr, ?_⟩
  cases a with
  | str s => simp [Flat, Arg.tokens]
  | num n => cases n <;> simp [Flat, Arg.tokens, numeral]
  | bool b => simp [Flat, Arg.tokens]

/-- Texts between commas. -/
def commaSep : List Str → Str
  | [] => []
  | [a] => a
  | a :: as => a ++ ',' :: commaSep as

/-- Each text is an expression of the list. -/
theorem expressions_commaSep {es : List (Str × List Token)} (hne : es ≠ []) (hes : ∀ e ∈ es, Expression e.1 e.2)
    {r : Str} {ts : List Token} (hr : lex r = some ts) :
    ∃ toks, lex (commaSep (es.map (·.1)) ++ ')' :: r) = some toks ∧ expressions 0 [] toks = some (es.map (·.2)) := by
  induction es with
  | nil => exact absurd rfl hne
  | cons e es ih =>
    rw [List.forall_mem_cons] at hes
    have hends (c : Char) (hc : c = ')' ∨ c = ',') (s : Str) : Ends (c :: s) := by
      rcases hc with rfl | rfl <;> simp [Ends, isWord, isWordStart, isspace]
    have hsymbol (c : Char) (hc : c = ')' ∨ c = ',') (s : Str) : lex (c :: s) = (lex s).map (.symbol c :: ·) := by
      have hrun : run .start [c] = ([.symbol c], .start) := by rcases hc with rfl | rfl <;> decide
      exact lex_of_run hrun s
    cases es with
    | nil =>
      refine ⟨e.2 ++ .symbol ')' :: ts, ?_, ?_⟩
      · rw [List.map_singleton, commaSep, hes.1.reads _ (hends _ (.inl rfl) r), hsymbol _ (.inl rfl), hr]
        rfl
      · rw [expressions_flat hes.1.flat]
        rfl
    | cons e' es =>
      obtain ⟨toks, htoks, hexprs⟩ := ih (List.cons_ne_nil _ _) hes.2
      refine ⟨e.2 ++ .symbol ',' :: toks, ?_, ?_⟩
      · rw [List.map_cons, List.map_cons, commaSep, ← List.map_cons, List.append_assoc, List.cons_append,
          hes.1.reads _ (hends _ (.inr rfl) _), hsymbol _ (.inr rfl), htoks]
        · rfl
        · simp
      · rw [expressions_flat hes.1.flat, expressions.eq_def]
        simp [hexprs]

/-- The list begins behind `VALUES (`. -/
theorem valuesList_append {head : List Token}
    (h : head.dropWhile (· ≠ .word "VALUES".toList) = [.word "VALUES".toList, .symbol '(']) (rest : List Token) :
    valuesList (head ++ rest) = expressions 0 [] rest := by
  rw [valuesList, List.dropWhile_append, h]
  rfl

theorem lex_parts {ps : List Str} (hps : ∀ p ∈ ps, Fixed p (part p)) (s : Str) :
    lex (ps.flatten ++ s) = (lex s).map (ps.flatMap part ++ ·) := by
  induction ps with
  | nil => simp
  | cons p ps ih =>
    rw [List.forall_mem_cons] at hps
    rw [List.flatten_cons, List.append_assoc, lex_of_run hps.1.run_eq, ih hps.2, Option.map_map]
    simp [Function.comp_def]

end SqlText
