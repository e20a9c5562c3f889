import DevSys.Lib.Strings
/-!
# Pieces of JSON texts

The scalars of a JSON text, and what a textual search for `"key":` finds in them.
The search is right because a quote inside a string is escaped, so the pattern can
only match at a key.
-/
open Cxx

namespace JsonText

/-- A scalar with the separator after it, or the bracket that opens a nested value. -/
inductive Val where
  | str (body : Str) (sep : Char)
  | lit (text : Str) (sep : Char)
  | nested (bracket : Char)
  deriving DecidableEq, Repr

def Val.text : Val → Str
  | .str body sep => '"' :: body ++ ['"', sep]
  | .lit t sep => t ++ [sep]
  | .nested c => [c]

/-! ## Well-formed pieces -/

/-- A string body: quotes and backslashes only behind a backslash. -/
inductive Escaped : Str → Prop
  | nil : Escaped []
  | plain {c s} : c ≠ '"' → c ≠ '\\' → Escaped s → Escaped (c :: s)
  | esc {c s} : Escaped s → Escaped ('\\' :: c :: s)

/-- A string without quotes and backslashes needs no escapes. -/
theorem Escaped.of_plain {s : Str} (h : '"' ∉ s) (h' : '\\' ∉ s) : Escaped s := by
  induction s with
  | nil => exact .nil
  | cons c s ih =>
    simp only [List.mem_cons, not_or] at h h'
    exact .plain (Ne.symm h.1) (Ne.symm h'.1) (ih h.2 h'.2)

/-- An identifier key: letters, digits and underscores. -/
def IsKey (k : Str) : Prop := k ≠ [] ∧ ∀ c ∈ k, c.isAlphanum ∨ c = '_'

instance (k : Str) : Decidable (IsKey k) :=
  have : Decidable (∀ c ∈ k, c.isAlphanum ∨ c = '_') := List.decidableBAll _ _
  inferInstanceAs (Decidable (_ ∧ _))

def isSep (c : Char) : Prop := c = ',' ∨ c = '}' ∨ c = ']'

def Val.Ok : Val → Prop
  | .str body sep => Escaped body ∧ isSep sep
  | .lit t sep => (∀ c ∈ t, c ∉ ['"', ',', '}', '\n', '\r', ' ', ']']) ∧ isSep sep
  | .nested c => c = '{' ∨ c = '['

/-- A printed number is a literal. -/
theorem Val.Ok.number (n : Int) {sep : Char} (hs : isSep sep) : (Val.lit (to_string n) sep).Ok := by
  refine ⟨fun c hc hstop => ?_, hs⟩
  revert hc
  simp only [List.mem_cons, List.not_mem_nil, or_false] at hstop
  rcases hstop with rfl | rfl | rfl | rfl | rfl | rfl | rfl <;> exact not_mem_to_string (by decide) (by decide)

theorem IsKey.not_mem {k : Str} (hk : IsKey k) {c : Char} (hc : c.isAlphanum = false) (hu : c ≠ '_') : c ∉ k := by
  intro h
  rcases hk.2 c h with h | h
  · simp [hc] at h
  · exact hu h

theorem IsKey.quote_not_mem {k : Str} (hk : IsKey k) : '"' ∉ k := hk.not_mem (by decide) (by decide)

theorem IsKey.backslash_not_mem {k : Str} (hk : IsKey k) : '\\' ∉ k := hk.not_mem (by decide) (by decide)

theorem IsKey.colon_not_mem {k : Str} (hk : IsKey k) : ':' ∉ k := hk.not_mem (by decide) (by decide)

theorem isSep_ne {c d : Char} (hc : isSep c) (hd : d ∉ [',', '}', ']']) : c ≠ d := by
  rintro rfl
  exact hd (by rcases hc with rfl | rfl | rfl <;> simp)

theorem isSep_ne_colon {c : Char} (hc : isSep c) : c ≠ ':' := isSep_ne hc (by decide)

theorem isSep_ne_quote {c : Char} (hc : isSep c) : c ≠ '"' := isSep_ne hc (by decide)

/-! ## Searching for a key -/

/-- What a search for a field of this name looks for. -/
def keyPat (k : Str) : Str := '"' :: k ++ ['"', ':']

section Search
variable {k : Str} (extra : Str)

/-- `k":` cannot start inside a string body unless the closing quote is followed by a colon. -/
theorem colon_after_key (hq : '"' ∉ k) (hb : '\\' ∉ k) {body : Str} (h : Escaped body) {sep : Char} {s : Str}
    (hp : k ++ '"' :: ':' :: extra <+: body ++ '"' :: sep :: s) : sep = ':' := by
  induction h generalizing k with
  | nil =>
    -- the closing quote is the one behind the key only if the key is used up
    cases k with
    | nil => exact (List.cons_prefix_cons.1 (List.cons_prefix_cons.1 hp).2).1.symm
    | cons c k =>
      have := (List.cons_prefix_cons.1 hp).1
      exact absurd (this ▸ List.mem_cons_self) hq
  | @plain c body hc _ _ ih =>
    cases k with
    | nil => exact absurd (List.cons_prefix_cons.1 hp).1.symm hc
    | cons d k =>
      simp only [List.mem_cons, not_or] at hq hb
      exact ih hq.2 hb.2 (List.cons_prefix_cons.1 hp).2
  | @esc c body _ ih =>
    cases k with
    | nil => exact absurd (List.cons_prefix_cons.1 hp).1 (by decide)
    | cons d k =>
      have := (List.cons_prefix_cons.1 hp).1
      exact absurd (this ▸ List.mem_cons_self) hb

/-- The search passes over a string body, its closing quote and its separator. -/
theorem after_body (hk : IsKey k) {body : Str} (h : Escaped body) {sep : Char} (hs : isSep sep) (s : Str) :
    after ('"' :: (k ++ '"' :: ':' :: extra)) (body ++ '"' :: sep :: s) =
      after ('"' :: (k ++ '"' :: ':' :: extra)) s := by
  have hq := hk.quote_not_mem
  have hb := hk.backslash_not_mem
  have hcolon := isSep_ne_colon hs
  have hquote := isSep_ne_quote hs
  induction h with
  | nil =>
    rw [List.nil_append, after_cons, if_neg, after_cons, if_neg]
    · exact fun hp => hquote (List.cons_prefix_cons.1 hp).1.symm
    · intro hp
      obtain ⟨c, k, rfl⟩ := List.exists_cons_of_ne_nil hk.1
      have hc := (List.cons_prefix_cons.1 (List.cons_prefix_cons.1 hp).2).1
      subst hc
      exact hk.not_mem (by rcases hs with rfl | rfl | rfl <;> decide) (isSep_ne hs (by decide)) List.mem_cons_self
  | @plain c body hc _ _ ih =>
    rw [List.cons_append, after_cons, if_neg, ih]
    exact fun hp => hc (List.cons_prefix_cons.1 hp).1.symm
  | @esc c body hbody ih =>
    -- an escaped quote could open the pattern, but what follows the body is no colon
    rw [List.cons_append, after_cons, if_neg (fun hp => by simpa using (List.cons_prefix_cons.1 hp).1),
      List.cons_append, after_cons, if_neg, ih]
    exact fun hp => hcolon (colon_after_key extra hq hb hbody (List.cons_prefix_cons.1 hp).2)

theorem after_val (hk : IsKey k) {v : Val} (hv : v.Ok) (s : Str) :
    after ('"' :: (k ++ '"' :: ':' :: extra)) (v.text ++ s) =
      after ('"' :: (k ++ '"' :: ':' :: extra)) s := by
  cases v with
  | str body sep =>
    have hcolon := isSep_ne_colon hv.2
    have hq := hk.quote_not_mem
    have hb := hk.backslash_not_mem
    simp only [Val.text, List.cons_append, List.append_assoc, List.nil_append]
    rw [after_cons, if_neg, after_body extra hk hv.1 hv.2]
    exact fun hp => hcolon (colon_after_key extra hq hb hv.1 (List.cons_prefix_cons.1 hp).2)
  | lit t sep =>
    have hquote := isSep_ne_quote hv.2
    simp only [Val.text]
    refine after_skip _ _ _ _ ?_
    simp only [List.mem_append, List.mem_singleton, not_or]
    exact ⟨fun h => hv.1 _ h (by simp), hquote.symm⟩
  | nested c =>
    refine after_skip _ _ _ _ ?_
    rcases hv with rfl | rfl <;> simp [Val.text]

/-- Two keys' patterns agree only when the keys do. -/
theorem keyPat_prefix {k k' : Str} (hk : '"' ∉ k) (hk' : '"' ∉ k') (s : Str) :
    k ++ '"' :: ':' :: extra <+: k' ++ '"' :: ':' :: s ↔ k' = k ∧ extra <+: s := by
  induction k generalizing k' with
  | nil =>
    cases k' with
    | nil => simp
    | cons c k' =>
      simp only [List.mem_cons, not_or] at hk'
      simp [hk'.1]
  | cons c k ih =>
    simp only [List.mem_cons, not_or] at hk
    cases k' with
    | nil => simp [Ne.symm hk.1]
    | cons d k' =>
      simp only [List.mem_cons, not_or] at hk'
      simp only [List.cons_append, List.cons_prefix_cons, ih hk.2 hk'.2, List.cons.injEq]
      exact ⟨fun ⟨h, h', h''⟩ => ⟨⟨h.symm, h'⟩, h''⟩, fun ⟨⟨h, h'⟩, h''⟩ => ⟨h.symm, h', h''⟩⟩

/-- At a key, the search stops or goes on behind the colon. -/
theorem after_key (hk : IsKey k) {k' : Str} (hk' : IsKey k') (s : Str) :
    after ('"' :: (k ++ '"' :: ':' :: extra)) ('"' :: (k' ++ '"' :: ':' :: s)) =
      if k' = k ∧ extra <+: s then some (s.drop extra.length)
      else after ('"' :: (k ++ '"' :: ':' :: extra)) s := by
  have hq := hk.quote_not_mem
  have hq' := hk'.quote_not_mem
  have hpre := keyPat_prefix extra hq hq' s
  rw [after_cons]
  by_cases h : k' = k ∧ extra <+: s
  · rw [if_pos h, if_pos (List.cons_prefix_cons.2 ⟨rfl, hpre.2 h⟩)]
    obtain ⟨rfl, -⟩ := h
    congr 1
    simp only [List.length_cons, List.length_append, List.drop_succ_cons]
    rw [← List.drop_drop, List.drop_left]
    rfl
  · rw [if_neg h, if_neg (fun hp => h (hpre.1 (List.cons_prefix_cons.1 hp).2)), after_skip _ _ _ _ hq',
      after_cons, if_neg, after_cons, if_neg]
    · exact fun hp => absurd (List.cons_prefix_cons.1 hp).1 (by decide)
    · intro hp
      obtain ⟨c, k, rfl⟩ := List.exists_cons_of_ne_nil hk.1
      have hc := (List.cons_prefix_cons.1 (List.cons_prefix_cons.1 hp).2).1
      subst hc
      exact hk.colon_not_mem List.mem_cons_self

end Search

end JsonText
