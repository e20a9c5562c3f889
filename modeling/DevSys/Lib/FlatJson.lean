import DevSys.Lib.JsonText
/-!
# Flat JSON objects

Objects of strings, numbers and booleans, printed with any blanks behind their
colons and commas, and what a textual search for `"key":` finds in them.
-/
open Cxx JsonText

namespace FlatJson

inductive Scalar where
  | str (s : Str)
  | int (n : Int32)
  | bool (b : Bool)
  deriving DecidableEq, Repr

def Scalar.text : Scalar → Str
  | .str s => '"' :: s ++ ['"']
  | .int n => to_string n.toInt
  | .bool b => if b then "true".toList else "false".toList

abbrev Field := Str × Scalar

/-- A string that is printed without escapes. -/
def Scalar.Plain : Scalar → Prop
  | .str s => '"' ∉ s ∧ '\\' ∉ s
  | _ => True

structure Object where
  fields : List Field
  keys : ∀ f ∈ fields, IsKey f.1
  plain : ∀ f ∈ fields, f.2.Plain
  distinct : (fields.map (·.1)).Nodup

/-! ## Printing -/

def Blank (s : Str) : Prop := ∀ c ∈ s, c = ' ' ∨ c = '\n'

/-- The blanks behind the colon of a field and behind its comma, by its key. -/
structure Layout where
  colon : Str → Str
  comma : Str → Str
  blank : ∀ k, Blank (colon k) ∧ Blank (comma k)

/-- No blanks. -/
def compact : Layout := ⟨fun _ => [], fun _ => [], fun _ => ⟨by simp [Blank], by simp [Blank]⟩⟩

namespace Layout

def fieldText (l : Layout) (f : Field) : Str := '"' :: f.1 ++ '"' :: ':' :: (l.colon f.1 ++ f.2.text)

/-- The fields with the closing brace. -/
def fieldsText (l : Layout) : List Field → Str
  | [] => ['}']
  | [f] => l.fieldText f ++ ['}']
  | f :: fs => l.fieldText f ++ ',' :: (l.comma f.1 ++ l.fieldsText fs)

def print (l : Layout) (o : Object) : Str := '{' :: l.fieldsText o.fields

end Layout

/-! ## Searching for a key -/

/-- What stands behind a field. -/
def IsEnd (c : Char) : Prop := c = ',' ∨ c = '}'

theorem IsEnd.isSep {c : Char} (h : IsEnd c) : isSep c := h.elim .inl fun h => .inr (.inl h)

theorem Blank.not_mem {s : Str} (h : Blank s) {c : Char} (hs : c ≠ ' ') (hn : c ≠ '\n') : c ∉ s :=
  fun hc => (h c hc).elim hs hn

section Search
variable {k : Str} (extra : Str) {l : Layout}

theorem after_blank {s : Str} (h : Blank s) (rest : Str) :
    after ('"' :: (k ++ '"' :: ':' :: extra)) (s ++ rest) = after ('"' :: (k ++ '"' :: ':' :: extra)) rest :=
  after_skip _ _ _ _ (h.not_mem (by decide) (by decide))

theorem after_scalar (hk : IsKey k) {v : Scalar} (hv : v.Plain) {sep : Char} (hsep : IsEnd sep) (rest : Str) :
    after ('"' :: (k ++ '"' :: ':' :: extra)) (v.text ++ sep :: rest) =
      after ('"' :: (k ++ '"' :: ':' :: extra)) rest := by
  have hs := hsep.isSep
  cases v with
  | str s => simpa [Scalar.text, Val.text] using after_val extra hk (v := .str s sep) ⟨.of_plain hv.1 hv.2, hs⟩ rest
  | int n => simpa [Scalar.text, Val.text] using after_val extra hk (Val.Ok.number n.toInt hs) rest
  | bool b =>
    have hok : (Val.lit (Scalar.bool b).text sep).Ok := ⟨by cases b <;> simp [Scalar.text], hs⟩
    simpa [Val.text] using after_val extra hk hok rest

/-- The search stops at the first field or goes on behind it. -/
theorem after_fieldsText (hk : IsKey k) {f : Field} (hf : IsKey f.1) (hv : f.2.Plain) (fs : List Field) :
    ∃ sep rest, IsEnd sep ∧ after ('"' :: (k ++ '"' :: ':' :: extra)) (l.fieldsText (f :: fs)) =
      if f.1 = k ∧ extra <+: l.colon f.1 ++ (f.2.text ++ sep :: rest) then
        some ((l.colon f.1 ++ (f.2.text ++ sep :: rest)).drop extra.length)
      else after ('"' :: (k ++ '"' :: ':' :: extra)) (l.fieldsText fs) := by
  have hblank := l.blank f.1
  have hkey (sep : Char) (rest : Str) : l.fieldText f ++ sep :: rest =
      '"' :: (f.1 ++ '"' :: ':' :: (l.colon f.1 ++ (f.2.text ++ sep :: rest))) := by
    simp [Layout.fieldText]
  cases fs with
  | nil =>
    refine ⟨'}', [], .inr rfl, ?_⟩
    have hlast : l.fieldsText [f] = l.fieldText f ++ ['}'] := rfl
    have hnone : after ('"' :: (k ++ '"' :: ':' :: extra)) (l.fieldsText []) = none := by
      rw [Layout.fieldsText, after_cons, if_neg (by simp), after_nil (by simp)]
    rw [hlast, hkey, after_key extra hk hf, after_blank extra hblank.1, after_scalar extra hk hv (.inr rfl),
      after_nil (by simp), hnone]
  | cons f' fs =>
    refine ⟨',', l.comma f.1 ++ l.fieldsText (f' :: fs), .inl rfl, ?_⟩
    have hmore : l.fieldsText (f :: f' :: fs) = l.fieldText f ++ ',' :: (l.comma f.1 ++ l.fieldsText (f' :: fs)) := rfl
    rw [hmore, hkey, after_key extra hk hf, after_blank extra hblank.1, after_scalar extra hk hv (.inl rfl),
      after_blank extra hblank.2]

theorem after_fieldsText_absent (hk : IsKey k) {fs : List Field} (hkeys : ∀ f ∈ fs, IsKey f.1)
    (hplain : ∀ f ∈ fs, f.2.Plain) (h : k ∉ fs.map (·.1)) :
    after ('"' :: (k ++ '"' :: ':' :: extra)) (l.fieldsText fs) = none := by
  induction fs with
  | nil => rw [Layout.fieldsText, after_cons, if_neg (by simp), after_nil (by simp)]
  | cons f fs ih =>
    simp only [List.map_cons, List.mem_cons, not_or] at h
    rw [List.forall_mem_cons] at hkeys hplain
    obtain ⟨sep, rest, -, hstep⟩ := after_fieldsText (l := l) extra hk hkeys.1 hplain.1 fs
    rw [hstep, if_neg fun hf => h.1 hf.1.symm, ih hkeys.2 hplain.2 h.2]

/-- The search finds the value of the field of that name, if it fits. -/
theorem after_fieldsText_of_mem (hk : IsKey k) {fs : List Field} (hkeys : ∀ f ∈ fs, IsKey f.1)
    (hplain : ∀ f ∈ fs, f.2.Plain) (hn : (fs.map (·.1)).Nodup) {v : Scalar} (h : (k, v) ∈ fs) :
    ∃ sep rest, IsEnd sep ∧ after ('"' :: (k ++ '"' :: ':' :: extra)) (l.fieldsText fs) =
      if extra <+: l.colon k ++ (v.text ++ sep :: rest) then
        some ((l.colon k ++ (v.text ++ sep :: rest)).drop extra.length)
      else none := by
  induction fs with
  | nil => cases h
  | cons f fs ih =>
    rw [List.map_cons, List.nodup_cons] at hn
    rw [List.forall_mem_cons] at hkeys hplain
    obtain ⟨sep, rest, hsep, hstep⟩ := after_fieldsText (l := l) extra hk hkeys.1 hplain.1 fs
    rcases List.mem_cons.1 h with rfl | h
    · refine ⟨sep, rest, hsep, ?_⟩
      rw [hstep, after_fieldsText_absent extra hk hkeys.2 hplain.2 hn.1]
      simp
    · have hne : f.1 ≠ k := by
        rintro rfl
        exact hn.1 (List.mem_map.2 ⟨_, h, rfl⟩)
      rw [hstep, if_neg fun hf => hne hf.1]
      exact ih hkeys.2 hplain.2 hn.2 h

end Search

theorem keyPat_append (k extra : Str) : keyPat k ++ extra = '"' :: (k ++ '"' :: ':' :: extra) := by
  simp [keyPat]

namespace Object
variable (o : Object) (l : Layout) {k : Str} (extra : Str)

theorem after_print :
    after (keyPat k ++ extra) (l.print o) =
      after ('"' :: (k ++ '"' :: ':' :: extra)) (l.fieldsText o.fields) := by
  rw [keyPat_append, Layout.print, after_cons, if_neg (by simp)]

theorem after_absent (hk : IsKey k) (h : k ∉ o.fields.map (·.1)) : after (keyPat k ++ extra) (l.print o) = none := by
  rw [after_print o l extra, after_fieldsText_absent extra hk o.keys o.plain h]

theorem after_of_mem {v : Scalar} (h : (k, v) ∈ o.fields) :
    ∃ sep rest, IsEnd sep ∧ after (keyPat k ++ extra) (l.print o) =
      if extra <+: l.colon k ++ (v.text ++ sep :: rest) then
        some ((l.colon k ++ (v.text ++ sep :: rest)).drop extra.length)
      else none := by
  have hk : IsKey k := o.keys _ h
  rw [after_print o l extra]
  exact after_fieldsText_of_mem extra hk o.keys o.plain o.distinct h

end Object

end FlatJson
