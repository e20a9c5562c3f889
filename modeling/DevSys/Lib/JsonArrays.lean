import DevSys.Lib.JsonGrammar
/-!
# Arrays of texts

A value is read without a look at what is behind it, so that texts of values
with commas between them are an array of these.
-/
open Cxx

namespace JsonGrammar

variable {raw : Char → Prop}

/-! ## What is behind a value -/

theorem Quoted.append {s v r : Str} (h : Quoted raw s v r) (x : Str) : Quoted raw (s ++ x) v (r ++ x) := by
  induction h with
  | close => exact .close
  | plain hraw hquote hback _ ih => exact .plain hraw hquote hback ih
  | escape hunescape _ ih => exact .escape hunescape ih
  | coded hcoded _ ih =>
    rw [List.cons_append, List.cons_append, List.append_assoc]
    exact .coded hcoded ih

theorem Reads.append {s r : Str} {v : Value} (h : Reads raw s v r) (x : Str) : Reads raw (s ++ x) v (r ++ x) := by
  -- the three relations are mutual: one motive for each, and one case for each rule
  refine @Reads.rec raw (fun s v r _ => Reads raw (s ++ x) v (r ++ x)) (fun s vs r _ => Elements raw (s ++ x) vs (r ++ x))
    (fun s fs r _ => Members raw (s ++ x) fs (r ++ x)) ?_ ?_ ?_ ?_ ?_ ?_ ?_ ?_ ?_ ?_ ?_ ?_ s v r h
  · intro s v r hs
    exact .str (hs.append x)
  · intro t r ht
    rw [List.append_assoc]
    exact .num ht
  · intro b r
    rw [List.append_assoc]
    exact .bool
  · intro r
    rw [List.append_assoc]
    exact .null
  · intro w r hw
    simpa using Reads.arr_nil (r := r ++ x) hw
  · intro s vs r _ ih
    exact .arr ih
  · intro w r hw
    simpa using Reads.obj_nil (r := r ++ x) hw
  · intro s fs r _ ih
    exact .obj ih
  · intro w s v w' r hw _ hw' ih
    rw [List.append_assoc]
    exact .last hw (by simpa using ih) hw'
  · intro w s v w' t vs r hw _ hw' _ ih ihs
    rw [List.append_assoc]
    exact .more hw (by simpa using ih) hw' ihs
  · intro w s k w₁ w₂ t v w' r hw hk hw₁ hw₂ _ hw' ih
    have hk := hk.append x
    rw [List.append_assoc]
    exact .last hw (by simpa using hk) hw₁ hw₂ (by simpa using ih) hw'
  · intro w s k w₁ w₂ t v w' u fs r hw hk hw₁ hw₂ _ hw' _ ih ihs
    have hk := hk.append x
    rw [List.append_assoc]
    exact .more hw (by simpa using hk) hw₁ hw₂ (by simpa using ih) hw' ihs

/-! ## Arrays -/

theorem elements_of_texts {s : Str} {v : Value} {ss : List Str} {vs : List Value} (h : Text raw s v)
    (hs : List.Forall₂ (Text raw) ss vs) (r : Str) :
    Elements raw (List.intercalate [','] (s :: ss) ++ ']' :: r) (v :: vs) r := by
  induction hs generalizing s v with
  | nil =>
    obtain ⟨w, t, w', hw, hw', rfl, hread⟩ := h
    have hlast := hread.append (']' :: r)
    rw [List.intercalate_singleton, List.append_assoc]
    exact .last hw hlast hw'
  | @cons s' v' ss vs h' _ ih =>
    obtain ⟨w, t, w', hw, hw', rfl, hread⟩ := h
    have hmore := hread.append (',' :: (List.intercalate [','] (s' :: ss) ++ ']' :: r))
    have htext : List.intercalate [','] ((w ++ t) :: s' :: ss) ++ ']' :: r =
        w ++ (t ++ ',' :: (List.intercalate [','] (s' :: ss) ++ ']' :: r)) := by
      rw [List.intercalate_cons_of_ne_nil (List.cons_ne_nil _ _)]
      simp
    rw [htext]
    exact .more hw hmore hw' (ih h')

/-- Texts of values between brackets are an array. -/
theorem text_array {ss : List Str} {vs : List Value} (h : List.Forall₂ (Text raw) ss vs) :
    Text raw ('[' :: (List.intercalate [','] ss ++ [']'])) (.arr vs) := by
  refine ⟨[], _, [], blank_nil, blank_nil, rfl, ?_⟩
  cases h with
  | nil => exact .arr_nil blank_nil
  | cons h hs => exact .arr (elements_of_texts h hs [])

end JsonGrammar
