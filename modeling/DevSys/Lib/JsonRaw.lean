import DevSys.Lib.JsonGrammar
/-!
# Raw characters

Texts that are read when more characters may stand for themselves in strings. The
text is read with fewer of them exactly when it has no others.
-/
open Cxx

namespace JsonGrammar

/-- A line end or a tab. -/
def Layout (c : Char) : Prop := c = '\t' ∨ c = '\n' ∨ c = '\r'

instance : DecidablePred Layout := fun c => inferInstanceAs (Decidable (c = '\t' ∨ c = '\n' ∨ c = '\r'))

/-- What is read of a text has characters from the space on, line ends and tabs,
and raw ones. -/
def Shown (raw : Char → Prop) (s r : Str) : Prop := ∃ t, s = t ++ r ∧ ∀ c ∈ t, raw c ∨ Allowed c ∨ Layout c

section
variable {raw raw' : Char → Prop}

/-! ## Fewer raw characters -/

theorem Quoted.restrict {s v r : Str} (h : Quoted raw s v r) (hs : ∀ c ∈ s, raw c → raw' c) : Quoted raw' s v r := by
  induction h with
  | close => exact .close
  | plain hraw hquote hback _ ih =>
    rw [List.forall_mem_cons] at hs
    exact .plain (hs.1 hraw) hquote hback (ih hs.2)
  | escape hunescape _ ih =>
    rw [List.forall_mem_cons, List.forall_mem_cons] at hs
    exact .escape hunescape (ih hs.2.2)
  | coded hcoded _ ih =>
    rw [List.forall_mem_cons, List.forall_mem_cons, List.forall_mem_append] at hs
    exact .coded hcoded (ih hs.2.2.2)

/-! ## What is read -/

theorem Shown.refl (r : Str) : Shown raw r r := ⟨[], rfl, by simp⟩

theorem Shown.trans {s r q : Str} (h : Shown raw s r) (h' : Shown raw r q) : Shown raw s q := by
  obtain ⟨t, rfl, ht⟩ := h
  obtain ⟨t', rfl, ht'⟩ := h'
  refine ⟨t ++ t', (List.append_assoc _ _ _).symm, ?_⟩
  rw [List.forall_mem_append]
  exact ⟨ht, ht'⟩

theorem Shown.cons {c : Char} (hc : raw c ∨ Allowed c ∨ Layout c) {s r : Str} (h : Shown raw s r) :
    Shown raw (c :: s) r := by
  obtain ⟨t, rfl, ht⟩ := h
  exact ⟨c :: t, rfl, List.forall_mem_cons.2 ⟨hc, ht⟩⟩

theorem Shown.allowed {t s r : Str} (ht : ∀ c ∈ t, Allowed c) (h : Shown raw s r) : Shown raw (t ++ s) r :=
  Shown.trans ⟨t, rfl, fun c hc => .inr (.inl (ht c hc))⟩ h

theorem Shown.blank {w s r : Str} (hw : Blank w) (h : Shown raw s r) : Shown raw (w ++ s) r := by
  refine Shown.trans ⟨w, rfl, fun c hc => ?_⟩ h
  rcases hw c hc with rfl | hc
  · exact .inr (.inl (by decide))
  · exact .inr (.inr hc)

theorem allowed_of_isDigit {c : Char} (h : c.isDigit) : Allowed c := by
  have hval : 48 ≤ c.toNat ∧ c.toNat ≤ 57 := by simpa [Char.isDigit, UInt32.le_iff_toNat_le] using h
  exact UInt32.le_iff_toNat_le.2 (show 32 ≤ c.toNat by omega)

theorem allowed_of_hexDigit {c : Char} {n : Nat} (h : hexDigit c = some n) : Allowed c := by
  have hlow : ' ' ≤ '0' ∧ ' ' ≤ 'a' ∧ ' ' ≤ 'A' := by decide
  rw [hexDigit] at h
  split at h
  · next hc => exact Char.le_trans hlow.1 hc.1
  split at h
  · next hc => exact Char.le_trans hlow.2.1 hc.1
  split at h
  · next hc => exact Char.le_trans hlow.2.2 hc.1
  · cases h

theorem allowed_of_unescape {c d : Char} (h : unescape c = some d) : Allowed c := by
  unfold unescape at h
  split at h
  all_goals first | decide | cases h

theorem allowed_of_unit {a b c d : Char} {n : Nat} (h : unit a b c d = some n) : ∀ x ∈ [a, b, c, d], Allowed x := by
  simp only [unit, Option.bind_eq_bind, Option.bind_eq_some_iff] at h
  obtain ⟨_, ha, _, hb, _, hc, _, hd, -⟩ := h
  simp [allowed_of_hexDigit ha, allowed_of_hexDigit hb, allowed_of_hexDigit hc, allowed_of_hexDigit hd]

theorem Coded.allowed {ds : Str} {c : Char} (h : Coded ds c) : ∀ x ∈ ds, Allowed x := by
  cases h with
  | one hn _ => exact allowed_of_unit hn
  | two hhi hlo _ _ _ _ =>
    have hhi := allowed_of_unit hhi
    have hlo := allowed_of_unit hlo
    simp only [List.forall_mem_cons] at hhi hlo ⊢
    exact ⟨hhi.1, hhi.2.1, hhi.2.2.1, hhi.2.2.2.1, by decide, by decide, hlo⟩

theorem allowed_of_number {t : Str} (h : Number t) : ∀ c ∈ t, Allowed c := by
  obtain ⟨sign, i, f, e, hsign, hi, hf, he, rfl⟩ := h
  have hdigits {ds : Str} (hds : Digits ds) : ∀ c ∈ ds, Allowed c := fun c hc => allowed_of_isDigit (hds.2 c hc)
  simp only [List.forall_mem_append]
  refine ⟨?_, ?_, ?_, ?_⟩
  · rcases hsign with rfl | rfl <;> exact List.all_iff_forall_prop.1 (by decide)
  · rcases hi with rfl | ⟨-, hi⟩
    · exact List.all_iff_forall_prop.1 (by decide)
    · exact hdigits hi
  · rcases hf with rfl | ⟨ds, hds, rfl⟩
    · exact List.all_iff_forall_prop.1 (by decide)
    · exact List.forall_mem_cons.2 ⟨by decide, hdigits hds⟩
  · rcases he with rfl | ⟨c, s, ds, hc, hs, hds, rfl⟩
    · exact List.all_iff_forall_prop.1 (by decide)
    · refine List.forall_mem_cons.2 ⟨by rcases hc with rfl | rfl <;> decide, ?_⟩
      rw [List.forall_mem_append]
      exact ⟨by rcases hs with rfl | rfl | rfl <;> exact List.all_iff_forall_prop.1 (by decide), hdigits hds⟩

theorem Quoted.shown {s v r : Str} (h : Quoted raw s v r) : Shown raw s r := by
  induction h with
  | close => exact (Shown.refl _).cons (.inr (.inl (by decide)))
  | plain hraw _ _ _ ih => exact ih.cons (.inl hraw)
  | escape hunescape _ ih => exact (ih.cons (.inr (.inl (allowed_of_unescape hunescape)))).cons (.inr (.inl (by decide)))
  | coded hcoded _ ih => exact ((ih.allowed hcoded.allowed).cons (.inr (.inl (by decide)))).cons (.inr (.inl (by decide)))

theorem Shown.subset {s r : Str} (h : Shown raw s r) {c : Char} (hc : c ∈ r) : c ∈ s := by
  obtain ⟨t, rfl, -⟩ := h
  exact List.mem_append_right t hc

/-! ## Values -/

/-- What is read of a text, and that it is read with other raw characters as well
if the text has no others. -/
def Keeps (raw raw' : Char → Prop) (s r : Str) (again : Prop) : Prop :=
  Shown raw s r ∧ ((∀ c ∈ s, raw c → raw' c) → again)

theorem Keeps.cons {c : Char} (hc : Allowed c) {s r : Str} {again again' : Prop} (h : Keeps raw raw' s r again)
    (himp : again → again') : Keeps raw raw' (c :: s) r again' :=
  ⟨h.1.cons (.inr (.inl hc)), fun hs => himp (h.2 fun d hd => hs d (List.mem_cons_of_mem c hd))⟩

theorem Reads.keeps {s r : Str} {v : Value} (h : Reads raw s v r) : Keeps raw raw' s r (Reads raw' s v r) := by
  -- the three relations are mutual: one motive for each, and one case for each rule
  refine @Reads.rec raw (fun s v r _ => Keeps raw raw' s r (Reads raw' s v r))
    (fun s vs r _ => Keeps raw raw' s r (Elements raw' s vs r))
    (fun s fs r _ => Keeps raw raw' s r (Members raw' s fs r)) ?_ ?_ ?_ ?_ ?_ ?_ ?_ ?_ ?_ ?_ ?_ ?_ s v r h
  · intro s v r hs
    exact Keeps.cons (by decide) ⟨hs.shown, hs.restrict⟩ .str
  · intro t r ht
    exact ⟨(Shown.refl r).allowed (allowed_of_number ht), fun _ => .num ht⟩
  · intro b r
    exact ⟨(Shown.refl r).allowed (List.all_iff_forall_prop.1 (by cases b <;> decide)), fun _ => .bool⟩
  · intro r
    exact ⟨(Shown.refl r).allowed (List.all_iff_forall_prop.1 (by decide)), fun _ => .null⟩
  · intro w r hw
    have hend : Shown raw (']' :: r) r := (Shown.refl r).cons (.inr (.inl (by decide)))
    exact ⟨(hend.blank hw).cons (.inr (.inl (by decide))), fun _ => .arr_nil hw⟩
  · intro s vs r _ ih
    exact ih.cons (by decide) .arr
  · intro w r hw
    have hend : Shown raw ('}' :: r) r := (Shown.refl r).cons (.inr (.inl (by decide)))
    exact ⟨(hend.blank hw).cons (.inr (.inl (by decide))), fun _ => .obj_nil hw⟩
  · intro s fs r _ ih
    exact ih.cons (by decide) .obj
  · rintro w s v w' r hw _ hw' ⟨hshown, hagain⟩
    have hend : Shown raw (']' :: r) r := (Shown.refl r).cons (.inr (.inl (by decide)))
    refine ⟨(hshown.trans (hend.blank hw')).blank hw, fun hs => ?_⟩
    exact .last hw (hagain fun c hc => hs c (List.mem_append_right w hc)) hw'
  · rintro w s v w' t vs r hw _ hw' _ ⟨hshown, hagain⟩ ⟨htail, htails⟩
    have hcomma : Shown raw (',' :: t) t := (Shown.refl t).cons (.inr (.inl (by decide)))
    have hbehind := (hshown.trans (hcomma.blank hw')).blank hw
    refine ⟨hbehind.trans htail, fun hs => ?_⟩
    exact .more hw (hagain fun c hc => hs c (List.mem_append_right w hc)) hw' (htails fun c hc => hs c (hbehind.subset hc))
  · rintro w s k w₁ w₂ t v w' r hw hk hw₁ hw₂ _ hw' ⟨hshown, hagain⟩
    have hend : Shown raw ('}' :: r) r := (Shown.refl r).cons (.inr (.inl (by decide)))
    have hcolon : Shown raw (':' :: (w₂ ++ t)) t := ((Shown.refl t).blank hw₂).cons (.inr (.inl (by decide)))
    have hkey : Shown raw s t := hk.shown.trans (hcolon.blank hw₁)
    have hvalue : Shown raw (w ++ '"' :: s) t := (hkey.cons (.inr (.inl (by decide)))).blank hw
    refine ⟨hvalue.trans (hshown.trans (hend.blank hw')), fun hs => ?_⟩
    refine .last hw (hk.restrict fun c hc => hs c ?_) hw₁ hw₂ (hagain fun c hc => hs c (hvalue.subset hc)) hw'
    exact List.mem_append_right w (List.mem_cons_of_mem _ hc)
  · rintro w s k w₁ w₂ t v w' u fs r hw hk hw₁ hw₂ _ hw' _ ⟨hshown, hagain⟩ ⟨htail, htails⟩
    have hcomma : Shown raw (',' :: u) u := (Shown.refl u).cons (.inr (.inl (by decide)))
    have hcolon : Shown raw (':' :: (w₂ ++ t)) t := ((Shown.refl t).blank hw₂).cons (.inr (.inl (by decide)))
    have hkey : Shown raw s t := hk.shown.trans (hcolon.blank hw₁)
    have hvalue : Shown raw (w ++ '"' :: s) t := (hkey.cons (.inr (.inl (by decide)))).blank hw
    have hbehind := hvalue.trans (hshown.trans (hcomma.blank hw'))
    refine ⟨hbehind.trans htail, fun hs => ?_⟩
    refine .more hw (hk.restrict fun c hc => hs c ?_) hw₁ hw₂ (hagain fun c hc => hs c (hvalue.subset hc)) hw'
      (htails fun c hc => hs c (hbehind.subset hc))
    exact List.mem_append_right w (List.mem_cons_of_mem _ hc)

/-- A text without line ends and tabs that is read with any characters in its
strings is JSON exactly if it has no control characters. -/
theorem text_allowed_iff {s : Str} {v : Value} (h : Text raw s v) (hs : ∀ c ∈ s, ¬Layout c) :
    Text Allowed s v ↔ ∀ c ∈ s, Allowed c := by
  constructor
  · rintro ⟨w, t, w', hw, hw', rfl, hread⟩ c hc
    obtain ⟨x, rfl, hx⟩ := (@Reads.keeps Allowed Allowed _ _ _ hread).1
    have hblank {u : Str} (hu : Blank u) (hc : c ∈ u) : Allowed c ∨ Layout c := by
      rcases hu c hc with rfl | hlayout
      · exact .inl (by decide)
      · exact .inr hlayout
    have hshown : Allowed c ∨ Layout c := by
      simp only [List.mem_append] at hc
      rcases hc with hc | hc | hc
      · exact hblank hw hc
      · exact (hx c hc).elim .inl id
      · exact hblank hw' hc
    exact hshown.resolve_right (hs c hc)
  · intro hall
    obtain ⟨w, t, w', hw, hw', rfl, hread⟩ := h
    exact ⟨w, t, w', hw, hw', rfl, hread.keeps.2 fun c hc _ => hall c (List.mem_append_right w hc)⟩

end

end JsonGrammar
