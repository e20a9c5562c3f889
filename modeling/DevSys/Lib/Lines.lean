import DevSys.Lib.Strings
/-!
# Lines and a blank line

A text of lines that end in CR LF, up to an empty one: where the blank line is
found first, how `getline` cuts the text, and where one of the lines is in it.
-/
open Cxx

namespace Lines

/-! ## Where a search ends -/

section Find
variable {α : Type} [DecidableEq α]

/-- A search ends no later than at an occurrence. -/
theorem exists_find_of_prefix {pat s : List α} {i : Nat} (h : pat <+: s.drop i) : ∃ n ≤ i, find pat s = some n := by
  induction s generalizing i with
  | nil =>
    have hpat : pat = [] := by simpa using h
    exact ⟨0, Nat.zero_le i, by simp [find, hpat]⟩
  | cons c s ih =>
    rw [find]
    by_cases hp : pat <+: c :: s
    · exact ⟨0, Nat.zero_le i, if_pos hp⟩
    · cases i with
      | zero => exact absurd h hp
      | succ i =>
        obtain ⟨n, hn, hfind⟩ := ih (by simpa using h)
        exact ⟨n + 1, Nat.succ_le_succ hn, by rw [if_neg hp, hfind, Option.map_some]⟩

/-- A search finds what is there. -/
theorem find_ne_none_of_infix {pat s : List α} (h : pat <:+: s) : find pat s ≠ none := by
  obtain ⟨a, b, rfl⟩ := h
  have hoccurs : pat <+: (a ++ pat ++ b).drop a.length := by
    rw [List.append_assoc, List.drop_left]
    exact List.prefix_append _ _
  obtain ⟨n, -, hfind⟩ := exists_find_of_prefix hoccurs
  rw [hfind]
  exact Option.some_ne_none n

theorem find_le_of_occurs {pat s : List α} {n i : Nat} (hn : find pat s = some n) (h : pat <+: s.drop i) : n ≤ i := by
  obtain ⟨n', hle, hn'⟩ := exists_find_of_prefix h
  rw [hn] at hn'
  rwa [Option.some.inj hn']

/-- In the first part of a text, a search ends where it does in the whole, once
the occurrence is complete. -/
theorem find_of_append {pat s t : List α} {n : Nat} (hpat : pat ≠ []) (h : find pat (s ++ t) = some n) :
    find pat s = if n + pat.length ≤ s.length then some n else none := by
  have hback {i : Nat} (hi : pat <+: s.drop i) : n ≤ i ∧ i + pat.length ≤ s.length := by
    have hlen := hi.length_le
    have hpos := List.length_pos_iff.2 hpat
    rw [List.length_drop] at hlen
    refine ⟨find_le_of_occurs h ?_, by omega⟩
    rw [List.drop_append_of_le_length (by omega)]
    exact hi.trans (List.prefix_append _ _)
  split
  · rename_i hn
    have hoccurs := prefix_of_find h
    rw [List.drop_append_of_le_length (by omega)] at hoccurs
    have hs : pat <+: s.drop n :=
      List.prefix_of_prefix_length_le hoccurs (List.prefix_append _ _) (by rw [List.length_drop]; omega)
    obtain ⟨m, hm, hfind⟩ := exists_find_of_prefix hs
    rw [hfind, Nat.le_antisymm hm (hback (prefix_of_find hfind)).1]
  · rename_i hn
    cases hfind : find pat s with
    | none => rfl
    | some i =>
      have hi := hback (prefix_of_find hfind)
      omega

/-- More text behind an occurrence leaves it the first one. -/
theorem find_append_left {pat s : List α} {n : Nat} (hpat : pat ≠ []) (h : find pat s = some n) (t : List α) :
    find pat (s ++ t) = some n := by
  have hlen := (prefix_of_find h).length_le
  have hpos := List.length_pos_iff.2 hpat
  rw [List.length_drop] at hlen
  have hoccurs : pat <+: (s ++ t).drop n := by
    rw [List.drop_append_of_le_length (by omega)]
    exact (prefix_of_find h).trans (List.prefix_append _ _)
  obtain ⟨m, -, hm⟩ := exists_find_of_prefix hoccurs
  have hs := find_of_append hpat hm
  rw [h] at hs
  split at hs
  · rw [hm, hs]
  · cases hs

/-- A search passes over a prefix without the pattern's first character. -/
theorem find_skip {a : α} (p : List α) {pre : List α} (h : a ∉ pre) (s : List α) :
    find (a :: p) (pre ++ s) = (find (a :: p) s).map (· + pre.length) := by
  induction pre with
  | nil => simp
  | cons c pre ih =>
    simp only [List.mem_cons, not_or] at h
    have hpre : ¬a :: p <+: c :: (pre ++ s) := fun hp => h.1 (List.cons_prefix_cons.1 hp).1
    rw [List.cons_append, find, if_neg hpre, ih h.2, Option.map_map]
    rfl

end Find

/-! ## Pieces -/

section Pieces
variable {α : Type} [DecidableEq α]

/-- A text that ends in the delimiter is cut like its continuation. -/
theorem getlineAll_append (d : α) (a s : List α) : getlineAll d (a ++ d :: s) = getlineAll d (a ++ [d]) ++ getlineAll d s := by
  induction a with
  | nil => simp [getlineAll]
  | cons c a ih =>
    rw [List.cons_append, List.cons_append, getlineAll, getlineAll, ih]
    by_cases hc : c = d
    · rw [if_pos hc, if_pos hc, List.cons_append]
    · obtain ⟨piece, pieces, hcut⟩ := List.exists_cons_of_ne_nil (getlineAll_ne_nil d (by simp : a ++ [d] ≠ []))
      rw [if_neg hc, if_neg hc, hcut, List.cons_append]
      rfl

/-- What is left behind a piece starts with the delimiter. -/
theorem eq_of_head?_dropWhile {d c : α} {s : List α} (h : c ∈ (s.dropWhile (· ≠ d)).head?) : c = d := by
  have hstop := List.head?_dropWhile_not (· ≠ d) s
  rw [h] at hstop
  simpa using hstop

theorem getlineAll_eq_cons (d : α) {s : List α} (h : s ≠ []) :
    getlineAll d s = s.takeWhile (· ≠ d) :: getlineAll d (s.dropWhile (· ≠ d)).tail := by
  have hsplit := List.takeWhile_append_dropWhile (p := (· ≠ d)) (l := s)
  have hpiece : d ∉ s.takeWhile (· ≠ d) := fun hd => by simpa using List.mem_takeWhile_imp hd
  cases hrest : s.dropWhile (· ≠ d) with
  | nil =>
    rw [hrest, List.append_nil] at hsplit
    rw [hsplit] at hpiece ⊢
    exact getlineAll_last d hpiece h
  | cons c rest =>
    obtain rfl : c = d := eq_of_head?_dropWhile (s := s) (by rw [hrest]; rfl)
    conv_lhs => rw [← hsplit, hrest]
    exact getlineAll_cut c _ rest hpiece

theorem infix_of_mem_getlineAll {d : α} {l s : List α} (h : l ∈ getlineAll d s) : l <:+: s := by
  induction hn : s.length using Nat.strong_induction_on generalizing s with
  | _ n ih =>
    by_cases hs : s = []
    · rw [hs] at h
      cases h
    rw [getlineAll_eq_cons d hs] at h
    rcases List.mem_cons.1 h with rfl | h
    · exact (List.takeWhile_prefix _).isInfix
    have htail : (s.dropWhile (· ≠ d)).tail <:+ s := (List.tail_suffix _).trans (List.dropWhile_suffix _)
    have hlen : (s.dropWhile (· ≠ d)).tail.length < n := by
      have hle : (s.dropWhile (· ≠ d)).length ≤ s.length := (List.dropWhile_suffix _).length_le
      have hpos := List.length_pos_iff.2 hs
      rw [List.length_tail]
      omega
    exact (ih _ hlen h rfl).trans htail.isInfix

end Pieces

/-! ## Lines -/

def blank : Str := ['\r', '\n', '\r', '\n']

def render (lines : List Str) : Str := lines.flatMap (· ++ ['\r', '\n'])

theorem render_cons (l : Str) (ls : List Str) : render (l :: ls) = l ++ '\r' :: '\n' :: render ls := by
  simp [render]

/-- A line of a header. -/
structure Line (l : Str) : Prop where
  ne_nil : l ≠ []
  no_cr : '\r' ∉ l
  no_lf : '\n' ∉ l

theorem find_blank_of_ne {s : Str} (h : s.head? ≠ some '\r') :
    find blank ('\r' :: '\n' :: s) = (find blank s).map (· + 2) := by
  have hcr : ¬blank <+: '\r' :: '\n' :: s := by
    cases s with
    | nil => decide
    | cons c s =>
      have hc : '\r' ≠ c := fun hc => h (by rw [hc]; rfl)
      simp [blank, hc]
  have hlf : ¬blank <+: '\n' :: s := by simp [blank]
  rw [find, if_neg hcr, find, if_neg hlf, Option.map_map]
  rfl

/-- The first blank line is the one behind the lines. -/
theorem find_blank {lines : List Str} (hne : lines ≠ []) (hlines : ∀ l ∈ lines, Line l) (s : Str) :
    find blank (render lines ++ '\r' :: '\n' :: s) = some ((render lines).length - 2) := by
  induction lines with
  | nil => exact absurd rfl hne
  | cons l ls ih =>
    rw [List.forall_mem_cons] at hlines
    rw [render_cons, List.append_assoc, blank, find_skip _ hlines.1.no_cr, ← blank]
    cases ls with
    | nil =>
      have hstarts : blank <+: '\r' :: '\n' :: '\r' :: '\n' :: s := ⟨s, rfl⟩
      simp [render, find_isSome_of_prefix hstarts]
    | cons l' ls =>
      have hhead : (render (l' :: ls) ++ '\r' :: '\n' :: s).head? ≠ some '\r' := by
        have hl' := hlines.2 l' List.mem_cons_self
        obtain ⟨c, cs, rfl⟩ := List.exists_cons_of_ne_nil hl'.ne_nil
        have hc := hl'.no_cr
        simp only [List.mem_cons, not_or] at hc
        simpa [render] using Ne.symm hc.1
      have htwo : 2 ≤ (render (l' :: ls)).length := by
        rw [render_cons, List.length_append, List.length_cons, List.length_cons]
        omega
      rw [List.cons_append, List.cons_append, find_blank_of_ne hhead, ih (List.cons_ne_nil _ _) hlines.2, Option.map_some,
        Option.map_some]
      simp only [List.length_append, List.length_cons]
      congr 1
      omega

/-- The lines as `getline` gives them, up to the empty one. -/
theorem getlineAll_render {lines : List Str} (hlines : ∀ l ∈ lines, Line l) (s : Str) :
    getlineAll '\n' (render lines ++ '\r' :: '\n' :: s) = lines.map (· ++ ['\r']) ++ ['\r'] :: getlineAll '\n' s := by
  induction lines with
  | nil => exact getlineAll_cut '\n' ['\r'] s (by decide)
  | cons l ls ih =>
    rw [List.forall_mem_cons] at hlines
    have hl : '\n' ∉ l ++ ['\r'] := by simp [hlines.1.no_lf]
    have hcut : render (l :: ls) ++ '\r' :: '\n' :: s = (l ++ ['\r']) ++ '\n' :: (render ls ++ '\r' :: '\n' :: s) := by
      simp [render]
    rw [hcut, getlineAll_cut '\n' _ _ hl, ih hlines.2]
    rfl

/-- A line within the text in front of the blank line: behind it is nothing or
a carriage return. -/
theorem exists_around {lines : List Str} {l : Str} (h : l ∈ lines) :
    ∃ pre post : Str, (render lines).take ((render lines).length - 2) = pre ++ (l ++ post) ∧ ∀ c ∈ post.head?, c = '\r' := by
  obtain ⟨before, behind, rfl⟩ := List.append_of_mem h
  refine ⟨render before, ('\r' :: '\n' :: render behind).take (render behind).length, ?_, ?_⟩
  · have hrender : render (before ++ l :: behind) = render before ++ (l ++ '\r' :: '\n' :: render behind) := by
      simp [render]
    have hlen : (render before ++ (l ++ '\r' :: '\n' :: render behind)).length - 2 =
        (render before).length + (l.length + (render behind).length) := by
      simp only [List.length_append, List.length_cons]
      omega
    rw [hrender, hlen, List.take_length_add_append, List.take_length_add_append]
  · cases (render behind).length <;> simp

end Lines
