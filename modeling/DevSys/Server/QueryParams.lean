import DevSys.Server.Handlers
/-!
# Parameters of a query

`qp` looks for a name and an equals sign anywhere in the query, so a name that
ends in another one answers for it.
-/
open Cxx

namespace DevSys.Handlers

/-! ## Queries -/

/-- A name and a value, without the characters that hold a query together. -/
structure Param where
  name : Str
  value : Str
  name_clean : '=' ∉ name
  value_clean : '&' ∉ value ∧ '=' ∉ value

def query : List Param → Str
  | [] => []
  | [p] => p.name ++ '=' :: p.value
  | p :: q :: ps => p.name ++ '=' :: (p.value ++ '&' :: query (q :: ps))

/-- The value of a name, and nothing for a name that is not there. -/
def listed (k : Str) (ps : List Param) : Str := ((ps.find? (·.name = k)).map (·.value)).getD []

/-- The first pair whose name ends in `k` is the one of that name, or it has the
value that `k` should get. -/
def Unshadowed (k : Str) (ps : List Param) : Prop :=
  ∀ p ∈ ps.find? (k <:+ ·.name), p.name ≠ k → p.value = listed k ps

/-! ## The search -/

/-- Without an equals sign there is no occurrence. -/
theorem after_value (k : Str) {v : Str} (hv : '=' ∉ v) : after (k ++ ['=']) v = none := by
  induction v with
  | nil => exact after_nil (by simp)
  | cons c v ih =>
    rw [after_cons, if_neg, ih fun h => hv (List.mem_cons_of_mem c h)]
    intro hpre
    exact hv (hpre.subset (by simp))

section
variable {k : Str} (hk : '&' ∉ k ∧ '=' ∉ k)
include hk

/-- Within a pair the pattern stands at the end of the name, if there. -/
theorem after_name {n : Str} (hn : '=' ∉ n) (rest : Str) :
    after (k ++ ['=']) (n ++ '=' :: rest) = if k <:+ n then some rest else after (k ++ ['=']) rest := by
  have hprefix {n : Str} (hn : '=' ∉ n) : k ++ ['='] <+: n ++ '=' :: rest ↔ k = n := by
    constructor
    · rintro ⟨t, ht⟩
      rw [List.append_assoc] at ht
      exact (cut_inj hk.2 hn ht).1
    · rintro rfl
      exact ⟨rest, by simp⟩
  induction n with
  | nil =>
    have hhere := hprefix (n := []) List.not_mem_nil
    rw [List.nil_append] at hhere ⊢
    rw [after_cons]
    by_cases hnil : k = []
    · rw [if_pos (hhere.2 hnil), if_pos (List.suffix_nil.2 hnil), hnil]
      rfl
    · rw [if_neg (hhere.not.2 hnil), if_neg fun h => hnil (List.suffix_nil.1 h)]
  | cons c n ih =>
    have hhere := hprefix hn
    rw [List.cons_append] at hhere ⊢
    rw [after_cons, ih fun h => hn (List.mem_cons_of_mem c h)]
    by_cases hname : k = c :: n
    · rw [if_pos (hhere.2 hname), if_pos (List.suffix_cons_iff.2 (.inl hname)), hname]
      simp
    · rw [if_neg (hhere.not.2 hname)]
      by_cases hend : k <:+ n
      · rw [if_pos hend, if_pos (List.suffix_cons_iff.2 (.inr hend))]
      · rw [if_neg hend, if_neg fun h => (List.suffix_cons_iff.1 h).elim hname hend]

/-- No occurrence starts within a value. -/
theorem after_amp {v : Str} (hv : '=' ∉ v) (rest : Str) :
    after (k ++ ['=']) (v ++ '&' :: rest) = after (k ++ ['=']) rest := by
  have hamp : '&' ∉ k ++ ['='] := by simp [hk.1]
  have hskip {w : Str} (hw : '=' ∉ w) : ¬k ++ ['='] <+: w ++ '&' :: rest := by
    intro hpre
    have hstart : w ++ ['&'] <+: w ++ '&' :: rest := ⟨rest, by simp⟩
    rcases List.prefix_or_prefix_of_prefix hpre hstart with h | h
    · have hmem : '=' ∈ w ++ ['&'] := h.subset (by simp)
      simp [hw] at hmem
    · exact hamp (h.subset (by simp))
  induction v with
  | nil =>
    rw [List.nil_append, after_cons, if_neg]
    exact hskip (w := []) List.not_mem_nil
  | cons c v ih =>
    rw [List.cons_append, after_cons, if_neg, ih fun h => hv (List.mem_cons_of_mem c h)]
    exact hskip hv

end

theorem qp_eq (query k : Str) :
    qp query k = match after (k ++ ['=']) query with
      | none => []
      | some s => s.takeWhile (· ≠ '&') := by
  have hstop (pos : Nat) : findFrom ['&'] query pos = find_first_of ['&'] query pos := by
    rw [findFrom, find_first_of, find_single]
    simp
  rw [qp, after]
  cases find (k ++ ['=']) query with
  | none => rfl
  | some p =>
    simp only [Option.map_some, hstop, substrTo_find_first_of]
    simp

/-- The value of the first pair whose name ends in `k`. -/
theorem qp_query (ps : List Param) {k : Str} (hk : '&' ∉ k ∧ '=' ∉ k) :
    qp (query ps) k = ((ps.find? (k <:+ ·.name)).map (·.value)).getD [] := by
  have hvalue {v : Str} (hv : '&' ∉ v) : v.takeWhile (· ≠ '&') = v := by
    rw [List.takeWhile_eq_self_iff]
    intro c hc
    rw [decide_eq_true_iff]
    rintro rfl
    exact hv hc
  have hamp {v : Str} (hv : '&' ∉ v) (rest : Str) : (v ++ '&' :: rest).takeWhile (· ≠ '&') = v := by
    rw [takeWhile_append_stop _ _ (by simp), hvalue hv]
  have hhit {p : Param} (h : k <:+ p.name) (ps : List Param) : (p :: ps).find? (k <:+ ·.name) = some p :=
    List.find?_cons_of_pos (decide_eq_true h)
  have hmiss {p : Param} (h : ¬k <:+ p.name) (ps : List Param) :
      (p :: ps).find? (k <:+ ·.name) = ps.find? (k <:+ ·.name) :=
    List.find?_cons_of_neg (by simpa using h)
  rw [qp_eq]
  induction ps using query.induct with
  | case1 =>
    rw [query, after_nil (by simp)]
    rfl
  | case2 p =>
    rw [query, after_name hk p.name_clean]
    by_cases hend : k <:+ p.name
    · rw [if_pos hend, hhit hend]
      exact hvalue p.value_clean.1
    · rw [if_neg hend, after_value k p.value_clean.2, hmiss hend]
      rfl
  | case3 p q ps ih =>
    rw [query, after_name hk p.name_clean]
    by_cases hend : k <:+ p.name
    · rw [if_pos hend, hhit hend]
      exact hamp p.value_clean.1 _
    · rw [if_neg hend, after_amp hk p.value_clean.2, ih, hmiss hend]

theorem listed_of_none {ps : List Param} {k : Str} (h : ps.find? (k <:+ ·.name) = none) : listed k ps = [] := by
  have hnone : ps.find? (·.name = k) = none := by
    rw [List.find?_eq_none] at h ⊢
    intro p hp hname
    exact h p hp (by simpa using (of_decide_eq_true hname) ▸ List.suffix_refl p.name)
  rw [listed, hnone]
  rfl

theorem listed_of_first {ps : List Param} {p : Param} (h : ps.find? (p.name <:+ ·.name) = some p) :
    listed p.name ps = p.value := by
  obtain ⟨-, pre, post, rfl, hpre⟩ := List.find?_eq_some_iff_append.1 h
  have hfirst : (pre ++ p :: post).find? (·.name = p.name) = some p := by
    refine List.find?_eq_some_iff_append.2 ⟨by simp, pre, post, rfl, fun q hq => ?_⟩
    have hq := hpre q hq
    simp only [Bool.not_eq_true', decide_eq_false_iff_not] at hq ⊢
    intro hname
    exact hq (hname ▸ List.suffix_refl _)
  rw [listed, hfirst]
  rfl

/-- A name gets its value exactly when no other pair answers for it. -/
theorem qp_iff (ps : List Param) {k : Str} (hk : '&' ∉ k ∧ '=' ∉ k) : qp (query ps) k = listed k ps ↔ Unshadowed k ps := by
  rw [qp_query ps hk, Unshadowed]
  cases hfirst : ps.find? (k <:+ ·.name) with
  | none =>
    rw [listed_of_none hfirst]
    exact iff_of_true rfl fun p hp => by cases hp
  | some p =>
    constructor
    · rintro h q ⟨⟩ _
      exact h
    · intro h
      by_cases hname : p.name = k
      · subst hname
        rw [listed_of_first hfirst]
        rfl
      · exact h p rfl hname

/-- A query in which the short name stands first. -/
theorem qp_short_first :
    let ps : List Param :=
      [⟨"version".toList, "1.0".toList, by decide, by decide⟩, ⟨"firmware_version".toList, "2.0".toList, by decide, by decide⟩]
    qp (query ps) "version".toList = listed "version".toList ps :=
  (qp_iff _ (by decide)).2 (by
    intro p hp hname
    obtain rfl := Option.some.inj hp
    exact absurd rfl hname)

/-- The longer name stands first. -/
theorem qp_fails :
    let ps : List Param :=
      [⟨"firmware_version".toList, "2.0".toList, by decide, by decide⟩, ⟨"version".toList, "1.0".toList, by decide, by decide⟩]
    qp (query ps) "version".toList = "2.0".toList ∧ listed "version".toList ps = "1.0".toList := by
  decide

end DevSys.Handlers
