import Mathlib.Data.List.Basic
import Mathlib.Data.List.Nodup
/-!
# Admission by key

Items come one after another, and one is added to a list unless there is one of
the same key already.
-/

namespace Admission
variable {α κ : Type} [DecidableEq κ] (key : α → κ)

def enrol (l : List α) (x : α) : List α := if l.any (key · = key x) then l else l ++ [x]

variable {key}

theorem enrol_of_mem {l : List α} {x : α} (h : key x ∈ l.map key) : enrol key l x = l := by
  obtain ⟨y, hy, hkey⟩ := List.mem_map.1 h
  exact if_pos (List.any_eq_true.2 ⟨y, hy, decide_eq_true hkey⟩)

theorem enrol_of_notMem {l : List α} {x : α} (h : key x ∉ l.map key) : enrol key l x = l ++ [x] := by
  refine if_neg fun hany => h ?_
  obtain ⟨y, hy, hkey⟩ := List.any_eq_true.1 hany
  exact List.mem_map.2 ⟨y, hy, of_decide_eq_true hkey⟩

/-- What is added to a list: items that came, in their order, one for each key
that was not there. -/
theorem exists_admitted (l xs : List α) :
    ∃ added, xs.foldl (enrol key) l = l ++ added ∧ added.Sublist xs ∧ (added.map key).Nodup ∧
      ∀ k, k ∈ added.map key ↔ k ∉ l.map key ∧ k ∈ xs.map key := by
  induction xs generalizing l with
  | nil => exact ⟨[], (List.append_nil l).symm, .slnil, List.nodup_nil, by simp⟩
  | cons x xs ih =>
    rw [List.foldl_cons]
    by_cases hx : key x ∈ l.map key
    · obtain ⟨added, hfold, hsub, hnodup, hkeys⟩ := ih l
      rw [enrol_of_mem hx]
      refine ⟨added, hfold, hsub.cons x, hnodup, fun k => ?_⟩
      rw [hkeys, List.map_cons, List.mem_cons]
      refine and_congr_right fun hk => (or_iff_right ?_).symm
      rintro rfl
      exact hk hx
    · obtain ⟨added, hfold, hsub, hnodup, hkeys⟩ := ih (l ++ [x])
      have hnew (k : κ) : k ∉ (l ++ [x]).map key ↔ k ∉ l.map key ∧ k ≠ key x := by
        rw [List.map_append, List.mem_append, not_or, List.map_singleton, List.mem_singleton]
      rw [enrol_of_notMem hx]
      refine ⟨x :: added, ?_, hsub.cons_cons x, ?_, fun k => ?_⟩
      · rw [hfold, List.append_assoc]
        rfl
      · rw [List.map_cons, List.nodup_cons]
        refine ⟨fun hmem => ?_, hnodup⟩
        exact ((hnew _).1 ((hkeys _).1 hmem).1).2 rfl
      · rw [List.map_cons, List.mem_cons, hkeys, hnew, List.map_cons, List.mem_cons]
        by_cases hk : k = key x
        · simp [hk, hx]
        · simp [hk]

/-- Items whose keys are there change nothing. -/
theorem foldl_enrol_of_mem {l xs : List α} (h : ∀ x ∈ xs, key x ∈ l.map key) : xs.foldl (enrol key) l = l := by
  induction xs with
  | nil => rfl
  | cons x xs ih =>
    rw [List.forall_mem_cons] at h
    rw [List.foldl_cons, enrol_of_mem h.1]
    exact ih h.2

/-- To enrol the same items again changes nothing. -/
theorem foldl_enrol_again (l xs : List α) :
    xs.foldl (enrol key) (xs.foldl (enrol key) l) = xs.foldl (enrol key) l := by
  refine foldl_enrol_of_mem fun x hx => ?_
  obtain ⟨added, hfold, -, -, hkeys⟩ := @exists_admitted _ _ _ key l xs
  rw [hfold, List.map_append, List.mem_append]
  by_cases hold : key x ∈ l.map key
  · exact .inl hold
  · exact .inr ((hkeys _).2 ⟨hold, List.mem_map_of_mem hx⟩)

end Admission
