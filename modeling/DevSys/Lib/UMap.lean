import Mathlib.Data.List.AList
/-!
# Unordered maps

A `std::unordered_map` is an association list with unique keys; the order of
its entries is the iteration order. An assignment to an existing key keeps the
order. Where a new key goes is up to the implementation: here, to the front.
-/

/-- `std::unordered_map`. -/
abbrev UMap (κ ν : Type) := AList (fun _ : κ => ν)

namespace UMap
variable {κ ν : Type} [DecidableEq κ]

/-- `m[k] = v`. -/
def set (k : κ) (v : ν) (m : UMap κ ν) : UMap κ ν :=
  if k ∈ m then m.replace k v else m.insert k v

theorem dlookup_kreplace (k : κ) (v : ν) (l : List (Sigma fun _ : κ => ν)) (h : k ∈ l.keys) (k' : κ) :
    (l.kreplace k v).dlookup k' = if k' = k then some v else l.dlookup k' := by
  induction l with
  | nil => simp at h
  | cons e l ih =>
    obtain ⟨k₁, v₁⟩ := e
    by_cases hk : k = k₁
    · subst hk
      rw [List.kreplace, List.lookmap_cons_some _ _ (b := ⟨k, v⟩) (by simp)]
      by_cases hk' : k' = k
      · subst hk'; simp
      · simp [hk', List.dlookup_cons_ne (β := fun _ => ν) l ⟨k, _⟩ hk']
    · rw [List.kreplace, List.lookmap_cons_none _ _ (by simp [hk])]
      have h : k ∈ l.keys := by
        simp only [List.keys_cons, List.mem_cons] at h
        exact h.resolve_left hk
      by_cases hk' : k' = k₁
      · subst hk'; simp [Ne.symm hk]
      · rw [List.dlookup_cons_ne (β := fun _ => ν) _ ⟨k₁, v₁⟩ hk', List.dlookup_cons_ne (β := fun _ => ν) _ ⟨k₁, v₁⟩ hk']
        exact ih h

@[simp] theorem lookup_set (k : κ) (v : ν) (m : UMap κ ν) (k' : κ) :
    AList.lookup k' (set k v m) = if k' = k then some v else AList.lookup k' m := by
  unfold set
  by_cases h : k ∈ m
  · rw [if_pos h]
    exact dlookup_kreplace k v m.entries h k'
  · rw [if_neg h]
    by_cases hk : k' = k
    · subst hk; simp
    · simp [hk, AList.lookup_insert_ne hk]

theorem lookup_erase_eq (k : κ) (m : UMap κ ν) (k' : κ) :
    AList.lookup k' (m.erase k) = if k' = k then none else AList.lookup k' m := by
  by_cases hk : k' = k
  · subst hk; simp
  · simp [hk, AList.lookup_erase_ne hk]

theorem mem_entries_iff {m : UMap κ ν} {k : κ} {v : ν} : ⟨k, v⟩ ∈ m.entries ↔ m.lookup k = some v :=
  AList.mem_lookup_iff.symm

/-- An entry and the entries of the other keys. -/
theorem perm_cons_erase {m : UMap κ ν} {k : κ} {v : ν} (h : m.lookup k = some v) :
    m.entries.Perm (⟨k, v⟩ :: (m.erase k).entries) := by
  have hmem := mem_entries_iff.2 h
  obtain ⟨v', l₁, l₂, -, hsplit, herase⟩ := List.exists_of_kerase (List.mem_keys_of_mem hmem)
  have hv : m.lookup k = some v' := mem_entries_iff.1 (by rw [hsplit]; simp)
  cases h.symm.trans hv
  rw [show (m.erase k).entries = l₁ ++ l₂ from herase, hsplit]
  exact List.perm_middle

omit [DecidableEq κ] in
/-- In a map of things with keys of their own, no pair of keys comes twice. -/
theorem nodup_pairs {κ' : Type} (m : UMap κ ν) {keys : ν → List κ'} (hkeys : ∀ v, (keys v).Nodup) :
    (m.entries.flatMap fun e => (keys e.2).map fun k => (e.1, k)).Nodup := by
  rw [List.nodup_flatMap]
  constructor
  · exact fun e _ => (hkeys e.2).map fun _ _ h => (Prod.mk.inj h).2
  · have hne : m.entries.Pairwise fun e e' => e.1 ≠ e'.1 := List.pairwise_map.1 m.nodupKeys
    refine hne.imp fun {e e'} hne => ?_
    intro p hp hp'
    obtain ⟨k, -, rfl⟩ := List.mem_map.1 hp
    obtain ⟨k', -, heq⟩ := List.mem_map.1 hp'
    exact hne (Prod.mk.inj heq).1.symm

/-- Only an empty map has nothing stored. -/
theorem entries_eq_nil_iff (m : UMap κ ν) : m.entries = [] ↔ ∀ k, m.lookup k = none := by
  constructor
  · intro h k
    rw [AList.lookup_eq_none, AList.mem_keys, AList.keys, h]
    simp
  · intro h
    refine List.eq_nil_iff_forall_not_mem.2 fun e he => ?_
    have := mem_entries_iff.1 he
    rw [h] at this
    cases this

/-! ## A sequence of assignments -/

theorem lookup_foldl_set_of_not_mem {α : Type} (f : α → κ) (g : α → ν) (l : List α) (m : UMap κ ν) {k : κ}
    (h : k ∉ l.map f) : AList.lookup k (l.foldl (fun m a => set (f a) (g a) m) m) = AList.lookup k m := by
  induction l generalizing m with
  | nil => rfl
  | cons a l ih =>
    simp only [List.map_cons, List.mem_cons, not_or] at h
    rw [List.foldl_cons, ih _ h.2, lookup_set, if_neg h.1]

/-- A key that is assigned ends up with one of the values assigned to it. -/
theorem lookup_foldl_set_of_mem {α : Type} (f : α → κ) (g : α → ν) (l : List α) (m : UMap κ ν) {k : κ}
    (h : k ∈ l.map f) : ∃ a ∈ l, f a = k ∧ AList.lookup k (l.foldl (fun m a => set (f a) (g a) m) m) = some (g a) := by
  induction l generalizing m with
  | nil => simp at h
  | cons a l ih =>
    rw [List.foldl_cons]
    by_cases hl : k ∈ l.map f
    · obtain ⟨b, hb, hk, hv⟩ := ih (set (f a) (g a) m) hl
      exact ⟨b, List.mem_cons_of_mem _ hb, hk, hv⟩
    · have hk : k = f a := by simpa [hl] using h
      refine ⟨a, List.mem_cons_self, hk.symm, ?_⟩
      rw [lookup_foldl_set_of_not_mem f g l _ hl, lookup_set, if_pos hk]

/-- Assigned keys do not depend on the map. -/
theorem lookup_foldl_set_congr {α : Type} (f : α → κ) (g : α → ν) (l : List α) (m m' : UMap κ ν) {k : κ}
    (h : k ∈ l.map f ∨ AList.lookup k m = AList.lookup k m') :
    AList.lookup k (l.foldl (fun m a => set (f a) (g a) m) m) =
      AList.lookup k (l.foldl (fun m a => set (f a) (g a) m) m') := by
  induction l generalizing m m' with
  | nil => exact h.resolve_left (by simp)
  | cons a l ih =>
    rw [List.foldl_cons, List.foldl_cons]
    apply ih
    rw [List.map_cons, List.mem_cons] at h
    by_cases hk : k = f a
    · right
      rw [lookup_set, lookup_set, if_pos hk, if_pos hk]
    · refine (h.imp_left (·.resolve_left hk)).imp_right fun hm => ?_
      rw [lookup_set, lookup_set, if_neg hk, if_neg hk, hm]

/-- A key that is assigned once has that value. -/
theorem lookup_foldl_set_of_nodup {α : Type} {f : α → κ} (g : α → ν) {l : List α} (hl : (l.map f).Nodup)
    (m : UMap κ ν) {a : α} (ha : a ∈ l) :
    AList.lookup (f a) (l.foldl (fun m a => set (f a) (g a) m) m) = some (g a) := by
  obtain ⟨b, hb, hk, hv⟩ := lookup_foldl_set_of_mem f g l m (List.mem_map_of_mem ha)
  rw [hv, List.inj_on_of_nodup_map hl hb ha hk]

end UMap
