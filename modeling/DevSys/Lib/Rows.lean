import DevSys.Lib.FirstMatch
import Mathlib.Data.List.Induction
import Mathlib.Data.List.Nodup
/-!
# Keyed tables

A table with a `UNIQUE` column as the list of its rows, in the order of their
serial ids, and what the statements do to it.
-/

namespace Rows
variable {α κ : Type} [DecidableEq κ] (key : α → κ)

/-- `INSERT`: a second row with the key is refused. -/
def insert (row : α) (t : List α) : List α :=
  if key row ∈ t.map key then t else t ++ [row]

/-- `INSERT … ON CONFLICT (key) DO UPDATE`: a row with the key is overwritten. -/
def upsert (row : α) (t : List α) : List α :=
  if key row ∈ t.map key then t.map fun r => if key r = key row then row else r else t ++ [row]

/-- `UPDATE … WHERE key = k`. -/
def update (k : κ) (f : α → α) (t : List α) : List α := t.map fun r => if key r = k then f r else r

/-- `DELETE … WHERE key = k`. -/
def delete (k : κ) (t : List α) : List α := t.filter (key · ≠ k)

variable {key}

theorem insert_of_fresh {row : α} {t : List α} (h : key row ∉ t.map key) : insert key row t = t ++ [row] := if_neg h

theorem insert_of_taken {row : α} {t : List α} (h : key row ∈ t.map key) : insert key row t = t := if_pos h

theorem mem_insert (row : α) {t : List α} (h : key row ∉ t.map key) {r : α} :
    r ∈ insert key row t ↔ r ∈ t ∨ r = row := by
  rw [insert_of_fresh h, List.mem_append, List.mem_singleton]

theorem nodup_insert {t : List α} (h : (t.map key).Nodup) (row : α) : ((insert key row t).map key).Nodup := by
  by_cases hrow : key row ∈ t.map key
  · rw [insert_of_taken hrow]
    exact h
  · rw [insert_of_fresh hrow, List.map_append, List.map_singleton, List.nodup_append]
    refine ⟨h, List.nodup_singleton _, fun k hk k' hk' => ?_⟩
    rw [List.mem_singleton.1 hk']
    rintro rfl
    exact hrow hk

theorem upsert_of_fresh {row : α} {t : List α} (h : key row ∉ t.map key) : upsert key row t = t ++ [row] := if_neg h

/-- A row that is written is found by its key. -/
theorem find?_upsert (row : α) (t : List α) : (upsert key row t).find? (key · = key row) = some row := by
  by_cases hrow : key row ∈ t.map key
  · rw [upsert, if_pos hrow]
    induction t with
    | nil => cases hrow
    | cons r t ih =>
      rw [List.map_cons]
      by_cases hr : key r = key row
      · rw [if_pos hr, List.find?_cons_of_pos (by simp)]
      · rw [if_neg hr, List.find?_cons_of_neg (by simpa using hr)]
        exact ih ((List.mem_cons.1 hrow).resolve_left (Ne.symm hr))
  · have hnone : t.find? (key · = key row) = none := by
      rw [List.find?_eq_none]
      intro r hr heq
      exact hrow (List.mem_map.2 ⟨r, hr, by simpa using heq⟩)
    rw [upsert_of_fresh hrow, List.find?_append, hnone]
    simp

/-- With unique keys, a row is found by its key. -/
theorem find?_eq_some_iff {t : List α} (h : (t.map key).Nodup) {k : κ} {row : α} :
    t.find? (key · = k) = some row ↔ row ∈ t ∧ key row = k := by
  constructor
  · intro hf
    exact ⟨List.mem_of_find?_eq_some hf, by simpa using List.find?_some hf⟩
  · rintro ⟨hmem, rfl⟩
    cases hf : t.find? (key · = key row) with
    | none => simpa using List.find?_eq_none.1 hf row hmem
    | some r =>
      have hr : key r = key row := by simpa using List.find?_some hf
      rw [List.inj_on_of_nodup_map h (List.mem_of_find?_eq_some hf) hmem hr]

/-- With unique keys, changing the first row with a key is an update. -/
theorem modify_eq_update {t : List α} (h : (t.map key).Nodup) {k : κ} {i : Nat} (hi : t.findIdx? (key · = k) = some i)
    (f : α → α) : t.modify i f = update key k f t := by
  induction t generalizing i with
  | nil => cases hi
  | cons r t ih =>
    rw [List.map_cons, List.nodup_cons] at h
    rw [List.findIdx?_cons] at hi
    rw [update, List.map_cons]
    by_cases hr : key r = k
    · rw [if_pos (decide_eq_true hr)] at hi
      cases hi
      rw [List.modify_zero_cons, if_pos hr]
      congr 1
      -- no other row has the key
      have hother : ∀ r' ∈ t, (if key r' = k then f r' else r') = r' := by
        intro r' hr'
        rw [if_neg]
        rintro rfl
        exact h.1 (hr ▸ List.mem_map_of_mem hr')
      exact ((List.map_congr_left hother).trans (List.map_id' t)).symm
    · rw [if_neg (by simpa using hr)] at hi
      obtain ⟨j, hj, rfl⟩ := Option.map_eq_some_iff.1 hi
      rw [List.modify_succ_cons, if_neg hr, ih h.2 hj]
      rfl

/-- The first row with a key, if there is one, can be changed by an update. -/
theorem findIdx?_cases {t : List α} (h : (t.map key).Nodup) (k : κ) :
    (t.findIdx? (key · = k) = none ∧ k ∉ t.map key) ∨
    ∃ i r, t.findIdx? (key · = k) = some i ∧ t[i]? = some r ∧ r ∈ t ∧ key r = k ∧
      ∀ f, t.modify i f = update key k f t := by
  cases hi : t.findIdx? (key · = k) with
  | none =>
    refine .inl ⟨rfl, ?_⟩
    intro hk
    obtain ⟨r, hr, rfl⟩ := List.mem_map.1 hk
    simpa using List.findIdx?_eq_none_iff.1 hi r hr
  | some i =>
    obtain ⟨r, hget, hfind⟩ := FirstMatch.find?_of_findIdx? hi
    obtain ⟨hr, hk⟩ := (find?_eq_some_iff h).1 hfind
    exact .inr ⟨i, r, rfl, hget, hr, hk, modify_eq_update h hi⟩

theorem mem_update {t : List α} {k : κ} {f : α → α} {row : α} :
    row ∈ update key k f t ↔ ∃ r ∈ t, (if key r = k then f r else r) = row := List.mem_map

/-- A property of all rows behind an update. -/
theorem forall_mem_update {P : α → Prop} {t : List α} {k : κ} {f : α → α} :
    (∀ row ∈ update key k f t, P row) ↔ ∀ r ∈ t, if key r = k then P (f r) else P r := by
  rw [update, List.forall_mem_map]
  refine forall_congr' fun r => forall_congr' fun _ => ?_
  split <;> rfl

theorem update_of_absent {t : List α} {k : κ} (h : k ∉ t.map key) (f : α → α) : update key k f t = t := by
  have hother : ∀ r ∈ t, (if key r = k then f r else r) = r := by
    intro r hr
    rw [if_neg]
    rintro rfl
    exact h (List.mem_map_of_mem hr)
  exact (List.map_congr_left hother).trans (List.map_id' t)

/-- An update of other rows does not change what a search finds. -/
theorem find?_update_other {p : α → Bool} {t : List α} {k : κ} {f : α → α}
    (h : ∀ r ∈ t, key r = k → p r = false ∧ p (f r) = false) : (update key k f t).find? p = t.find? p := by
  induction t with
  | nil => rfl
  | cons r t ih =>
    rw [List.forall_mem_cons] at h
    have hrest := ih h.2
    unfold update at hrest ⊢
    rw [List.map_cons]
    by_cases hr : key r = k
    · obtain ⟨hp, hf⟩ := h.1 hr
      rw [if_pos hr, List.find?_cons_of_neg (by simp [hf]), List.find?_cons_of_neg (by simp [hp]), hrest]
    · rw [if_neg hr, List.find?_cons, List.find?_cons, hrest]

theorem mem_update_other {t : List α} {k : κ} {f : α → α} (hf : ∀ r, key (f r) = key r) {row : α} (h : key row ≠ k) :
    row ∈ update key k f t ↔ row ∈ t := by
  rw [mem_update]
  constructor
  · rintro ⟨r, hr, rfl⟩
    by_cases hk : key r = k
    · rw [if_pos hk, hf] at h
      exact absurd hk h
    · rwa [if_neg hk]
  · exact fun hr => ⟨row, hr, if_neg h⟩

/-- An update of the rows behind a list of records. -/
theorem update_map {β : Type} {g : β → α} {t : List β} {k : κ} {f : α → α} {f' : β → β}
    (h : ∀ r ∈ t, key (g r) = k → f (g r) = g (f' r)) :
    update key k f (t.map g) = (update (key ∘ g) k f' t).map g := by
  unfold update
  rw [List.map_map, List.map_map]
  refine List.map_congr_left fun r hr => ?_
  by_cases hk : key (g r) = k
  · simp [hk, h r hr hk]
  · simp [hk]

/-- An update that keeps an attribute. -/
theorem map_update {β : Type} {g : α → β} {t : List α} {k : κ} {f : α → α}
    (h : ∀ r ∈ t, key r = k → g (f r) = g r) : (update key k f t).map g = t.map g := by
  unfold update
  rw [List.map_map]
  refine List.map_congr_left fun r hr => ?_
  by_cases hk : key r = k
  · simp [hk, h r hr hk]
  · simp [hk]

/-- An update that leaves the key. -/
theorem nodup_update {t : List α} (h : (t.map key).Nodup) {k : κ} {f : α → α} (hf : ∀ r, key r = k → key (f r) = k) :
    ((update key k f t).map key).Nodup := by
  rw [map_update fun r _ hr => (hf r hr).trans hr.symm]
  exact h

/-- With unique keys, erasing the first row with a key is a deletion. -/
theorem eraseP_eq_delete {t : List α} (h : (t.map key).Nodup) (k : κ) : t.eraseP (key · = k) = delete key k t := by
  induction t with
  | nil => rfl
  | cons r t ih =>
    rw [List.map_cons, List.nodup_cons] at h
    by_cases hr : key r = k
    · rw [List.eraseP_cons_of_pos (by simpa using hr), delete, List.filter_cons_of_neg (by simpa using hr)]
      -- no other row has the key
      refine (List.filter_eq_self.2 fun q hq => ?_).symm
      rw [decide_eq_true_eq]
      rintro rfl
      exact h.1 (hr ▸ List.mem_map_of_mem hq)
    · rw [List.eraseP_cons_of_neg (by simpa using hr), ih h.2, delete, delete,
        List.filter_cons_of_pos (by simpa using hr)]

/-- Rows with different keys are all kept, in the order they were written. -/
theorem foldl_upsert_of_nodup {rows : List α} (h : (rows.map key).Nodup) :
    rows.foldl (fun t r => upsert key r t) [] = rows := by
  induction rows using List.reverseRecOn with
  | nil => rfl
  | append_singleton rows r ih =>
    rw [List.map_append, List.map_singleton, List.nodup_append] at h
    obtain ⟨hrows, -, hr⟩ := h
    rw [List.foldl_append, ih hrows]
    refine upsert_of_fresh fun hmem => ?_
    exact hr _ hmem _ (List.mem_singleton_self _) rfl

end Rows

/-! ## Statements that change a table row by row, or fail -/

namespace Rows
variable {α β : Type} {statement : α → Option α} {t t' : List α}

/-- An attribute that no row's change touches. -/
theorem map_of_mapM {g : α → β} (h : ∀ r r', statement r = some r' → g r' = g r)
    (ht : t.mapM statement = some t') : t'.map g = t.map g := by
  induction t generalizing t' with
  | nil =>
    obtain rfl := Option.some.inj ht
    rfl
  | cons r t ih =>
    rw [List.mapM_cons] at ht
    obtain ⟨r', hr, hrest⟩ := Option.bind_eq_some_iff.1 ht
    obtain ⟨rest, hmapM, heq⟩ := Option.bind_eq_some_iff.1 hrest
    obtain rfl := Option.some.inj heq
    rw [List.map_cons, List.map_cons, h r r' hr, ih hmapM]

/-- Every row behind the statement is what became of one. -/
theorem exists_of_mapM (ht : t.mapM statement = some t') {r' : α} (hr' : r' ∈ t') :
    ∃ r ∈ t, statement r = some r' := by
  induction t generalizing t' with
  | nil =>
    obtain rfl := Option.some.inj ht
    cases hr'
  | cons r t ih =>
    rw [List.mapM_cons] at ht
    obtain ⟨first, hr, hrest⟩ := Option.bind_eq_some_iff.1 ht
    obtain ⟨rest, hmapM, heq⟩ := Option.bind_eq_some_iff.1 hrest
    obtain rfl := Option.some.inj heq
    rcases List.mem_cons.1 hr' with rfl | hr'
    · exact ⟨r, List.mem_cons_self, hr⟩
    · obtain ⟨r₀, hr₀, hstatement⟩ := ih hmapM hr'
      exact ⟨r₀, List.mem_cons_of_mem _ hr₀, hstatement⟩

/-- The first row of a kind, where no row's change touches the kind. -/
theorem find?_of_mapM {p : α → Bool} (h : ∀ r r', statement r = some r' → p r' = p r)
    (ht : t.mapM statement = some t') : t'.find? p = (t.find? p).bind statement := by
  induction t generalizing t' with
  | nil =>
    obtain rfl := Option.some.inj ht
    rfl
  | cons r t ih =>
    rw [List.mapM_cons] at ht
    obtain ⟨r', hr, hrest⟩ := Option.bind_eq_some_iff.1 ht
    obtain ⟨rest, hmapM, heq⟩ := Option.bind_eq_some_iff.1 hrest
    obtain rfl := Option.some.inj heq
    rw [List.find?_cons, List.find?_cons, h r r' hr]
    cases p r with
    | true => exact hr.symm
    | false => exact ih hmapM

end Rows
