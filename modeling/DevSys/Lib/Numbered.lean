import DevSys.Lib.Rows
import Mathlib.Data.List.Perm.Basic
/-!
# Numbered records and their table

Records that get their numbers from a counter, and a table with a row for each.
A start-up reads the table and counts on from its largest number.
-/

namespace Numbered
variable {α β : Type}

/-- The counter after the largest number in use. -/
def nextOf (key : α → Int32) (rows : List α) : Int32 :=
  rows.foldl (fun m r => if key r > m then key r else m) 0 + 1

/-- A record and its row agree on `att`. -/
structure Stored (key : α → Int32) (att : α → β) (next : Int32) (mem table : List α) : Prop where
  same : (table.map att).Perm (mem.map att)
  nodup : (mem.map key).Nodup
  lt_next : ∀ r ∈ mem, (key r).toInt < next.toInt
  pos : 0 < next.toInt

theorem toInt_succ {n : Int32} (h : n < Int32.maxValue) : (n + 1).toInt = n.toInt + 1 := by
  have hmin := n.minValue_le_toInt
  have hmax := Int32.lt_iff_toInt_lt.1 h
  rw [show Int32.minValue.toInt = -2147483648 from rfl] at hmin
  rw [show Int32.maxValue.toInt = 2147483647 from rfl] at hmax
  rw [Int32.toInt_add, show Int32.toInt 1 = 1 from rfl]
  exact Int.bmod_eq_of_le (by omega) (by omega)

/-- The largest number, if it is above `m`. -/
theorem foldl_max (key : α → Int32) (rows : List α) (m : Int32) :
    let x := rows.foldl (fun m r => if key r > m then key r else m) m
    m ≤ x ∧ (∀ r ∈ rows, key r ≤ x) ∧ (x = m ∨ ∃ r ∈ rows, key r = x) := by
  induction rows generalizing m with
  | nil => simp
  | cons r rows ih =>
    have hstep : let m' := if key r > m then key r else m
        m ≤ m' ∧ key r ≤ m' ∧ (m' = m ∨ m' = key r) := by
      by_cases h : key r > m
      · rw [if_pos h]
        exact ⟨Int32.le_of_lt h, Int32.le_refl _, .inr rfl⟩
      · rw [if_neg h]
        exact ⟨Int32.le_refl _, Int32.not_lt.1 h, .inl rfl⟩
    obtain ⟨hm, hr, heq⟩ := hstep
    obtain ⟨hle, hall, hmem⟩ := ih (if key r > m then key r else m)
    refine ⟨Int32.le_trans hm hle, List.forall_mem_cons.2 ⟨Int32.le_trans hr hle, hall⟩, ?_⟩
    rcases hmem with hx | ⟨q, hq, hx⟩
    · rcases heq with heq | heq
      · exact .inl (hx.trans heq)
      · exact .inr ⟨r, List.mem_cons_self, (hx.trans heq).symm⟩
    · exact .inr ⟨q, List.mem_cons_of_mem _ hq, hx⟩

/-- The counter is positive and above the numbers in use. -/
theorem lt_nextOf {key : α → Int32} {rows : List α} (hroom : ∀ r ∈ rows, key r < Int32.maxValue) :
    0 < (nextOf key rows).toInt ∧ ∀ r ∈ rows, (key r).toInt < (nextOf key rows).toInt := by
  obtain ⟨hpos, hmax, htop⟩ := foldl_max key rows 0
  have hsucc : (nextOf key rows).toInt =
      (rows.foldl (fun m r => if key r > m then key r else m) 0).toInt + 1 := by
    refine toInt_succ ?_
    rcases htop with h0 | ⟨r, hr, hk⟩
    · rw [h0]
      decide
    · rw [← hk]
      exact hroom r hr
  constructor
  · have := Int32.le_iff_toInt_le.1 hpos
    rw [show Int32.toInt 0 = 0 from rfl] at this
    omega
  · intro r hr
    have := Int32.le_iff_toInt_le.1 (hmax r hr)
    omega

theorem stored_empty (key : α → Int32) (att : α → β) : Stored key att 1 [] [] where
  same := List.Perm.refl _
  nodup := List.nodup_nil
  lt_next := by simp
  pos := by decide

section Stored
variable {key : α → Int32} {att : α → β} {next : Int32} {mem table : List α}

/-- The next number is free. -/
theorem Stored.fresh (h : Stored key att next mem table) : next ∉ mem.map key := by
  intro hmem
  obtain ⟨r, hr, hk⟩ := List.mem_map.1 hmem
  have := h.lt_next r hr
  rw [hk] at this
  omega

theorem Stored.keys {proj : β → Int32} (hkey : ∀ r, proj (att r) = key r) (h : Stored key att next mem table) :
    (table.map key).Perm (mem.map key) := by
  have := h.same.map proj
  rw [List.map_map, List.map_map] at this
  simpa only [Function.comp_def, hkey] using this

theorem Stored.table_fresh {proj : β → Int32} (hkey : ∀ r, proj (att r) = key r) (h : Stored key att next mem table) :
    next ∉ table.map key := fun hmem => h.fresh ((h.keys hkey).subset hmem)

/-- A record and the row with its number agree. -/
theorem Stored.att_eq {proj : β → Int32} (hkey : ∀ r, proj (att r) = key r) (h : Stored key att next mem table)
    {a r : α} (ha : a ∈ mem) (hr : r ∈ table) (har : key a = key r) : att a = att r := by
  obtain ⟨b, hb, hbr⟩ := List.mem_map.1 (h.same.subset (List.mem_map_of_mem hr))
  have hba : key b = key a := by rw [← hkey, hbr, hkey, har]
  rw [← hbr, List.inj_on_of_nodup_map h.nodup hb ha hba]

/-- Changes that keep `att`. -/
theorem Stored.of_map {proj : β → Int32} (hkey : ∀ r, proj (att r) = key r) (h : Stored key att next mem table)
    {mem' table' : List α} (hmem : mem'.map att = mem.map att) (htable : table'.map att = table.map att) :
    Stored key att next mem' table' := by
  have hkeys : mem'.map key = mem.map key := by
    have := congrArg (List.map proj) hmem
    rw [List.map_map, List.map_map] at this
    simpa only [Function.comp_def, hkey] using this
  refine ⟨?_, ?_, ?_, h.pos⟩
  · rw [hmem, htable]
    exact h.same
  · rw [hkeys]
    exact h.nodup
  · intro r hr
    have hk : key r ∈ mem.map key := hkeys ▸ List.mem_map_of_mem hr
    obtain ⟨q, hq, hqr⟩ := List.mem_map.1 hk
    rw [← hqr]
    exact h.lt_next q hq

/-- A new record gets the next number. -/
theorem Stored.append (h : Stored key att next mem table) (hlt : next < Int32.maxValue) {r : α} (hr : key r = next) :
    Stored key att (next + 1) (mem ++ [r]) (table ++ [r]) := by
  have hsucc := toInt_succ hlt
  refine ⟨?_, ?_, ?_, ?_⟩
  · rw [List.map_append, List.map_append]
    exact h.same.append_right _
  · rw [List.map_append, List.map_singleton, hr]
    exact h.nodup.append (List.nodup_singleton _) (List.disjoint_singleton.2 h.fresh)
  · intro q hq
    rw [hsucc]
    rcases List.mem_append.1 hq with hq | hq
    · have := h.lt_next q hq
      omega
    · rw [List.mem_singleton.1 hq, hr]
      omega
  · have := h.pos
    omega

theorem map_delete {proj : β → Int32} (hkey : ∀ r, proj (att r) = key r) (k : Int32) (l : List α) :
    (Rows.delete key k l).map att = (l.map att).filter (proj · ≠ k) := by
  rw [Rows.delete, List.filter_map]
  congr 1
  refine List.filter_congr fun r _ => ?_
  simp [hkey]

theorem Stored.delete {proj : β → Int32} (hkey : ∀ r, proj (att r) = key r) (h : Stored key att next mem table)
    (k : Int32) : Stored key att next (Rows.delete key k mem) (Rows.delete key k table) := by
  refine ⟨?_, ?_, ?_, h.pos⟩
  · rw [map_delete hkey, map_delete hkey]
    exact h.same.filter _
  · exact (List.filter_sublist.map key).nodup h.nodup
  · intro r hr
    exact h.lt_next r (List.mem_of_mem_filter hr)

/-- A start-up reads the rows in any order. -/
theorem Stored.load {proj : β → Int32} (hkey : ∀ r, proj (att r) = key r) (h : Stored key att next mem table)
    {rows : List α} (hrows : rows.Perm table) : Stored key att (nextOf key rows) rows table := by
  have hkeys := (hrows.map key).trans (h.keys hkey)
  have hroom : ∀ r ∈ rows, key r < Int32.maxValue := by
    intro r hr
    -- a number in use is below the counter
    obtain ⟨q, hq, hqr⟩ := List.mem_map.1 (hkeys.subset (List.mem_map_of_mem hr))
    have hlt := h.lt_next q hq
    have hnext := next.toInt_le
    rw [← hqr, Int32.lt_iff_toInt_lt]
    omega
  obtain ⟨hpos, hlt⟩ := lt_nextOf hroom
  exact ⟨(hrows.map att).symm, hkeys.nodup_iff.2 h.nodup, hlt, hpos⟩

end Stored

end Numbered
