import Mathlib.Algebra.Order.Ring.Nat
import Mathlib.Data.List.Basic
import Mathlib.Tactic.Ring
/-!
# Digits in their order

The value of digits to a base, the most significant one first. Rows of digits of
one length are in the lexicographic order exactly when their values are in
theirs.
-/

namespace Digits

/-- The value of digits to the base `b`. -/
def value (b : Nat) : List Nat → Nat
  | [] => 0
  | d :: ds => d * b ^ ds.length + value b ds

/-- The last `k` digits of `n`. -/
def digits (b k n : Nat) : List Nat := (List.range k).map fun i => n / b ^ (k - 1 - i) % b

section
variable {b : Nat}

theorem value_append (ds es : List Nat) : value b (ds ++ es) = value b ds * b ^ es.length + value b es := by
  induction ds with
  | nil => simp [value]
  | cons d ds ih =>
    rw [List.cons_append, value, value, ih, List.length_append, Nat.pow_add]
    ring

theorem value_lt {ds : List Nat} (h : ∀ d ∈ ds, d < b) : value b ds < b ^ ds.length := by
  induction ds with
  | nil => exact Nat.one_pos
  | cons d ds ih =>
    obtain ⟨hd, hds⟩ := List.forall_mem_cons.1 h
    have hrest := ih hds
    have hfirst : (d + 1) * b ^ ds.length ≤ b * b ^ ds.length := Nat.mul_le_mul_right _ hd
    rw [value, List.length_cons, Nat.pow_succ, Nat.mul_comm (b ^ ds.length)]
    rw [Nat.add_mul, Nat.one_mul] at hfirst
    omega

/-- The first digits decide. -/
theorem lt_iff_value_lt {ds es : List Nat} (hlen : ds.length = es.length) (hds : ∀ d ∈ ds, d < b)
    (hes : ∀ e ∈ es, e < b) : ds < es ↔ value b ds < value b es := by
  induction ds generalizing es with
  | nil =>
    obtain rfl := List.eq_nil_of_length_eq_zero hlen.symm
    simp
  | cons d ds ih =>
    obtain ⟨e, es, rfl⟩ := List.exists_cons_of_length_eq_add_one hlen.symm
    rw [List.forall_mem_cons] at hds hes
    have hlen : ds.length = es.length := Nat.succ_inj.1 hlen
    have hvd := value_lt hds.2
    have hve := value_lt hes.2
    rw [List.cons_lt_cons_iff, ih hlen hds.2 hes.2, value, value, ← hlen]
    rw [← hlen] at hve
    rcases Nat.lt_trichotomy d e with hlt | rfl | hgt
    · have hstep : (d + 1) * b ^ ds.length ≤ e * b ^ ds.length := Nat.mul_le_mul_right _ hlt
      rw [Nat.add_mul, Nat.one_mul] at hstep
      exact iff_of_true (.inl hlt) (by omega)
    · simp
    · have hstep : (e + 1) * b ^ ds.length ≤ d * b ^ ds.length := Nat.mul_le_mul_right _ hgt
      rw [Nat.add_mul, Nat.one_mul] at hstep
      exact iff_of_false (by omega) (by omega)

theorem value_injective {ds es : List Nat} (hlen : ds.length = es.length) (hds : ∀ d ∈ ds, d < b)
    (hes : ∀ e ∈ es, e < b) (h : value b ds = value b es) : ds = es := by
  have hle : ¬ds < es := by
    rw [lt_iff_value_lt hlen hds hes, h]
    exact Nat.lt_irrefl _
  have hge : ¬es < ds := by
    rw [lt_iff_value_lt hlen.symm hes hds, h]
    exact Nat.lt_irrefl _
  exact List.le_antisymm hge hle

theorem length_digits (k n : Nat) : (digits b k n).length = k := by rw [digits, List.length_map, List.length_range]

theorem digits_lt (hb : 0 < b) {k n d : Nat} (h : d ∈ digits b k n) : d < b := by
  obtain ⟨i, -, rfl⟩ := List.mem_map.1 h
  exact Nat.mod_lt _ hb

theorem digits_succ (k n : Nat) : digits b (k + 1) n = n / b ^ k % b :: digits b k n := by
  rw [digits, List.range_succ_eq_map, List.map_cons, List.map_map, digits]
  congr 1
  refine List.map_congr_left fun i _ => ?_
  rw [Function.comp_apply, show k + 1 - 1 - (i + 1) = k - 1 - i by omega]

/-- The last digits have the value of what they are the digits of. -/
theorem value_digits (k n : Nat) : value b (digits b k n) = n % b ^ k := by
  induction k with
  | zero => simp [digits, value, Nat.mod_one]
  | succ k ih =>
    rw [digits_succ, value, ih, length_digits, Nat.pow_succ, Nat.mod_mul, Nat.mul_comm, Nat.add_comm]

end

/-! ## Other alphabets -/

section
variable {α β : Type} {f : α → β} {P : α → Prop} (hinj : ∀ m n, P m → P n → f m = f n → m = n)
include hinj

theorem map_injective {ds es : List α} (hds : ∀ d ∈ ds, P d) (hes : ∀ e ∈ es, P e) (h : ds.map f = es.map f) :
    ds = es := by
  induction ds generalizing es with
  | nil => exact (List.map_eq_nil_iff.1 h.symm).symm
  | cons d ds ih =>
    cases es with
    | nil => cases h
    | cons e es =>
      rw [List.forall_mem_cons] at hds hes
      obtain ⟨hhead, htail⟩ := List.cons_eq_cons.1 h
      rw [hinj d e hds.1 hes.1 hhead, ih hds.2 hes.2 htail]

/-- Letters in the order of the digits keep the order of their rows. -/
theorem map_lt_map_iff [LT α] [LT β] (hf : ∀ m n, P m → P n → (f m < f n ↔ m < n)) {ds es : List α}
    (hds : ∀ d ∈ ds, P d) (hes : ∀ e ∈ es, P e) : ds.map f < es.map f ↔ ds < es := by
  induction ds generalizing es with
  | nil => cases es <;> simp
  | cons d ds ih =>
    cases es with
    | nil => simp
    | cons e es =>
      rw [List.forall_mem_cons] at hds hes
      rw [List.map_cons, List.map_cons, List.cons_lt_cons_iff, List.cons_lt_cons_iff, ih hds.2 hes.2,
        hf d e hds.1 hes.1]
      exact or_congr_right (and_congr_left fun _ => ⟨hinj d e hds.1 hes.1, congrArg f⟩)

end

/-! ## A window of two digits -/

/-- Five bits of a number are in the sixteen bits that hold them. -/
theorem window_bits (before window behind s k : Nat) (hbehind : behind < 2 ^ k) (hs : s + 5 ≤ 16) :
    ((before * 2 ^ 16 + window) * 2 ^ k + behind) / 2 ^ (k + s) % 32 = window / 2 ^ s % 32 := by
  have hdrop : ((before * 2 ^ 16 + window) * 2 ^ k + behind) / 2 ^ k = before * 2 ^ 16 + window := by
    rw [Nat.mul_comm, Nat.mul_add_div (Nat.two_pow_pos k), Nat.div_eq_of_lt hbehind, Nat.add_zero]
  obtain ⟨t, ht⟩ : ∃ t, 16 = s + (5 + t) := ⟨16 - s - 5, by omega⟩
  have hbefore : before * 2 ^ 16 = 2 ^ s * (32 * (before * 2 ^ t)) := by
    rw [ht, Nat.pow_add, Nat.pow_add]
    ring
  rw [Nat.pow_add, ← Nat.div_div_eq_div_mul, hdrop, hbefore, Nat.mul_add_div (Nat.two_pow_pos s), Nat.mul_add_mod]

end Digits
