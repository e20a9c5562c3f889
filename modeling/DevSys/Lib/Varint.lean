import Mathlib.Tactic.NormNum
/-!
# Base-128 numbers

A number as bytes of seven bits each, the lowest first; every byte but the last
has its high bit set.
-/

/-- The bytes are a base-128 form of the number, not always the shortest one. -/
inductive Varint : List UInt8 → Nat → Prop where
  | last (b : UInt8) (h : b.toNat < 128) : Varint [b] b.toNat
  | more (b : UInt8) (h : 128 ≤ b.toNat) {bs : List UInt8} {n : Nat} (hbs : Varint bs n) :
      Varint (b :: bs) (b.toNat - 128 + 128 * n)

namespace Varint

/-- The shortest form. -/
def encode (n : Nat) : List UInt8 :=
  if n < 128 then [UInt8.ofNat n] else UInt8.ofNat (n % 128 + 128) :: encode (n / 128)
termination_by n
decreasing_by omega

theorem toNat_ofNat {n : Nat} (h : n < 256) : (UInt8.ofNat n).toNat = n := by
  rw [UInt8.toNat_ofNat', Nat.mod_eq_of_lt h]

theorem encode_varint (n : Nat) : Varint (encode n) n := by
  induction n using Nat.strong_induction_on with
  | _ n ih =>
    rw [encode]
    split
    · rename_i h
      have hb := toNat_ofNat (n := n) (by omega)
      have hv := Varint.last (UInt8.ofNat n) (by omega)
      rwa [hb] at hv
    · rename_i h
      have hb := toNat_ofNat (n := n % 128 + 128) (by omega)
      have hv := Varint.more (UInt8.ofNat (n % 128 + 128)) (by omega) (ih (n / 128) (by omega))
      rw [hb] at hv
      convert hv using 1
      omega

/-- Numbers below `128 ^ k` take at most `k` bytes. -/
theorem length_encode_le {k n : Nat} (hk : 0 < k) (h : n < 128 ^ k) : (encode n).length ≤ k := by
  induction k generalizing n with
  | zero => omega
  | succ k ih =>
    rw [encode]
    split
    · simp
    · rename_i hn
      rw [pow_succ] at h
      have hk' : 0 < k := by
        refine Nat.pos_of_ne_zero fun hk => ?_
        subst hk
        omega
      have := ih hk' (n := n / 128) (by omega)
      rw [List.length_cons]
      omega

end Varint
