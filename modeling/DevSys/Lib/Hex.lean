import DevSys.Lib.Strings
/-!
# Hexadecimal numerals

Numbers printed with as many digits as they have, and bytes with two digits
each. Both can be read back.
-/

namespace Cxx

/-- `oss << std::hex << n`. -/
def hex (n : Nat) : Str := Nat.toDigits 16 n

/-- `oss << std::hex << std::setfill('0') << std::setw(2) << (int)b`. -/
def hex2 (b : UInt8) : Str := List.leftpad 2 '0' (hex b.toNat)

theorem digitChar_inj {m n : Nat} (hm : m < 16) (hn : n < 16) (h : m.digitChar = n.digitChar) : m = n := by
  have hall : ∀ m < 16, ∀ n < 16, m.digitChar = n.digitChar → m = n := by decide
  exact hall m hm n hn h

theorem hex_of_lt {n : Nat} (h : n < 16) : hex n = [n.digitChar] := Nat.toDigits_of_lt_base h

theorem hex_of_le {n : Nat} (h : 16 ≤ n) : hex n = hex (n / 16) ++ [(n % 16).digitChar] :=
  Nat.toDigits_of_base_le (by decide) h

theorem hex_ne_nil (n : Nat) : hex n ≠ [] := Nat.toDigits_ne_nil

/-- A numeral of more than one digit is no digit. -/
theorem hex_ne_digit {m n : Nat} (hm : m < 16) (hn : 16 ≤ n) : hex m ≠ hex n := by
  intro h
  have hlen := congrArg List.length h
  have hpos := List.length_pos_of_ne_nil (hex_ne_nil (n / 16))
  rw [hex_of_lt hm, hex_of_le hn, List.length_append, List.length_singleton, List.length_singleton] at hlen
  omega

theorem hex_injective : Function.Injective hex := by
  intro m
  induction m using Nat.strongRecOn with
  | ind m ih =>
    intro n h
    by_cases hm : m < 16
    · by_cases hn : n < 16
      · rw [hex_of_lt hm, hex_of_lt hn] at h
        exact digitChar_inj hm hn (List.singleton_inj.1 h)
      · exact absurd h (hex_ne_digit hm (Nat.le_of_not_lt hn))
    · by_cases hn : n < 16
      · exact absurd h.symm (hex_ne_digit hn (Nat.le_of_not_lt hm))
      · -- the last digits agree, and what is in front of them
        rw [hex_of_le (Nat.le_of_not_lt hm), hex_of_le (Nat.le_of_not_lt hn)] at h
        obtain ⟨hfront, hlast⟩ := List.append_inj' h rfl
        have hdiv := ih (m / 16) (by omega) hfront
        have hmod := digitChar_inj (Nat.mod_lt m (by decide)) (Nat.mod_lt n (by decide)) (List.singleton_inj.1 hlast)
        omega

/-! ## Bytes -/

theorem hex2_eq (b : UInt8) : hex2 b = [(b.toNat / 16).digitChar, (b.toNat % 16).digitChar] := by
  have hb : b.toNat < 256 := b.toNat_lt
  rw [hex2]
  by_cases h : b.toNat < 16
  · rw [hex_of_lt h, Nat.div_eq_of_lt h, Nat.mod_eq_of_lt h]
    rfl
  · rw [hex_of_le (Nat.le_of_not_lt h), hex_of_lt (n := b.toNat / 16) (by omega)]
    rfl

theorem hex2_injective : Function.Injective hex2 := by
  intro a b h
  have ha : a.toNat < 256 := a.toNat_lt
  have hb : b.toNat < 256 := b.toNat_lt
  rw [hex2_eq, hex2_eq, List.cons.injEq, List.singleton_inj] at h
  have hdiv := digitChar_inj (by omega) (by omega) h.1
  have hmod := digitChar_inj (Nat.mod_lt _ (by decide)) (Nat.mod_lt _ (by decide)) h.2
  exact UInt8.toNat_inj.1 (by omega)

theorem flatMap_hex2_injective : Function.Injective (List.flatMap hex2) := by
  intro l
  induction l with
  | nil =>
    intro l' h
    cases l' with
    | nil => rfl
    | cons b l' => rw [List.flatMap_cons, hex2_eq] at h; cases h
  | cons a l ih =>
    intro l' h
    cases l' with
    | nil => rw [List.flatMap_cons, hex2_eq] at h; cases h
    | cons b l' =>
      rw [List.flatMap_cons, List.flatMap_cons] at h
      obtain ⟨hbyte, hrest⟩ := List.append_inj h (by rw [hex2_eq, hex2_eq]; rfl)
      rw [hex2_injective hbyte, ih hrest]

end Cxx
