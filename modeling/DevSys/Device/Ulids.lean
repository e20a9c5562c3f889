import DevSys.Device.ModelKeys
import DevSys.Lib.Digits
import Mathlib.Data.List.GetD
/-!
# Generated keys and their contents

A generated key is a numeral to the base 32 of the time and the random bytes, so
keys differ as these do, and stand in their order.
-/
open Cxx Digits

namespace DevSys.UlidGenerator

/-- A digit as it is printed. -/
def letter (d : Nat) : Char := crockford.getD d '0'

def time_digits (ms : UInt64) : List Nat := digits 32 10 (ms.toNat % 2 ^ 48)

def bytes_value (r : List UInt8) : Nat := value 256 (r.map UInt8.toNat)

def random_digits (r : List UInt8) : List Nat := digits 32 16 (bytes_value r)

/-! ## Groups of five bits -/

theorem encode_time_eq (ms : UInt64) : encode_time ms = (time_digits ms).map letter := by
  have hv : (ms &&& 0xFFFFFFFFFFFF).toNat = ms.toNat % 2 ^ 48 := by
    rw [UInt64.toNat_and]
    exact Nat.and_two_pow_sub_one_eq_mod _ 48
  rw [encode_time, time_digits, digits, List.map_map]
  refine List.map_congr_left fun i hi => ?_
  have hi := List.mem_range.1 hi
  have hshift : (UInt64.ofNat (45 - i * 5)).toNat % 64 = 5 * (10 - 1 - i) := by
    rw [UInt64.toNat_ofNat']
    omega
  rw [Function.comp_apply, letter, UInt64.toNat_and, UInt64.toNat_shiftRight, hv, hshift, Nat.shiftRight_eq_div_pow,
    show (32 : Nat) = 2 ^ 5 from rfl, ← Nat.pow_mul]
  congr 1
  exact Nat.and_two_pow_sub_one_eq_mod _ 5

theorem word_toNat (a b : UInt8) : ((a.toUInt16 <<< 8) ||| b.toUInt16).toNat = a.toNat * 256 + b.toNat := by
  have ha := a.toNat_lt
  have hb := b.toNat_lt
  have hshift : (a.toUInt16 <<< 8).toNat = 2 ^ 8 * a.toNat := by
    rw [UInt16.toNat_shiftLeft, UInt8.toNat_toUInt16, show UInt16.toNat 8 % 16 = 8 from rfl, Nat.shiftLeft_eq,
      Nat.mod_eq_of_lt (by omega), Nat.mul_comm]
  rw [UInt16.toNat_or, UInt8.toNat_toUInt16, hshift, ← Nat.two_pow_add_eq_or_of_lt hb, Nat.mul_comm]

theorem bytes_lt (r : List UInt8) : ∀ d ∈ r.map UInt8.toNat, d < 256 := by
  intro d hd
  obtain ⟨b, -, rfl⟩ := List.mem_map.1 hd
  exact b.toNat_lt

/-- The bytes and a null byte, around a window of two. -/
theorem bytes_value_window {r : List UInt8} (hr : r.length = 10) {j : Nat} (hj : j < 10) :
    ∃ before behind, behind < 2 ^ (8 * (9 - j)) ∧
      bytes_value r * 2 ^ 8 =
        (before * 2 ^ 16 + ((r.getD j 0).toNat * 256 + (r.getD (j + 1) 0).toNat)) * 2 ^ (8 * (9 - j)) + behind := by
  have hlen : (r ++ [0]).length = 11 := by rw [List.length_append, hr, List.length_singleton]
  have hget {k : Nat} (hk : k < 11) : (r ++ [0]).getD k 0 = r.getD k 0 := by
    rcases Nat.lt_or_ge k 10 with h | h
    · rw [List.getD_append _ _ _ _ (hr ▸ h)]
    · obtain rfl : k = 10 := by omega
      rw [List.getD_append_right _ _ _ _ hr.le, hr, List.getD_eq_default r 0 hr.le]
      rfl
  have hcut : r ++ [0] = (r ++ [0]).take j ++ r.getD j 0 :: r.getD (j + 1) 0 :: (r ++ [0]).drop (j + 2) := by
    rw [← hget (show j < 11 by omega), ← hget (show j + 1 < 11 by omega),
      List.getD_eq_getElem _ _ (show j < (r ++ [0]).length by omega),
      List.getD_eq_getElem _ _ (show j + 1 < (r ++ [0]).length by omega),
      List.cons_getElem_drop_succ, List.cons_getElem_drop_succ, List.take_append_drop]
  have hbehind : ((r ++ [0]).drop (j + 2)).length = 9 - j := by
    rw [List.length_drop, hlen]
    omega
  have hpow : 2 ^ (8 * (9 - j)) = 256 ^ (9 - j) := Nat.pow_mul 2 8 (9 - j)
  refine ⟨value 256 (((r ++ [0]).take j).map UInt8.toNat), value 256 (((r ++ [0]).drop (j + 2)).map UInt8.toNat), ?_, ?_⟩
  · have hlt := value_lt (bytes_lt ((r ++ [0]).drop (j + 2)))
    rwa [List.length_map, hbehind, ← hpow] at hlt
  · have hvalue := congrArg (fun bs => value 256 (bs.map UInt8.toNat)) hcut
    simp only [List.map_append, List.map_cons, value_append, value, List.length_cons, List.length_map, hbehind,
      List.map_nil, List.length_nil, Nat.pow_zero, Nat.mul_one, Nat.add_zero, UInt8.toNat_zero] at hvalue
    rw [bytes_value, hpow, show (2 : Nat) ^ 8 = 256 ^ (0 + 1) from rfl, hvalue]
    ring

/-- A group is cut from the window of two bytes that it lies in. -/
theorem encode_random_eq {r : List UInt8} (hr : r.length = 10) : encode_random r = (random_digits r).map letter := by
  rw [encode_random, random_digits, digits, List.map_map]
  refine List.map_congr_left fun i hi => ?_
  have hi := List.mem_range.1 hi
  obtain ⟨before, behind, hbehind, hvalue⟩ := bytes_value_window hr (j := i * 5 / 8) (by omega)
  have hshift : (UInt16.ofNat (11 - i * 5 % 8)).toNat % 16 = 11 - i * 5 % 8 := by
    rw [UInt16.toNat_ofNat']
    omega
  have hbits := window_bits before ((r.getD (i * 5 / 8) 0).toNat * 256 + (r.getD (i * 5 / 8 + 1) 0).toNat) behind
    (11 - i * 5 % 8) (8 * (9 - i * 5 / 8)) hbehind (by omega)
  have hexp : 8 * (9 - i * 5 / 8) + (11 - i * 5 % 8) = 8 + 5 * (16 - 1 - i) := by omega
  rw [← hvalue, hexp, Nat.pow_add, Nat.mul_comm (bytes_value r), Nat.mul_div_mul_left _ _ (Nat.two_pow_pos 8)] at hbits
  rw [Function.comp_apply, letter]
  dsimp only
  rw [UInt16.toNat_and, UInt16.toNat_shiftRight, word_toNat, hshift, Nat.shiftRight_eq_div_pow]
  congr 1
  rw [show (32 : Nat) = 2 ^ 5 from rfl, ← Nat.pow_mul, show (2 : Nat) ^ 5 = 32 from rfl, hbits]
  exact Nat.and_two_pow_sub_one_eq_mod _ 5

/-! ## Order -/

theorem letter_lt_iff (m n : Nat) (hm : m < 32) (hn : n < 32) : letter m < letter n ↔ m < n := by
  have hall : ∀ m < 32, ∀ n < 32, (letter m < letter n ↔ m < n) := by decide +kernel
  exact hall m hm n hn

theorem letter_injective (m n : Nat) (hm : m < 32) (hn : n < 32) (h : letter m = letter n) : m = n := by
  have hlt := letter_lt_iff m n hm hn
  have hgt := letter_lt_iff n m hn hm
  rw [h] at hlt hgt
  have hle : ¬m < n := fun hmn => Char.lt_irrefl _ (hlt.2 hmn)
  have hge : ¬n < m := fun hnm => Char.lt_irrefl _ (hgt.2 hnm)
  omega

/-- The digits of a key. -/
def key_digits (ms : UInt64) (r : List UInt8) : List Nat := time_digits ms ++ random_digits r

theorem generate_eq (ms : UInt64) {r : List UInt8} (hr : r.length = 10) : generate ms r = (key_digits ms r).map letter := by
  rw [generate, encode_time_eq, encode_random_eq hr, key_digits, List.map_append]

theorem key_digits_lt {ms : UInt64} {r : List UInt8} : ∀ d ∈ key_digits ms r, d < 32 := by
  intro d hd
  rcases List.mem_append.1 hd with hd | hd
  · exact digits_lt (by decide) hd
  · exact digits_lt (by decide) hd

theorem length_key_digits (ms : UInt64) (r : List UInt8) : (key_digits ms r).length = 26 := by
  rw [key_digits, List.length_append, time_digits, random_digits, length_digits, length_digits]

theorem bytes_value_lt {r : List UInt8} (hr : r.length = 10) : bytes_value r < 2 ^ 80 := by
  have hlt := value_lt (bytes_lt r)
  rwa [List.length_map, hr] at hlt

/-- A key is the number whose high digits are the time. -/
theorem value_key_digits {ms : UInt64} {r : List UInt8} (hms : ms.toNat < 2 ^ 48) (hr : r.length = 10) :
    value 32 (key_digits ms r) = ms.toNat * 2 ^ 80 + bytes_value r := by
  rw [key_digits, value_append, time_digits, random_digits, value_digits, value_digits, length_digits,
    Nat.mod_eq_of_lt hms, Nat.mod_eq_of_lt (show ms.toNat < 32 ^ 10 by omega),
    Nat.mod_eq_of_lt (show bytes_value r < 32 ^ 16 from bytes_value_lt hr), show (32 : Nat) ^ 16 = 2 ^ 80 from rfl]

/-- Bytes in their order are numbers in theirs. -/
theorem bytes_lt_iff {r r' : List UInt8} (hlen : r.length = r'.length) : r < r' ↔ bytes_value r < bytes_value r' := by
  have hmap : r.map UInt8.toNat < r'.map UInt8.toNat ↔ r < r' :=
    map_lt_map_iff (P := fun _ => True) (fun _ _ _ _ h => UInt8.toNat_inj.1 h) (fun _ _ _ _ => UInt8.lt_iff_toNat_lt.symm)
      (fun _ _ => trivial) fun _ _ => trivial
  rw [← hmap]
  exact lt_iff_value_lt (by simpa using hlen) (bytes_lt r) (bytes_lt r')

theorem bytes_value_injective {r r' : List UInt8} (hlen : r.length = r'.length) (h : bytes_value r = bytes_value r') :
    r = r' := by
  have hmap := value_injective (by simpa using hlen) (bytes_lt r) (bytes_lt r') h
  exact List.map_injective_iff.2 (fun _ _ h => UInt8.toNat_inj.1 h) hmap

/-! ## Reads -/

/-- A group of `encode_random`, where a read past the end of `r` has no value. -/
def group_checked (r : List UInt8) (i : Nat) : Option Char := do
  let bit_off := i * 5
  let byte_off := bit_off / 8
  let bit_pos := bit_off % 8
  let high ← r[byte_off]?
  let low ← if byte_off + 1 < 10 then r[byte_off + 1]? else some 0
  let word : UInt16 := (high.toUInt16 <<< 8) ||| low.toUInt16
  some (crockford.getD ((word >>> UInt16.ofNat (11 - bit_pos)) &&& 0x1F).toNat '0')

def encode_random_checked (r : List UInt8) : Option Str := (List.range 16).mapM (group_checked r)

theorem mapM_eq_some {α β : Type} {f : α → Option β} {g : α → β} {l : List α} (h : ∀ a ∈ l, f a = some (g a)) :
    l.mapM f = some (l.map g) := by
  induction l with
  | nil => rfl
  | cons a l ih =>
    obtain ⟨ha, hl⟩ := List.forall_mem_cons.1 h
    rw [List.mapM_cons, ha, ih hl]
    rfl

/-- No group reads past the tenth byte. -/
theorem encode_random_checked_eq {r : List UInt8} (hr : r.length = 10) :
    encode_random_checked r = some (encode_random r) := by
  have hread {k : Nat} (hk : k < 10) : r[k]? = some (r.getD k 0) := by
    rw [List.getD_eq_getElem _ _ (hr ▸ hk), List.getElem?_eq_getElem (hr ▸ hk)]
  refine mapM_eq_some fun i hi => ?_
  have hi := List.mem_range.1 hi
  rw [group_checked, hread (show i * 5 / 8 < 10 by omega)]
  dsimp only [Option.bind_eq_bind, Option.bind_some]
  split_ifs with hnext
  · rw [hread hnext]
    rfl
  · rw [List.getD_eq_default r 0 (show r.length ≤ i * 5 / 8 + 1 by omega)]

/-- Keys are equal only for the same time and the same bytes, and stand in the
order of the times and, at one time, of the bytes; no byte but the ten is read. -/
theorem generate_order (ms ms' : UInt64) (r r' : List UInt8) (hms : ms.toNat < 2 ^ 48) (hms' : ms'.toNat < 2 ^ 48)
    (hr : r.length = 10) (hr' : r'.length = 10) :
    (generate ms r = generate ms' r' → ms = ms' ∧ r = r') ∧
      (generate ms r < generate ms' r' ↔ ms < ms' ∨ ms = ms' ∧ r < r') ∧
      encode_random_checked r = some (encode_random r) := by
  have hlen : (key_digits ms r).length = (key_digits ms' r').length := by rw [length_key_digits, length_key_digits]
  have hbytes := bytes_value_lt hr
  have hbytes' := bytes_value_lt hr'
  have hvalue := value_key_digits hms hr
  have hvalue' := value_key_digits hms' hr'
  rw [generate_eq ms hr, generate_eq ms' hr']
  refine ⟨fun h => ?_, ?_, encode_random_checked_eq hr⟩
  · have hdigits := map_injective letter_injective key_digits_lt key_digits_lt h
    rw [hdigits, hvalue'] at hvalue
    exact ⟨UInt64.toNat_inj.1 (by omega), bytes_value_injective (hr.trans hr'.symm) (by omega)⟩
  · rw [map_lt_map_iff letter_injective letter_lt_iff key_digits_lt key_digits_lt,
      lt_iff_value_lt hlen key_digits_lt key_digits_lt, hvalue, hvalue', bytes_lt_iff (hr.trans hr'.symm),
      UInt64.lt_iff_toNat_lt, ← UInt64.toNat_inj]
    omega

/-- A key of the year 2026 and the next one of the same millisecond. -/
theorem generate_order_next :
    let r : List UInt8 := [0, 1, 2, 3, 4, 5, 6, 7, 8, 9]
    let r' : List UInt8 := [0, 1, 2, 3, 4, 5, 6, 7, 8, 10]
    generate 1782561600000 r < generate 1782561600000 r' :=
  (generate_order 1782561600000 1782561600000 [0, 1, 2, 3, 4, 5, 6, 7, 8, 9] [0, 1, 2, 3, 4, 5, 6, 7, 8, 10] (by decide)
    (by decide) rfl rfl).2.1.2 (.inr ⟨rfl, by decide⟩)

end DevSys.UlidGenerator
