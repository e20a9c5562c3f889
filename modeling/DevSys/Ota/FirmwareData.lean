import DevSys.Lib.Base64
import DevSys.Ota.FirmwareStore
/-!
# The data of a registered firmware

The loop of `POST /api/v1/ota/firmwares` decodes base64 exactly. The accumulator
keeps all the bits that went through it; only the low ones, which are not
written out yet, matter.
-/
open Cxx Base64

namespace DevSys.FirmwareStore

/-! ## The accumulator -/

/-- The accumulator as an unsigned number. -/
def bits (val : Int32) : Nat := val.toBitVec.toNat

theorem bits_push (val : Int32) (d : Nat) : bits ((val <<< 6) + Int32.ofNat d) = (bits val * 64 + d) % 2 ^ 32 := by
  have hsix : (Int32.toBitVec 6).smod 32 = 6#32 := by decide
  have hshift : (val.toBitVec <<< (Int32.toBitVec 6).smod 32).toNat = bits val * 64 % 2 ^ 32 := by
    rw [hsix, BitVec.shiftLeft_eq', BitVec.toNat_shiftLeft, Nat.shiftLeft_eq, bits]
    rfl
  have hd : (Int32.ofNat d).toBitVec.toNat = d % 2 ^ 32 := by
    rw [Int32.toBitVec_ofNat', BitVec.toNat_ofNat]
  rw [bits, Int32.toBitVec_add, BitVec.toNat_add, Int32.toBitVec_shiftLeft, hd]
  show ((val.toBitVec <<< (Int32.toBitVec 6).smod 32).toNat + _) % _ = _
  rw [hshift]
  omega

theorem byte_of_shift (x : BitVec 32) {s : Nat} (hs : s ≤ 24) :
    (x.sshiftRight s &&& 255#32).toInt.toNat = x.toNat / 2 ^ s % 256 := by
  have hlow : (x.sshiftRight s &&& 255#32).toNat = (x.sshiftRight s).toNat % 256 := by
    rw [BitVec.toNat_and]
    exact Nat.and_two_pow_sub_one_eq_mod _ 8
  have hbits : (x.sshiftRight s).toNat % 2 ^ 8 = x.toNat / 2 ^ s % 2 ^ 8 := by
    apply Nat.eq_of_testBit_eq
    intro i
    rw [Nat.testBit_mod_two_pow, Nat.testBit_mod_two_pow, Nat.testBit_div_two_pow, BitVec.testBit_toNat,
      BitVec.testBit_toNat, BitVec.getLsbD_sshiftRight]
    by_cases hi : i < 8
    · have hw : ¬32 ≤ i := by omega
      have hsi : s + i < 32 := by omega
      simp [hi, hw, hsi, Nat.add_comm]
    · simp [hi]
  have hsmall : (x.sshiftRight s &&& 255#32).toNat < 256 := by
    rw [hlow]
    exact Nat.mod_lt _ (by decide)
  rw [BitVec.toInt_eq_toNat_of_lt (by omega), Int.toNat_natCast, hlow]
  exact hbits

/-- The eight bits above `s`. -/
theorem bits_byte (val : Int32) {s : Int} (hs : s = 0 ∨ s = 2 ∨ s = 4) :
    ((val >>> Int32.ofInt s) &&& 0xFF).toInt.toNat = bits val / 2 ^ s.toNat % 256 := by
  have hand (x : Int32) : (x &&& 0xFF).toInt = (x.toBitVec &&& 255#32).toInt := rfl
  rw [hand, Int32.toBitVec_shiftRight]
  rcases hs with rfl | rfl | rfl
  · exact byte_of_shift val.toBitVec (s := 0) (by decide)
  · exact byte_of_shift val.toBitVec (s := 2) (by decide)
  · exact byte_of_shift val.toBitVec (s := 4) (by decide)

/-! ## One letter -/

theorem b64_index_letter {d : Nat} (hd : d < 64) : b64_index (letter d) = some d := by
  have hall : ∀ d < 64, b64_index (letter d) = some d := by decide +kernel
  exact hall d hd

theorem letter_ne_pad {d : Nat} (hd : d < 64) : letter d ≠ '=' := by
  have hall : ∀ d < 64, letter d ≠ '=' := by decide +kernel
  exact hall d hd

/-- A letter that does not complete a byte. -/
theorem b64_loop_push (val : Int32) (valb : Int) (hvalb : valb + 6 < 0) (decoded : Str) {d : Nat} (hd : d < 64) (cs : Str) :
    ∃ val', bits val' = (bits val * 64 + d) % 2 ^ 32 ∧
      b64_loop val valb decoded (letter d :: cs) = b64_loop val' (valb + 6) decoded cs := by
  refine ⟨(val <<< 6) + Int32.ofNat d, bits_push val d, ?_⟩
  rw [b64_loop, if_neg (letter_ne_pad hd), b64_index_letter hd]
  dsimp only
  rw [if_neg (Int.not_le.2 hvalb)]

/-- A letter that completes one. -/
theorem b64_loop_emit (val : Int32) (valb : Int) (hvalb : valb + 6 = 0 ∨ valb + 6 = 2 ∨ valb + 6 = 4) (decoded : Str)
    {d : Nat} (hd : d < 64) (cs : Str) :
    ∃ val', bits val' = (bits val * 64 + d) % 2 ^ 32 ∧
      b64_loop val valb decoded (letter d :: cs) =
        b64_loop val' (valb + 6 - 8) (decoded ++ [Char.ofNat ((bits val * 64 + d) / 2 ^ (valb + 6).toNat % 256)]) cs := by
  refine ⟨(val <<< 6) + Int32.ofNat d, bits_push val d, ?_⟩
  rw [b64_loop, if_neg (letter_ne_pad hd), b64_index_letter hd]
  dsimp only
  have hlow : (bits val * 64 + d) % 2 ^ 32 / 2 ^ (valb + 6).toNat % 256 =
      (bits val * 64 + d) / 2 ^ (valb + 6).toNat % 256 := by
    rcases hvalb with h | h | h
    · rw [h, show (0 : Int).toNat = 0 from rfl]
      omega
    · rw [h, show (2 : Int).toNat = 2 from rfl]
      omega
    · rw [h, show (4 : Int).toNat = 4 from rfl]
      omega
  rw [if_pos (by omega), bits_byte _ hvalb, bits_push, hlow]

/-! ## Three bytes -/

/-- What is stored for a row of bytes. -/
def stored (bs : List UInt8) : Str := bs.map fun b => Char.ofNat b.toNat

/-- Two letters give the first byte, whatever is in the accumulator. -/
theorem b64_loop_two (val : Int32) (decoded : Str) (a : UInt8) (low : Nat) (hlow : low < 16) (cs : Str) :
    ∃ val', bits val' % 16 = low ∧
      b64_loop val (-8) decoded (letter (a.toNat / 4) :: letter (a.toNat % 4 * 16 + low) :: cs) =
        b64_loop val' (-4) (decoded ++ stored [a]) cs := by
  have ha := a.toNat_lt
  obtain ⟨v, hv, hone⟩ := b64_loop_push val (-8) (by decide) decoded (d := a.toNat / 4) (by omega)
    (letter (a.toNat % 4 * 16 + low) :: cs)
  obtain ⟨val', hval', htwo⟩ := b64_loop_emit v (-8 + 6) (by decide) decoded (d := a.toNat % 4 * 16 + low)
    (by omega) cs
  refine ⟨val', by omega, ?_⟩
  have hbyte : (bits v * 64 + (a.toNat % 4 * 16 + low)) / 2 ^ (-8 + 6 + 6 : Int).toNat % 256 = a.toNat := by
    rw [show (-8 + 6 + 6 : Int).toNat = 4 from rfl]
    omega
  rw [hone, htwo, hbyte]
  rfl

theorem b64_loop_three (val : Int32) (decoded : Str) (b : UInt8) (hval : bits val % 16 = b.toNat / 16) (low : Nat)
    (hlow : low < 4) (cs : Str) :
    ∃ val', bits val' % 4 = low ∧
      b64_loop val (-4) decoded (letter (b.toNat % 16 * 4 + low) :: cs) =
        b64_loop val' (-6) (decoded ++ stored [b]) cs := by
  have hb := b.toNat_lt
  obtain ⟨val', hval', hone⟩ := b64_loop_emit val (-4) (by decide) decoded (d := b.toNat % 16 * 4 + low)
    (by omega) cs
  refine ⟨val', by omega, ?_⟩
  have hbyte : (bits val * 64 + (b.toNat % 16 * 4 + low)) / 2 ^ (-4 + 6 : Int).toNat % 256 = b.toNat := by
    rw [show (-4 + 6 : Int).toNat = 2 from rfl]
    omega
  rw [hone, hbyte]
  rfl

theorem b64_loop_four (val : Int32) (decoded : Str) (c : UInt8) (hval : bits val % 4 = c.toNat / 64) (cs : Str) :
    ∃ val', b64_loop val (-6) decoded (letter (c.toNat % 64) :: cs) = b64_loop val' (-8) (decoded ++ stored [c]) cs := by
  have hc := c.toNat_lt
  obtain ⟨val', -, hone⟩ := b64_loop_emit val (-6) (by decide) decoded (d := c.toNat % 64) (by omega) cs
  refine ⟨val', ?_⟩
  have hbyte : (bits val * 64 + c.toNat % 64) / 2 ^ (-6 + 6 : Int).toNat % 256 = c.toNat := by
    rw [show (-6 + 6 : Int).toNat = 0 from rfl]
    omega
  rw [hone, hbyte]
  rfl

/-! ## Whole texts -/

/-- Padding ends the loop, as the end of the text does. -/
theorem b64_loop_end (val : Int32) (valb : Int) (decoded : Str) (padded : Bool) (cs : Str) :
    b64_loop val valb decoded (if padded then '=' :: cs else []) = decoded := by
  cases padded with
  | true => exact if_pos rfl
  | false => rfl

theorem b64_loop_encode (padded : Bool) (bs : List UInt8) (val : Int32) (decoded : Str) :
    b64_loop val (-8) decoded (encode padded bs) = decoded ++ stored bs := by
  induction bs using encode.induct generalizing val decoded with
  | case1 => exact (List.append_nil _).symm
  | case2 a =>
    obtain ⟨v, -, htwo⟩ := b64_loop_two val decoded a 0 (by decide) (if padded then ['=', '='] else [])
    rw [encode, ← Nat.add_zero (a.toNat % 4 * 16), htwo, b64_loop_end]
  | case3 a b =>
    have hb := b.toNat_lt
    obtain ⟨v, hv, htwo⟩ := b64_loop_two val decoded a (b.toNat / 16) (by omega)
      (letter (b.toNat % 16 * 4) :: if padded then ['='] else [])
    obtain ⟨w, -, hthree⟩ := b64_loop_three v (decoded ++ stored [a]) b hv 0 (by decide)
      (if padded then ['='] else [])
    rw [Nat.add_zero] at hthree
    rw [encode, htwo, hthree, b64_loop_end]
    simp [stored]
  | case4 a b c bs ih =>
    have ha := a.toNat_lt
    have hb := b.toNat_lt
    have hc := c.toNat_lt
    obtain ⟨v, hv, htwo⟩ := b64_loop_two val decoded a (b.toNat / 16) (by omega)
      (letter (b.toNat % 16 * 4 + c.toNat / 64) :: letter (c.toNat % 64) :: encode padded bs)
    obtain ⟨w, hw, hthree⟩ := b64_loop_three v (decoded ++ stored [a]) b hv (c.toNat / 64) (by omega)
      (letter (c.toNat % 64) :: encode padded bs)
    obtain ⟨x, hfour⟩ := b64_loop_four w (decoded ++ stored [a] ++ stored [b]) c hw (encode padded bs)
    rw [encode, htwo, hthree, hfour, ih]
    simp [stored]

/-- A character that the loop passes over. -/
def Noise (c : Char) : Prop := c ∉ alphabet ∧ c ≠ '=' ∧ c ≠ '\x00'

theorem b64_index_noise {c : Char} (h : Noise c) : b64_index c = none := by
  rw [b64_index, List.findIdx?_eq_none_iff]
  intro d hd
  rw [decide_eq_false_iff_not]
  rintro rfl
  rcases List.mem_append.1 hd with hd | hd
  · exact h.1 hd
  · exact h.2.2 (List.mem_singleton.1 hd)

theorem b64_loop_inserted {s t : Str} (h : Inserted Noise s t) (val : Int32) (valb : Int) (decoded : Str) :
    b64_loop val valb decoded t = b64_loop val valb decoded s := by
  induction h generalizing val valb decoded with
  | nil => rfl
  | @keep c s t _ ih =>
    rw [b64_loop, b64_loop]
    split_ifs
    · rfl
    · cases b64_index c with
      | none => exact ih val valb decoded
      | some i =>
        dsimp only
        split_ifs
        · exact ih _ _ _
        · exact ih _ _ _
  | noise hc _ ih =>
    rw [b64_loop, if_neg hc.2.1, b64_index_noise hc]
    exact ih val valb decoded

/-- Base64 of any bytes is decoded to these bytes. -/
theorem b64_decode_exact (padded : Bool) (bs : List UInt8) {t : Str} (h : Inserted Noise (encode padded bs) t) :
    b64_decode t = stored bs := by
  rw [b64_decode, b64_loop_inserted h, b64_loop_encode, List.nil_append]

/-- Two bytes on two lines. -/
theorem b64_decode_lines : b64_decode "3q\n0=\n".toList = stored [0xde, 0xad] := by
  have hlf : Noise '\n' := by
    rw [Noise]
    decide
  have hencode : encode true [0xde, 0xad] = "3q0=".toList := by decide
  refine b64_decode_exact true [0xde, 0xad] ?_
  rw [hencode]
  exact .keep (.keep (.noise hlf (.keep (.keep (.noise hlf .nil)))))

end DevSys.FirmwareStore
