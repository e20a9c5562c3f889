import DevSys.Mqtt.Client
import Mathlib.Tactic.Ring
/-!
# Packets on a stream

A packet is a header byte, the length of its body in base 128 and the body. A
stream of packets is read back as they were, however it is cut into pieces.
-/
open Cxx Net

namespace DevSys.MqttClient

/-! ## Exact reads -/

theorem re_carries {s : Socket} {bs rest : Bytes} (h : Carries s (bs ++ rest)) :
    ∃ s', re bs.length s = .ok (bs, s') ∧ Carries s' rest := by
  -- by the number of bytes wanted: each `recv` gets at least one
  induction hn : bs.length using Nat.strong_induction_on generalizing s bs with
  | _ n ih =>
    by_cases hbs : bs = []
    · subst hbs
      obtain rfl : n = 0 := hn.symm
      exact ⟨s, by rw [re]; rfl, h⟩
    · have hn0 : n ≠ 0 := by
        rintro rfl
        exact hbs (List.length_eq_zero_iff.1 hn)
      obtain ⟨got, s₁, tail, hrecv, hgot, heq, hs₁⟩ := h.recv (by simp [hbs]) hn0
      have hlen : got.length ≤ n := recv_length_le hrecv
      -- what `recv` got is the start of the wanted bytes
      obtain ⟨more, rfl, rfl⟩ : ∃ more, bs = got ++ more ∧ tail = more ++ rest := by
        rcases List.append_eq_append_iff.1 heq with ⟨as, h1, h2⟩ | ⟨as, h1, h2⟩
        · have : as = [] := by
            rw [h1, List.length_append] at hlen
            exact List.length_eq_zero_iff.1 (by omega)
          subst this
          exact ⟨[], by simpa using h1.symm, by simpa using h2.symm⟩
        · exact ⟨as, h1, h2⟩
      obtain ⟨b, got, rfl⟩ := List.exists_cons_of_ne_nil hgot
      have hmore : more.length = n - (got.length + 1) := by
        rw [← hn, List.length_append, List.length_cons]
        omega
      obtain ⟨s₂, hre, hs₂⟩ := ih _ (by omega) hs₁ hmore
      refine ⟨s₂, ?_, hs₂⟩
      rw [re, dif_neg hn0, hrecv]
      simp only [hre, Bind.bind, Except.bind]

theorem read_byte_carries {s : Socket} {b : UInt8} {rest : Bytes} (h : Carries s (b :: rest)) :
    ∃ s', read_byte s = .ok (b, s') ∧ Carries s' rest := by
  have h : Carries s ([b] ++ rest) := h
  obtain ⟨s', hre, hs'⟩ := re_carries h
  refine ⟨s', ?_, hs'⟩
  have hre : re 1 s = .ok ([b], s') := hre
  rw [read_byte, hre]
  rfl

/-! ## The remaining length -/

theorem el_eq_encode (l : Nat) : el l = Varint.encode l := by
  induction l using Nat.strong_induction_on with
  | _ l ih =>
    have hlow : l &&& 0x7F = l % 128 := Nat.and_two_pow_sub_one_eq_mod l 7
    have hhigh : l >>> 7 = l / 128 := Nat.shiftRight_eq_div_pow l 7
    have hor : l % 128 ||| 0x80 = l % 128 + 128 := by
      rw [Nat.or_comm, show 0x80 = 2 ^ 7 * 1 from rfl, ← Nat.two_pow_add_eq_or_of_lt (by omega)]
      omega
    rw [el, Varint.encode, hlow, hhigh, hor]
    by_cases hl : l < 128
    · rw [dif_neg (by omega), if_pos hl, Nat.mod_eq_of_lt hl]
    · rw [dif_pos (by omega), if_neg hl, ih _ (by omega)]

theorem and_0x80_eq_zero (b : UInt8) : b &&& 0x80 = 0 ↔ b.toNat < 128 := by
  have hall : ∀ i : Fin 256, UInt8.ofNat i &&& 0x80 = 0 ↔ i.val < 128 := by decide +kernel
  have h := hall ⟨b.toNat, b.toNat_lt⟩
  rwa [UInt8.ofNat_toNat] at h

/-- One more group of seven bits above the `sh` bits read so far. -/
theorem or_shift {l sh : Nat} (hl : l < 2 ^ sh) (m : Nat) : l ||| m <<< sh = l + m * 2 ^ sh := by
  rw [Nat.shiftLeft_eq, Nat.mul_comm m, Nat.or_comm, ← Nat.two_pow_add_eq_or_of_lt hl, Nat.add_comm]

theorem add_group_lt {l sh m : Nat} (hl : l < 2 ^ sh) (hm : m < 128) : l + m * 2 ^ sh < 2 ^ (sh + 7) := by
  have : (m + 1) * 2 ^ sh ≤ 128 * 2 ^ sh := Nat.mul_le_mul_right _ hm
  rw [Nat.pow_add, show 2 ^ 7 = 128 from rfl]
  rw [Nat.add_mul] at this
  omega

/-- The or is a sum, and it fits the word. -/
theorem or_group {l sh m : Nat} (hl : l < 2 ^ sh) (hm : m < 128) (hsh : sh + 7 ≤ 32) :
    (l ||| m <<< sh) % 2 ^ 32 = l + m * 2 ^ sh := by
  rw [or_shift hl, Nat.mod_eq_of_lt]
  exact lt_of_lt_of_le (add_group_lt hl hm) (Nat.pow_le_pow_right (by omega) hsh)

theorem and_0x7F_of_lt {b : UInt8} (hb : b.toNat < 128) : b.toNat &&& 0x7F = b.toNat := by
  rw [show 0x7F = 2 ^ 7 - 1 from rfl, Nat.and_two_pow_sub_one_eq_mod, Nat.mod_eq_of_lt hb]

theorem and_0x7F_of_ge {b : UInt8} (hb : 128 ≤ b.toNat) : b.toNat &&& 0x7F = b.toNat - 128 := by
  have hb256 := b.toNat_lt
  rw [show 0x7F = 2 ^ 7 - 1 from rfl, Nat.and_two_pow_sub_one_eq_mod]
  omega

theorem rp_length_carries {bs : Bytes} {n : Nat} (h : Varint bs n) {l sh : Nat} (hl : l < 2 ^ sh)
    (hfit : sh + 7 * bs.length ≤ 32) {s : Socket} {rest : Bytes} (hs : Carries s (bs ++ rest)) :
    ∃ s', rp_length l sh s = .ok (l + n * 2 ^ sh, s') ∧ Carries s' rest := by
  -- the accumulator stays below 2^sh
  induction h generalizing l sh s with
  | last b hb =>
    rw [List.length_singleton] at hfit
    obtain ⟨s₁, hread, hs₁⟩ := read_byte_carries hs
    refine ⟨s₁, ?_, hs₁⟩
    rw [rp_length, hread]
    simp only [Bind.bind, Except.bind]
    rw [dif_neg (by omega), if_pos ((and_0x80_eq_zero b).2 hb), and_0x7F_of_lt hb, or_group hl hb (by omega)]
  | @more b hb bs n hbs ih =>
    rw [List.length_cons] at hfit
    obtain ⟨s₁, hread, hs₁⟩ := read_byte_carries hs
    have hgroup : b.toNat - 128 < 128 := by
      have hb256 := b.toNat_lt
      omega
    obtain ⟨s', hrest, hs'⟩ := ih (add_group_lt hl hgroup) (by omega) hs₁
    refine ⟨s', ?_, hs'⟩
    have hmore : ¬ b &&& 0x80 = 0 := by
      rw [and_0x80_eq_zero]
      omega
    rw [rp_length, hread]
    simp only [Bind.bind, Except.bind]
    rw [dif_neg (by omega), if_neg hmore, and_0x7F_of_ge hb, or_group hl hgroup (by omega), hrest]
    congr 2
    rw [Nat.pow_add]
    ring

/-! ## Packets -/

/-- A framed body comes back whole, with the type nibble of its header. -/
theorem rp_carries {h : UInt8} {v rest : Bytes} (hv : v.length < 2 ^ 28) {s : Socket}
    (hs : Carries s (h :: (el v.length ++ (v ++ rest)))) : ∃ s', rp s = .ok ((h >>> 4, v), s') ∧ Carries s' rest := by
  obtain ⟨s₁, hh, hs₁⟩ := read_byte_carries hs
  rw [el_eq_encode] at hs₁
  have hlen := Varint.length_encode_le (k := 4) (by omega) (show v.length < 128 ^ 4 by omega)
  have hzero : 0 < 2 ^ 0 := by omega
  obtain ⟨s₂, hl, hs₂⟩ := rp_length_carries (Varint.encode_varint v.length) hzero (by omega) hs₁
  obtain ⟨s₃, hpl, hs₃⟩ := re_carries hs₂
  refine ⟨s₃, ?_, hs₃⟩
  rw [Nat.zero_add, Nat.pow_zero, Nat.mul_one] at hl
  simp only [rp, hh, hl, hpl, Bind.bind, Except.bind]

theorem rp_end {s : Socket} (hs : Carries s []) : rp s = .error .disconnected := by
  rw [hs.nil, rp, read_byte, re]
  rfl

/-! ## Streams of packets -/

/-- A header byte with a type and flags, and a body that fits four length bytes. -/
structure Packet where
  header : UInt8
  body : Bytes
  fits : body.length < 2 ^ 28

def Packet.frame (p : Packet) : Bytes := p.header :: (el p.body.length ++ p.body)

/-- What `rp` reports of a packet. -/
def Packet.read (p : Packet) : UInt8 × Bytes := (p.header >>> 4, p.body)

/-- The packets read one after another, and what ended the reading. -/
def rp_all (s : Socket) : List (UInt8 × Bytes) × Stop :=
  match _h : rp s with
  | .error e => ([], e)
  | .ok (packet, s') => let (packets, e) := rp_all s'; (packet :: packets, e)
termination_by size s
decreasing_by exact rp_size _h

theorem rp_all_of_error {s : Socket} {e : Stop} (h : rp s = .error e) : rp_all s = ([], e) := by
  rw [rp_all]
  split
  · rename_i e' he
    rw [h] at he
    cases he
    rfl
  · rename_i he
    rw [h] at he
    cases he

theorem rp_all_of_ok {s s' : Socket} {packet : UInt8 × Bytes} (h : rp s = .ok (packet, s')) :
    rp_all s = (packet :: (rp_all s').1, (rp_all s').2) := by
  rw [rp_all]
  split
  · rename_i he
    rw [h] at he
    cases he
  · rename_i packet' s'' he
    rw [h] at he
    cases he
    rfl

/-- Every packet of a stream is read, in order, and then the end of the stream. -/
theorem rp_all_frames (ps : List Packet) {s : Socket} (hs : Carries s (ps.flatMap Packet.frame)) :
    rp_all s = (ps.map Packet.read, .disconnected) := by
  induction ps generalizing s with
  | nil => exact rp_all_of_error (rp_end hs)
  | cons p ps ih =>
    have hs : Carries s (p.header :: (el p.body.length ++ (p.body ++ ps.flatMap Packet.frame))) := by
      rw [List.flatMap_cons, Packet.frame, List.cons_append, List.append_assoc] at hs
      exact hs
    obtain ⟨s', hrp, hs'⟩ := rp_carries p.fits hs
    rw [rp_all_of_ok hrp, ih hs', List.map_cons]
    rfl

/-- Two packets, cut within the first header and within the second body. -/
theorem rp_all_frames_pieces :
    rp_all [.data [0x32], .data [0x02, 0x61, 0x62, 0xd0, 0x03, 0x01], .data [0x02, 0x03]] =
      ([(3, [0x61, 0x62]), (0xd, [0x01, 0x02, 0x03])], .disconnected) := by
  let ps : List Packet := [⟨0x32, [0x61, 0x62], by decide⟩, ⟨0xd0, [0x01, 0x02, 0x03], by decide⟩]
  have hframes : ps.flatMap Packet.frame = [0x32, 0x02, 0x61, 0x62, 0xd0, 0x03, 0x01, 0x02, 0x03] := by
    simp [ps, Packet.frame, el]
  refine rp_all_frames ps ⟨[[0x32], [0x02, 0x61, 0x62, 0xd0, 0x03, 0x01], [0x02, 0x03]], by simp, ?_, rfl⟩
  rw [hframes]
  rfl

/-! ## Packets that are sent -/

theorem not_closed {c : MqttClient} (hc : c.connected ∧ 0 ≤ c.fd) : ¬ (¬c.connected ∨ c.fd < 0) := by
  rintro (h | h)
  · exact h hc.1
  · have := hc.2
    omega

/-- What a connected client sends. -/
theorem publish_bytes {t p : Bytes} {q : Int32} {c : MqttClient} (hc : c.connected ∧ 0 ≤ c.fd)
    (hv : (publish_body t p q c.pid_counter).length < 2 ^ 28) :
    (c.publish t p q).2.1 =
      publish_header q :: (el (publish_body t p q c.pid_counter).length ++ publish_body t p q c.pid_counter) := by
  have hlen := Nat.mod_eq_of_lt (show (publish_body t p q c.pid_counter).length < 2 ^ 32 by omega)
  rw [publish, if_neg (not_closed hc)]
  simp only [hlen]

theorem subscribe_frame {t : Bytes} {q : Int32} {c : MqttClient} (hc : c.connected ∧ 0 ≤ c.fd)
    (hv : (subscribe_body t q c.pid_counter).length < 2 ^ 28) :
    (c.subscribe t q).2.1 = Packet.frame ⟨0x82, subscribe_body t q c.pid_counter, hv⟩ := by
  have hlen := Nat.mod_eq_of_lt (show (subscribe_body t q c.pid_counter).length < 2 ^ 32 by omega)
  rw [subscribe, if_neg (not_closed hc)]
  simp only [hlen, Packet.frame]

end DevSys.MqttClient
