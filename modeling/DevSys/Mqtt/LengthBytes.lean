import DevSys.Mqtt.Framing
/-!
# The bytes of a remaining length

A remaining length takes at most four bytes. The reader's loop goes on for as
long as the bytes have their high bit set, with a larger shift each time.
-/
open Cxx Net

namespace DevSys.MqttClient

/-! ## The steps of the loop -/

/-- The shift and the byte of each step of the loop, and what it ends with. -/
structure Decoded where
  steps : List (Nat × UInt8)
  result : Except Stop (Nat × Socket)

/-- `rp_length`; it comes with its steps. -/
def rp_length_steps (l sh : Nat) (s : Socket) : Decoded :=
  match read_byte s with
  | .error e => { steps := [], result := .error e }
  | .ok (b, s) =>
    if _h : 32 ≤ sh then { steps := [(sh, b)], result := .error .undefined }
    else
      let l := (l ||| (b.toNat &&& 0x7F) <<< sh) % 2 ^ 32
      if b &&& 0x80 = 0 then { steps := [(sh, b)], result := .ok (l, s) }
      else
        let d := rp_length_steps l (sh + 7) s
        { d with steps := (sh, b) :: d.steps }
termination_by 32 - sh
decreasing_by omega

/-- The length of the packet that `rp` reads. -/
def rp_steps (s : Socket) : Decoded :=
  match read_byte s with
  | .error e => { steps := [], result := .error e }
  | .ok (_, s) => rp_length_steps 0 0 s

/-- What the protocol has of a length: shifts within the word, at most four
bytes, and their value. -/
structure Decoded.Sound (d : Decoded) : Prop where
  shifts : ∀ p ∈ d.steps, p.1 < 32
  at_most_four : d.steps.length ≤ 4
  value : ∀ l s, d.result = .ok (l, s) → l ≤ 268435455 ∧ Varint (d.steps.map (·.2)) l

theorem rp_length_steps_result (l sh : Nat) (s : Socket) : (rp_length_steps l sh s).result = rp_length l sh s := by
  induction l, sh, s using rp_length.induct with
  | case1 l sh s ih =>
    rw [rp_length_steps, rp_length]
    cases hread : read_byte s with
    | error e => rfl
    | ok r =>
      obtain ⟨b, s₁⟩ := r
      by_cases hsh : 32 ≤ sh
      · simp [hsh, Bind.bind, Except.bind]
      · by_cases hb : b &&& 0x80 = 0
        · simp [hsh, hb, Bind.bind, Except.bind]
        · simpa [hsh, hb, Bind.bind, Except.bind] using ih b s₁ hsh

/-- The packet is read with the length that the steps give. -/
theorem rp_eq_of_steps (s : Socket) :
    rp s =
      (do
        let (h, _) ← read_byte s
        let (l, s') ← (rp_steps s).result
        let (pl, s') ← re l s'
        .ok ((h >>> 4, pl), s')) := by
  rw [rp, rp_steps]
  cases hread : read_byte s with
  | error e => rfl
  | ok r =>
    obtain ⟨h, s₁⟩ := r
    simp only [Bind.bind, Except.bind, rp_length_steps_result]

/-! ## The bytes that arrive -/

/-- The bytes up to the first `recv` that gets none. -/
def received : Socket → Bytes
  | .data (b :: piece) :: s => b :: piece ++ received s
  | _ => []

theorem read_byte_of_received_nil {s : Socket} (h : received s = []) : read_byte s = .error .disconnected := by
  have hlost : ∀ b got s', recv 1 s ≠ (some (b :: got), s') := by
    intro b got s' hrecv
    cases s with
    | nil => cases hrecv
    | cons e s =>
      cases e with
      | timeout => cases hrecv
      | data piece =>
        cases piece with
        | nil => cases hrecv
        | cons b piece => cases h
  rw [read_byte, re, dif_neg one_ne_zero]
  split
  · rename_i b got s' hrecv
    exact absurd hrecv (hlost b got s')
  · rfl

theorem read_byte_of_received_cons {s : Socket} {b : UInt8} {bs : Bytes} (h : received s = b :: bs) :
    ∃ s', read_byte s = .ok (b, s') ∧ received s' = bs := by
  cases s with
  | nil => cases h
  | cons e s =>
    cases e with
    | timeout => cases h
    | data piece =>
      cases piece with
      | nil => cases h
      | cons c piece =>
        obtain ⟨rfl, rfl⟩ := List.cons.inj h
        cases piece with
        | nil =>
          refine ⟨s, ?_, rfl⟩
          simp [read_byte, re, recv, Bind.bind, Except.bind]
        | cons d piece =>
          refine ⟨.data (d :: piece) :: s, ?_, rfl⟩
          simp [read_byte, re, recv, Bind.bind, Except.bind]

/-! ## One step -/

theorem rp_length_steps_nil (l sh : Nat) {s : Socket} (h : received s = []) :
    rp_length_steps l sh s = { steps := [], result := .error .disconnected } := by
  rw [rp_length_steps, read_byte_of_received_nil h]

theorem rp_length_steps_last {l sh : Nat} (hsh : sh < 32) {s : Socket} {b : UInt8} {bs : Bytes}
    (h : received s = b :: bs) (hb : b.toNat < 128) :
    ∃ s', rp_length_steps l sh s =
      { steps := [(sh, b)], result := .ok ((l ||| (b.toNat &&& 0x7F) <<< sh) % 2 ^ 32, s') } := by
  obtain ⟨s', hread, -⟩ := read_byte_of_received_cons h
  refine ⟨s', ?_⟩
  rw [rp_length_steps, hread]
  dsimp only
  rw [dif_neg (by omega), if_pos ((and_0x80_eq_zero b).2 hb)]

theorem rp_length_steps_more {l sh : Nat} (hsh : sh < 32) {s : Socket} {b : UInt8} {bs : Bytes}
    (h : received s = b :: bs) (hb : 128 ≤ b.toNat) :
    ∃ s', received s' = bs ∧
      rp_length_steps l sh s =
        let d := rp_length_steps ((l ||| (b.toNat &&& 0x7F) <<< sh) % 2 ^ 32) (sh + 7) s'
        { d with steps := (sh, b) :: d.steps } := by
  obtain ⟨s', hread, hs'⟩ := read_byte_of_received_cons h
  refine ⟨s', hs', ?_⟩
  have hmore : ¬ b &&& 0x80 = 0 := by
    rw [and_0x80_eq_zero]
    omega
  rw [rp_length_steps, hread]
  dsimp only
  rw [dif_neg (by omega), if_neg hmore]

/-! ## Lengths of five bytes and more -/

/-- More than `j` bytes, and the first `j` of them go on. -/
def GoesOn (j : Nat) (bs : Bytes) : Prop := j < bs.length ∧ ∀ b ∈ bs.take j, 128 ≤ b.toNat

instance (j : Nat) (bs : Bytes) : Decidable (GoesOn j bs) := inferInstanceAs (Decidable (_ ∧ _))

/-- After the header, five bytes arrive, and none of the first four ends the length. -/
def TooLong (s : Socket) : Prop := GoesOn 4 (received s).tail

theorem goesOn_cons {j : Nat} {b : UInt8} {bs : Bytes} :
    GoesOn (j + 1) (b :: bs) ↔ 128 ≤ b.toNat ∧ GoesOn j bs := by
  unfold GoesOn
  rw [List.length_cons, List.take_succ_cons, List.forall_mem_cons, Nat.add_lt_add_iff_right]
  tauto

/-- With room for `j` more groups, the loop reads no more than `j` bytes if one
of them ends the length or is missing. -/
theorem steps_of_not_goesOn {j l sh : Nat} (hsh : sh + 7 * j = 28) (hl : l < 2 ^ sh) {s : Socket}
    (h : ¬GoesOn j (received s)) :
    (∀ p ∈ (rp_length_steps l sh s).steps, p.1 < 32) ∧ (rp_length_steps l sh s).steps.length ≤ j ∧
      ∀ l' s', (rp_length_steps l sh s).result = .ok (l', s') →
        l' < 2 ^ 28 ∧ ∃ n, Varint ((rp_length_steps l sh s).steps.map (·.2)) n ∧ l' = l + n * 2 ^ sh := by
  -- `j` more bytes may have the high bit; each takes seven of the 28 bits that are left
  induction j generalizing l sh s with
  | zero =>
    have hnil : received s = [] := by
      by_contra hne
      refine h ⟨List.length_pos_iff.2 hne, ?_⟩
      rw [List.take_zero]
      exact List.forall_mem_nil _
    rw [rp_length_steps_nil l sh hnil]
    refine ⟨List.forall_mem_nil _, Nat.le_refl 0, ?_⟩
    rintro l' s' ⟨⟩
  | succ j ih =>
    cases hbs : received s with
    | nil =>
      rw [rp_length_steps_nil l sh hbs]
      refine ⟨List.forall_mem_nil _, Nat.zero_le _, ?_⟩
      rintro l' s' ⟨⟩
    | cons b bs =>
      by_cases hb : b.toNat < 128
      · obtain ⟨s₁, hstep⟩ := rp_length_steps_last (l := l) (show sh < 32 by omega) hbs hb
        rw [hstep, and_0x7F_of_lt hb, or_group hl hb (by omega)]
        refine ⟨?_, by simp, ?_⟩
        · rw [List.forall_mem_singleton]
          omega
        · rintro l' s' ⟨⟩
          refine ⟨?_, b.toNat, .last b hb, rfl⟩
          exact lt_of_lt_of_le (add_group_lt hl hb) (Nat.pow_le_pow_right (by omega) (by omega))
      · have hb : 128 ≤ b.toNat := by omega
        have hgroup : b.toNat - 128 < 128 := by
          have hb256 := b.toNat_lt
          omega
        obtain ⟨s₁, hs₁, hstep⟩ := rp_length_steps_more (l := l) (show sh < 32 by omega) hbs hb
        rw [and_0x7F_of_ge hb, or_group hl hgroup (by omega)] at hstep
        have hshort : ¬GoesOn j (received s₁) := by
          rw [hbs, goesOn_cons] at h
          rw [hs₁]
          exact fun hgoes => h ⟨hb, hgoes⟩
        obtain ⟨hshifts, hlength, hvalue⟩ := ih (by omega) (add_group_lt hl hgroup) hshort
        rw [hstep]
        refine ⟨?_, ?_, ?_⟩
        · rw [List.forall_mem_cons]
          exact ⟨by dsimp only; omega, hshifts⟩
        · rw [List.length_cons]
          omega
        · intro l' s' hl'
          obtain ⟨hlt, n, hn, rfl⟩ := hvalue l' s' hl'
          refine ⟨hlt, _, .more b hb hn, ?_⟩
          rw [Nat.pow_add]
          ring

/-- The loop has no bound of its own. -/
theorem lt_steps_of_goesOn {j l sh : Nat} (hsh : sh + 7 * j = 28) {s : Socket} (h : GoesOn j (received s)) :
    j < (rp_length_steps l sh s).steps.length := by
  induction j generalizing l sh s with
  | zero =>
    obtain ⟨b, bs, hbs⟩ := List.exists_cons_of_length_pos h.1
    by_cases hb : b.toNat < 128
    · obtain ⟨s₁, hstep⟩ := rp_length_steps_last (l := l) (show sh < 32 by omega) hbs hb
      rw [hstep]
      exact Nat.zero_lt_one
    · obtain ⟨s₁, -, hstep⟩ := rp_length_steps_more (l := l) (show sh < 32 by omega) hbs (by omega)
      rw [hstep]
      exact Nat.succ_pos _
  | succ j ih =>
    obtain ⟨b, bs, hbs⟩ := List.exists_cons_of_length_pos (Nat.zero_lt_of_lt h.1)
    rw [hbs, goesOn_cons] at h
    obtain ⟨s₁, hs₁, hstep⟩ := rp_length_steps_more (l := l) (show sh < 32 by omega) hbs h.1
    rw [← hs₁] at h
    rw [hstep]
    exact Nat.succ_lt_succ (ih (by omega) h.2)

/-- The length of a packet is read as the protocol has it exactly when not five
bytes arrive of which the first four go on. -/
theorem rp_steps_sound_iff (s : Socket) : (rp_steps s).Sound ↔ ¬TooLong s := by
  unfold rp_steps TooLong
  cases hs : received s with
  | nil =>
    rw [read_byte_of_received_nil hs]
    refine iff_of_true ⟨List.forall_mem_nil _, Nat.zero_le 4, ?_⟩ fun h => Nat.not_lt_zero _ h.1
    rintro l s' ⟨⟩
  | cons h bs =>
    obtain ⟨s₁, hread, rfl⟩ := read_byte_of_received_cons hs
    rw [hread]
    constructor
    · intro hsound hlong
      have hfive : 4 < (rp_length_steps 0 0 s₁).steps.length := lt_steps_of_goesOn rfl hlong
      have hfour := hsound.at_most_four
      dsimp only at hfour
      omega
    · intro hshort
      have hroom : 0 + 7 * 4 = 28 := rfl
      obtain ⟨hshifts, hlength, hvalue⟩ := steps_of_not_goesOn hroom Nat.zero_lt_one hshort
      refine ⟨hshifts, hlength, ?_⟩
      intro l s' hl
      obtain ⟨hlt, n, hn, hln⟩ := hvalue l s' hl
      rw [Nat.zero_add, Nat.pow_zero, Nat.mul_one] at hln
      rw [hln]
      exact ⟨by omega, hn⟩

/-- A PUBLISH with a length of five bytes, and one with six. -/
def five_bytes : Socket := [.data [0x30, 0x80, 0x80, 0x80, 0x80, 0x01]]

def six_bytes : Socket := [.data [0x30, 0x80, 0x80, 0x80, 0x80, 0x80, 0x01]]

/-- Five bytes give a length that is too large; with the sixth the shift leaves the word. -/
theorem long_lengths_are_read :
    ((rp_steps five_bytes).result = .ok (268435456, []) ∧ ¬(rp_steps five_bytes).Sound) ∧
      ((35, 0x01) ∈ (rp_steps six_bytes).steps ∧ ¬(rp_steps six_bytes).Sound) := by
  have hlast : (0x01 : UInt8) &&& 0x80 = 0 := by decide
  have hfive : (rp_steps five_bytes).result = .ok (268435456, []) := by
    simp [rp_steps, five_bytes, rp_length_steps, read_byte, re, recv, hlast, Bind.bind, Except.bind]
  have hsix : (35, 0x01) ∈ (rp_steps six_bytes).steps := by
    simp [rp_steps, six_bytes, rp_length_steps, read_byte, re, recv, Bind.bind, Except.bind]
  refine ⟨⟨hfive, ?_⟩, hsix, ?_⟩
  · intro hsound
    have hle := (hsound.value _ _ hfive).1
    omega
  · intro hsound
    have hlt := hsound.shifts _ hsix
    omega

end DevSys.MqttClient
