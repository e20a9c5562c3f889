import Mathlib.Data.List.Flatten
/-!
# Stream sockets

What a socket has in store for its reader: pieces of data in the order they
arrive, and timeouts between them. The peer closes after the last event. And
what comes of the data that is sent.
-/

abbrev Bytes := List UInt8

namespace Net

inductive Event where
  | data (piece : Bytes)
  | timeout
  deriving DecidableEq, Repr

abbrev Socket := List Event

/-- `recv(fd, buf, n)`: at most `n` bytes of the next piece, none at the end,
or -1 on a timeout. -/
def recv (n : Nat) : Socket → Option Bytes × Socket
  | [] => (some [], [])
  | .timeout :: s => (none, s)
  | .data piece :: s => (some (piece.take n), if piece.length ≤ n then s else .data (piece.drop n) :: s)

/-- The bytes still to come. -/
def size : Socket → Nat
  | [] => 0
  | .timeout :: s => size s
  | .data piece :: s => piece.length + size s

/-- What comes of a `send`: it takes some of the data, it fails, or the peer has
reset the connection, which raises SIGPIPE. -/
inductive Send where
  | took (n : Nat)
  | failed
  | broken
  deriving DecidableEq, Repr

/-- The data that a `send` takes. -/
def Send.taken {α : Type} (data : List α) : Send → Option (List α)
  | .took n => some (data.take n)
  | .failed => some []
  | .broken => none

theorem recv_size {n : Nat} {s s' : Socket} {got : Bytes} (h : recv n s = (some got, s')) :
    size s' + got.length = size s := by
  cases s with
  | nil => simp_all [recv, size]
  | cons e s =>
    cases e with
    | timeout => simp [recv] at h
    | data piece =>
      obtain ⟨rfl, rfl⟩ : piece.take n = got ∧ _ = s' := by simpa [recv] using h
      simp only [size, List.length_take]
      split
      · omega
      · simp only [size, List.length_drop]
        omega

theorem recv_length_le {n : Nat} {s s' : Socket} {got : Bytes} (h : recv n s = (some got, s')) : got.length ≤ n := by
  cases s with
  | nil => simp_all [recv]
  | cons e s =>
    cases e with
    | timeout => simp [recv] at h
    | data piece =>
      obtain ⟨rfl, -⟩ : piece.take n = got ∧ _ = s' := by simpa [recv] using h
      exact List.length_take_le _ _

/-! ## Streams without a timeout -/

/-- The socket yields these bytes, in any pieces, and is closed then. -/
def Carries (s : Socket) (bytes : Bytes) : Prop :=
  ∃ pieces : List Bytes, (∀ p ∈ pieces, p ≠ []) ∧ pieces.flatten = bytes ∧ s = pieces.map .data

theorem Carries.nil {s : Socket} (h : Carries s []) : s = [] := by
  obtain ⟨pieces, hne, hflat, rfl⟩ := h
  cases pieces with
  | nil => rfl
  | cons p ps =>
    simp only [List.flatten_cons, List.append_eq_nil_iff] at hflat
    exact absurd hflat.1 (hne p List.mem_cons_self)

theorem Carries.of_piece {bytes : Bytes} (h : bytes ≠ []) : Carries [.data bytes] bytes :=
  ⟨[bytes], by simpa using h, by simp, rfl⟩

/-- As long as bytes are to come, a `recv` gets some of them. -/
theorem Carries.recv {s : Socket} {bytes : Bytes} (h : Carries s bytes) (hb : bytes ≠ []) {n : Nat} (hn : n ≠ 0) :
    ∃ got s' rest, Net.recv n s = (some got, s') ∧ got ≠ [] ∧ bytes = got ++ rest ∧ Carries s' rest := by
  obtain ⟨pieces, hne, rfl, rfl⟩ := h
  cases pieces with
  | nil => exact absurd rfl hb
  | cons p ps =>
    have hp : p ≠ [] := hne p List.mem_cons_self
    have hps (q : Bytes) (hq : q ∈ ps) : q ≠ [] := hne q (List.mem_cons_of_mem _ hq)
    have hgot : p.take n ≠ [] := by simp [hn, hp]
    refine ⟨p.take n, _, p.drop n ++ ps.flatten, rfl, hgot, ?_, ?_⟩
    · rw [← List.append_assoc, List.take_append_drop, List.flatten_cons]
    · split
      · rename_i hlen
        exact ⟨ps, hps, by rw [List.drop_of_length_le hlen, List.nil_append], rfl⟩
      · rename_i hlen
        refine ⟨p.drop n :: ps, ?_, by rw [List.flatten_cons], rfl⟩
        rw [List.forall_mem_cons]
        exact ⟨fun hd => hlen (List.drop_eq_nil_iff.1 hd), hps⟩

/-! ## Timeouts -/

/-- The bytes of all pieces. -/
def bytes : Socket → Bytes
  | [] => []
  | .timeout :: s => bytes s
  | .data piece :: s => piece ++ bytes s

def untimed (s : Socket) : Socket := s.filter (· ≠ .timeout)

def until_timeout (s : Socket) : Socket := s.takeWhile (· ≠ .timeout)

/-- Without a timeout, non-empty pieces carry their bytes. -/
theorem carries_bytes {s : Socket} (hdata : .timeout ∉ s) (hne : .data [] ∉ s) : Carries s (bytes s) := by
  induction s with
  | nil => exact ⟨[], nofun, rfl, rfl⟩
  | cons e s ih =>
    rw [List.mem_cons, not_or] at hdata hne
    obtain ⟨pieces, hpieces, hflat, rfl⟩ := ih hdata.2 hne.2
    cases e with
    | timeout => exact absurd rfl hdata.1
    | data piece =>
      refine ⟨piece :: pieces, ?_, ?_, rfl⟩
      · rw [List.forall_mem_cons]
        exact ⟨fun hnil => hne.1 (by rw [hnil]), hpieces⟩
      · rw [List.flatten_cons, hflat]
        rfl

theorem untimed_of_not_mem {s : Socket} (h : .timeout ∉ s) : untimed s = s := by
  rw [untimed, List.filter_eq_self]
  intro e he
  exact decide_eq_true fun htimeout => h (htimeout ▸ he)

/-- A timeout splits the socket where the first one is. -/
theorem eq_until_timeout {s : Socket} (h : .timeout ∈ s) :
    ∃ t, s = until_timeout s ++ .timeout :: t ∧ bytes s = bytes (until_timeout s) ++ bytes t ∧
      untimed s = until_timeout s ++ untimed t := by
  induction s with
  | nil => cases h
  | cons e s ih =>
    cases e with
    | timeout => exact ⟨s, rfl, rfl, rfl⟩
    | data piece =>
      obtain ⟨t, hsplit, hbytes, huntimed⟩ := ih ((List.mem_cons.1 h).resolve_left nofun)
      refine ⟨t, ?_, ?_, ?_⟩
      · exact congrArg (.data piece :: ·) hsplit
      · rw [bytes, hbytes]
        exact (List.append_assoc _ _ _).symm
      · exact congrArg (.data piece :: ·) huntimed

theorem timeout_not_mem_until (s : Socket) : .timeout ∉ until_timeout s := by
  induction s with
  | nil => nofun
  | cons e s ih =>
    cases e with
    | timeout => nofun
    | data piece =>
      show .timeout ∉ .data piece :: until_timeout s
      rw [List.mem_cons, not_or]
      exact ⟨nofun, ih⟩

theorem mem_of_mem_until {s : Socket} {e : Event} (h : e ∈ until_timeout s) : e ∈ s :=
  (List.takeWhile_prefix _).subset h

/-- What comes later does not change what is got. -/
theorem recv_append {n : Nat} {s s' : Socket} {b : UInt8} {got : Bytes} (h : recv n s = (some (b :: got), s'))
    (t : Socket) : recv n (s ++ t) = (some (b :: got), s' ++ t) := by
  cases s with
  | nil => cases h
  | cons e s =>
    cases e with
    | timeout => cases h
    | data piece =>
      obtain ⟨hgot, rfl⟩ : some (piece.take n) = some (b :: got) ∧ _ = s' := Prod.mk.inj h
      rw [List.cons_append, recv, hgot]
      split <;> rfl

/-- Where nothing is got, a timeout afterwards changes nothing. -/
theorem recv_none_append {n : Nat} {s : Socket} (h : ∀ b got s', recv n s ≠ (some (b :: got), s')) (t : Socket) :
    ∀ b got s', recv n (s ++ .timeout :: t) ≠ (some (b :: got), s') := by
  intro b got s' heq
  cases s with
  | nil => cases heq
  | cons e s =>
    cases e with
    | timeout => cases heq
    | data piece =>
      obtain ⟨hgot, -⟩ : some (piece.take n) = some (b :: got) ∧ _ = s' := Prod.mk.inj heq
      exact h b got _ (Prod.ext hgot rfl)

end Net
