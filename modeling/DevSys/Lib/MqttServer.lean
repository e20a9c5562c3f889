import DevSys.Lib.Varint
import Mathlib.Data.List.Forall2
/-!
# What an MQTT server reads

A packet of a client is a header byte, the length of the rest in base 128 and
the fields. A server that finds anything else gives the connection up.
-/

namespace MqttServer

structure Will where
  topic : List UInt8
  payload : List UInt8
  qos : Nat
  retain : Bool
  deriving DecidableEq, Repr

structure Connect where
  client_id : List UInt8
  keep_alive : Nat
  clean : Bool
  will : Option Will
  username : Option (List UInt8)
  password : Option (List UInt8)
  deriving DecidableEq, Repr

inductive ClientPacket where
  | connect (c : Connect)
  | publish (topic payload : List UInt8) (qos : Nat) (retain dup : Bool) (id : Option Nat)
  | subscribe (id : Nat) (filters : List (List UInt8 × Nat))
  | disconnect
  deriving DecidableEq, Repr

/-! ## Fields -/

/-- Two bytes, the high one first. -/
def number : List UInt8 → Option (Nat × List UInt8)
  | high :: low :: rest => some (high.toNat * 256 + low.toNat, rest)
  | _ => none

/-- A string after its length. -/
def string (bs : List UInt8) : Option (List UInt8 × List UInt8) := do
  let (n, rest) ← number bs
  if n ≤ rest.length then some (rest.take n, rest.drop n) else none

def string? (present : Bool) (bs : List UInt8) : Option (Option (List UInt8) × List UInt8) :=
  if present then (string bs).map fun r => (some r.1, r.2) else some (none, bs)

/-- A packet id, which is not 0. -/
def packetId (bs : List UInt8) : Option (Nat × List UInt8) := (number bs).filter (·.1 ≠ 0)

/-- A base-128 number in at most `k` bytes. -/
def length : Nat → List UInt8 → Option (Nat × List UInt8)
  | k + 1, b :: rest =>
    if b.toNat < 128 then some (b.toNat, rest)
    else (length k rest).map fun r => (b.toNat - 128 + 128 * r.1, r.2)
  | _, _ => none

/-! ## Packets -/

/-- The will that the flags tell of. Its own flags are 0 without one. -/
def will? (flags : Nat) (bs : List UInt8) : Option (Option Will × List UInt8) :=
  let qos := flags / 8 % 4
  if flags.testBit 2 then do
    let (topic, bs) ← string bs
    let (payload, bs) ← string bs
    if qos = 3 then none else some (some ⟨topic, payload, qos, flags.testBit 5⟩, bs)
  else if qos = 0 ∧ ¬flags.testBit 5 then some (none, bs) else none

/-- The fields behind the name and the version of the protocol. A password needs
a user name. -/
def connectFields (flags : Nat) (bs : List UInt8) : Option Connect := do
  let (keep_alive, bs) ← number bs
  let (client_id, bs) ← string bs
  let (will, bs) ← will? flags bs
  let (username, bs) ← string? (flags.testBit 7) bs
  let (password, bs) ← string? (flags.testBit 6) bs
  if flags.testBit 0 ∨ (flags.testBit 6 ∧ ¬flags.testBit 7) ∨ bs ≠ [] then none
  else some ⟨client_id, keep_alive, flags.testBit 1, will, username, password⟩

def connect : List UInt8 → Option Connect
  | 0x00 :: 0x04 :: 0x4D :: 0x51 :: 0x54 :: 0x54 :: 0x04 :: flags :: bs => connectFields flags.toNat bs
  | _ => none

/-- The flags are the low half of the header. -/
def publish (flags : Nat) (bs : List UInt8) : Option ClientPacket := do
  let (topic, bs) ← string bs
  let qos := flags / 2 % 4
  if qos = 0 then
    if flags.testBit 3 then none else some (.publish topic bs 0 (flags.testBit 0) false none)
  else if qos = 3 then none
  else do
    let (id, bs) ← packetId bs
    some (.publish topic bs qos (flags.testBit 0) (flags.testBit 3) (some id))

/-- The filters up to the end of the packet, which may be cut `fuel` times. -/
def filters : Nat → List UInt8 → Option (List (List UInt8 × Nat))
  | _, [] => some []
  | 0, _ => none
  | fuel + 1, bs => do
    let (topic, bs) ← string bs
    match bs with
    | qos :: bs => if qos.toNat ≤ 2 then (filters fuel bs).map ((topic, qos.toNat) :: ·) else none
    | [] => none

/-- There is at least one filter. -/
def subscribe (bs : List UInt8) : Option ClientPacket := do
  let (id, bs) ← packetId bs
  let fs ← filters bs.length bs
  if fs = [] then none else some (.subscribe id fs)

def body (header : UInt8) (bs : List UInt8) : Option ClientPacket :=
  if header = 0x10 then (connect bs).map .connect
  else if header.toNat / 16 = 3 then publish (header.toNat % 16) bs
  else if header = 0x82 then subscribe bs
  else if header = 0xE0 ∧ bs = [] then some .disconnect
  else none

def packet : List UInt8 → Option (ClientPacket × List UInt8)
  | [] => none
  | header :: bs => do
    let (n, rest) ← length 4 bs
    if n ≤ rest.length then (body header (rest.take n)).map fun p => (p, rest.drop n) else none

/-- The bytes are these packets, one after another. -/
inductive Reads : List UInt8 → List ClientPacket → Prop
  | nil : Reads [] []
  | cons {bs rest : List UInt8} {p : ClientPacket} {ps : List ClientPacket} :
      packet bs = some (p, rest) → Reads rest ps → Reads bs (p :: ps)

/-! ## Reading what is written -/

/-- The two bytes of a number. -/
def twoBytes (n : Nat) : List UInt8 := [UInt8.ofNat (n / 256), UInt8.ofNat (n % 256)]

theorem number_twoBytes {n : Nat} (h : n < 65536) (rest : List UInt8) : number (twoBytes n ++ rest) = some (n, rest) := by
  have hhigh := Varint.toNat_ofNat (n := n / 256) (by omega)
  have hlow := Varint.toNat_ofNat (n := n % 256) (by omega)
  simp only [twoBytes, List.cons_append, List.nil_append, number, hhigh, hlow]
  rw [Nat.div_add_mod']

theorem string_twoBytes {s : List UInt8} (h : s.length < 65536) (rest : List UInt8) :
    string (twoBytes s.length ++ (s ++ rest)) = some (s, rest) := by
  simp [string, number_twoBytes h]

theorem packetId_twoBytes {n : Nat} (h : n < 65536) (rest : List UInt8) :
    packetId (twoBytes n ++ rest) = if n = 0 then none else some (n, rest) := by
  rw [packetId, number_twoBytes h]
  by_cases hn : n = 0
  · simp [hn]
  · simp [hn]

theorem length_varint {bs : List UInt8} {n : Nat} (h : Varint bs n) {k : Nat} (hk : bs.length ≤ k) (rest : List UInt8) :
    length k (bs ++ rest) = some (n, rest) := by
  induction h generalizing k with
  | last b hb =>
    obtain ⟨k, rfl⟩ := Nat.exists_eq_add_of_le' hk
    simp [length, hb]
  | @more b hb bs n _ ih =>
    rw [List.length_cons] at hk
    obtain ⟨k, rfl⟩ := Nat.exists_eq_add_of_le' (Nat.le_of_add_left_le hk)
    rw [List.cons_append, length, if_neg (by omega), ih (by omega), Option.map_some]

/-- A packet with its length before it is read as its fields are. -/
theorem packet_encode (header : UInt8) {v : List UInt8} (hv : v.length < 2 ^ 28) (rest : List UInt8) :
    packet (header :: (Varint.encode v.length ++ (v ++ rest))) = (body header v).map fun p => (p, rest) := by
  have hlen := Varint.length_encode_le (k := 4) (by omega) (show v.length < 128 ^ 4 by omega)
  rw [packet, length_varint (Varint.encode_varint v.length) hlen]
  simp

/-! ## Streams of packets -/

/-- What is written with its length before it. -/
structure Frame where
  header : UInt8
  body : List UInt8
  fits : body.length < 2 ^ 28

def Frame.bytes (f : Frame) : List UInt8 := f.header :: (Varint.encode f.body.length ++ f.body)

/-- The packet a frame is read as. -/
def Frame.packet (f : Frame) : Option ClientPacket := MqttServer.body f.header f.body

def stream (fs : List Frame) : List UInt8 := fs.flatMap Frame.bytes

theorem stream_concat (fs : List Frame) (f : Frame) : stream (fs ++ [f]) = stream fs ++ f.bytes := by
  simp [stream]

/-- A stream is read frame by frame. -/
theorem reads_stream_iff {fs : List Frame} {ps : List ClientPacket} :
    Reads (stream fs) ps ↔ List.Forall₂ (fun f p => f.packet = some p) fs ps := by
  induction fs generalizing ps with
  | nil =>
    rw [List.forall₂_nil_left_iff]
    constructor
    · intro h
      cases h with
      | nil => rfl
      | cons hp => cases hp
    · rintro rfl
      exact .nil
  | cons f fs ih =>
    have hpacket : packet (stream (f :: fs)) = f.packet.map fun p => (p, stream fs) := by
      have hbytes : stream (f :: fs) = f.header :: (Varint.encode f.body.length ++ (f.body ++ stream fs)) := by
        simp [stream, Frame.bytes]
      rw [hbytes, packet_encode f.header f.fits, Frame.packet]
    rw [List.forall₂_cons_left_iff]
    constructor
    · intro h
      cases h with
      | cons hp hps =>
        rw [hpacket, Option.map_eq_some_iff] at hp
        obtain ⟨q, hq, heq⟩ := hp
        cases heq
        exact ⟨_, _, hq, ih.1 hps, rfl⟩
    · rintro ⟨p, ps, hp, hps, rfl⟩
      rw [hp] at hpacket
      exact .cons hpacket (ih.2 hps)

theorem forall₂_concat {α β : Type} {R : α → β → Prop} {as : List α} {bs : List β} {a : α} {b : β} :
    List.Forall₂ R (as ++ [a]) (bs ++ [b]) ↔ List.Forall₂ R as bs ∧ R a b := by
  rw [← List.forall₂_reverse_iff, List.reverse_concat', List.reverse_concat', List.forall₂_cons,
    List.forall₂_reverse_iff, and_comm]

/-- One more frame is read as one more packet. -/
theorem reads_concat_iff {fs : List Frame} {f : Frame} {ps : List ClientPacket} {p : ClientPacket} :
    Reads (stream fs ++ f.bytes) (ps ++ [p]) ↔ Reads (stream fs) ps ∧ f.packet = some p := by
  rw [← stream_concat, reads_stream_iff, reads_stream_iff, forall₂_concat]

theorem reads_frame_iff {f : Frame} {p : ClientPacket} : Reads f.bytes [p] ↔ f.packet = some p := by
  have hstream : f.bytes = stream [f] := (List.append_nil _).symm
  rw [hstream, reads_stream_iff]
  simp

/-! ## Sessions -/

/-- What may stand between the first packet and the last. -/
def ClientPacket.Ordinary : ClientPacket → Prop
  | publish .. | subscribe .. => True
  | connect _ | disconnect => False

/-- A CONNECT and no other one, and a DISCONNECT only at the end. -/
inductive Session : List ClientPacket → Prop
  | running {c : Connect} {ps : List ClientPacket} : (∀ p ∈ ps, p.Ordinary) → Session (.connect c :: ps)
  | ended {c : Connect} {ps : List ClientPacket} : (∀ p ∈ ps, p.Ordinary) → Session (.connect c :: ps ++ [.disconnect])

end MqttServer
