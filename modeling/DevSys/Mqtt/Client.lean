import DevSys.Common.Types
import DevSys.Lib.Socket
import DevSys.Lib.Varint
/-!
# `MqttClient`

The embedded MQTT 3.1.1 client: what `publish` writes, and what the receive
thread makes of the bytes that arrive. The message callback is set, and the
thread is not asked to stop.
-/
open Cxx Net

namespace DevSys

/-- Why the receive path stops. -/
inductive Stop where
  /-- `recv` got nothing. -/
  | disconnected
  /-- A shift by 32 or more, or an index past the end. -/
  | undefined
  /-- `substr` threw. -/
  | out_of_range
  deriving DecidableEq, Repr

structure MqttClient where
  connected : Bool := false
  fd : Int := -1
  pid_counter : UInt16 := 1
  deriving DecidableEq, Repr

namespace MqttClient

/-! ## Writing -/

/-- The remaining length. -/
def el (l : Nat) : Bytes :=
  let b := l &&& 0x7F
  let l' := l >>> 7
  if h : l' ≠ 0 then UInt8.ofNat (b ||| 0x80) :: el l' else [UInt8.ofNat b]
termination_by l
decreasing_by
  simp only [l', Nat.shiftRight_eq_div_pow] at h ⊢
  omega

/-- The two bytes of a number in network order. -/
def htons (n : UInt16) : Bytes := [(n >>> 8).toUInt8, n.toUInt8]

def es (s : Bytes) : Bytes := htons (UInt16.ofNat s.length) ++ s

/-- The body of a PUBLISH: the packet id is only there for `q > 0`. -/
def publish_body (t p : Bytes) (q : Int32) (pid : UInt16) : Bytes :=
  es t ++ (if q > 0 then htons pid else []) ++ p

def publish_header (q : Int32) : UInt8 := castUInt8 ((0x30 : Int32) ||| q <<< 1)

/-- The status, the bytes sent and the client afterwards. -/
def publish (t p : Bytes) (q : Int32) (s : MqttClient) : StatusCode × Bytes × MqttClient :=
  if ¬s.connected ∨ s.fd < 0 then (.COMM_DISCONNECTED, [], s)
  else
    let v := publish_body t p q s.pid_counter
    let s := if q > 0 then { s with pid_counter := s.pid_counter + 1 } else s
    (.OK, publish_header q :: (el (v.length % 2 ^ 32) ++ v), s)

/-- The body of a SUBSCRIBE to one topic. -/
def subscribe_body (t : Bytes) (q : Int32) (pid : UInt16) : Bytes := htons pid ++ es t ++ [castUInt8 q]

def subscribe (t : Bytes) (q : Int32) (s : MqttClient) : StatusCode × Bytes × MqttClient :=
  if ¬s.connected ∨ s.fd < 0 then (.COMM_DISCONNECTED, [], s)
  else
    let v := subscribe_body t q s.pid_counter
    (.OK, 0x82 :: (el (v.length % 2 ^ 32) ++ v), { s with pid_counter := s.pid_counter + 1 })

/-! ## Reading -/

/-- Read exactly `n` bytes. -/
def re (n : Nat) (s : Socket) : Except Stop (Bytes × Socket) :=
  if _h : n = 0 then .ok ([], s)
  else
    match recv n s with
    | (some (b :: got), s) => do
      let (rest, s) ← re (n - (got.length + 1)) s
      .ok (b :: got ++ rest, s)
    | _ => .error .disconnected
termination_by n
decreasing_by omega

def read_byte (s : Socket) : Except Stop (UInt8 × Socket) := do
  let (bs, s) ← re 1 s
  .ok (bs.headD 0, s)

/-- The loop over the bytes of the remaining length. -/
def rp_length (l sh : Nat) (s : Socket) : Except Stop (Nat × Socket) := do
  let (b, s) ← read_byte s
  if _h : 32 ≤ sh then .error .undefined
  else
    let l := (l ||| (b.toNat &&& 0x7F) <<< sh) % 2 ^ 32
    if b &&& 0x80 = 0 then .ok (l, s) else rp_length l (sh + 7) s
termination_by 32 - sh
decreasing_by omega

/-- Read a packet: its type nibble and its body. -/
def rp (s : Socket) : Except Stop ((UInt8 × Bytes) × Socket) := do
  let (h, s) ← read_byte s
  let (l, s) ← rp_length 0 0 s
  let (pl, s) ← re l s
  .ok ((h >>> 4, pl), s)

/-- `s[i]`, which is a null byte just past the end. -/
def str_at (s : Bytes) (i : Nat) : Except Stop UInt8 :=
  match (s ++ [0])[i]? with
  | some b => .ok b
  | none => .error .undefined

/-- `s.substr(pos, n)`. -/
def substr (s : Bytes) (pos n : Nat) : Except Stop Bytes :=
  if pos > s.length then .error .out_of_range else .ok ((s.drop pos).take n)

/-- The topic and the payload that a PUBLISH is reported with. -/
def on_publish (tp : UInt8) (pl : Bytes) : Except Stop (Bytes × Bytes) := do
  let b0 ← str_at pl 0
  let b1 ← str_at pl 1
  let tl := b0.toNat <<< 8 ||| b1.toNat
  let topic ← substr pl 2 tl
  let po := 2 + tl
  -- the type nibble without the flags of the header
  let po := if (tp >>> 1) &&& 1 ≠ 0 then po + 2 else po
  let payload ← substr pl po pl.length
  .ok (topic, payload)

/-! ## Bytes used up -/

theorem re_size {n : Nat} {s s' : Socket} {bs : Bytes} (h : re n s = .ok (bs, s')) : size s' + n = size s := by
  induction n using Nat.strong_induction_on generalizing s s' bs with
  | _ n ih =>
    rw [re] at h
    split at h
    · cases h
      omega
    · split at h
      · rename_i hn b got s₁ hr
        obtain ⟨⟨rest, s₂⟩, hre, h⟩ := bind_eq_ok.1 h
        cases h
        have hrest := ih _ (by omega) hre
        have hsize := recv_size hr
        have hgot := recv_length_le hr
        rw [List.length_cons] at hsize hgot
        omega
      · cases h

theorem read_byte_size {s s' : Socket} {b : UInt8} (h : read_byte s = .ok (b, s')) : size s' + 1 = size s := by
  obtain ⟨⟨bs, s₁⟩, hre, h⟩ := bind_eq_ok.1 h
  cases h
  exact re_size hre

theorem rp_length_size {l sh l' : Nat} {s s' : Socket} (h : rp_length l sh s = .ok (l', s')) : size s' < size s := by
  induction l, sh, s using rp_length.induct with
  | case1 l sh s ih =>
    rw [rp_length] at h
    obtain ⟨⟨b, s₁⟩, hb, h⟩ := bind_eq_ok.1 h
    have hsize := read_byte_size hb
    dsimp only at h
    split at h
    · cases h
    · rename_i hsh
      split at h
      · cases h
        omega
      · have := ih b s₁ hsh h
        omega

theorem rp_size {s s' : Socket} {packet : UInt8 × Bytes} (h : rp s = .ok (packet, s')) : size s' < size s := by
  obtain ⟨⟨b, s₁⟩, hb, h⟩ := bind_eq_ok.1 h
  obtain ⟨⟨l, s₂⟩, hl, h⟩ := bind_eq_ok.1 h
  obtain ⟨⟨pl, s₃⟩, hpl, h⟩ := bind_eq_ok.1 h
  cases h
  have h1 := read_byte_size hb
  have h2 := rp_length_size hl
  have h3 := re_size hpl
  omega

/-! ## The receive thread -/

/-- The messages reported, and why the thread stopped. -/
def recv_thread (s : Socket) : List (Bytes × Bytes) × Stop :=
  match _h : rp s with
  | .error e => ([], e)
  | .ok ((tp, pl), s') =>
    if tp = 3 then
      match on_publish tp pl with
      | .error e => ([], e)
      | .ok message => let (messages, e) := recv_thread s'; (message :: messages, e)
    else recv_thread s'
termination_by size s
decreasing_by all_goals exact rp_size _h

end MqttClient

end DevSys
