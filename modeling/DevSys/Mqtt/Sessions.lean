import DevSys.Lib.MqttServer
import DevSys.Lib.Returns
import DevSys.Lib.Runs
import DevSys.Mqtt.Framing
/-!
# Sessions with the broker

All that the embedded client sends on its connections, and what a broker makes
of it. The flags of CONNECT have the will at QoS 1, the password only next to a
user name, and PUBLISH never has the retain flag.
-/
open Cxx Net Runs MqttServer

namespace DevSys

/-- The client with its will, the thread that receives, what it sent on its
descriptor, and what it sent on those that are closed. -/
structure Link where
  client : MqttClient := {}
  will_topic : Bytes := []
  will_payload : Bytes := []
  will_qos : Int32 := 1
  joinable : Bool := false
  sent : Bytes := []
  closed : List Bytes := []

namespace Link
open MqttClient

/-! ## CONNECT and DISCONNECT -/

def connect_flags (has_will : Bool) (usr pwd : Bytes) : UInt8 :=
  let flg : UInt8 := 0x02
  let flg := if usr ≠ [] then (if pwd ≠ [] then flg ||| 0x80 ||| 0x40 else flg ||| 0x80) else flg
  if has_will then flg ||| 0x04 ||| (1 : UInt8) <<< (3 : UInt8) else flg

def connect_body (s : Link) (c usr pwd : Bytes) : Bytes :=
  let has_will := s.will_topic ≠ []
  [0x00, 0x04, 0x4D, 0x51, 0x54, 0x54, 0x04, connect_flags has_will usr pwd, 0x00, 0x3C] ++ es c ++
    (if has_will then es s.will_topic ++ es s.will_payload else []) ++
    (if usr ≠ [] then es usr ++ (if pwd ≠ [] then es pwd else []) else [])

/-- The whole packet. -/
def connect_packet (s : Link) (c usr pwd : Bytes) : Bytes :=
  let v := s.connect_body c usr pwd
  0x10 :: (el (v.length % 2 ^ 32) ++ v)

/-- The URI behind its scheme. -/
def authority (uri : Str) : Str :=
  if find "tcp://".toList uri = some 0 then uri.drop 6
  else if find "mqtt://".toList uri = some 0 then uri.drop 7
  else uri

/-- The host and the port. -/
def parse_uri (uri : Str) : Except Exn (Str × Int32) :=
  let s := authority uri
  match find [':'] s with
  | some p => do
    let port ← stoi (s.drop (p + 1))
    .ok (s.take p, port)
  | none => .ok (if s ≠ [] then s else "127.0.0.1".toList, 1883)

/-- The answer of the broker lets the client in. -/
def connack (answer : Socket) : Bool :=
  match rp answer with
  | .ok ((tp, pl), _) => tp = 2 ∧ 2 ≤ pl.length ∧ pl.getD 1 0 = 0
  | .error _ => false

/-- How a call ends that does not return. -/
inductive Halt where
  | thrown (e : Exn)
  /-- A `send` finds the connection reset. -/
  | sigpipe
  /-- The thread is given a new function while it is joinable. -/
  | terminate
  deriving DecidableEq, Repr

/-- `network` gives the descriptors that are connected to a host and a port. No
`send` of the client has its result read. -/
def connect (network : Str → Int32 → Option Nat) (u : Str) (c usr pwd : Bytes) (out : Send) (answer : Socket) (s : Link) :
    Except Halt (StatusCode × Link) :=
  match parse_uri u with
  | .error e => .error (.thrown e)
  | .ok (host, port) =>
    match network host port with
    | none => .ok (.COMM_DISCONNECTED, s)
    | some fd =>
      match out.taken (s.connect_packet c usr pwd) with
      | none => .error .sigpipe
      | some pk =>
        if ¬connack answer then .ok (.COMM_DISCONNECTED, { s with closed := s.closed ++ [pk] })
        else if s.joinable then .error .terminate
        else .ok (.OK, { s with client := { s.client with connected := true, fd }, joinable := true, sent := pk })

def disconnect (out : Send) (s : Link) : Except Halt Link :=
  if 0 ≤ s.client.fd then
    match out.taken [0xE0, 0x00] with
    | none => .error .sigpipe
    | some d =>
      .ok
        { s with
          client := { s.client with connected := false, fd := -1 }
          joinable := false
          sent := []
          closed := s.closed ++ [s.sent ++ d] }
  else .ok { s with client := { s.client with connected := false }, joinable := false }

/-- What is sent is kept next to the client; a call that is refused sends nothing. -/
def put (out : Send) (s : Link) : StatusCode × Bytes × MqttClient → Except Halt Link
  | (.OK, pk, client) =>
    match out.taken pk with
    | none => .error .sigpipe
    | some pk => .ok { s with client, sent := s.sent ++ pk }
  | (_, _, client) => .ok { s with client }

/-! ## Calls -/

inductive Op where
  | set_will_message (t p : Bytes) (q : Int32)
  | connect (network : Str → Int32 → Option Nat) (u : Str) (c usr pwd : Bytes) (out : Send) (answer : Socket)
  | publish (t p : Bytes) (q : Int32) (retain : Bool) (out : Send)
  | subscribe (t : Bytes) (q : Int32) (out : Send)
  /-- The receive thread finds the end of the stream. -/
  | lost
  | disconnect (out : Send)

/-- The state after a call, unless it does not return. -/
def Op.apply : Op → Link → Except Halt Link
  | .set_will_message t p q, s => .ok { s with will_topic := t, will_payload := p, will_qos := q }
  | .connect network u c usr pwd out answer, s => (s.connect network u c usr pwd out answer).map (·.2)
  | .publish t p q _ out, s => s.put out (s.client.publish t p q)
  | .subscribe t q out, s => s.put out (s.client.subscribe t q)
  | .lost, s => .ok { s with client := { s.client with connected := false } }
  | .disconnect out, s => s.disconnect out

def OpStep (s : Link) (op : Op) (s' : Link) : Prop := op.apply s = .ok s'

/-- The streams that are closed, and the one that is open. -/
def streams (s : Link) : List Bytes := s.closed ++ [s.sent]

/-! ## What was asked for -/

/-- The packets of the open connection, and those of the closed ones. -/
structure Asked where
  current : List ClientPacket := []
  ended : List (List ClientPacket) := []

def Asked.sessions (a : Asked) : List (List ClientPacket) := a.ended ++ [a.current]

/-- A string, unless it is empty. -/
def given (s : Bytes) : Option Bytes := if s = [] then none else some s

/-- The CONNECT that a call asks for. -/
def asked_connect (s : Link) (c usr pwd : Bytes) : ClientPacket :=
  .connect
    { client_id := c
      keep_alive := 60
      clean := true
      will := (given s.will_topic).map fun t => ⟨t, s.will_payload, s.will_qos.toNatClampNeg, false⟩
      username := given usr
      password := given pwd }

def asked_publish (s : Link) (t p : Bytes) (q : Int32) (retain : Bool) : ClientPacket :=
  .publish t p q.toNatClampNeg retain false (if q > 0 then some s.client.pid_counter.toNat else none)

def asked_subscribe (s : Link) (t : Bytes) (q : Int32) : ClientPacket :=
  .subscribe s.client.pid_counter.toNat [(t, q.toNatClampNeg)]

/-- The client takes calls. -/
def Open (s : Link) : Prop := s.client.connected ∧ 0 ≤ s.client.fd

instance (s : Link) : Decidable s.Open := inferInstanceAs (Decidable (_ ∧ _))

/-- The descriptor that is connected to the broker. -/
def reached (network : Str → Int32 → Option Nat) (u : Str) : Option Nat :=
  match parse_uri u with
  | .ok (host, port) => network host port
  | .error _ => none

def Asked.note (a : Asked) (s : Link) : Op → Asked
  | .connect network u c usr pwd _ answer =>
    if reached network u = none then a
    else if connack answer then { a with current := [s.asked_connect c usr pwd] }
    else { a with ended := a.ended ++ [[s.asked_connect c usr pwd]] }
  | .publish t p q retain _ => if s.Open then { a with current := a.current ++ [s.asked_publish t p q retain] } else a
  | .subscribe t q _ => if s.Open then { a with current := a.current ++ [s.asked_subscribe t q] } else a
  | .disconnect _ => if 0 ≤ s.client.fd then { current := [], ended := a.ended ++ [a.current ++ [.disconnect]] } else a
  | _ => a

def asked (tr : List (Link × Op)) : Asked := tr.foldl (fun a x => a.note x.1 x.2) {}

theorem asked_snoc (tr : List (Link × Op)) (s : Link) (op : Op) : asked (tr ++ [(s, op)]) = (asked tr).note s op := by
  rw [asked, List.foldl_append]
  rfl

/-- A quality of service, or what there is of it in the protocol. -/
def Qos (q : Int32) : Prop := q = 0 ∨ q = 1 ∨ q = 2

/-- What the packets have room for, and an answer that no byte of is read out of
the range of the length. -/
def Op.Fits : Op → Prop
  | .set_will_message t p q => t.length < 65536 ∧ p.length < 65536 ∧ Qos q
  | .connect _ _ c usr pwd _ answer =>
    c.length < 65536 ∧ usr.length < 65536 ∧ pwd.length < 65536 ∧ rp answer ≠ .error .undefined
  | .publish t p q _ _ => t.length < 65536 ∧ (publish_body t p q 0).length < 2 ^ 28 ∧ Qos q
  | .subscribe t q _ => t.length < 65536 ∧ Qos q
  | .lost | .disconnect _ => True

/-- A `send` takes the whole packet. -/
def Op.Whole (s : Link) : Op → Prop
  | .connect network u c usr pwd out _ =>
    reached network u ≠ none → out.taken (s.connect_packet c usr pwd) = some (s.connect_packet c usr pwd)
  | .publish t p q _ out => s.Open → out.taken (s.client.publish t p q).2.1 = some (s.client.publish t p q).2.1
  | .subscribe t q out => s.Open → out.taken (s.client.subscribe t q).2.1 = some (s.client.subscribe t q).2.1
  | .disconnect out => 0 ≤ s.client.fd → out.taken [(0xE0 : UInt8), 0x00] = some [0xE0, 0x00]
  | _ => True

/-- The will has QoS 1, a password comes with a user name, nothing is to be
retained, and the counter does not stand at 0 where a packet id is needed. -/
def Op.Kept (s : Link) : Op → Prop
  | .connect network u _ usr pwd _ _ =>
    reached network u ≠ none → (s.will_topic = [] ∨ s.will_qos = 1) ∧ (usr = [] → pwd = [])
  | .publish _ _ q retain _ => s.Open → retain = false ∧ (q > 0 → s.client.pid_counter ≠ 0)
  | .subscribe .. => s.Open → s.client.pid_counter ≠ 0
  | _ => True

/-- The port, where the URI has one, is a number. -/
def UriReadable (u : Str) : Prop := ∀ host rest, authority u = host ++ ':' :: rest → ':' ∉ host → IsIntText 32 rest

/-- A port that is no number, a connection that was reset, or a broker that lets
the client in while an earlier connection was not disconnected. -/
def Op.Halts (s : Link) : Op → Prop
  | .connect network u _ _ _ out answer =>
    ¬UriReadable u ∨ reached network u ≠ none ∧ (out = .broken ∨ connack answer ∧ 0 ≤ s.client.fd)
  | .publish _ _ _ _ out | .subscribe _ _ out => s.Open ∧ out = .broken
  | .disconnect out => 0 ≤ s.client.fd ∧ out = .broken
  | _ => False

/-! ## The fields as the broker reads them -/

theorem htons_eq (n : UInt16) : htons n = twoBytes n.toNat := by
  have hhigh : (n >>> 8).toUInt8 = UInt8.ofNat (n.toNat / 256) := by
    apply UInt8.toNat_inj.1
    rw [UInt16.toNat_toUInt8, UInt16.toNat_shiftRight, show UInt16.toNat 8 % 16 = 8 from rfl,
      Nat.shiftRight_eq_div_pow, UInt8.toNat_ofNat']
  have hlow : n.toUInt8 = UInt8.ofNat (n.toNat % 256) := by
    apply UInt8.toNat_inj.1
    rw [UInt16.toNat_toUInt8, UInt8.toNat_ofNat']
    omega
  rw [htons, twoBytes, hhigh, hlow]

theorem es_eq {s : Bytes} (h : s.length < 65536) : es s = twoBytes s.length ++ s := by
  rw [es, htons_eq, UInt16.toNat_ofNat', Nat.mod_eq_of_lt h]

/-- A string that is written is read back. -/
theorem string_es {s : Bytes} (h : s.length < 65536) (rest : Bytes) : MqttServer.string (es s ++ rest) = some (s, rest) := by
  rw [es_eq h, List.append_assoc, string_twoBytes h]

theorem packetId_htons (n : UInt16) (rest : Bytes) :
    packetId (htons n ++ rest) = if n = 0 then none else some (n.toNat, rest) := by
  have hzero : n.toNat = 0 ↔ n = 0 := by
    rw [← UInt16.toNat_inj]
    rfl
  rw [htons_eq, packetId_twoBytes n.toNat_lt]
  simp only [hzero]

theorem length_es (s : Bytes) : (es s).length = s.length + 2 := by
  simp [es, htons]

/-! ## Each packet as the broker reads it -/

theorem body_publish {t p : Bytes} {q : Int32} (ht : t.length < 65536) (hq : Qos q) (id : UInt16) :
    MqttServer.body (publish_header q) (publish_body t p q id) =
      if q > 0 ∧ id = 0 then none
      else some (.publish t p q.toNatClampNeg false false (if q > 0 then some id.toNat else none)) := by
  rw [publish_body, List.append_assoc]
  rcases hq with rfl | rfl | rfl
  · have hheader : publish_header 0 = 0x30 := by decide
    have hq : ¬(0 : Int32) > 0 := by decide
    rw [hheader, if_neg hq, if_neg (fun h => hq h.1), if_neg hq]
    simp [MqttServer.body, MqttServer.publish, string_es ht]
  · have hheader : publish_header 1 = 0x32 := by decide
    have hq : (1 : Int32) > 0 := by decide
    rw [hheader, if_pos hq, if_pos hq]
    have hflags : Nat.testBit 2 3 = false := by decide
    by_cases hid : id = 0
    · simp [MqttServer.body, MqttServer.publish, string_es ht, packetId_htons, hid]
    · simp [MqttServer.body, MqttServer.publish, string_es ht, packetId_htons, hid, hflags]
  · have hheader : publish_header 2 = 0x34 := by decide
    have hq : (2 : Int32) > 0 := by decide
    rw [hheader, if_pos hq, if_pos hq]
    have hflags : Nat.testBit 4 3 = false := by decide
    by_cases hid : id = 0
    · simp [MqttServer.body, MqttServer.publish, string_es ht, packetId_htons, hid]
    · simp [MqttServer.body, MqttServer.publish, string_es ht, packetId_htons, hid, hflags]

theorem body_subscribe {t : Bytes} {q : Int32} (ht : t.length < 65536) (hq : Qos q) (id : UInt16) :
    MqttServer.body 0x82 (subscribe_body t q id) =
      if id = 0 then none else some (.subscribe id.toNat [(t, q.toNatClampNeg)]) := by
  have hqos : (castUInt8 q).toNat = q.toNatClampNeg ∧ q.toNatClampNeg ≤ 2 := by
    rcases hq with rfl | rfl | rfl <;> decide
  have hfilters (n : Nat) : filters (n + 1) (es t ++ [castUInt8 q]) = some [(t, q.toNatClampNeg)] := by
    cases n <;> simp [filters, string_es ht, hqos]
  have hlen : ∃ n, (es t ++ [castUInt8 q]).length = n + 1 := ⟨(es t).length, List.length_append⟩
  obtain ⟨n, hn⟩ := hlen
  rw [subscribe_body, List.append_assoc]
  by_cases hid : id = 0
  · simp [MqttServer.body, MqttServer.subscribe, packetId_htons, hid]
  · simp [MqttServer.body, MqttServer.subscribe, packetId_htons, hid, hn, hfilters]

/-- The bits of the flags, the lowest first. -/
theorem connect_flags_bits (w : Bool) (usr pwd : Bytes) :
    let flags := (connect_flags w usr pwd).toNat
    flags.testBit 0 = false ∧ flags.testBit 1 = true ∧ flags.testBit 2 = w ∧ flags / 8 % 4 = w.toNat ∧
      flags.testBit 5 = false ∧ flags.testBit 6 = decide (usr ≠ [] ∧ pwd ≠ []) ∧ flags.testBit 7 = decide (usr ≠ []) := by
  by_cases hu : usr = []
  · cases w <;> simp [connect_flags, hu] <;> decide
  · by_cases hp : pwd = []
    · cases w <;> simp [connect_flags, hu, hp] <;> decide
    · cases w <;> simp [connect_flags, hu, hp] <;> decide

theorem string?_given {s : Bytes} (hs : s.length < 65536) (rest : Bytes) :
    string? (decide (s ≠ [])) ((if s ≠ [] then es s else []) ++ rest) = some (given s, rest) := by
  by_cases h : s = []
  · simp [string?, given, h]
  · simp [string?, given, h, string_es hs]

theorem will?_given {flags : Nat} {t p : Bytes} (hflag : flags.testBit 2 = decide (t ≠ []))
    (hqos : flags / 8 % 4 = (decide (t ≠ [])).toNat) (hretain : flags.testBit 5 = false) (ht : t.length < 65536)
    (hp : p.length < 65536) (rest : Bytes) :
    will? flags ((if t ≠ [] then es t ++ es p else []) ++ rest) =
      some ((given t).map fun t => ⟨t, p, 1, false⟩, rest) := by
  rw [will?, hflag, hqos, hretain]
  by_cases h : t = []
  · simp [given, h]
  · simp [given, h, string_es ht, string_es hp]

theorem password_given {usr pwd : Bytes} (hp : pwd.length < 65536) :
    string? (decide (usr ≠ [] ∧ pwd ≠ [])) (if usr ≠ [] then (if pwd ≠ [] then es pwd else []) else []) =
      some (if usr = [] then none else given pwd, []) := by
  by_cases h : usr = []
  · simp [h, string?]
  · have hgiven := string?_given hp []
    simpa [h] using hgiven

/-- The CONNECT that the broker is told. -/
def told_connect (s : Link) (c usr pwd : Bytes) : Connect :=
  { client_id := c
    keep_alive := 60
    clean := true
    will := (given s.will_topic).map fun t => ⟨t, s.will_payload, 1, false⟩
    username := given usr
    password := if usr = [] then none else given pwd }

theorem body_connect {s : Link} {c usr pwd : Bytes} (hwt : s.will_topic.length < 65536)
    (hwp : s.will_payload.length < 65536) (hc : c.length < 65536) (hu : usr.length < 65536) (hp : pwd.length < 65536) :
    MqttServer.body 0x10 (s.connect_body c usr pwd) = some (.connect (s.told_connect c usr pwd)) := by
  obtain ⟨h0, h1, h2, hqos, h5, h6, h7⟩ := connect_flags_bits (decide (s.will_topic ≠ [])) usr pwd
  have hfields : (if usr ≠ [] then es usr ++ (if pwd ≠ [] then es pwd else []) else []) =
      (if usr ≠ [] then es usr else []) ++ (if usr ≠ [] then (if pwd ≠ [] then es pwd else []) else []) := by
    split <;> rfl
  have hparts : MqttServer.body 0x10 (s.connect_body c usr pwd) =
      (connectFields (connect_flags (decide (s.will_topic ≠ [])) usr pwd).toNat (0x00 :: 0x3C :: (es c ++
        ((if s.will_topic ≠ [] then es s.will_topic ++ es s.will_payload else []) ++
          ((if usr ≠ [] then es usr else []) ++
            (if usr ≠ [] then (if pwd ≠ [] then es pwd else []) else [])))))).map .connect := by
    rw [connect_body, hfields]
    simp [MqttServer.body, MqttServer.connect]
  have hpair : ¬(false = true ∨ decide (usr ≠ [] ∧ pwd ≠ []) = true ∧ ¬decide (usr ≠ []) = true ∨ ([] : Bytes) ≠ []) := by
    rintro (h | ⟨h, hnot⟩ | h)
    · cases h
    · simp only [decide_eq_true_iff] at h hnot
      exact hnot h.1
    · exact h rfl
  have hkeep (rest : Bytes) : number (0x00 :: 0x3C :: rest) = some (60, rest) := rfl
  rw [hparts, connectFields, hkeep, h0, h1, h6, h7]
  simp only [Option.bind_eq_bind, Option.bind_some, string_es hc, will?_given h2 hqos h5 hwt hwp, string?_given hu,
    password_given hp]
  rw [if_neg hpair]
  rfl

/-! ## What is told and what was asked -/

theorem toNatClampNeg_eq_one_iff {q : Int32} (hq : Qos q) : q.toNatClampNeg = 1 ↔ q = 1 := by
  rcases hq with rfl | rfl | rfl <;> decide

theorem given_eq_none_iff (s : Bytes) : given s = none ↔ s = [] := by
  rw [given]
  split <;> simp [*]

theorem told_connect_iff {s : Link} (hq : Qos s.will_qos) (c usr pwd : Bytes) :
    ClientPacket.connect (s.told_connect c usr pwd) = s.asked_connect c usr pwd ↔
      (s.will_topic = [] ∨ s.will_qos = 1) ∧ (usr = [] → pwd = []) := by
  have hwill : ((given s.will_topic).map fun t => (⟨t, s.will_payload, 1, false⟩ : Will)) =
      ((given s.will_topic).map fun t => ⟨t, s.will_payload, s.will_qos.toNatClampNeg, false⟩) ↔
      s.will_topic = [] ∨ s.will_qos = 1 := by
    by_cases h : s.will_topic = []
    · simp [given, h]
    · rw [or_iff_right h, ← toNatClampNeg_eq_one_iff hq]
      simp [given, h, eq_comm]
  have hpassword : (if usr = [] then none else given pwd) = given pwd ↔ (usr = [] → pwd = []) := by
    by_cases h : usr = []
    · rw [if_pos h, eq_comm, given_eq_none_iff]
      simp [h]
    · simp [h]
  rw [told_connect, asked_connect, ClientPacket.connect.injEq, Connect.mk.injEq, hwill, hpassword]
  simp

theorem told_publish_iff {s : Link} {t p : Bytes} {q : Int32} (ht : t.length < 65536) (hq : Qos q) (retain : Bool) :
    MqttServer.body (publish_header q) (publish_body t p q s.client.pid_counter) = some (s.asked_publish t p q retain) ↔
      retain = false ∧ (q > 0 → s.client.pid_counter ≠ 0) := by
  rw [body_publish ht hq, asked_publish]
  by_cases hid : q > 0 ∧ s.client.pid_counter = 0
  · simp [hid]
  · have hid : q > 0 → s.client.pid_counter ≠ 0 := fun hq hzero => hid ⟨hq, hzero⟩
    rw [if_neg (fun h => hid h.1 h.2), and_iff_left hid]
    simp [eq_comm]

theorem told_subscribe_iff {s : Link} {t : Bytes} {q : Int32} (ht : t.length < 65536) (hq : Qos q) :
    MqttServer.body 0x82 (subscribe_body t q s.client.pid_counter) = some (s.asked_subscribe t q) ↔
      s.client.pid_counter ≠ 0 := by
  rw [body_subscribe ht hq, asked_subscribe]
  split
  · simp [*]
  · simp [*]

/-! ## Frames -/

theorem frame_bytes {v : Bytes} (h : UInt8) (hv : v.length < 2 ^ 28) :
    h :: (el (v.length % 2 ^ 32) ++ v) = Frame.bytes ⟨h, v, hv⟩ := by
  rw [Frame.bytes, el_eq_encode, Nat.mod_eq_of_lt (by omega)]

theorem connect_packet_bytes {s : Link} {c usr pwd : Bytes} (hv : (s.connect_body c usr pwd).length < 2 ^ 28) :
    s.connect_packet c usr pwd = Frame.bytes ⟨0x10, s.connect_body c usr pwd, hv⟩ :=
  frame_bytes 0x10 hv

theorem connect_body_fits {s : Link} {c usr pwd : Bytes} (hwt : s.will_topic.length < 65536)
    (hwp : s.will_payload.length < 65536) (hc : c.length < 65536) (hu : usr.length < 65536) (hp : pwd.length < 65536) :
    (s.connect_body c usr pwd).length < 2 ^ 28 := by
  rw [connect_body]
  simp only [List.length_append, length_es, apply_ite List.length, List.length_cons, List.length_nil]
  split_ifs <;> omega

theorem publish_body_length (t p : Bytes) (q : Int32) (id : UInt16) :
    (publish_body t p q id).length = (publish_body t p q 0).length := by
  rw [publish_body, publish_body]
  split <;> simp [htons]

theorem subscribe_body_fits {t : Bytes} (ht : t.length < 65536) (q : Int32) (id : UInt16) :
    (subscribe_body t q id).length < 2 ^ 28 := by
  simp only [subscribe_body, List.length_append, length_es, htons, List.length_cons, List.length_nil]
  omega

/-! ## Every run -/

/-- The will has room in a CONNECT, the thread runs while there is a descriptor,
and nothing is sent without one. -/
structure Ready (s : Link) (a : Asked) : Prop where
  topic : s.will_topic.length < 65536
  payload : s.will_payload.length < 65536
  qos : Qos s.will_qos
  joinable : s.joinable ↔ 0 ≤ s.client.fd
  silent : ¬0 ≤ s.client.fd → s.sent = [] ∧ a.current = []
  running : 0 ≤ s.client.fd → ∃ c ps, a.current = .connect c :: ps ∧ ∀ p ∈ ps, p.Ordinary
  frames : ∃ fs, s.sent = stream fs
  ended : ∀ ps ∈ a.ended, Session ps

theorem ready_new : Ready {} {} where
  topic := by decide
  payload := by decide
  qos := .inr (.inl rfl)
  joinable := by decide
  silent _ := ⟨rfl, rfl⟩
  running h := absurd h (by decide)
  frames := ⟨[], rfl⟩
  ended ps h := absurd h List.not_mem_nil

/-- The broker reads what was asked for, on every connection. -/
def Told (s : Link) (a : Asked) : Prop := List.Forall₂ Reads s.streams a.sessions

/-- What a step does, for a call that is kept exactly when `kept` holds. -/
structure Moved (s : Link) (a : Asked) (s' : Link) (a' : Asked) (kept : Prop) : Prop where
  ready : Ready s' a'
  told : Told s' a' ↔ Told s a ∧ kept

/-- One more packet on the open connection. -/
theorem Ready.sent {s : Link} {a : Asked} (hi : Ready s a) (hopen : s.Open) (made : MqttClient) (hfd : made.fd = s.client.fd)
    (f : Frame) {p : ClientPacket} (hp : p.Ordinary) :
    Moved s a { s with client := made, sent := s.sent ++ f.bytes } { a with current := a.current ++ [p] }
      (f.packet = some p) := by
  obtain ⟨fs, hfs⟩ := hi.frames
  constructor
  · refine { hi with joinable := ?_, silent := ?_, running := ?_, frames := ⟨fs ++ [f], ?_⟩ }
    · simpa only [hfd] using hi.joinable
    · intro h
      exact absurd (hfd ▸ hopen.2) h
    · intro h
      obtain ⟨c, ps, hcurrent, hall⟩ := hi.running hopen.2
      refine ⟨c, ps ++ [p], ?_, ?_⟩
      · simp [hcurrent]
      · rw [List.forall_mem_append, List.forall_mem_singleton]
        exact ⟨hall, hp⟩
    · simp [hfs, stream_concat]
  · rw [Told, Told, streams, streams, Asked.sessions, Asked.sessions, forall₂_concat, forall₂_concat]
    simp only [hfs, reads_concat_iff, and_assoc]

/-- A connection that is closed with these bytes. -/
theorem Ready.closes {s : Link} {a : Asked} (hi : Ready s a) {bs : Bytes} {ps : List ClientPacket} (hps : Session ps) :
    Moved s a { s with closed := s.closed ++ [bs] } { a with ended := a.ended ++ [ps] } (Reads bs ps) := by
  constructor
  · refine { hi with ended := ?_ }
    rw [List.forall_mem_append, List.forall_mem_singleton]
    exact ⟨hi.ended, hps⟩
  · rw [Told, Told, streams, streams, Asked.sessions, Asked.sessions]
    simp only [forall₂_concat]
    exact and_right_comm

theorem Moved.of_eq {s s' : Link} {a a' : Asked} {kept : Prop} (hready : Ready s' a') (hsent : s'.sent = s.sent)
    (hclosed : s'.closed = s.closed) (ha : a' = a) (hkept : kept) : Moved s a s' a' kept := by
  refine ⟨hready, ?_⟩
  rw [Told, Told, streams, streams, hsent, hclosed, ha, and_iff_left hkept]

@[simp] theorem publish_fd (t p : Bytes) (q : Int32) (c : MqttClient) : (c.publish t p q).2.2.fd = c.fd := by
  rw [MqttClient.publish]
  split_ifs <;> rfl

@[simp] theorem subscribe_fd (t : Bytes) (q : Int32) (c : MqttClient) : (c.subscribe t q).2.2.fd = c.fd := by
  rw [MqttClient.subscribe]
  split_ifs <;> rfl

theorem put_whole {s : Link} {out : Send} {made : StatusCode × Bytes × MqttClient} (hok : made.1 = .OK)
    (hwhole : out.taken made.2.1 = some made.2.1) :
    s.put out made = .ok { s with client := made.2.2, sent := s.sent ++ made.2.1 } := by
  obtain ⟨sc, pk, client⟩ := made
  cases hok
  simp only [put, hwhole]

/-- A client that is not open refuses. -/
theorem refused_of_closed {s : Link} (hopen : ¬s.Open) : ¬s.client.connected ∨ s.client.fd < 0 := by
  by_contra h
  rw [not_or, not_not, not_lt] at h
  exact hopen h

theorem put_publish {s : Link} (hopen : ¬s.Open) (t p : Bytes) (q : Int32) (out : Send) :
    s.put out (s.client.publish t p q) = .ok s := by
  rw [MqttClient.publish, if_pos (refused_of_closed hopen)]
  rfl

theorem put_subscribe {s : Link} (hopen : ¬s.Open) (t : Bytes) (q : Int32) (out : Send) :
    s.put out (s.client.subscribe t q) = .ok s := by
  rw [MqttClient.subscribe, if_pos (refused_of_closed hopen)]
  rfl

theorem publish_ok {s : Link} (hopen : s.Open) (t p : Bytes) (q : Int32) : (s.client.publish t p q).1 = .OK := by
  rw [MqttClient.publish, if_neg fun h => h.elim (fun h => h hopen.1) (not_lt.2 hopen.2)]

theorem subscribe_ok {s : Link} (hopen : s.Open) (t : Bytes) (q : Int32) : (s.client.subscribe t q).1 = .OK := by
  rw [MqttClient.subscribe, if_neg fun h => h.elim (fun h => h hopen.1) (not_lt.2 hopen.2)]

theorem moved_publish {s s' : Link} {a : Asked} (hi : Ready s a) {t p : Bytes} {q : Int32} {retain : Bool} {out : Send}
    (hfits : (Op.publish t p q retain out).Fits) (hwhole : (Op.publish t p q retain out).Whole s)
    (h : s.put out (s.client.publish t p q) = .ok s') :
    Moved s a s' (a.note s (.publish t p q retain out)) ((Op.publish t p q retain out).Kept s) := by
  obtain ⟨ht, hbody, hq⟩ := hfits
  by_cases hopen : s.Open
  · have hv : (publish_body t p q s.client.pid_counter).length < 2 ^ 28 := by rwa [publish_body_length]
    have hsent : (s.client.publish t p q).2.1 =
        Frame.bytes ⟨publish_header q, publish_body t p q s.client.pid_counter, hv⟩ := by
      rw [publish_bytes hopen hv, Frame.bytes, el_eq_encode]
    have hkept : (Op.publish t p q retain out).Kept s ↔ retain = false ∧ (q > 0 → s.client.pid_counter ≠ 0) :=
      forall_prop_of_true hopen
    rw [put_whole (publish_ok hopen t p q) (hwhole hopen)] at h
    cases h
    rw [hsent, Asked.note, if_pos hopen, hkept, ← told_publish_iff ht hq]
    exact hi.sent hopen _ (publish_fd t p q s.client) _ trivial
  · rw [put_publish hopen] at h
    cases h
    rw [Asked.note, if_neg hopen]
    exact .of_eq hi rfl rfl rfl fun h => absurd h hopen

theorem moved_subscribe {s s' : Link} {a : Asked} (hi : Ready s a) {t : Bytes} {q : Int32} {out : Send}
    (hfits : (Op.subscribe t q out).Fits) (hwhole : (Op.subscribe t q out).Whole s)
    (h : s.put out (s.client.subscribe t q) = .ok s') :
    Moved s a s' (a.note s (.subscribe t q out)) ((Op.subscribe t q out).Kept s) := by
  obtain ⟨ht, hq⟩ := hfits
  by_cases hopen : s.Open
  · have hv := subscribe_body_fits ht q s.client.pid_counter
    have hsent : (s.client.subscribe t q).2.1 = Frame.bytes ⟨0x82, subscribe_body t q s.client.pid_counter, hv⟩ := by
      rw [subscribe_frame hopen hv, Packet.frame, Frame.bytes, el_eq_encode]
    have hkept : (Op.subscribe t q out).Kept s ↔ s.client.pid_counter ≠ 0 := forall_prop_of_true hopen
    rw [put_whole (subscribe_ok hopen t q) (hwhole hopen)] at h
    cases h
    rw [hsent, Asked.note, if_pos hopen, hkept, ← told_subscribe_iff ht hq]
    exact hi.sent hopen _ (subscribe_fd t q s.client) _ trivial
  · rw [put_subscribe hopen] at h
    cases h
    rw [Asked.note, if_neg hopen]
    exact .of_eq hi rfl rfl rfl fun h => absurd h hopen

theorem frame_disconnect (bs : Bytes) : bs ++ [0xE0, 0x00] = bs ++ Frame.bytes ⟨0xE0, [], by decide⟩ := by
  have hzero : Varint.encode 0 = [0] := by
    rw [Varint.encode]
    rfl
  simp [Frame.bytes, hzero]

theorem moved_disconnect {s s' : Link} {a : Asked} (hi : Ready s a) {out : Send} (hwhole : (Op.disconnect out).Whole s)
    (h : s.disconnect out = .ok s') : Moved s a s' (a.note s (.disconnect out)) ((Op.disconnect out).Kept s) := by
  by_cases hfd : 0 ≤ s.client.fd
  · obtain ⟨fs, hfs⟩ := hi.frames
    obtain ⟨c, ps, hcurrent, hall⟩ := hi.running hfd
    have hneg : ¬(0 : Int) ≤ -1 := by decide
    rw [disconnect, if_pos hfd, hwhole hfd] at h
    cases h
    rw [Asked.note, if_pos hfd]
    constructor
    · refine { hi with joinable := ?_, silent := ?_, running := ?_, frames := ⟨[], rfl⟩, ended := ?_ }
      · exact iff_of_false Bool.false_ne_true hneg
      · exact fun _ => ⟨rfl, rfl⟩
      · exact fun h => absurd h hneg
      · rw [List.forall_mem_append, List.forall_mem_singleton, hcurrent]
        exact ⟨hi.ended, .ended hall⟩
    · have hread : Frame.packet ⟨0xE0, [], by decide⟩ = some .disconnect := rfl
      rw [Told, Told, streams, streams, Asked.sessions, Asked.sessions, forall₂_concat, forall₂_concat, forall₂_concat]
      dsimp only
      rw [frame_disconnect, hfs, reads_concat_iff, and_iff_left Reads.nil, and_iff_left hread]
      exact (and_iff_left trivial).symm
  · rw [disconnect, if_neg hfd] at h
    cases h
    rw [Asked.note, if_neg hfd]
    refine .of_eq { hi with joinable := ?_ } rfl rfl rfl trivial
    exact iff_of_false Bool.false_ne_true hfd

/-- What `connect` does once a descriptor is connected. -/
theorem connect_reached {network : Str → Int32 → Option Nat} {u : Str} {fd : Nat} (h : reached network u = some fd)
    (c usr pwd : Bytes) (out : Send) (answer : Socket) (s : Link) :
    s.connect network u c usr pwd out answer =
      match out.taken (s.connect_packet c usr pwd) with
      | none => .error .sigpipe
      | some pk =>
        if ¬connack answer then .ok (.COMM_DISCONNECTED, { s with closed := s.closed ++ [pk] })
        else if s.joinable then .error .terminate
        else .ok (.OK, { s with client := { s.client with connected := true, fd }, joinable := true, sent := pk }) := by
  rw [reached] at h
  rw [connect]
  cases hparse : parse_uri u with
  | error e => simp [hparse] at h
  | ok address => simp only [hparse] at h; simp only [h]

/-- Without a descriptor a call that returns leaves the client as it is. -/
theorem connect_not_reached {network : Str → Int32 → Option Nat} {u : Str} (h : reached network u = none)
    {c usr pwd : Bytes} {out : Send} {answer : Socket} {s : Link} {made : StatusCode × Link}
    (hmade : s.connect network u c usr pwd out answer = .ok made) : made = (.COMM_DISCONNECTED, s) := by
  rw [reached] at h
  rw [connect] at hmade
  cases hparse : parse_uri u with
  | error e => simp [hparse] at hmade
  | ok address =>
    simp only [hparse] at h hmade
    simp only [h] at hmade
    cases hmade
    rfl

theorem moved_connect {s s' : Link} {a : Asked} (hi : Ready s a) {network : Str → Int32 → Option Nat} {u : Str}
    {c usr pwd : Bytes} {out : Send} {answer : Socket} (hfits : (Op.connect network u c usr pwd out answer).Fits)
    (hwhole : (Op.connect network u c usr pwd out answer).Whole s) {sc : StatusCode}
    (h : s.connect network u c usr pwd out answer = .ok (sc, s')) :
    Moved s a s' (a.note s (.connect network u c usr pwd out answer)) ((Op.connect network u c usr pwd out answer).Kept s) := by
  obtain ⟨hc, hu, hp, -⟩ := hfits
  rw [Asked.note, Op.Kept]
  cases hfd : reached network u with
  | none =>
    cases connect_not_reached hfd h
    rw [if_pos rfl]
    exact .of_eq hi rfl rfl rfl fun h => absurd rfl h
  | some fd =>
    have hv := connect_body_fits hi.topic hi.payload hc hu hp
    have hread : Frame.packet ⟨0x10, s.connect_body c usr pwd, hv⟩ = some (s.asked_connect c usr pwd) ↔
        (s.will_topic = [] ∨ s.will_qos = 1) ∧ (usr = [] → pwd = []) := by
      rw [Frame.packet, body_connect hi.topic hi.payload hc hu hp, Option.some.injEq, told_connect_iff hi.qos]
    have hsome : some fd ≠ none := Option.some_ne_none fd
    have htaken := hwhole (hfd ▸ hsome)
    rw [connect_reached hfd, htaken, connect_packet_bytes hv] at h
    rw [if_neg hsome, forall_prop_of_true hsome, ← hread]
    by_cases hack : connack answer
    · simp only [hack, not_true_eq_false, if_false] at h
      -- a thread that is still joinable ends the process, so that there was none
      by_cases hj : s.joinable
      · rw [if_pos hj] at h
        cases h
      · rw [if_neg hj] at h
        cases h
        obtain ⟨hsent, hcurrent⟩ := hi.silent (mt hi.joinable.2 hj)
        rw [if_pos hack]
        constructor
        · refine { hi with joinable := ?_, silent := ?_, running := ?_, frames := ⟨[_], (List.append_nil _).symm⟩ }
          · exact iff_of_true rfl (Int.natCast_nonneg fd)
          · exact fun h => absurd (Int.natCast_nonneg fd) h
          · exact fun _ => ⟨_, [], rfl, fun _ h => absurd h List.not_mem_nil⟩
        · rw [Told, Told, streams, streams, Asked.sessions, Asked.sessions, forall₂_concat, forall₂_concat, hsent, hcurrent,
            and_iff_left Reads.nil, reads_frame_iff]
    · simp only [hack, Bool.false_eq_true, not_false_eq_true, if_true] at h
      cases h
      rw [if_neg hack, ← reads_frame_iff]
      -- refused: the CONNECT is all there is of this session
      exact hi.closes (.running fun _ h => absurd h List.not_mem_nil)

theorem moved_step {s s' : Link} {a : Asked} {op : Op} (hi : Ready s a) (hfits : op.Fits) (hwhole : op.Whole s)
    (h : OpStep s op s') : Moved s a s' (a.note s op) (op.Kept s) := by
  cases op with
  | set_will_message t p q =>
    cases h
    exact .of_eq { hi with topic := hfits.1, payload := hfits.2.1, qos := hfits.2.2 } rfl rfl rfl trivial
  | connect network u c usr pwd out answer =>
    rw [OpStep, Op.apply] at h
    cases hs : s.connect network u c usr pwd out answer with
    | error e =>
      rw [hs] at h
      cases h
    | ok made =>
      rw [hs] at h
      cases h
      exact moved_connect hi hfits hwhole hs
  | publish t p q retain out => exact moved_publish hi hfits hwhole h
  | subscribe t q out => exact moved_subscribe hi hfits hwhole h
  | lost =>
    cases h
    exact .of_eq { hi with } rfl rfl rfl trivial
  | disconnect out => exact moved_disconnect hi hwhole h

theorem told_run {tr : List (Link × Op)} {s : Link} (h : Run OpStep {} tr s) (hfits : ∀ p ∈ tr, p.2.Fits)
    (hwhole : ∀ p ∈ tr, p.2.Whole p.1) :
    Ready s (asked tr) ∧ (Told s (asked tr) ↔ ∀ p ∈ tr, p.2.Kept p.1) := by
  induction h with
  | nil =>
    refine ⟨ready_new, iff_of_true ?_ (by simp)⟩
    exact List.Forall₂.cons Reads.nil List.Forall₂.nil
  | @snoc tr s op s' _ hstep ih =>
    rw [List.forall_mem_append, List.forall_mem_singleton] at hfits hwhole
    obtain ⟨hi, htold⟩ := ih hfits.1 hwhole.1
    have hmoved := moved_step hi hfits.2 hwhole.2 hstep
    rw [asked_snoc, List.forall_mem_append, List.forall_mem_singleton, ← htold]
    exact ⟨hmoved.ready, hmoved.told⟩

/-! ## Calls that do not return -/

theorem parse_uri_returns_iff (u : Str) : Returns (parse_uri u) ↔ UriReadable u := by
  rw [parse_uri, UriReadable]
  -- the port is behind the first colon
  by_cases hc : ':' ∈ authority u
  · obtain ⟨host, rest, heq, hhost⟩ := List.eq_append_cons_of_mem hc
    have hdrop : (authority u).drop (host.length + 1) = rest := by
      rw [heq, List.drop_append]
      simp
    have hfind : find [':'] (authority u) = some host.length := by rw [heq, find_single_append hhost]
    simp only [hfind, hdrop]
    rw [returns_bind_of fun _ => (iff_true_intro (returns_ok _)), and_true, stoi_returns_iff]
    refine ⟨?_, fun h => h host rest heq hhost⟩
    intro h host' rest' heq' hhost'
    obtain ⟨rfl, rfl⟩ := cut_inj hhost hhost' (heq ▸ heq')
    exact h
  · rw [find_single_eq_none_iff.2 hc]
    refine iff_of_true (returns_ok _) ?_
    intro host rest heq
    exact absurd (heq ▸ List.mem_append_right _ List.mem_cons_self) hc

theorem put_returns_iff {s : Link} {out : Send} {made : StatusCode × Bytes × MqttClient} (hok : made.1 = .OK) :
    Returns (s.put out made) ↔ out ≠ .broken := by
  obtain ⟨sc, pk, client⟩ := made
  cases hok
  rw [put]
  cases out <;> simp [Send.taken]

theorem connect_returns_iff (network : Str → Int32 → Option Nat) (u : Str) (c usr pwd : Bytes) (out : Send)
    (answer : Socket) (s : Link) :
    Returns (s.connect network u c usr pwd out answer) ↔
      UriReadable u ∧ (reached network u ≠ none → out ≠ .broken ∧ (connack answer → ¬s.joinable)) := by
  rw [← parse_uri_returns_iff]
  cases hfd : reached network u with
  | none =>
    rw [and_iff_left fun h => absurd rfl h, connect]
    rw [reached] at hfd
    cases hparse : parse_uri u with
    | error e => simp
    | ok address => simp only [hparse] at hfd; simp [hfd]
  | some fd =>
    have hparse : Returns (parse_uri u) := by
      rw [reached] at hfd
      cases hparse : parse_uri u with
      | error e => simp [hparse] at hfd
      | ok address => exact returns_ok _
    rw [and_iff_right hparse, connect_reached hfd, forall_prop_of_true (Option.some_ne_none fd)]
    cases out with
    | broken => simp [Send.taken]
    | took n => by_cases hack : connack answer <;> by_cases hj : s.joinable <;> simp [Send.taken, hack, hj]
    | failed => by_cases hack : connack answer <;> by_cases hj : s.joinable <;> simp [Send.taken, hack, hj]

/-- While the thread runs as long as there is a descriptor. -/
theorem returns_apply_iff {s : Link} (hjoinable : s.joinable ↔ 0 ≤ s.client.fd) (op : Op) :
    Returns (op.apply s) ↔ ¬op.Halts s := by
  -- only what is sent can break, and only `connect` reads a URI or starts a thread
  cases op with
  | set_will_message t p q => exact iff_of_true (returns_ok _) not_false
  | connect network u c usr pwd out answer =>
    rw [Op.apply, returns_map, connect_returns_iff, Op.Halts, ← hjoinable]
    tauto
  | publish t p q retain out =>
    rw [Op.apply, Op.Halts, not_and]
    by_cases hopen : s.Open
    · rw [put_returns_iff (publish_ok hopen t p q), forall_prop_of_true hopen]
    · rw [put_publish hopen]
      exact iff_of_true (returns_ok _) fun h => absurd h hopen
  | subscribe t q out =>
    rw [Op.apply, Op.Halts, not_and]
    by_cases hopen : s.Open
    · rw [put_returns_iff (subscribe_ok hopen t q), forall_prop_of_true hopen]
    · rw [put_subscribe hopen]
      exact iff_of_true (returns_ok _) fun h => absurd h hopen
  | lost => exact iff_of_true (returns_ok _) not_false
  | disconnect out =>
    rw [Op.apply, disconnect, Op.Halts, not_and]
    by_cases hfd : 0 ≤ s.client.fd
    · rw [if_pos hfd, forall_prop_of_true hfd]
      cases out <;> simp [Send.taken]
    · rw [if_neg hfd]
      exact iff_of_true (returns_ok _) fun h => absurd h hfd

theorem rp_accepted : ∃ s', rp [.data [0x20, 0x02, 0x00, 0x00]] = .ok ((2, [0x00, 0x00]), s') := by
  have hbytes : (0x20 : UInt8) :: (el [(0x00 : UInt8), 0x00].length ++ ([0x00, 0x00] ++ [])) = [0x20, 0x02, 0x00, 0x00] := by
    simp [el]
  have hs := Carries.of_piece (List.cons_ne_nil (0x20 : UInt8) [0x02, 0x00, 0x00])
  rw [← hbytes] at hs ⊢
  obtain ⟨s', hrp, -⟩ := rp_carries (by decide) hs
  exact ⟨s', hrp⟩

theorem took_all (data : Bytes) : (Send.took data.length).taken data = some data := by
  rw [Send.taken, List.take_length]

end Link

end DevSys
