import DevSys.Mqtt.Loopback
import DevSys.Mqtt.Survival
import DevSys.Router.PerDevice
import DevSys.Server.ApiServer
/-!
# From the broker to the managers

The packets a broker sends, however their bytes are cut, the messages that the
receive thread reports of them, and what the platform knows of a device then.
-/
open Cxx Net Views

namespace DevSys

namespace MqttClient

/-! ## Packets from the broker -/

/-- There is a packet id behind the topic. -/
def identified (header : UInt8) : Bool := header &&& 0x06 ≠ 0

def forwarded_body (header : UInt8) (topic : Bytes) (id : UInt16) (payload : Bytes) : Bytes :=
  es topic ++ ((if identified header then htons id else []) ++ payload)

/-- A PUBLISH, or a packet of another type. -/
inductive FromBroker where
  | publish (header : UInt8) (topic : Bytes) (id : UInt16) (payload : Bytes) (type : header >>> 4 = 3)
      (short : topic.length < 65536) (fits : (forwarded_body header topic id payload).length < 2 ^ 28)
  | other (packet : Packet) (type : packet.header >>> 4 ≠ 3)

namespace FromBroker

def packet : FromBroker → Packet
  | publish header topic id payload _ _ fits => ⟨header, forwarded_body header topic id payload, fits⟩
  | other packet _ => packet

/-- The message a packet carries. -/
def message? : FromBroker → Option (Bytes × Bytes)
  | publish _ topic _ payload _ _ _ => some (topic, payload)
  | other _ _ => none

/-- A PUBLISH with an id. -/
def Identified : FromBroker → Prop
  | publish header _ _ _ _ _ _ => identified header
  | other _ _ => True

end FromBroker

def published (ps : List FromBroker) : List (Bytes × Bytes) := ps.filterMap FromBroker.message?

/-- What the receive thread makes of the packets: without an id, the payload
loses two bytes or is too short for that. -/
def told : List FromBroker → List (Bytes × Bytes) × Stop
  | [] => ([], .disconnected)
  | .publish header topic _ payload _ _ _ :: ps =>
    if identified header then ((topic, payload) :: (told ps).1, (told ps).2)
    else if 2 ≤ payload.length then ((topic, payload.drop 2) :: (told ps).1, (told ps).2)
    else ([], .out_of_range)
  | .other _ _ :: ps => told ps

theorem on_publish_forwarded {header : UInt8} {topic : Bytes} (id : UInt16) (payload : Bytes) (ht : topic.length < 65536) :
    on_publish 3 (forwarded_body header topic id payload) =
      if identified header then .ok (topic, payload)
      else if 2 ≤ payload.length then .ok (topic, payload.drop 2) else .error .out_of_range := by
  rw [forwarded_body, on_publish_es ht]
  split
  · have htwo : 2 ≤ (htons id ++ payload).length := by
      rw [List.length_append]
      exact Nat.le_add_right_of_le (Nat.le_refl 2)
    rw [if_pos htwo]
    rfl
  · rw [List.nil_append]

/-- The thread goes through the packets in order. -/
theorem recv_thread_told (ps : List FromBroker) {s : Socket} (hs : Carries s (ps.flatMap fun p => p.packet.frame)) :
    recv_thread s = told ps := by
  induction ps generalizing s with
  | nil => exact recv_thread_of_error (rp_end hs)
  | cons p ps ih =>
    have hs : Carries s (p.packet.header :: (el p.packet.body.length ++
        (p.packet.body ++ ps.flatMap fun p => p.packet.frame))) := by
      rw [List.flatMap_cons, Packet.frame, List.cons_append, List.append_assoc] at hs
      exact hs
    obtain ⟨s', hrp, hs'⟩ := rp_carries p.packet.fits hs
    rw [recv_thread_of_ok hrp, ih hs']
    cases p with
    | other packet type =>
      have hhandle : handle (packet.header >>> 4) packet.body = .ok none := by rw [handle, if_neg type]
      have hpacket : (FromBroker.other packet type).packet = packet := rfl
      rw [hpacket, hhandle, told]
      rfl
    | publish header topic id payload type short fits =>
      have hpublish : on_publish 3 (forwarded_body header topic id payload) = _ := on_publish_forwarded id payload short
      have hpacket : (FromBroker.publish header topic id payload type short fits).packet =
          ⟨header, forwarded_body header topic id payload, fits⟩ := rfl
      rw [hpacket, handle, if_pos type, type, hpublish, told]
      split_ifs <;> rfl

/-- All messages are told as they were published, and no others, exactly when
each has a packet id. -/
theorem told_eq_published_iff (ps : List FromBroker) : (told ps).1 = published ps ↔ ∀ p ∈ ps, p.Identified := by
  induction ps with
  | nil => simp [told, published]
  | cons p ps ih =>
    rw [List.forall_mem_cons]
    cases p with
    | other packet type =>
      have hpublished : published (.other packet type :: ps) = published ps := rfl
      rw [told, hpublished, ih]
      exact (and_iff_right trivial).symm
    | publish header topic id payload type short fits =>
      have hpublished : published (.publish header topic id payload type short fits :: ps) =
          (topic, payload) :: published ps := rfl
      have hiff : FromBroker.Identified (.publish header topic id payload type short fits) ↔ identified header := Iff.rfl
      rw [told, hpublished, hiff, ← ih]
      by_cases hid : identified header
      · simp [hid]
      · rw [if_neg hid]
        refine iff_of_false ?_ fun h => hid h.1
        split
        · rename_i htwo
          intro h
          have hdrop : payload.drop 2 = payload := congrArg Prod.snd (List.cons.inj h).1
          have hlen := congrArg List.length hdrop
          rw [List.length_drop] at hlen
          omega
        · exact (List.cons_ne_nil _ _).symm

end MqttClient

namespace MessageRouter
open MqttClient

/-- The messages in order, each with the time it is handled at. -/
def inbound (now : Nat → Int) (messages : List (Bytes × Bytes)) : List Inbound :=
  messages.mapIdx fun i m => ⟨now i, ApiServer.chars m.1, ApiServer.chars m.2⟩

/-- A message with an id on the topic `a`, and a PINGRESP. -/
def message_and_ping : List FromBroker :=
  [.publish 0x32 [0x61] 1 [0x6f, 0x6e] (by decide) (by decide) (by decide), .other ⟨0xd0, [], by decide⟩ (by decide)]

end MessageRouter

end DevSys
