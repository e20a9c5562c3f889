import DevSys.Lib.Runs
import DevSys.Mqtt.Framing
/-!
# Packet identifiers

The counter that `publish` and `subscribe` take packet identifiers from starts
at 1 and wraps round at 16 bits.
-/
open Cxx Runs

namespace DevSys.MqttClient

/-! ## Calls -/

inductive Call where
  | publish (t p : Bytes) (q : Int32)
  | subscribe (t : Bytes) (q : Int32)
  /-- A connect, a disconnect or a connection lost: none of them touches `pid_counter`. -/
  | link (connected : Bool) (fd : Int)

/-- The bytes sent by a call, and the client after it. -/
def Call.make : Call → MqttClient → Bytes × MqttClient
  | .publish t p q, s => (s.publish t p q).2
  | .subscribe t q, s => (s.subscribe t q).2
  | .link connected fd, s => ([], { s with connected, fd })

/-- A packet with the header `h` and the body `v`, as it is written. -/
def packet (h : UInt8) (v : Bytes) : Bytes := h :: (el (v.length % 2 ^ 32) ++ v)

/-- The bytes are the packet of the call, with the packet identifier `id` in it. -/
def Call.Writes : Call → Bytes → UInt16 → Prop
  | .publish t p q, bs, id => q > 0 ∧ bs = packet (publish_header q) (publish_body t p q id)
  | .subscribe t q, bs, id => bs = packet 0x82 (subscribe_body t q id)
  | .link .., _, _ => False

/-- A SUBSCRIBE, or a PUBLISH with a QoS above 0. -/
def Call.identified : Call → Bool
  | .publish _ _ q => q > 0
  | .subscribe .. => true
  | .link .. => false

/-- The call has an identifier, and finds the client connected. -/
def accepted (s : MqttClient) (c : Call) : Bool := s.connected && 0 ≤ s.fd && c.identified

def CallStep (s : MqttClient) (c : Call) (s' : MqttClient) : Prop := (c.make s).2 = s'

/-- The accepted calls of a run. -/
def used (tr : List (MqttClient × Call)) : Nat := tr.countP fun p => accepted p.1 p.2

/-! ## The bytes of one call -/

theorem htons_injective : Function.Injective htons := by
  intro m n h
  obtain ⟨hhigh, hlow⟩ := List.cons_eq_cons.1 h
  have hhigh := congrArg UInt8.toNat hhigh
  have hlow := congrArg UInt8.toNat (List.singleton_inj.1 hlow)
  simp only [UInt16.toNat_toUInt8, UInt16.toNat_shiftRight, Nat.shiftRight_eq_div_pow] at hhigh hlow
  have h8 : UInt16.toNat 8 % 16 = 8 := rfl
  rw [h8] at hhigh
  have hm := m.toNat_lt
  have hn := n.toNat_lt
  apply UInt16.toNat_inj.1
  omega

/-- The length of a body does not depend on its identifier. -/
theorem packet_injective {h : UInt8} {v v' : Bytes} (hlen : v.length = v'.length) :
    packet h v = packet h v' ↔ v = v' := by
  rw [packet, packet, hlen, List.cons_eq_cons, List.append_cancel_left_eq]
  simp

theorem publish_body_injective {t p : Bytes} {q : Int32} (hq : q > 0) {id id' : UInt16} :
    publish_body t p q id = publish_body t p q id' ↔ id = id' := by
  rw [publish_body, publish_body, if_pos hq, if_pos hq, List.append_cancel_right_eq, List.append_cancel_left_eq]
  exact htons_injective.eq_iff

theorem subscribe_body_injective {t : Bytes} {q : Int32} {id id' : UInt16} :
    subscribe_body t q id = subscribe_body t q id' ↔ id = id' := by
  rw [subscribe_body, subscribe_body, List.append_cancel_right_eq, List.append_cancel_right_eq]
  exact htons_injective.eq_iff

theorem accepted_iff {s : MqttClient} {c : Call} : accepted s c ↔ (s.connected ∧ 0 ≤ s.fd) ∧ c.identified := by
  simp [accepted]

/-- An accepted call writes the counter, and no other call writes an identifier. -/
theorem writes_iff {s : MqttClient} {c : Call} {id : UInt16} :
    c.Writes (c.make s).1 id ↔ accepted s c ∧ id = s.pid_counter := by
  by_cases hs : s.connected ∧ 0 ≤ s.fd
  · rw [accepted_iff, and_iff_right hs]
    cases c with
    | publish t p q =>
      have hsent : (Call.make (.publish t p q) s).1 = packet (publish_header q) (publish_body t p q s.pid_counter) := by
        rw [Call.make, publish, if_neg (not_closed hs)]
        rfl
      rw [Call.Writes, hsent, Call.identified, decide_eq_true_iff]
      refine and_congr_right fun hq => ?_
      rw [packet_injective (by simp [publish_body, hq, htons]), publish_body_injective hq, eq_comm]
    | subscribe t q =>
      have hsent : (Call.make (.subscribe t q) s).1 = packet 0x82 (subscribe_body t q s.pid_counter) := by
        rw [Call.make, subscribe, if_neg (not_closed hs)]
        rfl
      rw [Call.Writes, hsent, packet_injective (by simp [subscribe_body, htons]), subscribe_body_injective, eq_comm]
      exact (and_iff_right rfl).symm
    | link connected fd => simp [Call.Writes, Call.identified]
  · -- nothing is written on a connection that is closed
    have hclosed : ¬s.connected ∨ s.fd < 0 := by
      rw [not_and_or] at hs
      exact hs.imp_right Int.not_le.1
    have hnone : (c.make s).1 = [] := by
      cases c with
      | publish t p q => rw [Call.make, publish, if_pos hclosed]
      | subscribe t q => rw [Call.make, subscribe, if_pos hclosed]
      | link connected fd => rfl
    have hwrites : ¬c.Writes [] id := by
      cases c with
      | publish t p q => exact fun h => List.cons_ne_nil _ _ h.2.symm
      | subscribe t q => exact fun h => List.cons_ne_nil _ _ h.symm
      | link connected fd => exact not_false
    rw [hnone, accepted_iff]
    exact iff_of_false hwrites fun h => hs h.1.1

theorem pid_counter_make (s : MqttClient) (c : Call) :
    (c.make s).2.pid_counter = if accepted s c then s.pid_counter + 1 else s.pid_counter := by
  by_cases hs : ¬s.connected ∨ s.fd < 0
  · have hnot : ¬accepted s c := by
      rw [accepted_iff]
      rintro ⟨hopen, -⟩
      exact not_closed hopen hs
    rw [if_neg hnot]
    cases c with
    | publish t p q => rw [Call.make, publish, if_pos hs]
    | subscribe t q => rw [Call.make, subscribe, if_pos hs]
    | link connected fd => rfl
  · have hopen : s.connected ∧ 0 ≤ s.fd := by
      rw [not_or, not_not] at hs
      exact hs.imp_right Int.not_lt.1
    simp only [accepted_iff, and_iff_right hopen]
    cases c with
    | publish t p q =>
      rw [Call.make, publish, if_neg hs]
      by_cases hq : q > 0
      · simp [Call.identified, hq]
      · simp [Call.identified, hq]
    | subscribe t q =>
      rw [Call.make, subscribe, if_neg hs]
      rfl
    | link connected fd => rfl

/-! ## Every run -/

theorem used_snoc (tr : List (MqttClient × Call)) (s : MqttClient) (c : Call) :
    used (tr ++ [(s, c)]) = used tr + if accepted s c then 1 else 0 := by
  rw [used, List.countP_append, List.countP_singleton, used]

/-- The counter has gone on by one for each accepted call. -/
theorem pid_counter_run {tr : List (MqttClient × Call)} {s : MqttClient} (h : Run CallStep {} tr s) :
    s.pid_counter.toNat = (1 + used tr) % 65536 := by
  induction h with
  | nil => rfl
  | @snoc tr s c s' _ hstep ih =>
    rw [← hstep, pid_counter_make, used_snoc]
    split
    · rw [UInt16.toNat_add, ih, show UInt16.toNat 1 = 1 from rfl]
      omega
    · rw [ih, Nat.add_zero]

/-- Every identifier written in a run is from 1 to 65535 exactly when fewer than
65536 calls were accepted: the 65536th gets the counter at 0. -/
theorem packet_ids_iff {tr : List (MqttClient × Call)} {s : MqttClient} (h : Run CallStep {} tr s) :
    (∀ p ∈ tr, ∀ id, p.2.Writes (p.2.make p.1).1 id → 1 ≤ id.toNat ∧ id.toNat ≤ 65535) ↔ used tr < 65536 := by
  simp only [writes_iff]
  induction h with
  | nil => exact iff_of_true (by simp) (by decide)
  | @snoc tr s c s' hrun hstep ih =>
    have hcounter := pid_counter_run hrun
    rw [List.forall_mem_append, List.forall_mem_singleton, ih, used_snoc]
    by_cases hc : accepted s c
    · simp only [hc, if_true, true_and, forall_eq, hcounter]
      omega
    · simp [hc]

/-- A connect and one subscription. -/
theorem packet_ids_one :
    let connected : MqttClient := { connected := true, fd := 3 }
    ∀ p ∈ [(({} : MqttClient), Call.link true 3), (connected, Call.subscribe [0x61] 1)], ∀ id,
      p.2.Writes (p.2.make p.1).1 id → 1 ≤ id.toNat ∧ id.toNat ≤ 65535 :=
  (packet_ids_iff ((Run.nil.snoc rfl).snoc rfl)).2 (by decide)

/-- A connect and `n` subscriptions. -/
theorem exists_subscribed (n : Nat) :
    ∃ tr, Run CallStep {} tr { connected := true, fd := 3, pid_counter := UInt16.ofNat (1 + n) } := by
  induction n with
  | zero => exact ⟨_, Run.nil.snoc (e := Call.link true 3) rfl⟩
  | succ n ih =>
    obtain ⟨tr, hrun⟩ := ih
    refine ⟨_, hrun.snoc (e := Call.subscribe [0x61] 1) ?_⟩
    have hopen : (0 : Int) ≤ 3 := by decide
    rw [CallStep, Call.make, subscribe, if_neg (not_closed ⟨rfl, hopen⟩), ← Nat.add_assoc, UInt16.ofNat_add (1 + n) 1]
    rfl

/-- The 65536th subscription has the identifier 0. -/
theorem packet_ids_fails : ∃ tr s, Run CallStep {} tr s ∧
    ∃ p ∈ tr, ∃ id, p.2.Writes (p.2.make p.1).1 id ∧ ¬(1 ≤ id.toNat ∧ id.toNat ≤ 65535) := by
  obtain ⟨tr, hrun⟩ := exists_subscribed 65535
  refine ⟨_, _, hrun.snoc (e := Call.subscribe [0x61] 1) rfl, _, List.mem_append_right _ (List.mem_singleton_self _), 0, ?_,
    by decide⟩
  exact writes_iff.2 ⟨rfl, rfl⟩

end DevSys.MqttClient
