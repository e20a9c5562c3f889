import DevSys.Mqtt.Framing
/-!
# What the receive thread survives

The topic length and the place of the payload are read from the body of a
PUBLISH, and two bytes behind the topic are skipped, without a look at the
length of the body.
-/
open Cxx Net

namespace DevSys.MqttClient

/-! ## One packet -/

/-- A turn of the receive thread, behind `rp`. -/
def handle (tp : UInt8) (pl : Bytes) : Except Stop (Option (Bytes × Bytes)) :=
  if tp = 3 then (on_publish tp pl).map some else .ok none

/-- The topic length in the first two bytes, as far as there are any. -/
def announced (pl : Bytes) : Nat := (pl.getD 0 0).toNat <<< 8 ||| (pl.getD 1 0).toNat

/-- A PUBLISH has four bytes besides its topic. -/
def Fits (tp : UInt8) (pl : Bytes) : Prop := tp = 3 → 4 + announced pl ≤ pl.length

instance (tp : UInt8) (pl : Bytes) : Decidable (Fits tp pl) := inferInstanceAs (Decidable (_ → _))

theorem on_publish_long (b0 b1 : UInt8) (rest : Bytes) :
    on_publish 3 (b0 :: b1 :: rest) =
      if 4 + announced (b0 :: b1 :: rest) ≤ (b0 :: b1 :: rest).length then
        .ok (rest.take (announced (b0 :: b1 :: rest)), rest.drop (announced (b0 :: b1 :: rest) + 2))
      else .error .out_of_range := by
  have h0 : str_at (b0 :: b1 :: rest) 0 = .ok b0 := rfl
  have h1 : str_at (b0 :: b1 :: rest) 1 = .ok b1 := rfl
  have hannounced : b0.toNat <<< 8 ||| b1.toNat = announced (b0 :: b1 :: rest) := rfl
  generalize announced (b0 :: b1 :: rest) = tl at hannounced ⊢
  have htopic : substr (b0 :: b1 :: rest) 2 tl = .ok (rest.take tl) := by
    rw [substr, if_neg (by simp)]
    rfl
  have hskip : (3 : UInt8) >>> 1 &&& 1 ≠ 0 := by decide
  have hpayload : substr (b0 :: b1 :: rest) (2 + tl + 2) (b0 :: b1 :: rest).length =
      if 4 + tl ≤ (b0 :: b1 :: rest).length then .ok (rest.drop (tl + 2)) else .error .out_of_range := by
    rw [substr]
    by_cases hfits : 4 + tl ≤ (b0 :: b1 :: rest).length
    · rw [if_neg (by omega), if_pos hfits, show 2 + tl + 2 = tl + 2 + 1 + 1 by omega, List.drop_succ_cons,
        List.drop_succ_cons, List.take_of_length_le]
      simp only [List.length_drop, List.length_cons]
      omega
    · rw [if_pos (by omega), if_neg hfits]
  simp only [on_publish, h0, h1, hannounced, htopic, if_pos hskip, hpayload, Bind.bind, Except.bind]
  split_ifs <;> rfl

/-- A PUBLISH is handled exactly when its body has room for the topic announced
and two more bytes. Without a second byte its length is read past the end. -/
theorem handle_iff (tp : UInt8) (pl : Bytes) : (∃ message, handle tp pl = .ok message) ↔ Fits tp pl := by
  by_cases htp : tp = 3
  · subst htp
    have hfits : Fits 3 pl ↔ 4 + announced pl ≤ pl.length := forall_prop_of_true rfl
    rw [handle, if_pos rfl, hfits]
    rcases pl with _ | ⟨b0, _ | ⟨b1, rest⟩⟩
    · exact iff_of_false (by rintro ⟨message, ⟨⟩⟩) (by simp)
    · refine iff_of_false (by rintro ⟨message, ⟨⟩⟩) ?_
      rw [List.length_singleton]
      omega
    · rw [on_publish_long]
      split_ifs with hfits
      · exact iff_of_true ⟨_, rfl⟩ hfits
      · exact iff_of_false (by rintro ⟨message, ⟨⟩⟩) hfits
  · rw [handle, if_neg htp]
    exact iff_of_true ⟨none, rfl⟩ fun h => absurd h htp

/-- What is reported is reported of a PUBLISH. -/
theorem length_handle {tp : UInt8} {pl : Bytes} {message : Option (Bytes × Bytes)} (h : handle tp pl = .ok message) :
    message.toList.length = if tp = 3 then 1 else 0 := by
  rw [handle] at h
  split_ifs at h ⊢ with htp
  · cases hp : on_publish tp pl with
    | error e =>
      rw [hp] at h
      cases h
    | ok m =>
      rw [hp] at h
      cases h
      rfl
  · cases h
    rfl

/-! ## Every packet of a stream -/

theorem recv_thread_of_error {s : Socket} {e : Stop} (h : rp s = .error e) : recv_thread s = ([], e) := by
  rw [recv_thread]
  split
  · rename_i e' he
    rw [h] at he
    cases he
    rfl
  · rename_i he
    rw [h] at he
    cases he

theorem recv_thread_of_ok {s s' : Socket} {tp : UInt8} {pl : Bytes} (h : rp s = .ok ((tp, pl), s')) :
    recv_thread s = match handle tp pl with
      | .error e => ([], e)
      | .ok message => (message.toList ++ (recv_thread s').1, (recv_thread s').2) := by
  rw [recv_thread, handle]
  split
  · rename_i he
    rw [h] at he
    cases he
  · rename_i tp' pl' s'' he
    rw [h] at he
    cases he
    split_ifs with htp
    · cases on_publish tp pl with
      | error e => rfl
      | ok message => rfl
    · rfl

/-- The PUBLISH packets that `rp` returns from a stream. -/
def publishes (s : Socket) : Nat := (rp_all s).1.countP (·.1 = 3)

/-- The thread gets as far as `rp` does, and reports every PUBLISH. -/
def Survives (s : Socket) : Prop := (recv_thread s).1.length = publishes s ∧ (recv_thread s).2 = (rp_all s).2

theorem survives_of_error {s : Socket} {e : Stop} (h : rp s = .error e) : Survives s := by
  rw [Survives, publishes, recv_thread_of_error h, rp_all_of_error h]
  exact ⟨rfl, rfl⟩

theorem survives_of_ok {s s' : Socket} {tp : UInt8} {pl : Bytes} (h : rp s = .ok ((tp, pl), s')) :
    Survives s ↔ Fits tp pl ∧ Survives s' := by
  rw [Survives, publishes, recv_thread_of_ok h, rp_all_of_ok h, List.countP_cons, ← publishes]
  cases hhandle : handle tp pl with
  | error e =>
    have hnot : ¬Fits tp pl := by
      rw [← handle_iff, hhandle]
      rintro ⟨message, ⟨⟩⟩
    have htp : tp = 3 := by
      by_contra hne
      exact hnot fun h => absurd h hne
    refine iff_of_false ?_ fun hfits => hnot hfits.1
    rintro ⟨hnone, -⟩
    simp [htp] at hnone
  | ok message =>
    have hfits : Fits tp pl := (handle_iff tp pl).1 ⟨message, hhandle⟩
    have hlen := length_handle hhandle
    rw [and_iff_right hfits, Survives]
    refine and_congr_left fun _ => ?_
    simp only [List.length_append, hlen, decide_eq_true_iff]
    omega

/-- A packet is handled exactly when it fits, and the thread survives a stream
exactly when every PUBLISH in it does. -/
theorem packets_survive_iff (tp : UInt8) (pl : Bytes) (s : Socket) :
    ((∃ message, handle tp pl = .ok message) ↔ Fits tp pl) ∧
      (Survives s ↔ ∀ packet ∈ (rp_all s).1, Fits packet.1 packet.2) := by
  refine ⟨handle_iff tp pl, ?_⟩
  induction hn : size s using Nat.strong_induction_on generalizing s with
  | _ n ih =>
    cases hrp : rp s with
    | error e =>
      rw [rp_all_of_error hrp]
      exact iff_of_true (survives_of_error hrp) fun _ h => absurd h List.not_mem_nil
    | ok packet =>
      obtain ⟨⟨tp', pl'⟩, s'⟩ := packet
      have hsize := rp_size hrp
      rw [survives_of_ok hrp, rp_all_of_ok hrp, List.forall_mem_cons, ih _ (hn ▸ hsize) s' rfl]

/-- A PUBLISH of nothing to the topic `a`, at QoS 0. -/
theorem packets_survive_fails : ∃ s, (∃ s', rp s = .ok ((3, [0x00, 0x01, 0x61]), s')) ∧
    handle 3 [0x00, 0x01, 0x61] = .error .out_of_range ∧ recv_thread s = ([], .out_of_range) := by
  have hwire : 0x30 :: (el 3 ++ ([0x00, 0x01, 0x61] ++ [])) = [0x30, 0x03, 0x00, 0x01, 0x61] := by simp [el]
  have hs : Carries [.data [0x30, 0x03, 0x00, 0x01, 0x61]] (0x30 :: (el 3 ++ ([0x00, 0x01, 0x61] ++ []))) := by
    rw [hwire]
    exact .of_piece (List.cons_ne_nil _ _)
  obtain ⟨s', hrp, -⟩ := rp_carries (v := [0x00, 0x01, 0x61]) (by decide) hs
  have hthrows : handle 3 [0x00, 0x01, 0x61] = .error .out_of_range := by decide
  refine ⟨_, ⟨s', hrp⟩, hthrows, ?_⟩
  have hrp : rp [.data [0x30, 0x03, 0x00, 0x01, 0x61]] = .ok ((3, [0x00, 0x01, 0x61]), s') := hrp
  rw [recv_thread_of_ok hrp, hthrows]

end DevSys.MqttClient
