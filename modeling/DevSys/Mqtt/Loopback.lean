import DevSys.Mqtt.Framing
/-!
# A published message is received

The receive thread looks for the packet id in the type nibble, where the QoS
bits are not, and skips two bytes of every PUBLISH.
-/
open Cxx Net

namespace DevSys.MqttClient

/-! ## The body of a PUBLISH -/

theorem htons_toNat (n : Nat) (hn : n < 65536) :
    ∃ b0 b1 : UInt8, htons (UInt16.ofNat n) = [b0, b1] ∧ b0.toNat <<< 8 ||| b1.toNat = n := by
  refine ⟨_, _, rfl, ?_⟩
  have h16 : (UInt16.ofNat n).toNat = n := by
    rw [UInt16.toNat_ofNat']
    exact Nat.mod_eq_of_lt hn
  have hhigh : (UInt16.ofNat n >>> 8).toUInt8.toNat = n / 256 := by
    rw [UInt16.toNat_toUInt8, UInt16.toNat_shiftRight, h16, show UInt16.toNat 8 % 16 = 8 from rfl,
      Nat.shiftRight_eq_div_pow]
    omega
  have hlow : (UInt16.ofNat n).toUInt8.toNat = n % 256 := by
    rw [UInt16.toNat_toUInt8, h16]
  rw [hhigh, hlow, Nat.shiftLeft_eq, Nat.mul_comm, ← Nat.two_pow_add_eq_or_of_lt (by omega)]
  omega

/-- Two bytes behind the topic are dropped, whatever they are. -/
theorem on_publish_es {t x : Bytes} (ht : t.length < 65536) :
    on_publish 3 (es t ++ x) = if 2 ≤ x.length then .ok (t, x.drop 2) else .error .out_of_range := by
  obtain ⟨b0, b1, hes, hlen⟩ := htons_toNat t.length ht
  have hpl : es t ++ x = b0 :: b1 :: (t ++ x) := by simp [es, hes]
  have htopic : substr (es t ++ x) 2 t.length = .ok t := by
    rw [hpl, substr, if_neg (by simp)]
    simp
  have hpayload : substr (es t ++ x) (2 + t.length + 2) (es t ++ x).length =
      if 2 ≤ x.length then .ok (x.drop 2) else .error .out_of_range := by
    rw [hpl, substr]
    simp only [List.length_cons, List.length_append]
    by_cases hx : 2 ≤ x.length
    · rw [if_neg (by omega), if_pos hx, show 2 + t.length + 2 = t.length + 2 + 1 + 1 by omega]
      simp only [List.drop_succ_cons, List.drop_append]
      rw [List.drop_of_length_le (by omega), List.nil_append, List.take_of_length_le]
      · congr 2
        omega
      · rw [List.length_drop]
        omega
    · rw [if_pos (by omega), if_neg hx]
  have h0 : str_at (es t ++ x) 0 = .ok b0 := by rw [hpl]; rfl
  have h1 : str_at (es t ++ x) 1 = .ok b1 := by rw [hpl]; rfl
  have hskip : (3 : UInt8) >>> 1 &&& 1 ≠ 0 := by decide
  simp only [on_publish, h0, h1, hlen, htopic, if_pos hskip, hpayload, Bind.bind, Except.bind]
  by_cases hx : 2 ≤ x.length
  · simp only [if_pos hx]
  · simp only [if_neg hx]

/-! ## From `publish` to the callback -/

/-- The receive thread's messages for one framed PUBLISH. -/
theorem recv_thread_publish {h : UInt8} (hh : h >>> 4 = 3) {v : Bytes} (hv : v.length < 2 ^ 28) {s : Socket}
    (hs : Carries s (h :: (el v.length ++ v))) :
    (recv_thread s).1 = match on_publish 3 v with | .ok message => [message] | .error _ => [] := by
  have hs : Carries s (h :: (el v.length ++ (v ++ []))) := by rwa [List.append_nil]
  obtain ⟨s', hrp, hs'⟩ := rp_carries hv hs
  have hend : recv_thread s' = ([], .disconnected) := by
    rw [recv_thread]
    split
    · rename_i e he
      rw [rp_end hs'] at he
      cases he
      rfl
    · rename_i he
      rw [rp_end hs'] at he
      cases he
  rw [recv_thread]
  split
  · rename_i e he
    rw [hrp] at he
    cases he
  · rename_i tp pl s'' he
    rw [hrp] at he
    cases he
    rw [if_pos hh, hh]
    cases on_publish 3 v with
    | error e => rfl
    | ok message => simp only [hend]

/-- The message comes back as it was published, once. -/
def Delivered (t p : Bytes) (s : Socket) : Prop := (recv_thread s).1 = [(t, p)]

/-- A published message comes back exactly when its QoS is not 0: then the two
skipped bytes are the packet id, and otherwise they belong to the payload. -/
theorem delivered_iff (t p : Bytes) (q : Int32) (c : MqttClient) (s : Socket) (hc : c.connected ∧ 0 ≤ c.fd)
    (ht : t.length < 65536) (hq : q = 0 ∨ q = 1 ∨ q = 2) (hv : (publish_body t p q c.pid_counter).length < 2 ^ 28)
    (hs : Carries s (c.publish t p q).2.1) : Delivered t p s ↔ q ≠ 0 := by
  have hheader : publish_header q >>> 4 = 3 := by
    rcases hq with rfl | rfl | rfl <;> decide
  rw [publish_bytes hc hv] at hs
  rw [Delivered, recv_thread_publish hheader hv hs, publish_body, List.append_assoc, on_publish_es ht]
  -- the reader skips a packet id at every quality of service
  by_cases hpos : q > 0
  · have hid : ∃ b0 b1, htons c.pid_counter = [b0, b1] := ⟨_, _, rfl⟩
    obtain ⟨b0, b1, hid⟩ := hid
    refine iff_of_true ?_ (fun h => ?_)
    · rw [if_pos hpos, hid, if_pos (by simp)]
      rfl
    · subst h
      exact absurd hpos (by decide)
  · have hzero : q = 0 := by
      rcases hq with rfl | rfl | rfl
      · rfl
      · exact absurd (by decide) hpos
      · exact absurd (by decide) hpos
    rw [if_neg hpos, List.nil_append]
    refine iff_of_false ?_ (not_not_intro hzero)
    split
    · rename_i message hm
      split at hm
      · rename_i hlen
        cases hm
        intro he
        have hdrop : p.drop 2 = p := congrArg Prod.snd (List.cons.inj he).1
        have := congrArg List.length hdrop
        rw [List.length_drop] at this
        omega
      · cases hm
    · exact List.cons_ne_nil _ _ ∘ Eq.symm

/-- A QoS 1 message in one piece. -/
theorem delivered_qos1 :
    let c : MqttClient := { connected := true, fd := 3 }
    Delivered [0x61] [0x6f, 0x6e] [.data (c.publish [0x61] [0x6f, 0x6e] 1).2.1] :=
  (delivered_iff [0x61] [0x6f, 0x6e] 1 { connected := true, fd := 3 } _ (by decide) (by decide) (by decide) (by decide)
    (.of_piece (by simp [publish]))).2 (by decide)

/-- The payload of a QoS 0 message is cut. -/
theorem delivered_fails :
    let c : MqttClient := { connected := true, fd := 3 }
    ∃ s, Carries s (c.publish [0x61] [0x6f, 0x6e] 0).2.1 ∧ ¬ Delivered [0x61] [0x6f, 0x6e] s := by
  intro c
  have hwire := publish_bytes (t := [0x61]) (p := [0x6f, 0x6e]) (q := 0) (c := c) (by decide) (by decide)
  have hs : Carries [.data (c.publish [0x61] [0x6f, 0x6e] 0).2.1] (c.publish [0x61] [0x6f, 0x6e] 0).2.1 :=
    .of_piece (by simp [hwire])
  refine ⟨_, hs, ?_⟩
  rw [hwire] at hs ⊢
  rw [Delivered, recv_thread_publish (by decide) (by decide) hs]
  decide

end DevSys.MqttClient
