import DevSys.Mqtt.Framing
/-!
# The receive thread and idle time

`connect` sets a timeout of five seconds on the socket, and the receive thread
reads from the same socket. A `recv` that times out looks to it like a
connection that was closed.
-/
open Cxx Net

namespace DevSys.MqttClient

/-! ## Where reading stops -/

/-- `re`; a failure comes with what the failing `recv` was called on. -/
def re_at (n : Nat) (s : Socket) : Except (Stop × Socket) (Bytes × Socket) :=
  if _h : n = 0 then .ok ([], s)
  else
    match recv n s with
    | (some (b :: got), s') => do
      let (rest, s') ← re_at (n - (got.length + 1)) s'
      .ok (b :: got ++ rest, s')
    | _ => .error (.disconnected, s)
termination_by n
decreasing_by omega

def read_byte_at (s : Socket) : Except (Stop × Socket) (UInt8 × Socket) := do
  let (bs, s) ← re_at 1 s
  .ok (bs.headD 0, s)

def rp_length_at (l sh : Nat) (s : Socket) : Except (Stop × Socket) (Nat × Socket) := do
  let (b, s) ← read_byte_at s
  if _h : 32 ≤ sh then .error (.undefined, s)
  else
    let l := (l ||| (b.toNat &&& 0x7F) <<< sh) % 2 ^ 32
    if b &&& 0x80 = 0 then .ok (l, s) else rp_length_at l (sh + 7) s
termination_by 32 - sh
decreasing_by omega

def rp_at (s : Socket) : Except (Stop × Socket) ((UInt8 × Bytes) × Socket) := do
  let (h, s) ← read_byte_at s
  let (l, s) ← rp_length_at 0 0 s
  let (pl, s) ← re_at l s
  .ok ((h >>> 4, pl), s)

/-! ## The same reads -/

theorem re_at_of_got {n : Nat} (hn : n ≠ 0) {s s' : Socket} {b : UInt8} {got : Bytes}
    (h : recv n s = (some (b :: got), s')) :
    re_at n s = re_at (n - (got.length + 1)) s' >>= fun r => .ok (b :: got ++ r.1, r.2) := by
  rw [re_at, dif_neg hn, h]

theorem re_at_of_lost {n : Nat} (hn : n ≠ 0) {s : Socket} (h : ∀ b got s', recv n s ≠ (some (b :: got), s')) :
    re_at n s = .error (.disconnected, s) := by
  rw [re_at, dif_neg hn]
  split
  · rename_i b got s' hrecv
    exact absurd hrecv (h b got s')
  · rfl

theorem re_eq (n : Nat) (s : Socket) : re n s = (re_at n s).mapError (·.1) := by
  induction n using Nat.strong_induction_on generalizing s with
  | _ n ih =>
    rw [re]
    split
    · rename_i hn
      rw [re_at, dif_pos hn]
      rfl
    · rename_i hn
      split
      · rename_i b got s' hrecv
        rw [ih _ (by omega), re_at_of_got hn hrecv]
        cases re_at (n - (got.length + 1)) s' <;> rfl
      · rename_i hlost
        rw [re_at_of_lost hn hlost]
        rfl

theorem read_byte_eq (s : Socket) : read_byte s = (read_byte_at s).mapError (·.1) := by
  rw [read_byte, re_eq, read_byte_at]
  cases re_at 1 s <;> rfl

theorem rp_length_eq (l sh : Nat) (s : Socket) : rp_length l sh s = (rp_length_at l sh s).mapError (·.1) := by
  induction l, sh, s using rp_length.induct with
  | case1 l sh s ih =>
    rw [rp_length, rp_length_at, read_byte_eq]
    cases read_byte_at s with
    | error e => rfl
    | ok got =>
      obtain ⟨b, s'⟩ := got
      simp only [Except.mapError, Bind.bind, Except.bind]
      split
      · rfl
      · split
        · rfl
        · rename_i hsh _
          exact ih b s' hsh

theorem rp_eq (s : Socket) : rp s = (rp_at s).mapError (·.1) := by
  rw [rp, rp_at, read_byte_eq]
  cases read_byte_at s with
  | error e => rfl
  | ok got =>
    obtain ⟨h, s₁⟩ := got
    simp only [Except.mapError, Bind.bind, Except.bind, rp_length_eq]
    cases rp_length_at 0 0 s₁ with
    | error e => rfl
    | ok got =>
      obtain ⟨l, s₂⟩ := got
      simp only [re_eq]
      cases re_at l s₂ <;> rfl

theorem rp_of_rp_at {s s' : Socket} {packet : UInt8 × Bytes} (h : rp_at s = .ok (packet, s')) :
    rp s = .ok (packet, s') := by
  rw [rp_eq, h]
  rfl

/-! ## The thread -/

/-- The messages reported, why the thread stopped, and what the last `recv` was
called on if it is the one that failed. -/
structure Ended where
  messages : List (Bytes × Bytes)
  stop : Stop
  socket : Socket

def Ended.report (message : Bytes × Bytes) (r : Ended) : Ended := { r with messages := message :: r.messages }

def recv_thread_at (s : Socket) : Ended :=
  match _h : rp_at s with
  | .error (e, s') => ⟨[], e, s'⟩
  | .ok ((tp, pl), s') =>
    if tp = 3 then
      match on_publish tp pl with
      | .error e => ⟨[], e, s'⟩
      | .ok message => (recv_thread_at s').report message
    else recv_thread_at s'
termination_by size s
decreasing_by all_goals exact rp_size (rp_of_rp_at _h)

/-- `connected` is set when the thread starts, and reset when a `recv` gets nothing. -/
def Ended.connected (r : Ended) : Bool := r.stop ≠ .disconnected

/-- The same messages as without the timeouts, and only the `recv` that finds
the connection closed resets `connected`. -/
structure Undisturbed (s : Socket) : Prop where
  messages : (recv_thread_at s).messages = (recv_thread_at (untimed s)).messages
  connected : (recv_thread_at s).connected = false → (recv_thread_at s).socket = []

theorem recv_thread_at_of_error {s s' : Socket} {e : Stop} (h : rp_at s = .error (e, s')) :
    recv_thread_at s = ⟨[], e, s'⟩ := by
  rw [recv_thread_at]
  split
  · rename_i he
    rw [h] at he
    cases he
    rfl
  · rename_i he
    rw [h] at he
    cases he

theorem recv_thread_at_of_ok {s s' : Socket} {tp : UInt8} {pl : Bytes} (h : rp_at s = .ok ((tp, pl), s')) :
    recv_thread_at s =
      if tp = 3 then
        match on_publish tp pl with
        | .error e => ⟨[], e, s'⟩
        | .ok message => (recv_thread_at s').report message
      else recv_thread_at s' := by
  rw [recv_thread_at]
  split
  · rename_i he
    rw [h] at he
    cases he
  · rename_i he
    rw [h] at he
    cases he
    rfl

theorem recv_thread_eq (s : Socket) : recv_thread s = ((recv_thread_at s).messages, (recv_thread_at s).stop) := by
  -- each packet that is read leaves a smaller socket
  induction hsize : size s using Nat.strong_induction_on generalizing s with
  | _ n ih =>
    have hrp := rp_eq s
    rw [recv_thread]
    split
    · rename_i e he
      rw [he] at hrp
      cases hat : rp_at s with
      | error failed =>
        rw [hat] at hrp
        rw [recv_thread_at_of_error hat]
        cases hrp
        rfl
      | ok got =>
        rw [hat] at hrp
        cases hrp
    · rename_i tp pl s' he
      have hlt := rp_size he
      rw [he] at hrp
      cases hat : rp_at s with
      | error failed =>
        rw [hat] at hrp
        cases hrp
      | ok got =>
        rw [hat] at hrp
        cases hrp
        rw [recv_thread_at_of_ok hat]
        have hrest := ih _ (hsize ▸ hlt) s' rfl
        split
        · cases on_publish tp pl with
          | error e => rfl
          | ok message =>
            dsimp only
            rw [hrest]
            rfl
        · exact hrest

/-! ## What comes later -/

variable {α β : Type}

/-- What is read, with `t` to come as well. -/
def with_rest (t : Socket) : Except (Stop × Socket) (α × Socket) → Except (Stop × Socket) (α × Socket)
  | .ok (a, s) => .ok (a, s ++ t)
  | .error (e, s) => .error (e, s ++ t)

/-- `t` starts with a timeout, or the reading does not get to `t`. -/
def Unaffected (t : Socket) (r : Except (Stop × Socket) (α × Socket)) : Prop :=
  t.head? = some .timeout ∨ ∀ s, r ≠ .error (.disconnected, s)

theorem bind_with_rest {t : Socket} {x x' : Except (Stop × Socket) (α × Socket)}
    {f f' : α × Socket → Except (Stop × Socket) (β × Socket)} (h : Unaffected t (x >>= f))
    (hx : Unaffected t x → x' = with_rest t x)
    (hf : ∀ a s, Unaffected t (f (a, s)) → f' (a, s ++ t) = with_rest t (f (a, s))) :
    x' >>= f' = with_rest t (x >>= f) := by
  cases x with
  | error failed =>
    have hx' : x' = with_rest t (.error failed) := by
      apply hx
      rcases h with htimeout | hreach
      · exact .inl htimeout
      · refine .inr fun s heq => hreach s ?_
        cases heq
        rfl
    rw [hx']
    rfl
  | ok got =>
    rw [hx (.inr nofun)]
    exact hf _ _ h

theorem re_at_append {t : Socket} (n : Nat) (s : Socket) (h : Unaffected t (re_at n s)) :
    re_at n (s ++ t) = with_rest t (re_at n s) := by
  induction n using Nat.strong_induction_on generalizing s with
  | _ n ih =>
    by_cases hn : n = 0
    · rw [re_at, re_at, dif_pos hn, dif_pos hn]
      rfl
    · by_cases hgot : ∃ b got s', recv n s = (some (b :: got), s')
      · obtain ⟨b, got, s', hrecv⟩ := hgot
        rw [re_at_of_got hn hrecv] at h ⊢
        rw [re_at_of_got hn (recv_append hrecv t)]
        exact bind_with_rest h (ih _ (by omega) s') fun a s _ => rfl
      · have hlost : ∀ b got s', recv n s ≠ (some (b :: got), s') := by simpa using hgot
        rw [re_at_of_lost hn hlost] at h ⊢
        obtain ⟨t, rfl⟩ : ∃ t', t = .timeout :: t' := by
          rcases h with htimeout | hreach
          · exact List.head?_eq_some_iff.1 htimeout
          · exact absurd rfl (hreach s)
        rw [re_at_of_lost hn (recv_none_append hlost t)]
        rfl

theorem read_byte_at_append {t : Socket} (s : Socket) (h : Unaffected t (read_byte_at s)) :
    read_byte_at (s ++ t) = with_rest t (read_byte_at s) :=
  bind_with_rest h (re_at_append 1 s) fun _ _ _ => rfl

theorem rp_length_at_append {t : Socket} (l sh : Nat) (s : Socket) (h : Unaffected t (rp_length_at l sh s)) :
    rp_length_at l sh (s ++ t) = with_rest t (rp_length_at l sh s) := by
  induction l, sh, s using rp_length.induct with
  | case1 l sh s ih =>
    rw [rp_length_at] at h ⊢
    rw [rp_length_at]
    refine bind_with_rest h (read_byte_at_append s) ?_
    intro b s' hrest
    dsimp only at hrest ⊢
    split
    · rfl
    · rename_i hsh
      rw [dif_neg hsh] at hrest
      split
      · rfl
      · rename_i hmore
        rw [if_neg hmore] at hrest
        exact ih b s' hsh hrest

theorem rp_at_append {t : Socket} (s : Socket) (h : Unaffected t (rp_at s)) :
    rp_at (s ++ t) = with_rest t (rp_at s) := by
  refine bind_with_rest h (read_byte_at_append s) ?_
  intro b s₁ h₁
  refine bind_with_rest h₁ (rp_length_at_append 0 0 s₁) ?_
  intro l s₂ h₂
  exact bind_with_rest h₂ (re_at_append l s₂) fun _ _ _ => rfl

/-- A timeout ends the thread where the end of the connection would; a thread
that has stopped before does not get to what comes later. -/
theorem recv_thread_at_append {t : Socket} (s : Socket)
    (h : t.head? = some .timeout ∨ (recv_thread_at s).stop ≠ .disconnected) :
    recv_thread_at (s ++ t) = { recv_thread_at s with socket := (recv_thread_at s).socket ++ t } := by
  -- each packet that is read leaves a smaller socket, with the same stop ahead
  induction hsize : size s using Nat.strong_induction_on generalizing s with
  | _ n ih =>
    cases hat : rp_at s with
    | error failed =>
      obtain ⟨e, s'⟩ := failed
      have hended := recv_thread_at_of_error hat
      have hun : Unaffected t (rp_at s) := by
        rw [hended] at h
        refine h.imp_right fun hstop s'' heq => hstop ?_
        rw [hat] at heq
        cases heq
        rfl
      have happend := rp_at_append s hun
      rw [hat] at happend
      rw [recv_thread_at_of_error happend, hended]
    | ok got =>
      obtain ⟨⟨tp, pl⟩, s'⟩ := got
      have happend := rp_at_append (t := t) s (.inr (by rw [hat]; nofun))
      rw [hat] at happend
      have hlt := rp_size (rp_of_rp_at hat)
      have hended := recv_thread_at_of_ok hat
      rw [recv_thread_at_of_ok happend, hended]
      rw [hended] at h
      split
      · rename_i htp
        rw [if_pos htp] at h
        cases hpub : on_publish tp pl with
        | error e => rfl
        | ok message =>
          rw [hpub] at h
          dsimp only at h ⊢
          rw [ih _ (hsize ▸ hlt) s' h rfl]
          rfl
      · rename_i htp
        rw [if_neg htp] at h
        exact ih _ (hsize ▸ hlt) s' h rfl

/-! ## Streams of packets -/

/-- A PUBLISH that the thread does not get to report: its body is too short for
what is read of it. -/
def Packet.Throws (p : Packet) : Prop := p.header >>> 4 = 3 ∧ ∃ e, on_publish 3 p.body = .error e

/-- A packet that throws is complete within the first `n` bytes of the stream. -/
def ThrowsWithin (ps : List Packet) (n : Nat) : Prop :=
  ∃ before p after, ps = before ++ p :: after ∧ p.Throws ∧ ((before ++ [p]).flatMap Packet.frame).length ≤ n

theorem throwsWithin_cons {p : Packet} {ps : List Packet} {n : Nat} :
    ThrowsWithin (p :: ps) n ↔ p.frame.length ≤ n ∧ (p.Throws ∨ ThrowsWithin ps (n - p.frame.length)) := by
  constructor
  · rintro ⟨before, q, after, heq, hthrows, hlen⟩
    rw [List.flatMap_append, List.flatMap_singleton, List.length_append] at hlen
    cases before with
    | nil =>
      obtain ⟨rfl, rfl⟩ := List.cons.inj heq
      exact ⟨by simpa using hlen, .inl hthrows⟩
    | cons r before =>
      obtain ⟨rfl, rfl⟩ := List.cons.inj heq
      rw [List.flatMap_cons, List.length_append] at hlen
      refine ⟨by omega, .inr ⟨before, q, after, rfl, hthrows, ?_⟩⟩
      rw [List.flatMap_append, List.flatMap_singleton, List.length_append]
      omega
  · rintro ⟨hlen, hthrows | ⟨before, q, after, rfl, hthrows, hlen'⟩⟩
    · exact ⟨[], p, ps, rfl, hthrows, by simpa using hlen⟩
    · refine ⟨p :: before, q, after, rfl, hthrows, ?_⟩
      rw [List.cons_append, List.flatMap_cons, List.length_append]
      omega

theorem size_of_carries {s : Socket} {bs : Bytes} (h : Carries s bs) : size s = bs.length := by
  obtain ⟨pieces, -, rfl, rfl⟩ := h
  induction pieces with
  | nil => rfl
  | cons piece pieces ih =>
    rw [List.map_cons, size, ih, List.flatten_cons, List.length_append]

theorem carries_concat {s : Socket} {bs more : Bytes} (h : Carries s bs) (hmore : more ≠ []) :
    Carries (s ++ [.data more]) (bs ++ more) := by
  obtain ⟨pieces, hpieces, rfl, rfl⟩ := h
  refine ⟨pieces ++ [more], ?_, by simp, by simp⟩
  rw [List.forall_mem_append, List.forall_mem_singleton]
  exact ⟨hpieces, hmore⟩

/-- Where nothing is to be had, no packet is read. -/
theorem rp_at_of_lost {s : Socket} (h : ∀ b got s', recv 1 s ≠ (some (b :: got), s')) :
    rp_at s = .error (.disconnected, s) := by
  rw [rp_at, read_byte_at, re_at_of_lost Nat.one_ne_zero h]
  rfl

theorem rp_at_carries (p : Packet) {rest : Bytes} {s : Socket} (hs : Carries s (p.frame ++ rest)) :
    ∃ s', rp_at s = .ok (p.read, s') ∧ Carries s' rest := by
  rw [Packet.frame, List.cons_append, List.append_assoc] at hs
  obtain ⟨s', hrp, hs'⟩ := rp_carries p.fits hs
  rw [rp_eq] at hrp
  refine ⟨s', ?_, hs'⟩
  cases hat : rp_at s with
  | error failed =>
    rw [hat] at hrp
    cases hrp
  | ok got =>
    rw [hat] at hrp
    cases hrp
    rfl

/-- A packet of which bytes are missing is waited for. -/
theorem rp_at_partial {p : Packet} {bs more rest : Bytes} {s : Socket} (hs : Carries s bs)
    (hframe : bs ++ more = p.frame ++ rest) (hlen : bs.length < p.frame.length) :
    ∃ s', rp_at s = .error (.disconnected, s') := by
  have htotal := congrArg List.length hframe
  rw [List.length_append, List.length_append] at htotal
  have hmore : more ≠ [] := by
    rintro rfl
    rw [List.length_nil] at htotal
    omega
  -- with the missing bytes the packet is read
  have hwhole := carries_concat hs hmore
  rw [hframe] at hwhole
  obtain ⟨s₂, hread, hs₂⟩ := rp_at_carries p hwhole
  cases hat : rp_at s with
  | ok got =>
    obtain ⟨packet, s₁⟩ := got
    have happend := rp_at_append (t := [.data more]) s (.inr (by rw [hat]; nofun))
    rw [hat, hread] at happend
    obtain ⟨-, rfl⟩ := Prod.mk.inj (Except.ok.inj happend)
    have hsize := size_of_carries hs₂
    have hge : more.length ≤ size (s₁ ++ [.data more]) := by
      clear hs₂ hsize happend hread hat
      induction s₁ with
      | nil => exact Nat.le_refl _
      | cons e s₁ ih =>
        cases e with
        | timeout => exact ih
        | data piece => exact ih.trans (Nat.le_add_left _ _)
    omega
  | error failed =>
    obtain ⟨e, s₁⟩ := failed
    by_cases he : e = .disconnected
    · exact ⟨s₁, by rw [he]⟩
    · have hun : Unaffected [.data more] (rp_at s) := by
        refine .inr fun s' heq => he ?_
        rw [hat] at heq
        cases heq
        rfl
      have happend := rp_at_append s hun
      rw [hat, hread] at happend
      cases happend

theorem str_at_ne_disconnected (s : Bytes) (i : Nat) : str_at s i ≠ .error .disconnected := by
  unfold str_at
  split <;> nofun

theorem substr_ne_disconnected (s : Bytes) (pos n : Nat) : substr s pos n ≠ .error .disconnected := by
  unfold substr
  split <;> nofun

theorem bind_ne_error {ε : Type} {e : ε} {x : Except ε α} {f : α → Except ε β} (hx : x ≠ .error e)
    (hf : ∀ a, f a ≠ .error e) : x >>= f ≠ .error e := by
  cases x with
  | error e' => exact fun h => hx (congrArg Except.error (Except.error.inj h))
  | ok a => exact hf a

theorem on_publish_ne_disconnected (tp : UInt8) (pl : Bytes) : on_publish tp pl ≠ .error .disconnected := by
  refine bind_ne_error (str_at_ne_disconnected _ _) fun b0 => ?_
  refine bind_ne_error (str_at_ne_disconnected _ _) fun b1 => ?_
  refine bind_ne_error (substr_ne_disconnected _ _ _) fun topic => ?_
  exact bind_ne_error (substr_ne_disconnected _ _ _) nofun

/-- The thread stops by itself exactly when a packet that throws is complete. -/
theorem stop_iff (ps : List Packet) {bs more : Bytes} {s : Socket} (hs : Carries s bs)
    (hframes : bs ++ more = ps.flatMap Packet.frame) :
    (recv_thread_at s).stop ≠ .disconnected ↔ ThrowsWithin ps bs.length := by
  induction ps generalizing s bs with
  | nil =>
    obtain ⟨rfl, -⟩ := List.append_eq_nil_iff.1 hframes
    have hend : rp_at s = .error (.disconnected, s) := rp_at_of_lost (by rw [hs.nil]; nofun)
    rw [recv_thread_at_of_error hend]
    refine iff_of_false (fun h => h rfl) ?_
    rintro ⟨before, p, after, heq, -⟩
    simp at heq
  | cons p ps ih =>
    rw [List.flatMap_cons] at hframes
    rw [throwsWithin_cons]
    -- the first packet has come in whole, or the thread waits in the middle of it
    by_cases hlen : p.frame.length ≤ bs.length
    · obtain ⟨bs', rfl, hrest⟩ : ∃ bs', bs = p.frame ++ bs' ∧ bs' ++ more = ps.flatMap Packet.frame := by
        rcases List.append_eq_append_iff.1 hframes with ⟨as, h1, h2⟩ | ⟨as, h1, h2⟩
        · have has : as = [] := by
            rw [h1, List.length_append] at hlen
            exact List.length_eq_zero_iff.1 (by omega)
          subst has
          exact ⟨[], by simpa using h1.symm, by simpa using h2⟩
        · exact ⟨as, h1, h2.symm⟩
      obtain ⟨s', hread, hs'⟩ := rp_at_carries p hs
      have hsub : (p.frame ++ bs').length - p.frame.length = bs'.length := by
        rw [List.length_append]
        omega
      rw [hsub, recv_thread_at_of_ok hread]
      have hnext := ih hs' hrest
      by_cases htp : p.header >>> 4 = 3
      · rw [if_pos htp, htp]
        cases hpub : on_publish 3 p.body with
        | error e =>
          have he : e ≠ .disconnected := by
            rintro rfl
            exact on_publish_ne_disconnected 3 p.body hpub
          exact iff_of_true he ⟨hlen, .inl ⟨htp, e, hpub⟩⟩
        | ok message =>
          have hno : ¬p.Throws := by
            rintro ⟨-, e, he⟩
            rw [hpub] at he
            cases he
          rw [or_iff_right hno, and_iff_right hlen]
          exact hnext
      · rw [if_neg htp, or_iff_right fun hthrows => htp hthrows.1, and_iff_right hlen]
        exact hnext
    · obtain ⟨s', hwait⟩ := rp_at_partial hs hframes (Nat.not_le.1 hlen)
      rw [recv_thread_at_of_error hwait]
      exact iff_of_false (fun h => h rfl) fun h => hlen h.1

/-- A stream of whole packets is read to its end. -/
theorem socket_of_frames (ps : List Packet) {s : Socket} (hs : Carries s (ps.flatMap Packet.frame))
    (hstop : (recv_thread_at s).connected = false) : (recv_thread_at s).socket = [] := by
  induction ps generalizing s with
  | nil =>
    have hend : rp_at s = .error (.disconnected, s) := rp_at_of_lost (by rw [hs.nil]; nofun)
    rw [recv_thread_at_of_error hend]
    exact hs.nil
  | cons p ps ih =>
    rw [List.flatMap_cons] at hs
    obtain ⟨s', hread, hs'⟩ := rp_at_carries p hs
    rw [recv_thread_at_of_ok hread] at hstop ⊢
    by_cases htp : p.header >>> 4 = 3
    · rw [if_pos htp, htp] at hstop ⊢
      cases hpub : on_publish 3 p.body with
      | error e =>
        rw [hpub] at hstop
        have he : e = .disconnected := by simpa [Ended.connected] using hstop
        rw [he] at hpub
        exact absurd hpub (on_publish_ne_disconnected 3 p.body)
      | ok message =>
        rw [hpub] at hstop
        exact ih hs' hstop
    · rw [if_neg htp] at hstop ⊢
      exact ih hs' hstop

/-- Timeouts disturb the thread exactly when there is one, unless a packet that
throws is complete before the first. -/
theorem undisturbed_iff (ps : List Packet) {s : Socket} (hne : .data [] ∉ s) (hbytes : bytes s = ps.flatMap Packet.frame) :
    Undisturbed s ↔ .timeout ∉ s ∨ ThrowsWithin ps (bytes (until_timeout s)).length := by
  by_cases htimeout : .timeout ∈ s
  · rw [or_iff_right (not_not.2 htimeout)]
    obtain ⟨t, ht, hsplit, huntimed⟩ := eq_until_timeout htimeout
    have hcarries := carries_bytes (timeout_not_mem_until s) fun h => hne (mem_of_mem_until h)
    have hframes : bytes (until_timeout s) ++ bytes t = ps.flatMap Packet.frame := hsplit.symm.trans hbytes
    rw [← stop_iff ps hcarries hframes]
    have hended := recv_thread_at_append (t := .timeout :: t) (until_timeout s) (.inl rfl)
    rw [← ht] at hended
    constructor
    · intro h hstop
      have hsocket := h.connected
      rw [hended] at hsocket
      have hnil := hsocket (by simp [Ended.connected, hstop])
      simp at hnil
    · intro hstop
      refine ⟨?_, ?_⟩
      · rw [huntimed, recv_thread_at_append _ (.inr hstop), hended]
      · intro hlost
        rw [hended] at hlost
        exact absurd (by simpa [Ended.connected] using hlost) hstop
  · refine iff_of_true ⟨?_, ?_⟩ (.inl htimeout)
    · rw [untimed_of_not_mem htimeout]
    · have hcarries := carries_bytes htimeout hne
      rw [hbytes] at hcarries
      exact socket_of_frames ps hcarries

/-- A PUBLISH of `x` to the topic `a`, with a packet id. -/
def publish_x : Packet := ⟨0x32, [0x00, 0x01, 0x61, 0x00, 0x01, 0x78], by decide⟩

theorem publish_x_frame : [publish_x].flatMap Packet.frame = [0x32, 0x06, 0x00, 0x01, 0x61, 0x00, 0x01, 0x78] := by
  simp [publish_x, Packet.frame, el]

theorem undisturbed_publish_x : Undisturbed [.data [0x32, 0x06, 0x00], .data [0x01, 0x61, 0x00, 0x01, 0x78]] := by
  refine (undisturbed_iff [publish_x] ?_ ?_).2 (.inl ?_)
  · decide
  · rw [publish_x_frame]
    rfl
  · decide

theorem recv_publish_x {s : Socket} (hs : Carries s [0x32, 0x06, 0x00, 0x01, 0x61, 0x00, 0x01, 0x78]) :
    (recv_thread_at s).messages = [([0x61], [0x78])] := by
  have hs' : Carries s (publish_x.frame ++ []) := by
    have hframe := publish_x_frame
    rw [List.flatMap_singleton] at hframe
    rw [hframe]
    exact hs
  obtain ⟨s', hread, hend⟩ := rp_at_carries publish_x hs'
  have hpub : on_publish 3 publish_x.body = .ok ([0x61], [0x78]) := by decide
  have hlost : rp_at s' = .error (.disconnected, s') := rp_at_of_lost (by rw [hend.nil]; nofun)
  rw [recv_thread_at_of_ok hread, if_pos (by decide), show publish_x.header >>> 4 = 3 by decide, hpub,
    recv_thread_at_of_error hlost]
  rfl

/-- Five idle seconds before the first message: the thread is gone when it comes. -/
theorem undisturbed_fails : ∃ ps s, .data [] ∉ s ∧ bytes s = List.flatMap Packet.frame ps ∧
    (recv_thread_at s).connected = false ∧ (recv_thread_at s).socket ≠ [] ∧
    (recv_thread_at s).messages = [] ∧ (recv_thread_at (untimed s)).messages = [([0x61], [0x78])] := by
  let frame : Bytes := [0x32, 0x06, 0x00, 0x01, 0x61, 0x00, 0x01, 0x78]
  have hlost : rp_at [.timeout, .data frame] = .error (.disconnected, [.timeout, .data frame]) := rp_at_of_lost nofun
  have hended := recv_thread_at_of_error hlost
  refine ⟨[publish_x], [.timeout, .data frame], ?_, ?_, ?_, ?_, ?_, ?_⟩
  · decide
  · rw [publish_x_frame]
    rfl
  · rw [hended]
    rfl
  · rw [hended]
    nofun
  · rw [hended]
  · exact recv_publish_x (Carries.of_piece nofun)

end DevSys.MqttClient
