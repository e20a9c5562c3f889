import DevSys.Common.Types
import DevSys.Lib.Runs
import Mathlib.Data.List.Nodup
/-!
# Starting and stopping the HTTP server

The main thread starts and stops the server, one thread accepts connections, and
each connection has a thread of its own that nobody waits for. The rest of the
process opens and closes descriptors meanwhile, and a number that was closed is
given out again.
-/
open Runs

namespace DevSys

/-- What is behind a descriptor. -/
inductive Behind where
  | listener
  | connection
  /-- Opened by another part of the process. -/
  | other
  deriving DecidableEq, Repr

/-- The thread of `accept_loop`. -/
inductive AcceptThread where
  /-- There is none to join. -/
  | none
  | at_loop
  /-- It has seen that the server runs. -/
  | checked
  /-- It has read the descriptor. -/
  | accepting (fd : Int)
  | finished
  deriving DecidableEq, Repr

structure ServerLife where
  server_fd : Int := -1
  running : Bool := false
  accept_thread : AcceptThread := .none
  /-- `stop` waits for the thread. -/
  stopping : Bool := false
  handlers : List Nat := []
  fds : Nat → Option Behind := fun _ => none

namespace ServerLife

/-! ## Calls -/

/-- `start`, with the new descriptor, if there is one, and whether `bind` and
`listen` succeed. To give the thread a new function while it is joinable ends
the process. -/
def start (made : Option (Nat × Bool)) (s : ServerLife) : Option (StatusCode × ServerLife) :=
  match made with
  | none => some (.COMM_DISCONNECTED, { s with server_fd := -1 })
  | some (n, false) => some (.COMM_DISCONNECTED, { s with server_fd := n })
  | some (n, true) =>
    if s.accept_thread ≠ .none then none
    else
      some (.OK,
        { s with
          server_fd := n
          running := true
          accept_thread := .at_loop
          fds := Function.update s.fds n (some .listener) })

/-- `stop` up to the join. -/
def stop (s : ServerLife) : ServerLife :=
  let s := { s with running := false, stopping := true }
  if 0 ≤ s.server_fd then { s with fds := Function.update s.fds s.server_fd.toNat none, server_fd := -1 } else s

/-- The test of the loop. -/
def look (s : ServerLife) : ServerLife := { s with accept_thread := if s.running then .checked else .finished }

/-- The thread of a connection is detached. -/
def serve (c : Nat) (s : ServerLife) : ServerLife :=
  { s with
    accept_thread := .at_loop
    handlers := c :: s.handlers
    fds := Function.update s.fds c (some .connection) }

/-- The last line of `handle_connection`. -/
def answered (c : Nat) (s : ServerLife) : ServerLife :=
  { s with handlers := s.handlers.erase c, fds := Function.update s.fds c none }

/-! ## Steps -/

inductive Label where
  | start (made : Option (Nat × Bool))
  | stop
  /-- `stop` returns. -/
  | joined
  | look
  /-- The descriptor is passed to `accept`. -/
  | read_fd
  /-- `EAGAIN` -/
  | again
  | accepted (c : Nat)
  /-- Any other error ends the loop. -/
  | refused
  | answered (c : Nat)
  | opened (n : Nat)
  | closed (n : Nat)
  deriving DecidableEq, Repr

/-- `start` and `stop` are called by one thread. Only a listener has connections. -/
inductive Step : ServerLife → Label → ServerLife → Prop
  | start {s made sc s'} : s.stopping = false → (∀ p ∈ made, s.fds p.1 = none) → s.start made = some (sc, s') →
      Step s (.start made) s'
  | stop {s} : s.stopping = false → Step s .stop s.stop
  | joined {s} : s.stopping = true → s.accept_thread = .none ∨ s.accept_thread = .finished →
      Step s .joined { s with accept_thread := .none, stopping := false }
  | look {s} : s.accept_thread = .at_loop → Step s .look s.look
  | read_fd {s} : s.accept_thread = .checked → Step s .read_fd { s with accept_thread := .accepting s.server_fd }
  | again {s} {n : Nat} : s.accept_thread = .accepting n → s.fds n = some .listener →
      Step s .again { s with accept_thread := .at_loop }
  | accepted {s} {n : Nat} {c} : s.accept_thread = .accepting n → s.fds n = some .listener → s.fds c = none →
      Step s (.accepted c) (s.serve c)
  | refused {s fd} : s.accept_thread = .accepting fd → Step s .refused { s with accept_thread := .finished }
  | answered {s c} : c ∈ s.handlers → Step s (.answered c) (s.answered c)
  | opened {s n} : s.fds n = none → Step s (.opened n) { s with fds := Function.update s.fds n (some .other) }
  | closed {s n} : s.fds n = some .other → Step s (.closed n) { s with fds := Function.update s.fds n none }

/-- Before the server is started, with what the process has open. -/
def idle (before : Nat → Bool) : ServerLife := { fds := fun n => if before n then some .other else none }

/-- The descriptors of the other parts after a step of theirs. -/
def Label.others (l : Label) (before : Nat → Bool) : Nat → Bool :=
  match l with
  | .opened n => Function.update before n true
  | .closed n => Function.update before n false
  | _ => before

def others (before : Nat → Bool) (tr : List (ServerLife × Label)) : Nat → Bool :=
  tr.foldl (fun b x => x.2.others b) before

/-! ## Order -/

/-- The thread is in its loop, and does not wait at another descriptor. -/
def Attends (n : Nat) : AcceptThread → Prop
  | .at_loop | .checked => True
  | .accepting fd => fd = n
  | .none | .finished => False

/-- Each descriptor has its owner: the listener is the one of a server that
runs, each connection has one thread, and what other parts have opened is as
they left it. A server that runs has a thread that accepts, and one that was
stopped has nothing left. -/
structure InOrder (before : Nat → Bool) (tr : List (ServerLife × Label)) (s : ServerLife) : Prop where
  listener : ∀ n : Nat, s.fds n = some .listener ↔ s.running = true ∧ s.server_fd = n
  connection : ∀ n, s.fds n = some .connection ↔ n ∈ s.handlers
  other : ∀ n, s.fds n = some .other ↔ others before tr n = true
  nodup : s.handlers.Nodup
  serving : s.running = true →
    ∃ n : Nat, s.server_fd = n ∧ Attends n s.accept_thread
  idle : s.running = false → s.server_fd = -1
  quiet : s.running = false → s.stopping = false → s.accept_thread = .none
  stopping : s.stopping = true → s.running = false

/-- A start is not one that fails with a socket in hand, nor one that gets none
while the server runs, and `accept` does not fail in a server that runs. -/
def Label.Sound (s : ServerLife) : Label → Prop
  | .start none | .refused => s.running = false
  | .start (some made) => made.2 = true
  | _ => True

/-- The steps of the accepting thread. -/
def Label.accepts : Label → Bool
  | .look | .read_fd | .again | .accepted _ | .refused => true
  | _ => false

theorem others_snoc (before : Nat → Bool) (tr : List (ServerLife × Label)) (s : ServerLife) (l : Label) :
    others before (tr ++ [(s, l)]) = l.others (others before tr) := by
  rw [others, List.foldl_append]
  rfl

theorem inOrder_idle (before : Nat → Bool) : InOrder before [] (idle before) := by
  constructor <;> simp [idle, others]

section
variable {before : Nat → Bool} {tr : List (ServerLife × Label)} {s s' : ServerLife}

/-- A step that changes no descriptor. -/
theorem InOrder.keep (h : InOrder before tr s) {l : Label} (hl : ∀ b, l.others b = b) (hfds : s'.fds = s.fds)
    (hhandlers : s'.handlers = s.handlers) (hfd : s'.server_fd = s.server_fd) (hrun : s'.running = s.running)
    (hserving : s'.running = true →
      ∃ n : Nat, s'.server_fd = n ∧ Attends n s'.accept_thread)
    (hquiet : s'.running = false → s'.stopping = false → s'.accept_thread = .none)
    (hstopping : s'.stopping = true → s'.running = false) : InOrder before (tr ++ [(s, l)]) s' := by
  refine ⟨?_, ?_, ?_, ?_, hserving, ?_, hquiet, hstopping⟩
  · intro n
    rw [hfds, hrun, hfd]
    exact h.listener n
  · intro n
    rw [hfds, hhandlers]
    exact h.connection n
  · intro n
    rw [others_snoc, hl, hfds]
    exact h.other n
  · rw [hhandlers]
    exact h.nodup
  · rw [hrun, hfd]
    exact h.idle

/-- A server with a thread that is not joined yet, and runs or is being stopped. -/
theorem InOrder.stopping_of_thread (h : InOrder before tr s) (ht : s.accept_thread ≠ .none) (hrun : s.running = false) :
    s.stopping = true := by
  by_contra hstop
  exact ht (h.quiet hrun (by simpa using hstop))

/-- The owners of one kind of descriptor when the number `n` changes hands. -/
theorem owner_update_iff {fds : Nat → Option Behind} {n : Nat} {new : Option Behind} {k : Behind} {P P' : Nat → Prop}
    (h : ∀ m, fds m = some k ↔ P m) (hn : new = some k ↔ P' n) (hrest : ∀ m, m ≠ n → (P' m ↔ P m)) (m : Nat) :
    Function.update fds n new m = some k ↔ P' m := by
  by_cases hm : m = n
  · rw [hm, Function.update_self, hn]
  · rw [Function.update_of_ne hm, h m, hrest m hm]

/-- A number without an owner belongs to nobody. -/
theorem InOrder.free (h : InOrder before tr s) {n : Nat} (hn : s.fds n = none) :
    n ∉ s.handlers ∧ others before tr n = false := by
  constructor
  · rw [← h.connection n, hn]
    simp
  · rw [← Bool.not_eq_true, ← h.other n, hn]
    simp

theorem start_in_order (h : InOrder before tr s) {n : Nat} (hidle : s.stopping = false) (hnone : s.fds n = none)
    (hrun : s.running = false) {sc : StatusCode} (hstart : s.start (some (n, true)) = some (sc, s')) :
    InOrder before (tr ++ [(s, .start (some (n, true)))]) s' := by
  rw [start] at hstart
  split at hstart
  · cases hstart
  cases hstart
  obtain ⟨hhandlers, hothers⟩ := h.free hnone
  refine ⟨?_, ?_, ?_, h.nodup, ?_, ?_, ?_, ?_⟩
  · refine owner_update_iff h.listener (by simp) fun m hm => ?_
    rw [hrun]
    simp [Ne.symm hm]
  · exact owner_update_iff h.connection (by simp [hhandlers]) fun _ _ => Iff.rfl
  · rw [others_snoc]
    exact owner_update_iff h.other (by simp [Label.others, hothers]) fun _ _ => Iff.rfl
  · exact fun _ => ⟨n, rfl, trivial⟩
  · exact fun hrun' => absurd (show true = false from hrun') (by simp)
  · exact fun hrun' => absurd (show true = false from hrun') (by simp)
  · intro hstop
    rw [show s.stopping = true from hstop] at hidle
    cases hidle

theorem start_in_order_iff (h : InOrder before tr s) {made : Option (Nat × Bool)} {sc : StatusCode}
    (hidle : s.stopping = false) (hfree : ∀ p ∈ made, s.fds p.1 = none) (hstart : s.start made = some (sc, s')) :
    InOrder before (tr ++ [(s, .start made)]) s' ↔ (Label.start made).Sound s := by
  rcases made with _ | ⟨n, _ | _⟩
  · cases hstart
    show _ ↔ s.running = false
    constructor
    · intro h'
      by_contra hrun
      obtain ⟨n, hn, -⟩ := h'.serving (by simpa using hrun)
      exact absurd (show (-1 : Int) = n from hn) (by omega)
    · intro hrun
      refine h.keep (fun _ => rfl) rfl rfl (h.idle hrun).symm rfl ?_ h.quiet h.stopping
      intro hrun'
      rw [show s.running = true from hrun'] at hrun
      cases hrun
  · -- the number stays with the server though it is closed
    cases hstart
    refine iff_of_false ?_ Bool.false_ne_true
    intro h'
    have hnone : s.fds n = none := hfree (n, false) rfl
    cases hrun : s.running with
    | true =>
      have hlistener := (h'.listener n).2 ⟨hrun, rfl⟩
      rw [show s.fds n = some .listener from hlistener] at hnone
      cases hnone
    | false => exact absurd (show (n : Int) = -1 from h'.idle hrun) (by omega)
  · refine iff_of_true (start_in_order h hidle (hfree (n, true) rfl) ?_ hstart) rfl
    -- with a thread to join, `start` would have ended the process
    by_contra hrun
    obtain ⟨m, -, hattends⟩ := h.serving (by simpa using hrun)
    rw [start] at hstart
    split at hstart
    · cases hstart
    · rename_i hthread
      rw [not_not.1 hthread] at hattends
      exact hattends

theorem stop_in_order (h : InOrder before tr s) : InOrder before (tr ++ [(s, .stop)]) s.stop := by
  cases hrun : s.running with
  | true =>
    -- the listener that is closed is the server's own
    obtain ⟨n, hn, -⟩ := h.serving hrun
    have hlistener := (h.listener n).2 ⟨hrun, hn⟩
    have hstop : s.stop =
        { s with running := false, stopping := true, fds := Function.update s.fds n none, server_fd := -1 } := by
      have hfd : (0 : Int) ≤ n := by omega
      simp only [stop, hn, if_pos hfd, Int.toNat_natCast]
    rw [hstop]
    refine ⟨?_, ?_, ?_, h.nodup, ?_, fun _ => rfl, ?_, fun _ => rfl⟩
    · refine owner_update_iff h.listener (by simp) fun m hm => ?_
      rw [hn]
      simp [Ne.symm hm]
    · refine owner_update_iff h.connection ?_ fun _ _ => Iff.rfl
      rw [← h.connection n, hlistener]
      simp
    · rw [others_snoc]
      refine owner_update_iff h.other ?_ fun _ _ => Iff.rfl
      show none = some Behind.other ↔ others before tr n = true
      rw [← h.other n, hlistener]
      simp
    · exact fun hrun' => absurd (show false = true from hrun') (by simp)
    · exact fun _ hstop' => absurd (show true = false from hstop') (by simp)
  | false =>
    have hstop : s.stop = { s with running := false, stopping := true } := by
      have hfd : ¬(0 : Int) ≤ -1 := by decide
      simp only [stop, h.idle hrun, if_neg hfd]
    rw [hstop]
    refine h.keep (fun _ => rfl) rfl rfl rfl hrun.symm ?_ ?_ fun _ => rfl
    · exact fun hrun' => absurd (show false = true from hrun') (by simp)
    · exact fun _ hstop' => absurd (show true = false from hstop') (by simp)

theorem serve_in_order (h : InOrder before tr s) {n c : Nat} (hthread : s.accept_thread = .accepting n)
    (hc : s.fds c = none) : InOrder before (tr ++ [(s, .accepted c)]) (s.serve c) := by
  obtain ⟨hhandlers, hothers⟩ := h.free hc
  refine ⟨?_, ?_, ?_, List.nodup_cons.2 ⟨hhandlers, h.nodup⟩, ?_, h.idle, ?_, h.stopping⟩
  · refine owner_update_iff h.listener ?_ fun _ _ => Iff.rfl
    refine iff_of_false (by simp) fun hlistener => ?_
    rw [(h.listener c).2 hlistener] at hc
    cases hc
  · exact owner_update_iff h.connection (by simp [serve]) fun m hm => by simp [serve, hm]
  · rw [others_snoc]
    exact owner_update_iff h.other (by simp [Label.others, hothers]) fun _ _ => Iff.rfl
  · intro hrun
    obtain ⟨m, hm, -⟩ := h.serving hrun
    exact ⟨m, hm, trivial⟩
  · intro hrun hstop
    rw [h.quiet hrun hstop] at hthread
    cases hthread

theorem answered_in_order (h : InOrder before tr s) {c : Nat} (hc : c ∈ s.handlers) :
    InOrder before (tr ++ [(s, .answered c)]) (s.answered c) := by
  have hconnection := (h.connection c).2 hc
  refine ⟨?_, ?_, ?_, h.nodup.erase c, h.serving, h.idle, h.quiet, h.stopping⟩
  · refine owner_update_iff h.listener ?_ fun _ _ => Iff.rfl
    refine iff_of_false (by simp) fun hlistener => ?_
    rw [(h.listener c).2 hlistener] at hconnection
    cases hconnection
  · refine owner_update_iff h.connection ?_ fun m hm => ?_
    · simp [answered, h.nodup.mem_erase_iff]
    · simp [answered, h.nodup.mem_erase_iff, hm]
  · rw [others_snoc]
    refine owner_update_iff h.other ?_ fun _ _ => Iff.rfl
    show none = some Behind.other ↔ others before tr c = true
    rw [← h.other c, hconnection]
    simp

/-- A descriptor of another part, before and after. -/
theorem foreign_in_order (h : InOrder before tr s) (open_ : Bool) {l : Label} {n : Nat} {old : Option Behind}
    (hold : s.fds n = old) (ho : old = none ∨ old = some .other) (hl : ∀ b, l.others b = Function.update b n open_) :
    InOrder before (tr ++ [(s, l)])
      { s with fds := Function.update s.fds n (if open_ then some .other else none) } := by
  have hkind : ∀ k, k ≠ .other → (if open_ then some .other else none : Option Behind) ≠ some k ∧ s.fds n ≠ some k := by
    intro k hk
    rw [hold]
    constructor
    · cases open_ <;> simp [Ne.symm hk]
    · rcases ho with rfl | rfl <;> simp [Ne.symm hk]
  refine ⟨?_, ?_, ?_, h.nodup, h.serving, h.idle, h.quiet, h.stopping⟩
  · obtain ⟨hnew, hgone⟩ := hkind .listener (by simp)
    exact owner_update_iff h.listener (iff_of_false hnew (mt (h.listener n).2 hgone)) fun _ _ => Iff.rfl
  · obtain ⟨hnew, hgone⟩ := hkind .connection (by simp)
    exact owner_update_iff h.connection (iff_of_false hnew (mt (h.connection n).2 hgone)) fun _ _ => Iff.rfl
  · rw [others_snoc, hl]
    refine owner_update_iff h.other ?_ fun m hm => ?_
    · cases open_ <;> simp
    · rw [Function.update_of_ne hm]

/-- A step keeps the order exactly when it is sound. -/
theorem step_in_order_iff (h : InOrder before tr s) {l : Label} (hstep : Step s l s') :
    InOrder before (tr ++ [(s, l)]) s' ↔ l.Sound s := by
  cases hstep with
  | start hidle hfree hstart => exact start_in_order_iff h hidle hfree hstart
  | stop _ => exact iff_of_true (stop_in_order h) trivial
  | joined hstop _ =>
    have hrun := h.stopping hstop
    refine iff_of_true (h.keep (fun _ => rfl) rfl rfl rfl rfl ?_ (fun _ _ => rfl) ?_) trivial
    · intro hrun'
      rw [show s.running = true from hrun'] at hrun
      cases hrun
    · exact fun hstop' => absurd (show false = true from hstop') (by simp)
  | look hthread =>
    refine iff_of_true (h.keep (fun _ => rfl) rfl rfl rfl rfl ?_ ?_ h.stopping) trivial
    · intro hrun
      obtain ⟨n, hn, -⟩ := h.serving hrun
      refine ⟨n, hn, ?_⟩
      show Attends n (if s.running then .checked else .finished)
      rw [if_pos (show s.running = true from hrun)]
      trivial
    · intro hrun hstop
      rw [h.quiet hrun hstop] at hthread
      cases hthread
  | read_fd hthread =>
    refine iff_of_true (h.keep (fun _ => rfl) rfl rfl rfl rfl ?_ ?_ h.stopping) trivial
    · intro hrun
      obtain ⟨n, hn, -⟩ := h.serving hrun
      exact ⟨n, hn, hn⟩
    · intro hrun hstop
      rw [h.quiet hrun hstop] at hthread
      cases hthread
  | again hthread _ =>
    refine iff_of_true (h.keep (fun _ => rfl) rfl rfl rfl rfl ?_ ?_ h.stopping) trivial
    · intro hrun
      obtain ⟨n, hn, -⟩ := h.serving hrun
      exact ⟨n, hn, trivial⟩
    · intro hrun hstop
      rw [h.quiet hrun hstop] at hthread
      cases hthread
  | accepted hthread _ hc => exact iff_of_true (serve_in_order h hthread hc) trivial
  | refused hthread =>
    show _ ↔ s.running = false
    constructor
    · intro h'
      by_contra hrun
      obtain ⟨n, -, hn⟩ := h'.serving (by simpa using hrun)
      exact hn
    · intro hrun
      refine h.keep (fun _ => rfl) rfl rfl rfl rfl ?_ ?_ h.stopping
      · intro hrun'
        rw [show s.running = true from hrun'] at hrun
        cases hrun
      · intro _ hstop
        have hstopping := h.stopping_of_thread (by rw [hthread]; simp) hrun
        rw [show s.stopping = false from hstop] at hstopping
        cases hstopping
  | answered hc => exact iff_of_true (answered_in_order h hc) trivial
  | opened hn => exact iff_of_true (foreign_in_order h true hn (.inl rfl) fun _ => rfl) trivial
  | closed hn => exact iff_of_true (foreign_in_order h false hn (.inr rfl) fun _ => rfl) trivial

end

/-! ## Stopping -/

/-- What the thread can still do once the server does not run. -/
def steps_left : AcceptThread → Nat
  | .checked => 3
  | .accepting _ => 2
  | .at_loop => 1
  | .none | .finished => 0

theorem steps_left_le (t : AcceptThread) : steps_left t ≤ 3 := by
  cases t <;> simp [steps_left]

/-- `start` and `stop` wait for each other, so nothing sets the flag again. -/
theorem stopping_run {before : Nat → Bool} {tr : List (ServerLife × Label)} {s : ServerLife}
    (h : Run Step (idle before) tr s) : s.stopping = true → s.running = false := by
  refine h.inv (fun s => s.stopping = true → s.running = false) (fun hstop => ?_) ?_
  · cases hstop
  intro s l s' hs hstep
  cases hstep with
  | start hidle _ hstart =>
    intro hstop
    have hsame : s'.stopping = s.stopping := by
      unfold start at hstart
      split at hstart
      · cases hstart
        rfl
      · cases hstart
        rfl
      · split at hstart
        · cases hstart
        · cases hstart
          rfl
    rw [← hsame, hstop] at hidle
    cases hidle
  | stop _ =>
    intro _
    unfold stop
    dsimp only
    split <;> rfl
  | joined _ _ => exact fun hstop => absurd (show false = true from hstop) (by simp)
  | _ => exact hs

/-- While `stop` waits, each step of the thread leaves it less to do. -/
theorem step_stopping {s s' : ServerLife} {l : Label} (hstop : s.stopping = true) (hrun : s.running = false)
    (hjoin : l ≠ .joined) (hstep : Step s l s') :
    s'.stopping = true ∧ s'.running = false ∧
      steps_left s'.accept_thread + (if l.accepts then 1 else 0) ≤ steps_left s.accept_thread := by
  cases hstep with
  | start hidle _ _ =>
    rw [hstop] at hidle
    cases hidle
  | stop hidle =>
    rw [hstop] at hidle
    cases hidle
  | joined _ _ => exact absurd rfl hjoin
  | look hthread =>
    -- the thread sees that the server does not run
    refine ⟨hstop, hrun, ?_⟩
    rw [hthread, look, if_neg (by rw [hrun]; simp)]
    rfl
  | read_fd hthread =>
    refine ⟨hstop, hrun, ?_⟩
    rw [hthread]
    rfl
  | again hthread _ =>
    refine ⟨hstop, hrun, ?_⟩
    rw [hthread]
    rfl
  | accepted hthread _ _ =>
    refine ⟨hstop, hrun, ?_⟩
    rw [hthread]
    rfl
  | refused hthread =>
    refine ⟨hstop, hrun, ?_⟩
    rw [hthread]
    exact Nat.le_succ 1
  | answered _ => exact ⟨hstop, hrun, le_rfl⟩
  | opened _ => exact ⟨hstop, hrun, le_rfl⟩
  | closed _ => exact ⟨hstop, hrun, le_rfl⟩

theorem run_stopping {s s' : ServerLife} {mid : List (ServerLife × Label)} (hstop : s.stopping = true)
    (hrun : s.running = false) (h : Run Step s mid s') (hjoin : ∀ p ∈ mid, p.2 ≠ .joined) :
    s'.stopping = true ∧ s'.running = false ∧
      steps_left s'.accept_thread + mid.countP (fun p => p.2.accepts) ≤ steps_left s.accept_thread := by
  induction h with
  | nil => exact ⟨hstop, hrun, le_rfl⟩
  | @snoc mid u l s' _ hstep ih =>
    rw [List.forall_mem_append, List.forall_mem_singleton] at hjoin
    obtain ⟨hstop', hrun', hleft⟩ := ih hjoin.1
    obtain ⟨hstop'', hrun'', hless⟩ := step_stopping hstop' hrun' hjoin.2 hstep
    refine ⟨hstop'', hrun'', ?_⟩
    rw [List.countP_append, List.countP_singleton]
    omega

/-- `accept` does not block, so the thread or `stop` itself can go on. -/
theorem stop_goes_on {s : ServerLife} (hstop : s.stopping = true) :
    ∃ l s', (l = .joined ∨ l.accepts = true) ∧ Step s l s' := by
  cases hthread : s.accept_thread with
  | none => exact ⟨.joined, _, .inl rfl, .joined hstop (.inl hthread)⟩
  | at_loop => exact ⟨.look, _, .inr rfl, .look hthread⟩
  | checked => exact ⟨.read_fd, _, .inr rfl, .read_fd hthread⟩
  | accepting fd => exact ⟨.refused, _, .inr rfl, .refused hthread⟩
  | finished => exact ⟨.joined, _, .inl rfl, .joined hstop (.inr hthread)⟩

end ServerLife

end DevSys
