import Mathlib.Logic.Basic
/-!
# Runs of a labelled step relation

A run records, for each step, the state before it and its label.
-/

namespace Runs
variable {σ ε : Type}

inductive Run (step : σ → ε → σ → Prop) (init : σ) : List (σ × ε) → σ → Prop
  | nil : Run step init [] init
  | snoc {tr s e s'} : Run step init tr s → step s e s' → Run step init (tr ++ [(s, e)]) s'

variable {step : σ → ε → σ → Prop} {init : σ}

/-- A property of the initial state that every step that is `ok` keeps holds
throughout a run of such steps. -/
theorem Run.inv_of_ok (I : σ → Prop) (ok : σ → ε → Prop) (h0 : I init)
    (hs : ∀ s e s', I s → ok s e → step s e s' → I s') {tr s} (h : Run step init tr s)
    (hok : ∀ p ∈ tr, ok p.1 p.2) : (∀ p ∈ tr, I p.1) ∧ I s := by
  induction h with
  | nil => exact ⟨by simp, h0⟩
  | @snoc tr s e s' _ hstep ih =>
    rw [List.forall_mem_append, List.forall_mem_singleton] at hok
    obtain ⟨htr, hi⟩ := ih hok.1
    rw [List.forall_mem_append, List.forall_mem_singleton]
    exact ⟨⟨htr, hi⟩, hs _ _ _ hi hok.2 hstep⟩

/-- A property of the initial state that every step keeps holds at the end of a run. -/
theorem Run.inv (I : σ → Prop) (h0 : I init) (hs : ∀ s e s', I s → step s e s' → I s') {tr s}
    (h : Run step init tr s) : I s :=
  (h.inv_of_ok I (fun _ _ => True) h0 (fun s e s' hi _ => hs s e s' hi) fun _ _ => trivial).2

/-- A run of steps that all have a property is one of the steps that have it. -/
theorem Run.restrict {ok : σ → ε → Prop} {tr s} (h : Run step init tr s) (hok : ∀ p ∈ tr, ok p.1 p.2) :
    Run (fun s e s' => ok s e ∧ step s e s') init tr s := by
  induction h with
  | nil => exact .nil
  | snoc _ hstep ih =>
    rw [List.forall_mem_append, List.forall_mem_singleton] at hok
    exact (ih hok.1).snoc ⟨hok.2, hstep⟩

/-- A run goes through the state that its first part ends in. -/
theorem Run.split {pre post : List (σ × ε)} {s : σ} (h : Run step init (pre ++ post) s) :
    ∃ u, Run step init pre u ∧ Run step u post s := by
  generalize htr : pre ++ post = tr at h
  induction h generalizing post with
  | nil =>
    obtain ⟨rfl, rfl⟩ := List.append_eq_nil_iff.1 htr
    exact ⟨init, .nil, .nil⟩
  | @snoc tr s e s' hrun hstep ih =>
    rcases List.eq_nil_or_concat post with rfl | ⟨mid, r, rfl⟩
    · rw [List.append_nil] at htr
      rw [htr]
      exact ⟨s', hrun.snoc hstep, .nil⟩
    · rw [List.concat_eq_append, ← List.append_assoc] at htr
      obtain ⟨hmid, hr⟩ := List.append_inj' htr rfl
      obtain rfl := List.singleton_inj.1 hr
      obtain ⟨u, hpre, hpost⟩ := ih hmid
      rw [List.concat_eq_append]
      exact ⟨u, hpre, hpost.snoc hstep⟩

theorem Run.snoc_inv {tr : List (σ × ε)} {u s : σ} {e : ε} (h : Run step init (tr ++ [(u, e)]) s) :
    Run step init tr u ∧ step u e s := by
  generalize hwhole : tr ++ [(u, e)] = whole at h
  cases h with
  | nil => simp at hwhole
  | snoc hrun hstep =>
    obtain ⟨rfl, hlast⟩ := List.append_inj' hwhole rfl
    cases hlast
    exact ⟨hrun, hstep⟩

/-- What a step of a run sets up, and all its steps keep, holds at the end. -/
theorem Run.holds_of_mem (P : σ → Prop) {tr s} (h : Run step init tr s)
    (hkeep : ∀ u f u', (u, f) ∈ tr → P u → step u f u' → P u') {p : σ × ε} (hp : p ∈ tr)
    (hset : ∀ u', step p.1 p.2 u' → P u') : P s := by
  induction h with
  | nil => cases hp
  | @snoc tr s e s' _ hstep ih =>
    rcases List.mem_append.1 hp with hp | hp
    · have hs := ih (fun u f u' hmem => hkeep u f u' (List.mem_append_left _ hmem)) hp
      exact hkeep s e s' (List.mem_append_right _ (List.mem_singleton_self _)) hs hstep
    · obtain rfl := List.mem_singleton.1 hp
      exact hset s' hstep

/-- If a step from a state with `P` leads to a state with `P` exactly when the
step is `ok`, then all states of a run have `P` exactly when all its steps are
`ok`. `I` is an invariant of the steps that are `ok`, to rely on. -/
theorem Run.all_iff_of_ok (I P : σ → Prop) (ok : σ → ε → Prop) (hI : I init) (hP : P init)
    (hkeep : ∀ s e s', I s → P s → ok s e → step s e s' → I s')
    (hok : ∀ s e s', I s → P s → step s e s' → (P s' ↔ ok s e)) {tr s} (h : Run step init tr s) :
    (∀ p ∈ tr, P p.1) ∧ P s ↔ ∀ p ∈ tr, ok p.1 p.2 := by
  suffices hall : ((∀ p ∈ tr, P p.1) ∧ P s ↔ ∀ p ∈ tr, ok p.1 p.2) ∧ ((∀ p ∈ tr, ok p.1 p.2) → I s) from hall.1
  induction h with
  | nil => simp [hP, hI]
  | @snoc tr s e s' _ hstep ih =>
    obtain ⟨hiff, hinv⟩ := ih
    simp only [List.forall_mem_append, List.forall_mem_singleton]
    refine ⟨⟨?_, ?_⟩, ?_⟩
    · rintro ⟨htr, hs'⟩
      have hall := hiff.1 htr
      exact ⟨hall, (hok _ _ _ (hinv hall) htr.2 hstep).1 hs'⟩
    · rintro ⟨hall, hse⟩
      have htr := hiff.2 hall
      exact ⟨htr, (hok _ _ _ (hinv hall) htr.2 hstep).2 hse⟩
    · rintro ⟨hall, hse⟩
      exact hkeep _ _ _ (hinv hall) (hiff.2 hall).2 hse hstep

/-- `Run.all_iff_of_ok` with an invariant of all steps. -/
theorem Run.all_iff (I P : σ → Prop) (ok : σ → ε → Prop) (hI : I init) (hP : P init)
    (hkeep : ∀ s e s', I s → step s e s' → I s')
    (hok : ∀ s e s', I s → P s → step s e s' → (P s' ↔ ok s e)) {tr s} (h : Run step init tr s) :
    (∀ p ∈ tr, P p.1) ∧ P s ↔ ∀ p ∈ tr, ok p.1 p.2 :=
  h.all_iff_of_ok I P ok hI hP (fun s e s' hi _ _ => hkeep s e s' hi) hok

/-- If a step leads to a state with `P` exactly when it starts from one and is
`ok`, then a run ends in a state with `P` exactly when all its steps are `ok`. -/
theorem Run.ends_iff (P : σ → Prop) (ok : σ → ε → Prop) (h0 : P init)
    (hok : ∀ s e s', step s e s' → (P s' ↔ P s ∧ ok s e)) {tr s} (h : Run step init tr s) :
    P s ↔ ∀ p ∈ tr, ok p.1 p.2 := by
  induction h with
  | nil => simp [h0]
  | snoc _ hstep ih => rw [hok _ _ _ hstep, ih, List.forall_mem_append, List.forall_mem_singleton]

/-! ## Step functions -/

/-- The states that a step function passes, with the labels it is given. -/
def passed (f : σ → ε → σ) (init : σ) : List ε → List (σ × ε)
  | [] => []
  | e :: es => (init, e) :: passed f (f init e) es

theorem Run.append_passed {f : σ → ε → σ} {tr : List (σ × ε)} {s : σ}
    (h : Run (fun s e s' => f s e = s') init tr s) (es : List ε) :
    Run (fun s e s' => f s e = s') init (tr ++ passed f s es) (es.foldl f s) := by
  induction es generalizing tr s with
  | nil => simpa [passed] using h
  | cons e es ih =>
    have hnext := ih (h.snoc (e := e) rfl)
    rwa [List.append_assoc] at hnext

theorem run_passed (f : σ → ε → σ) (init : σ) (es : List ε) :
    Run (fun s e s' => f s e = s') init (passed f init es) (es.foldl f init) :=
  Run.nil.append_passed es

/-! ## The states of a run in order -/

/-- The states of a run, the last one included. -/
def moments (tr : List (σ × ε)) (s : σ) : List σ := tr.map (·.1) ++ [s]

theorem moments_snoc (tr : List (σ × ε)) (s : σ) (e : ε) (s' : σ) :
    moments (tr ++ [(s, e)]) s' = moments tr s ++ [s'] := by
  rw [moments, moments, List.map_append, List.map_singleton]

/-- A step of a longer run is the last one, or one of the run before. -/
theorem snoc_eq_split_iff {α : Type} {tr pre post : List α} {p q : α} :
    tr ++ [p] = pre ++ q :: post ↔
      (tr = pre ∧ p = q ∧ post = []) ∨ ∃ mid, tr = pre ++ q :: mid ∧ post = mid ++ [p] := by
  constructor
  · intro heq
    rcases List.eq_nil_or_concat post with rfl | ⟨mid, r, rfl⟩
    · obtain ⟨htr, hp⟩ := List.append_inj' heq rfl
      exact .inl ⟨htr, List.singleton_inj.1 hp, rfl⟩
    · rw [List.concat_eq_append, ← List.cons_append, ← List.append_assoc] at heq
      obtain ⟨htr, hp⟩ := List.append_inj' heq rfl
      obtain rfl := List.singleton_inj.1 hp
      exact .inr ⟨mid, htr, List.concat_eq_append⟩
  · rintro (⟨rfl, rfl, rfl⟩ | ⟨mid, rfl, rfl⟩)
    · rfl
    · rw [List.append_assoc, List.cons_append]

/-- The state after a step of a run is one of the later ones. -/
theorem Run.exists_next {pre post : List (σ × ε)} {u : σ} {e : ε} {s : σ}
    (h : Run step init (pre ++ (u, e) :: post) s) : ∃ u' ∈ moments post s, step u e u' := by
  generalize htr : pre ++ (u, e) :: post = tr at h
  induction h generalizing post with
  | nil => simp at htr
  | @snoc tr s f s' _ hstep ih =>
    rcases snoc_eq_split_iff.1 htr.symm with ⟨rfl, hlast, rfl⟩ | ⟨mid, hmid, rfl⟩
    · cases hlast
      exact ⟨s', by simp [moments], hstep⟩
    · obtain ⟨u', hu', hstep'⟩ := ih hmid.symm
      rw [moments_snoc]
      exact ⟨u', List.mem_append_left _ hu', hstep'⟩

/-- A property of all the steps of a run and what was before each. -/
theorem forall_split_snoc {P : List (σ × ε) → σ → ε → Prop} {tr : List (σ × ε)} {s : σ} {e : ε} :
    (∀ pre u f post, tr ++ [(s, e)] = pre ++ (u, f) :: post → P pre u f) ↔
      (∀ pre u f post, tr = pre ++ (u, f) :: post → P pre u f) ∧ P tr s e := by
  constructor
  · intro h
    refine ⟨?_, h tr s e [] rfl⟩
    rintro pre u f post rfl
    exact h pre u f (post ++ [(s, e)]) (by simp)
  · rintro ⟨h, hlast⟩ pre u f post heq
    rcases snoc_eq_split_iff.1 heq with ⟨rfl, hse, -⟩ | ⟨mid, rfl, -⟩
    · cases hse
      exact hlast
    · exact h pre u f mid rfl

/-- If a property of the run so far and its state is kept by a step exactly when
the step is `ok`, then it holds throughout a run exactly when all its steps are
`ok`. -/
theorem Run.throughout_iff (P : List (σ × ε) → σ → Prop) (ok : σ → ε → Prop) (h0 : P [] init)
    (hok : ∀ tr s e s', P tr s → step s e s' → (P (tr ++ [(s, e)]) s' ↔ ok s e)) {tr s} (h : Run step init tr s) :
    (∀ pre u e post, tr = pre ++ (u, e) :: post → P pre u) ∧ P tr s ↔ ∀ p ∈ tr, ok p.1 p.2 := by
  induction h with
  | nil => simp [h0]
  | @snoc tr s e s' _ hstep ih =>
    rw [List.forall_mem_append, List.forall_mem_singleton, ← ih, forall_split_snoc (P := fun pre u _ => P pre u)]
    exact and_congr_right fun hall => hok _ _ _ _ hall.2 hstep

/-- If the state after a step is related to all the states before it exactly
when the step is `ok`, then all states of a run are related in their order
exactly when all its steps are `ok`. -/
theorem Run.pairwise_iff (R : σ → σ → Prop) (ok : List (σ × ε) → σ → ε → Prop)
    (hok : ∀ tr s e s', Run step init tr s → step s e s' → (moments tr s).Pairwise R →
      ((∀ u ∈ moments tr s, R u s') ↔ ok tr s e)) {tr s} (h : Run step init tr s) :
    (moments tr s).Pairwise R ↔ ∀ pre u e post, tr = pre ++ (u, e) :: post → ok pre u e := by
  induction h with
  | nil => simp [moments]
  | snoc hrun hstep ih =>
    rw [moments_snoc, List.pairwise_append, forall_split_snoc, ← ih]
    simp only [List.pairwise_singleton, List.forall_mem_singleton, true_and]
    exact and_congr_right fun hpair => hok _ _ _ _ hrun hstep hpair

end Runs
