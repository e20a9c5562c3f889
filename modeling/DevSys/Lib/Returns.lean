import DevSys.Lib.Strings
/-!
# Computations that return

Whether a computation with exceptions ends with a value, by the way it is
composed. The parts before an exception decide whether it is reached.
-/

namespace Cxx
variable {ε ε' α β : Type}

/-- No exception leaves the computation. -/
def Returns (x : Except ε α) : Prop := ∃ a, x = .ok a

@[simp] theorem returns_ok (a : α) : Returns (.ok a : Except ε α) := ⟨a, rfl⟩

@[simp] theorem returns_pure (a : α) : Returns (pure a : Except ε α) := ⟨a, rfl⟩

@[simp] theorem not_returns_error (e : ε) : ¬ Returns (.error e : Except ε α) := by
  rintro ⟨a, h⟩
  cases h

theorem forall_ok_iff {x : Except ε α} {p : Prop} : (∀ a, x = .ok a → p) ↔ (Returns x → p) := by
  constructor
  · rintro h ⟨a, ha⟩
    exact h a ha
  · intro h a ha
    exact h ⟨a, ha⟩

/-! ## One after the other -/

theorem returns_bind {x : Except ε α} {f : α → Except ε β} :
    Returns (x >>= f) ↔ Returns x ∧ ∀ a, x = .ok a → Returns (f a) := by
  cases x with
  | error e =>
    refine iff_of_false (not_returns_error e) ?_
    rintro ⟨h, -⟩
    exact not_returns_error e h
  | ok a =>
    have hbind : (Except.ok a >>= f : Except ε β) = f a := rfl
    rw [hbind]
    constructor
    · intro h
      refine ⟨returns_ok a, ?_⟩
      rintro _ ⟨⟩
      exact h
    · rintro ⟨-, h⟩
      exact h a rfl

theorem returns_ok_bind {a : α} {f : α → Except ε β} :
    Returns ((.ok a : Except ε α) >>= f) ↔ Returns (f a) := Iff.rfl

/-- The value of the first part does not matter to whether the second returns. -/
theorem returns_bind_of {x : Except ε α} {f : α → Except ε β} {P : Prop} (h : ∀ a, Returns (f a) ↔ P) :
    Returns (x >>= f) ↔ Returns x ∧ P := by
  rw [returns_bind]
  refine and_congr_right ?_
  rintro ⟨a, rfl⟩
  exact ⟨fun hf => (h a).1 (hf a rfl), fun hp b _ => (h b).2 hp⟩

theorem returns_seq {x : Except ε α} {y : Except ε β} : Returns (x >>= fun _ => y) ↔ Returns x ∧ Returns y :=
  returns_bind_of fun _ => Iff.rfl

@[simp] theorem returns_map {x : Except ε α} {f : α → β} : Returns (x.map f) ↔ Returns x := by
  cases x with
  | error e => exact iff_of_false (not_returns_error e) (not_returns_error e)
  | ok a => exact iff_of_true (returns_ok (f a)) (returns_ok a)

@[simp] theorem returns_mapError {x : Except ε α} {f : ε → ε'} : Returns (x.mapError f) ↔ Returns x := by
  cases x with
  | error e => exact iff_of_false (not_returns_error (f e)) (not_returns_error e)
  | ok a => exact iff_of_true (returns_ok a) (returns_ok a)

theorem returns_ite {c : Prop} [Decidable c] {x y : Except ε α} :
    Returns (if c then x else y) ↔ (c → Returns x) ∧ (¬c → Returns y) := by
  by_cases h : c
  · rw [if_pos h]
    exact ⟨fun hx => ⟨fun _ => hx, fun hn => absurd h hn⟩, fun hx => hx.1 h⟩
  · rw [if_neg h]
    exact ⟨fun hy => ⟨fun hc => absurd hc h, fun _ => hy⟩, fun hy => hy.2 h⟩

theorem returns_ite_ok {c : Prop} [Decidable c] {a : α} {y : Except ε α} :
    Returns (if c then .ok a else y) ↔ (¬c → Returns y) := by
  rw [returns_ite, and_iff_right fun _ => returns_ok a]

/-- A loop whose step can only fail on the element it gets. -/
theorem returns_foldlM {f : β → α → Except ε β} {P : α → Prop} (hf : ∀ b a, Returns (f b a) ↔ P a)
    (l : List α) (b : β) :
    Returns (l.foldlM f b) ↔ ∀ a ∈ l, P a := by
  induction l generalizing b with
  | nil => simp
  | cons a l ih =>
    rw [List.foldlM_cons, returns_bind, hf, List.forall_mem_cons]
    refine and_congr_right fun ha => ?_
    obtain ⟨b', hb'⟩ := (hf b a).2 ha
    constructor
    · intro h
      exact (ih b').1 (h b' hb')
    · intro h b'' _
      exact (ih b'').2 h

theorem returns_forM {f : α → Except ε PUnit} (l : List α) : Returns (l.forM f) ↔ ∀ a ∈ l, Returns (f a) := by
  induction l with
  | nil => simp [List.forM]
  | cons a l ih =>
    have hcons : (a :: l).forM f = f a >>= fun _ => l.forM f := rfl
    rw [hcons, returns_seq, ih, List.forall_mem_cons]

/-! ## Numbers in text -/

theorem stoi_returns_iff (s : Str) : Returns (stoi s) ↔ IsIntText 32 s := stoi_isOk_iff s

theorem stoll_returns_iff (s : Str) : Returns (stoll s) ↔ IsIntText 64 s := stoll_isOk_iff s

end Cxx
