import Mathlib.Data.List.Perm.Basic
/-!
# The champion of a list

A pass over a list that keeps the best element so far. `beats` need not be an
order: with one that is not, the champion can depend on the order of the list.
-/

namespace Champion
variable {α : Type} (beats : α → Option α → Bool)

/-- The best so far after one more element. -/
def challenge (best : Option α) (a : α) : Option α := if beats a best then some a else best

def champion (l : List α) : Option α := l.foldl (challenge beats) none

variable {beats}

/-- The best so far is one of those that were seen. -/
theorem foldl_challenge_mem (l : List α) (best : Option α) :
    l.foldl (challenge beats) best = best ∨ ∃ a ∈ l, l.foldl (challenge beats) best = some a := by
  induction l generalizing best with
  | nil => exact .inl rfl
  | cons a l ih =>
    rw [List.foldl_cons]
    rcases ih (challenge beats best a) with h | ⟨b, hb, h⟩
    · rw [h, challenge]
      split
      · exact .inr ⟨a, List.mem_cons_self, rfl⟩
      · exact .inl rfl
    · exact .inr ⟨b, List.mem_cons_of_mem a hb, h⟩

theorem champion_mem {l : List α} {a : α} (h : champion beats l = some a) : a ∈ l := by
  rw [champion] at h
  rcases foldl_challenge_mem l none with hnone | ⟨b, hb, hsome⟩
  · rw [hnone] at h
    cases h
  · rw [hsome] at h
    rwa [← Option.some.inj h]

/-- An element that no other one beats stays the best. -/
theorem foldl_challenge_of_stays {e : α} {l : List α} (hstay : ∀ a ∈ l, a ≠ e → beats a (some e) = false) :
    l.foldl (challenge beats) (some e) = some e := by
  induction l with
  | nil => rfl
  | cons a l ih =>
    rw [List.forall_mem_cons] at hstay
    have hkeep : challenge beats (some e) a = some e := by
      by_cases ha : a = e
      · rw [ha, challenge, ite_self]
      · rw [challenge, hstay.1 ha]
        rfl
    rw [List.foldl_cons, hkeep]
    exact ih hstay.2

section
variable {e : α} {l : List α} (hnone : beats e none = true) (hwin : ∀ a ∈ l, a ≠ e → beats e (some a) = true)
include hnone hwin

/-- An element that beats all others is the best when it has been seen. -/
theorem challenge_of_wins : challenge beats (champion beats l) e = some e := by
  cases h : champion beats l with
  | none => rw [challenge, if_pos hnone]
  | some a =>
    by_cases hae : a = e
    · rw [hae, challenge, ite_self]
    · rw [challenge, if_pos (hwin a (champion_mem h) hae)]

/-- An element that beats all others is the champion of every order exactly
when none of them beats it. -/
theorem champion_perm_iff (he : e ∈ l) :
    (∀ l', l'.Perm l → champion beats l' = some e) ↔ ∀ a ∈ l, a ≠ e → beats a (some e) = false := by
  constructor
  · intro hall a ha hne
    -- everything else first, then the two
    obtain ⟨pre, post, rfl⟩ := List.append_of_mem he
    have hrest : a ∈ pre ++ post := by
      simp only [List.mem_append, List.mem_cons] at ha ⊢
      tauto
    obtain ⟨pre', post', heq⟩ := List.append_of_mem hrest
    have hperm : (pre' ++ post' ++ [e, a]).Perm (pre ++ e :: post) := by
      have hend : (pre' ++ post' ++ [e, a]).Perm (e :: a :: (pre' ++ post')) := List.perm_append_comm
      have hmid : (a :: (pre' ++ post')).Perm (pre ++ post) := heq ▸ List.perm_middle.symm
      exact (hend.trans (hmid.cons e)).trans List.perm_middle.symm
    have hchamp := hall _ hperm
    have hwin' : ∀ b ∈ pre' ++ post', b ≠ e → beats e (some b) = true := by
      intro b hb
      exact hwin b (hperm.subset (List.mem_append_left _ hb))
    have hafter := challenge_of_wins hnone hwin'
    rw [champion, List.foldl_append, List.foldl_cons, List.foldl_cons, List.foldl_nil] at hchamp
    rw [champion] at hafter
    rw [hafter, challenge] at hchamp
    by_contra hbeats
    rw [if_pos (by simpa using hbeats)] at hchamp
    exact hne (Option.some.inj hchamp)
  · intro hstay l' hperm
    obtain ⟨pre, post, rfl⟩ := List.append_of_mem (hperm.mem_iff.2 he)
    have hpre := challenge_of_wins (l := pre) hnone fun a ha => hwin a (hperm.subset (List.mem_append_left _ ha))
    rw [champion] at hpre
    rw [champion, List.foldl_append, List.foldl_cons, hpre]
    refine foldl_challenge_of_stays fun a ha => hstay a (hperm.subset ?_)
    exact List.mem_append_right _ (List.mem_cons_of_mem e ha)

end

end Champion
