import Mathlib.Data.List.Basic
import Mathlib.Data.List.Count
import Mathlib.Logic.Function.Basic
/-!
# A list as one lane for each key

The elements of a key in their order. What is done to the first element of a key
is done to the front of its lane, and the other lanes stay as they are.
-/
open Function

namespace Lanes
variable {α κ : Type} [DecidableEq κ] {key : α → κ}

def lanes (key : α → κ) (l : List α) (k : κ) : List α := l.filter fun a => key a = k

theorem head?_lanes (l : List α) (k : κ) : (lanes key l k).head? = l.find? fun a => key a = k := List.head?_filter

theorem lanes_append (l l' : List α) (k : κ) : lanes key (l ++ l') k = lanes key l k ++ lanes key l' k :=
  List.filter_append l l'

theorem lanes_cons_self (a : α) (l : List α) : lanes key (a :: l) (key a) = a :: lanes key l (key a) :=
  List.filter_cons_of_pos (by simp)

theorem lanes_cons_ne {a : α} {k : κ} (h : key a ≠ k) (l : List α) : lanes key (a :: l) k = lanes key l k :=
  List.filter_cons_of_neg (by simpa using h)

theorem lanes_concat (l : List α) (a : α) :
    lanes key (l ++ [a]) = update (lanes key l) (key a) (lanes key l (key a) ++ [a]) := by
  funext k
  rw [lanes_append]
  by_cases hk : key a = k
  · subst hk
    rw [update_self, lanes_cons_self]
    rfl
  · rw [update_of_ne (Ne.symm hk), lanes_cons_ne hk]
    exact List.append_nil _

/-- An element in front of a change to another lane. -/
theorem lanes_cons_update {a : α} {l l' m : List α} {k : κ} (ha : key a ≠ k)
    (h : lanes key l' = update (lanes key l) k m) : lanes key (a :: l') = update (lanes key (a :: l)) k m := by
  funext k'
  by_cases hk : key a = k'
  · subst hk
    rw [lanes_cons_self, h, update_of_ne ha, update_of_ne ha, lanes_cons_self]
  · rw [lanes_cons_ne hk, h]
    by_cases hk' : k' = k
    · subst hk'
      rw [update_self, update_self]
    · rw [update_of_ne hk', update_of_ne hk', lanes_cons_ne hk]

/-- An element in place of another one of its lane. -/
theorem lanes_cons_self_update (a : α) (l m : List α) (hm : ∀ k ≠ key a, lanes key m k = lanes key l k) :
    lanes key m = update (lanes key (a :: l)) (key a) (lanes key m (key a)) := by
  funext k
  by_cases hk : key a = k
  · subst hk
    rw [update_self]
  · rw [update_of_ne (Ne.symm hk), lanes_cons_ne hk, hm k (Ne.symm hk)]

theorem lanes_eraseP (l : List α) (k : κ) :
    lanes key (l.eraseP fun a => key a = k) = update (lanes key l) k (lanes key l k).tail := by
  induction l with
  | nil => rw [List.eraseP_nil, show (lanes key [] k).tail = lanes key [] k from rfl, update_eq_self]
  | cons a l ih =>
    by_cases ha : key a = k
    · subst ha
      rw [List.eraseP_cons_of_pos (by simp), lanes_cons_self, List.tail_cons]
      exact lanes_cons_self_update a l l fun _ _ => rfl
    · rw [List.eraseP_cons_of_neg (by simpa using ha), lanes_cons_ne ha]
      exact lanes_cons_update ha ih

theorem lanes_modify {f : α → α} (hf : ∀ a, key (f a) = key a) {l : List α} {k : κ} {i : Nat}
    (h : l.findIdx? (fun a => key a = k) = some i) :
    lanes key (l.modify i f) = update (lanes key l) k ((lanes key l k).modifyHead f) := by
  induction l generalizing i with
  | nil => cases h
  | cons a l ih =>
    rw [List.findIdx?_cons] at h
    by_cases ha : key a = k
    · rw [if_pos (by simpa using ha)] at h
      cases h
      subst ha
      have hfront : f a :: lanes key l (key a) = lanes key (f a :: l) (key a) := by
        rw [← hf a, lanes_cons_self]
      rw [List.modify_zero_cons, lanes_cons_self, List.modifyHead_cons, hfront]
      exact lanes_cons_self_update a l (f a :: l) fun k hk => lanes_cons_ne (by rw [hf]; exact hk.symm) l
    · rw [if_neg (by simpa using ha)] at h
      obtain ⟨j, hj, rfl⟩ := Option.map_eq_some_iff.1 h
      rw [List.modify_succ_cons, lanes_cons_ne ha]
      exact lanes_cons_update ha (ih hj)

/-- The lanes say everything but how they are mixed. -/
theorem perm_of_lanes [DecidableEq α] {l l' : List α} (h : lanes key l = lanes key l') : l.Perm l' := by
  have hcount (m : List α) (a : α) : (lanes key m (key a)).count a = m.count a := List.count_filter (by simp)
  rw [List.perm_iff_count]
  intro a
  rw [← hcount l, h, hcount l']

end Lanes
