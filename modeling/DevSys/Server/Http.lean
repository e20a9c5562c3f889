import DevSys.Common.JsonHelper
/-!
# Requests, responses and JSON texts

What a route handler gets and returns, and the JSON text it writes: members,
objects and arrays without blanks, and no escaping.
-/
open Cxx JsonText

namespace DevSys

structure HttpRequest where
  method : Str := []
  path : Str := []
  query : Str := []
  body : Str := []
  headers : UMap Str Str := ∅
  remote_ip : Str := []

structure HttpResponse where
  status_code : Nat := 200
  content_type : Str := "application/json".toList
  body : Str := []
  extra_headers : Str := []
  deriving DecidableEq, Repr

def json_response (code : Nat) (json : Str) : HttpResponse := { status_code := code, body := json }

namespace Json

/-- `"k":v`. -/
def member (k v : Str) : Str := keyPat k ++ v

/-- `"k":"v"`. -/
def strMember (k v : Str) : Str := keyPat k ++ '"' :: v ++ ['"']

def object (ms : List Str) : Str := '{' :: List.intercalate [','] ms ++ ['}']

def array (es : List Str) : Str := '[' :: List.intercalate [','] es ++ [']']

/-! ## Parts of a text -/

theorem infix_intercalate {x : Str} {es : List Str} (h : x ∈ es) : x <:+: List.intercalate [','] es := by
  induction es with
  | nil => simp at h
  | cons e es ih =>
    by_cases hes : es = []
    · subst hes
      rw [List.mem_singleton.1 h, List.intercalate_singleton]
    · rw [List.intercalate_cons_of_ne_nil hes]
      rcases List.mem_cons.1 h with rfl | h
      · exact (List.infix_append_left).trans List.infix_append_left
      · exact (ih h).trans List.infix_append_right

theorem infix_array {x : Str} {es : List Str} (h : x ∈ es) : x <:+: array es := by
  refine (infix_intercalate h).trans (List.IsInfix.trans ?_ (List.infix_cons List.infix_rfl))
  exact List.infix_append_left

theorem infix_object {x : Str} {ms : List Str} (h : x ∈ ms) : x <:+: object ms := by
  refine (infix_intercalate h).trans (List.IsInfix.trans ?_ (List.infix_cons List.infix_rfl))
  exact List.infix_append_left

theorem infix_member (k v : Str) : v <:+: member k v := List.infix_append_right

/-- An object starts with its first two members. -/
theorem first_members_of_object (a b : Str) (ms : List Str) : a ++ ',' :: b <:+: object (a :: b :: ms) := by
  refine ⟨['{'], ?_⟩
  by_cases h : ms = []
  · subst h
    exact ⟨['}'], by simp [object, List.intercalate_cons_of_ne_nil, List.intercalate_singleton]⟩
  · exact ⟨',' :: List.intercalate [','] ms ++ ['}'], by simp [object, List.intercalate_cons_of_ne_nil, h]⟩

/-- The last part of a text can be read off the text. -/
theorem intercalate_concat_injective (es : List Str) :
    Function.Injective fun x : Str => List.intercalate [','] (es ++ [x]) := by
  induction es with
  | nil =>
    intro x y h
    simpa using h
  | cons e es ih =>
    intro x y h
    have hcut (z : Str) : List.intercalate [','] (e :: es ++ [z]) = e ++ [','] ++ List.intercalate [','] (es ++ [z]) := by
      rw [List.cons_append, List.intercalate_cons_of_ne_nil (by simp)]
    dsimp only at h
    rw [hcut, hcut] at h
    exact ih (List.append_cancel_left h)

theorem object_concat_injective (ms : List Str) : Function.Injective fun m => object (ms ++ [m]) := by
  intro m m' h
  exact intercalate_concat_injective ms (List.append_cancel_right (List.cons.inj h).2)

theorem member_injective (k : Str) : Function.Injective (member k) := fun _ _ => List.append_cancel_left

theorem strMember_injective (k : Str) : Function.Injective (strMember k) := by
  intro v v' h
  rw [strMember, strMember, List.append_assoc, List.append_assoc] at h
  exact List.append_cancel_right (List.cons.inj (List.append_cancel_left h)).2

end Json

open Json in
def error_response (code : Nat) (err : Int) (msg : Str) : HttpResponse :=
  json_response code (object
    [member "success".toList "false".toList, member "error_code".toList (to_string err),
      strMember "error_message".toList msg])

end DevSys
