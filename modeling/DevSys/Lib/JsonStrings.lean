import DevSys.Lib.JsonPrint
/-!
# The strings and the numbers of a value

A printed value is read back exactly when no string in it needs an escape,
whatever the shape of the value is.
-/
open Cxx

namespace JsonGrammar

mutual

/-- Every string of a value, the names of its members too. -/
def strings : Value → List Str
  | .str s => [s]
  | .arr vs => stringsOfElements vs
  | .obj fs => stringsOfMembers fs
  | .num _ | .bool _ | .null => []

def stringsOfElements : List Value → List Str
  | [] => []
  | v :: vs => strings v ++ stringsOfElements vs

def stringsOfMembers : List (Str × Value) → List Str
  | [] => []
  | (k, v) :: fs => k :: (strings v ++ stringsOfMembers fs)

end

mutual

/-- The text of every number of a value. -/
def numbers : Value → List Str
  | .num text => [text]
  | .arr vs => numbersOfElements vs
  | .obj fs => numbersOfMembers fs
  | .str _ | .bool _ | .null => []

def numbersOfElements : List Value → List Str
  | [] => []
  | v :: vs => numbers v ++ numbersOfElements vs

def numbersOfMembers : List (Str × Value) → List Str
  | [] => []
  | (_, v) :: fs => numbers v ++ numbersOfMembers fs

end

section
variable {raw : Char → Prop}

mutual

theorem clean_iff (v : Value) : Clean raw v ↔ (∀ s ∈ strings v, Plain raw s) ∧ ∀ n ∈ numbers v, Number n := by
  cases v with
  | str s => simp [Clean, strings, numbers]
  | num text => simp [Clean, strings, numbers]
  | bool b => simp [Clean, strings, numbers]
  | null => simp [Clean, strings, numbers]
  | arr vs =>
    rw [Clean, strings, numbers]
    exact clean_elements_iff vs
  | obj fs =>
    rw [Clean, strings, numbers]
    exact clean_members_iff fs

theorem clean_elements_iff (vs : List Value) : CleanElements raw vs ↔
    (∀ s ∈ stringsOfElements vs, Plain raw s) ∧ ∀ n ∈ numbersOfElements vs, Number n := by
  cases vs with
  | nil => simp [CleanElements, stringsOfElements, numbersOfElements]
  | cons v vs =>
    rw [CleanElements, stringsOfElements, numbersOfElements, List.forall_mem_append, List.forall_mem_append, clean_iff v,
      clean_elements_iff vs]
    exact and_and_and_comm

theorem clean_members_iff (fs : List (Str × Value)) : CleanMembers raw fs ↔
    (∀ s ∈ stringsOfMembers fs, Plain raw s) ∧ ∀ n ∈ numbersOfMembers fs, Number n := by
  cases fs with
  | nil => simp [CleanMembers, stringsOfMembers, numbersOfMembers]
  | cons f fs =>
    obtain ⟨k, v⟩ := f
    rw [CleanMembers, stringsOfMembers, numbersOfMembers, List.forall_mem_cons, List.forall_mem_append,
      List.forall_mem_append, clean_iff v, clean_members_iff fs, and_and_and_comm]
    simp only [and_assoc]

end

/-- A printed value with proper numbers is read back exactly when no string in
it needs an escape. -/
theorem text_print_strings_iff {v : Value} (h : ∀ n ∈ numbers v, Number n) :
    Text raw (print v) v ↔ ∀ s ∈ strings v, Plain raw s := by
  rw [text_print_iff, clean_iff, and_iff_left h]

end

theorem intPart_to_string (n : Nat) : IntPart (to_string n) := by
  by_cases hn : n = 0
  · subst hn
    exact .inl rfl
  · exact .inr ⟨head_toDigits (Nat.pos_of_ne_zero hn), to_string_ne_nil n, fun c hc => isDigit_of_mem_toDigits hc⟩

theorem number_to_string_int (n : Int) : Number (to_string n) := by
  cases n with
  | ofNat n => exact number_to_string n
  | negSucc n => exact ⟨['-'], to_string (n + 1 : Nat), [], [], .inr rfl, intPart_to_string _, .inl rfl, .inl rfl, by simp; rfl⟩

end JsonGrammar
