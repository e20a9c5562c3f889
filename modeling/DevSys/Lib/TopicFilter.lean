import DevSys.Lib.Strings
/-!
# MQTT topics and topic filters

A topic is a row of levels between slashes. In a filter, `+` stands for any one
level and a final `#` for all the levels that are left.
-/
open Cxx

namespace TopicFilter

def levels (s : Str) : List Str := s.splitOn '/'

def matchLevels : List Str → List Str → Bool
  | [], ls => ls = []
  | f :: fs, ls =>
    (f = ['#'] && fs = []) || match ls with
      | [] => false
      | l :: ls => (f = ['+'] || f = l) && matchLevels fs ls

/-- A filter that starts with a wildcard leaves out the topics of the broker. -/
def topic_matches (filter topic : Str) : Bool :=
  !(topic.head? = some '$' && (filter.head? = some '+' || filter.head? = some '#')) &&
    matchLevels (levels filter) (levels topic)

/-- No level is empty. -/
def Full (topic : Str) : Prop := ∀ l ∈ levels topic, l ≠ []

/-- A `+` takes any level. -/
theorem matchLevels_plus {fs ls : List Str} :
    matchLevels (['+'] :: fs) ls = true ↔ ∃ l rest, ls = l :: rest ∧ matchLevels fs rest = true := by
  cases ls <;> simp [matchLevels]

/-- A named level takes itself. -/
theorem matchLevels_name {f : Str} {fs ls : List Str} (hplus : f ≠ ['+']) (hhash : f ≠ ['#']) :
    matchLevels (f :: fs) ls = true ↔ ∃ rest, ls = f :: rest ∧ matchLevels fs rest = true := by
  cases ls with
  | nil => simp [matchLevels, hhash]
  | cons l ls => simp [matchLevels, hplus, hhash, eq_comm (a := f) (b := l)]

/-- `getline` splits such a topic into its levels. -/
theorem Full.getlineAll_eq {topic : Str} (h : Full topic) : getlineAll '/' topic = levels topic :=
  getlineAll_eq_splitOn '/' fun hlast => h [] (List.mem_of_getLast? hlast) rfl

theorem matchLevels_of_topic_matches {filter topic : Str} (h : topic_matches filter topic = true) :
    matchLevels (levels filter) (levels topic) = true := by
  rw [topic_matches, Bool.and_eq_true] at h
  exact h.2

/-- A topic starts with its first level. -/
theorem head?_of_levels {topic l : Str} {rest : List Str} (h : levels topic = l :: rest) (hl : l ≠ []) :
    topic.head? = l.head? := by
  have htopic : ['/'].intercalate (topic.splitOn '/') = topic := List.intercalate_splitOn '/'
  rw [← levels, h] at htopic
  cases rest with
  | nil => rw [← htopic, List.intercalate_singleton]
  | cons l' rest =>
    rw [← htopic, List.intercalate_cons_cons, List.append_assoc, List.head?_append_of_ne_nil _ hl]

end TopicFilter
