import DevSys.Lib.TopicFilter
import DevSys.Router.MessageRouter
/-!
# Subscriptions

The filters the service subscribes to, and what the dispatcher makes of the
topics they match. The filter that is added for the `Will` messages has an
older topic format, which the parser no longer knows.
-/
open Cxx TopicFilter

namespace DevSys.MessageRouter

def subscription_topics : List Str :=
  [ "+/v1/heartbeat".toList,
    "+/v1/event/post".toList,
    "+/v1/event/post_reply".toList,
    "+/v1/property/post".toList,
    "+/v1/property/set_reply".toList,
    "+/v1/ota/progress".toList,
    "+/v1/status".toList ]

/-- `main` adds this filter, for the status of a device. -/
def will_filter : Str := "+/iot/+/+/status".toList

def subscriptions : List Str := subscription_topics ++ [will_filter]

/-- The level of the device in the topics a filter matches. -/
def device_level (filter : Str) : Nat := if filter = will_filter then 3 else 0

/-! ## The dispatcher as a table -/

inductive Handler where
  | heartbeat
  | event
  | property
  | ota_progress
  | status
  deriving DecidableEq, Repr

/-- The handler of a valid topic, by its message type. -/
def handler (pt : ParsedTopic) : Option Handler :=
  if ¬pt.valid then none
  else if pt.message_type = "heartbeat".toList then some .heartbeat
  else if pt.message_type = "event".toList then some .event
  else if pt.message_type = "property".toList then some .property
  else if pt.message_type = "ota".toList then some .ota_progress
  else if pt.message_type = "status".toList then some .status
  else none

def Handler.handle (now : Int) (pt : ParsedTopic) (payload : Str) (r : MessageRouter) :
    Handler → MessageRouter × Option Trap
  | .heartbeat => (handle_heartbeat now pt payload r, none)
  | .event => handle_event pt payload r
  | .property => (handle_property pt payload r, none)
  | .ota_progress => handle_ota_progress pt payload r
  | .status => (handle_status pt payload r, none)

theorem on_message_eq (now : Int) (topic payload : Str) (r : MessageRouter) :
    r.on_message now topic payload = match handler (ParsedTopic.parse topic) with
      | some h => h.handle now (ParsedTopic.parse topic) payload r
      | none => (r, none) := by
  unfold on_message handler
  dsimp only
  split_ifs <;> rfl

/-! ## What is routed -/

/-- A topic that the filter matches is parsed as the filter has it and reaches
a handler. -/
structure Routed (filter topic : Str) : Prop where
  valid : (ParsedTopic.parse topic).valid = true
  device_id : (levels topic)[device_level filter]? = some (ParsedTopic.parse topic).device_id
  handled : ∃ h, handler (ParsedTopic.parse topic) = some h ∧ ∀ now payload r,
    on_message now topic payload r = h.handle now (ParsedTopic.parse topic) payload r

/-- The message types with a handler. -/
def message_types : List Str :=
  ["heartbeat".toList, "event".toList, "property".toList, "ota".toList, "status".toList]

section
variable {topic filter : Str}

/-- Topics of the new format with a known message type are routed. -/
theorem routed_of_levels {dev type : Str} {rest : List Str} (hfull : Full topic) (htop : topic.head? ≠ some '$')
    (hlevels : levels topic = dev :: "v1".toList :: type :: rest) (htype : type ∈ message_types)
    (hfilter : filter ≠ will_filter) : Routed filter topic := by
  have hdev : dev ≠ [] := hfull dev (by simp [hlevels])
  have hne : type ≠ [] := hfull type (by simp [hlevels])
  have hT : dev ≠ "$T".toList := by
    rintro rfl
    exact htop (head?_of_levels hlevels hdev)
  have hparse := ParsedTopic.parse_parts (hfull.getlineAll_eq.trans hlevels) (.inl hT)
  refine ⟨?_, ?_, ?_⟩
  · simp [hparse, hdev, hne]
  · simp [hparse, hlevels, device_level, hfilter]
  · have hsome : (handler (ParsedTopic.parse topic)).isSome := by
      simp only [message_types, List.mem_cons, List.not_mem_nil, or_false] at htype
      rcases htype with rfl | rfl | rfl | rfl | rfl <;> simp [handler, hparse, hdev]
    obtain ⟨h, hh⟩ := Option.isSome_iff_exists.1 hsome
    refine ⟨h, hh, fun now payload r => ?_⟩
    rw [on_message_eq, hh]

/-- The seven filters are for this format and these types. -/
theorem levels_subscription_topics (h : filter ∈ subscription_topics) :
    ∃ type ∈ message_types, ∃ sub, levels filter = ['+'] :: "v1".toList :: type :: sub := by
  simp only [subscription_topics, List.mem_cons, List.not_mem_nil, or_false] at h
  rcases h with rfl | rfl | rfl | rfl | rfl | rfl | rfl
  · exact ⟨"heartbeat".toList, by simp [message_types], [], by decide⟩
  · exact ⟨"event".toList, by simp [message_types], ["post".toList], by decide⟩
  · exact ⟨"event".toList, by simp [message_types], ["post_reply".toList], by decide⟩
  · exact ⟨"property".toList, by simp [message_types], ["post".toList], by decide⟩
  · exact ⟨"property".toList, by simp [message_types], ["set_reply".toList], by decide⟩
  · exact ⟨"ota".toList, by simp [message_types], ["progress".toList], by decide⟩
  · exact ⟨"status".toList, by simp [message_types], [], by decide⟩

/-- The second level of a topic that the additional filter matches is no
version. -/
theorem not_routed_of_will_filter (hfull : Full topic) (htop : topic.head? ≠ some '$')
    (hm : topic_matches will_filter topic = true) : ¬Routed will_filter topic := by
  have hlevels : levels will_filter = ['+'] :: "iot".toList :: ['+'] :: ['+'] :: ["status".toList] := by decide
  have hmatch := matchLevels_of_topic_matches hm
  rw [hlevels, matchLevels_plus] at hmatch
  obtain ⟨tenant, rest, htenant, hmatch⟩ := hmatch
  obtain ⟨rest', rfl, hmatch⟩ := (matchLevels_name (by simp) (by simp)).1 hmatch
  obtain ⟨product, rest, rfl, -⟩ := matchLevels_plus.1 hmatch
  have hne : tenant ≠ [] := hfull tenant (by simp [htenant])
  have hT : tenant ≠ "$T".toList := by
    rintro rfl
    exact htop (head?_of_levels htenant hne)
  intro h
  have hvalid := h.valid
  rw [ParsedTopic.parse_parts (hfull.getlineAll_eq.trans htenant) (.inl hT)] at hvalid
  simp at hvalid

/-- A topic that a subscription matches is routed, except for the filter that
`main` adds. -/
theorem routed_iff (hf : filter ∈ subscriptions) (hm : topic_matches filter topic = true) (hfull : Full topic)
    (htop : topic.head? ≠ some '$') : Routed filter topic ↔ filter ≠ will_filter := by
  constructor
  · rintro h rfl
    exact not_routed_of_will_filter hfull htop hm h
  · intro hne
    have hf : filter ∈ subscription_topics := by simpa [subscriptions, hne] using hf
    obtain ⟨type, htype, sub, hlevels⟩ := levels_subscription_topics hf
    have hmatch := matchLevels_of_topic_matches hm
    rw [hlevels, matchLevels_plus] at hmatch
    obtain ⟨dev, rest, hdev, hmatch⟩ := hmatch
    obtain ⟨rest', rfl, hmatch⟩ := (matchLevels_name (by simp) (by simp)).1 hmatch
    have hname : type ≠ ['+'] ∧ type ≠ ['#'] := by
      simp only [message_types, List.mem_cons, List.not_mem_nil, or_false] at htype
      rcases htype with rfl | rfl | rfl | rfl | rfl <;> simp
    obtain ⟨rest, rfl, -⟩ := (matchLevels_name hname.1 hname.2).1 hmatch
    exact routed_of_levels hfull htop hdev htype hne

end

/-- An event of `dev-1`. -/
theorem routed_event : Routed "+/v1/event/post".toList "dev-1/v1/event/post".toList := by
  have hm : topic_matches "+/v1/event/post".toList "dev-1/v1/event/post".toList = true := by decide
  exact (routed_iff (by decide) hm (by unfold Full; decide) (by decide)).2 (by decide)

/-- A `Will` message in the older format. -/
theorem routed_fails :
    let topic := "acme/iot/coffee_v1/dev-1/status".toList
    topic_matches will_filter topic = true ∧ Full topic ∧ topic.head? ≠ some '$' ∧ ¬Routed will_filter topic := by
  refine ⟨by decide, by unfold Full; decide, by decide, fun h => ?_⟩
  have hvalid := h.valid
  revert hvalid
  decide

end DevSys.MessageRouter
