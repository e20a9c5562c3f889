import DevSys.Common.Types
/-!
# `ParsedTopic`

`{device}/v1/{type}/...`, with the broker prefix `$T/{tenant}/` when it has one.
-/
open Cxx

namespace DevSys

structure ParsedTopic where
  raw_topic : Str := []
  tenant_id : Str := []
  product_id : Str := []
  device_id : Str := []
  message_type : Str := []
  command : Str := []
  valid : Bool := false
  deriving DecidableEq, Repr

namespace ParsedTopic

def parse (topic : Str) : ParsedTopic :=
  let parts := getlineAll '/' topic
  if parts.length < 3 then { raw_topic := topic }
  else
    -- broker prefix: $T/{tenant}/...
    let prefixed : Bool := parts.getD 0 [] = "$T".toList ∧ parts.length ≥ 5
    let offset := if prefixed then 2 else 0
    let device_id := parts.getD offset []
    let message_type := parts.getD (offset + 2) []
    let ver := parts.getD (offset + 1) []
    { raw_topic := topic
      tenant_id := if prefixed then parts.getD 1 [] else []
      device_id := device_id
      message_type := message_type
      command := parts.getD (offset + 3) []
      valid := ver = "v1".toList ∧ device_id ≠ [] ∧ message_type ≠ [] }

/-- Build the downlink topic of one device. -/
def build_downlink (tenant_id _product_id device_id type : Str) (sub : Str := []) : Str :=
  let t := if tenant_id = [] then "default".toList else tenant_id
  let topic := "$T/".toList ++ t ++ "/".toList ++ device_id ++ "/v1/".toList ++ type
  if sub ≠ [] then topic ++ "/".toList ++ sub else topic

/-- A level of a topic that can be a device id. -/
def IsLevel (s : Str) : Prop := s ≠ [] ∧ '/' ∉ s

theorem isLevel_dev_1 : IsLevel "dev-1".toList := ⟨List.cons_ne_nil _ _, by decide⟩

/-- What `parse` returns on the levels of a topic without broker prefix. -/
theorem parse_parts {topic dev ver type : Str} {rest : List Str}
    (h : getlineAll '/' topic = dev :: ver :: type :: rest) (hT : dev ≠ "$T".toList ∨ rest.length < 2) :
    parse topic =
      { raw_topic := topic, device_id := dev, message_type := type, command := rest.headD []
        valid := ver = "v1".toList ∧ dev ≠ [] ∧ type ≠ [] } := by
  have hp : ¬ (dev = "$T".toList ∧ rest.length + 1 + 1 + 1 ≥ 5) := by
    rintro ⟨rfl, hl⟩
    rcases hT with hT | hT
    · exact hT rfl
    · omega
  unfold parse
  rw [h]
  rw [if_neg (by simp only [List.length_cons]; omega)]
  simp only [List.getD_cons_zero, List.length_cons, hp, decide_false, Bool.false_eq_true, if_false]
  cases rest <;> simp

/-- What `parse` returns on the levels of a topic with broker prefix. -/
theorem parse_prefixed_parts {topic t dev ver type : Str} {rest : List Str}
    (h : getlineAll '/' topic = "$T".toList :: t :: dev :: ver :: type :: rest) :
    parse topic =
      { raw_topic := topic, tenant_id := t, device_id := dev, message_type := type, command := rest.headD []
        valid := ver = "v1".toList ∧ dev ≠ [] ∧ type ≠ [] } := by
  unfold parse
  rw [h]
  rw [if_neg (by simp only [List.length_cons]; omega)]
  cases rest <;> simp

end ParsedTopic

end DevSys
