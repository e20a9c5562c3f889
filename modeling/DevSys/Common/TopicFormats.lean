import DevSys.Common.Topic
/-!
# The two topic formats

`parse` takes a downlink topic apart the way `build_downlink` put it together.
It sees the broker prefix only on topics of at least five levels, and reads a
shorter one as a topic of the device `$T`.
-/
open Cxx

namespace DevSys.ParsedTopic

/-! ## Downlinks -/

/-- What a downlink topic is built from. -/
structure Downlink where
  tenant_id : Str
  product_id : Str
  device_id : Str
  type : Str
  sub : Str
  device_ne : device_id ≠ []
  type_ne : type ≠ []
  no_slash : ∀ s ∈ [tenant_id, device_id, type, sub], '/' ∉ s

namespace Downlink

def topic (d : Downlink) : Str := build_downlink d.tenant_id d.product_id d.device_id d.type d.sub

/-- The tenant in the topic. -/
def tenant (d : Downlink) : Str := if d.tenant_id = [] then "default".toList else d.tenant_id

/-- Where a downlink goes. -/
def address (d : Downlink) : Str × Str × Str × Str := (d.tenant, d.device_id, d.type, d.sub)

theorem slash_not_mem_tenant (d : Downlink) : '/' ∉ d.tenant := by
  unfold tenant
  split
  · decide
  · exact d.no_slash _ (by simp)

/-- An absent sub-type leaves no level behind. -/
theorem levels_topic (d : Downlink) :
    getlineAll '/' d.topic =
      "$T".toList :: d.tenant :: d.device_id :: "v1".toList :: d.type :: if d.sub = [] then [] else [d.sub] := by
  have hdevice : '/' ∉ d.device_id := d.no_slash _ (by simp)
  have htype : '/' ∉ d.type := d.no_slash _ (by simp)
  have hsub : '/' ∉ d.sub := d.no_slash _ (by simp)
  have htopic : d.topic = "$T".toList ++ '/' :: (d.tenant ++ '/' :: (d.device_id ++ '/' :: ("v1".toList ++ '/' ::
      (d.type ++ if d.sub = [] then [] else '/' :: d.sub)))) := by
    have hslash : "$T/".toList = "$T".toList ++ ['/'] ∧ "/".toList = ['/'] ∧ "/v1/".toList = '/' :: "v1".toList ++ ['/'] := by
      decide
    obtain ⟨hbroker, hone, hver⟩ := hslash
    rw [topic, build_downlink, hbroker, hone, hver]
    by_cases h : d.sub = []
    · rw [if_neg (not_not.2 h), if_pos h, tenant]
      simp only [List.append_assoc, List.cons_append, List.nil_append, List.append_nil]
    · rw [if_pos h, if_neg h, tenant]
      simp only [List.append_assoc, List.cons_append, List.nil_append]
  rw [htopic, getlineAll_cut _ _ _ (by decide), getlineAll_cut _ _ _ d.slash_not_mem_tenant,
    getlineAll_cut _ _ _ hdevice, getlineAll_cut _ _ _ (by decide)]
  by_cases h : d.sub = []
  · rw [if_pos h, if_pos h, List.append_nil, getlineAll_last _ htype d.type_ne]
  · rw [if_neg h, if_neg h, getlineAll_cut _ _ _ htype, getlineAll_last _ hsub h]

theorem parse_topic (d : Downlink) :
    parse d.topic =
      { raw_topic := d.topic, tenant_id := d.tenant, device_id := d.device_id, message_type := d.type
        command := d.sub, valid := true } := by
  rw [parse_prefixed_parts d.levels_topic]
  by_cases h : d.sub = [] <;> simp [h, d.device_ne, d.type_ne]

/-- A downlink parses to its address, and no two addresses share a topic. -/
theorem topic_unambiguous :
    (∀ d : Downlink, (parse d.topic).valid = true ∧ (parse d.topic).tenant_id = d.tenant ∧
      (parse d.topic).device_id = d.device_id ∧ (parse d.topic).message_type = d.type ∧
      (parse d.topic).command = d.sub) ∧
    ∀ d d' : Downlink, d.address ≠ d'.address → d.topic ≠ d'.topic := by
  constructor
  · intro d
    simp [parse_topic]
  · intro d d' hne htopic
    have hparse := congrArg parse htopic
    rw [parse_topic, parse_topic] at hparse
    obtain ⟨-, htenant, -, hdevice, htype, hsub, -⟩ := ParsedTopic.mk.inj hparse
    exact hne (by simp [address, htenant, hdevice, htype, hsub])

end Downlink

/-! ## The broker prefix -/

/-- The levels of a topic, without an empty one at the end. -/
def levels (x : Str) : List Str := getlineAll '/' x

/-- A topic the way the broker passes it on. -/
def prefixed (t x : Str) : Str := "$T/".toList ++ t ++ '/' :: x

theorem levels_prefixed {t : Str} (ht : '/' ∉ t) (x : Str) : levels (prefixed t x) = "$T".toList :: t :: levels x := by
  have htopic : prefixed t x = "$T".toList ++ '/' :: (t ++ '/' :: x) := by simp [prefixed]
  rw [levels, htopic, getlineAll_cut _ _ _ (by decide), getlineAll_cut _ _ _ ht]
  rfl

/-- The prefix adds the tenant and changes nothing else. -/
structure Transparent (t x : Str) : Prop where
  valid : (parse (prefixed t x)).valid = (parse x).valid
  tenant_id : (parse x).valid = true → (parse (prefixed t x)).tenant_id = t
  device_id : (parse x).valid = true → (parse (prefixed t x)).device_id = (parse x).device_id
  message_type : (parse x).valid = true → (parse (prefixed t x)).message_type = (parse x).message_type
  command : (parse x).valid = true → (parse (prefixed t x)).command = (parse x).command

theorem parse_short {x : Str} (h : (levels x).length < 3) : parse x = { raw_topic := x } := by
  unfold levels at h
  rw [parse, if_pos h]

/-- Where the topic itself is too short, the prefix matters exactly if what it
makes of the topic is valid. -/
theorem transparent_of_short {t x : Str} (h : (levels x).length < 3) :
    Transparent t x ↔ (parse (prefixed t x)).valid = false := by
  have hx := parse_short h
  refine ⟨fun htr => by rw [htr.valid, hx], fun hv => ?_⟩
  constructor <;> simp [hx, hv]

/-- The broker prefix is transparent, except for a tenant named `v1` in front
of a topic that is too short. -/
theorem transparent_iff {t x : Str} (_hne : t ≠ []) (ht : '/' ∉ t) (hx : (levels x).headD [] ≠ "$T".toList) :
    Transparent t x ↔ ¬(t = "v1".toList ∧ (levels x).length < 3 ∧ (levels x).headD [] ≠ []) := by
  have hlevels := levels_prefixed ht x
  rcases hparts : levels x with _ | ⟨dev, _ | ⟨ver, _ | ⟨type, rest⟩⟩⟩
  · rw [hparts] at hlevels
    rw [transparent_of_short (by simp [hparts]), parse_short (by simp [hlevels])]
    simp
  · rw [hparts] at hlevels
    rw [transparent_of_short (by simp [hparts]), parse_parts hlevels (.inr (by simp))]
    simp
  · rw [hparts] at hlevels
    rw [transparent_of_short (by simp [hparts]), parse_parts hlevels (.inr (by simp))]
    simp
  · rw [hparts] at hlevels hx
    have hplain := parse_parts hparts (.inl hx)
    have hprefixed := parse_prefixed_parts hlevels
    refine iff_of_true ?_ fun hshort => absurd hshort.2.1 (by simp)
    constructor <;> simp [hplain, hprefixed]

/-- A heartbeat of a device of `acme`. -/
theorem transparent_heartbeat :
    Transparent "acme".toList "dev-1/v1/heartbeat".toList :=
  (transparent_iff (t := "acme".toList) (x := "dev-1/v1/heartbeat".toList) (by simp) (by decide) (by decide)).2
    (by decide)

/-- `$T/v1/dev-1` is taken for a message of type `dev-1` of the device `$T`. -/
theorem transparent_fails :
    "v1".toList ≠ [] ∧ '/' ∉ "v1".toList ∧ (levels "dev-1".toList).headD [] ≠ "$T".toList ∧
      ¬Transparent "v1".toList "dev-1".toList := by
  refine ⟨by simp, by decide, by decide, fun h => ?_⟩
  have hvalid := h.valid
  revert hvalid
  decide

end DevSys.ParsedTopic
