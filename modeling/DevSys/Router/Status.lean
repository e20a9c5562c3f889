import DevSys.Lib.JsonStrings
import DevSys.Router.MessageRouter
/-!
# Status reports and Will messages

The protocol reports `network_status` and `work_status` as integers. The
handler reads the first string of that name, falls back to the first string
`status`, and always stores IDLE.
-/
open Cxx JsonText JsonGrammar

namespace DevSys.MessageRouter
open JsonHelper

/-- A status message as in the protocol: a JSON object with the two integers, and
any other fields. -/
structure StatusMessage where
  received_at : Int
  device_id : Str
  network : Nat
  work : Nat
  payload : Str
  fields : List (Str × Value)
  device_ok : ParsedTopic.IsLevel device_id
  network_le : network ≤ 1
  work_le : work ≤ 4
  reads : Text Allowed payload (.obj fields)
  has_network : ("network_status".toList, .num (to_string network)) ∈ fields
  has_work : ("work_status".toList, .num (to_string work)) ∈ fields

def StatusMessage.topic (m : StatusMessage) : Str := m.device_id ++ "/v1/status".toList

/-- The record says what the message reports. -/
def Reports (m : StatusMessage) (dev : Device) : Prop :=
  (dev.network_status = .OFFLINE ↔ m.network = 1) ∧ dev.work_status.val.toNat = m.work

/-- The device stored under `t` is as reported, and no other record changed. -/
def Applied (m : StatusMessage) (t : Str) (s s' : DeviceManager) : Prop :=
  (∃ dev, s'.rec? t m.device_id = some dev ∧ Reports m dev) ∧
    ∀ t' d', ¬(t' = t ∧ d' = m.device_id) → s'.rec? t' d' = s.rec? t' d'

/-- The first string of the key says offline. -/
def OfflineAt (payload key : Str) : Prop :=
  FirstString payload key "offline".toList ∨ FirstString payload key "1".toList

/-- The payload has a string field, at any depth, that says offline: the first
`network_status`, or the first `status` if there is no text in the former. -/
def SaysOffline (payload : Str) : Prop :=
  OfflineAt payload "network_status".toList ∨
    (∀ s ≠ [], ¬FirstString payload "network_status".toList s) ∧ OfflineAt payload "status".toList

/-! ## What the handler reads -/

theorem parse_status (m : StatusMessage) :
    ParsedTopic.parse m.topic =
      { raw_topic := m.topic, device_id := m.device_id, message_type := "status".toList, valid := true } := by
  have hparts : getlineAll '/' m.topic = m.device_id :: "v1".toList :: "status".toList :: [] := by
    rw [StatusMessage.topic, show "/v1/status".toList = '/' :: "v1/status".toList from rfl,
      getlineAll_cut _ _ _ m.device_ok.2]
    rfl
  rw [ParsedTopic.parse_parts hparts (.inr (by simp))]
  simp [m.device_ok.1]

theorem offlineAt_iff (payload key : Str) : OfflineAt payload key ↔
    get_string payload key = "offline".toList ∨ get_string payload key = "1".toList := by
  rw [OfflineAt, get_string_eq_iff (by decide), get_string_eq_iff (by decide)]

/-- The integer field is not read: a string field decides. -/
theorem reportedStatus_offline_iff (payload : Str) : reportedStatus payload = .OFFLINE ↔ SaysOffline payload := by
  have hstatus : reportedStatus payload = .OFFLINE ↔
      statusText payload = "offline".toList ∨ statusText payload = "1".toList := by
    rw [reportedStatus]
    split
    · exact iff_of_true rfl ‹_›
    · exact iff_of_false nofun ‹_›
  rw [hstatus, statusText, SaysOffline, offlineAt_iff, offlineAt_iff]
  by_cases hnone : get_string payload "network_status".toList = []
  · have hfirst : ∀ s ≠ [], ¬FirstString payload "network_status".toList s :=
      fun s hs h => hs ((get_string_of_first h).symm.trans hnone)
    rw [if_pos hnone, hnone, and_iff_right hfirst]
    refine (or_iff_right ?_).symm
    rintro (h | h)
    · cases h
    · cases h
  · have hfirst : ¬∀ s ≠ [], ¬FirstString payload "network_status".toList s :=
      fun h => h _ hnone ((get_string_eq_iff hnone).1 rfl)
    rw [if_neg hnone]
    exact (or_iff_left fun h => hfirst h.1).symm

/-- The handler updates the record under the tenant that the record names. -/
theorem on_message_status_report {r : MessageRouter} {s : DeviceManager} (hr : r.device_mgr_ = some s)
    (m : StatusMessage) {t : Str} {dev : Device} (hl : s.locate m.device_id = some (t, dev)) :
    (r.on_message m.received_at m.topic m.payload).1.device_mgr_ =
      some (s.update_device_status dev.tenant_id m.device_id (reportedStatus m.payload) .IDLE).2 := by
  rw [on_message_status _ _ _ rfl (by rw [parse_status]) (by rw [parse_status]), handle_status, hr,
    parse_status, resolve_tenant_some hl]

/-! ## When the report is applied -/

/-- A status message is applied exactly when it reports IDLE and its integer
agrees with what its string fields say; a record that names another tenant than
the one it is stored under is not updated at all. -/
theorem applied_iff (m : StatusMessage) (r : MessageRouter) (s : DeviceManager) (t : Str) (dev : Device)
    (hr : r.device_mgr_ = some s) (hdev : s.rec? t m.device_id = some dev)
    (hu : ∀ t', (s.rec? t' m.device_id).isSome → t' = t) :
    (∃ s', (r.on_message m.received_at m.topic m.payload).1.device_mgr_ = some s' ∧ Applied m t s s') ↔
      if dev.tenant_id = t then m.work = 0 ∧ (m.network = 1 ↔ SaysOffline m.payload) else Reports m dev := by
  rw [on_message_status_report hr m (DeviceManager.locate_of_unique hdev hu)]
  have hafter := DeviceManager.update_device_status_rec? dev.tenant_id m.device_id (reportedStatus m.payload)
    .IDLE s
  simp only [Option.some.injEq, exists_eq_left']
  by_cases ht : dev.tenant_id = t
  · rw [if_pos ht]
    rw [ht] at hafter ⊢
    have hown := hafter t m.device_id
    rw [if_pos ⟨rfl, rfl⟩, hdev, Option.map_some] at hown
    -- the record is updated, and shows what the strings say
    have hreports : Reports m { dev with network_status := reportedStatus m.payload, work_status := .IDLE } ↔
        m.work = 0 ∧ (m.network = 1 ↔ SaysOffline m.payload) := by
      rw [← reportedStatus_offline_iff]
      constructor
      · rintro ⟨hn, hw⟩
        exact ⟨hw.symm, hn.symm⟩
      · rintro ⟨hw, hn⟩
        exact ⟨hn.symm, hw.symm⟩
    rw [← hreports]
    constructor
    · rintro ⟨⟨dev', hdev', hrep⟩, -⟩
      rw [hown] at hdev'
      rwa [← Option.some.inj hdev'] at hrep
    · intro hrep
      refine ⟨⟨_, hown, hrep⟩, fun t' d' hne => ?_⟩
      rw [hafter, if_neg hne]
  · rw [if_neg ht]
    -- nothing is stored under the tenant the record names
    have hnone : s.rec? dev.tenant_id m.device_id = none := by
      by_contra hne
      exact ht (hu _ (Option.isSome_iff_ne_none.2 hne))
    have hsame (t' d' : Str) : (s.update_device_status dev.tenant_id m.device_id
        (reportedStatus m.payload) .IDLE).2.rec? t' d' = s.rec? t' d' := by
      rw [hafter, hnone]
      split
      · rename_i h; rw [h.1, h.2, hnone]; rfl
      · rfl
    constructor
    · rintro ⟨⟨dev', hdev', hrep⟩, -⟩
      rw [hsame, hdev] at hdev'
      rwa [← Option.some.inj hdev'] at hrep
    · intro hrep
      exact ⟨⟨dev, by rw [hsame, hdev], hrep⟩, fun t' d' _ => hsame t' d'⟩

/-- The two integers. -/
def plainFields (network work : Nat) : List (Str × Value) :=
  [("network_status".toList, .num (to_string network)), ("work_status".toList, .num (to_string work))]

/-- The status message of one device with the two integers only. -/
def plainStatus (network work : Nat) (hn : network ≤ 1) (hw : work ≤ 4) : StatusMessage where
  received_at := 0
  device_id := "dev-1".toList
  network := network
  work := work
  payload := print (.obj (plainFields network work))
  fields := plainFields network work
  device_ok := ParsedTopic.isLevel_dev_1
  network_le := hn
  work_le := hw
  reads := by
    have hplain : Plain Allowed "network_status".toList ∧ Plain Allowed "work_status".toList := by decide
    refine (text_print_strings_iff ?_).2 ?_
    · simp [plainFields, numbers, numbersOfMembers, number_to_string_int]
    · simpa [plainFields, strings, stringsOfMembers] using hplain
  has_network := by simp [plainFields]
  has_work := by simp [plainFields]

/-- The device of `plainStatus`, online, under one tenant. -/
def oneDevice : DeviceManager :=
  DeviceManager.store {} "acme".toList "dev-1".toList
    { tenant_id := "acme".toList, device_id := "dev-1".toList, network_status := .ONLINE }

theorem oneDevice_unique (t : Str) (h : (oneDevice.rec? t "dev-1".toList).isSome) : t = "acme".toList := by
  by_contra hne
  rw [oneDevice, DeviceManager.rec?_store, if_neg (fun h => hne h.1), DeviceManager.rec?_empty] at h
  cases h

theorem not_saysOffline (network : Nat) (hn : network ≤ 1) :
    ¬SaysOffline (plainStatus network 0 hn (by decide)).payload := by
  have hstatus : ∀ n ≤ 1, reportedStatus (print (.obj (plainFields n 0))) = .ONLINE := by
    simp only [plainFields, print, printMembers]
    decide +kernel
  rw [← reportedStatus_offline_iff, plainStatus, hstatus network hn]
  nofun

/-- A report of an idle device that is online is applied. -/
theorem applied_online_idle :
    let m := plainStatus 0 0 (by decide) (by decide)
    ∃ s', (on_message m.received_at m.topic m.payload { device_mgr_ := some oneDevice }).1.device_mgr_ = some s' ∧
      Applied m "acme".toList oneDevice s' :=
  (applied_iff (plainStatus 0 0 (by decide) (by decide)) { device_mgr_ := some oneDevice } oneDevice "acme".toList
      { tenant_id := "acme".toList, device_id := "dev-1".toList, network_status := .ONLINE } rfl
      (by rw [oneDevice, DeviceManager.rec?_store]; exact if_pos ⟨rfl, rfl⟩) oneDevice_unique).2
    (by rw [if_pos rfl]; exact ⟨rfl, fun h => absurd h (by decide), fun h => absurd h (not_saysOffline 0 _)⟩)

/-- The Will message of a device that died leaves it online. -/
theorem will_not_applied :
    let m := plainStatus 1 0 (by decide) (by decide)
    ¬ ∃ s', (on_message m.received_at m.topic m.payload
      { device_mgr_ := some oneDevice }).1.device_mgr_ = some s' ∧ Applied m "acme".toList oneDevice s' := by
  intro m
  have hdev : oneDevice.rec? "acme".toList m.device_id =
      some { tenant_id := "acme".toList, device_id := "dev-1".toList, network_status := .ONLINE } := by
    rw [oneDevice, DeviceManager.rec?_store]
    exact if_pos ⟨rfl, rfl⟩
  rw [on_message_status_report rfl m (DeviceManager.locate_of_unique hdev oneDevice_unique)]
  rintro ⟨s', hs', ⟨dev, hd, hrep⟩, -⟩
  rw [← Option.some.inj hs', DeviceManager.update_device_status_rec?, if_pos ⟨rfl, rfl⟩, hdev] at hd
  have hoff := (reportedStatus_offline_iff m.payload).1 (by rw [← Option.some.inj hd] at hrep; exact hrep.1.2 rfl)
  exact not_saysOffline 1 _ hoff

end DevSys.MessageRouter
