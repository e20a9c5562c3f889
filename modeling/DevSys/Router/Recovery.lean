import DevSys.Lib.FirstMatch
import DevSys.Lib.Runs
import DevSys.Router.Exceptions
/-!
# Reported and resolved faults

An alert appends a fault and a recovery erases the first match, both under the
tenant the device resolves to at that moment. So a fault that was reported
twice outlives its recovery, and so does one whose device was migrated.
-/
open Cxx Runs

namespace DevSys.MessageRouter
open JsonHelper

/-! ## Messages about faults -/

inductive FaultReport where
  | fault_alert
  | fault_resolved
  deriving DecidableEq, Repr

def FaultReport.event_type : FaultReport → Str
  | .fault_alert => "fault_alert".toList
  | .fault_resolved => "fault_resolved".toList

/-- An event of device `d` that reports a fault or its recovery. -/
structure FaultMessage (d : Str) where
  now : Int
  topic : Str
  payload : Str
  report : FaultReport
  fault_code : Int32
  valid : (ParsedTopic.parse topic).valid = true
  device_id : (ParsedTopic.parse topic).device_id = d
  message_type : (ParsedTopic.parse topic).message_type = "event".toList
  event_type : get_string payload "event_type".toList = report.event_type
  reads : get_int payload "fault_code".toList 0 = .ok fault_code

variable {d : Str}

def FaultMessage.code (m : FaultMessage d) : FaultCode := ⟨castUInt8 m.fault_code⟩

def FaultMessage.handle (m : FaultMessage d) (r : MessageRouter) : MessageRouter :=
  (r.on_message m.now m.topic m.payload).1

/-- A fault of the device with this code is active. -/
def Active (d : Str) (code : FaultCode) (r : MessageRouter) : Prop :=
  ∃ s ∈ r.fault_mgr_, ∃ f ∈ s.active_faults, f.device_id = d ∧ f.code = code

theorem active_iff {r : MessageRouter} {s : FaultManager} (hs : r.fault_mgr_ = some s) (code : FaultCode) :
    Active d code r ↔ ∃ f ∈ s.active_faults_, f.device_id = d ∧ f.code = code := by
  unfold Active
  rw [hs]
  simp only [Option.mem_some_iff, exists_eq_left']
  rfl

section Handle
variable (m : FaultMessage d) {r : MessageRouter} {s : FaultManager} (hs : r.fault_mgr_ = some s)
include hs

/-- An alert appends a fault of the device, unless its time stamp throws. -/
theorem handle_alert (hm : m.report = .fault_alert) (hts : ReadableInt m.payload "ts".toList) :
    ∃ f : FaultInfo, f.tenant_id = resolve_tenant r.device_mgr_ d ∧ f.device_id = d ∧ f.code = m.code ∧
      m.handle r = { r with fault_mgr_ := some (s.add_fault f) } := by
  obtain ⟨ts, hts⟩ := (get_int_isOk_iff m.payload "ts".toList 0).2 hts
  have hevent := m.event_type
  rw [hm] at hevent
  refine ⟨reportedFault r.device_mgr_ (ParsedTopic.parse m.topic) m.payload m.fault_code ts, ?_, m.device_id, rfl, ?_⟩
  · rw [reportedFault_tenant, m.device_id]
  · rw [FaultMessage.handle, on_message_event m.now m.payload r rfl m.valid m.message_type, handle_event,
      hevent, if_neg (by decide), if_pos (by rfl), handle_fault_alert, hs]
    dsimp only
    rw [m.reads, hts]

theorem handle_alert_throws (hm : m.report = .fault_alert) (hts : ¬ ReadableInt m.payload "ts".toList) :
    m.handle r = r := by
  obtain ⟨e, he⟩ := get_int_error_of_not_readable m.payload 0 hts
  have hevent := m.event_type
  rw [hm] at hevent
  rw [FaultMessage.handle, on_message_event m.now m.payload r rfl m.valid m.message_type, handle_event,
    hevent, if_neg (by decide), if_pos (by rfl), handle_fault_alert, hs]
  dsimp only
  rw [m.reads, he]

/-- A recovery erases the first fault of the device with this code, of the
tenant the device resolves to. -/
theorem handle_resolved (hm : m.report = .fault_resolved) :
    m.handle r = { r with fault_mgr_ := some (s.resolve_fault (resolve_tenant r.device_mgr_ d) d m.code).2 } := by
  have hevent := m.event_type
  rw [hm] at hevent
  rw [FaultMessage.handle, on_message_event m.now m.payload r rfl m.valid m.message_type, handle_event,
    hevent, if_neg (by decide), if_neg (by decide), if_pos (by rfl), handle_fault_resolved, hs]
  dsimp only
  rw [m.reads]
  dsimp only
  rw [m.device_id]
  rfl

end Handle

/-! ## Alerts and recoveries in any order -/

/-- A router and the messages it has handled, the last one first. -/
structure Watched (d : Str) where
  router : MessageRouter
  heard : List (FaultMessage d) := []

def Hears (s : Watched d) (m : FaultMessage d) (s' : Watched d) : Prop :=
  s' = { router := m.handle s.router, heard := m :: s.heard }

/-- What the last message with this code reported. -/
def lastReport (code : FaultCode) (heard : List (FaultMessage d)) : Option FaultReport :=
  (heard.find? (·.code = code)).map (·.report)

/-- Active are the faults whose last message was an alert. -/
def Follows (s : Watched d) : Prop := ∀ code, Active d code s.router ↔ lastReport code s.heard = some .fault_alert

/-- How many active faults of the device have this code. -/
def standing (d : Str) (code : FaultCode) (r : MessageRouter) : Nat :=
  ((r.fault_mgr_.map FaultManager.active_faults).getD []).countP fun f => f.device_id = d ∧ f.code = code

/-- An alert is read, or its fault is active already; a recovery finds its
fault at most once. -/
def Recorded (s : Watched d) (m : FaultMessage d) : Prop :=
  match m.report with
  | .fault_alert => ReadableInt m.payload "ts".toList ∨ Active d m.code s.router
  | .fault_resolved => standing d m.code s.router ≤ 1

/-- The faults of the device are kept under the tenant it resolves to. -/
def AtHome (s : Watched d) : Prop :=
  ∃ mgr, s.router.fault_mgr_ = some mgr ∧
    ∀ f ∈ mgr.active_faults_, f.device_id = d → f.tenant_id = resolve_tenant s.router.device_mgr_ d

theorem lastReport_cons (m : FaultMessage d) (heard : List (FaultMessage d)) (code : FaultCode) :
    lastReport code (m :: heard) = if m.code = code then some m.report else lastReport code heard := by
  unfold lastReport
  by_cases h : m.code = code <;> simp [h]

/-- A recovery looks for exactly the faults of the device with its code. -/
theorem resolve_fault_at_home {mgr : FaultManager} {t : Str}
    (h : ∀ f ∈ mgr.active_faults_, f.device_id = d → f.tenant_id = t) (code : FaultCode) :
    (mgr.resolve_fault t d code).2 =
      { mgr with active_faults_ := mgr.active_faults_.eraseP fun f => f.device_id = d ∧ f.code = code } := by
  rw [FaultManager.resolve_fault_eq, FirstMatch.eraseP_congr]
  intro f hf
  unfold FaultManager.sameFault
  by_cases hd : f.device_id = d
  · simp [hd, h f hf hd]
  · simp [hd]

theorem atHome_step {s s' : Watched d} {m : FaultMessage d} (hs : AtHome s) (h : Hears s m s') : AtHome s' := by
  obtain ⟨mgr, hmgr, hhome⟩ := hs
  subst h
  cases hm : m.report with
  | fault_alert =>
    by_cases hts : ReadableInt m.payload "ts".toList
    · obtain ⟨f, htenant, -, -, heq⟩ := handle_alert m hmgr hm hts
      unfold AtHome
      dsimp only
      rw [heq]
      refine ⟨_, rfl, ?_⟩
      intro g hg hd
      rcases List.mem_append.1 hg with hg | hg
      · exact hhome g hg hd
      · rw [List.mem_singleton.1 hg]
        exact htenant
    · unfold AtHome
      dsimp only
      rw [handle_alert_throws m hmgr hm hts]
      exact ⟨mgr, hmgr, hhome⟩
  | fault_resolved =>
    unfold AtHome
    dsimp only
    rw [handle_resolved m hmgr hm, FaultManager.resolve_fault_eq]
    refine ⟨_, rfl, ?_⟩
    intro g hg hd
    exact hhome g (List.mem_of_mem_eraseP hg) hd

/-- Only the message's own code can go out of step. -/
theorem follows_iff_own {s s' : Watched d} {m : FaultMessage d} (hf : Follows s) (h : Hears s m s')
    (hother : ∀ code, m.code ≠ code → (Active d code (m.handle s.router) ↔ Active d code s.router)) :
    Follows s' ↔ (Active d m.code (m.handle s.router) ↔ m.report = .fault_alert) := by
  subst h
  unfold Follows
  simp only [lastReport_cons]
  constructor
  · intro hall
    simpa using hall m.code
  · intro hm code
    by_cases hc : m.code = code
    · subst hc
      simpa using hm
    · rw [if_neg hc, hother code hc]
      exact hf code

/-- One message keeps the active faults in step exactly when it is recorded. -/
theorem follows_step {s s' : Watched d} {m : FaultMessage d} (hs : AtHome s) (hf : Follows s) (h : Hears s m s') :
    Follows s' ↔ Recorded s m := by
  obtain ⟨mgr, hmgr, hhome⟩ := hs
  unfold Recorded
  rcases hm : m.report with _ | _
  · dsimp only
    by_cases hts : ReadableInt m.payload "ts".toList
    · obtain ⟨f, -, hd, hcode, heq⟩ := handle_alert m hmgr hm hts
      have hactive (code : FaultCode) : Active d code (m.handle s.router) ↔ Active d code s.router ∨ m.code = code := by
        rw [heq, active_iff rfl, active_iff hmgr, ← hcode]
        simp [FaultManager.add_fault, or_and_right, exists_or, hd]
      rw [follows_iff_own hf h fun code hc => by rw [hactive, or_iff_left hc], hactive, hm]
      exact iff_of_true (iff_of_true (.inr rfl) rfl) (.inl hts)
    · have hactive := handle_alert_throws m hmgr hm hts
      rw [follows_iff_own hf h fun code _ => by rw [hactive], hactive, hm, or_iff_right hts]
      exact iff_true_right rfl
  · dsimp only
    have hactive (code : FaultCode) : Active d code (m.handle s.router) ↔
        ∃ f ∈ mgr.active_faults_.eraseP fun f => f.device_id = d ∧ f.code = m.code, f.device_id = d ∧ f.code = code := by
      rw [handle_resolved m hmgr hm, active_iff rfl, resolve_fault_at_home hhome]
    rw [follows_iff_own hf h, hactive, hm]
    · have hcount := FirstMatch.exists_mem_eraseP_iff (p := fun f : FaultInfo => f.device_id = d ∧ f.code = m.code)
        mgr.active_faults_
      simp only [decide_eq_true_eq] at hcount
      rw [hcount]
      simp only [standing, hmgr, reduceCtorEq, iff_false, Option.map_some, Option.getD_some, FaultManager.active_faults]
      omega
    · intro code hc
      rw [hactive, active_iff hmgr]
      refine FirstMatch.exists_mem_eraseP_of_disjoint ?_ _
      rintro f ⟨-, hf⟩
      simp [hf, Ne.symm hc]

/-- From no active faults on, the active faults follow the reports after every
message of a run exactly when every message of it is recorded. -/
theorem follows_run_iff {r : MessageRouter} {mgr : FaultManager} (hr : r.fault_mgr_ = some mgr)
    (hnone : mgr.active_faults = []) {tr : List (Watched d × FaultMessage d)} {s : Watched d}
    (h : Run Hears { router := r } tr s) :
    (∀ p ∈ tr, Follows p.1) ∧ Follows s ↔ ∀ p ∈ tr, Recorded p.1 p.2 := by
  have hempty : mgr.active_faults_ = [] := hnone
  refine Run.all_iff AtHome Follows Recorded ⟨mgr, hr, ?_⟩ ?_ (fun _ _ _ => atHome_step)
    (fun _ _ _ => follows_step) h
  · rw [hempty]
    simp
  · intro code
    rw [active_iff hr, hempty]
    simp [lastReport]

/-- A message of `dev-1` about its pump. -/
def pump_message (report : FaultReport) : FaultMessage "dev-1".toList where
  now := 0
  topic := "dev-1/v1/event/post".toList
  payload := "\x7b\"event_type\":\"".toList ++ report.event_type ++
    "\",\"fault_code\":3,\"level\":\"error\",\"ts\":1751234567\x7d".toList
  report := report
  fault_code := 3
  valid := by decide
  device_id := by decide
  message_type := by decide
  event_type := by cases report <;> decide
  reads := by cases report <;> decide

theorem readableInt_pump_message (report : FaultReport) : ReadableInt (pump_message report).payload "ts".toList := by
  refine (get_int_isOk_iff _ _ 0).1 ⟨1751234567, ?_⟩
  cases report <;> decide

/-- The state after a run of messages. -/
def hear (s : Watched d) (ms : List (FaultMessage d)) : Watched d :=
  ms.foldl (fun s m => { router := m.handle s.router, heard := m :: s.heard }) s

/-- An alert and its recovery. -/
theorem follows_alert_resolved :
    Follows (hear (d := "dev-1".toList) { router := { fault_mgr_ := some {} } }
      [pump_message .fault_alert, pump_message .fault_resolved]) := by
  let s : Watched "dev-1".toList := { router := { fault_mgr_ := some {} } }
  have halert : Hears s (pump_message .fault_alert) (hear s [pump_message .fault_alert]) := rfl
  have hresolved : Hears _ (pump_message .fault_resolved)
      (hear s [pump_message .fault_alert, pump_message .fault_resolved]) := rfl
  refine ((follows_run_iff rfl rfl ((Run.nil.snoc halert).snoc hresolved)).2 ?_).2
  intro p hp
  simp only [List.nil_append, List.singleton_append, List.mem_cons, List.not_mem_nil, or_false] at hp
  rcases hp with rfl | rfl
  · exact .inl (readableInt_pump_message _)
  · show standing _ _ _ ≤ 1
    decide

/-- A second alert, as a device sends one for a standing fault, outlives the recovery. -/
theorem follows_fails :
    ¬ Follows (hear (d := "dev-1".toList) { router := { fault_mgr_ := some {} } }
      [pump_message .fault_alert, pump_message .fault_alert, pump_message .fault_resolved]) := by
  intro h
  have hlast := (h ⟨3⟩).1 ⟨_, rfl, _, List.mem_cons_self, by decide, by decide⟩
  revert hlast
  decide

/-! ## A recovery after migrations -/

/-- The tenants an operator moves device `d` to, one after another. -/
def migrate (d : Str) (tenants : List Str) (r : MessageRouter) : MessageRouter :=
  { r with device_mgr_ := r.device_mgr_.map fun mgr =>
      tenants.foldl (fun mgr t => (mgr.migrate_device d t).2) mgr }

@[simp] theorem migrate_fault_mgr (tenants : List Str) (r : MessageRouter) :
    (migrate d tenants r).fault_mgr_ = r.fault_mgr_ := rfl

theorem active_migrate (tenants : List Str) (r : MessageRouter) (code : FaultCode) :
    Active d code (migrate d tenants r) ↔ Active d code r := Iff.rfl

/-- A recovery clears the fault of an earlier alert exactly when the device
resolves to the same tenant for both, or the alert was never recorded. -/
theorem cleared_iff (r : MessageRouter) (alert resolved : FaultMessage d) (before between after : List Str)
    (halert : alert.report = .fault_alert) (hresolved : resolved.report = .fault_resolved)
    (hcode : resolved.code = alert.code) (hmgr : r.fault_mgr_.isSome) (hnone : ¬ Active d alert.code r) :
    let reported := migrate d before r
    let recovered := migrate d between (alert.handle reported)
    ¬ Active d alert.code (migrate d after (resolved.handle recovered)) ↔
      resolve_tenant recovered.device_mgr_ d = resolve_tenant reported.device_mgr_ d ∨
        ¬ ReadableInt alert.payload "ts".toList := by
  intro reported recovered
  obtain ⟨mgr, hmgr⟩ := Option.isSome_iff_exists.1 hmgr
  have hreported : reported.fault_mgr_ = some mgr := hmgr
  rw [active_migrate]
  rw [active_iff hmgr] at hnone
  by_cases hts : ReadableInt alert.payload "ts".toList
  · obtain ⟨f, htenant, hd, hf, heq⟩ := handle_alert alert hreported halert hts
    have hrecovered : recovered.fault_mgr_ = some (mgr.add_fault f) := by
      show (migrate d between (alert.handle reported)).fault_mgr_ = _
      rw [migrate_fault_mgr, heq]
    rw [handle_resolved resolved hrecovered hresolved, active_iff rfl, FaultManager.resolve_fault_eq, hcode,
      or_iff_left (not_not.2 hts), ← htenant]
    -- before the alert no fault matches, so the recovery can only erase the new one
    have hold : ∀ g ∈ mgr.active_faults_,
        ¬FaultManager.sameFault (resolve_tenant recovered.device_mgr_ d) d alert.code g := by
      intro g hg hsame
      simp only [FaultManager.sameFault, decide_eq_true_eq] at hsame
      exact hnone ⟨g, hg, hsame.2⟩
    have hnew : FaultManager.sameFault (resolve_tenant recovered.device_mgr_ d) d alert.code f ↔
        resolve_tenant recovered.device_mgr_ d = f.tenant_id := by
      simp [FaultManager.sameFault, hd, hf, eq_comm]
    simp only [FaultManager.add_fault]
    rw [List.eraseP_append_right _ hold, ← hnew]
    by_cases h : FaultManager.sameFault (resolve_tenant recovered.device_mgr_ d) d alert.code f
    · rw [List.eraseP_cons_of_pos h]
      simpa [h] using hnone
    · rw [List.eraseP_cons_of_neg h]
      refine iff_of_false ?_ h
      exact not_not.2 ⟨f, by simp, hd, hf⟩
  · have hrecovered : recovered.fault_mgr_ = some mgr := by
      show (migrate d between (alert.handle reported)).fault_mgr_ = _
      rw [migrate_fault_mgr, handle_alert_throws alert hreported halert hts, hreported]
    rw [handle_resolved resolved hrecovered hresolved, active_iff rfl, FaultManager.resolve_fault_eq]
    refine iff_of_true ?_ (.inr hts)
    rintro ⟨g, hg, hsame⟩
    exact hnone ⟨g, List.mem_of_mem_eraseP hg, hsame⟩

/-- The pump's device, stored under acme. -/
def acme_device : MessageRouter where
  device_mgr_ := some (({} : DeviceManager).store "acme".toList "dev-1".toList
    { tenant_id := "acme".toList, device_id := "dev-1".toList })
  fault_mgr_ := some {}

theorem not_active_acme_device (code : FaultCode) : ¬ Active "dev-1".toList code acme_device := by
  rintro ⟨s, hs, f, hf, -⟩
  cases hs
  cases hf

/-- A migration after the recovery does no harm. -/
theorem cleared_before_migration :
    ¬ Active "dev-1".toList (pump_message .fault_alert).code
      (migrate "dev-1".toList ["beta".toList] ((pump_message .fault_resolved).handle
        (migrate "dev-1".toList [] ((pump_message .fault_alert).handle (migrate "dev-1".toList [] acme_device))))) := by
  refine (cleared_iff acme_device (pump_message .fault_alert) (pump_message .fault_resolved) [] [] ["beta".toList]
    rfl rfl rfl rfl (not_active_acme_device _)).2 (.inl ?_)
  decide

/-- A migration between the two messages leaves the fault active. -/
theorem cleared_fails :
    ¬ Active "dev-1".toList (pump_message .fault_alert).code acme_device ∧
    Active "dev-1".toList (pump_message .fault_alert).code ((pump_message .fault_resolved).handle
      (migrate "dev-1".toList ["beta".toList] ((pump_message .fault_alert).handle acme_device))) := by
  refine ⟨not_active_acme_device _, _, rfl, _, List.mem_cons_self, ?_, ?_⟩
  · decide
  · decide

end DevSys.MessageRouter
