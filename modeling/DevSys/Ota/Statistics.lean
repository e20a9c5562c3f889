import DevSys.Lib.JsonStrings
import DevSys.Ota.FirmwareStore
import DevSys.Ota.Upgrades
import DevSys.Server.FaultListing
/-!
# What is reported about upgrades

The lists and the statistics of the upgrades are made from one record for each
device. A push starts a record over and a report of progress leaves it as it is,
so over every run the statistics tell the last pushes, and nothing of what the
devices report. The report of a device without a record is undefined.
-/
open Cxx Runs JsonText JsonGrammar

namespace DevSys.OtaManager
open Json Handlers FaultListing

/-! ## Tracking -/

/-- The counters do not reach the bounds of an `int`. -/
structure RolloutStats where
  total_targeted : Nat := 0
  downloading : Nat := 0
  installing : Nat := 0
  completed : Nat := 0
  failed : Nat := 0
  rolled_back : Nat := 0
  deriving DecidableEq, Repr

/-- The body of the loop of `get_rollout_stats`. -/
def RolloutStats.count (version : Str) (stats : RolloutStats) (rec : OtaRecord) : RolloutStats :=
  if rec.target_version ≠ version then stats
  else
    let stats := { stats with total_targeted := stats.total_targeted + 1 }
    if rec.stage = "downloading".toList then { stats with downloading := stats.downloading + 1 }
    else if rec.stage = "installing".toList then { stats with installing := stats.installing + 1 }
    else if rec.stage = "done".toList then { stats with completed := stats.completed + 1 }
    else if rec.stage = "failed".toList then { stats with failed := stats.failed + 1 }
    else if rec.stage = "rolled_back".toList then { stats with rolled_back := stats.rolled_back + 1 }
    else stats

def records (s : OtaManager) : List OtaRecord := s.ota_records_.entries.map (·.2)

def active_upgrades (s : OtaManager) : List OtaRecord :=
  s.records.filter fun rec => rec.stage ≠ "done".toList ∧ rec.stage ≠ "failed".toList

def get_device_ota_status (device_id : Str) (s : OtaManager) : OtaRecord :=
  (s.ota_records_.lookup device_id).getD {}

def get_rollout_stats (version : Str) (s : OtaManager) : RolloutStats :=
  s.records.foldl (RolloutStats.count version) {}

/-- `GET /api/v1/ota/stats/{version}`. -/
def get_ota_stats (req : HttpRequest) (s : OtaManager) : Except Exn HttpResponse := do
  let ver ← path_tail "/api/v1/ota/stats/".toList req
  let stats := s.get_rollout_stats ver
  .ok (FirmwareStore.success 200
    [strMember "version".toList ver, member "total_targeted".toList (to_string stats.total_targeted),
      member "downloading".toList (to_string stats.downloading),
      member "installing".toList (to_string stats.installing), member "completed".toList (to_string stats.completed),
      member "failed".toList (to_string stats.failed), member "rolled_back".toList (to_string stats.rolled_back)])

/-! ## What happened to a device -/

section
variable (hash : Str → Nat)

/-- The device is one of those that a push selects. -/
def Event.Selects (s : OtaManager) (d : Str) : Event → Prop
  | .push p mgr product version => d ∈ (p.targets hash mgr product version s).map (·.2)
  | _ => False

/-- The log line of a report is made from a record, not from behind the last one. -/
def Event.Defined (s : OtaManager) : Event → Prop
  | .process_ota_progress t d payload => (s.process_ota_progress t d payload).2 ≠ none
  | _ => True

/-- The version of the last push so far, after one more step. -/
def Event.pushed (s : OtaManager) (d : Str) (last : Str) : Event → Str
  | .push p mgr product version => if (p.targets hash mgr product version s).any (·.2 = d) then version else last
  | _ => last

/-- The version of the last push that selected the device. -/
def last_pushed (d : Str) (tr : List (OtaManager × Event)) : Str :=
  tr.foldl (fun last x => x.2.pushed hash x.1 d last) []

/-- The value of the statistics with a number of devices for a version. -/
def stats_value (version : Str) (devices : Nat) : Value :=
  .obj
    [("code".toList, .num ['0']), ("message".toList, .str "success".toList),
      ("data".toList, .obj
        [("version".toList, .str version), ("total_targeted".toList, .num (to_string devices)),
          ("downloading".toList, .num ['0']), ("installing".toList, .num ['0']), ("completed".toList, .num ['0']),
          ("failed".toList, .num ['0']), ("rolled_back".toList, .num ['0'])])]

theorem last_pushed_snoc (d : Str) (tr : List (OtaManager × Event)) (s : OtaManager) (e : Event) :
    last_pushed hash d (tr ++ [(s, e)]) = e.pushed hash s d (last_pushed hash d tr) := by
  rw [last_pushed, List.foldl_append]
  rfl

theorem any_target_iff {targets : List (Str × Str)} {d : Str} :
    targets.any (·.2 = d) = true ↔ d ∈ targets.map (·.2) := by
  simp

/-! ## The records of a run -/

/-- The record of a device: none if nothing selected it, and else one of its last push. -/
def Recorded (tr : List (OtaManager × Event)) (d : Str) : Option OtaRecord → Prop
  | none => (∀ p ∈ tr, ¬p.2.Selects hash p.1 d) ∧ last_pushed hash d tr = []
  | some rec => (∃ p ∈ tr, p.2.Selects hash p.1 d) ∧ rec.device_id = d ∧ rec.progress = 0 ∧
      rec.target_version = last_pushed hash d tr

variable {hash} {tr : List (OtaManager × Event)} {s : OtaManager} {d : Str} {r : Option OtaRecord}

/-- A step that does not select the device. -/
theorem Recorded.skip (h : Recorded hash tr d r) {e : Event} (he : ¬e.Selects hash s d) :
    Recorded hash (tr ++ [(s, e)]) d r := by
  have hlast : last_pushed hash d (tr ++ [(s, e)]) = last_pushed hash d tr := by
    rw [last_pushed_snoc]
    cases e with
    | push p mgr product version => exact if_neg (mt any_target_iff.1 he)
    | _ => rfl
  cases r with
  | none =>
    refine ⟨?_, hlast.trans h.2⟩
    rw [List.forall_mem_append, List.forall_mem_singleton]
    exact ⟨h.1, he⟩
  | some rec =>
    obtain ⟨⟨p, hp, hselects⟩, hid, hprogress, htarget⟩ := h
    exact ⟨⟨p, List.mem_append_left _ hp, hselects⟩, hid, hprogress, htarget.trans hlast.symm⟩

theorem selected_last {e : Event} (he : e.Selects hash s d) : ∃ p ∈ tr ++ [(s, e)], p.2.Selects hash p.1 d :=
  ⟨(s, e), List.mem_append_right _ (List.mem_singleton_self _), he⟩

theorem recorded_push (h : Recorded hash tr d (s.ota_records_.lookup d)) (p : Push) (mgr : Option DeviceManager)
    (product version : Str) : Recorded hash (tr ++ [(s, .push p mgr product version)]) d
      ((p.run hash mgr product version s).2.ota_records_.lookup d) := by
  by_cases hd : d ∈ (p.targets hash mgr product version s).map (·.2)
  · cases hfw : s.get_firmware version with
    | none =>
      rw [targets_none hash mgr product version hfw p] at hd
      cases hd
    | some fw =>
      obtain ⟨t, ht⟩ := run_target hash mgr product version hfw p hd
      rw [ht]
      refine ⟨selected_last hd, rfl, rfl, ?_⟩
      rw [last_pushed_snoc]
      exact (if_pos (any_target_iff.2 hd)).symm
  · rw [run_frame hash mgr product version p s hd]
    exact h.skip hd

/-- A report of a device that has a record changes no record. -/
theorem recorded_progress (h : Recorded hash tr d (s.ota_records_.lookup d)) {t d' payload : Str}
    (hdef : (Event.process_ota_progress t d' payload).Defined s) :
    Recorded hash (tr ++ [(s, .process_ota_progress t d' payload)]) d
      ((s.process_ota_progress t d' payload).1.ota_records_.lookup d) := by
  rw [Event.Defined, process_ota_progress_read] at hdef
  obtain ⟨rec, hrec⟩ := Option.ne_none_iff_exists'.1 hdef
  have hlookup : (s.process_ota_progress t d' payload).1.ota_records_.lookup d = s.ota_records_.lookup d := by
    rw [process_ota_progress_lookup, hrec]
    by_cases hd : d = d'
    · rw [if_pos hd, hd, hrec]
      rfl
    · rw [if_neg hd]
  rw [hlookup]
  exact h.skip id

theorem recorded_run (h : Run (Step hash) {} tr s) (hdef : ∀ p ∈ tr, p.2.Defined p.1) (d : Str) :
    Recorded hash tr d (s.ota_records_.lookup d) := by
  induction h with
  | nil => exact ⟨fun p hp => absurd hp List.not_mem_nil, rfl⟩
  | @snoc tr s e s' _ hstep ih =>
    rw [List.forall_mem_append, List.forall_mem_singleton] at hdef
    have ih := ih hdef.1
    subst hstep
    cases e with
    | register_firmware fw => exact ih.skip id
    | push p mgr product version => exact recorded_push ih p mgr product version
    | process_ota_progress t d' payload => exact recorded_progress ih hdef.2
    | delete_firmware version =>
      have hrecords : (s.delete_firmware version).2.ota_records_ = s.ota_records_ := by
        rcases delete_firmware_cases version s with ⟨-, hs⟩ | ⟨-, hs⟩ | ⟨-, hs⟩ <;> rw [hs]
      rw [Event.apply, hrecords]
      exact ih.skip id

/-- A device has a record exactly when a push has selected it. -/
theorem isSome_lookup_iff (h : Run (Step hash) {} tr s) (hdef : ∀ p ∈ tr, p.2.Defined p.1) (d : Str) :
    (s.ota_records_.lookup d).isSome ↔ ∃ p ∈ tr, p.2.Selects hash p.1 d := by
  have hrec := recorded_run h hdef d
  cases hl : s.ota_records_.lookup d with
  | none =>
    rw [hl] at hrec
    refine iff_of_false Bool.false_ne_true ?_
    rintro ⟨p, hp, hselects⟩
    exact hrec.1 p hp hselects
  | some rec =>
    rw [hl] at hrec
    exact iff_of_true rfl hrec.1

/-! ## Counting -/

/-- A record that waits, or that a report made, only counts as targeted. -/
theorem foldl_count (version : Str) {l : List OtaRecord} (hl : ∀ rec ∈ l, rec.stage ∈ [[], "pending".toList])
    (n : Nat) : l.foldl (RolloutStats.count version) { total_targeted := n } =
      { total_targeted := n + l.countP fun rec => rec.target_version = version } := by
  induction l generalizing n with
  | nil => rfl
  | cons rec l ih =>
    rw [List.forall_mem_cons] at hl
    obtain ⟨hstage, hl⟩ := hl
    rw [List.foldl_cons, List.countP_cons]
    by_cases hversion : rec.target_version = version
    · have hcount : RolloutStats.count version { total_targeted := n } rec = { total_targeted := n + 1 } := by
        rw [RolloutStats.count, if_neg (not_not.2 hversion)]
        simp only [List.mem_cons, List.not_mem_nil, or_false] at hstage
        rcases hstage with hs | hs <;> rw [hs] <;> rfl
      rw [hcount, ih hl]
      simp only [hversion, decide_true, if_true, RolloutStats.mk.injEq, and_self, and_true]
      omega
    · have hcount : RolloutStats.count version { total_targeted := n } rec = { total_targeted := n } := if_pos hversion
      rw [hcount, ih hl]
      simp [hversion]

/-! ## Every run -/

theorem stage_of_mem_records (h : Run (Step hash) {} tr s) : ∀ rec ∈ s.records, rec.stage ∈ [[], "pending".toList] := by
  intro rec hrec
  obtain ⟨⟨d, rec⟩, he, rfl⟩ := List.mem_map.1 hrec
  exact stages_run hash h d rec (UMap.mem_entries_iff.1 he)

theorem active_upgrades_run (h : Run (Step hash) {} tr s) : s.active_upgrades = s.records := by
  refine List.filter_eq_self.2 fun rec hrec => ?_
  have hstage := stage_of_mem_records h rec hrec
  simp only [List.mem_cons, List.not_mem_nil, or_false] at hstage
  rcases hstage with hs | hs <;> rw [hs] <;> decide

theorem recorded_of_mem (h : Run (Step hash) {} tr s) (hdef : ∀ p ∈ tr, p.2.Defined p.1) {e : Sigma fun _ : Str => OtaRecord}
    (he : e ∈ s.ota_records_.entries) :
    e.2.device_id = e.1 ∧ e.2.target_version = last_pushed hash e.1 tr := by
  have hrec := recorded_run h hdef e.1
  rw [UMap.mem_entries_iff.1 he] at hrec
  exact ⟨hrec.2.1, hrec.2.2.2⟩

theorem active_ids_run (h : Run (Step hash) {} tr s) (hdef : ∀ p ∈ tr, p.2.Defined p.1) :
    s.active_upgrades.map (·.device_id) = s.ota_records_.entries.map (·.1) := by
  rw [active_upgrades_run h, records, List.map_map]
  exact List.map_congr_left fun e he => (recorded_of_mem h hdef he).1

theorem get_rollout_stats_run (h : Run (Step hash) {} tr s) (hdef : ∀ p ∈ tr, p.2.Defined p.1) (version : Str) :
    s.get_rollout_stats version =
      { total_targeted := (s.active_upgrades.map (·.device_id)).countP fun d => last_pushed hash d tr = version } := by
  rw [get_rollout_stats, foldl_count version (stage_of_mem_records h) 0, active_ids_run h hdef, records, Nat.zero_add,
    List.countP_map, List.countP_map]
  congr 1
  refine List.countP_congr fun e he => ?_
  simp [(recorded_of_mem h hdef he).2]

end

/-! ## The answer -/

theorem get_ota_stats_eq {req : HttpRequest} {version : Str} (hpath : req.path = "/api/v1/ota/stats/".toList ++ version)
    {s : OtaManager} {n : Nat} (hstats : s.get_rollout_stats version = { total_targeted := n }) :
    ∃ resp, get_ota_stats req s = .ok resp ∧ resp.status_code = 200 ∧ resp.body = print (stats_value version n) := by
  have htail : path_tail "/api/v1/ota/stats/".toList req = .ok version := by
    rw [path_tail, hpath, substr_of_prefix (List.prefix_append _ _), List.drop_left]
  rw [get_ota_stats, htail]
  simp only [Bind.bind, Except.bind, hstats]
  refine ⟨_, rfl, rfl, ?_⟩
  have hzero : to_string ((0 : Nat) : Int) = ['0'] := rfl
  rw [hzero, stats_value, ← object_eq_print]
  simp only [List.map_cons, List.map_nil, strMember_eq, ← object_eq_print]
  simp only [print]
  rfl

theorem plain_stats_keys : ∀ k ∈ ["code".toList, "message".toList, "success".toList, "data".toList, "version".toList,
    "total_targeted".toList, "downloading".toList, "installing".toList, "completed".toList, "failed".toList,
    "rolled_back".toList], Plain Allowed k := by decide

/-- The version is the only text in the statistics. -/
theorem text_stats_iff (version : Str) (n : Nat) :
    Text Allowed (print (stats_value version n)) (stats_value version n) ↔ Plain Allowed version := by
  have hzero : Number ['0'] := number_to_string 0
  have hkeys := plain_stats_keys
  simp only [List.forall_mem_cons] at hkeys
  obtain ⟨h₁, h₂, h₃, h₄, h₅, h₆, h₇, h₈, h₉, h₁₀, h₁₁, -⟩ := hkeys
  have hnumbers : ∀ m ∈ numbers (stats_value version n), Number m := by
    simp [stats_value, numbers, numbersOfMembers, hzero, number_to_string]
  rw [text_print_strings_iff hnumbers]
  simp only [stats_value, strings, stringsOfMembers, List.nil_append, List.append_nil, List.cons_append,
    List.forall_mem_cons, h₁, h₂, h₃, h₄, h₅, h₆, h₇, h₈, h₉, h₁₀, h₁₁, true_and, List.not_mem_nil, false_imp_iff,
    implies_true, and_true]

end DevSys.OtaManager
