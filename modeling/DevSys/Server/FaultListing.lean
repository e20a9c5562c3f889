import DevSys.Lib.JsonPrint
import DevSys.Lib.Runs
import DevSys.Router.MessageRouter
import DevSys.Server.Listings
/-!
# The active faults as JSON

A description is cut out of a message without looking at its escapes, and is put
into the listing without any. The listing is read back exactly when no text in
it needs an escape.
-/
open Cxx Runs JsonText JsonGrammar

namespace DevSys

namespace Json

/-! ## JSON texts are printed values -/

theorem object_eq_print (fs : List (Str × Value)) : object (fs.map fun f => member f.1 (print f.2)) = print (.obj fs) := by
  have hmembers : List.intercalate [','] (fs.map fun f => member f.1 (print f.2)) = printMembers fs := by
    induction fs with
    | nil => rw [printMembers]; rfl
    | cons f fs ih =>
      obtain ⟨k, v⟩ := f
      cases fs with
      | nil => simp [printMembers, member, keyPat]
      | cons f fs =>
        rw [printMembers, ← ih]
        simp [member, keyPat, List.intercalate]
  rw [object, hmembers, print]
  rfl

theorem array_eq_print (vs : List Value) : array (vs.map print) = print (.arr vs) := by
  have helements : List.intercalate [','] (vs.map print) = printElements vs := by
    induction vs with
    | nil => rw [printElements]; rfl
    | cons v vs ih =>
      cases vs with
      | nil => simp [printElements]
      | cons w vs =>
        rw [printElements, ← ih]
        simp [List.intercalate]
  rw [array, helements, print]
  rfl

theorem strMember_eq (k s : Str) : strMember k s = member k (print (.str s)) := by
  rw [print]
  simp [strMember, member]

end Json

namespace FaultListing
open Json Listings MessageRouter

/-! ## The handler -/

/-- The time stamp, or zero for what is not a number. -/
def ts_text (f : FaultInfo) : Str :=
  if f.timestamp = [] ∨ f.timestamp = "f".toList ∨ f.timestamp.any (· ∉ "0123456789".toList) then "0".toList
  else f.timestamp

def fault_json (f : FaultInfo) : Str :=
  object
    [strMember "tenant_id".toList f.tenant_id, strMember "device_id".toList f.device_id,
      member "code".toList (to_string f.code.val.toNat), member "level".toList (to_string f.level.val.toNat),
      strMember "description".toList f.description, member "ts".toList (ts_text f)]

/-- `GET /api/v1/faults/active`. -/
def get_faults_active (m : FaultManager) : HttpResponse :=
  json_response 200 (success (listing "faults".toList (m.active_faults.map fault_json)))

/-! ## What it is to say -/

def fault_value (f : FaultInfo) : Value :=
  .obj
    [("tenant_id".toList, .str f.tenant_id), ("device_id".toList, .str f.device_id),
      ("code".toList, .num (to_string f.code.val.toNat)), ("level".toList, .num (to_string f.level.val.toNat)),
      ("description".toList, .str f.description), ("ts".toList, .num (ts_text f))]

def faults_value (faults : List FaultInfo) : Value :=
  .obj
    [("code".toList, .num ['0']), ("message".toList, .str "success".toList),
      ("data".toList, .obj
        [("total".toList, .num (to_string faults.length)), ("faults".toList, .arr (faults.map fault_value))])]

theorem fault_json_eq (f : FaultInfo) : fault_json f = print (fault_value f) := by
  rw [fault_value, ← object_eq_print, fault_json]
  simp only [List.map_cons, List.map_nil, strMember_eq]
  simp only [print]

theorem get_faults_active_body (m : FaultManager) : (get_faults_active m).body = print (faults_value m.active_faults) := by
  have harray : array (m.active_faults.map fault_json) = print (.arr (m.active_faults.map fault_value)) := by
    rw [← array_eq_print, List.map_map]
    exact congrArg array (List.map_congr_left fun f _ => fault_json_eq f)
  show success (listing _ _) = _
  rw [success, listing, harray, List.length_map, faults_value, ← object_eq_print]
  simp only [List.map_cons, List.map_nil, strMember_eq, ← object_eq_print]
  simp only [print]

/-- The texts of a fault need no escapes. -/
structure PlainFault (f : FaultInfo) : Prop where
  tenant_id : Plain Allowed f.tenant_id
  device_id : Plain Allowed f.device_id
  description : Plain Allowed f.description

theorem clean_fault_value_iff (f : FaultInfo) : Clean Allowed (fault_value f) ↔ PlainFault f ∧ Number (ts_text f) := by
  have hkeys : ∀ k ∈ ["tenant_id".toList, "device_id".toList, "code".toList, "level".toList, "description".toList,
      "ts".toList], Plain Allowed k := by decide
  simp only [List.forall_mem_cons] at hkeys
  obtain ⟨h₁, h₂, h₃, h₄, h₅, h₆, -⟩ := hkeys
  simp only [fault_value, Clean, CleanMembers, h₁, h₂, h₃, h₄, h₅, h₆, number_to_string, true_and, and_true]
  constructor
  · rintro ⟨ht, hd, hdesc, hts⟩
    exact ⟨⟨ht, hd, hdesc⟩, hts⟩
  · rintro ⟨⟨ht, hd, hdesc⟩, hts⟩
    exact ⟨ht, hd, hdesc, hts⟩

theorem clean_faults_value_iff (faults : List FaultInfo) :
    Clean Allowed (faults_value faults) ↔ ∀ f ∈ faults, PlainFault f ∧ Number (ts_text f) := by
  have hkeys : ∀ k ∈ ["code".toList, "message".toList, "success".toList, "data".toList, "total".toList, "faults".toList],
      Plain Allowed k := by decide
  simp only [List.forall_mem_cons] at hkeys
  obtain ⟨h₁, h₂, h₃, h₄, h₅, h₆, -⟩ := hkeys
  have hzero : Number ['0'] := number_to_string 0
  simp only [faults_value, Clean, CleanMembers, h₁, h₂, h₃, h₄, h₅, h₆, hzero, number_to_string, true_and, and_true,
    cleanElements_iff, List.forall_mem_map, clean_fault_value_iff]

/-! ## Faults that are reported -/

/-- The fault of an alert, by whatever devices are known when it comes in. -/
def Reported (f : FaultInfo) : Prop :=
  ∃ mgr pt payload fault_code ts, f = reportedFault mgr pt payload fault_code ts

/-- What is cut out of a message has no quote in it. -/
theorem quote_not_mem_get_string (json key : Str) : '"' ∉ JsonHelper.get_string json key := by
  rw [JsonHelper.get_string_eq]
  cases after (keyPat key ++ ['"']) json with
  | none => exact List.not_mem_nil
  | some s =>
    dsimp only
    split
    · intro hmem
      simpa using List.mem_takeWhile_imp hmem
    · exact List.not_mem_nil

/-- The time stamp of a reported fault is shown as a number. -/
theorem Reported.number {f : FaultInfo} (h : Reported f) : Number (ts_text f) := by
  obtain ⟨mgr, pt, payload, fault_code, ts, rfl⟩ := h
  rw [ts_text]
  split
  · exact number_to_string 0
  · rename_i hts
    have hstamp : (reportedFault mgr pt payload fault_code ts).timestamp = to_string ts.toInt := rfl
    rw [hstamp] at hts ⊢
    cases hn : ts.toInt with
    | ofNat n => exact number_to_string n
    | negSucc n =>
      -- a sign is not a digit
      refine absurd (.inr (.inr (List.any_eq_true.2 ⟨'-', ?_, by decide⟩))) hts
      rw [hn]
      exact List.mem_cons_self

theorem Reported.quote_not_mem {f : FaultInfo} (h : Reported f) : '"' ∉ f.description := by
  obtain ⟨mgr, pt, payload, fault_code, ts, rfl⟩ := h
  exact quote_not_mem_get_string payload _

/-! ## Runs -/

/-- A message of a device, a fault that is resolved by hand, or a change of the devices. -/
inductive Input where
  | message (now : Int) (topic payload : Str)
  | resolve (tenant_id device_id : Str) (code : FaultCode)
  | devices (mgr : Option DeviceManager)

def Input.apply : Input → MessageRouter → MessageRouter
  | .message now topic payload, r => (r.on_message now topic payload).1
  | .resolve tenant_id device_id code, r =>
    { r with fault_mgr_ := r.fault_mgr_.map fun m => (m.resolve_fault tenant_id device_id code).2 }
  | .devices mgr, r => { r with device_mgr_ := mgr }

def Takes (r : MessageRouter) (i : Input) (r' : MessageRouter) : Prop := r' = i.apply r

/-- A message leaves the faults alone, adds the one it reports, or resolves one. -/
theorem fault_mgr_on_message (now : Int) (topic payload : Str) {r : MessageRouter} {m : FaultManager}
    (hr : r.fault_mgr_ = some m) :
    (r.on_message now topic payload).1.fault_mgr_ = some m ∨
      (∃ f, Reported f ∧ (r.on_message now topic payload).1.fault_mgr_ = some (m.add_fault f)) ∨
      ∃ t d code, (r.on_message now topic payload).1.fault_mgr_ = some (m.resolve_fault t d code).2 := by
  rcases on_message_orders_faults now topic payload r with ⟨-, h⟩ | ⟨-, h⟩ | ⟨-, h | h⟩
  · rw [h]
    exact .inl hr
  · rw [h]
    exact .inl hr
  · rw [h, handle_fault_alert, hr]
    dsimp only
    split
    · exact .inl hr
    split
    · exact .inl hr
    · exact .inr (.inl ⟨_, ⟨_, _, _, _, _, rfl⟩, rfl⟩)
  · rw [h, handle_fault_resolved, hr]
    dsimp only
    split
    · exact .inl hr
    · exact .inr (.inr ⟨_, _, _, rfl⟩)

/-- The router has a fault manager, and each active fault was reported. -/
def AllReported (r : MessageRouter) : Prop := ∃ m, r.fault_mgr_ = some m ∧ ∀ f ∈ m.active_faults, Reported f

theorem reported_resolve {m : FaultManager} (h : ∀ f ∈ m.active_faults, Reported f) (t d : Str) (code : FaultCode) :
    ∀ f ∈ (m.resolve_fault t d code).2.active_faults, Reported f := by
  intro f hf
  rw [FaultManager.resolve_fault_eq] at hf
  exact h f (List.mem_of_mem_eraseP hf)

theorem reported_step {r r' : MessageRouter} {i : Input} (h : AllReported r) (hstep : Takes r i r') : AllReported r' := by
  obtain ⟨m, hm, hall⟩ := h
  subst hstep
  cases i with
  | message now topic payload =>
    rcases fault_mgr_on_message now topic payload hm with heq | ⟨f, hf, heq⟩ | ⟨t, d, code, heq⟩
    · exact ⟨m, heq, hall⟩
    · refine ⟨_, heq, fun f' hf' => ?_⟩
      rcases List.mem_append.1 hf' with hf' | hf'
      · exact hall f' hf'
      · rw [List.mem_singleton.1 hf']
        exact hf
    · exact ⟨_, heq, reported_resolve hall t d code⟩
  | resolve t d code =>
    refine ⟨(m.resolve_fault t d code).2, ?_, reported_resolve hall t d code⟩
    rw [Input.apply, hm, Option.map_some]
  | devices mgr => exact ⟨m, hm, hall⟩

theorem reported_run {tr : List (MessageRouter × Input)} {r₀ r : MessageRouter} (h₀ : AllReported r₀)
    (h : Run Takes r₀ tr r) : AllReported r := by
  induction h with
  | nil => exact h₀
  | snoc _ hstep ih => exact reported_step ih hstep

/-- The description of an active fault is read back from its literal exactly if it
has no backslash and no control character, and the listing is read back exactly
if no text in it needs an escape. -/
theorem stored_text_iff {tr : List (MessageRouter × Input)} {r₀ r : MessageRouter} (h₀ : AllReported r₀)
    (h : Run Takes r₀ tr r) :
    ∃ m, r.fault_mgr_ = some m ∧
      (∀ f ∈ m.active_faults, ∀ rest, Quoted Allowed (f.description ++ '"' :: rest) f.description rest ↔
        ∀ c ∈ f.description, Allowed c ∧ c ≠ '\\') ∧
      (Text Allowed (get_faults_active m).body (faults_value m.active_faults) ↔ ∀ f ∈ m.active_faults, PlainFault f) := by
  obtain ⟨m, hm, hall⟩ := reported_run h₀ h
  refine ⟨m, hm, fun f hf rest => ?_, ?_⟩
  · rw [quoted_iff, and_iff_left rfl]
    refine forall₂_congr fun c hc => ?_
    have hquote : c ≠ '"' := by
      rintro rfl
      exact (hall f hf).quote_not_mem hc
    rw [and_iff_right hquote]
  · rw [get_faults_active_body, text_print_iff, clean_faults_value_iff]
    exact forall₂_congr fun f hf => and_iff_left (hall f hf).number

/-- A cloud without devices, and without faults. -/
def quiet : MessageRouter := { fault_mgr_ := some {} }

theorem allReported_quiet : AllReported quiet := ⟨{}, rfl, fun _ h => absurd h List.not_mem_nil⟩

def alert (description : String) : Str :=
  "\x7b\"event_type\":\"fault_alert\",\"description\":\"".toList ++ description.toList ++ "\"\x7d".toList

theorem stored_text_leak :
    ∃ m, (Input.apply (.message 0 "dev-1/v1/event/post".toList (alert "leak")) quiet).fault_mgr_ = some m ∧
      (∀ f ∈ m.active_faults, ∀ rest, Quoted Allowed (f.description ++ '"' :: rest) f.description rest ↔
        ∀ c ∈ f.description, Allowed c ∧ c ≠ '\\') ∧
      (Text Allowed (get_faults_active m).body (faults_value m.active_faults) ↔ ∀ f ∈ m.active_faults, PlainFault f) :=
  stored_text_iff allReported_quiet (Run.nil.snoc rfl)

/-- A description with an escaped quote is cut off behind the backslash, and the
listing is no JSON text. -/
theorem stored_text_fails :
    ∃ m, (Input.apply (.message 0 "dev-1/v1/event/post".toList (alert "cup \\\"L\\\" jammed")) quiet).fault_mgr_ = some m ∧
      m.active_faults.map (·.description) = ["cup \\".toList] ∧ ¬∃ v, Text Allowed (get_faults_active m).body v := by
  refine ⟨_, rfl, by decide, ?_⟩
  rintro ⟨v, hv⟩
  have hclosed := hv.closed
  revert hclosed
  decide +kernel

end FaultListing

end DevSys
