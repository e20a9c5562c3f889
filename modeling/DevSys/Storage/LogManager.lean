import DevSys.Lib.Rotation
import DevSys.Lib.Runs
import DevSys.Lib.Strings
/-!
# `LogManager`

Lines of structured log, in a file that is rotated when a line brings it to its
maximal size. The line is in the file already then, and is written to the new
file again.
-/
open Cxx Runs Rotation

namespace DevSys

/-! ## Lines -/

inductive Level where
  | DEBUG
  | INFO
  | WARN
  | ERROR
  deriving DecidableEq, Repr

def Level.val : Level → Nat
  | .DEBUG => 0
  | .INFO => 1
  | .WARN => 2
  | .ERROR => 3

/-- `init` sets the fields, and opens the file. -/
structure LogManager where
  log_dir : Str := []
  min_level : Level := .INFO
  max_file_size_mb : Int32 := 50
  max_files : Int32 := 10
  trace_id : Str := []
  files : Files Str Str := fun _ => none
  file_stream_open : Bool := false

namespace LogManager

def level_str : Level → Str
  | .DEBUG => "DEBUG".toList
  | .INFO => "INFO".toList
  | .WARN => "WARN".toList
  | .ERROR => "ERROR".toList

def json_escape (s : Str) : Str :=
  s.flatMap fun
    | '"' => "\\\"".toList
    | '\\' => "\\\\".toList
    | '\n' => "\\n".toList
    | '\r' => "\\r".toList
    | '\t' => "\\t".toList
    | c => [c]

/-- The line of a message, with the time stamp `ts`. -/
def json_line (s : LogManager) (ts : Str) (level : Level) (module msg : Str) : Str :=
  "\x7b\"ts\":\"".toList ++ ts ++ "\"".toList ++
    ",\"level\":\"".toList ++ level_str level ++ "\"".toList ++
    ",\"module\":\"".toList ++ json_escape module ++ "\"".toList ++
    ",\"msg\":\"".toList ++ json_escape msg ++ "\"".toList ++
    (if s.trace_id ≠ [] then ",\"trace_id\":\"".toList ++ json_escape s.trace_id ++ "\"".toList else []) ++
    "\x7d\n".toList

/-! ## Writing and rotating -/

/-- `current_file_path`, which is the base name of the rotated files too. -/
def base (s : LogManager) : Str := s.log_dir ++ "/dev-sys-cloud.log".toList

def rotated_name (s : LogManager) (i : Nat) : Str := s.base ++ ".".toList ++ to_string i

/-- The stream, which is closed, is opened again by `write`. -/
def rotate (s : LogManager) : LogManager :=
  { s with files := Rotation.rotate s.base s.rotated_name s.max_files.toInt.toNat s.files }

/-- `file_stream << line`, with the file open for appending. -/
def put (line : Str) (s : LogManager) : LogManager := { s with files := append s.base [line] s.files }

/-- The end of the file, as `tellp` reports it after a write. -/
def tellp (s : LogManager) : Int := (lines s.files s.base).flatten.length

def max_bytes (s : LogManager) : Int := s.max_file_size_mb.toInt * 1024 * 1024

def write (ts : Str) (level : Level) (module msg : Str) (s : LogManager) : LogManager :=
  if level.val < s.min_level.val then s
  else
    let line := s.json_line ts level module msg
    if s.file_stream_open then
      let s := s.put line
      if s.tellp > 0 ∧ s.tellp ≥ s.max_bytes then s.rotate.put line else s
    else s

/-! ## Runs -/

/-- A call of `write`, with the time it is made at. -/
structure Message where
  ts : Str := []
  level : Level := .INFO
  module : Str := []
  msg : Str := []

def line (s : LogManager) (m : Message) : Str := s.json_line m.ts m.level m.module m.msg

def WriteStep (s : LogManager) (m : Message) (s' : LogManager) : Prop := s' = s.write m.ts m.level m.module m.msg

/-- The file is open, and there is a place for a rotated file. -/
structure Ready (s : LogManager) : Prop where
  opened : s.file_stream_open
  max_files : 1 ≤ s.max_files.toInt.toNat

/-- The message is written, and brings the file to its maximal size. -/
def Rotates (s : LogManager) (m : Message) : Prop :=
  s.min_level.val ≤ m.level.val ∧ s.max_bytes ≤ s.tellp + (s.line m).length

instance (s : LogManager) (m : Message) : Decidable (Rotates s m) := inferInstanceAs (Decidable (_ ∧ _))

/-- The line of a message that is not below the level. -/
def accepted (s : LogManager) (m : Message) : List Str := if m.level.val < s.min_level.val then [] else [s.line m]

/-- The lines of the file that a rotation removes. -/
def rotated_away (s : LogManager) (m : Message) : List Str :=
  if Rotates s m then lines s.files (s.rotated_name (s.max_files.toInt.toNat - 1)) else []

/-- The rotated files from the highest index down to 0, and the current file. -/
def contents (s : LogManager) : List Str :=
  numbered s.rotated_name s.max_files.toInt.toNat s.files ++ lines s.files s.base

/-- The files rotated away in a run, and those there are. -/
def kept (tr : List (LogManager × Message)) (s : LogManager) : List Str :=
  tr.flatMap (fun p => rotated_away p.1 p.2) ++ s.contents

/-- The lines accepted in a run, in order. -/
def accepted_lines (tr : List (LogManager × Message)) : List Str := tr.flatMap fun p => accepted p.1 p.2

/-! ## One message -/

theorem rotated_name_injective (s : LogManager) : Function.Injective s.rotated_name := by
  intro i j h
  have hnum : to_string i = to_string j := List.append_cancel_left h
  exact Int.ofNat_inj.1 (to_string_injective hnum)

theorem base_ne_rotated_name (s : LogManager) (i : Nat) : s.base ≠ s.rotated_name i := by
  intro h
  have hlen := congrArg List.length h
  simp [rotated_name] at hlen

/-- The files of `s'` are those of `s` moved on by one. -/
structure Shifted (s s' : LogManager) : Prop where
  moved : ∀ i, i + 1 < s.max_files.toInt.toNat → s'.files (s.rotated_name (i + 1)) = s.files (s.rotated_name i)
  newest : s'.files (s.rotated_name 0) = s.files s.base
  gone : ∀ k, s'.files k = none ∨
    ∃ k', k' ≠ s.rotated_name (s.max_files.toInt.toNat - 1) ∧ s'.files k = s.files k'
  untouched : ∀ i, s.max_files.toInt.toNat ≤ i → s'.files (s.rotated_name i) = s.files (s.rotated_name i)
  others : ∀ k, k ≠ s.base → (∀ i, k ≠ s.rotated_name i) → s'.files k = s.files k
  free : s'.files s.base = none

theorem rotate_shifts (s : LogManager) (hmax : 1 ≤ s.max_files.toInt.toNat) : Shifted s s.rotate := by
  have hname := rotated_name_injective s
  have hbase := base_ne_rotated_name s
  obtain ⟨hfree, hzero, hmoved⟩ := rotate_spec hname hbase hmax s.files
  refine ⟨hmoved, hzero, exists_before_rotate hname hbase hmax s.files, ?_, ?_, hfree⟩
  · intro i hi
    refine rotate_other hmax (hbase i).symm (fun j hj h => ?_) s.files
    have := hname h
    omega
  · intro k hk hother
    exact rotate_other hmax hk (fun i _ => hother i) s.files

/-- Ten files at most, with a current file and file 1 there. -/
theorem rotate_shifts_gap :
    let files : Files Str Str := fun k =>
      if k = "/dev-sys-cloud.log".toList ∨ k = "/dev-sys-cloud.log.1".toList then some [k] else none
    Shifted { files } (rotate { files }) :=
  rotate_shifts _ (show 1 ≤ (10 : Int32).toInt.toNat by decide)

theorem line_length_pos (s : LogManager) (m : Message) : 0 < (s.line m).length := by
  have hend : "\x7d\n".toList ≠ [] := by decide
  have hline : s.line m ≠ [] := List.append_ne_nil_of_right_ne_nil _ hend
  exact List.length_pos_iff.2 hline

theorem tellp_put (s : LogManager) (line : Str) : (s.put line).tellp = s.tellp + line.length := by
  have hlines : lines (s.put line).files (s.put line).base = lines s.files s.base ++ [line] :=
    lines_append_self _ _ _
  rw [tellp, hlines, List.flatten_append, List.flatten_singleton, List.length_append, tellp, Nat.cast_add]

/-- A message is dropped, put to the file, or put to the file before and after a rotation. -/
theorem write_cases {s : LogManager} (hs : Ready s) (m : Message) :
    (m.level.val < s.min_level.val ∧ s.write m.ts m.level m.module m.msg = s) ∨
    (s.min_level.val ≤ m.level.val ∧ ¬Rotates s m ∧ s.write m.ts m.level m.module m.msg = s.put (s.line m)) ∨
    (s.min_level.val ≤ m.level.val ∧ Rotates s m ∧
      s.write m.ts m.level m.module m.msg = (s.put (s.line m)).rotate.put (s.line m)) := by
  by_cases hlevel : m.level.val < s.min_level.val
  · exact .inl ⟨hlevel, if_pos hlevel⟩
  · have hmin := Nat.not_lt.1 hlevel
    have htellp := tellp_put s (s.line m)
    have hpos : (s.put (s.line m)).tellp > 0 := by
      have hline := line_length_pos s m
      have hold : 0 ≤ s.tellp := Int.natCast_nonneg _
      omega
    have hwrite : s.write m.ts m.level m.module m.msg =
        if (s.put (s.line m)).tellp > 0 ∧ (s.put (s.line m)).tellp ≥ s.max_bytes then
          (s.put (s.line m)).rotate.put (s.line m)
        else s.put (s.line m) := by
      rw [write, if_neg hlevel]
      dsimp only
      rw [if_pos hs.opened]
      rfl
    right
    by_cases hrot : Rotates s m
    · refine .inr ⟨hmin, hrot, ?_⟩
      rw [hwrite, if_pos ⟨hpos, by rw [htellp]; exact hrot.2⟩]
    · refine .inl ⟨hmin, hrot, ?_⟩
      rw [hwrite, if_neg]
      rintro ⟨-, hfull⟩
      rw [htellp] at hfull
      exact hrot ⟨hmin, hfull⟩

theorem ready_write {s : LogManager} (hs : Ready s) (m : Message) : Ready (s.write m.ts m.level m.module m.msg) := by
  rcases write_cases hs m with ⟨-, heq⟩ | ⟨-, -, heq⟩ | ⟨-, -, heq⟩
  · rw [heq]
    exact hs
  · rw [heq]
    exact ⟨hs.opened, hs.max_files⟩
  · rw [heq]
    exact ⟨hs.opened, hs.max_files⟩

theorem contents_put (s : LogManager) (line : Str) : (s.put line).contents = s.contents ++ [line] := by
  have hnumbered : numbered s.rotated_name s.max_files.toInt.toNat (append s.base [line] s.files) =
      numbered s.rotated_name s.max_files.toInt.toNat s.files :=
    numbered_congr fun i _ => append_ne (base_ne_rotated_name s i).symm _ _
  show numbered s.rotated_name s.max_files.toInt.toNat (append s.base [line] s.files) ++
    lines (append s.base [line] s.files) s.base = _
  rw [hnumbered, lines_append_self, contents, List.append_assoc]

/-- A rotation takes the last file away. -/
theorem contents_rotate {s : LogManager} (hs : Ready s) :
    lines s.files (s.rotated_name (s.max_files.toInt.toNat - 1)) ++ s.rotate.contents = s.contents := by
  have hmax := hs.max_files
  obtain ⟨n, hn⟩ : ∃ n, s.max_files.toInt.toNat = n + 1 := ⟨s.max_files.toInt.toNat - 1, by omega⟩
  have hfree := (rotate_spec (rotated_name_injective s) (base_ne_rotated_name s) (Nat.succ_pos n) s.files).1
  have hmoved := numbered_rotate (rotated_name_injective s) (base_ne_rotated_name s) n s.files
  show _ ++ (numbered s.rotated_name s.max_files.toInt.toNat
      (Rotation.rotate s.base s.rotated_name s.max_files.toInt.toNat s.files) ++
    lines (Rotation.rotate s.base s.rotated_name s.max_files.toInt.toNat s.files) s.base) = _
  rw [contents, hn, Nat.add_sub_cancel, lines_of_none hfree, List.append_nil, hmoved]

/-- What a message adds: a line that rotates the file is there twice. -/
def copies (s : LogManager) (m : Message) : List Str :=
  accepted s m ++ if Rotates s m then [s.line m] else []

theorem contents_write {s : LogManager} (hs : Ready s) (m : Message) :
    rotated_away s m ++ (s.write m.ts m.level m.module m.msg).contents = s.contents ++ copies s m := by
  rcases write_cases hs m with ⟨hlevel, heq⟩ | ⟨hmin, hrot, heq⟩ | ⟨hmin, hrot, heq⟩
  · have hrot : ¬Rotates s m := fun h => Nat.not_lt.2 h.1 hlevel
    rw [heq, rotated_away, if_neg hrot, copies, if_neg hrot, accepted, if_pos hlevel]
    simp
  · rw [heq, rotated_away, if_neg hrot, copies, if_neg hrot, accepted, if_neg (Nat.not_lt.2 hmin), contents_put]
    simp
  · have hput : Ready (s.put (s.line m)) := ⟨hs.opened, hs.max_files⟩
    have hlast : lines (s.put (s.line m)).files (s.rotated_name (s.max_files.toInt.toNat - 1)) =
        lines s.files (s.rotated_name (s.max_files.toInt.toNat - 1)) :=
      congrArg (fun found => Option.getD found []) (append_ne (base_ne_rotated_name s _).symm [s.line m] s.files)
    have hrotate : lines (s.put (s.line m)).files (s.rotated_name (s.max_files.toInt.toNat - 1)) ++
        (s.put (s.line m)).rotate.contents = (s.put (s.line m)).contents := contents_rotate hput
    rw [heq, rotated_away, if_pos hrot, copies, if_pos hrot, accepted, if_neg (Nat.not_lt.2 hmin), contents_put, ← hlast,
      ← List.append_assoc, hrotate, contents_put, List.append_assoc]

/-! ## Every run -/

theorem ready_run {tr : List (LogManager × Message)} {s₀ s : LogManager} (h₀ : Ready s₀) (h : Run WriteStep s₀ tr s) :
    Ready s := by
  induction h with
  | nil => exact h₀
  | @snoc tr s m s' _ hstep ih =>
    rw [hstep]
    exact ready_write ih m

/-- After a run the files hold what they held before, and the copies of each message. -/
theorem kept_run {tr : List (LogManager × Message)} {s₀ s : LogManager} (h₀ : Ready s₀) (h : Run WriteStep s₀ tr s) :
    kept tr s = s₀.contents ++ tr.flatMap fun p => copies p.1 p.2 := by
  induction h with
  | nil => exact (List.append_nil _).symm
  | @snoc tr s m s' hrun hstep ih =>
    have hwrite := contents_write (ready_run h₀ hrun) m
    rw [kept] at ih
    rw [hstep, kept, List.flatMap_append, List.flatMap_singleton, List.append_assoc, hwrite, ← List.append_assoc, ih,
      List.flatMap_append, List.flatMap_singleton, List.append_assoc]

theorem length_flatMap_append {α β : Type} (f g : α → List β) (l : List α) :
    (l.flatMap fun a => f a ++ g a).length = (l.flatMap f).length + (l.flatMap g).length := by
  induction l with
  | nil => rfl
  | cons a l ih =>
    simp only [List.flatMap_cons, List.length_append, ih]
    omega

theorem flatMap_append_eq_iff {α β : Type} {f g : α → List β} {l : List α} :
    (l.flatMap fun a => f a ++ g a) = l.flatMap f ↔ ∀ a ∈ l, g a = [] := by
  constructor
  · intro h
    have hlen := congrArg List.length h
    rw [length_flatMap_append] at hlen
    have hnil : l.flatMap g = [] := List.eq_nil_of_length_eq_zero (by omega)
    exact List.flatMap_eq_nil_iff.1 hnil
  · intro h
    apply List.flatMap_congr
    intro a ha
    rw [h a ha, List.append_nil]

/-- A run keeps every accepted line once, in order, exactly when none of its
messages brings the file to its maximal size. -/
theorem kept_once_iff {tr : List (LogManager × Message)} {s₀ s : LogManager} (h₀ : Ready s₀)
    (h : Run WriteStep s₀ tr s) : kept tr s = s₀.contents ++ accepted_lines tr ↔ ∀ p ∈ tr, ¬Rotates p.1 p.2 := by
  rw [kept_run h₀ h, List.append_cancel_left_eq, accepted_lines]
  unfold copies
  rw [flatMap_append_eq_iff]
  refine forall_congr' fun p => forall_congr' fun _ => ?_
  by_cases hrot : Rotates p.1 p.2
  · simp [hrot]
  · simp [hrot]

/-- `init("./logs", INFO, 1, 10)` in an empty directory. -/
def one_mb : LogManager := { log_dir := "./logs".toList, max_file_size_mb := 1, file_stream_open := true }

theorem ready_one_mb : Ready one_mb := ⟨rfl, by decide⟩

/-- A message below the level is not accepted, and the next one is kept. -/
theorem kept_once_started :
    let m : Message := { ts := "2026-06-27T12:00:00".toList, module := "main".toList, msg := "started".toList }
    let tr := [(one_mb, { m with level := .DEBUG }), (one_mb, m)]
    accepted_lines tr = [one_mb.line m] ∧
      kept tr (one_mb.write m.ts m.level m.module m.msg) = one_mb.contents ++ accepted_lines tr := by
  intro m tr
  have hdebug : WriteStep one_mb { m with level := .DEBUG } one_mb := by
    rw [WriteStep, write, if_pos]
    decide
  have hstart : WriteStep one_mb m (one_mb.write m.ts m.level m.module m.msg) := rfl
  refine ⟨rfl, (kept_once_iff ready_one_mb ((Run.nil.snoc hdebug).snoc hstart)).2 ?_⟩
  simp only [List.nil_append, List.cons_append, List.forall_mem_cons]
  exact ⟨by decide, by decide, List.forall_mem_nil _⟩

theorem length_le_json_escape (s : Str) : s.length ≤ (json_escape s).length := by
  induction s with
  | nil => exact Nat.le_refl _
  | cons c s ih =>
    rw [json_escape, List.flatMap_cons, List.length_append, ← json_escape, List.length_cons]
    have hc : 1 ≤ (json_escape [c]).length := by
      rw [json_escape, List.flatMap_singleton]
      split
      · decide
      · decide
      · decide
      · decide
      · decide
      · exact Nat.le_refl _
    rw [json_escape, List.flatMap_singleton] at hc
    omega

theorem length_msg_le_line (s : LogManager) (m : Message) : m.msg.length ≤ (s.line m).length := by
  have hescape := length_le_json_escape m.msg
  have hpart : (json_escape m.msg).Sublist (s.line m) := by
    refine List.Sublist.trans ?_ (List.sublist_append_left _ _)
    refine List.Sublist.trans ?_ (List.sublist_append_left _ _)
    refine List.Sublist.trans ?_ (List.sublist_append_left _ _)
    exact List.sublist_append_right _ _
  exact hescape.trans hpart.length_le

theorem rotates_one_mb {m : Message} (hlevel : m.level = .INFO) (hmsg : 1024 * 1024 ≤ m.msg.length) : Rotates one_mb m := by
  have hlen := length_msg_le_line one_mb m
  have hmax : one_mb.max_bytes = 1024 * 1024 := by decide
  have htellp : one_mb.tellp = 0 := rfl
  refine ⟨hlevel ▸ Nat.le_refl _, ?_⟩
  rw [hmax, htellp]
  omega

theorem kept_one_mb {m : Message} (hlevel : m.level = .INFO) (hmsg : 1024 * 1024 ≤ m.msg.length) :
    accepted one_mb m = [one_mb.line m] ∧
      kept [(one_mb, m)] (one_mb.write m.ts m.level m.module m.msg) = [one_mb.line m, one_mb.line m] := by
  have hrun : Run WriteStep one_mb [(one_mb, m)] (one_mb.write m.ts m.level m.module m.msg) := Run.nil.snoc rfl
  have hrot := rotates_one_mb hlevel hmsg
  have haccepted : accepted one_mb m = [one_mb.line m] := if_neg (Nat.not_lt.2 hrot.1)
  refine ⟨haccepted, ?_⟩
  rw [kept_run ready_one_mb hrun, List.flatMap_singleton, copies, if_pos hrot, haccepted]
  rfl

/-- A message of a mebibyte is in file 0 and in the current one. -/
theorem kept_once_fails : ∃ m s, Run WriteStep one_mb [(one_mb, m)] s ∧ accepted_lines [(one_mb, m)] = [one_mb.line m] ∧
    kept [(one_mb, m)] s = [one_mb.line m, one_mb.line m] := by
  obtain ⟨haccepted, hkept⟩ := kept_one_mb (m := { msg := List.replicate (1024 * 1024) 'a' }) rfl
    (by rw [List.length_replicate])
  refine ⟨{ msg := List.replicate (1024 * 1024) 'a' }, _, Run.nil.snoc rfl, ?_, hkept⟩
  rw [accepted_lines, List.flatMap_singleton, haccepted]

end LogManager

end DevSys
