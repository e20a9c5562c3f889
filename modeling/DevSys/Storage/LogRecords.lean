import DevSys.Lib.JsonGrammar
import DevSys.Storage.LogManager
import Mathlib.Data.List.Forall2
/-!
# What is read from the log

The lines of a log are the records of the calls of `write`, each with the
strings that were given.
-/
open Cxx Runs Rotation JsonGrammar

namespace DevSys.LogManager

/-! ## Time stamps -/

/-- The fields of a time in UTC that are printed. -/
structure Time where
  year : Int
  mon : Nat
  mday : Nat
  hour : Nat
  min : Nat
  sec : Nat
  ms : Int
  deriving DecidableEq, Repr

/-- `std::setfill('0') << std::setw(w) << n`. -/
def setw (w : Nat) (n : Int) : Str := List.leftpad w '0' (to_string n)

def now_iso (t : Time) : Str :=
  to_string t.year ++ '-' :: setw 2 t.mon ++ '-' :: setw 2 t.mday ++ 'T' :: setw 2 t.hour ++ ':' :: setw 2 t.min ++
    ':' :: setw 2 t.sec ++ '.' :: setw 3 t.ms ++ ['Z']

theorem not_mem_setw {w : Nat} {n : Int} {c : Char} (hc : c ≠ '-') (hd : c.isDigit = false) : c ∉ setw w n := by
  rw [setw, List.leftpad, List.mem_append, not_or]
  refine ⟨fun h => ?_, not_mem_to_string hc hd⟩
  rw [List.eq_of_mem_replicate h] at hd
  cases hd

theorem not_mem_now_iso (t : Time) {c : Char} (hd : c.isDigit = false) (hc : c ∉ ['-', 'T', ':', '.', 'Z']) :
    c ∉ now_iso t := by
  simp only [List.mem_cons, List.not_mem_nil, or_false, not_or] at hc
  obtain ⟨hdash, hT, hcolon, hdot, hZ⟩ := hc
  have hyear := not_mem_to_string (n := t.year) hdash hd
  have hnum {w : Nat} {n : Int} : c ∉ setw w n := not_mem_setw hdash hd
  simp [now_iso, hyear, hnum, hdash, hT, hcolon, hdot, hZ]

/-! ## Escaped strings -/

/-- An escaped string ends at the first quote that is not escaped, and is read
back as it was. -/
theorem quoted_json_escape (s r : Str) : Quoted (fun _ => True) (json_escape s ++ '"' :: r) s r := by
  induction s with
  | nil => exact .close
  | cons c s ih =>
    rw [json_escape, List.flatMap_cons, ← json_escape, List.append_assoc]
    split
    · exact .escape rfl ih
    · exact .escape rfl ih
    · exact .escape rfl ih
    · exact .escape rfl ih
    · exact .escape rfl ih
    · rename_i hquote hback _ _ _
      exact .plain trivial hquote hback ih

theorem newline_not_mem_json_escape (s : Str) : '\n' ∉ json_escape s := by
  rw [json_escape, List.mem_flatMap]
  rintro ⟨c, -, hc⟩
  split at hc
  · revert hc; decide
  · revert hc; decide
  · revert hc; decide
  · revert hc; decide
  · revert hc; decide
  · rename_i hlf _ _
    exact hlf (List.mem_singleton.1 hc).symm

theorem quoted_now_iso (t : Time) (r : Str) : Quoted (fun _ => True) (now_iso t ++ '"' :: r) (now_iso t) r := by
  refine Plain.quoted (fun c hc => ⟨trivial, ?_, ?_⟩) r
  · rintro rfl
    exact not_mem_now_iso t (by decide) (by decide) hc
  · rintro rfl
    exact not_mem_now_iso t (by decide) (by decide) hc

theorem quoted_level_str (level : Level) (r : Str) : Quoted (fun _ => True) (level_str level ++ '"' :: r) (level_str level) r := by
  refine Plain.quoted ?_ r
  cases level <;> decide

/-! ## Lines -/

/-- A call of `write`, with the trace id that is set then. -/
structure Record where
  time : Time
  level : Level := .INFO
  module : Str := []
  msg : Str := []
  trace_id : Str := []

def Record.message (r : Record) : Message :=
  { ts := now_iso r.time, level := r.level, module := r.module, msg := r.msg }

def Record.fields (r : Record) : List (Str × Value) :=
  [("ts".toList, .str (now_iso r.time)), ("level".toList, .str (level_str r.level)), ("module".toList, .str r.module),
    ("msg".toList, .str r.msg)] ++ if r.trace_id ≠ [] then [("trace_id".toList, .str r.trace_id)] else []

/-- The line is an object with the strings of the record. A control character
may stand for itself in it. -/
def IsRecord (line : Str) (r : Record) : Prop := Text (fun _ => True) line (.obj r.fields)

/-- The logger when the call is made. -/
def traced (s : LogManager) (r : Record) : LogManager := { s with trace_id := r.trace_id }

theorem plain_of_letters {s : Str} (h : '"' ∉ s) (h' : '\\' ∉ s) : Plain (fun _ => True) s := by
  intro c hc
  refine ⟨trivial, ?_, ?_⟩
  · rintro rfl
    exact h hc
  · rintro rfl
    exact h' hc

/-- The member of a string that was escaped. -/
theorem members_escaped {k v u r : Str} {fs : List (Str × Value)} (hk : '"' ∉ k) (hk' : '\\' ∉ k)
    (hfs : Members (fun _ => True) u fs r) :
    Members (fun _ => True) ('"' :: (k ++ '"' :: ':' :: '"' :: (json_escape v ++ '"' :: ',' :: u))) ((k, .str v) :: fs) r :=
  .cons (plain_of_letters hk hk') (.str (quoted_json_escape v _)) hfs

theorem members_escaped_last {k v r : Str} (hk : '"' ∉ k) (hk' : '\\' ∉ k) :
    Members (fun _ => True) ('"' :: (k ++ '"' :: ':' :: '"' :: (json_escape v ++ '"' :: '}' :: r))) [(k, .str v)] r :=
  .singleton (plain_of_letters hk hk') (.str (quoted_json_escape v _))

/-- A line has one newline, at its end, and is read as its record. -/
theorem exists_line (s : LogManager) (r : Record) :
    ∃ body, (traced s r).line r.message = body ++ ['\n'] ∧ '\n' ∉ body ∧ IsRecord body r := by
  have hts := not_mem_now_iso r.time (c := '\n') (by decide) (by decide)
  have hlevel : '\n' ∉ level_str r.level := by
    cases r.level <;> decide
  have hesc := newline_not_mem_json_escape
  -- what comes behind the message, with and without a trace id
  have htail : ∃ tail, (if r.trace_id ≠ [] then ",\"trace_id\":\"".toList ++ json_escape r.trace_id ++ "\"".toList else []) ++
      "\x7d\n".toList = tail ++ ['\n'] ∧ '\n' ∉ tail ∧
      Members (fun _ => True) ('"' :: ("msg".toList ++ '"' :: ':' :: '"' :: (json_escape r.msg ++ '"' :: tail)))
        (("msg".toList, .str r.msg) :: if r.trace_id ≠ [] then [("trace_id".toList, .str r.trace_id)] else []) [] := by
    split
    · refine ⟨',' :: '"' :: ("trace_id".toList ++ '"' :: ':' :: '"' :: (json_escape r.trace_id ++ ['"', '}'])), ?_, ?_, ?_⟩
      · simp
      · simp [hesc]
      · exact members_escaped (by decide) (by decide) (members_escaped_last (by decide) (by decide))
    · exact ⟨['}'], rfl, by decide, members_escaped_last (by decide) (by decide)⟩
  obtain ⟨tail, htail, hnewline, hmembers⟩ := htail
  refine ⟨'{' :: '"' :: ("ts".toList ++ '"' :: ':' :: '"' :: (now_iso r.time ++ '"' :: ',' ::
    '"' :: ("level".toList ++ '"' :: ':' :: '"' :: (level_str r.level ++ '"' :: ',' ::
    '"' :: ("module".toList ++ '"' :: ':' :: '"' :: (json_escape r.module ++ '"' :: ',' ::
    '"' :: ("msg".toList ++ '"' :: ':' :: '"' :: (json_escape r.msg ++ '"' :: tail)))))))), ?_, ?_, ?_⟩
  · have hline : (traced s r).line r.message = "\x7b\"ts\":\"".toList ++ now_iso r.time ++ "\"".toList ++
        ",\"level\":\"".toList ++ level_str r.level ++ "\"".toList ++
        ",\"module\":\"".toList ++ json_escape r.module ++ "\"".toList ++
        ",\"msg\":\"".toList ++ json_escape r.msg ++ "\"".toList ++
        ((if r.trace_id ≠ [] then ",\"trace_id\":\"".toList ++ json_escape r.trace_id ++ "\"".toList else []) ++
          "\x7d\n".toList) := List.append_assoc _ _ _
    rw [hline, htail]
    simp
  · simp [hts, hlevel, hesc, hnewline]
  · have hlevelk : Plain (fun _ => True) "level".toList := plain_of_letters (by decide) (by decide)
    have htsk : Plain (fun _ => True) "ts".toList := plain_of_letters (by decide) (by decide)
    exact ⟨[], _, [], blank_nil, blank_nil, rfl, .obj (.cons htsk (.str (quoted_now_iso _ _))
      (.cons hlevelk (.str (quoted_level_str _ _)) (members_escaped (by decide) (by decide) hmembers)))⟩

/-! ## Every run -/

def RecordStep (s : LogManager) (r : Record) (s' : LogManager) : Prop := WriteStep (traced s r) r.message s'

/-- The files rotated away in a run, and those there are. -/
def kept_text (tr : List (LogManager × Record)) (s : LogManager) : Str :=
  (tr.flatMap (fun p => rotated_away (traced p.1 p.2) p.2.message) ++ s.contents).flatten

/-- The calls that are not below the level. -/
def accepted_records (tr : List (LogManager × Record)) : List Record :=
  tr.flatMap fun p => if p.2.level.val < p.1.min_level.val then [] else [p.2]

/-- The call brings the file to its maximal size. -/
def Full (s : LogManager) (r : Record) : Prop := Rotates (traced s r) r.message

instance (s : LogManager) (r : Record) : Decidable (Full s r) := inferInstanceAs (Decidable (Rotates _ _))

/-- The records in the file: that of a call that rotates it is there twice. -/
def written (tr : List (LogManager × Record)) : List Record :=
  tr.flatMap fun p => (if p.2.level.val < p.1.min_level.val then [] else [p.2]) ++ if Full p.1 p.2 then [p.2] else []

theorem ready_traced {s : LogManager} (hs : Ready s) (r : Record) : Ready (traced s r) := ⟨hs.opened, hs.max_files⟩

theorem ready_records {tr : List (LogManager × Record)} {s₀ s : LogManager} (h₀ : Ready s₀)
    (h : Run RecordStep s₀ tr s) : Ready s := by
  induction h with
  | nil => exact h₀
  | @snoc tr s r s' _ hstep ih =>
    have heq : s' = (traced s r).write r.message.ts r.message.level r.message.module r.message.msg := hstep
    rw [heq]
    exact ready_write (ready_traced ih r) r.message

/-- The texts given to the stream in a run. -/
def lines_written (tr : List (LogManager × Record)) : List Str :=
  tr.flatMap fun p => copies (traced p.1 p.2) p.2.message

/-- The files grow by what is given to the stream. -/
theorem kept_text_run {tr : List (LogManager × Record)} {s₀ s : LogManager} (h₀ : Ready s₀)
    (h : Run RecordStep s₀ tr s) : kept_text tr s = s₀.contents.flatten ++ (lines_written tr).flatten := by
  rw [kept_text, ← List.flatten_append]
  congr 1
  induction h with
  | nil => exact (List.append_nil _).symm
  | @snoc tr s r s' hrun hstep ih =>
    have heq : s' = (traced s r).write r.message.ts r.message.level r.message.module r.message.msg := hstep
    have hwrite := contents_write (ready_traced (ready_records h₀ hrun) r) r.message
    rw [heq, List.flatMap_append, List.flatMap_singleton, List.append_assoc, hwrite, ← List.append_assoc]
    have hcontents : (traced s r).contents = s.contents := rfl
    rw [hcontents, ih, lines_written, lines_written, List.flatMap_append, List.flatMap_singleton, List.append_assoc]

/-- The line is the record and a newline. -/
def IsLine (line : Str) (r : Record) : Prop := ∃ body, line = body ++ ['\n'] ∧ '\n' ∉ body ∧ IsRecord body r

theorem lines_written_are_lines (tr : List (LogManager × Record)) :
    List.Forall₂ IsLine (lines_written tr) (written tr) := by
  induction tr with
  | nil => exact .nil
  | cons p tr ih =>
    have hline : IsLine ((traced p.1 p.2).line p.2.message) p.2 := exists_line p.1 p.2
    rw [lines_written, written, List.flatMap_cons, List.flatMap_cons, ← lines_written, ← written]
    refine List.rel_append (List.rel_append ?_ ?_) ih
    · rw [accepted]
      by_cases hlevel : p.2.level.val < p.1.min_level.val
      · rw [if_pos hlevel, if_pos (show p.2.message.level.val < (traced p.1 p.2).min_level.val from hlevel)]
        exact .nil
      · rw [if_neg hlevel, if_neg (show ¬p.2.message.level.val < (traced p.1 p.2).min_level.val from hlevel)]
        exact .cons hline .nil
    · by_cases hfull : Full p.1 p.2
      · rw [if_pos hfull, if_pos (show Rotates (traced p.1 p.2) p.2.message from hfull)]
        exact .cons hline .nil
      · rw [if_neg hfull, if_neg (show ¬Rotates (traced p.1 p.2) p.2.message from hfull)]
        exact .nil

/-- A text of lines splits into their records. -/
theorem getlineAll_flatten {ls : List Str} {rs : List Record} (h : List.Forall₂ IsLine ls rs) :
    List.Forall₂ IsRecord (getlineAll '\n' ls.flatten) rs := by
  induction h with
  | nil => exact .nil
  | cons hline _ ih =>
    obtain ⟨body, rfl, hnewline, hrecord⟩ := hline
    rw [List.flatten_cons, List.append_assoc, List.singleton_append, getlineAll_cut '\n' body _ hnewline]
    exact .cons hrecord ih

theorem exists_record_of_mem {ls : List Str} {rs : List Record} (h : List.Forall₂ IsRecord ls rs) {line : Str}
    (hline : line ∈ ls) : ∃ r ∈ rs, IsRecord line r := by
  induction h with
  | nil => cases hline
  | @cons l r ls rs hrecord _ ih =>
    rcases List.mem_cons.1 hline with rfl | hline
    · exact ⟨r, List.mem_cons_self, hrecord⟩
    · obtain ⟨r', hr', hrecord'⟩ := ih hline
      exact ⟨r', List.mem_cons_of_mem _ hr', hrecord'⟩

theorem mem_of_written {tr : List (LogManager × Record)} {r : Record} (h : r ∈ written tr) : ∃ p ∈ tr, p.2 = r := by
  obtain ⟨p, hp, hr⟩ := List.mem_flatMap.1 h
  refine ⟨p, hp, ?_⟩
  rcases List.mem_append.1 hr with hr | hr
  · split_ifs at hr
    · cases hr
    · exact (List.mem_singleton.1 hr).symm
  · split_ifs at hr
    · exact (List.mem_singleton.1 hr).symm
    · cases hr

/-- What a run adds to the files are lines that are read as the records given,
and there is one for each accepted call exactly when no call brings the file to
its maximal size. -/
theorem records_framed_iff {tr : List (LogManager × Record)} {s₀ s : LogManager} (h₀ : Ready s₀) (h : Run RecordStep s₀ tr s)
    {text : Str} (htext : kept_text tr s = s₀.contents.flatten ++ text) :
    (∀ line ∈ getlineAll '\n' text, ∃ p ∈ tr, IsRecord line p.2) ∧
      (List.Forall₂ IsRecord (getlineAll '\n' text) (accepted_records tr) ↔ ∀ p ∈ tr, ¬Full p.1 p.2) := by
  rw [kept_text_run h₀ h, List.append_cancel_left_eq] at htext
  subst htext
  have hlines := getlineAll_flatten (lines_written_are_lines tr)
  constructor
  · intro line hline
    obtain ⟨r, hr, hrecord⟩ := exists_record_of_mem hlines hline
    obtain ⟨p, hp, rfl⟩ := mem_of_written hr
    exact ⟨p, hp, hrecord⟩
  · constructor
    · intro haccepted p hp hfull
      have hlen := hlines.length_eq.symm.trans haccepted.length_eq
      rw [written, accepted_records, length_flatMap_append] at hlen
      have hnone := List.flatMap_eq_nil_iff.1 (List.eq_nil_of_length_eq_zero (Nat.add_eq_left.1 hlen)) p hp
      rw [if_pos hfull] at hnone
      cases hnone
    · intro hfull
      have hwritten : written tr = accepted_records tr := by
        refine flatMap_append_eq_iff.2 fun p hp => if_neg (hfull p hp)
      rwa [hwritten] at hlines

/-- A message with a newline, a quote and a backslash. -/
def injected : Record :=
  { time := ⟨2026, 6, 27, 12, 0, 0, 0⟩, module := "main".toList, msg := "a\n\"b\\".toList, trace_id := "t1".toList }

theorem not_full_injected : ¬Full one_mb injected := by
  rintro ⟨-, hfull⟩
  have hmax : (traced one_mb injected).max_bytes = 1024 * 1024 := by decide
  have hlen : ((traced one_mb injected).line injected.message).length < 1024 * 1024 := by decide +kernel
  have htellp : (traced one_mb injected).tellp = 0 := rfl
  rw [hmax, htellp] at hfull
  omega

theorem framed_injected : List.Forall₂ IsRecord (getlineAll '\n' (lines_written [(one_mb, injected)]).flatten) [injected] := by
  have hrun : Run RecordStep one_mb [(one_mb, injected)]
      ((traced one_mb injected).write injected.message.ts injected.message.level injected.message.module
        injected.message.msg) := Run.nil.snoc rfl
  refine (records_framed_iff ready_one_mb hrun (kept_text_run ready_one_mb hrun)).2.2 ?_
  intro p hp
  rw [List.mem_singleton.1 hp]
  exact not_full_injected

/-- A message of a mebibyte is two lines. -/
theorem framed_fails : ∃ r s text, Run RecordStep one_mb [(one_mb, r)] s ∧
    kept_text [(one_mb, r)] s = one_mb.contents.flatten ++ text ∧ accepted_records [(one_mb, r)] = [r] ∧
    (getlineAll '\n' text).length = 2 := by
  let r : Record := { time := ⟨2026, 6, 27, 12, 0, 0, 0⟩, msg := List.replicate (1024 * 1024) 'a' }
  have hrun : Run RecordStep one_mb [(one_mb, r)]
      ((traced one_mb r).write r.message.ts r.message.level r.message.module r.message.msg) := Run.nil.snoc rfl
  have hmsg : 1024 * 1024 ≤ r.message.msg.length := (List.length_replicate (n := 1024 * 1024) (a := 'a')).ge
  have hfull : Full one_mb r := rotates_one_mb (m := r.message) rfl hmsg
  refine ⟨r, _, _, hrun, kept_text_run ready_one_mb hrun, rfl, ?_⟩
  have hlines := getlineAll_flatten (lines_written_are_lines [(one_mb, r)])
  have hwritten : written [(one_mb, r)] = [r, r] := by
    rw [written, List.flatMap_singleton, if_neg (by decide), if_pos hfull]
    rfl
  rw [hlines.length_eq, hwritten]
  rfl

end DevSys.LogManager
