import DevSys.Lib.Calendar
import DevSys.Lib.JsonArrays
import DevSys.Lib.JsonRaw
import DevSys.Storage.LogRecords
/-!
# `export_recent`

The lines of the last hours, from the current file and then the rotated ones,
each by the time stamp in it.
-/
open Cxx Runs Rotation JsonGrammar Calendar

namespace DevSys.LogManager

/-! ## The clock -/

/-- A count of the system clock, in nanoseconds from 1970 on. -/
structure Clock where
  count : Nat
  bound : count < 2 ^ 63

def Clock.to_time_t (now : Clock) : Nat := now.count / 10 ^ 9

/-- `gmtime_r`, with the milliseconds beside it. -/
def gmtime_r (t : Int) (ms : Int) : Time :=
  let date := ofDayNumber (t / 86400)
  let s := (t % 86400).toNat
  { year := date.year, mon := date.month, mday := date.day, hour := s / 3600, min := s / 60 % 60, sec := s % 60, ms }

def timegm (t : Time) : Int := dayNumber ⟨t.year, t.mon, t.mday⟩ * 86400 + t.hour * 3600 + t.min * 60 + t.sec

def Clock.time (now : Clock) : Time := gmtime_r now.to_time_t (now.count / 10 ^ 6 % 1000 : Nat)

theorem timegm_gmtime_r (t ms : Int) : timegm (gmtime_r t ms) = t := by
  have hday := (ofDayNumber_spec (t / 86400)).2
  rw [timegm, gmtime_r]
  dsimp only
  rw [hday]
  omega

/-- The fields are in the ranges they are printed in. -/
structure Printable (t : Time) : Prop where
  year : 1000 ≤ t.year ∧ t.year < 10000
  mon : 1 ≤ t.mon ∧ t.mon ≤ 12
  mday : 1 ≤ t.mday ∧ t.mday ≤ 31
  hour : t.hour ≤ 23
  min : t.min ≤ 59
  sec : t.sec ≤ 59

theorem monthLength_le (y : Int) (m : Nat) : monthLength y m ≤ 31 := by
  unfold monthLength
  split
  · split_ifs <;> decide
  · decide
  · decide
  · decide
  · decide
  · decide

theorem printable_gmtime_r {t : Int} (hpos : 0 ≤ t) (hlt : t < 253402300800) (ms : Int) : Printable (gmtime_r t ms) := by
  have hyear : 1000 ≤ (ofDayNumber (t / 86400)).year ∧ (ofDayNumber (t / 86400)).year < 10000 :=
    year_ofDayNumber (by omega) (by omega)
  have hvalid := (ofDayNumber_spec (t / 86400)).1
  refine ⟨hyear, hvalid.month, ⟨hvalid.day.1, hvalid.day.2.trans (monthLength_le _ _)⟩, ?_, ?_, ?_⟩
  · show (t % 86400).toNat / 3600 ≤ 23
    omega
  · show (t % 86400).toNat / 60 % 60 ≤ 59
    omega
  · show (t % 86400).toNat % 60 ≤ 59
    omega

/-- The count of the clock ends before the year 10000. -/
theorem Clock.printable (now : Clock) : Printable now.time := by
  have hbound := now.bound
  refine printable_gmtime_r (Int.natCast_nonneg _) ?_ _
  rw [Clock.to_time_t]
  omega

/-! ## Reading a time stamp -/

/-- A number of at most `len` digits, between `min` and `max`. -/
def extract_num (min max len : Nat) (s : Str) : Option (Nat × Str) :=
  let ds := (s.take len).takeWhile Char.isDigit
  if ds ≠ [] ∧ min ≤ ofDigits ds ∧ ofDigits ds ≤ max then some (ofDigits ds, s.drop ds.length) else none

/-- A character of the format that stands for itself. -/
def extract_char (c : Char) : Str → Option Str
  | [] => none
  | d :: s => if d = c then some s else none

/-- `std::get_time(&tm_buf, "%Y-%m-%dT%H:%M:%S")`. -/
def get_time (s : Str) : Option Time := do
  let (year, s) ← extract_num 0 9999 4 (s.dropWhile isspace)
  let s ← extract_char '-' s
  let (mon, s) ← extract_num 1 12 2 s
  let s ← extract_char '-' s
  let (mday, s) ← extract_num 1 31 2 s
  let s ← extract_char 'T' s
  let (hour, s) ← extract_num 0 23 2 s
  let s ← extract_char ':' s
  let (min, s) ← extract_num 0 59 2 s
  let s ← extract_char ':' s
  let (sec, _) ← extract_num 0 60 2 s
  some { year, mon, mday, hour, min, sec, ms := 0 }

theorem isDigit_of_mem_setw {w n : Nat} {c : Char} (h : c ∈ setw w n) : c.isDigit := by
  rw [setw, List.leftpad, List.mem_append] at h
  rcases h with h | h
  · rw [List.eq_of_mem_replicate h]
    decide
  · exact isDigit_of_mem_toDigits h

theorem length_setw {w n : Nat} (hw : 0 < w) (hn : n < 10 ^ w) : (setw w n).length = w := by
  have hlen : (Nat.toDigits 10 n).length ≤ w := (Nat.length_toDigits_le_iff (by decide) hw).2 hn
  rw [setw, List.length_leftpad]
  exact max_eq_left hlen

theorem ofDigits_replicate_append (k : Nat) (ds : Str) : ofDigits (List.replicate k '0' ++ ds) = ofDigits ds := by
  induction k with
  | zero => rfl
  | succ k ih => exact ih

theorem ofDigits_setw (w n : Nat) : ofDigits (setw w n) = n := by
  rw [setw, List.leftpad, ofDigits_replicate_append]
  exact ofDigits_toDigits n

/-- A number that is printed in all its places is read from them. -/
theorem extract_num_setw {min max w n : Nat} (hw : 0 < w) (hmin : min ≤ n) (hmax : n ≤ max) (hn : n < 10 ^ w) (r : Str) :
    extract_num min max w (setw w n ++ r) = some (n, r) := by
  have hlen := length_setw hw hn
  have hdigits : ((setw w n ++ r).take w).takeWhile Char.isDigit = setw w n := by
    rw [List.take_append_of_le_length hlen.ge, List.take_of_length_le hlen.le]
    exact List.takeWhile_eq_self_iff.2 fun c hc => isDigit_of_mem_setw hc
  have hne : setw w n ≠ [] := List.ne_nil_of_length_pos (by omega)
  have hvalue := ofDigits_setw w n
  rw [extract_num, hdigits, hvalue, if_pos ⟨hne, hmin, hmax⟩, List.drop_left]

theorem extract_char_self (c : Char) (s : Str) : extract_char c (c :: s) = some s := if_pos rfl

theorem setw_four {n : Nat} (h : 1000 ≤ n) : setw 4 n = to_string n := by
  have hlen : ¬(Nat.toDigits 10 n).length ≤ 3 := by
    rw [Nat.length_toDigits_le_iff (by decide) (by decide)]
    omega
  have hpad : 4 - (to_string n).length = 0 := by
    have hlength : (to_string n).length = (Nat.toDigits 10 n).length := rfl
    omega
  rw [setw, List.leftpad, hpad, List.replicate_zero, List.nil_append]

theorem not_isspace_of_isDigit {c : Char} (h : c.isDigit) : ¬isspace c := by
  intro hspace
  have hc : c ∈ [' ', '\t', '\n', '\x0b', '\x0c', '\r'] := by simpa [isspace] using hspace
  revert h
  simp only [List.mem_cons, List.not_mem_nil, or_false] at hc
  rcases hc with rfl | rfl | rfl | rfl | rfl | rfl <;> decide

/-- The time stamp to the second. -/
def iso (t : Time) : Str :=
  to_string t.year ++ '-' :: (setw 2 t.mon ++ '-' :: (setw 2 t.mday ++ 'T' :: (setw 2 t.hour ++ ':' ::
    (setw 2 t.min ++ ':' :: setw 2 t.sec))))

section
variable {t : Time} (h : Printable t)
include h

theorem Printable.exists_year : ∃ y : Nat, t.year = y ∧ 1000 ≤ y ∧ y < 10000 ∧ to_string t.year = setw 4 y := by
  have hyear := h.year
  obtain ⟨y, hy⟩ := Int.eq_ofNat_of_zero_le (show 0 ≤ t.year by omega)
  have hlow : 1000 ≤ y := by omega
  refine ⟨y, hy, hlow, by omega, ?_⟩
  rw [hy]
  exact (setw_four hlow).symm

theorem take_now_iso : (now_iso t).take 19 = iso t := by
  obtain ⟨y, -, -, hy, hyear⟩ := h.exists_year
  have hyear := hyear ▸ length_setw (w := 4) (n := y) (by decide) (by omega)
  have hmon := length_setw (w := 2) (n := t.mon) (by decide) (by have := h.mon; omega)
  have hmday := length_setw (w := 2) (n := t.mday) (by decide) (by have := h.mday; omega)
  have hhour := length_setw (w := 2) (n := t.hour) (by decide) (by have := h.hour; omega)
  have hmin := length_setw (w := 2) (n := t.min) (by decide) (by have := h.min; omega)
  have hsec := length_setw (w := 2) (n := t.sec) (by decide) (by have := h.sec; omega)
  have hlen : (iso t).length = 19 := by
    simp only [iso, List.length_append, List.length_cons, hyear, hmon, hmday, hhour, hmin, hsec]
  have hparts : now_iso t = iso t ++ '.' :: (setw 3 t.ms ++ ['Z']) := by simp [now_iso, iso]
  rw [hparts, ← hlen, List.take_left]

theorem dropWhile_iso : (iso t).dropWhile isspace = iso t := by
  obtain ⟨y, -, -, hy, hyear⟩ := h.exists_year
  have hlen := length_setw (w := 4) (n := y) (by decide) (by omega)
  obtain ⟨c, ds, hc⟩ := List.exists_cons_of_ne_nil (List.ne_nil_of_length_pos (l := setw 4 y) (by omega))
  have hdigit : c.isDigit := isDigit_of_mem_setw (w := 4) (n := y) (hc ▸ List.mem_cons_self)
  rw [iso, hyear, hc, List.cons_append, List.dropWhile_cons_of_neg (not_isspace_of_isDigit hdigit)]

/-- The first 19 characters of a time stamp are read as its fields. -/
theorem get_time_now_iso : get_time ((now_iso t).take 19) = some { t with ms := 0 } := by
  obtain ⟨y, hy, hlow, hhigh, hyear⟩ := h.exists_year
  have hmon := h.mon
  have hmday := h.mday
  have hhour := h.hour
  have hmin := h.min
  have hsec := h.sec
  rw [take_now_iso h, get_time, dropWhile_iso h, iso, hyear, hy]
  have hread {min max n : Nat} (r : Str) (hlow : min ≤ n) (hhigh : n ≤ max) (hn : n ≤ 99) :
      extract_num min max 2 (setw 2 n ++ r) = some (n, r) := extract_num_setw (by decide) hlow hhigh (by omega) r
  have hlast : extract_num 0 60 2 (setw 2 t.sec) = some (t.sec, []) := by
    simpa using hread [] (Nat.zero_le t.sec) (show t.sec ≤ 60 by omega) (show t.sec ≤ 99 by omega)
  rw [extract_num_setw (by decide) (by omega) (by omega) (by omega)]
  simp only [Option.bind_eq_bind, Option.bind_some, extract_char_self]
  rw [hread _ hmon.1 hmon.2 (by omega)]
  simp only [Option.bind_some, extract_char_self]
  rw [hread _ hmday.1 hmday.2 (by omega)]
  simp only [Option.bind_some, extract_char_self]
  rw [hread _ (Nat.zero_le _) hhour (by omega)]
  simp only [Option.bind_some, extract_char_self]
  rw [hread _ (Nat.zero_le _) hmin (by omega)]
  simp only [Option.bind_some, extract_char_self]
  rw [hlast]
  rfl

end

/-! ## `export_recent` -/

/-- The seconds of the time `hours` ago, which are counted in 64 bits. -/
def cutoff_ts (now : Clock) (hours : Int32) : Int :=
  ((now.count - (hours.toInt * (3600 * 10 ^ 9)).bmod (2 ^ 64)).bmod (2 ^ 64)).tdiv (10 ^ 9)

/-- In 64 bits there are hours for 292 years. -/
theorem cutoff_ts_le_iff (now t : Clock) {hours : Int32} (hpos : 0 ≤ hours.toInt) (hmax : hours.toInt ≤ 2562047) :
    cutoff_ts now hours ≤ t.to_time_t ↔ (now.to_time_t : Int) ≤ t.to_time_t + 3600 * hours.toInt := by
  have hbound := now.bound
  have hhours : (hours.toInt * (3600 * 10 ^ 9)).bmod (2 ^ 64) = hours.toInt * (3600 * 10 ^ 9) :=
    Int.bmod_eq_of_le (by omega) (by omega)
  have hdiff : ((now.count : Int) - hours.toInt * (3600 * 10 ^ 9)).bmod (2 ^ 64) =
      now.count - hours.toInt * (3600 * 10 ^ 9) := Int.bmod_eq_of_le (by omega) (by omega)
  rw [cutoff_ts, hhours, hdiff, Clock.to_time_t, Clock.to_time_t]
  rcases Int.le_total 0 (now.count - hours.toInt * (3600 * 10 ^ 9)) with hle | hle
  · rw [Int.tdiv_eq_ediv_of_nonneg hle]
    omega
  · have hneg : ((now.count : Int) - hours.toInt * (3600 * 10 ^ 9)).tdiv (10 ^ 9) ≤ 0 := by
      rw [← Int.neg_neg (now.count - hours.toInt * (3600 * 10 ^ 9)), Int.neg_tdiv, Int.tdiv_eq_ediv_of_nonneg (by omega)]
      omega
    omega

/-- The string between `"ts":"` and the next quote. -/
def ts_str (line : Str) : Option Str := do
  let ts_start ← find "\"ts\":\"".toList line
  let ts_end ← findFrom ['"'] line (ts_start + 6)
  some (substrTo line (ts_start + 6) (some ts_end))

def is_recent (cutoff_ts : Int) (line : Str) : Bool :=
  if line = [] then false
  else match (ts_str line).bind fun ts => get_time (ts.take 19) with
    | none => false
    | some t => cutoff_ts ≤ timegm t

/-- The current file, and the rotated files there are. -/
def export_files (s : LogManager) : List Str :=
  s.base :: ((List.range s.max_files.toInt.toNat).map s.rotated_name).filter fun f => (s.files f).isSome

/-- The lines that are exported. A file that cannot be opened has none. -/
def export_lines (now : Clock) (hours : Int32) (s : LogManager) : List Str :=
  s.export_files.flatMap fun fp =>
    (getlineAll '\n' (lines s.files fp).flatten).filter (is_recent (cutoff_ts now hours))

def export_recent (now : Clock) (hours : Int32) (s : LogManager) : Str :=
  '[' :: (List.intercalate [','] (export_lines now hours s) ++ [']'])

/-- A line, with its time stamp, up to its end. -/
theorem exists_line_stamp (s : LogManager) (r : Record) : ∃ rest, (traced s r).line r.message =
    '{' :: '"' :: 't' :: 's' :: '"' :: ':' :: '"' :: (now_iso r.time ++ '"' :: (rest ++ ['}'])) ++ ['\n'] := by
  have hline : (traced s r).line r.message = "\x7b\"ts\":\"".toList ++ now_iso r.time ++ "\"".toList ++
      ",\"level\":\"".toList ++ level_str r.level ++ "\"".toList ++
      ",\"module\":\"".toList ++ json_escape r.module ++ "\"".toList ++
      ",\"msg\":\"".toList ++ json_escape r.msg ++ "\"".toList ++
      (if r.trace_id ≠ [] then ",\"trace_id\":\"".toList ++ json_escape r.trace_id ++ "\"".toList else []) ++
      "\x7d\n".toList := rfl
  rw [hline]
  generalize (if r.trace_id ≠ [] then ",\"trace_id\":\"".toList ++ json_escape r.trace_id ++ "\"".toList else []) = tail
  refine ⟨",\"level\":\"".toList ++ (level_str r.level ++ ("\"".toList ++
    (",\"module\":\"".toList ++ (json_escape r.module ++ ("\"".toList ++
    (",\"msg\":\"".toList ++ (json_escape r.msg ++ ("\"".toList ++ tail)))))))), ?_⟩
  have hstart : "\x7b\"ts\":\"".toList = ['{', '"', 't', 's', '"', ':', '"'] := rfl
  have hquote : "\"".toList = ['"'] := rfl
  have hend : "\x7d\n".toList = ['}'] ++ ['\n'] := rfl
  simp only [hstart, hquote, hend, List.append_assoc, List.cons_append, List.nil_append]

/-- The first string of a line is its time stamp. -/
theorem ts_str_stamp {ts : Str} (h : '"' ∉ ts) (rest : Str) :
    ts_str ('{' :: '"' :: 't' :: 's' :: '"' :: ':' :: '"' :: (ts ++ '"' :: rest)) = some ts := by
  generalize hline : '{' :: '"' :: 't' :: 's' :: '"' :: ':' :: '"' :: (ts ++ '"' :: rest) = line
  have hstart : find "\"ts\":\"".toList line = some 1 := by simp [← hline, find]
  have hdrop : line.drop 7 = ts ++ '"' :: rest := by rw [← hline]; rfl
  have hend : findFrom ['"'] line 7 = some (ts.length + 7) := by
    rw [findFrom, hdrop, find_single_append h, Option.map_some]
  have hsubstr : substrTo line 7 (some (ts.length + 7)) = ts := by
    rw [substrTo, hdrop, Nat.add_sub_cancel, List.take_left]
  rw [ts_str, hstart]
  simp only [Option.bind_eq_bind, Option.bind_some, Nat.reduceAdd, hend, hsubstr]

/-! ## Control characters -/

theorem layout_not_mem_json_escape (s : Str) : ∀ c ∈ json_escape s, ¬Layout c := by
  intro c hc
  obtain ⟨d, -, hd⟩ := List.mem_flatMap.1 hc
  split at hd
  · exact (show ∀ x ∈ "\\\"".toList, ¬Layout x from List.all_iff_forall_prop.1 (by decide)) c hd
  · exact (show ∀ x ∈ "\\\\".toList, ¬Layout x from List.all_iff_forall_prop.1 (by decide)) c hd
  · exact (show ∀ x ∈ "\\n".toList, ¬Layout x from List.all_iff_forall_prop.1 (by decide)) c hd
  · exact (show ∀ x ∈ "\\r".toList, ¬Layout x from List.all_iff_forall_prop.1 (by decide)) c hd
  · exact (show ∀ x ∈ "\\t".toList, ¬Layout x from List.all_iff_forall_prop.1 (by decide)) c hd
  · rename_i hn hr ht
    obtain rfl := List.mem_singleton.1 hd
    rintro (rfl | rfl | rfl)
    · exact ht rfl
    · exact hn rfl
    · exact hr rfl

/-- Line ends and tabs are escaped, and no other control characters. -/
theorem allowed_json_escape_iff (s : Str) : (∀ c ∈ json_escape s, Allowed c) ↔ ∀ c ∈ s, Allowed c ∨ Layout c := by
  rw [json_escape, List.forall_mem_flatMap]
  refine forall_congr' fun c => imp_congr_right fun _ => ?_
  split
  · exact iff_of_true (List.all_iff_forall_prop.1 (by decide)) (by decide)
  · exact iff_of_true (List.all_iff_forall_prop.1 (by decide)) (by decide)
  · exact iff_of_true (List.all_iff_forall_prop.1 (by decide)) (by decide)
  · exact iff_of_true (List.all_iff_forall_prop.1 (by decide)) (by decide)
  · exact iff_of_true (List.all_iff_forall_prop.1 (by decide)) (by decide)
  · -- every other character stays as it is
    rename_i hn hr ht
    have hlayout : ¬Layout c := by
      rintro (rfl | rfl | rfl)
      · exact ht rfl
      · exact hn rfl
      · exact hr rfl
    rw [List.forall_mem_singleton, or_iff_left hlayout]

/-! ## The lines of calls -/

/-- A call of `write`, with the time of the clock and the trace id that is set then. -/
structure Call where
  clock : Clock
  level : Level := .INFO
  module : Str := []
  msg : Str := []
  trace_id : Str := []

namespace Call

def record (c : Call) : Record :=
  { time := c.clock.time, level := c.level, module := c.module, msg := c.msg, trace_id := c.trace_id }

def line (c : Call) : Str := (traced {} c.record).line c.record.message

/-- The line without the newline. -/
def body (c : Call) : Str := c.line.dropLast

/-- The call was made in the last hours, to the second. -/
def recent (now : Clock) (hours : Int32) (c : Call) : Bool :=
  (now.to_time_t : Int) ≤ c.clock.to_time_t + 3600 * hours.toInt

theorem line_eq (c : Call) : c.line = c.body ++ ['\n'] ∧ '\n' ∉ c.body ∧ IsRecord c.body c.record := by
  obtain ⟨body, hline, hnewline, hrecord⟩ := exists_line {} c.record
  have hbody : c.body = body := by rw [Call.body, line, hline, List.dropLast_concat]
  rw [hbody]
  exact ⟨hline, hnewline, hrecord⟩

/-- A line starts with the time stamp. -/
theorem exists_body (c : Call) :
    ∃ rest, c.body = '{' :: '"' :: 't' :: 's' :: '"' :: ':' :: '"' :: (now_iso c.clock.time ++ '"' :: rest) := by
  obtain ⟨rest, hline⟩ := exists_line_stamp {} c.record
  refine ⟨rest ++ ['}'], ?_⟩
  have hbody := c.line_eq.1
  rw [Call.line, hline] at hbody
  exact (List.append_cancel_right hbody).symm

theorem ts_str_body (c : Call) : ts_str c.body = some (now_iso c.clock.time) := by
  obtain ⟨rest, hbody⟩ := c.exists_body
  rw [hbody]
  exact ts_str_stamp (not_mem_now_iso _ (by decide) (by decide)) rest

theorem is_recent_body (cutoff_ts : Int) (c : Call) :
    is_recent cutoff_ts c.body = decide (cutoff_ts ≤ c.clock.to_time_t) := by
  obtain ⟨rest, hbody⟩ := c.exists_body
  have hne : c.body ≠ [] := by simp [hbody]
  have hms (t : Time) : timegm { t with ms := 0 } = timegm t := rfl
  have htime : timegm { c.clock.time with ms := 0 } = c.clock.to_time_t := by
    rw [hms, Clock.time, timegm_gmtime_r]
  rw [is_recent, if_neg hne, ts_str_body, Option.bind_some, get_time_now_iso c.clock.printable]
  simp only [htime]

/-- The lines of calls are read one by one. -/
theorem getlineAll_lines (cs : List Call) : getlineAll '\n' (cs.map line).flatten = cs.map body := by
  induction cs with
  | nil => rfl
  | cons c cs ih =>
    obtain ⟨hline, hnewline, -⟩ := c.line_eq
    rw [List.map_cons, List.flatten_cons, hline, List.append_assoc, List.singleton_append,
      getlineAll_cut '\n' _ _ hnewline, ih, List.map_cons]

/-- Its strings have no control characters but line ends and tabs. -/
def Legible (c : Call) : Prop := ∀ s ∈ [c.module, c.msg, c.trace_id], ∀ ch ∈ s, Allowed ch ∨ Layout ch

instance (c : Call) : Decidable c.Legible :=
  have (s : Str) : Decidable (∀ ch ∈ s, Allowed ch ∨ Layout ch) := List.decidableBAll _ _
  List.decidableBAll _ _

theorem body_eq (c : Call) : c.body = "\x7b\"ts\":\"".toList ++ now_iso c.clock.time ++ "\"".toList ++
    ",\"level\":\"".toList ++ level_str c.level ++ "\"".toList ++
    ",\"module\":\"".toList ++ json_escape c.module ++ "\"".toList ++
    ",\"msg\":\"".toList ++ json_escape c.msg ++ "\"".toList ++
    (if c.trace_id ≠ [] then ",\"trace_id\":\"".toList ++ json_escape c.trace_id ++ "\"".toList else []) ++ ['}'] := by
  have hend : "\x7d\n".toList = ['}'] ++ ['\n'] := rfl
  refine List.append_cancel_right (c.line_eq.1.symm.trans ?_)
  rw [List.append_assoc _ ['}'], ← hend]
  rfl

theorem allowed_now_iso (t : Time) : ∀ ch ∈ now_iso t, Allowed ch := by
  intro ch hch
  by_contra hnot
  refine not_mem_now_iso t ?_ ?_ hch
  · exact Bool.eq_false_iff.2 fun hdigit => hnot (allowed_of_isDigit hdigit)
  · intro hmem
    exact hnot ((show ∀ x ∈ ['-', 'T', ':', '.', 'Z'], Allowed x from List.all_iff_forall_prop.1 (by decide)) ch hmem)

/-- The strings of a line, and what is around them. -/
theorem exists_parts (c : Call) : ∃ a b d e : Str, (∀ ch ∈ a ++ (b ++ (d ++ e)), Allowed ch) ∧
    c.body = a ++ (json_escape c.module ++ (b ++ (json_escape c.msg ++ (d ++ (json_escape c.trace_id ++ e))))) := by
  have hts : ∀ x ∈ "\x7b\"ts\":\"".toList, Allowed x := List.all_iff_forall_prop.1 (by decide)
  have hquote : ∀ x ∈ "\"".toList, Allowed x := List.all_iff_forall_prop.1 (by decide)
  have hlevelKey : ∀ x ∈ ",\"level\":\"".toList, Allowed x := List.all_iff_forall_prop.1 (by decide)
  have hlevel : ∀ x ∈ level_str c.level, Allowed x := List.all_iff_forall_prop.1 (by cases c.level <;> decide)
  have hmodule : ∀ x ∈ ",\"module\":\"".toList, Allowed x := List.all_iff_forall_prop.1 (by decide)
  have hmsg : ∀ x ∈ ",\"msg\":\"".toList, Allowed x := List.all_iff_forall_prop.1 (by decide)
  have htraceKey : ∀ x ∈ ",\"trace_id\":\"".toList, Allowed x := List.all_iff_forall_prop.1 (by decide)
  have hend : ∀ x ∈ ['}'], Allowed x := List.all_iff_forall_prop.1 (by decide)
  have hnow := allowed_now_iso c.clock.time
  have hnil : json_escape [] = [] := rfl
  rw [body_eq]
  -- the fixed parts do not matter from here on
  generalize "\x7b\"ts\":\"".toList = ts at hts ⊢
  generalize "\"".toList = quote at hquote ⊢
  generalize ",\"level\":\"".toList = levelKey at hlevelKey ⊢
  generalize ",\"module\":\"".toList = moduleKey at hmodule ⊢
  generalize ",\"msg\":\"".toList = msgKey at hmsg ⊢
  generalize ",\"trace_id\":\"".toList = traceKey at htraceKey ⊢
  generalize now_iso c.clock.time = now at hnow ⊢
  generalize level_str c.level = level at hlevel ⊢
  let front := ts ++ (now ++ (quote ++ (levelKey ++ (level ++ (quote ++ moduleKey)))))
  by_cases htrace : c.trace_id = []
  · refine ⟨front, quote ++ msgKey, quote ++ ['}'], [], ?_, ?_⟩
    · simp only [front, List.forall_mem_append, List.append_nil]
      exact ⟨⟨hts, hnow, hquote, hlevelKey, hlevel, hquote, hmodule⟩, ⟨hquote, hmsg⟩, hquote, hend⟩
    · rw [if_neg (not_not.2 htrace), htrace, hnil]
      simp only [front, List.append_assoc, List.append_nil]
  · refine ⟨front, quote ++ msgKey, quote ++ traceKey, quote ++ ['}'], ?_, ?_⟩
    · simp only [front, List.forall_mem_append]
      exact ⟨⟨hts, hnow, hquote, hlevelKey, hlevel, hquote, hmodule⟩, ⟨hquote, hmsg⟩, ⟨hquote, htraceKey⟩, hquote, hend⟩
    · rw [if_pos htrace]
      simp only [front, List.append_assoc]

/-- What a line has besides its strings. -/
theorem mem_body {c : Call} {ch : Char} (h : ch ∈ c.body) :
    Allowed ch ∨ ∃ s ∈ [c.module, c.msg, c.trace_id], ch ∈ json_escape s := by
  obtain ⟨a, b, d, e, hfixed, hbody⟩ := c.exists_parts
  rw [hbody] at h
  simp only [List.mem_append] at h
  rcases h with h | h | h | h | h | h | h
  · exact .inl (hfixed ch (by simp [h]))
  · exact .inr ⟨_, by simp, h⟩
  · exact .inl (hfixed ch (by simp [h]))
  · exact .inr ⟨_, by simp, h⟩
  · exact .inl (hfixed ch (by simp [h]))
  · exact .inr ⟨_, by simp, h⟩
  · exact .inl (hfixed ch (by simp [h]))

theorem json_escape_subset_body {c : Call} {s : Str} (hs : s ∈ [c.module, c.msg, c.trace_id]) {ch : Char}
    (h : ch ∈ json_escape s) : ch ∈ c.body := by
  obtain ⟨a, b, d, e, -, hbody⟩ := c.exists_parts
  rw [hbody]
  simp only [List.mem_cons, List.not_mem_nil, or_false] at hs
  rcases hs with rfl | rfl | rfl <;> simp [h]

theorem layout_not_mem_body (c : Call) : ∀ ch ∈ c.body, ¬Layout ch := by
  intro ch hch
  rcases mem_body hch with hallowed | ⟨s, -, hs⟩
  · rintro (rfl | rfl | rfl)
    · exact absurd hallowed (by decide)
    · exact absurd hallowed (by decide)
    · exact absurd hallowed (by decide)
  · exact layout_not_mem_json_escape s ch hs

theorem allowed_body_iff (c : Call) : (∀ ch ∈ c.body, Allowed ch) ↔ c.Legible := by
  constructor
  · intro h s hs
    exact (allowed_json_escape_iff s).1 fun ch hch => h ch (json_escape_subset_body hs hch)
  · intro h ch hch
    rcases mem_body hch with hallowed | ⟨s, hs, hch⟩
    · exact hallowed
    · exact (allowed_json_escape_iff s).2 (h s hs) ch hch

theorem text_array_bodies (cs : List Call) :
    Text (fun _ => True) ('[' :: (List.intercalate [','] (cs.map body) ++ [']']))
      (.arr (cs.map fun c => .obj c.record.fields)) := by
  apply text_array
  rw [List.forall₂_map_left_iff, List.forall₂_map_right_iff, List.forall₂_same]
  exact fun c _ => c.line_eq.2.2

/-- An array of lines has their characters, brackets and commas. -/
theorem forall_mem_array (p : Char → Prop) (hp : p '[' ∧ p ',' ∧ p ']') (cs : List Call) :
    (∀ ch ∈ '[' :: (List.intercalate [','] (cs.map body) ++ [']']), p ch) ↔ ∀ c ∈ cs, ∀ ch ∈ c.body, p ch := by
  have hjoined : (∀ ch ∈ List.intercalate [','] (cs.map body), p ch) ↔ ∀ c ∈ cs, ∀ ch ∈ c.body, p ch := by
    induction cs with
    | nil => simp
    | cons c cs ih =>
      cases cs with
      | nil => simp [List.intercalate_singleton]
      | cons c' cs =>
        rw [List.map_cons, List.intercalate_cons_of_ne_nil (by simp), List.forall_mem_append, List.forall_mem_append, ih,
          List.forall_mem_singleton, and_iff_left hp.2.1, List.forall_mem_cons (a := c)]
  rw [List.forall_mem_cons, List.forall_mem_append, List.forall_mem_singleton, hjoined, and_iff_right hp.1,
    and_iff_left hp.2.2]

/-- The array is JSON exactly if the calls are legible. -/
theorem text_allowed_bodies_iff (cs : List Call) :
    Text Allowed ('[' :: (List.intercalate [','] (cs.map body) ++ [']'])) (.arr (cs.map fun c => .obj c.record.fields)) ↔
      ∀ c ∈ cs, c.Legible := by
  have hlayout := (forall_mem_array (fun ch => ¬Layout ch) (by decide) cs).2 fun c _ => c.layout_not_mem_body
  rw [text_allowed_iff (text_array_bodies cs) hlayout, forall_mem_array Allowed (by decide) cs]
  exact forall_congr' fun c => imp_congr_right fun _ => c.allowed_body_iff

end Call

/-! ## Every run -/

def CallStep (s : LogManager) (c : Call) (s' : LogManager) : Prop := RecordStep s c.record s'

/-- The calls with a line in the files: that of one that rotates them is there twice. -/
def written_calls (tr : List (LogManager × Call)) : List Call :=
  tr.flatMap fun p =>
    (if p.2.level.val < p.1.min_level.val then [] else [p.2]) ++ if Full p.1 p.2.record then [p.2] else []

/-- The lines of each file, from the oldest one to the current one. -/
def file_lines (s : LogManager) : List (List Str) :=
  (List.range s.max_files.toInt.toNat).reverse.map (fun i => lines s.files (s.rotated_name i)) ++ [lines s.files s.base]

theorem flatten_file_lines (s : LogManager) : s.file_lines.flatten = s.contents := by
  have hnumbered (n : Nat) : ((List.range n).reverse.map fun i => lines s.files (s.rotated_name i)).flatten =
      numbered s.rotated_name n s.files := by
    induction n with
    | zero => rfl
    | succ n ih =>
      rw [List.range_succ, List.reverse_append, List.reverse_singleton, List.singleton_append, List.map_cons,
        List.flatten_cons, ih, numbered]
  rw [file_lines, List.flatten_append, hnumbered, List.flatten_singleton, contents]

theorem copies_record (s : LogManager) (c : Call) :
    copies (traced s c.record) c.record.message = (written_calls [(s, c)]).map Call.line := by
  have hline : (traced s c.record).line c.record.message = c.line := rfl
  have hlevel : c.record.message.level.val < (traced s c.record).min_level.val ↔ c.level.val < s.min_level.val := Iff.rfl
  have hfull : Rotates (traced s c.record) c.record.message ↔ Full s c.record := Iff.rfl
  rw [copies, accepted, hline, written_calls, List.flatMap_singleton, List.map_append]
  simp only [hlevel, hfull]
  split_ifs <;> rfl

/-- The files hold lines of calls, none but the oldest left out. -/
theorem contents_run {old : List Call} {tr : List (LogManager × Call)} {s₀ s : LogManager} (h₀ : Ready s₀)
    (hold : s₀.contents = old.map Call.line) (h : Run CallStep s₀ tr s) :
    Ready s ∧ ∃ cs, cs <:+ old ++ written_calls tr ∧ s.contents = cs.map Call.line := by
  induction h with
  | nil => exact ⟨h₀, old, by simp [written_calls], hold⟩
  | @snoc tr s c s' _ hstep ih =>
    obtain ⟨hs, cs, ⟨before, hcs⟩, hcontents⟩ := ih
    have heq : s' = (traced s c.record).write c.record.message.ts c.record.message.level c.record.message.module
        c.record.message.msg := hstep
    have hwrite := contents_write (ready_traced hs c.record) c.record.message
    have htraced : (traced s c.record).contents = s.contents := rfl
    rw [← heq, htraced, hcontents, copies_record, ← List.map_append] at hwrite
    obtain ⟨gone, cs', hsplit, -, hcs'⟩ := List.map_eq_append_iff.1 hwrite.symm
    refine ⟨heq ▸ ready_write (ready_traced hs c.record) c.record.message, cs', ⟨before ++ gone, ?_⟩, hcs'.symm⟩
    rw [List.append_assoc, ← hsplit, ← List.append_assoc, hcs, written_calls, written_calls, written_calls,
      List.flatMap_append, List.append_assoc]

/-- Files whose lines are those of calls in all hold lines of calls each. -/
theorem exists_files {ls : List (List Str)} {cs : List Call} (h : ls.flatten = cs.map Call.line) :
    ∃ files : List (List Call), files.flatten = cs ∧ files.map (·.map Call.line) = ls := by
  induction ls generalizing cs with
  | nil =>
    obtain rfl : cs = [] := List.map_eq_nil_iff.1 h.symm
    exact ⟨[], rfl, rfl⟩
  | cons l ls ih =>
    obtain ⟨file, rest, rfl, hfile, hrest⟩ := List.map_eq_append_iff.1 h.symm
    obtain ⟨files, rfl, hfiles⟩ := ih hrest.symm
    exact ⟨file :: files, rfl, by rw [List.map_cons, hfile, hfiles]⟩

/-- The files that are not there have no lines. -/
theorem flatMap_export_files {α : Type} (s : LogManager) {f : List Str → List α} (hf : f [] = []) :
    (s.export_files.flatMap fun fp => f (lines s.files fp)) = s.file_lines.reverse.flatMap f := by
  have hthere (names : List Str) : ((names.filter fun fp => (s.files fp).isSome).flatMap fun fp => f (lines s.files fp)) =
      names.flatMap fun fp => f (lines s.files fp) := by
    induction names with
    | nil => rfl
    | cons name names ih =>
      rw [List.flatMap_cons]
      cases hname : s.files name with
      | none =>
        rw [List.filter_cons_of_neg (by simp [hname]), ih, lines_of_none hname, hf, List.nil_append]
      | some pieces => rw [List.filter_cons_of_pos (by simp [hname]), List.flatMap_cons, ih]
  have hreverse : s.file_lines.reverse =
      lines s.files s.base :: (List.range s.max_files.toInt.toNat).map fun i => lines s.files (s.rotated_name i) := by
    simp [file_lines]
  rw [export_files, List.flatMap_cons, hthere, hreverse, List.flatMap_cons, List.flatMap_map, List.flatMap_map]

/-- A test of lines that agrees with one of calls selects the lines of these. -/
theorem filter_lines {p : Str → Bool} {q : Call → Bool} (hpq : ∀ c, p c.body = q c) (cs : List Call) :
    (getlineAll '\n' (cs.map Call.line).flatten).filter p = (cs.filter q).map Call.body := by
  have hcomp : p ∘ Call.body = q := funext hpq
  rw [Call.getlineAll_lines, List.filter_map, hcomp]

theorem flatMap_file_lines {s : LogManager} {files : List (List Call)}
    (h : files.map (·.map Call.line) = s.file_lines) {p : Str → Bool} {q : Call → Bool} (hpq : ∀ c, p c.body = q c) :
    (s.export_files.flatMap fun fp => (getlineAll '\n' (lines s.files fp).flatten).filter p) =
      (files.reverse.flatten.filter q).map Call.body := by
  have hlines := flatMap_export_files s (f := fun ls => (getlineAll '\n' ls.flatten).filter p) rfl
  rw [hlines, ← h, ← List.map_reverse, List.flatMap_map, List.filter_flatten, List.map_flatten, List.map_map,
    ← List.flatMap_def]
  exact List.flatMap_congr fun cs _ => filter_lines hpq cs

theorem recent_body (now : Clock) {hours : Int32} (hpos : 0 ≤ hours.toInt) (hmax : hours.toInt ≤ 2562047) (c : Call) :
    is_recent (cutoff_ts now hours) c.body = c.recent now hours := by
  rw [Call.is_recent_body, Call.recent, decide_eq_decide]
  exact cutoff_ts_le_iff now c.clock hpos hmax

theorem export_lines_eq {s : LogManager} {files : List (List Call)} (h : files.map (·.map Call.line) = s.file_lines)
    (now : Clock) {hours : Int32} (hpos : 0 ≤ hours.toInt) (hmax : hours.toInt ≤ 2562047) :
    export_lines now hours s = (files.reverse.flatten.filter (Call.recent now hours)).map Call.body :=
  flatMap_file_lines h (recent_body now hpos hmax)

/-- A call at noon of the 27th of June. -/
def noon : Call :=
  { clock := ⟨1782561600 * 10 ^ 9, by decide⟩, module := "main".toList, msg := "\"ts\":\"".toList }

end DevSys.LogManager
