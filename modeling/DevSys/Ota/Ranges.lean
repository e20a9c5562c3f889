import DevSys.Ota.FirmwareFiles
/-!
# Ranges of a firmware file

The answer to a range is as long as the range, whatever the file holds: behind
the end of the file it is filled with null bytes.
-/
open Cxx

namespace DevSys.FirmwareFiles

/-! ## Ranges -/

/-- `bytes=first-last` in digits, or `bytes=first-`. -/
structure ByteRange where
  first : Str
  last : Str
  first_ne : first ≠ []
  first_digits : ∀ c ∈ first, c.isDigit
  last_digits : ∀ c ∈ last, c.isDigit

namespace ByteRange
variable (r : ByteRange)

def header : Str := "bytes=".toList ++ r.first ++ '-' :: r.last

def off : Nat := ofDigits r.first

/-- The last byte of the range in a file of `n` bytes. -/
def stop (n : Nat) : Nat := if r.last = [] then n - 1 else min (ofDigits r.last) (n - 1)

/-- The range starts in the file and does not end before that. -/
structure InFile (n : Nat) : Prop where
  off_lt : r.off < n
  ordered : r.last ≠ [] → r.off ≤ ofDigits r.last

/-- The range has no end or ends in the file. -/
def EndsIn (n : Nat) : Prop := r.last = [] ∨ ofDigits r.last < n

/-- Ranges that start here, follow each other and reach the end of the file. -/
def Covers (n : Nat) : Nat → List ByteRange → Prop
  | start, [] => start = n
  | start, r :: rs => r.off = start ∧ Covers n (r.stop n + 1) rs

variable {r}

theorem InFile.off_le_stop {n : Nat} (h : r.InFile n) : r.off ≤ r.stop n := by
  have hlt := h.off_lt
  unfold stop
  split
  · omega
  · rename_i hlast
    have hle := h.ordered hlast
    omega

theorem InFile.stop_lt {n : Nat} (h : r.InFile n) : r.stop n < n := by
  have hlt := h.off_lt
  unfold stop
  split <;> omega

end ByteRange

/-- The bytes `a` to `b`. -/
def slice (data : Str) (a b : Nat) : Str := (data.drop a).take (b - a + 1)

/-- Ranges that cover the file cut it into pieces. -/
theorem flatten_slices {data : Str} {rs : List ByteRange} (hrs : ∀ r ∈ rs, r.InFile data.length) {start : Nat}
    (hcover : ByteRange.Covers data.length start rs) :
    (rs.map fun r => slice data r.off (r.stop data.length)).flatten = data.drop start := by
  induction rs generalizing start with
  | nil =>
    rw [show start = data.length from hcover, List.drop_length]
    rfl
  | cons r rs ih =>
    obtain ⟨rfl, hrest⟩ := hcover
    rw [List.forall_mem_cons] at hrs
    have hle := hrs.1.off_le_stop
    have hsplit : data.drop (r.stop data.length + 1) = (data.drop r.off).drop (r.stop data.length - r.off + 1) := by
      rw [List.drop_drop]
      congr 1
      omega
    rw [List.map_cons, List.flatten_cons, ih hrs.2 hrest, hsplit, slice, List.take_append_drop]

/-! ## Answers -/

/-- A request for a range of this file. -/
structure RangeRequest (product_id filename : Str) extends ByteRange where
  req : HttpRequest
  path_eq : req.path = "/api/v1/ota/firmwares/download/".toList ++ product_id ++ '/' :: filename
  range_eq : req.headers.lookup "Range".toList = some toByteRange.header

/-- A file that can be read and whose size is an `int64_t`. -/
structure Stored (files : FileSystem) (product_id filename data : Str) : Prop where
  product : '/' ∉ product_id
  file : files.file ("./firmware/".toList ++ product_id ++ '/' :: filename) = some { data := some data, opens := true }
  size : data.length < 2 ^ 63

/-- The body of a 206. -/
def partial_content (alloc : Nat → Option Thrown) (files : FileSystem) (req : HttpRequest) : Option Str :=
  match get_firmware_download alloc files req with
  | .ok resp => if resp.status_code = 206 then some resp.body else none
  | .error _ => none

/-- Each range is answered with its bytes, and ranges that cover the file give the file. -/
structure Resumable (alloc : Nat → Option Thrown) (files : FileSystem) {product_id filename : Str} (data : Str)
    (rs : List (RangeRequest product_id filename)) : Prop where
  bytes : ∀ r ∈ rs, partial_content alloc files r.req = some (slice data r.off (r.stop data.length))
  whole : ByteRange.Covers data.length 0 (rs.map (·.toByteRange)) →
    (rs.map fun r => (partial_content alloc files r.req).getD []).flatten = data

section
variable {alloc : Nat → Option Thrown} {files : FileSystem} {product_id filename data : Str}
  (hfile : Stored files product_id filename data)
include hfile

theorem partial_content_eq (r : RangeRequest product_id filename) :
    partial_content alloc files r.req = match byte_range (some r.header) data.length with
      | .error _ => none
      | .ok (off, stop, part) =>
        if alloc (range_length off stop) = none ∧ part = true then
          some (read_at { data := some data, opens := true } off (range_length off stop))
        else none := by
  have hsend : get_firmware_download alloc files r.req =
      read_range alloc { data := some data, opens := true } (some r.header) := by
    rw [get_firmware_download_of_path alloc files hfile.product filename r.path_eq, send_firmware, hfile.file, r.range_eq]
    rfl
  have hsize : File.size { data := some data, opens := true } = data.length := rfl
  rw [partial_content, hsend, read_range, hsize]
  cases byte_range (some r.header) data.length with
  | error e => rfl
  | ok range =>
    obtain ⟨off, stop, part⟩ := range
    simp only [Except.mapError, Bind.bind, Except.bind]
    cases alloc (range_length off stop) with
    | some e => simp
    | none => cases part <;> simp

omit hfile in
theorem byte_range_header (r : ByteRange) {n : Nat} (hoff : ofDigits r.first < 2 ^ 63) :
    byte_range (some r.header) n =
      if r.last = [] then .ok (r.off, n - 1, true)
      else if ofDigits r.last < 2 ^ 63 then .ok (r.off, ofDigits r.last, true)
      else .error .out_of_range := by
  have hdash : '-' ∉ r.first := fun hmem => absurd (r.first_digits _ hmem) (by decide)
  have hfirst : stoll r.first = .ok (ofDigits r.first : Int) :=
    (stoll_digits r.first_ne r.first_digits).trans (if_pos hoff)
  have hrange := byte_range_of_range hdash r.last n
  rw [hfirst] at hrange
  refine hrange.trans ?_
  show range_end r.last n >>= (fun stop => .ok ((ofDigits r.first : Int), stop, true)) = _
  rw [range_end]
  by_cases hlast : r.last = []
  · rw [if_pos hlast, if_pos hlast]
    rfl
  · rw [if_neg hlast, if_neg hlast]
    have hstop := stoll_digits hlast r.last_digits
    by_cases hfits : ofDigits r.last < 2 ^ 63
    · rw [hstop, if_pos hfits, if_pos hfits]
      rfl
    · rw [hstop, if_neg hfits, if_neg hfits]
      rfl

omit hfile in
/-- The length of a range that ends where it starts or later. -/
theorem range_length_of_le {off stop : Nat} (hle : off ≤ stop) (hstop : stop < 2 ^ 63) :
    range_length off stop = stop - off + 1 := by
  unfold range_length
  omega

omit hfile in
theorem length_read_at (f : File) (off : Int) (len : Nat) : (read_at f off len).length = len := by
  rw [read_at, List.length_append, List.length_replicate, List.length_take]
  omega

omit hfile in
theorem read_at_eq_slice {off stop : Nat} (hle : off ≤ stop) (hstop : stop < data.length) :
    read_at { data := some data, opens := true } off (stop - off + 1) = slice data off stop := by
  have hall : ((data.drop off).take (stop - off + 1)).length = stop - off + 1 := by
    rw [List.length_take, List.length_drop]
    omega
  show (data.drop off).take (stop - off + 1) ++ List.replicate _ _ = _
  rw [show ((some data).getD []).drop (off : Int).toNat = data.drop off from rfl, hall, Nat.sub_self]
  exact List.append_nil _

omit hfile in
theorem length_slice {off stop : Nat} (hle : off ≤ stop) (hstop : stop < data.length) :
    (slice data off stop).length = stop - off + 1 := by
  rw [slice, List.length_take, List.length_drop]
  omega

/-- A range that ends in the file is read from it. -/
theorem partial_content_of_stop (hmem : ∀ len ≤ data.length, alloc len = none) {r : RangeRequest product_id filename}
    (hr : r.InFile data.length)
    (hrange : byte_range (some r.header) data.length = .ok (r.off, r.stop data.length, true)) :
    partial_content alloc files r.req = some (slice data r.off (r.stop data.length)) := by
  have hle := hr.off_le_stop
  have hlt := hr.stop_lt
  have hsize := hfile.size
  rw [partial_content_eq hfile, hrange]
  dsimp only
  rw [range_length_of_le hle (by omega), if_pos ⟨hmem _ (by omega), rfl⟩, read_at_eq_slice hle hlt]

/-- A range is answered right exactly when it does not end behind the file. -/
theorem partial_content_iff (hmem : ∀ len ≤ data.length, alloc len = none) {r : RangeRequest product_id filename}
    (hr : r.InFile data.length) :
    partial_content alloc files r.req = some (slice data r.off (r.stop data.length)) ↔ r.EndsIn data.length := by
  have hsize := hfile.size
  have hoff := hr.off_lt
  have hrange := byte_range_header r.toByteRange (n := data.length) (Nat.lt_trans hoff hsize)
  by_cases hlast : r.last = []
  · refine iff_of_true (partial_content_of_stop hfile hmem hr ?_) (.inl hlast)
    rw [hrange, if_pos hlast, ByteRange.stop, if_pos hlast]
    congr
    omega
  rw [if_neg hlast] at hrange
  have hstop : r.stop data.length = min (ofDigits r.last) (data.length - 1) := if_neg hlast
  by_cases hin : ofDigits r.last < data.length
  · refine iff_of_true (partial_content_of_stop hfile hmem hr ?_) (.inr hin)
    rw [hrange, if_pos (Nat.lt_trans hin hsize), hstop, Nat.min_eq_left (by omega)]
  · refine iff_of_false ?_ fun h => h.elim hlast hin
    rw [partial_content_eq hfile, hrange]
    by_cases hfits : ofDigits r.last < 2 ^ 63
    · -- the answer is too long
      have hle := hr.ordered hlast
      have hstop_lt := hr.stop_lt
      rw [if_pos hfits]
      dsimp only
      split
      · intro heq
        have hlen := congrArg List.length (Option.some.inj heq)
        rw [length_read_at, length_slice hr.off_le_stop hr.stop_lt, range_length_of_le hle hfits, hstop] at hlen
        omega
      · exact (Option.some_ne_none _).symm
    · rw [if_neg hfits]
      exact (Option.some_ne_none _).symm

/-- Ranges of a file are answered right exactly when none ends behind the file. -/
theorem resumable_iff (hmem : ∀ len ≤ data.length, alloc len = none) {rs : List (RangeRequest product_id filename)}
    (hrs : ∀ r ∈ rs, r.InFile data.length) :
    Resumable alloc files data rs ↔ ∀ r ∈ rs, r.EndsIn data.length := by
  constructor
  · exact fun h r hr => (partial_content_iff hfile hmem (hrs r hr)).1 (h.bytes r hr)
  · intro h
    have hbytes : ∀ r ∈ rs, partial_content alloc files r.req = some (slice data r.off (r.stop data.length)) :=
      fun r hr => (partial_content_iff hfile hmem (hrs r hr)).2 (h r hr)
    refine ⟨hbytes, fun hcover => ?_⟩
    have hbodies : (rs.map fun r => (partial_content alloc files r.req).getD []) =
        (rs.map (·.toByteRange)).map fun r => slice data r.off (r.stop data.length) := by
      rw [List.map_map]
      refine List.map_congr_left fun r hr => ?_
      rw [hbytes r hr]
      rfl
    rw [hbodies, flatten_slices (List.forall_mem_map.2 hrs) hcover, List.drop_zero]

end

/-! ## A file of three bytes -/

/-- `v1.bin` of the product `coffee`. -/
def three_bytes : FileSystem where
  file path := if path = "./firmware/coffee/v1.bin".toList then some { data := some "abc".toList } else none

theorem stored_three_bytes : Stored three_bytes "coffee".toList "v1.bin".toList "abc".toList :=
  ⟨by decide, by decide, by decide⟩

/-- The request for a range of it. -/
def ask (r : ByteRange) : RangeRequest "coffee".toList "v1.bin".toList where
  toByteRange := r
  req :=
    { path := "/api/v1/ota/firmwares/download/coffee/v1.bin".toList
      headers := UMap.set "Range".toList r.header ∅ }
  path_eq := by simp only; decide
  range_eq := by simp

/-- `bytes=0-1`. -/
def first_two : ByteRange := ⟨"0".toList, "1".toList, by decide, List.all_eq_true.1 rfl, List.all_eq_true.1 rfl⟩

/-- `bytes=2-`. -/
def from_two : ByteRange := ⟨"2".toList, [], by decide, List.all_eq_true.1 rfl, List.all_eq_true.1 rfl⟩

/-- `bytes=1-5`. -/
def one_to_five : ByteRange := ⟨"1".toList, "5".toList, by decide, List.all_eq_true.1 rfl, List.all_eq_true.1 rfl⟩

theorem resumable_two_parts : Resumable (fun _ => none) three_bytes "abc".toList [ask first_two, ask from_two] := by
  have hfirst : first_two.InFile 3 ∧ first_two.EndsIn 3 := ⟨⟨by decide, by decide⟩, .inr (by decide)⟩
  have hlast : from_two.InFile 3 ∧ from_two.EndsIn 3 := ⟨⟨by decide, by decide⟩, .inl rfl⟩
  refine (resumable_iff stored_three_bytes (fun _ _ => rfl) ?_).2 ?_
  · rw [List.forall_mem_cons, List.forall_mem_singleton]
    exact ⟨hfirst.1, hlast.1⟩
  · rw [List.forall_mem_cons, List.forall_mem_singleton]
    exact ⟨hfirst.2, hlast.2⟩

/-- The last request of a download in whole blocks ends behind the file. -/
theorem resumable_fails : ¬∀ rs : List (RangeRequest "coffee".toList "v1.bin".toList),
    (∀ r ∈ rs, r.InFile 3) → Resumable (fun _ => none) three_bytes "abc".toList rs := by
  intro h
  have hfile : one_to_five.InFile 3 := ⟨by decide, by decide⟩
  have hone := (h [ask one_to_five] (List.forall_mem_singleton.2 hfile)).bytes _ List.mem_cons_self
  have hbody : partial_content (fun _ => none) three_bytes (ask one_to_five).req =
      some ("bc".toList ++ List.replicate 3 (Char.ofNat 0)) := by
    refine (partial_content_eq stored_three_bytes (ask one_to_five)).trans ?_
    decide
  rw [hbody] at hone
  exact absurd hone (by decide)

end DevSys.FirmwareFiles
