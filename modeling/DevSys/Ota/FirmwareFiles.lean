import DevSys.Lib.Returns
import DevSys.Server.ApiServer
/-!
# Firmware files

The handlers that read the firmware directory: the download of a file, in parts
if the client wants, and the search for the latest version.
-/
open Cxx

namespace DevSys

/-- What a path leads to: the bytes of a regular file, or a directory. -/
structure File where
  data : Option Str := none
  opens : Bool := true
  deriving DecidableEq, Repr

/-- `file_size`, which fails on a directory. -/
def File.size (f : File) : Int := match f.data with
  | none => -1
  | some data => data.length

/-- An entry of a directory, with the time and size that `stat` reports. -/
structure Entry where
  name : Str := []
  is_regular : Bool := true
  stat : Option (Int × Int) := none
  deriving DecidableEq, Repr

structure FileSystem where
  file : Str → Option File := fun _ => none
  entries : Str → List Entry := fun _ => []

namespace FirmwareFiles

/-! ## Download -/

/-- The end of a range, by default that of the file. -/
def range_end (es : Str) (fsize : Int) : Except Exn Int := if es = [] then .ok (fsize - 1) else stoll es

/-- `off`, `end` and `partial` of a download. -/
def byte_range (range : Option Str) (fsize : Int) : Except Exn (Int × Int × Bool) :=
  let all := .ok (0, fsize - 1, false)
  match range with
  | none => all
  | some value =>
    if find "bytes=".toList value ≠ some 0 then all
    else
      let v := value.drop 6
      match find ['-'] v with
      | none => all
      | some d => do
        let off ← stoll (v.take d)
        let stop ← range_end (v.drop (d + 1)) fsize
        .ok (off, stop, true)

/-- `end - off + 1` as the size of a string. -/
def range_length (off stop : Int) : Nat := ((stop - off + 1) % 2 ^ 64).toNat

/-- `in.seekg(off)` and a read into `len` null bytes. -/
def read_at (f : File) (off : Int) (len : Nat) : Str :=
  let got := ((f.data.getD []).drop off.toNat).take len
  got ++ List.replicate (len - got.length) (Char.ofNat 0)

def read_range (alloc : Nat → Option Thrown) (f : File) (range : Option Str) : Except Thrown HttpResponse := do
  let (off, stop, part) ← (byte_range range f.size).mapError .text
  let len := range_length off stop
  match alloc len with
  | some e => .error e
  | none =>
    .ok
      { status_code := if part then 206 else 200
        content_type := "application/octet-stream".toList
        body := read_at f off len }

def send_firmware (alloc : Nat → Option Thrown) (files : FileSystem) (product_id filename : Str)
    (range : Option Str) : Except Thrown HttpResponse :=
  match files.file ("./firmware/".toList ++ product_id ++ '/' :: filename) with
  | none => .ok (error_response 404 1002 ("Firmware not found: ".toList ++ product_id ++ '/' :: filename))
  | some f =>
    if ¬f.opens then .ok (error_response 500 2000 "Cannot read firmware".toList) else read_range alloc f range

/-- `GET /api/v1/ota/firmwares/download/{product_id}/{filename}`. -/
def get_firmware_download (alloc : Nat → Option Thrown) (files : FileSystem) (req : HttpRequest) :
    Except Thrown HttpResponse := do
  let rest ← (substr req.path "/api/v1/ota/firmwares/download/".toList.length).mapError .text
  match find ['/'] rest with
  | none => .ok (error_response 404 1002 "Invalid path".toList)
  | some slash =>
    send_firmware alloc files (rest.take slash) (rest.drop (slash + 1)) (req.headers.lookup "Range".toList)

/-! ## Latest version -/

/-- A run of digits and the dot after it. -/
def digits_dot (s : Str) : Option (Str × Str) :=
  match s.takeWhile Char.isDigit, s.dropWhile Char.isDigit with
  | c :: ds, '.' :: rest => some (c :: ds, rest)
  | _, _ => none

/-- `(\d+)\.(\d+)\.(\d+)` at the start of a text. -/
def version_prefix (s : Str) : Option (Str × Str × Str) := do
  let (major, s) ← digits_dot s
  let (minor, s) ← digits_dot s
  match s.takeWhile Char.isDigit with
  | [] => none
  | c :: ds => some (major, minor, c :: ds)

/-- The groups of the first match. -/
def version_search (fname : Str) : Option (Str × Str × Str) := fname.tails.findSome? version_prefix

def parse_version (fname : Str) : Except Exn (Int32 × Int32 × Int32) :=
  match version_search fname with
  | none => .ok (0, 0, 0)
  | some (major, minor, patch) => do
    let maj ← stoi major
    let min ← stoi minor
    let pat ← stoi patch
    .ok (maj, min, pat)

/-- The best file so far. -/
structure Best where
  file : Str := []
  major : Int32 := -1
  minor : Int32 := 0
  patch : Int32 := 0
  mtime : Int := 0
  size : Int := 0
  deriving DecidableEq, Repr

def is_newer (maj min pat : Int32) (mtime : Int) (best : Best) : Bool :=
  if maj > 0 ∨ min > 0 ∨ pat > 0 then
    -- by version, then by time
    if maj > best.major then true
    else if maj = best.major ∧ min > best.minor then true
    else if maj = best.major ∧ min = best.minor ∧ pat > best.patch then true
    else maj = best.major ∧ min = best.minor ∧ pat = best.patch ∧ mtime > best.mtime
  else if best.major < 1 then mtime > best.mtime
  else false

def consider (best : Best) (e : Entry) : Except Exn Best :=
  if ¬e.is_regular then .ok best
  else match e.stat with
    | none => .ok best
    | some (mtime, size) => do
      let (maj, min, pat) ← parse_version e.name
      if is_newer maj min pat mtime best then
        .ok { file := e.name, major := maj, minor := min, patch := pat, mtime := mtime, size := size }
      else .ok best

/-- The loop of `GET /api/v1/ota/firmwares/latest`. -/
def select_latest (entries : List Entry) : Except Exn Best := entries.foldlM consider {}

/-! ## What can throw -/

/-- Both ends of a byte range are numbers; the second one may be left out. -/
def RangeReadable (range : Option Str) : Prop :=
  ∀ a b, range = some ("bytes=".toList ++ a ++ '-' :: b) → '-' ∉ a → IsIntText 64 a ∧ (b = [] ∨ IsIntText 64 b)

theorem byte_range_of_no_range {range : Option Str} {fsize : Int}
    (h : ∀ a b, '-' ∉ a → range ≠ some ("bytes=".toList ++ a ++ '-' :: b)) :
    byte_range range fsize = .ok (0, fsize - 1, false) := by
  unfold byte_range
  cases range with
  | none => rfl
  | some value =>
    dsimp only
    by_cases hpre : find "bytes=".toList value = some 0
    · rw [if_neg (not_not.2 hpre)]
      obtain ⟨v, rfl⟩ := (find_eq_zero_iff _ _).1 hpre
      have hnone : find ['-'] v = none := by
        rw [find_single_eq_none_iff]
        intro hmem
        obtain ⟨a, b, rfl, ha⟩ := List.eq_append_cons_of_mem hmem
        exact h a b ha (by rw [List.append_assoc])
      have hdrop : ("bytes=".toList ++ v).drop 6 = v := List.drop_left' rfl
      rw [hdrop, hnone]
    · rw [if_pos hpre]

theorem byte_range_of_range {a : Str} (ha : '-' ∉ a) (b : Str) (fsize : Int) :
    byte_range (some ("bytes=".toList ++ a ++ '-' :: b)) fsize = (do
      let off ← stoll a
      let stop ← range_end b fsize
      .ok (off, stop, true)) := by
  have hpre : find "bytes=".toList ("bytes=".toList ++ a ++ '-' :: b) = some 0 := by
    rw [find_eq_zero_iff, List.append_assoc]
    exact List.prefix_append _ _
  have hdrop : ("bytes=".toList ++ a ++ '-' :: b).drop 6 = a ++ '-' :: b := by
    rw [List.append_assoc]
    exact List.drop_left' rfl
  simp only [byte_range, hpre, hdrop, find_single_append ha]
  have htake : (a ++ '-' :: b).take a.length = a := List.take_left
  have hrest : (a ++ '-' :: b).drop (a.length + 1) = b := by
    rw [List.drop_append]
    simp
  simp only [ne_eq, not_true_eq_false, if_false, htake, hrest]

theorem range_end_returns_iff (es : Str) (fsize : Int) : Returns (range_end es fsize) ↔ es = [] ∨ IsIntText 64 es := by
  rw [range_end, returns_ite_ok, stoll_returns_iff, or_iff_not_imp_left]

theorem rangeReadable_iff {a : Str} (ha : '-' ∉ a) (b : Str) :
    RangeReadable (some ("bytes=".toList ++ a ++ '-' :: b)) ↔ IsIntText 64 a ∧ (b = [] ∨ IsIntText 64 b) := by
  refine ⟨fun h => h a b rfl ha, ?_⟩
  intro h a' b' heq ha'
  rw [Option.some.injEq, List.append_assoc, List.append_assoc] at heq
  obtain ⟨rfl, rfl⟩ := cut_inj ha ha' (List.append_cancel_left heq)
  exact h

theorem byte_range_returns_iff (range : Option Str) (fsize : Int) :
    Returns (byte_range range fsize) ↔ RangeReadable range := by
  by_cases h : ∃ a b, '-' ∉ a ∧ range = some ("bytes=".toList ++ a ++ '-' :: b)
  · obtain ⟨a, b, ha, rfl⟩ := h
    rw [byte_range_of_range ha, rangeReadable_iff ha, ← range_end_returns_iff b fsize, ← stoll_returns_iff]
    refine returns_bind_of fun off => ?_
    rw [returns_bind_of fun stop => iff_true_intro (returns_ok _), and_true]
  · rw [byte_range_of_no_range fun a b ha hr => h ⟨a, b, ha, hr⟩]
    exact iff_of_true (returns_ok _) fun a b hr ha => absurd ⟨a, b, ha, hr⟩ h

/-- The range can be read, and a string of its length fits into memory. -/
structure Downloadable (alloc : Nat → Option Thrown) (f : File) (range : Option Str) : Prop where
  readable : RangeReadable range
  memory : ∀ off stop part, byte_range range f.size = .ok (off, stop, part) → alloc (range_length off stop) = none

theorem read_range_returns_iff (alloc : Nat → Option Thrown) (f : File) (range : Option Str) :
    Returns (read_range alloc f range) ↔ Downloadable alloc f range := by
  rw [read_range, returns_bind, returns_mapError, byte_range_returns_iff]
  constructor
  · rintro ⟨hreadable, h⟩
    refine ⟨hreadable, fun off stop part hr => ?_⟩
    have hret := h (off, stop, part) (by rw [hr]; rfl)
    dsimp only at hret
    cases halloc : alloc (range_length off stop) with
    | none => rfl
    | some e =>
      rw [halloc] at hret
      exact absurd hret (not_returns_error e)
  · rintro ⟨hreadable, hmem⟩
    refine ⟨hreadable, ?_⟩
    rintro ⟨off, stop, part⟩ hr
    have hrange : byte_range range f.size = .ok (off, stop, part) := by
      cases hb : byte_range range f.size with
      | error e => rw [hb] at hr; cases hr
      | ok w => rw [hb] at hr; cases hr; rfl
    dsimp only
    rw [hmem off stop part hrange]
    exact returns_ok _

theorem send_firmware_returns_iff (alloc : Nat → Option Thrown) (files : FileSystem) (product_id filename : Str)
    (range : Option Str) :
    Returns (send_firmware alloc files product_id filename range) ↔
      ∀ f, files.file ("./firmware/".toList ++ product_id ++ '/' :: filename) = some f → f.opens = true →
        Downloadable alloc f range := by
  unfold send_firmware
  cases files.file ("./firmware/".toList ++ product_id ++ '/' :: filename) with
  | none => simp
  | some f =>
    simp only [Option.some.injEq, forall_eq']
    rw [returns_ite_ok, not_not, read_range_returns_iff]

/-- The range that is asked of an existing file can be answered. -/
def DownloadReadable (alloc : Nat → Option Thrown) (files : FileSystem) (req : HttpRequest) : Prop :=
  ∀ product_id filename, '/' ∉ product_id →
    req.path = "/api/v1/ota/firmwares/download/".toList ++ product_id ++ '/' :: filename →
      ∀ f, files.file ("./firmware/".toList ++ product_id ++ '/' :: filename) = some f → f.opens = true →
        Downloadable alloc f (req.headers.lookup "Range".toList)

theorem get_firmware_download_of_path (alloc : Nat → Option Thrown) (files : FileSystem) {req : HttpRequest}
    {product_id : Str} (hproduct : '/' ∉ product_id) (filename : Str)
    (hpath : req.path = "/api/v1/ota/firmwares/download/".toList ++ product_id ++ '/' :: filename) :
    get_firmware_download alloc files req =
      send_firmware alloc files product_id filename (req.headers.lookup "Range".toList) := by
  have hsub : substr req.path "/api/v1/ota/firmwares/download/".toList.length = .ok (product_id ++ '/' :: filename) := by
    rw [hpath, List.append_assoc, substr_of_prefix (List.prefix_append _ _), List.drop_left]
  have hdrop : (product_id ++ '/' :: filename).drop (product_id.length + 1) = filename := by
    rw [List.drop_append]
    simp
  rw [get_firmware_download, hsub]
  show (match find ['/'] (product_id ++ '/' :: filename) with
    | none => Except.ok (error_response 404 1002 "Invalid path".toList)
    | some slash => send_firmware alloc files ((product_id ++ '/' :: filename).take slash)
        ((product_id ++ '/' :: filename).drop (slash + 1)) (req.headers.lookup "Range".toList)) = _
  rw [find_single_append hproduct]
  dsimp only
  rw [List.take_left, hdrop]

theorem get_firmware_download_returns_iff (alloc : Nat → Option Thrown) (files : FileSystem) {req : HttpRequest}
    (hpre : "/api/v1/ota/firmwares/download/".toList <+: req.path) :
    Returns (get_firmware_download alloc files req) ↔ DownloadReadable alloc files req := by
  obtain ⟨rest, hpath⟩ := hpre
  unfold DownloadReadable
  by_cases hslash : '/' ∈ rest
  · obtain ⟨product_id, filename, rfl, hp⟩ := List.eq_append_cons_of_mem hslash
    rw [← List.append_assoc] at hpath
    rw [get_firmware_download_of_path alloc files hp filename hpath.symm, send_firmware_returns_iff]
    constructor
    · intro h product_id' filename' hp' heq
      rw [← hpath, List.append_assoc, List.append_assoc] at heq
      obtain ⟨rfl, rfl⟩ := cut_inj hp hp' (List.append_cancel_left heq)
      exact h
    · intro h
      exact h product_id filename hp hpath.symm
  · have hsub : substr req.path "/api/v1/ota/firmwares/download/".toList.length = .ok rest := by
      rw [← hpath, substr_of_prefix (List.prefix_append _ _), List.drop_left]
    have hinvalid : get_firmware_download alloc files req = .ok (error_response 404 1002 "Invalid path".toList) := by
      rw [get_firmware_download, hsub]
      simp [Bind.bind, Except.bind, Except.mapError, find_single_eq_none_iff.2 hslash]
    rw [hinvalid]
    refine iff_of_true (returns_ok _) ?_
    intro product_id filename _ heq
    rw [← hpath, List.append_assoc] at heq
    rw [List.append_cancel_left heq] at hslash
    exact absurd (List.mem_append_right _ List.mem_cons_self) hslash

/-- The numbers of the version in a file name fit into an `int`. -/
def VersionReadable (fname : Str) : Prop :=
  ∀ major minor patch, version_search fname = some (major, minor, patch) →
    IsIntText 32 major ∧ IsIntText 32 minor ∧ IsIntText 32 patch

theorem parse_version_returns_iff (fname : Str) : Returns (parse_version fname) ↔ VersionReadable fname := by
  unfold parse_version VersionReadable
  rcases version_search fname with _ | ⟨major, minor, patch⟩
  · simp
  · dsimp only
    rw [returns_bind_of fun maj => returns_bind_of fun min => returns_bind_of fun pat => iff_true_intro (returns_ok _),
      stoi_returns_iff, stoi_returns_iff, stoi_returns_iff, and_true]
    refine ⟨?_, fun h => h major minor patch rfl⟩
    rintro h _ _ _ ⟨⟩
    exact h

theorem consider_returns_iff (best : Best) (e : Entry) :
    Returns (consider best e) ↔ (e.is_regular = true → e.stat.isSome = true → VersionReadable e.name) := by
  unfold consider
  rw [returns_ite_ok, not_not]
  refine imp_congr_right fun _ => ?_
  rcases e.stat with _ | ⟨mtime, size⟩
  · simp
  · dsimp only
    rw [returns_bind_of fun v => iff_true_intro ?_, parse_version_returns_iff, and_true]
    · simp
    · rw [returns_ite]
      exact ⟨fun _ => returns_ok _, fun _ => returns_ok _⟩

theorem select_latest_returns_iff (entries : List Entry) :
    Returns (select_latest entries) ↔
      ∀ e ∈ entries, e.is_regular = true → e.stat.isSome = true → VersionReadable e.name :=
  returns_foldlM consider_returns_iff entries {}

end FirmwareFiles

end DevSys
