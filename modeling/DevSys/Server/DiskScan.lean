import DevSys.Lib.Admission
import DevSys.Ota.OtaManager
import DevSys.Server.Dispatch
/-!
# The firmware on the disk at start-up

What was registered is gone after a restart, so `main` registers the files below
`./firmware` again, each under the name of its file without the extension. The
link that it gives them is the path of no route, as it stands or with escapes.
-/
open Cxx Admission

namespace DevSys.DiskScan
open OtaManager Route ApiServer

/-- An entry of the directory of a product, with its size and the time at which
it is looked at. The name of an entry has no slash. -/
structure FileEntry where
  name : Str
  is_regular_file : Bool := true
  file_size : Int := 0
  now : Int := 0
  no_slash : '/' ∉ name

/-- An entry of `./firmware`. -/
structure ProductEntry where
  name : Str
  is_directory : Bool := true
  files : List FileEntry := []

/-! ## The scan -/

/-- The name without its extension. -/
def version_of (fname : Str) : Str :=
  match rfind ['.'] fname with
  | none => fname
  | some dot => fname.take dot

def download_link (ver : Str) : Str := "/api/v1/ota/firmwares/".toList ++ ver ++ "/download".toList

def scanned (product : Str) (file : FileEntry) : FirmwareVersion :=
  let ver := version_of file.name
  { version := ver
    product_id := product
    file_name := file.name
    file_size := file.file_size
    download_url := download_link ver
    created_at := file.now }

def scan_file (product : Str) (s : OtaManager) (file : FileEntry) : OtaManager :=
  if ¬file.is_regular_file then s
  else if (s.get_firmware (version_of file.name)).isNone then (s.register_firmware (scanned product file)).2
  else s

def scan_product (s : OtaManager) (entry : ProductEntry) : OtaManager :=
  if ¬entry.is_directory then s else entry.files.foldl (scan_file entry.name) s

/-- The loop over the entries of `./firmware`; none if it does not exist. -/
def scan (entries : List ProductEntry) (s : OtaManager) : OtaManager := entries.foldl scan_product s

/-- A regular file in the directory of a product. -/
def OnDisk (entries : List ProductEntry) (product : Str) (file : FileEntry) : Prop :=
  ∃ entry ∈ entries,
    entry.is_directory = true ∧ entry.name = product ∧ file ∈ entry.files ∧ file.is_regular_file = true

/-- What the files could be registered as, in the order in which they are looked at. -/
def found (entries : List ProductEntry) : List FirmwareVersion :=
  (entries.filter (·.is_directory)).flatMap fun entry =>
    (entry.files.filter (·.is_regular_file)).map (scanned entry.name)

theorem mem_found {entries : List ProductEntry} {fw : FirmwareVersion} :
    fw ∈ found entries ↔ ∃ product file, OnDisk entries product file ∧ fw = scanned product file := by
  simp only [found, List.mem_flatMap, List.mem_map, List.mem_filter, OnDisk]
  constructor
  · rintro ⟨entry, ⟨hentry, hdir⟩, file, ⟨hfile, hregular⟩, rfl⟩
    exact ⟨entry.name, file, ⟨entry, hentry, hdir, rfl, hfile, hregular⟩, rfl⟩
  · rintro ⟨product, file, ⟨entry, hentry, hdir, rfl, hfile, hregular⟩, rfl⟩
    exact ⟨entry, ⟨hentry, hdir⟩, file, ⟨hfile, hregular⟩, rfl⟩

theorem get_firmware_isNone_iff (s : OtaManager) (version : Str) :
    (s.get_firmware version).isNone = true ↔ version ∉ s.firmware_versions_.map (·.version) := by
  rw [OtaManager.get_firmware, Option.isNone_iff_eq_none, List.find?_eq_none, List.mem_map]
  constructor
  · rintro h ⟨fw, hfw, rfl⟩
    exact h fw hfw (by simp)
  · intro h fw hfw heq
    exact h ⟨fw, hfw, of_decide_eq_true heq⟩

/-- A file is registered unless its version is. -/
theorem scan_file_eq (product : Str) (s : OtaManager) (file : FileEntry) :
    scan_file product s file =
      { s with firmware_versions_ :=
          if file.is_regular_file then enrol (·.version) s.firmware_versions_ (scanned product file)
          else s.firmware_versions_ } := by
  unfold scan_file
  cases file.is_regular_file with
  | false => simp
  | true =>
    simp only [not_true_eq_false, if_false, if_true, get_firmware_isNone_iff]
    by_cases hold : version_of file.name ∈ s.firmware_versions_.map (·.version)
    · have hkey : (scanned product file).version ∈ s.firmware_versions_.map (·.version) := hold
      rw [if_neg (not_not.2 hold), enrol_of_mem hkey]
    · have hkey : (scanned product file).version ∉ s.firmware_versions_.map (·.version) := hold
      rw [if_pos hold, enrol_of_notMem hkey]
      rfl

theorem scan_product_eq (s : OtaManager) (entry : ProductEntry) :
    scan_product s entry =
      { s with firmware_versions_ := (found [entry]).foldl (enrol (·.version)) s.firmware_versions_ } := by
  unfold scan_product found
  cases hdir : entry.is_directory with
  | false => simp [hdir]
  | true =>
    simp only [not_true_eq_false, if_false, List.filter_cons, hdir, if_true, List.filter_nil, List.flatMap_cons,
      List.flatMap_nil, List.append_nil]
    generalize entry.files = files
    induction files generalizing s with
    | nil => rfl
    | cons file files ih =>
      rw [List.foldl_cons, ih, scan_file_eq, List.filter_cons]
      cases file.is_regular_file <;> rfl

/-- The scan admits what is found by its version. -/
theorem scan_eq (entries : List ProductEntry) (s : OtaManager) :
    scan entries s =
      { s with firmware_versions_ := (found entries).foldl (enrol (·.version)) s.firmware_versions_ } := by
  induction entries generalizing s with
  | nil => rfl
  | cons entry entries ih =>
    have hfound : found (entry :: entries) = found [entry] ++ found entries := by
      unfold found
      cases hdir : entry.is_directory <;> simp [hdir]
    rw [scan, List.foldl_cons, ← scan, ih, scan_product_eq, hfound, List.foldl_append]

/-! ## The link -/

theorem prefix_version_of (fname : Str) : version_of fname <+: fname := by
  unfold version_of
  split
  · exact List.prefix_refl fname
  · exact List.take_prefix _ _

theorem version_no_slash (file : FileEntry) : '/' ∉ version_of file.name :=
  fun h => file.no_slash ((prefix_version_of file.name).subset h)

theorem prefix_link (ver : Str) : "/api/v1/ota/firmwares/".toList <+: download_link ver := by
  unfold download_link
  rw [List.append_assoc]
  exact List.prefix_append _ _

theorem suffix_link (ver : Str) : "/download".toList <:+ download_link ver := by
  unfold download_link
  exact List.suffix_append _ _

theorem path_ne_link (r : Route) :
    ¬("/api/v1/ota/firmwares/".toList <+: r.path ∧ "/download".toList <:+ r.path) := by
  have hall : ∀ r ∈ all, ¬("/api/v1/ota/firmwares/".toList <+: r.path ∧ "/download".toList <:+ r.path) := by
    decide +kernel
  exact hall r (mem_all r)

/-- No route has the path of a link. -/
theorem not_exact_link {r : Route} {req : HttpRequest} {ver : Str} (hpath : req.path = download_link ver) :
    ¬exact_match req r.key = true := by
  intro hmatch
  have hp : r.path = download_link ver := (exact_match_iff.1 hmatch).2.2.trans hpath
  exact path_ne_link r ⟨hp ▸ prefix_link ver, hp ▸ suffix_link ver⟩

/-- The patterns for paths of firmware. -/
theorem pattern_of_stem {r : Route} (hb : '{' ∈ r.path) (hmethod : r.method = "GET".toList)
    (hstem : r.stem <+: "/api/v1/ota/firmwares/".toList ∨ "/api/v1/ota/firmwares/".toList <+: r.stem) :
    r = Route.get_firmware ∨ r = get_firmware_download := by
  have hall : ∀ r ∈ patterns, r.method = "GET".toList →
      (r.stem <+: "/api/v1/ota/firmwares/".toList ∨ "/api/v1/ota/firmwares/".toList <+: r.stem) →
        r = Route.get_firmware ∨ r = get_firmware_download := by decide +kernel
  exact hall r (mem_patterns.2 hb) hmethod hstem

/-- A link is taken for a download only if the version is the word itself. -/
theorem pattern_of_link {r : Route} {req : HttpRequest} {ver : Str} (hmethod : req.method = "GET".toList)
    (hpath : req.path = download_link ver) (hver : '/' ∉ ver) (hmatch : pattern_match req r.key = true) :
    r = get_firmware_download ∧ ver = "download".toList := by
  obtain ⟨hm, hb, suffix, hs, -, hslash⟩ := pattern_match_iff.1 hmatch
  have hpre : "/api/v1/ota/firmwares/".toList <+: req.path := hpath ▸ prefix_link ver
  have hlink : req.path = "/api/v1/ota/firmwares/".toList ++ (ver ++ '/' :: "download".toList) := by
    have hdownload : "/download".toList = '/' :: "download".toList := by decide +kernel
    rw [hpath, ← hdownload]
    unfold download_link
    exact List.append_assoc _ _ _
  have hstems := List.prefix_or_prefix_of_prefix ⟨suffix, hs.symm⟩ hpre
  rcases pattern_of_stem hb (hm.trans hmethod) hstems with rfl | rfl
  · -- a slash is behind the version
    have hdeep : ¬Route.get_firmware.Deep := by decide +kernel
    have hstem : Route.get_firmware.stem = "/api/v1/ota/firmwares/".toList := by decide +kernel
    rw [hs, hstem, List.append_cancel_left_eq] at hlink
    refine absurd ?_ (hslash.resolve_left hdeep)
    rw [hlink]
    exact List.mem_append_right _ List.mem_cons_self
  · have hstem : get_firmware_download.stem = "/api/v1/ota/firmwares/".toList ++ ("download".toList ++ ['/']) := by
      decide +kernel
    have hdownload : '/' ∉ "download".toList := by decide +kernel
    rw [hs, hstem, List.append_assoc, List.append_assoc, List.append_cancel_left_eq] at hlink
    exact ⟨rfl, (cut_inj hdownload hver hlink).1.symm⟩

/-- Whatever the server holds, and in whatever order its routes are, a path that is
a link is answered with 404. -/
theorem link_not_found (alloc : Nat → Option Thrown) (answer : Route → HttpRequest → Server → HttpResponse)
    (srv : Server) (order : List Route) {req : HttpRequest} (hmethod : req.method = "GET".toList) {ver : Str} (hver : '/' ∉ ver)
    (hpath : req.path = download_link ver) :
    ∃ resp, respond (table alloc answer srv order) req = .ok resp ∧ resp.status_code = 404 := by
  have hget : req.method ≠ "OPTIONS".toList := by
    rw [hmethod]
    decide
  have hfind : find_route req (table alloc answer srv order) =
      (dispatch order req).map fun r => r.handle alloc answer srv := by
    rw [dispatch, ← find_route_map, List.map_map]
    rfl
  rw [respond, if_neg hget, hfind]
  cases hd : dispatch order req with
  | none => exact ⟨_, rfl, rfl⟩
  | some r =>
    have hexact : order.find? (fun r => exact_match req r.key) = none :=
      List.find?_eq_none.2 fun r _ => not_exact_link hpath
    rw [dispatch_eq, hexact] at hd
    have hpattern : pattern_match req r.key = true :=
      @List.find?_some _ (fun r : Route => pattern_match req r.key) r order hd
    obtain ⟨rfl, rfl⟩ := pattern_of_link hmethod hpath hver hpattern
    refine ⟨error_response 404 1002 "Invalid path".toList, ?_, rfl⟩
    show FirmwareFiles.get_firmware_download alloc srv.files req = _
    have hsub : substr req.path "/api/v1/ota/firmwares/download/".toList.length = .ok "download".toList := by
      rw [hpath]
      decide +kernel
    have hslash : find ['/'] "download".toList = none := by decide
    rw [FirmwareFiles.get_firmware_download, hsub]
    simp only [Bind.bind, Except.bind, Except.mapError, hslash]

/-- For every disk and every registry: the scan keeps what is registered and adds
one firmware for each version that is only on the disk, so that to scan again
adds nothing; and the link of each that it adds, with or without escapes, is a
path that leads nowhere. -/
theorem scan_restores (entries : List ProductEntry) (s : OtaManager) :
    ∃ added : List FirmwareVersion,
      (scan entries s).firmware_versions_ = s.firmware_versions_ ++ added ∧
      (scan entries s).ota_records_ = s.ota_records_ ∧ (added.map (·.version)).Nodup ∧
      (∀ v, v ∈ added.map (·.version) ↔
        s.get_firmware v = none ∧ ∃ product file, OnDisk entries product file ∧ version_of file.name = v) ∧
      (∀ fw ∈ added, (∃ product file, OnDisk entries product file ∧ fw = scanned product file) ∧
        fw.download_url = download_link fw.version ∧ '/' ∉ fw.version) ∧
      (∀ ver, '/' ∉ ver → ∀ alloc answer srv order req, req.method = "GET".toList → req.path = download_link ver →
        ∃ resp, respond (table alloc answer srv order) req = .ok resp ∧ resp.status_code = 404) ∧
      scan entries (scan entries s) = scan entries s := by
  obtain ⟨added, hfold, hsub, hnodup, hkeys⟩ :=
    @exists_admitted _ _ _ FirmwareVersion.version s.firmware_versions_ (found entries)
  have hregistry : (scan entries s).firmware_versions_ = s.firmware_versions_ ++ added := by rw [scan_eq, hfold]
  have hrecords : (scan entries s).ota_records_ = s.ota_records_ := by rw [scan_eq]
  refine ⟨added, hregistry, hrecords, hnodup, fun v => ?_, fun fw hfw => ?_, ?_, ?_⟩
  · rw [hkeys, ← get_firmware_isNone_iff, Option.isNone_iff_eq_none, List.mem_map]
    refine and_congr_right fun _ => ?_
    constructor
    · rintro ⟨fw, hfw, rfl⟩
      obtain ⟨product, file, hdisk, rfl⟩ := mem_found.1 hfw
      exact ⟨product, file, hdisk, rfl⟩
    · rintro ⟨product, file, hdisk, rfl⟩
      exact ⟨scanned product file, mem_found.2 ⟨product, file, hdisk, rfl⟩, rfl⟩
  · obtain ⟨product, file, hdisk, rfl⟩ := mem_found.1 (hsub.subset hfw)
    exact ⟨⟨product, file, hdisk, rfl⟩, rfl, version_no_slash file⟩
  · intro ver hver alloc answer srv order req hmethod hpath
    exact link_not_found alloc answer srv order hmethod hver hpath
  · rw [scan_eq entries (scan entries s), scan_eq entries s, foldl_enrol_again]

example :
    (scan [{ name := "coffee".toList, files := [{ name := "v2.bin".toList, no_slash := by decide },
      { name := "v2.txt".toList, no_slash := by decide }] }] {}).firmware_versions_.map (·.file_name) =
        ["v2.bin".toList] := by
  decide +kernel

end DevSys.DiskScan
