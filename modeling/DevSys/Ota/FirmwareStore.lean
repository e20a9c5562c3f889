import DevSys.Lib.Paths
import DevSys.Ota.OtaManager
import DevSys.Server.Handlers
/-!
# The firmware directory

Upload, registration, download and deletion put the path of a firmware file
together from texts of the request. None of them looks for `..` in these.
-/
open Cxx Paths

namespace DevSys.FirmwareStore
open JsonHelper Handlers Json

/-! ## Paths -/

def firmware_dir (product : Str) : Str := "./firmware/".toList ++ product

def firmware_path (product filename : Str) : Str := firmware_dir product ++ '/' :: filename

inductive AccessKind where
  | write (data : Str)
  | read
  | remove
  deriving DecidableEq, Repr

/-- A file that a handler opens or removes. -/
structure FileAccess where
  kind : AccessKind
  product : Str
  filename : Str
  deriving DecidableEq, Repr

/-- What a handler answers, the registry afterwards, and the file it goes to. -/
structure Handled where
  response : HttpResponse
  ota : OtaManager
  access : Option FileAccess := none

/-- `{"code":0,"message":"success","data":...}`. -/
def success (code : Nat) (data : List Str) : HttpResponse :=
  json_response code (object
    [member "code".toList "0".toList, strMember "message".toList "success".toList, member "data".toList (object data)])

/-- The answer to a status code that is not `OK`. -/
def refused (sc : StatusCode) : HttpResponse := error_response 400 sc.toInt.toInt (status_message sc)

/-! ## Upload -/

/-- `POST /api/v1/ota/firmwares/upload`, with the checksum of a body, the time,
and whether the file could be opened. -/
def post_firmware_upload (checksum : Str → Str) (now : Int) (is_open : Bool) (req : HttpRequest) (s : OtaManager) :
    Handled :=
  let version := qp req.query "version".toList
  let product_id := qp req.query "product_id".toList
  let filename := qp req.query "filename".toList
  let force := qp req.query "force_upgrade".toList
  if version = [] ∨ product_id = [] then
    { response := error_response 400 1001 "version and product_id required".toList, ota := s }
  else
    let filename := if filename = [] then version ++ ".bin".toList else filename
    let access := { kind := .write req.body, product := product_id, filename := filename }
    if ¬is_open then
      { response := error_response 500 2000 "Cannot write firmware file".toList, ota := s, access := some access }
    else
      let host := (req.headers.lookup "Host".toList).getD "127.0.0.1:9080".toList
      let dl_url := "http://".toList ++ host ++ "/api/v1/ota/firmwares/download/".toList ++ product_id ++ '/' :: filename
      let fw : FirmwareVersion :=
        { version := version
          product_id := product_id
          download_url := dl_url
          checksum_sha256 := checksum req.body
          changelog := qp req.query "changelog".toList
          force_upgrade := force = "1".toList ∨ force = "true".toList
          created_at := now }
      match s.register_firmware fw with
      | (.OK, s) =>
        { response := success 201
            [strMember "version".toList version, strMember "filename".toList filename,
              strMember "product_id".toList product_id, member "size".toList (to_string req.body.length),
              strMember "checksum_sha256".toList (checksum req.body), strMember "download_url".toList dl_url]
          ota := s
          access := some access }
      | (sc, s) => { response := refused sc, ota := s, access := some access }

/-! ## Registration -/

def b64 : Str := "ABCDEFGHIJKLMNOPQRSTUVWXYZabcdefghijklmnopqrstuvwxyz0123456789+/".toList

/-- `strchr(b64, c) - b64`; the null character is found at the end. -/
def b64_index (c : Char) : Option Nat := (b64 ++ ['\x00']).findIdx? (· = c)

/-- The loop over the characters, with `val`, `valb` and what is decoded. `val`
wraps around. -/
def b64_loop (val : Int32) (valb : Int) (decoded : Str) : Str → Str
  | [] => decoded
  | c :: cs =>
    if c = '=' then decoded
    else match b64_index c with
      | none => b64_loop val valb decoded cs
      | some i =>
        let val := (val <<< 6) + Int32.ofNat i
        let valb := valb + 6
        if valb ≥ 0 then
          let byte := (val >>> Int32.ofInt valb) &&& 0xFF
          b64_loop val (valb - 8) (decoded ++ [Char.ofNat byte.toInt.toNat]) cs
        else b64_loop val valb decoded cs

def b64_decode (file_data : Str) : Str := b64_loop 0 (-8) [] file_data

/-- `POST /api/v1/ota/firmwares`. -/
def post_firmware (now : Int) (req : HttpRequest) (s : OtaManager) : Except Exn Handled := do
  let file_size ← get_int req.body "file_size".toList
  let created_at ← get_int req.body "created_at".toList
  let version := get_string req.body "version".toList
  let product_id := get_string req.body "product_id".toList
  let file_name := get_string req.body "file_name".toList
  let download_url := get_string req.body "download_url".toList
  if version = [] then .ok { response := error_response 400 1001 "version is required".toList, ota := s }
  else
    let fw : FirmwareVersion :=
      { version := version
        product_id := product_id
        download_url :=
          if download_url = [] then "/api/v1/ota/firmwares/".toList ++ version ++ "/download".toList else download_url
        file_name := file_name
        file_size := file_size.toInt
        checksum_sha256 := get_string req.body "checksum_sha256".toList
        changelog := get_string req.body "changelog".toList
        force_upgrade := get_bool req.body "force_upgrade".toList
        created_at := if created_at = 0 then now else created_at.toInt }
    let file_data := get_string req.body "file_data".toList
    let decoded := b64_decode file_data
    let access : Option FileAccess :=
      if file_data = [] then none
      else some
        { kind := .write decoded
          product := if product_id = [] then "default".toList else product_id
          filename := if file_name = [] then version ++ ".bin".toList else file_name }
    let fw := if file_data ≠ [] ∧ fw.file_size = 0 then { fw with file_size := decoded.length } else fw
    match s.register_firmware fw with
    | (.OK, s) => .ok { response := success 201 [strMember "version".toList version], ota := s, access := access }
    | (sc, s) => .ok { response := refused sc, ota := s, access := access }

/-! ## Download -/

/-- The file of a download: `get_firmware_download` looks at no other. -/
def download_access (req : HttpRequest) : Except Exn (Option FileAccess) := do
  let rest ← path_tail "/api/v1/ota/firmwares/download/".toList req
  match find ['/'] rest with
  | none => .ok none
  | some slash => .ok (some { kind := .read, product := rest.take slash, filename := rest.drop (slash + 1) })

/-! ## Deletion -/

/-- `DELETE /api/v1/ota/firmwares/{version}`. -/
def delete_firmware (req : HttpRequest) (s : OtaManager) : Except Exn Handled := do
  let ver ← path_tail "/api/v1/ota/firmwares/".toList req
  let fw := s.get_firmware ver
  match s.delete_firmware ver with
  | (.OK, s) =>
    let access := (fw.filter (·.file_name ≠ [])).map fun fw =>
      { kind := .remove
        product := if fw.product_id = [] then "default".toList else fw.product_id
        filename := fw.file_name }
    .ok
      { response := success 200 [strMember "version".toList ver, member "deleted".toList "true".toList]
        ota := s
        access := access }
  | (sc, s) => .ok { response := refused sc, ota := s }

/-! ## Confinement -/

def FileAccess.path (a : FileAccess) : Str := firmware_path a.product a.filename

/-- What the system calls read of a path. -/
def c_path (path : Str) : Str := path.takeWhile (· ≠ '\x00')

/-- The directory of the product is one in `./firmware`, and the file is in it. -/
def FileAccess.Confined (a : FileAccess) : Prop :=
  Inside (resolve "./firmware".toList) (resolve (c_path (firmware_dir a.product))) ∧
    Inside (resolve (c_path (firmware_dir a.product))) (resolve (c_path a.path))

instance (a : FileAccess) : Decidable a.Confined := inferInstanceAs (Decidable (_ ∧ _))

/-- The product is a path that stays in `./firmware`, and the name one that stays
in the directory of the product. -/
def Kept (product filename : Str) : Prop :=
  '\x00' ∉ product ∧ Stays ["firmware".toList] product ∧ Stays (resolve (firmware_dir product)).names (c_path filename)

instance (product filename : Str) : Decidable (Kept product filename) := inferInstanceAs (Decidable (_ ∧ _ ∧ _))

theorem c_path_of_not_mem {path : Str} (h : '\x00' ∉ path) (rest : Str) : c_path (path ++ rest) = path ++ c_path rest := by
  rw [c_path, List.takeWhile_append_of_pos, c_path]
  intro c hc
  exact decide_eq_true fun heq => h (heq ▸ hc)

theorem c_path_of_mem {path : Str} (h : '\x00' ∈ path) (rest : Str) : c_path (path ++ rest) = c_path path := by
  induction path with
  | nil => cases h
  | cons c path ih =>
    rw [c_path, c_path, List.cons_append, List.takeWhile_cons, List.takeWhile_cons]
    by_cases hc : c = '\x00'
    · simp [hc]
    · have hrest := ih ((List.mem_cons.1 h).resolve_left (Ne.symm hc))
      rw [c_path, c_path] at hrest
      rw [hrest]

theorem not_inside_self (d : Location) : ¬Inside d d := fun h => Nat.lt_irrefl _ h.2.2

theorem resolve_firmware : resolve "./firmware".toList = ⟨0, ["firmware".toList]⟩ := by decide

theorem firmware_dir_eq (product : Str) : firmware_dir product = "./firmware".toList ++ '/' :: product := by
  have hslash : "./firmware/".toList = "./firmware".toList ++ ['/'] := by decide +kernel
  calc firmware_dir product
    _ = "./firmware".toList ++ ['/'] ++ product := congrArg (· ++ product) hslash
    _ = "./firmware".toList ++ '/' :: product := List.append_assoc _ _ _

theorem nul_mem_firmware_dir (product : Str) : '\x00' ∈ firmware_dir product ↔ '\x00' ∈ product := by
  have hroot : '\x00' ∉ "./firmware/".toList := by decide +kernel
  exact List.mem_append.trans (or_iff_right hroot)

theorem inside_firmware_iff (product : Str) :
    Inside (resolve "./firmware".toList) (resolve (firmware_dir product)) ↔ Stays ["firmware".toList] product := by
  rw [firmware_dir_eq, resolve_append, inside_walk_iff, resolve_firmware]

theorem confined_iff (a : FileAccess) : a.Confined ↔ Kept a.product a.filename := by
  rw [FileAccess.Confined, Kept, FileAccess.path, firmware_path]
  by_cases hnul : '\x00' ∈ a.product
  · -- the path is cut within the product
    rw [c_path_of_mem ((nul_mem_firmware_dir _).2 hnul)]
    exact iff_of_false (fun h => not_inside_self _ h.2) fun h => h.1 hnul
  · have hdir := mt (nul_mem_firmware_dir a.product).1 hnul
    have hcut : c_path (firmware_dir a.product) = firmware_dir a.product := by
      have hall := c_path_of_not_mem hdir []
      rwa [List.append_nil, show c_path [] = [] from rfl, List.append_nil] at hall
    have hslash : c_path ('/' :: a.filename) = '/' :: c_path a.filename :=
      have hslash : '\x00' ∉ ['/'] := by decide
      c_path_of_not_mem hslash a.filename
    rw [c_path_of_not_mem hdir, hslash, hcut, inside_firmware_iff, resolve_append, inside_walk_iff, and_iff_right hnul]

/-! ## The handlers -/

/-- The product and the file name that an upload names, if it is not refused. -/
def upload_names (req : HttpRequest) : Option (Str × Str) :=
  let version := qp req.query "version".toList
  let product_id := qp req.query "product_id".toList
  let filename := qp req.query "filename".toList
  if version = [] ∨ product_id = [] then none
  else some (product_id, if filename = [] then version ++ ".bin".toList else filename)

/-- Those of a registration that comes with the file. -/
def register_names (req : HttpRequest) : Option (Str × Str) := do
  let _ ← (get_int req.body "file_size".toList).toOption
  let _ ← (get_int req.body "created_at".toList).toOption
  let version := get_string req.body "version".toList
  let product_id := get_string req.body "product_id".toList
  let file_name := get_string req.body "file_name".toList
  if version = [] ∨ get_string req.body "file_data".toList = [] then none
  else
    some (if product_id = [] then "default".toList else product_id,
      if file_name = [] then version ++ ".bin".toList else file_name)

/-- Those of a download: what is before the first slash, and behind it. -/
def download_names (req : HttpRequest) : Option (Str × Str) := do
  let rest ← (path_tail "/api/v1/ota/firmwares/download/".toList req).toOption
  let slash ← find ['/'] rest
  some (rest.take slash, rest.drop (slash + 1))

/-- Those of the record that a deletion removes, if it was registered with a file name. -/
def delete_names (req : HttpRequest) (s : OtaManager) : Option (Str × Str) := do
  let ver ← (path_tail "/api/v1/ota/firmwares/".toList req).toOption
  let fw ← s.get_firmware ver
  if (s.delete_firmware ver).1 ≠ .OK ∨ fw.file_name = [] then none
  else some (if fw.product_id = [] then "default".toList else fw.product_id, fw.file_name)

def FileAccess.names (a : FileAccess) : Str × Str := (a.product, a.filename)

/-- The file that a handler has gone to; none if it threw. -/
def accessed (handled : Except Exn Handled) : Option FileAccess := handled.toOption.bind (·.access)

/-- An access is confined when its names are kept. -/
theorem forall_confined_iff {access : Option FileAccess} {names : Option (Str × Str)}
    (h : access.map FileAccess.names = names) : (∀ a ∈ access, a.Confined) ↔ ∀ n ∈ names, Kept n.1 n.2 := by
  subst h
  cases access with
  | none => exact iff_of_true nofun nofun
  | some a =>
    constructor
    · rintro hall n ⟨rfl⟩
      exact (confined_iff a).1 (hall a rfl)
    · rintro hall b ⟨rfl⟩
      exact (confined_iff a).2 (hall _ rfl)

theorem upload_access (checksum : Str → Str) (now : Int) (is_open : Bool) (req : HttpRequest) (s : OtaManager) :
    (post_firmware_upload checksum now is_open req s).access.map FileAccess.names = upload_names req := by
  unfold post_firmware_upload upload_names
  dsimp only
  split_ifs <;> rfl

theorem register_access (now : Int) (req : HttpRequest) (s : OtaManager) :
    (accessed (post_firmware now req s)).map FileAccess.names = register_names req := by
  unfold post_firmware register_names
  cases get_int req.body "file_size".toList with
  | error e => rfl
  | ok file_size =>
    cases get_int req.body "created_at".toList with
    | error e => rfl
    | ok created_at =>
      simp only [Bind.bind, Except.bind, Except.toOption, Option.bind]
      by_cases hversion : get_string req.body "version".toList = []
      · rw [if_pos hversion, if_pos (.inl hversion)]
        rfl
      · rw [if_neg hversion]
        by_cases hdata : get_string req.body "file_data".toList = []
        · have hnone : get_string req.body "version".toList = [] ∨ get_string req.body "file_data".toList = [] :=
            .inr hdata
          simp only [accessed, OtaManager.register_firmware, if_pos hdata]
          rw [if_pos hnone]
          rfl
        · have hsome : ¬(get_string req.body "version".toList = [] ∨ get_string req.body "file_data".toList = []) :=
            not_or.2 ⟨hversion, hdata⟩
          simp only [accessed, OtaManager.register_firmware, if_neg hdata]
          rw [if_neg hsome]
          rfl

theorem download_access_names (req : HttpRequest) :
    ((download_access req).toOption.bind id).map FileAccess.names = download_names req := by
  unfold download_access download_names
  cases path_tail "/api/v1/ota/firmwares/download/".toList req with
  | error e => rfl
  | ok rest =>
    simp only [Bind.bind, Except.bind, Except.toOption, Option.bind]
    cases find ['/'] rest <;> rfl

theorem delete_access (req : HttpRequest) (s : OtaManager) :
    (accessed (delete_firmware req s)).map FileAccess.names = delete_names req s := by
  unfold delete_firmware delete_names
  cases path_tail "/api/v1/ota/firmwares/".toList req with
  | error e => rfl
  | ok ver =>
    simp only [Bind.bind, Except.bind, Except.toOption, Option.bind]
    rcases OtaManager.delete_firmware_cases ver s with ⟨hnone, heq⟩ | ⟨hsome, heq⟩ | ⟨hsome, heq⟩
    · rw [heq, hnone]
      rfl
    · obtain ⟨fw, hfw⟩ := Option.isSome_iff_exists.1 hsome
      rw [heq, hfw]
      rfl
    · obtain ⟨fw, hfw⟩ := Option.isSome_iff_exists.1 hsome
      rw [heq, hfw]
      by_cases hname : fw.file_name = []
      · have hfilter : (some fw).filter (·.file_name ≠ []) = none := by simp [hname]
        have hnone : StatusCode.OK ≠ StatusCode.OK ∨ fw.file_name = [] := .inr hname
        dsimp only
        rw [hfilter, if_pos hnone]
        rfl
      · have hfilter : (some fw).filter (·.file_name ≠ []) = some fw := by simp [hname]
        have hsome : ¬(StatusCode.OK ≠ StatusCode.OK ∨ fw.file_name = []) := not_or.2 ⟨fun hne => hne rfl, hname⟩
        dsimp only
        rw [hfilter, if_neg hsome]
        rfl

theorem send_firmware_reads (alloc : Nat → Option Thrown) {files files' : FileSystem} {product filename : Str}
    (range : Option Str) (h : files.file (firmware_path product filename) = files'.file (firmware_path product filename)) :
    FirmwareFiles.send_firmware alloc files product filename range =
      FirmwareFiles.send_firmware alloc files' product filename range := by
  unfold firmware_path firmware_dir at h
  unfold FirmwareFiles.send_firmware
  rw [h]

/-- A download looks at the file it names and at no other. -/
theorem get_firmware_download_reads (alloc : Nat → Option Thrown) {files files' : FileSystem} {req : HttpRequest}
    (h : ∀ a, download_access req = .ok (some a) → files.file a.path = files'.file a.path) :
    FirmwareFiles.get_firmware_download alloc files req = FirmwareFiles.get_firmware_download alloc files' req := by
  unfold FirmwareFiles.get_firmware_download
  unfold download_access path_tail at h
  cases hrest : substr req.path "/api/v1/ota/firmwares/download/".toList.length with
  | error e => rfl
  | ok rest =>
    rw [hrest] at h
    cases hslash : find ['/'] rest with
    | none =>
      simp only [Bind.bind, Except.bind, Except.mapError, hslash]
    | some slash =>
      simp only [Bind.bind, Except.bind, Except.mapError, hslash] at h ⊢
      exact send_firmware_reads alloc _ (h _ rfl)

/-- The four handlers go to confined files exactly when the product and the file
name they put together are kept. -/
theorem accesses_confined_iff (checksum : Str → Str) (now : Int) (is_open : Bool) (req : HttpRequest) (s : OtaManager) :
    ((∀ a ∈ (post_firmware_upload checksum now is_open req s).access, a.Confined) ↔
      ∀ n ∈ upload_names req, Kept n.1 n.2) ∧
    ((∀ a ∈ accessed (post_firmware now req s), a.Confined) ↔ ∀ n ∈ register_names req, Kept n.1 n.2) ∧
    ((∀ a ∈ (download_access req).toOption.bind id, a.Confined) ↔ ∀ n ∈ download_names req, Kept n.1 n.2) ∧
    ((∀ a ∈ accessed (delete_firmware req s), a.Confined) ↔ ∀ n ∈ delete_names req s, Kept n.1 n.2) :=
  ⟨forall_confined_iff (upload_access checksum now is_open req s), forall_confined_iff (register_access now req s),
    forall_confined_iff (download_access_names req), forall_confined_iff (delete_access req s)⟩

/-- An upload that writes beside the firmware directory. -/
theorem accesses_confined_fails : ∃ req a, (post_firmware_upload id 0 true req {}).access = some a ∧
    ¬a.Confined ∧ resolve (c_path a.path) = ⟨0, ["dev_sys.conf".toList]⟩ := by
  let req : HttpRequest := { query := "version=1&product_id=acm&filename=../../dev_sys.conf".toList }
  refine ⟨req, { kind := .write [], product := "acm".toList, filename := "../../dev_sys.conf".toList }, ?_, ?_, ?_⟩
  · decide +kernel
  · decide +kernel
  · decide +kernel

end DevSys.FirmwareStore
