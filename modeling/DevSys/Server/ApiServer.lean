import DevSys.Lib.Returns
import DevSys.Lib.Socket
import DevSys.Server.Http
/-!
# `ApiServer`

A connection of the HTTP server, from the first `recv` to the answer. It is
handled on a detached thread, and what leaves that thread ends the process, as
does a `send` to a client that is gone: nothing asks for `MSG_NOSIGNAL` or
ignores SIGPIPE. Strings of bytes that were received are taken to fit into
memory. Where a client asks for memory in advance, `alloc` tells what comes of
it, and `outs` what comes of each `send`.
-/
open Cxx Net

namespace DevSys

/-- The exceptions of the string and number operations. -/
inductive Thrown where
  | text (e : Exn)
  | length_error
  | bad_alloc
  deriving DecidableEq, Repr

abbrev RouteHandler := HttpRequest → Except Thrown HttpResponse

/-- How a connection ends: with the socket closed, with an exception, or with
SIGPIPE. `sent` is what has been sent by then. -/
inductive Exit where
  | closed (sent : Str)
  | escaped (sent : Str) (e : Thrown)
  | sigpipe (sent : Str)
  deriving DecidableEq, Repr

/-- How `write_all` comes out. -/
inductive Written where
  | all
  | cut
  | broken
  deriving DecidableEq, Repr

namespace ApiServer

/-! ## Receiving -/

def chars (bs : Bytes) : Str := bs.map fun b => Char.ofNat b.toNat

def blank_line : Str := "\r\n\r\n".toList

/-- Phase 1: pieces of up to 64 KB, until there is a blank line. -/
def read_head (raw : Str) (client : Socket) : Option (Str × Socket) :=
  if (find blank_line raw).isSome then some (raw, client)
  else
    match _h : recv 65536 client with
    | (some (b :: got), rest) =>
      let raw := raw ++ chars (b :: got)
      if raw.length > 131072 then none else read_head raw rest
    | _ => none
termination_by size client
decreasing_by
  have := recv_size _h
  simp only [List.length_cons] at this
  omega

/-- The loop of `read_exact`. -/
def fill (needed : Nat) (buf : Str) (client : Socket) : Option Str :=
  if _h : buf.length < needed then
    match recv (min (needed - buf.length) 65536) client with
    | (some (b :: got), rest) => fill needed (buf ++ chars (b :: got)) rest
    | _ => none
  else some buf
termination_by needed - buf.length
decreasing_by
  simp only [chars, List.length_append, List.length_map, List.length_cons]
  omega

/-- `alloc` is what reserving so many bytes throws. -/
def read_exact (alloc : Nat → Option Thrown) (buf : Str) (needed : Nat) (client : Socket) :
    Except Thrown (Option Str) :=
  match alloc needed with
  | some e => .error e
  | none => .ok (fill needed buf client)

/-! ## The header -/

def header_end (raw : Str) : Nat := (find blank_line raw).getD 0

def header_str (raw : Str) : Str := raw.take (header_end raw)

def go_ahead : Str := "HTTP/1.1 100 Continue\r\n\r\n".toList

/-- A client that waits with the body. -/
def expects (header_str : Str) : Bool :=
  (find "expect: 100-continue".toList (header_str.map Char.toLower)).isSome

/-- One `send` of the go-ahead, with its result unread: what it takes, and what
comes of the later ones. -/
def send_go_ahead (header_str : Str) (outs : List Send) : Option (Str × List Send) :=
  if expects header_str then
    match outs with
    | out :: outs => (out.taken go_ahead).map (·, outs)
    | [] => some ([], [])
  else some ([], outs)

/-- What follows the first `content-length:`; zero when it is not a number. -/
def content_length (header_str : Str) : Nat :=
  match find "content-length:".toList (header_str.map Char.toLower) with
  | none => 0
  | some pos =>
    let value := (header_str.drop (pos + 15)).dropWhile (· = ' ')
    match stoull (value.takeWhile (· ≠ '\r')) with
    | .error _ => 0
    | .ok n => n

/-- The size of the whole request. The sum wraps around. -/
def needed (raw : Str) : Nat := (header_end raw + 4 + content_length (header_str raw)) % 2 ^ 64

/-! ## Parsing -/

/-- A line without the carriage return at its end. -/
def chomp (line : Str) : Str := if line.getLast? = some '\r' then line.dropLast else line

/-- The next word of a stream, and the rest of the stream. -/
def next_word (stream : Str) : Str × Str :=
  let stream := stream.dropWhile isspace
  (stream.takeWhile (!isspace ·), stream.dropWhile (!isspace ·))

def add_header (headers : UMap Str Str) (line : Str) : UMap Str Str :=
  match find [':'] line with
  | none => headers
  | some colon =>
    let val := line.drop (colon + 1)
    UMap.set (line.take colon) (if val.head? = some ' ' then val.tail else val) headers

/-- The path, and the query that follows the first question mark. -/
def split_query (path : Str) : Str × Str :=
  match find ['?'] path with
  | none => (path, [])
  | some qpos => (path.take qpos, path.drop (qpos + 1))

def request_body (raw : Str) (content_len : Nat) : Str :=
  match find blank_line raw with
  | none => []
  | some pos =>
    let body_start := pos + 4
    if content_len > 0 ∧ (body_start + content_len) % 2 ^ 64 ≤ raw.length then (raw.drop body_start).take content_len
    else []

def parse_request (raw : Str) (content_len : Nat) : HttpRequest :=
  let lines := getlineAll '\n' raw
  let (method, rest) := next_word (chomp (lines.headD []))
  let (path, query) := split_query (next_word rest).1
  { method := method
    path := path
    query := query
    body := request_body raw content_len
    headers := ((lines.tail.map chomp).takeWhile (· ≠ [])).foldl add_header ∅ }

/-! ## Dispatch -/

/-- The method and the path of a key of the route table. -/
def split_key (rk : Str) : Option (Str × Str) := (find [' '] rk).map fun sp => (rk.take sp, rk.drop (sp + 1))

/-- Phase 1: a path without parameters. -/
def exact_match (req : HttpRequest) (rk : Str) : Bool :=
  match split_key rk with
  | none => false
  | some (rm, rp) => rm = req.method && find ['{'] rp = none && rp = req.path

/-- Phase 2: the path up to its first parameter. The rest may have slashes if
the pattern has any after its first parameter. -/
def pattern_match (req : HttpRequest) (rk : Str) : Bool :=
  match split_key rk with
  | none => false
  | some (rm, rp) =>
    rm = req.method && match find ['{'] rp with
      | none => false
      | some brace =>
        let pre := rp.take brace
        let suffix := req.path.drop pre.length
        find pre req.path = some 0 && suffix ≠ [] && ((findFrom ['/'] rp brace).isSome || find ['/'] suffix = none)

/-- The handler of the first route that matches, in the order of the table. -/
def find_route {α : Type} (req : HttpRequest) (routes : List (Str × α)) : Option α :=
  ((routes.find? fun r => exact_match req r.1) <|> routes.find? fun r => pattern_match req r.1).map (·.2)

/-- The answer to a CORS preflight. -/
def cors : HttpResponse where
  status_code := 204
  content_type := "text/plain".toList
  extra_headers :=
    "Access-Control-Allow-Origin: *\r\n".toList ++
      "Access-Control-Allow-Methods: GET,POST,PUT,DELETE,OPTIONS\r\n".toList ++
      ("Access-Control-Allow-Headers: Content-Type,Authorization,X-Firmware-Version,".toList ++
        "X-Firmware-Product,X-Firmware-Changelog,Range\r\n".toList) ++
      "Access-Control-Max-Age: 86400\r\n".toList

def respond (routes : List (Str × RouteHandler)) (req : HttpRequest) : Except Thrown HttpResponse :=
  if req.method = "OPTIONS".toList then .ok cors
  else match find_route req routes with
    | some h => h req
    | none => .ok (error_response 404 (-404) ("Not Found: ".toList ++ req.path))

/-! ## Answering -/

def reason : Nat → Str
  | 200 => "OK".toList
  | 201 => "Created".toList
  | 206 => "Partial Content".toList
  | 400 => "Bad Request".toList
  | 401 => "Unauthorized".toList
  | 404 => "Not Found".toList
  | 500 => "Internal Server Error".toList
  | _ => "Unknown".toList

def build_response (resp : HttpResponse) : Str :=
  let crlf := "\r\n".toList
  let extra :=
    if resp.extra_headers = [] then []
    else if resp.extra_headers.getLast? ≠ some '\n' then resp.extra_headers ++ crlf
    else resp.extra_headers
  "HTTP/1.1 ".toList ++ to_string resp.status_code ++ ' ' :: reason resp.status_code ++ crlf ++
    "Content-Type: ".toList ++ resp.content_type ++ crlf ++
    "Content-Length: ".toList ++ to_string resp.body.length ++ crlf ++
    "Connection: close\r\n".toList ++ extra ++ crlf ++ resp.body

/-- What is sent of the data, until all of it is taken or a `send` fails. -/
def write_all : List Send → Str → Str × Written
  | _, [] => ([], .all)
  | .took n :: outs, c :: data =>
    if n = 0 then ([], .cut)
    else
      let (sent, written) := write_all outs ((c :: data).drop n)
      ((c :: data).take n ++ sent, written)
  | .broken :: _, _ :: _ => ([], .broken)
  | _, _ :: _ => ([], .cut)

/-- The end of a connection that has come to an answer. -/
def answer (sent : Str) (outs : List Send) : Except Thrown HttpResponse → Exit
  | .error e => .escaped sent e
  | .ok resp =>
    match write_all outs (build_response resp) with
    | (out, .broken) => .sigpipe (sent ++ out)
    | (out, _) => .closed (sent ++ out)

/-- Phase 2: the body, unless it has arrived with the header. -/
def read_body (alloc : Nat → Option Thrown) (raw : Str) (client : Socket) : Except Thrown (Option Str) :=
  if raw.length < needed raw then read_exact alloc raw (needed raw) client else .ok (some raw)

def handle_connection (alloc : Nat → Option Thrown) (routes : List (Str × RouteHandler)) (outs : List Send)
    (client : Socket) : Exit :=
  match read_head [] client with
  | none => .closed []
  | some (raw, client) =>
    let header_str := header_str raw
    match send_go_ahead header_str outs with
    | none => .sigpipe []
    | some (sent, outs) =>
      match read_body alloc raw client with
      | .error e => .escaped sent e
      | .ok none => .closed sent
      | .ok (some raw) => answer sent outs (respond routes (parse_request raw (content_length header_str)))

/-! ## Which route is found -/

theorem find_route_map {α β : Type} (req : HttpRequest) (f : α → β) (routes : List (Str × α)) :
    find_route req (routes.map fun r => (r.1, f r.2)) = (find_route req routes).map f := by
  unfold find_route
  rw [List.find?_map, List.find?_map]
  have hexact : ((fun r : Str × β => exact_match req r.1) ∘ fun r : Str × α => (r.1, f r.2)) =
      fun r => exact_match req r.1 := rfl
  have hpattern : ((fun r : Str × β => pattern_match req r.1) ∘ fun r : Str × α => (r.1, f r.2)) =
      fun r => pattern_match req r.1 := rfl
  rw [hexact, hpattern]
  cases routes.find? fun r => exact_match req r.1 with
  | some r => rfl
  | none => cases routes.find? fun r => pattern_match req r.1 <;> rfl

theorem find_route_mem {α : Type} {req : HttpRequest} {routes : List (Str × α)} {a : α}
    (h : find_route req routes = some a) :
    ∃ rk, (rk, a) ∈ routes ∧ (exact_match req rk = true ∨ pattern_match req rk = true) := by
  unfold find_route at h
  obtain ⟨⟨rk, a⟩, hr, rfl⟩ := Option.map_eq_some_iff.1 h
  refine ⟨rk, ?_⟩
  cases hexact : routes.find? fun r => exact_match req r.1 with
  | some r =>
    rw [hexact] at hr
    cases hr
    have hmatch := List.find?_some hexact
    exact ⟨List.mem_of_find?_eq_some hexact, .inl hmatch⟩
  | none =>
    rw [hexact] at hr
    have hmatch := List.find?_some hr
    exact ⟨List.mem_of_find?_eq_some hr, .inr hmatch⟩

/-! ## Reading a header -/

/-- A piece is added to a header that has no blank line yet. -/
theorem read_head_recv {raw : Str} {client rest : Socket} {b : UInt8} {got : Bytes}
    (hblank : ¬(find blank_line raw).isSome) (hrecv : recv 65536 client = (some (b :: got), rest))
    (hlen : (raw ++ chars (b :: got)).length ≤ 131072) :
    read_head raw client = read_head (raw ++ chars (b :: got)) rest := by
  rw [read_head, if_neg hblank]
  split
  · rename_i h
    rw [hrecv] at h
    cases h
    exact if_neg (Nat.not_lt.2 hlen)
  · rename_i h
    exact absurd hrecv (h b got rest)

theorem read_head_of_piece {b : UInt8} {got : Bytes} (hlen : (b :: got).length ≤ 65536)
    (hblank : (find blank_line (chars (b :: got))).isSome = true) (rest : Socket) :
    read_head [] (.data (b :: got) :: rest) = some (chars (b :: got), rest) := by
  have hnil : ¬ (find blank_line ([] : Str)).isSome = true := by decide
  have hrecv : recv 65536 (.data (b :: got) :: rest) = (some (b :: got), rest) := by
    rw [recv, List.take_of_length_le hlen, if_pos hlen]
  have hshort : ([] ++ chars (b :: got)).length ≤ 131072 := by
    rw [List.nil_append, chars, List.length_map]
    omega
  rw [read_head_recv hnil hrecv hshort, List.nil_append, read_head, if_pos hblank]

/-! ## When nothing escapes -/

/-- The bytes of a request that arrives in full. -/
def whole (raw : Str) (client : Socket) : Option Str :=
  if raw.length < needed raw then fill (needed raw) raw client else some raw

/-- The request of a client that sends all of it. -/
def request (client : Socket) : Option HttpRequest := do
  let (raw, rest) ← read_head [] client
  let all ← whole raw rest
  some (parse_request all (content_length (header_str raw)))

/-- The memory for a request that is still to come in can be reserved. -/
def MemoryGranted (alloc : Nat → Option Thrown) (client : Socket) : Prop :=
  ∀ raw rest, read_head [] client = some (raw, rest) → raw.length < needed raw → alloc (needed raw) = none

/-! ### Sending -/

/-- What comes of the sends behind the go-ahead. -/
def later (header_str : Str) (outs : List Send) : List Send := if expects header_str then outs.tail else outs

/-- A `send` finds the client gone before so many bytes are sent. -/
def Breaks (outs : List Send) (len : Nat) : Prop :=
  ∃ (pre : List Nat) (post : List Send), outs = pre.map .took ++ .broken :: post ∧ 0 ∉ pre ∧ pre.sum < len

/-- The client is there for the go-ahead and until all of the answer is sent. -/
def Stays (routes : List (Str × RouteHandler)) (outs : List Send) (client : Socket) : Prop :=
  ∀ raw rest, read_head [] client = some (raw, rest) →
    (expects (header_str raw) = true → outs.head? ≠ some .broken) ∧
      ∀ req, request client = some req → ∀ resp, respond routes req = .ok resp →
        ¬Breaks (later (header_str raw) outs) (build_response resp).length

theorem send_go_ahead_none {header_str : Str} {outs : List Send}
    (h : ¬(expects header_str = true → outs.head? ≠ some .broken)) : send_go_ahead header_str outs = none := by
  obtain ⟨hexpects, hbroken⟩ := Classical.not_imp.1 h
  obtain ⟨outs, rfl⟩ := List.head?_eq_some_iff.1 (not_not.1 hbroken)
  rw [send_go_ahead, if_pos hexpects]
  rfl

theorem send_go_ahead_some {header_str : Str} {outs : List Send}
    (h : expects header_str = true → outs.head? ≠ some .broken) :
    ∃ sent, send_go_ahead header_str outs = some (sent, later header_str outs) := by
  rw [send_go_ahead.eq_def, later]
  by_cases hexpects : expects header_str
  · rw [if_pos hexpects, if_pos hexpects]
    cases outs with
    | nil => exact ⟨_, rfl⟩
    | cons out outs =>
      cases out with
      | took n => exact ⟨_, rfl⟩
      | failed => exact ⟨_, rfl⟩
      | broken => exact absurd rfl (h hexpects)
  · rw [if_neg hexpects, if_neg hexpects]
    exact ⟨_, rfl⟩

theorem write_all_broken_iff (outs : List Send) (data : Str) :
    (write_all outs data).2 = .broken ↔ Breaks outs data.length := by
  -- by the sends, each of which leaves less of the data
  induction outs generalizing data with
  | nil =>
    refine iff_of_false ?_ (by simp [Breaks])
    cases data <;> simp [write_all]
  | cons out outs ih =>
    cases data with
    | nil => simp [write_all, Breaks]
    | cons c data =>
      cases out with
      | took n =>
        rw [write_all]
        by_cases hn : n = 0
        · subst hn
          refine iff_of_false (by simp) ?_
          rintro ⟨pre, post, heq, hpos, -⟩
          cases pre with
          | nil => simp at heq
          | cons k pre =>
            obtain ⟨⟨rfl⟩, -⟩ := List.cons.inj heq
            simp at hpos
        · rw [if_neg hn]
          simp only [ih, List.length_drop, Breaks]
          constructor
          · rintro ⟨pre, post, rfl, hpos, hsum⟩
            refine ⟨n :: pre, post, rfl, by simp [hpos, Ne.symm hn], ?_⟩
            rw [List.sum_cons]
            omega
          · rintro ⟨pre, post, heq, hpos, hsum⟩
            cases pre with
            | nil => simp at heq
            | cons k pre =>
              obtain ⟨⟨rfl⟩, rfl⟩ := List.cons.inj heq
              rw [List.sum_cons] at hsum
              simp only [List.mem_cons, not_or] at hpos
              exact ⟨pre, post, rfl, hpos.2, by omega⟩
      | failed =>
        refine iff_of_false (by simp [write_all]) ?_
        rintro ⟨pre, post, heq, -⟩
        cases pre <;> simp at heq
      | broken => exact iff_of_true rfl ⟨[], outs, rfl, by simp, by simp⟩

section Closes
variable {alloc : Nat → Option Thrown} {routes : List (Str × RouteHandler)} {outs : List Send} {client rest : Socket}
  {raw : Str}

/-- An answer is sent unless the client goes. -/
theorem answer_closes_iff {sent : Str} {resp : Except Thrown HttpResponse} :
    (∃ sent', answer sent outs resp = .closed sent') ↔
      ∃ response, resp = .ok response ∧ ¬Breaks outs (build_response response).length := by
  cases resp with
  | error e => simp [answer]
  | ok response =>
    have hbreaks := write_all_broken_iff outs (build_response response)
    simp only [Except.ok.injEq, exists_eq_left', ← hbreaks, answer]
    generalize write_all outs (build_response response) = w
    obtain ⟨out, written⟩ := w
    cases written <;> simp

/-- With the memory granted, reading the body is a matter of the socket alone. -/
theorem read_body_of_granted (h : raw.length < needed raw → alloc (needed raw) = none) :
    read_body alloc raw client = .ok (whole raw client) := by
  unfold read_body whole
  generalize needed raw = n at h ⊢
  by_cases hlt : raw.length < n
  · rw [if_pos hlt, if_pos hlt, read_exact, h hlt]
  · rw [if_neg hlt, if_neg hlt]

theorem read_body_of_refused (h : ¬(raw.length < needed raw → alloc (needed raw) = none)) :
    ∃ e, read_body alloc raw client = .error e := by
  unfold read_body
  generalize needed raw = n at h ⊢
  obtain ⟨hlt, hnone⟩ := Classical.not_imp.1 h
  obtain ⟨e, he⟩ := Option.ne_none_iff_exists'.1 hnone
  rw [if_pos hlt, read_exact, he]
  exact ⟨e, rfl⟩

/-- Once the header is there, the connection closes if the client stays, the memory
is granted and the handler returns. -/
theorem closes_iff_of_read_head (h : read_head [] client = some (raw, rest)) :
    (∃ sent, handle_connection alloc routes outs client = .closed sent) ↔
      (raw.length < needed raw → alloc (needed raw) = none) ∧
        (∀ req, request client = some req → Returns (respond routes req)) ∧
        (expects (header_str raw) = true → outs.head? ≠ some .broken) ∧
        ∀ req, request client = some req → ∀ resp, respond routes req = .ok resp →
          ¬Breaks (later (header_str raw) outs) (build_response resp).length := by
  have hrequest : request client =
      (whole raw rest).map fun all => parse_request all (content_length (header_str raw)) := by
    rw [request, h]
    cases hall : whole raw rest <;> simp [hall]
  rw [hrequest, handle_connection, h]
  dsimp only
  -- in the order of the source: the go-ahead, the memory, the body, the handler, the answer
  by_cases hstays : expects (header_str raw) = true → outs.head? ≠ some .broken
  · obtain ⟨sent, hsent⟩ := send_go_ahead_some hstays
    rw [hsent, and_iff_right hstays]
    dsimp only
    generalize later (header_str raw) outs = outs
    generalize content_length (header_str raw) = len
    by_cases hmem : raw.length < needed raw → alloc (needed raw) = none
    · rw [read_body_of_granted hmem, and_iff_right hmem]
      cases whole raw rest with
      | none => simp
      | some all =>
        simp only [Option.map_some, Option.some.injEq, forall_eq', answer_closes_iff]
        cases respond routes (parse_request all len) with
        | error e => simp
        | ok resp => simp
    · refine iff_of_false ?_ fun hs => hmem hs.1
      obtain ⟨e, he⟩ := read_body_of_refused hmem
      rw [he]
      simp
  · rw [send_go_ahead_none hstays]
    exact iff_of_false (by simp) fun hs => hstays hs.2.2.1

theorem handle_connection_closes_iff :
    (∃ sent, handle_connection alloc routes outs client = .closed sent) ↔
      MemoryGranted alloc client ∧ (∀ req, request client = some req → Returns (respond routes req)) ∧
        Stays routes outs client := by
  unfold MemoryGranted Stays
  cases h : read_head [] client with
  | none => simp [handle_connection, request, h]
  | some p =>
    obtain ⟨raw, rest⟩ := p
    rw [closes_iff_of_read_head h]
    simp only [Option.some.injEq, Prod.mk.injEq, and_imp, forall_apply_eq_imp_iff, forall_eq']

end Closes

end ApiServer

end DevSys
