import DevSys.Server.BodyFraming
/-!
# A request comes in as it was sent

However the bytes of a request are cut into pieces, the connection stays open
until the last one, and the request that is parsed is the one that was printed.
-/
open Cxx Net Lines

namespace DevSys

namespace ApiServer

/-! ## Reading -/

theorem chars_append (bs bs' : Bytes) : chars (bs ++ bs') = chars bs ++ chars bs' := List.map_append

theorem length_chars (bs : Bytes) : (chars bs).length = bs.length := List.length_map _

/-- The header comes in, with what comes along of the body. -/
theorem read_head_carries {text raw : Str} {client : Socket} {bytes : Bytes} {n : Nat}
    (hblank : find blank_line text = some n) (hn : n + 4 ≤ 65536) (htext : raw ++ chars bytes = text)
    (hs : Carries client bytes) :
    ∃ raw' rest bytes', read_head raw client = some (raw', rest) ∧ n + 4 ≤ raw'.length ∧
      raw' ++ chars bytes' = text ∧ Carries rest bytes' := by
  -- by the number of bytes to come: each `recv` gets at least one
  induction hlen : bytes.length using Nat.strong_induction_on generalizing raw client bytes with
  | _ len ih =>
    subst htext
    have hraw := find_of_append (by decide) hblank
    have hfour : blank_line.length = 4 := rfl
    rw [hfour] at hraw
    by_cases hall : n + 4 ≤ raw.length
    · rw [if_pos hall] at hraw
      refine ⟨raw, client, bytes, ?_, hall, rfl, hs⟩
      rw [read_head, hraw]
      rfl
    · rw [if_neg hall] at hraw
      have hbytes : bytes ≠ [] := by
        rintro rfl
        rw [show chars [] = [] from rfl, List.append_nil, hraw] at hblank
        cases hblank
      obtain ⟨got, rest, tail, hrecv, hgot, rfl, hrest⟩ := hs.recv hbytes (n := 65536) (by decide)
      have hgotlen := recv_length_le hrecv
      obtain ⟨b, got, rfl⟩ := List.exists_cons_of_ne_nil hgot
      have hshort : (raw ++ chars (b :: got)).length ≤ 131072 := by
        rw [List.length_append, length_chars]
        omega
      have htail : tail.length < len := by
        rw [← hlen, List.length_append, List.length_cons]
        omega
      rw [read_head_recv (by simp [hraw]) hrecv hshort]
      exact ih tail.length htail (by rw [chars_append, List.append_assoc]) hrest rfl

/-- The rest of a text comes in. -/
theorem fill_carries {text raw : Str} {client : Socket} {bytes : Bytes} (htext : raw ++ chars bytes = text)
    (hs : Carries client bytes) : fill text.length raw client = some text := by
  induction hlen : bytes.length using Nat.strong_induction_on generalizing raw client bytes with
  | _ len ih =>
    by_cases hbytes : bytes = []
    · subst hbytes
      rw [show chars [] = [] from rfl, List.append_nil] at htext
      rw [fill, htext, dif_neg (Nat.lt_irrefl _)]
    · have hpos := List.length_pos_iff.2 hbytes
      have htextlen : text.length = raw.length + bytes.length := by
        rw [← htext, List.length_append, length_chars]
      obtain ⟨got, rest, tail, hrecv, hgot, rfl, hrest⟩ :=
        hs.recv hbytes (n := min (text.length - raw.length) 65536) (by omega)
      obtain ⟨b, got, rfl⟩ := List.exists_cons_of_ne_nil hgot
      have htail : tail.length < len := by
        rw [← hlen, List.length_append, List.length_cons]
        omega
      rw [fill, dif_pos (by omega), hrecv]
      exact ih tail.length htail (by rw [← htext, chars_append, List.append_assoc]) hrest rfl

end ApiServer

/-! ## Printing -/

/-- What a client wants to send. -/
structure Message where
  method : Str
  path : Str
  query : Str := []
  headers : UMap Str Str
  body : Str := []

namespace Message
variable (m : Message)

/-- The path, and the query if there is one. -/
def target : Str := if m.query = [] then m.path else m.path ++ '?' :: m.query

def request_line : Str := m.method ++ ' ' :: (m.target ++ ' ' :: "HTTP/1.1".toList)

def header_line (name value : Str) : Str := name ++ ':' :: ' ' :: value

def header_lines : List Str := m.headers.entries.map fun e => header_line e.1 e.2

/-- The header block with its final blank line. -/
def head : Str := render (m.request_line :: m.header_lines) ++ ['\r', '\n']

def text : Str := m.head ++ m.body

end Message

/-- A request that is well-formed and counts its body, in one place. -/
structure SentRequest extends Message where
  method_word : method ≠ [] ∧ ∀ c ∈ method, isspace c = false
  path_word : path ≠ [] ∧ (∀ c ∈ path, isspace c = false) ∧ '?' ∉ path
  query_word : ∀ c ∈ query, isspace c = false
  header_names : ∀ e ∈ headers.entries, ':' ∉ e.1 ∧ '\r' ∉ e.1 ∧ '\n' ∉ e.1
  header_values : ∀ e ∈ headers.entries, '\r' ∉ e.2 ∧ '\n' ∉ e.2
  content_length : headers.lookup "Content-Length".toList = some (to_string body.length)
  /-- The text `content-length:` occurs in one place, in any letter case. -/
  one_length : ∀ i j, "content-length:".toList <+: (toMessage.head.map Char.toLower).drop i →
    "content-length:".toList <+: (toMessage.head.map Char.toLower).drop j → i = j
  small_head : toMessage.head.length ≤ 65536
  /-- The size of the whole is a `size_t`. -/
  counted : toMessage.text.length < 2 ^ 64

namespace SentRequest
open ApiServer Message
open BodyFraming (Decimal strtol_line length_text number_of_strtol content_length_of_find)
variable (m : SentRequest)

/-! ## The header block -/

theorem not_space_target : ∀ c ∈ m.target, isspace c = false := by
  intro c hc
  rw [target] at hc
  split at hc
  · exact m.path_word.2.1 c hc
  · rcases List.mem_append.1 hc with hc | hc
    · exact m.path_word.2.1 c hc
    · rcases List.mem_cons.1 hc with rfl | hc
      · decide
      · exact m.query_word c hc

theorem request_line_line : Line m.request_line := by
  have hno (d : Char) (hd : isspace d = true) (hne : d ≠ ' ') (hv : d ∉ "HTTP/1.1".toList) : d ∉ m.request_line := by
    have hmethod : d ∉ m.method := fun h => by simpa [hd] using m.method_word.2 d h
    have htarget : d ∉ m.target := fun h => by simpa [hd] using m.not_space_target d h
    rw [request_line]
    simp only [List.mem_append, List.mem_cons, not_or]
    exact ⟨hmethod, hne, htarget, hne, hv⟩
  refine ⟨?_, hno '\r' (by decide) (by decide) (by decide), hno '\n' (by decide) (by decide) (by decide)⟩
  rw [request_line]
  simp

theorem header_lines_line : ∀ l ∈ m.header_lines, Line l := by
  intro l hl
  obtain ⟨e, he, rfl⟩ := List.mem_map.1 hl
  obtain ⟨-, hncr, hnlf⟩ := m.header_names e he
  obtain ⟨hvcr, hvlf⟩ := m.header_values e he
  constructor <;> simp [header_line, hncr, hnlf, hvcr, hvlf]

theorem lines_line : ∀ l ∈ m.request_line :: m.header_lines, Line l :=
  List.forall_mem_cons.2 ⟨m.request_line_line, m.header_lines_line⟩

/-- Where the blank line starts. -/
def blank_at : Nat := (render (m.request_line :: m.header_lines)).length - 2

theorem blank_at_add : m.blank_at + 4 = m.head.length := by
  have hlen : 2 ≤ (render (m.request_line :: m.header_lines)).length := by
    rw [render_cons, List.length_append, List.length_cons, List.length_cons]
    omega
  rw [blank_at, head, List.length_append]
  simp only [List.length_cons, List.length_nil]
  omega

theorem find_blank_line : find blank_line m.text = some m.blank_at := by
  rw [text, head, List.append_assoc]
  exact find_blank (List.cons_ne_nil _ _) m.lines_line m.body

/-- The header in front of the blank line. -/
def header : Str := (render (m.request_line :: m.header_lines)).take m.blank_at

theorem head_eq : ∃ rest, m.head = m.header ++ rest := by
  refine ⟨(render (m.request_line :: m.header_lines)).drop m.blank_at ++ ['\r', '\n'], ?_⟩
  rw [header, ← List.append_assoc, List.take_append_drop]
  rfl

/-- The header of a text that starts like the request. -/
theorem header_str_eq {raw more : Str} (htext : raw ++ more = m.text) (hlen : m.head.length ≤ raw.length) :
    header_end raw = m.blank_at ∧ header_str raw = m.header := by
  have hblank := m.find_blank_line
  rw [← htext] at hblank
  have hadd := m.blank_at_add
  have hfind := find_of_append (by decide) hblank
  rw [if_pos (by rw [show blank_line.length = 4 from rfl]; omega)] at hfind
  have hend : header_end raw = m.blank_at := by rw [header_end, hfind, Option.getD_some]
  refine ⟨hend, ?_⟩
  have htake := congrArg (List.take m.blank_at) htext
  rw [text, head, List.append_assoc, List.take_append_of_le_length (by omega),
    List.take_append_of_le_length (by rw [blank_at]; omega)] at htake
  rw [header_str, hend, htake]
  rfl

/-! ## The length of the body -/

/-- A printed number behind a blank. -/
theorem decimal_to_string (n : Nat) : Decimal (' ' :: to_string n) n := by
  refine ⟨[' '], to_string n, [], by simp, by simp [BodyFraming.blank], nofun, to_string_ne_nil n, ?_, ofDigits_toDigits n⟩
  exact fun c hc => isDigit_of_mem_toDigits hc

/-- The search stops at the one line that counts the body. -/
theorem find_content_length : ∃ pre post : Str,
    m.header = pre ++ (header_line "Content-Length".toList (to_string m.body.length) ++ post) ∧
      (∀ c ∈ post.head?, c = '\r') ∧
      find "content-length:".toList (m.header.map Char.toLower) = some pre.length := by
  have hentry := UMap.mem_entries_iff.2 m.content_length
  have hline : header_line "Content-Length".toList (to_string m.body.length) ∈ m.request_line :: m.header_lines :=
    List.mem_cons_of_mem _ (List.mem_map_of_mem hentry)
  obtain ⟨pre, post, hheader, hpost⟩ := exists_around hline
  have hheader : m.header = pre ++ (header_line "Content-Length".toList (to_string m.body.length) ++ post) := hheader
  refine ⟨pre, post, hheader, hpost, ?_⟩
  obtain ⟨rest, hhead⟩ := m.head_eq
  -- an occurrence in the header is one in the header block
  have hup {i : Nat} (h : "content-length:".toList <+: (m.header.map Char.toLower).drop i) :
      "content-length:".toList <+: (m.head.map Char.toLower).drop i := by
    rw [hhead, List.map_append, List.drop_append]
    exact h.trans (List.prefix_append _ _)
  have hhere : "content-length:".toList <+: (m.header.map Char.toLower).drop pre.length := by
    rw [hheader, List.map_append, List.drop_left' (List.length_map _)]
    exact ⟨((' ' :: to_string m.body.length) ++ post).map Char.toLower, by simp [header_line]⟩
  obtain ⟨i, -, hfind⟩ := exists_find_of_prefix hhere
  obtain rfl := m.one_length i pre.length (hup (prefix_of_find hfind)) (hup hhere)
  exact hfind

/-- The length that is read is the one that was printed, as it is the only one. -/
theorem content_length_header : ApiServer.content_length m.header = m.body.length := by
  obtain ⟨pre, post, hheader, hpost, hfind⟩ := m.find_content_length
  have hdrop : m.header.drop (pre.length + 15) = ' ' :: to_string m.body.length ++ post := by
    rw [hheader, List.drop_length_add_append]
    rfl
  have hread : strtol (length_text m.header pre.length) = .ok (m.body.length : Int) := by
    rw [length_text, hdrop]
    exact strtol_line (decimal_to_string _) fun c hc => .inl (hpost c hc)
  have hcount : m.body.length < 2 ^ 64 := by
    have := m.counted
    rw [text, List.length_append] at this
    omega
  rw [content_length_of_find hfind, number_of_strtol hread]
  split <;> omega

/-! ## Parsing -/

theorem chomp_line (l : Str) : chomp (l ++ ['\r']) = l := by simp [chomp]

theorem next_word_of_word {w : Str} (hne : w ≠ []) (hw : ∀ c ∈ w, isspace c = false) (r : Str) :
    next_word (w ++ ' ' :: r) = (w, ' ' :: r) := by
  obtain ⟨c, cs, rfl⟩ := List.exists_cons_of_ne_nil hne
  have hstart : (c :: cs ++ ' ' :: r).dropWhile isspace = c :: cs ++ ' ' :: r := by
    rw [List.cons_append, List.dropWhile_cons_of_neg (by simp [hw c List.mem_cons_self])]
  have hword : ∀ d ∈ c :: cs, (!isspace d) = true := fun d hd => by simp [hw d hd]
  have hspace : isspace ' ' = true := by decide
  rw [next_word, hstart, List.takeWhile_append_of_pos hword, List.dropWhile_append_of_pos hword]
  simp [hspace]

theorem next_word_space (s : Str) : next_word (' ' :: s) = next_word s := by
  have hspace : isspace ' ' = true := by decide
  rw [next_word, List.dropWhile_cons_of_pos hspace, next_word]

theorem target_ne_nil : m.target ≠ [] := by
  rw [target]
  split
  · exact m.path_word.1
  · simp

theorem request_line_words : next_word m.request_line = (m.method, ' ' :: (m.target ++ ' ' :: "HTTP/1.1".toList)) ∧
    (next_word (' ' :: (m.target ++ ' ' :: "HTTP/1.1".toList))).1 = m.target := by
  refine ⟨next_word_of_word m.method_word.1 m.method_word.2 _, ?_⟩
  rw [next_word_space, next_word_of_word m.target_ne_nil m.not_space_target]

theorem split_query_target : split_query m.target = (m.path, m.query) := by
  rw [split_query, target]
  by_cases hquery : m.query = []
  · rw [if_pos hquery, find_single_eq_none_iff.2 m.path_word.2.2, hquery]
  · rw [if_neg hquery, find_single_append m.path_word.2.2]
    simp

theorem add_header_line {name : Str} (h : ':' ∉ name) (value : Str) (headers : UMap Str Str) :
    add_header headers (header_line name value) = UMap.set name value headers := by
  rw [add_header, header_line, find_single_append h]
  simp

/-- The headers end up under their names. -/
theorem lookup_headers (name : Str) :
    AList.lookup name (m.header_lines.foldl add_header ∅) = m.headers.lookup name := by
  have hfold : m.header_lines.foldl add_header ∅ =
      m.headers.entries.foldl (fun h e => UMap.set e.1 e.2 h) (∅ : UMap Str Str) := by
    rw [header_lines, List.foldl_map]
    refine List.foldl_ext _ _ _ fun h e he => ?_
    exact add_header_line (m.header_names e he).1 e.2 h
  rw [hfold]
  by_cases hname : name ∈ m.headers.entries.map Sigma.fst
  · obtain ⟨e, he, rfl, hlookup⟩ := UMap.lookup_foldl_set_of_mem Sigma.fst Sigma.snd m.headers.entries ∅ hname
    rw [hlookup]
    exact (UMap.mem_entries_iff.1 he).symm
  · rw [UMap.lookup_foldl_set_of_not_mem Sigma.fst Sigma.snd m.headers.entries ∅ hname]
    have hnone : m.headers.lookup name = none := AList.lookup_eq_none.2 hname
    rw [hnone]
    rfl

/-- The body between the blank line and the end. -/
theorem request_body_text : request_body m.text m.body.length = m.body := by
  have hlen : m.text.length = m.head.length + m.body.length := by rw [text, List.length_append]
  have hsum : (m.head.length + m.body.length) % 2 ^ 64 ≤ m.text.length := by
    rw [hlen]
    exact Nat.mod_le _ _
  rw [request_body, m.find_blank_line]
  simp only [m.blank_at_add]
  split
  · rw [text, List.drop_left, List.take_length]
  · rename_i hempty
    have hnone : ¬m.body.length > 0 := fun hpos => hempty ⟨hpos, hsum⟩
    exact (List.length_eq_zero_iff.1 (by omega)).symm

/-- The request that is parsed. -/
theorem parse_request_text :
    parse_request m.text m.body.length =
      { method := m.method, path := m.path, query := m.query, body := m.body
        headers := m.header_lines.foldl add_header ∅ } := by
  have hlines : getlineAll '\n' m.text =
      (m.request_line :: m.header_lines).map (· ++ ['\r']) ++ ['\r'] :: getlineAll '\n' m.body := by
    rw [text, head, List.append_assoc]
    exact getlineAll_render m.lines_line m.body
  have hheaders : ((m.header_lines.map (· ++ ['\r']) ++ ['\r'] :: getlineAll '\n' m.body).map chomp).takeWhile (· ≠ []) =
      m.header_lines := by
    have hchomp : m.header_lines.map (chomp ∘ (· ++ ['\r'])) = m.header_lines := by
      simp [Function.comp_def, chomp_line]
    rw [List.map_append, List.map_map, hchomp, List.takeWhile_append_of_pos fun l hl => by simpa using (m.header_lines_line l hl).ne_nil]
    simp [chomp]
  rw [parse_request, hlines]
  simp only [List.map_cons, List.cons_append, List.headD_cons, List.tail_cons, chomp_line, hheaders,
    m.request_line_words.1, m.request_line_words.2, m.split_query_target, m.request_body_text]

/-! ## The connection -/

/-- What has come in when the header is complete. -/
theorem read_head_text {client : Socket} {bytes : Bytes} (hbytes : chars bytes = m.text) (hs : Carries client bytes) :
    ∃ raw rest more, read_head [] client = some (raw, rest) ∧ m.head.length ≤ raw.length ∧
      raw ++ chars more = m.text ∧ Carries rest more := by
  have hsmall : m.blank_at + 4 ≤ 65536 := by
    rw [m.blank_at_add]
    exact m.small_head
  obtain ⟨raw, rest, more, hread, hlen, htext, hrest⟩ :=
    read_head_carries m.find_blank_line hsmall (by rw [List.nil_append, hbytes]) hs
  exact ⟨raw, rest, more, hread, by rwa [m.blank_at_add] at hlen, htext, hrest⟩

theorem needed_eq {raw more : Str} (htext : raw ++ more = m.text) (hlen : m.head.length ≤ raw.length) :
    needed raw = m.text.length := by
  obtain ⟨hend, hheader⟩ := m.header_str_eq htext hlen
  have htextlen : m.text.length = m.head.length + m.body.length := by rw [text, List.length_append]
  rw [needed, hend, hheader, m.content_length_header, m.blank_at_add, ← htextlen, Nat.mod_eq_of_lt m.counted]

/-- The whole request comes in. -/
theorem whole_eq {raw : Str} {rest : Socket} {more : Bytes} (htext : raw ++ chars more = m.text)
    (hlen : m.head.length ≤ raw.length) (hs : Carries rest more) : whole raw rest = some m.text := by
  rw [whole, m.needed_eq htext hlen]
  split
  · exact fill_carries htext hs
  · rename_i hall
    have hmore := congrArg List.length htext
    rw [List.length_append] at hmore
    have hnil : chars more = [] := List.length_eq_zero_iff.1 (by omega)
    rw [← htext, hnil, List.append_nil]

/-- How a connection ends that has come to a request. -/
def answered (outs : List Send) (header_str : Str) (resp : Except Thrown HttpResponse) : Exit :=
  match send_go_ahead header_str outs with
  | none => .sigpipe []
  | some (sent, outs) => answer sent outs resp

/-- However the bytes of a request are cut, and as long as there is memory for
them, the connection stays open until its last one, and the request that is
routed has the method, path, query, headers and body that were sent. -/
theorem round_trip (alloc : Nat → Option Thrown) (routes : List (Str × RouteHandler)) (outs : List Send) {client : Socket}
    {bytes : Bytes} (hbytes : chars bytes = m.text) (hs : Carries client bytes) (hmem : MemoryGranted alloc client) :
    ∃ req, request client = some req ∧ req.method = m.method ∧ req.path = m.path ∧ req.query = m.query ∧
      req.body = m.body ∧ (∀ name, req.headers.lookup name = m.headers.lookup name) ∧
      handle_connection alloc routes outs client = answered outs (header_str m.text) (respond routes req) := by
  have hall : m.head.length ≤ m.text.length := by
    rw [text, List.length_append]
    omega
  obtain ⟨-, hheader⟩ := m.header_str_eq (List.append_nil m.text) hall
  obtain ⟨raw, rest, more, hread, hlen, htext, hrest⟩ := m.read_head_text hbytes hs
  obtain ⟨-, hraw⟩ := m.header_str_eq htext hlen
  have hwhole := m.whole_eq htext hlen hrest
  refine ⟨parse_request m.text m.body.length, ?_, ?_⟩
  · rw [request, hread]
    simp [hwhole, hraw, m.content_length_header]
  · rw [m.parse_request_text]
    refine ⟨rfl, rfl, rfl, rfl, m.lookup_headers, ?_⟩
    rw [handle_connection, hread, hheader, answered]
    dsimp only
    rw [hraw]
    cases send_go_ahead m.header outs with
    | none => rfl
    | some p =>
      simp only [read_body_of_granted (hmem raw rest hread), hwhole, m.content_length_header, m.parse_request_text]

theorem occurs_once {pat s : Str} {k : Nat} (hpat : pat ≠ []) (h : ∀ i < s.length, pat <+: s.drop i → i = k) :
    ∀ i j, pat <+: s.drop i → pat <+: s.drop j → i = j := by
  have hk {i : Nat} (hi : pat <+: s.drop i) : i = k := by
    refine h i ?_ hi
    have hlen := hi.length_le
    have hpos := List.length_pos_iff.2 hpat
    rw [List.length_drop] at hlen
    omega
  exact fun i j hi hj => (hk hi).trans (hk hj).symm

/-- A request with a blank line for a body. -/
def sample : Message where
  method := "POST".toList
  path := "/orders".toList
  query := "cup=big".toList
  headers := AList.singleton "Content-Length".toList ['4']
  body := "\r\n\r\n".toList

theorem exists_sample : ∃ m : SentRequest, m.toMessage = sample :=
  ⟨{ sample with
      method_word := by simp [sample, isspace]
      path_word := by simp [sample, isspace]
      query_word := by simp [sample, isspace]
      header_names := by decide
      header_values := by decide
      content_length := by decide
      one_length := occurs_once (by decide) (k := 31) (by decide +kernel)
      small_head := by decide
      counted := by decide }, rfl⟩

def bytes_of (s : Str) : Bytes := s.map fun c => UInt8.ofNat c.toNat

/-- It comes in two pieces, which are cut in the first blank line. -/
theorem round_trip_in_pieces :
    ∃ req, request [.data (bytes_of (sample.text.take 50)), .data (bytes_of (sample.text.drop 50))] = some req ∧
      req.body = "\r\n\r\n".toList := by
  have hs : Carries [.data (bytes_of (sample.text.take 50)), .data (bytes_of (sample.text.drop 50))]
      (bytes_of sample.text) :=
    ⟨[bytes_of (sample.text.take 50), bytes_of (sample.text.drop 50)], by decide +kernel, by decide +kernel, rfl⟩
  obtain ⟨m, hm⟩ := exists_sample
  have hbytes : chars (bytes_of sample.text) = m.text := by
    rw [hm]
    decide +kernel
  obtain ⟨req, hreq, -, -, -, hbody, -⟩ := m.round_trip (fun _ => none) [] [] hbytes hs fun _ _ _ _ => rfl
  exact ⟨req, hreq, hbody.trans (congrArg Message.body hm)⟩

end SentRequest

end DevSys
