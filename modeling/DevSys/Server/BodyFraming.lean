import DevSys.Server.HeaderFields
/-!
# The length and the body

The length of the body is read behind the first `content-length:` that is
anywhere in the header, with `stoull`. When it is that of the field
`Content-Length`, and when the body is cut where the length says.
-/
open Cxx Net Lines

namespace DevSys

namespace BodyFraming
open ApiServer

/-! ## What a header declares -/

def blank (c : Char) : Bool := c ∈ [' ', '\t']

/-- A decimal number with blanks around it. -/
def Decimal (text : Str) (n : Nat) : Prop :=
  ∃ lead ds trail : Str, text = lead ++ (ds ++ trail) ∧ (∀ c ∈ lead, blank c = true) ∧ (∀ c ∈ trail, blank c = true) ∧
    ds ≠ [] ∧ (∀ c ∈ ds, c.isDigit) ∧ ofDigits ds = n

/-- The value of the field `Content-Length`, or zero without the field. When the
field is repeated, it has the same value each time. -/
def Declares (header : Str) (n : Nat) : Prop :=
  if field_values "content-length".toList header = [] then n = 0
  else ∀ value ∈ field_values "content-length".toList header, Decimal value n

/-- The place behind the blank line. -/
def body_start (raw : Str) : Nat := header_end raw + 4

/-- A request whose header has come in: its length is the declared one, and the
body of what is routed is that many bytes behind the blank line. -/
structure Framed (client : Socket) (raw : Str) : Prop where
  length : ∀ n, Declares (header_str raw) n → content_length (header_str raw) = n
  body : ∀ req, request client = some req →
    req.body <+: (chars (bytes client)).drop (body_start raw) ∧ req.body.length = content_length (header_str raw)
  no_wrap : body_start raw + content_length (header_str raw) < 2 ^ 64

/-! ## Receiving keeps the text -/

theorem recv_bytes {n : Nat} {s s' : Socket} {got : Bytes} (h : recv n s = (some got, s')) : bytes s = got ++ bytes s' := by
  cases s with
  | nil =>
    cases h
    rfl
  | cons e s =>
    cases e with
    | timeout => cases h
    | data piece =>
      obtain ⟨rfl, rfl⟩ : piece.take n = got ∧ _ = s' := by simpa [recv] using h
      split
      · rename_i hlen
        rw [List.take_of_length_le hlen]
        rfl
      · rw [bytes, bytes, ← List.append_assoc, List.take_append_drop]

/-- What has come in, and what is still to come. -/
def text (raw : Str) (client : Socket) : Str := raw ++ chars (bytes client)

theorem text_recv {n : Nat} {s s' : Socket} {got : Bytes} (raw : Str) (h : recv n s = (some got, s')) :
    text raw s = text (raw ++ chars got) s' := by
  rw [text, text, recv_bytes h, chars, List.map_append, List.append_assoc]
  rfl

theorem read_head_text {raw raw' : Str} {client rest : Socket} (h : read_head raw client = some (raw', rest)) :
    (find blank_line raw').isSome ∧ raw'.length ≤ max raw.length 131072 ∧ text raw' rest = text raw client := by
  fun_induction read_head raw client with
  | case1 raw client hblank =>
    cases h
    exact ⟨hblank, Nat.le_max_left _ _, rfl⟩
  | case2 => cases h
  | case3 raw client _ b got s hrecv more hlen ih =>
    obtain ⟨hblank, hle, htext⟩ := ih h
    refine ⟨hblank, ?_, htext.trans (text_recv raw hrecv).symm⟩
    omega
  | case4 => cases h

theorem fill_text {needed : Nat} {buf all : Str} {client : Socket} (h : fill needed buf client = some all) :
    needed ≤ all.length ∧ buf <+: all ∧ all <+: text buf client := by
  fun_induction fill needed buf client with
  | case1 buf client _ b got s hrecv ih =>
    obtain ⟨hlen, hbuf, hall⟩ := ih h
    rw [← text_recv buf hrecv] at hall
    exact ⟨hlen, (List.prefix_append _ _).trans hbuf, hall⟩
  | case2 => cases h
  | case3 buf client hlen =>
    cases h
    exact ⟨Nat.le_of_not_lt hlen, List.prefix_rfl, List.prefix_append _ _⟩

theorem whole_text {raw all : Str} {client : Socket} (h : whole raw client = some all) :
    needed raw ≤ all.length ∧ raw <+: all ∧ all <+: text raw client := by
  unfold whole at h
  split at h
  · exact fill_text h
  · rename_i hlen
    cases h
    exact ⟨Nat.le_of_not_lt hlen, List.prefix_rfl, List.prefix_append _ _⟩

/-! ## The body behind the blank line -/

/-- When nothing wraps around, the body has the length that is read. -/
theorem request_body_cut {raw all : Str} {n : Nat} (hblank : (find blank_line raw).isSome) (hraw : raw <+: all)
    (hwrap : body_start raw + n < 2 ^ 64) (hlen : body_start raw + n ≤ all.length) :
    request_body all n = (all.drop (body_start raw)).take n := by
  obtain ⟨i, hi⟩ := Option.isSome_iff_exists.1 hblank
  obtain ⟨t, rfl⟩ := hraw
  have hend : body_start raw = i + 4 := by rw [body_start, header_end, hi, Option.getD_some]
  rw [hend] at hwrap hlen ⊢
  rw [request_body, find_append_left (by decide) hi]
  dsimp only
  rw [Nat.mod_eq_of_lt hwrap]
  by_cases hn : n = 0
  · subst hn
    rfl
  · rw [if_pos ⟨Nat.pos_of_ne_zero hn, hlen⟩]

theorem body_of_no_wrap {client rest : Socket} {raw : Str} (h : read_head [] client = some (raw, rest))
    (hwrap : body_start raw + content_length (header_str raw) < 2 ^ 64) (req : HttpRequest)
    (hreq : request client = some req) :
    req.body <+: (chars (bytes client)).drop (body_start raw) ∧ req.body.length = content_length (header_str raw) := by
  obtain ⟨hblank, -, htext⟩ := read_head_text h
  obtain ⟨all, hall, rfl⟩ : ∃ all, whole raw rest = some all ∧ parse_request all (content_length (header_str raw)) = req := by
    simpa [request, h, Option.bind_eq_some_iff] using hreq
  obtain ⟨hneeded, hraw, hstarts⟩ := whole_text hall
  rw [needed, ← body_start, Nat.mod_eq_of_lt hwrap] at hneeded
  have hbody : (parse_request all (content_length (header_str raw))).body =
      (all.drop (body_start raw)).take (content_length (header_str raw)) := request_body_cut hblank hraw hwrap hneeded
  rw [htext] at hstarts
  rw [hbody]
  refine ⟨(List.take_prefix _ _).trans (hstarts.drop _), ?_⟩
  rw [List.length_take, List.length_drop]
  omega

/-! ## The number -/

/-- The text that is read as a number, behind an occurrence of `content-length:`. -/
def length_text (header : Str) (pos : Nat) : Str := ((header.drop (pos + 15)).dropWhile (· = ' ')).takeWhile (· ≠ '\r')

/-- What is behind the value of a field. -/
def LineEnd (rest : Str) : Prop := ∀ c ∈ rest.head?, c = '\r' ∨ c = '\n'

theorem isspace_of_blank {c : Char} (h : blank c = true) : isspace c = true := by
  simp only [blank, List.mem_cons, List.not_mem_nil, or_false, decide_eq_true_eq] at h
  rcases h with rfl | rfl <;> decide

/-- A decimal number in a line is read up to its last digit. -/
theorem strtol_line {value rest : Str} {n : Nat} (h : Decimal value n) (hrest : LineEnd rest) :
    strtol (((value ++ rest).dropWhile (· = ' ')).takeWhile (· ≠ '\r')) = .ok n := by
  obtain ⟨lead, ds, trail, rfl, hlead, htrail, hne, hds, rfl⟩ := h
  obtain ⟨c, cs, rfl⟩ := List.exists_cons_of_ne_nil hne
  have hdrop : (lead ++ (c :: cs ++ trail) ++ rest).dropWhile (· = ' ') =
      lead.dropWhile (· = ' ') ++ (c :: cs ++ (trail ++ rest)) := by
    have hc : decide (c = ' ') = false := by
      have hdigit := hds c List.mem_cons_self
      exact decide_eq_false fun hc => by simp [hc] at hdigit
    simpa using dropWhile_append_stop lead (cs ++ (trail ++ rest)) hc
  have hno_cr {d : Char} (hd : blank d = true ∨ d.isDigit) : decide (d ≠ '\r') = true := by
    refine decide_eq_true ?_
    rintro rfl
    simp [blank] at hd
  have hlead' : ∀ d ∈ lead.dropWhile (· = ' '), blank d = true := fun d hd => hlead d ((List.dropWhile_suffix _).subset hd)
  rw [hdrop, List.takeWhile_append_of_pos fun d hd => hno_cr (.inl (hlead' d hd)),
    List.takeWhile_append_of_pos fun d hd => hno_cr (.inr (hds d hd)),
    List.takeWhile_append_of_pos fun d hd => hno_cr (.inl (htrail d hd))]
  refine strtol_blanks_digits (fun d hd => isspace_of_blank (hlead' d hd)) hne hds fun d hd => ?_
  cases trail with
  | cons b trail =>
    cases hd
    have hb := htrail d List.mem_cons_self
    simp only [blank, List.mem_cons, List.not_mem_nil, or_false, decide_eq_true_eq] at hb
    rcases hb with rfl | rfl <;> decide
  | nil =>
    cases rest with
    | nil => cases hd
    | cons e rest =>
      rcases hrest e rfl with rfl | rfl
      · cases hd
      · cases hd
        decide

/-! ## The length is that of the field -/

/-- A field starts at this place of the header. -/
def StartsField (header : Str) (pos : Nat) : Prop :=
  (header.take pos).getLast? = some '\n' ∧ ∀ l ∈ (getlineAll '\n' (header.take pos)).tail, chomp l ≠ []

/-- The value of the field that starts at the first `content-length:`. -/
theorem field_value_at {header : Str} {pos : Nat} (hfind : find "content-length:".toList (header.map Char.toLower) = some pos)
    (hstart : StartsField header pos) :
    ∃ value rest, header.drop (pos + 15) = value ++ rest ∧ LineEnd rest ∧
      value ∈ field_values "content-length".toList header := by
  obtain ⟨field, value, hs, hname⟩ : ∃ field value, header.drop pos = field ++ ':' :: value ∧
      field.map Char.toLower = "content-length".toList := by
    have hstarts := prefix_of_find hfind
    rw [← List.map_drop] at hstarts
    exact exists_field_of_lower hstarts
  have hlen : field.length = 14 := by simpa using congrArg List.length hname
  have hno {d : Char} (hd : d ∉ "content-length".toList) (hcase : Caseless d) : d ∉ field :=
    fun h => hd (hname ▸ (mem_map_toLower_iff hcase).2 h)
  have hvalue : header.drop (pos + 15) = value := by
    have hcut : field ++ ':' :: value = field ++ [':'] ++ value := by simp
    rw [← List.drop_drop, hs, hcut, List.drop_left' (by simp [hlen])]
  -- the match is the name of a field that starts a line
  have hmem : chomp (value.takeWhile (· ≠ '\n')) ∈ field_values "content-length".toList header := by
    obtain ⟨a, ha⟩ := List.getLast?_eq_some_iff.1 hstart.1
    have hsplit : header = a ++ '\n' :: (field ++ ':' :: value) := by
      conv_lhs => rw [← List.take_append_drop pos header, ha, List.append_assoc, hs]
      rfl
    have hlines := hstart.2
    rw [ha] at hlines
    rw [hsplit, ← hname]
    exact field_value_behind value hlines (hno (by decide) (by decide)) (hno (by decide) (by decide))
  obtain ⟨cr, hcr, hend⟩ := eq_chomp_append (value.takeWhile (· ≠ '\n'))
  refine ⟨chomp (value.takeWhile (· ≠ '\n')), cr ++ value.dropWhile (· ≠ '\n'), ?_, ?_, ?_⟩
  · rw [hvalue, ← List.append_assoc, ← hcr, List.takeWhile_append_dropWhile]
  · rcases hend with rfl | rfl
    · intro c hc
      have hstop := List.head?_dropWhile_not (· ≠ '\n') value
      rw [List.nil_append] at hc
      rw [hc] at hstop
      exact .inr (by simpa using hstop)
    · intro c hc
      cases hc
      exact .inl rfl
  · exact hmem

/-- The length read from a text; zero when there is no number, or one that is too large. -/
def number (text : Str) : Nat := (stoull text).toOption.getD 0

theorem number_of_strtol {text : Str} {z : Int} (h : strtol text = .ok z) :
    number text = if z.natAbs < 2 ^ 64 then (z % 2 ^ 64).toNat else 0 := by
  unfold number stoull
  rw [h]
  simp only [Bind.bind, Except.bind]
  split <;> rfl

theorem number_of_error {text : Str} {e : Exn} (h : strtol text = .error e) : number text = 0 := by
  unfold number stoull
  rw [h]
  rfl

theorem content_length_of_find {header : Str} {pos : Nat}
    (h : find "content-length:".toList (header.map Char.toLower) = some pos) :
    content_length header = number (length_text header pos) := by
  rw [content_length, h]
  dsimp only
  unfold number length_text
  cases stoull (((header.drop (pos + 15)).dropWhile (· = ' ')).takeWhile (· ≠ '\r')) <;> rfl

/-- What the first `content-length:` of a request has to be. -/
structure Counted (raw : Str) (pos : Nat) : Prop where
  in_field : StartsField (header_str raw) pos → ∀ n, Declares (header_str raw) n → n < 2 ^ 64
  /-- Text that is no field has the declared length behind it by chance. -/
  elsewhere : ¬StartsField (header_str raw) pos → ∀ n, Declares (header_str raw) n →
    number (length_text (header_str raw) pos) = n
  /-- A minus sign counts down from 2^64. -/
  no_wrap : ∀ z, strtol (length_text (header_str raw) pos) = .ok z →
    ¬(-(body_start raw : Int) ≤ z ∧ z < 0) ∧ ¬(2 ^ 64 - (body_start raw : Int) ≤ z ∧ z < 2 ^ 64)

theorem number_no_wrap_iff (text : Str) {b : Nat} (hb : b < 2 ^ 63) :
    b + number text < 2 ^ 64 ↔
      ∀ z, strtol text = .ok z → ¬(-(b : Int) ≤ z ∧ z < 0) ∧ ¬(2 ^ 64 - (b : Int) ≤ z ∧ z < 2 ^ 64) := by
  cases h : strtol text with
  | error e =>
    rw [number_of_error h]
    refine iff_of_true (by omega) nofun
  | ok z =>
    rw [number_of_strtol h]
    constructor
    · rintro hsum _ ⟨⟩
      split at hsum <;> omega
    · intro hz
      obtain ⟨hneg, hbig⟩ := hz z rfl
      split <;> omega

/-- Behind the start of a field, its decimal value is read, unless it is too large. -/
theorem content_length_in_field {header : Str} {pos n : Nat}
    (hfind : find "content-length:".toList (header.map Char.toLower) = some pos) (hstart : StartsField header pos)
    (hn : Declares header n) : content_length header = n ↔ n < 2 ^ 64 := by
  obtain ⟨value, rest, hdrop, hend, hvalue⟩ := field_value_at hfind hstart
  have hdecimal : Decimal value n := by
    unfold Declares at hn
    rw [if_neg (List.ne_nil_of_mem hvalue)] at hn
    exact hn value hvalue
  have hread : strtol (length_text header pos) = .ok n := by
    rw [length_text, hdrop]
    exact strtol_line hdecimal hend
  rw [content_length_of_find hfind, number_of_strtol hread]
  split <;> omega

theorem body_start_le {client rest : Socket} {raw : Str} (h : read_head [] client = some (raw, rest)) :
    body_start raw ≤ 131072 := by
  obtain ⟨hblank, hlen, -⟩ := read_head_text h
  obtain ⟨i, hi⟩ := Option.isSome_iff_exists.1 hblank
  have hoccurs := (prefix_of_find hi).length_le
  rw [body_start, header_end, hi, Option.getD_some]
  rw [List.length_drop] at hoccurs
  have hfour : blank_line.length = 4 := rfl
  have hnil : ([] : Str).length = 0 := rfl
  omega

/-- Without the text in the header there is no field either. -/
theorem content_length_of_absent {header : Str} {n : Nat}
    (hfind : find "content-length:".toList (header.map Char.toLower) = none) (hn : Declares header n) :
    content_length header = n := by
  have hnone : field_values "content-length".toList header = [] :=
    List.eq_nil_iff_forall_not_mem.2 fun value hvalue => find_ne_none_of_field hvalue hfind
  unfold Declares at hn
  rw [if_pos hnone] at hn
  rw [content_length, hfind, hn]

theorem declared_iff_of_find {header : Str} {pos : Nat}
    (hfind : find "content-length:".toList (header.map Char.toLower) = some pos) :
    (∀ n, Declares header n → content_length header = n) ↔
      (StartsField header pos → ∀ n, Declares header n → n < 2 ^ 64) ∧
        (¬StartsField header pos → ∀ n, Declares header n → number (length_text header pos) = n) := by
  by_cases hstart : StartsField header pos
  · rw [imp_iff_right hstart, and_iff_left fun hnot => absurd hstart hnot]
    exact forall_congr' fun n => imp_congr_right (content_length_in_field hfind hstart)
  · rw [imp_iff_right hstart, and_iff_right fun hyes => absurd hyes hstart, content_length_of_find hfind]

theorem framed_of_read_head {client rest : Socket} {raw : Str} (h : read_head [] client = some (raw, rest)) :
    Framed client raw ↔
      ∀ pos, find "content-length:".toList ((header_str raw).map Char.toLower) = some pos → Counted raw pos := by
  have hend := body_start_le h
  cases hfind : find "content-length:".toList ((header_str raw).map Char.toLower) with
  | none =>
    have hzero : content_length (header_str raw) = 0 := by rw [content_length, hfind]
    have hsum : body_start raw + content_length (header_str raw) < 2 ^ 64 := by omega
    refine iff_of_true ⟨fun n hn => content_length_of_absent hfind hn, body_of_no_wrap h hsum, hsum⟩ ?_
    intro pos hpos
    cases hpos
  | some pos =>
    have hlength := declared_iff_of_find hfind
    have hwrap := number_no_wrap_iff (length_text (header_str raw) pos) (b := body_start raw) (by omega)
    rw [← content_length_of_find hfind] at hwrap
    constructor
    · rintro ⟨hdeclared, -, hsum⟩ _ ⟨⟩
      exact ⟨(hlength.1 hdeclared).1, (hlength.1 hdeclared).2, hwrap.1 hsum⟩
    · intro hcounted
      have hpos := hcounted pos rfl
      have hsum := hwrap.2 hpos.no_wrap
      exact ⟨hlength.2 ⟨hpos.in_field, hpos.elsewhere⟩, body_of_no_wrap h hsum, hsum⟩

/-- Every request that comes in has the declared length, and a body of that length
behind the blank line, exactly if each one's first `content-length:` is counted. -/
theorem framed_iff (client : Socket) :
    (∀ raw rest, read_head [] client = some (raw, rest) → Framed client raw) ↔
      ∀ raw rest, read_head [] client = some (raw, rest) →
        ∀ pos, find "content-length:".toList ((header_str raw).map Char.toLower) = some pos → Counted raw pos :=
  forall₂_congr fun _ _ => forall_congr' framed_of_read_head

/-- Another header has a name that ends alike. -/
def foreign_length : Bytes :=
  "POST /api/v1/orders HTTP/1.1\r\nX-Content-Length: 5\r\nContent-Length: 2\r\n\r\n\x7b\x7d".toList.map
    fun c => UInt8.ofNat c.toNat

/-- Five bytes are waited for where two are declared. -/
theorem foreign_length_not_framed :
    ¬∀ raw rest, read_head [] [.data foreign_length] = some (raw, rest) → Framed [.data foreign_length] raw := by
  intro h
  have hhead : read_head [] [.data foreign_length] = some (chars foreign_length, []) :=
    read_head_of_piece (by decide) (by decide +kernel) []
  have hvalues : field_values "content-length".toList (header_str (chars foreign_length)) = [[' ', '2']] := by
    decide +kernel
  have hdeclares : Declares (header_str (chars foreign_length)) 2 := by
    unfold Declares
    rw [hvalues, if_neg (List.cons_ne_nil _ _)]
    intro value hvalue
    obtain rfl := List.mem_singleton.1 hvalue
    exact ⟨[' '], ['2'], [], rfl, by simp [blank], nofun, List.cons_ne_nil _ _, by simp, rfl⟩
  have hread : content_length (header_str (chars foreign_length)) = 5 := by decide +kernel
  have htwo := (h _ _ hhead).length 2 hdeclares
  rw [hread] at htwo
  cases htwo

end BodyFraming

end DevSys
