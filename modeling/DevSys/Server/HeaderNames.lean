import DevSys.Server.HeaderFields
/-!
# Letter case of header names

A request, and the same request with its header names in another letter case.
Both are parsed alike up to the headers, and these differ in the values that
are found under a name as it is spelled.
-/
open Cxx Lines

namespace DevSys

namespace HeaderNames
open ApiServer

/-- The request as it is parsed once it is complete. -/
def parsed (raw : Str) : HttpRequest := parse_request raw (content_length (header_str raw))

/-! ## Requests up to letter case -/

/-- A request line, header lines, and what follows. -/
def layout (first : Str) (lines : List Str) (rest : Str) : Str := first ++ (lines.flatMap ('\n' :: ·) ++ rest)

structure Laid (first : Str) (lines : List Str) (rest : Str) : Prop where
  first : '\n' ∉ first
  lines : ∀ l ∈ lines, '\n' ∉ l ∧ chomp l ≠ []
  rest : ∀ c ∈ rest.head?, c = '\n'

/-- The same line, or the same field but for the letter case of its name. -/
def SameField (l l' : Str) : Prop :=
  l = l' ∨ ∃ name name' value, ':' ∉ name ∧ name.map Char.toLower = name'.map Char.toLower ∧
    l = name ++ ':' :: value ∧ l' = name' ++ ':' :: value

/-- Header names are in another letter case. -/
inductive Recased : Str → Str → Prop where
  | intro {first : Str} {lines lines' : List Str} {rest : Str} (hlaid : Laid first lines rest)
      (hfields : List.Forall₂ SameField lines lines') : Recased (layout first lines rest) (layout first lines' rest)

theorem SameField.lower {l l' : Str} (h : SameField l l') : l.map Char.toLower = l'.map Char.toLower := by
  rcases h with rfl | ⟨name, name', value, -, hname, rfl, rfl⟩
  · rfl
  · rw [List.map_append, List.map_append, hname]

theorem SameField.line {l l' : Str} (h : SameField l l') (hl : '\n' ∉ l ∧ chomp l ≠ []) : '\n' ∉ l' ∧ chomp l' ≠ [] := by
  refine ⟨?_, ?_⟩
  · exact fun hmem => hl.1 ((mem_iff_of_map_toLower h.lower (by decide)).2 hmem)
  · rcases h with rfl | ⟨name, name', value, -, -, rfl, rfl⟩
    · exact hl.2
    · rw [chomp_append_cons _ (by decide)]
      simp

theorem Laid.recase {first : Str} {lines lines' : List Str} {rest : Str} (h : Laid first lines rest)
    (hfields : List.Forall₂ SameField lines lines') : Laid first lines' rest := by
  refine ⟨h.first, ?_, h.rest⟩
  have hlines := h.lines
  clear h
  induction hfields with
  | nil => nofun
  | cons hfield _ ih =>
    rw [List.forall_mem_cons] at hlines ⊢
    exact ⟨hfield.line hlines.1, ih hlines.2⟩

/-! ## The lines of a request -/

/-- How `getline` cuts a request: the request line, the header lines, the rest. -/
theorem getlineAll_layout {first : Str} {lines : List Str} {rest : Str} (h : Laid first lines rest) :
    (getlineAll '\n' (layout first lines rest)).headD [] = first ∧
      (getlineAll '\n' (layout first lines rest)).tail = lines ++ (getlineAll '\n' rest).tail := by
  induction lines generalizing first with
  | nil =>
    rw [layout, List.flatMap_nil, List.nil_append, List.nil_append]
    cases rest with
    | nil =>
      rw [List.append_nil]
      by_cases hnil : first = []
      · subst hnil
        exact ⟨rfl, rfl⟩
      · rw [getlineAll_last '\n' h.first hnil]
        exact ⟨rfl, rfl⟩
    | cons c rest =>
      obtain rfl := h.rest c rfl
      rw [getlineAll_cut '\n' first rest h.first]
      exact ⟨rfl, rfl⟩
  | cons l lines ih =>
    have hl := h.lines l List.mem_cons_self
    have hlaid : Laid l lines rest := ⟨hl.1, fun l' hl' => h.lines l' (List.mem_cons_of_mem _ hl'), h.rest⟩
    have hcut : layout first (l :: lines) rest = first ++ '\n' :: layout l lines rest := by simp [layout]
    obtain ⟨hhead, htail⟩ := ih hlaid
    rw [hcut, getlineAll_cut '\n' first _ h.first]
    refine ⟨rfl, ?_⟩
    -- an empty rest would have no first line at all
    have hne : layout l lines rest ≠ [] := by
      have hlne : l ≠ [] := by
        rintro rfl
        exact hl.2 rfl
      simp [layout, hlne]
    obtain ⟨piece, pieces, hpieces⟩ := List.exists_cons_of_ne_nil (getlineAll_ne_nil '\n' hne)
    rw [hpieces] at hhead htail ⊢
    rw [List.headD_cons] at hhead
    rw [List.tail_cons] at htail ⊢
    rw [hhead, htail]
    rfl

theorem field_lines_layout {first : Str} {lines : List Str} {rest : Str} (h : Laid first lines rest) :
    field_lines (layout first lines rest) = lines.map chomp ++ field_lines rest := by
  have hpass : ∀ l ∈ lines.map chomp, decide (l ≠ []) = true := by
    intro l hl
    obtain ⟨piece, hpiece, rfl⟩ := List.mem_map.1 hl
    exact decide_eq_true (h.lines piece hpiece).2
  rw [field_lines, (getlineAll_layout h).2, List.map_append, List.takeWhile_append_of_pos hpass]
  rfl

/-- A request is laid out with all of its header lines. -/
theorem exists_lines (rest : Str) (h : ∀ c ∈ rest.head?, c = '\n') :
    ∃ (lines : List Str) (rest' : Str), rest = lines.flatMap ('\n' :: ·) ++ rest' ∧
      (∀ l ∈ lines, '\n' ∉ l ∧ chomp l ≠ []) ∧ (∀ c ∈ rest'.head?, c = '\n') ∧ field_lines rest' = [] := by
  induction hlen : rest.length using Nat.strong_induction_on generalizing rest with
  | _ n ih =>
    cases rest with
    | nil => exact ⟨[], [], rfl, nofun, nofun, rfl⟩
    | cons c text =>
      obtain rfl := h c rfl
      by_cases hblank : text = [] ∨ chomp (text.takeWhile (· ≠ '\n')) = []
      · refine ⟨[], '\n' :: text, rfl, nofun, h, ?_⟩
        have htail : (getlineAll '\n' ('\n' :: text)).tail = getlineAll '\n' text := rfl
        rw [field_lines, htail]
        by_cases htext : text = []
        · rw [htext]
          rfl
        · rw [getlineAll_eq_cons '\n' htext, List.map_cons, List.takeWhile_cons, hblank.resolve_left htext]
          rfl
      · rw [not_or] at hblank
        have hshort : (text.dropWhile (· ≠ '\n')).length < n := by
          rw [← hlen, List.length_cons]
          exact Nat.lt_succ_of_le (List.dropWhile_suffix _).length_le
        obtain ⟨lines, rest', hrest, hlines, hhead, hnone⟩ := ih _ hshort _ (fun _ => eq_of_head?_dropWhile) rfl
        refine ⟨text.takeWhile (· ≠ '\n') :: lines, rest', ?_, ?_, hhead, hnone⟩
        · rw [List.flatMap_cons, List.append_assoc, ← hrest, List.cons_append, List.takeWhile_append_dropWhile]
        · rw [List.forall_mem_cons]
          exact ⟨⟨fun hmem => by simpa using List.mem_takeWhile_imp hmem, hblank.2⟩, hlines⟩

theorem exists_layout (raw : Str) :
    ∃ first lines rest, raw = layout first lines rest ∧ Laid first lines rest ∧ field_lines rest = [] := by
  obtain ⟨lines, rest, hrest, hlines, hhead, hnone⟩ := exists_lines (raw.dropWhile (· ≠ '\n')) fun _ => eq_of_head?_dropWhile
  refine ⟨raw.takeWhile (· ≠ '\n'), lines, rest, ?_, ?_, hnone⟩
  · rw [layout, ← hrest, List.takeWhile_append_dropWhile]
  · exact ⟨fun hmem => by simpa using List.mem_takeWhile_imp hmem, hlines, hhead⟩

/-! ## What the letter case does not touch -/

theorem lower_lines_eq {lines lines' : List Str} (h : List.Forall₂ SameField lines lines') :
    (lines.flatMap ('\n' :: ·)).map Char.toLower = (lines'.flatMap ('\n' :: ·)).map Char.toLower := by
  induction h with
  | nil => rfl
  | cons hfield _ ih => simp only [List.flatMap_cons, List.map_append, List.map_cons, hfield.lower, ih]

theorem Recased.lower {raw raw' : Str} (h : Recased raw raw') : raw.map Char.toLower = raw'.map Char.toLower := by
  cases h with
  | @intro first lines lines' rest hlaid hfields =>
    rw [layout, layout, List.map_append, List.map_append, List.map_append, List.map_append, lower_lines_eq hfields]

theorem find_blank_of_lower {s s' : Str} (h : s.map Char.toLower = s'.map Char.toLower) :
    find blank_line s = find blank_line s' := by
  have hcase : ∀ c ∈ blank_line, Caseless c := by
    intro c hc
    have hmem : c ∈ ['\r', '\n', '\r', '\n'] := hc
    simp only [List.mem_cons, List.not_mem_nil, or_false] at hmem
    rcases hmem with rfl | rfl | rfl | rfl <;> decide
  rw [← find_map_toLower hcase, h, find_map_toLower hcase]

/-- The length is the same, as nothing that is read is a letter. -/
theorem content_length_of_lower {h h' : Str} (hlower : h.map Char.toLower = h'.map Char.toLower) :
    content_length h = content_length h' := by
  have hvalue (i : Nat) :
      stoull (((h.drop i).dropWhile (· = ' ')).takeWhile (· ≠ '\r')) =
        stoull (((h'.drop i).dropWhile (· = ' ')).takeWhile (· ≠ '\r')) := by
    have hcase {d : Char} (hd : Caseless d) (c : Char) : decide (c.toLower = d) = decide (c = d) :=
      decide_eq_decide.2 hd.toLower_eq_iff
    have hne {d : Char} (hd : Caseless d) (c : Char) : decide (c.toLower ≠ d) = decide (c ≠ d) :=
      decide_eq_decide.2 (not_congr hd.toLower_eq_iff)
    have hlow (s : Str) : stoull ((s.dropWhile (· = ' ')).takeWhile (· ≠ '\r')) =
        stoull (((s.map Char.toLower).dropWhile (· = ' ')).takeWhile (· ≠ '\r')) := by
      rw [dropWhile_map_toLower (hcase (by decide)), takeWhile_map_toLower (hne (by decide)), stoull_map_toLower]
    rw [hlow, List.map_drop, hlower, ← List.map_drop, ← hlow]
  unfold content_length
  rw [hlower]
  cases find "content-length:".toList (h'.map Char.toLower) with
  | none => rfl
  | some pos => simp only [hvalue]

/-- There is no blank line before the header lines end. -/
theorem not_blank_in_layout {first : Str} {lines : List Str} {rest : Str} (h : Laid first lines rest) :
    ¬blank_line <:+: layout first lines [] := by
  rintro ⟨a, b, hab⟩
  have hlaid : Laid first lines [] := ⟨h.first, h.lines, nofun⟩
  have hcut : layout first lines [] = (a ++ ['\r']) ++ '\n' :: (['\r'] ++ '\n' :: b) := by
    rw [← hab]
    simp [blank_line]
  have htail := (getlineAll_layout hlaid).2
  have hne : getlineAll '\n' (a ++ ['\r'] ++ ['\n']) ≠ [] := getlineAll_ne_nil '\n' (by simp)
  rw [hcut, getlineAll_append, getlineAll_cut '\n' ['\r'] b (by decide), List.tail_append_of_ne_nil hne] at htail
  have hmem : ['\r'] ∈ lines := by
    have hin : ['\r'] ∈ lines ++ (getlineAll '\n' []).tail := htail ▸ List.mem_append_right _ List.mem_cons_self
    simpa [getlineAll] using hin
  exact (h.lines _ hmem).2 (by decide)

/-- The first blank line ends behind the header lines. -/
theorem layout_le_of_find_blank {first : Str} {lines : List Str} {rest : Str} {i : Nat} (h : Laid first lines rest)
    (hi : find blank_line (layout first lines rest) = some i) : (layout first lines []).length ≤ i + 4 := by
  by_contra hlt
  have hsplit : layout first lines rest = layout first lines [] ++ rest := by simp [layout]
  rw [hsplit] at hi
  have hfind := find_of_append (by decide) hi
  rw [if_pos (by rw [show blank_line.length = 4 from rfl]; omega)] at hfind
  refine not_blank_in_layout h ?_
  exact (prefix_of_find hfind).isInfix.trans (List.drop_suffix _ _).isInfix

theorem Recased.request_body {raw raw' : Str} (h : Recased raw raw') (n : Nat) : request_body raw n = request_body raw' n := by
  have hlower := h.lower
  have hlen : raw.length = raw'.length := by simpa using congrArg List.length hlower
  have hfind := find_blank_of_lower hlower
  unfold ApiServer.request_body
  rw [hfind, hlen]
  cases hi : find blank_line raw' with
  | none => rfl
  | some i =>
    have hdrop : raw.drop (i + 4) = raw'.drop (i + 4) := by
      rw [hi] at hfind
      cases h with
      | @intro first lines lines' rest hlaid hfields =>
        have hle := layout_le_of_find_blank hlaid hfind
        have hle' := layout_le_of_find_blank (hlaid.recase hfields) hi
        have hsplit (ls : List Str) : layout first ls rest = layout first ls [] ++ rest := by simp [layout]
        rw [hsplit, hsplit, List.length_append, List.length_append] at hlen
        rw [hsplit, hsplit, List.drop_append, List.drop_append, List.drop_of_length_le hle, List.drop_of_length_le hle',
          Nat.add_right_cancel hlen]
    dsimp only
    rw [hdrop]

/-- The request without its headers. -/
def bare (req : HttpRequest) : HttpRequest := { req with headers := ∅ }

theorem bare_parse_request (raw : Str) (n : Nat) :
    bare (parse_request raw n) =
      let words := next_word (chomp ((getlineAll '\n' raw).headD []))
      let target := split_query (next_word words.2).1
      { method := words.1, path := target.1, query := target.2, body := ApiServer.request_body raw n } := rfl

theorem headers_parsed (raw : Str) : (parsed raw).headers = (field_lines raw).foldl add_header ∅ := rfl

/-- Requests up to the letter case of header names differ in their headers only. -/
theorem Recased.bare_parsed {raw raw' : Str} (h : Recased raw raw') : bare (parsed raw) = bare (parsed raw') := by
  have hlen : content_length (header_str raw) = content_length (header_str raw') := by
    refine content_length_of_lower ?_
    rw [header_str, header_str, header_end, header_end, find_blank_of_lower h.lower, List.map_take, List.map_take, h.lower]
  have hfirst : (getlineAll '\n' raw).headD [] = (getlineAll '\n' raw').headD [] := by
    cases h with
    | intro hlaid hfields =>
      rw [(getlineAll_layout hlaid).1, (getlineAll_layout (hlaid.recase hfields)).1]
  rw [parsed, parsed, bare_parse_request, bare_parse_request, hlen, hfirst, h.request_body]

/-! ## What is found under a name -/

/-- A value as it is stored. -/
def stored (value : Str) : Str := if value.head? = some ' ' then value.tail else value

/-- The values of the lines whose name is spelled in this way. -/
def spelled (name : Str) (lines : List Str) : List Str :=
  (lines.filterMap header_field).filterMap fun f => if f.1 = name then some (stored f.2) else none

/-- The values of the fields with this name in any letter case. -/
def values_of (name raw : Str) : List Str := (field_values (name.map Char.toLower) raw).map stored

theorem spelled_append (name : Str) (lines lines' : List Str) :
    spelled name (lines ++ lines') = spelled name lines ++ spelled name lines' := by
  rw [spelled, List.filterMap_append, List.filterMap_append]
  rfl

theorem add_header_of_field {line : Str} {f : Str × Str} (h : header_field line = some f) (headers : UMap Str Str) :
    add_header headers line = UMap.set f.1 (stored f.2) headers := by
  obtain ⟨colon, hcolon, rfl⟩ := Option.map_eq_some_iff.1 h
  rw [add_header, hcolon]
  rfl

theorem add_header_of_none {line : Str} (h : header_field line = none) (headers : UMap Str Str) :
    add_header headers line = headers := by
  rw [add_header, Option.map_eq_none_iff.1 h]

/-- The last line with the spelling counts. -/
theorem lookup_foldl_add_header (name : Str) (lines : List Str) :
    (lines.foldl add_header ∅).lookup name = (spelled name lines).getLast? := by
  induction lines using List.reverseRecOn with
  | nil => rfl
  | append_singleton lines line ih =>
    rw [List.foldl_append, List.foldl_cons, List.foldl_nil, spelled_append]
    cases hfield : header_field line with
    | none => simp [add_header_of_none hfield, spelled, hfield, ih]
    | some f =>
      rw [add_header_of_field hfield, UMap.lookup_set, ih]
      by_cases hname : f.1 = name
      · simp [spelled, hfield, hname]
      · simp [spelled, hfield, hname, Ne.symm hname]

theorem mem_values_of {name value raw : Str} :
    value ∈ values_of name raw ↔ ∃ field w, ':' ∉ field ∧ field.map Char.toLower = name.map Char.toLower ∧
      field ++ ':' :: w ∈ field_lines raw ∧ stored w = value := by
  rw [values_of, List.mem_map]
  constructor
  · rintro ⟨w, hw, rfl⟩
    obtain ⟨field, hcolon, hname, hline⟩ := mem_field_values.1 hw
    exact ⟨field, w, hcolon, hname, hline, rfl⟩
  · rintro ⟨field, w, hcolon, hname, hline, rfl⟩
    exact ⟨w, mem_field_values.2 ⟨field, hcolon, hname, hline⟩, rfl⟩

/-- What is found is the value of a field with the name. -/
theorem mem_values_of_lookup {name value raw : Str} (h : (parsed raw).headers.lookup name = some value) :
    value ∈ values_of name raw := by
  rw [headers_parsed, lookup_foldl_add_header] at h
  obtain ⟨f, hf, hvalue⟩ := List.mem_filterMap.1 (List.mem_of_getLast? h)
  obtain ⟨line, hline, hfield⟩ := List.mem_filterMap.1 hf
  obtain ⟨hcolon, rfl⟩ := header_field_eq_some_iff.1 hfield
  split at hvalue
  · rename_i hname
    cases hvalue
    exact mem_values_of.2 ⟨f.1, f.2, hcolon, by rw [hname], hline, rfl⟩
  · cases hvalue

theorem header_field_chomp {name : Str} (h : ':' ∉ name) (value : Str) :
    header_field (chomp (name ++ ':' :: value)) = some (name, chomp value) := by
  rw [chomp_append_cons name (by decide)]
  exact header_field_eq_some_iff.2 ⟨h, rfl⟩

theorem header_field_chomp_of_none {line : Str} (h : header_field line = none) : header_field (chomp line) = none := by
  rw [header_field_eq_none_iff] at h ⊢
  exact fun hmem => h ((chomp_starts line).subset hmem)

/-- A field with its name in small letters. -/
def lowered (f : Str × Str) : Str × Str := (f.1.map Char.toLower, f.2)

theorem field_values_eq (name raw : Str) :
    field_values name raw =
      (((field_lines raw).filterMap header_field).map lowered).filterMap fun f => if f.1 = name then some f.2 else none := by
  rw [field_values, List.filterMap_map]
  rfl

theorem lowered_fields_eq {lines lines' : List Str} (h : List.Forall₂ SameField lines lines') :
    ((lines.map chomp).filterMap header_field).map lowered = ((lines'.map chomp).filterMap header_field).map lowered := by
  induction h with
  | nil => rfl
  | @cons l l' lines lines' hfield _ ih =>
    rw [List.map_cons, List.map_cons, List.filterMap_cons, List.filterMap_cons]
    rcases hfield with rfl | ⟨field, field', value, hcolon, hname, rfl, rfl⟩
    · cases header_field (chomp l) with
      | none => exact ih
      | some f =>
        dsimp only
        rw [List.map_cons, List.map_cons, ih]
    · have hcolon' : ':' ∉ field' := fun hmem => hcolon ((mem_iff_of_map_toLower hname (by decide)).2 hmem)
      rw [header_field_chomp hcolon, header_field_chomp hcolon']
      dsimp only
      rw [List.map_cons, List.map_cons, ih, lowered, lowered, hname]

/-- The values under a name in any letter case are those of the request. -/
theorem Recased.values_of {raw raw' : Str} (h : Recased raw raw') (name : Str) : values_of name raw = values_of name raw' := by
  cases h with
  | @intro first lines lines' rest hlaid hfields =>
    rw [HeaderNames.values_of, HeaderNames.values_of, field_values_eq, field_values_eq, field_lines_layout hlaid,
      field_lines_layout (hlaid.recase hfields), List.filterMap_append, List.filterMap_append, List.map_append,
      List.map_append, lowered_fields_eq hfields]

/-! ## Spelling the names anew -/

/-- A line with its name in small letters. -/
def lower_name (line : Str) : Str :=
  match header_field line with
  | none => line
  | some f => f.1.map Char.toLower ++ ':' :: f.2

theorem sameField_lower_name (line : Str) : SameField line (lower_name line) := by
  unfold lower_name
  cases h : header_field line with
  | none => exact .inl rfl
  | some f =>
    obtain ⟨hcolon, hline⟩ := header_field_eq_some_iff.1 h
    exact .inr ⟨f.1, f.1.map Char.toLower, f.2, hcolon, (map_toLower_idem f.1).symm, hline, rfl⟩

theorem forall₂_lower_name (lines : List Str) : List.Forall₂ SameField lines (lines.map lower_name) := by
  rw [List.forall₂_map_right_iff]
  exact List.forall₂_same.2 fun line _ => sameField_lower_name line

/-- No line in small letters has a name that is spelled with a capital letter. -/
theorem spelled_lower_name {name : Str} (hname : name.map Char.toLower ≠ name) (lines : List Str) :
    spelled name ((lines.map lower_name).map chomp) = [] := by
  refine List.filterMap_eq_nil_iff.2 fun f hf => if_neg ?_
  rintro rfl
  obtain ⟨line, hline, hfield⟩ := List.mem_filterMap.1 hf
  rw [List.map_map] at hline
  obtain ⟨l, -, rfl⟩ := List.mem_map.1 hline
  rw [Function.comp_apply, lower_name] at hfield
  cases hl : header_field l with
  | none =>
    rw [hl] at hfield
    dsimp only at hfield
    rw [header_field_chomp_of_none hl] at hfield
    cases hfield
  | some g =>
    rw [hl] at hfield
    dsimp only at hfield
    have hcolon : ':' ∉ g.1.map Char.toLower := by
      rw [mem_map_toLower_iff (by decide)]
      exact (header_field_eq_some_iff.1 hl).1
    rw [header_field_chomp hcolon] at hfield
    cases hfield
    exact hname (map_toLower_idem g.1)

theorem spelled_respelled {name : Str} (hname : name.map Char.toLower ≠ name) (hcolon : ':' ∉ name) (w : Str)
    (before behind : List Str) :
    spelled name ((before.map lower_name ++ (name ++ ':' :: w) :: behind.map lower_name).map chomp) = [stored (chomp w)] := by
  have hline : spelled name [chomp (name ++ ':' :: w)] = [stored (chomp w)] := by
    simp [spelled, header_field_chomp hcolon]
  rw [List.map_append, List.map_cons, ← List.singleton_append, spelled_append, spelled_append, hline,
    spelled_lower_name hname, spelled_lower_name hname]
  rfl

/-- What is found in a request whose header lines are these. -/
theorem lookup_layout {first : Str} {lines : List Str} {rest : Str} (hlaid : Laid first lines rest)
    (hrest : field_lines rest = []) (name : Str) :
    (parsed (layout first lines rest)).headers.lookup name = (spelled name (lines.map chomp)).getLast? := by
  rw [headers_parsed, lookup_foldl_add_header, field_lines_layout hlaid, hrest, List.append_nil]

/-- A header can be hidden. -/
theorem exists_recased_none {name : Str} (hname : name.map Char.toLower ≠ name) (raw : Str) :
    ∃ raw', Recased raw raw' ∧ (parsed raw').headers.lookup name = none := by
  obtain ⟨first, lines, rest, rfl, hlaid, hrest⟩ := exists_layout raw
  have hfields := forall₂_lower_name lines
  refine ⟨_, .intro hlaid hfields, ?_⟩
  rw [lookup_layout (hlaid.recase hfields) hrest, spelled_lower_name hname]
  rfl

/-- Each field with the name can be made the one that is found. -/
theorem exists_recased_some {name value raw : Str} (hname : name.map Char.toLower ≠ name) (h : value ∈ values_of name raw) :
    ∃ raw', Recased raw raw' ∧ (parsed raw').headers.lookup name = some value := by
  obtain ⟨field, w, hcolon, hfield, hline, rfl⟩ := mem_values_of.1 h
  obtain ⟨first, lines, rest, rfl, hlaid, hrest⟩ := exists_layout raw
  rw [field_lines_layout hlaid, hrest, List.append_nil] at hline
  obtain ⟨l, hl, hchomp⟩ := List.mem_map.1 hline
  obtain ⟨before, behind, rfl⟩ := List.append_of_mem hl
  -- the carriage return stays behind the value
  obtain ⟨cr, hcr, -⟩ := eq_chomp_append l
  rw [hchomp, List.append_assoc] at hcr
  have hcolon' : ':' ∉ name := fun hmem => hcolon ((mem_iff_of_map_toLower hfield (by decide)).2 hmem)
  have hfields : List.Forall₂ SameField (before ++ l :: behind)
      (before.map lower_name ++ (name ++ ':' :: (w ++ cr)) :: behind.map lower_name) :=
    List.rel_append (forall₂_lower_name before)
      (.cons (.inr ⟨field, name, w ++ cr, hcolon, hfield, hcr, rfl⟩) (forall₂_lower_name behind))
  refine ⟨_, .intro hlaid hfields, ?_⟩
  have hw : chomp (w ++ cr) = w := by
    have hfield' := header_field_chomp hcolon (w ++ cr)
    rw [List.cons_append] at hcr
    rw [← hcr, hchomp, header_field_eq_some_iff] at hfield'
    simpa using hfield'.2.symm
  rw [lookup_layout (hlaid.recase hfields) hrest, spelled_respelled hname hcolon', hw]
  rfl

end HeaderNames

end DevSys
