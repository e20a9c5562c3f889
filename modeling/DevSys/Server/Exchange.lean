import DevSys.Lib.HttpReply
import DevSys.Server.RequestRoundTrip
/-!
# A request and its answer

What a client reads of the answer to its request, when the server's `send` takes
as many bytes as it can at a time, fails, or ends the process.
-/
open Cxx Net Lines HttpReply

namespace DevSys

/-- What has been sent when the connection ends. -/
def Exit.sent : Exit → Str
  | .closed sent => sent
  | .escaped sent _ => sent
  | .sigpipe sent => sent

namespace ApiServer

/-! ## Sending -/

theorem write_all_prefix (outs : List Send) (data : Str) :
    (write_all outs data).1 <+: data ∧ ((write_all outs data).2 = .all ↔ (write_all outs data).1 = data) := by
  induction outs generalizing data with
  | nil => cases data <;> simp [write_all]
  | cons out outs ih =>
    cases data with
    | nil => simp [write_all]
    | cons c data =>
      cases out with
      | failed => simp [write_all]
      | broken => simp [write_all]
      | took n =>
        rw [write_all]
        by_cases hn : n = 0
        · simp [hn]
        · obtain ⟨⟨rest, hrest⟩, hall⟩ := ih ((c :: data).drop n)
          simp only [if_neg hn]
          have hsplit := List.take_append_drop n (c :: data)
          -- the rest is all that is missing
          have hcancel (x : Str) : (c :: data).take n ++ x = c :: data ↔ x = (c :: data).drop n := by
            constructor
            · intro heq
              exact List.append_cancel_left (heq.trans hsplit.symm)
            · rintro rfl
              exact hsplit
          refine ⟨⟨rest, ?_⟩, ?_⟩
          · rw [List.append_assoc, hrest, hsplit]
          · rw [hall, hcancel]

/-- The go-ahead, if it is asked for, is sent as a whole or not at all. -/
def Uncut (header_str : Str) (outs : List Send) : Prop :=
  expects header_str = true → ∀ n, outs.head? = some (.took n) → n = 0 ∨ go_ahead.length ≤ n

/-- The response is sent to its end. -/
def SentAll (header_str : Str) (outs : List Send) (resp : HttpResponse) : Prop :=
  (expects header_str = true → outs.head? ≠ some .broken) ∧
    (write_all (later header_str outs) (build_response resp)).2 = .all

instance (header_str : Str) (outs : List Send) (resp : HttpResponse) : Decidable (SentAll header_str outs resp) :=
  inferInstanceAs (Decidable (_ ∧ _))

/-! ## Responses -/

/-- The fields that are printed in front of the extra ones. -/
def first_fields (resp : HttpResponse) : List (Str × Str) :=
  [("Content-Type".toList, resp.content_type), ("Content-Length".toList, to_string resp.body.length),
    ("Connection".toList, "close".toList)]

def reply (resp : HttpResponse) (extra : List (Str × Str)) : Reply where
  status := resp.status_code
  reason := reason resp.status_code
  fields := first_fields resp ++ extra
  body := resp.body

/-- A response whose content type is one line, and whose extra headers are lines
of these fields. -/
structure Sendable (resp : HttpResponse) (extra : List (Str × Str)) : Prop where
  status : 200 ≤ resp.status_code ∧ resp.status_code ≤ 999
  content_type : (∀ c ∈ resp.content_type, c ≠ '\r' ∧ c ≠ '\n') ∧ resp.content_type.head? ≠ some ' '
  extra_headers : resp.extra_headers = render (extra.map field_text)
  extra_fields : ∀ f ∈ extra, IsField f
  no_body : resp.status_code = 204 ∨ resp.status_code = 304 → resp.body = []

theorem sendable_json_response {code : Nat} (h : 200 ≤ code ∧ code ≤ 999) (hcode : code ≠ 204 ∧ code ≠ 304) (json : Str) :
    Sendable (json_response code json) [] where
  status := h
  content_type := by simp [json_response]
  extra_headers := rfl
  extra_fields := nofun
  no_body := fun h' => absurd h' (not_or.2 hcode)

theorem render_append (ls ls' : List Str) : render (ls ++ ls') = render ls ++ render ls' := List.flatMap_append

/-- Lines end in a line feed, so that none is added. -/
theorem render_ends {lines : List Str} (h : lines ≠ []) : render lines ≠ [] ∧ (render lines).getLast? = some '\n' := by
  have hsplit : render lines = render lines.dropLast ++ (lines.getLast h ++ ['\r']) ++ ['\n'] := by
    conv_lhs => rw [← List.dropLast_append_getLast h, render_append]
    simp [render]
  rw [hsplit]
  exact ⟨List.concat_ne_nil _ _, List.getLast?_concat⟩

section
variable {resp : HttpResponse} {extra : List (Str × Str)} (h : Sendable resp extra)
include h

theorem build_response_eq : build_response resp = text (reply resp extra) := by
  have hextra : (if resp.extra_headers = [] then []
      else if resp.extra_headers.getLast? ≠ some '\n' then resp.extra_headers ++ "\r\n".toList
      else resp.extra_headers) = render (extra.map field_text) := by
    rw [h.extra_headers]
    by_cases hnil : extra = []
    · rw [hnil]
      rfl
    · obtain ⟨hne, hlast⟩ := render_ends (List.map_eq_nil_iff.not.2 hnil)
      rw [if_neg hne, if_neg (not_not.2 hlast)]
  have hbuild : build_response resp = version ++ to_string resp.status_code ++ ' ' :: reason resp.status_code ++ ['\r', '\n'] ++
      ("Content-Type".toList ++ [':', ' ']) ++ resp.content_type ++ ['\r', '\n'] ++
      ("Content-Length".toList ++ [':', ' ']) ++ to_string resp.body.length ++ ['\r', '\n'] ++
      ("Connection".toList ++ ':' :: ' ' :: "close".toList ++ ['\r', '\n']) ++ render (extra.map field_text) ++
      ['\r', '\n'] ++ resp.body := by
    rw [← hextra]
    rfl
  have hfields : (first_fields resp).map field_text =
      ["Content-Type".toList ++ ':' :: ' ' :: resp.content_type,
        "Content-Length".toList ++ ':' :: ' ' :: to_string resp.body.length,
        "Connection".toList ++ ':' :: ' ' :: "close".toList] := rfl
  rw [hbuild, text, head_lines, reply]
  dsimp only
  rw [List.map_append, render_cons, render_append, hfields, render_cons, render_cons, render_cons, status_text]
  have hnil : render [] = [] := rfl
  simp only [hnil, List.append_assoc, List.cons_append, List.nil_append]

theorem wellFormed_reply : (reply resp extra).WellFormed := by
  have hreason : ∀ c ∈ reason resp.status_code, c ≠ '\r' ∧ c ≠ '\n' := by
    unfold reason
    split <;> simp
  have hvalue : value_of "content-length".toList (reply resp extra).fields = some (to_string resp.body.length) := rfl
  refine ⟨⟨?_, h.status.2⟩, hreason, ?_, ?_⟩
  · have hstatus := h.status.1
    show 100 ≤ resp.status_code
    omega
  · intro f hf
    rcases List.mem_append.1 hf with hf | hf
    · simp only [first_fields, List.mem_cons, List.not_mem_nil, or_false] at hf
      rcases hf with rfl | rfl | rfl
      · exact ⟨by simp, h.content_type.1, h.content_type.2⟩
      · exact isField_number (by simp) resp.body.length
      · constructor <;> simp
    · exact h.extra_fields f hf
  · have hstatus := h.status.1
    rw [body_length, hvalue]
    split_ifs with hnone
    · have hbody : resp.body = [] := h.no_body (hnone.resolve_left (by show ¬resp.status_code / 100 = 1; omega))
      show some 0 = some resp.body.length
      rw [hbody]
      rfl
    · exact length_number resp.body.length

end

/-! ## The go-ahead -/

def interim : Reply where
  status := 100
  reason := "Continue".toList
  fields := []
  body := []

theorem wellFormed_interim : interim.WellFormed where
  status := by decide
  reason := by simp [interim]
  fields := nofun
  length := rfl

/-- A client that has read the go-ahead, or nothing, reads on. -/
theorem read_go_ahead {header_str : Str} {outs outs' : List Send} {sent : Str} (hcut : Uncut header_str outs)
    (h : send_go_ahead header_str outs = some (sent, outs')) (s : Str) : read_final (sent ++ s) = read_final s := by
  have htext : go_ahead = text interim := by decide
  have hread : read_final (go_ahead ++ s) = read_final s := by
    rw [htext]
    exact read_final_of_interim (read_text wellFormed_interim s) rfl
  rw [send_go_ahead.eq_def] at h
  split at h
  · next hexpects =>
    cases outs with
    | nil =>
      obtain ⟨rfl, -⟩ := Prod.mk.inj (Option.some.inj h)
      rfl
    | cons out outs =>
      cases out with
      | failed =>
        obtain ⟨rfl, -⟩ := Prod.mk.inj (Option.some.inj h)
        rfl
      | broken => cases h
      | took n =>
        obtain ⟨rfl, -⟩ := Prod.mk.inj (Option.some.inj h)
        -- what is taken is nothing, or the whole of it
        rcases hcut hexpects n rfl with rfl | hn
        · rfl
        · rw [List.take_of_length_le hn, hread]
  · obtain ⟨rfl, -⟩ := Prod.mk.inj (Option.some.inj h)
    rfl

section
variable {resp : HttpResponse} {extra : List (Str × Str)} (h : Sendable resp extra)
include h

/-- A client reads the response when all of it was sent, and nothing when not. -/
theorem read_written (outs : List Send) :
    read_final (write_all outs (build_response resp)).1 =
      if (write_all outs (build_response resp)).2 = .all then some (reply resp extra, []) else none := by
  have hform := wellFormed_reply h
  have hbuild := build_response_eq h
  have hfinal : (reply resp extra).status / 100 ≠ 1 := by
    have hstatus := h.status
    show resp.status_code / 100 ≠ 1
    omega
  obtain ⟨hfront, hall⟩ := write_all_prefix outs (build_response resp)
  split
  · rename_i hsent
    have hread := read_text hform []
    rw [List.append_nil] at hread
    rw [hall.1 hsent, hbuild]
    exact read_final_of_final hread hfinal
  · rename_i hcut
    rw [hbuild] at hfront hall hcut ⊢
    exact read_final_of_none (read_cut hform hfront fun heq => hcut (hall.2 heq))

/-- What a client reads of an answered connection. -/
theorem read_answered {header_str : Str} {outs : List Send} (hcut : Uncut header_str outs) :
    read_final (SentRequest.answered outs header_str (.ok resp)).sent =
      if SentAll header_str outs resp then some (reply resp extra, []) else none := by
  have hnothing : read_final [] = none := read_final_of_none rfl
  rw [SentRequest.answered]
  by_cases hstays : expects header_str = true → outs.head? ≠ some .broken
  · obtain ⟨sent, hsent⟩ := send_go_ahead_some hstays
    have hwritten := read_written h (later header_str outs)
    rw [hsent]
    simp only [SentAll, and_iff_right hstays, ← hwritten, ← read_go_ahead hcut hsent (write_all _ _).1, answer]
    generalize write_all (later header_str outs) (build_response resp) = w
    obtain ⟨out, written⟩ := w
    cases written <;> rfl
  · rw [send_go_ahead_none hstays, if_neg fun hall => hstays hall.1]
    exact hnothing

end

end ApiServer

namespace SentRequest
open ApiServer

end SentRequest

end DevSys
