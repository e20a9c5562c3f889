import DevSys.Lib.HttpRequests
import DevSys.Lib.JsonStrings
import DevSys.Organization.Scope
import DevSys.Server.FaultListing
import Mathlib.Data.Set.Basic
/-!
# The tenants at the broker

A creation tells the broker of the tenant, a deletion takes it back, each by a
request of its own. Nothing is escaped in it, and nothing is sent again.
-/
open Cxx Runs HttpRequests JsonGrammar

namespace DevSys

/-- Where the broker is. -/
structure BrokerAddress where
  host : Str
  port : Int32
  plain : ∀ c ∈ host, c ≠ '\r' ∧ c ≠ '\n'
  start : host.head? ≠ some ' '

namespace BrokerAddress
open FaultListing

/-! ## Requests -/

def tenant_body (tenant_id : Str) : Str := "\x7b\"tenant_id\":\"".toList ++ tenant_id ++ "\"\x7d".toList

/-- What `sync_tenant_to_broker` sends. -/
def sync_tenant_to_broker (a : BrokerAddress) (tenant_id : Str) : Str :=
  let body := tenant_body tenant_id
  "PUT /api/v1/tenants/".toList ++ tenant_id ++ " HTTP/1.1\r\n".toList ++
    "Host: ".toList ++ a.host ++ ':' :: to_string a.port.toInt ++ "\r\n".toList ++
    "Content-Type: application/json\r\n".toList ++
    "Content-Length: ".toList ++ to_string body.length ++ "\r\n".toList ++
    "Connection: close\r\n\r\n".toList ++ body

/-- What `delete_tenant_from_broker` sends. -/
def delete_tenant_from_broker (a : BrokerAddress) (tenant_id : Str) : Str :=
  "DELETE /api/v1/tenants/".toList ++ tenant_id ++ " HTTP/1.1\r\n".toList ++
    "Host: ".toList ++ a.host ++ ':' :: to_string a.port.toInt ++ "\r\n".toList ++
    "Connection: close\r\n\r\n".toList

/-! ## The broker -/

def tenants_path : Str := "/api/v1/tenants/".toList

/-- A PUT of a tenant, with its name in the path and in the body. -/
def Registers (request t : Str) : Prop :=
  ∃ r, HttpRequests.read request = some r ∧ r.method = "PUT".toList ∧ segment tenants_path r.target = some t ∧
    Text Allowed r.body (.obj [("tenant_id".toList, .str t)])

/-- A DELETE of a tenant. -/
def Removes (request t : Str) : Prop :=
  ∃ r, HttpRequests.read request = some r ∧ r.method = "DELETE".toList ∧ segment tenants_path r.target = some t

/-- A broker: the tenants that it knows after a request. Nothing is relied on but
that it does what a PUT and a DELETE of a tenant ask for. -/
structure Broker where
  after : Set Str → Str → Set Str
  registers : ∀ {request t : Str}, Registers request t → ∀ tenants, after tenants request = insert t tenants
  removes : ∀ {request t : Str}, Removes request t → ∀ tenants, after tenants request = tenants \ {t}

/-! ## The requests as they are read -/

def host_field (a : BrokerAddress) : Str × Str := ("Host".toList, a.host ++ ':' :: to_string a.port.toInt)

def length_field (body : Str) : Str × Str := ("Content-Length".toList, to_string body.length)

theorem sync_eq (a : BrokerAddress) (tenant_id : Str) : a.sync_tenant_to_broker tenant_id =
    HttpRequests.text "PUT".toList (tenants_path ++ tenant_id) [a.host_field,
      ("Content-Type".toList, "application/json".toList), length_field (tenant_body tenant_id),
      ("Connection".toList, "close".toList)] (tenant_body tenant_id) := by
  have hmethod : "PUT /api/v1/tenants/".toList = "PUT".toList ++ ' ' :: tenants_path := rfl
  have hversion : " HTTP/1.1\r\n".toList = " HTTP/1.1".toList ++ ['\r', '\n'] := rfl
  have hhost : "Host: ".toList = "Host".toList ++ [':', ' '] := rfl
  have htype : "Content-Type: application/json\r\n".toList =
      "Content-Type".toList ++ ':' :: ' ' :: "application/json".toList ++ ['\r', '\n'] := rfl
  have hlength : "Content-Length: ".toList = "Content-Length".toList ++ [':', ' '] := rfl
  have hclose : "Connection: close\r\n\r\n".toList =
      "Connection".toList ++ ':' :: ' ' :: "close".toList ++ ['\r', '\n', '\r', '\n'] := rfl
  have hend : "\r\n".toList = ['\r', '\n'] := rfl
  delta sync_tenant_to_broker HttpRequests.text request_text host_field length_field
  dsimp only
  rw [hmethod, hversion, hhost, htype, hlength, hclose, hend]
  generalize tenant_body tenant_id = body
  generalize to_string (body.length : Int) = n
  generalize to_string a.port.toInt = port
  have hnil : Lines.render [] = [] := rfl
  simp only [List.map_cons, List.map_nil, HttpReply.field_text, Lines.render_cons, hnil, List.append_assoc,
    List.cons_append, List.nil_append]

theorem delete_eq (a : BrokerAddress) (tenant_id : Str) : a.delete_tenant_from_broker tenant_id =
    HttpRequests.text "DELETE".toList (tenants_path ++ tenant_id)
      [a.host_field, ("Connection".toList, "close".toList)] [] := by
  have hmethod : "DELETE /api/v1/tenants/".toList = "DELETE".toList ++ ' ' :: tenants_path := rfl
  have hversion : " HTTP/1.1\r\n".toList = " HTTP/1.1".toList ++ ['\r', '\n'] := rfl
  have hhost : "Host: ".toList = "Host".toList ++ [':', ' '] := rfl
  have hclose : "Connection: close\r\n\r\n".toList =
      "Connection".toList ++ ':' :: ' ' :: "close".toList ++ ['\r', '\n', '\r', '\n'] := rfl
  have hend : "\r\n".toList = ['\r', '\n'] := rfl
  delta delete_tenant_from_broker HttpRequests.text request_text host_field
  rw [hmethod, hversion, hhost, hclose, hend]
  generalize to_string a.port.toInt = port
  have hnil : Lines.render [] = [] := rfl
  simp only [List.map_cons, List.map_nil, HttpReply.field_text, Lines.render_cons, hnil, List.append_assoc,
    List.cons_append, List.nil_append]

theorem isField_host (a : BrokerAddress) : HttpReply.IsField a.host_field := by
  have hport : ∀ c ∈ to_string a.port.toInt, c ≠ '\r' ∧ c ≠ '\n' := by
    intro c hc
    constructor
    · rintro rfl
      exact not_mem_to_string (by decide) (by decide) hc
    · rintro rfl
      exact not_mem_to_string (by decide) (by decide) hc
  refine ⟨by simp [host_field], ?_, ?_⟩
  · intro c hc
    rcases List.mem_append.1 hc with hc | hc
    · exact a.plain c hc
    · rcases List.mem_cons.1 hc with rfl | hc
      · decide
      · exact hport c hc
  · have hstart := a.start
    rw [host_field]
    dsimp only
    cases hhost : a.host with
    | nil => simp
    | cons c host =>
      rw [hhost] at hstart
      exact hstart

theorem body_length_sync (a : BrokerAddress) (body : Str) :
    HttpRequests.body_length [a.host_field, ("Content-Type".toList, "application/json".toList), length_field body,
      ("Connection".toList, "close".toList)] = some body.length := by
  have hvalue : HttpReply.value_of "content-length".toList [a.host_field,
      ("Content-Type".toList, "application/json".toList), length_field body, ("Connection".toList, "close".toList)] =
      some (to_string body.length) := rfl
  rw [HttpRequests.body_length, hvalue]
  exact HttpReply.length_number body.length

theorem word_path {tenant_id : Str} (h : Name tenant_id) : Word (tenants_path ++ tenant_id) := by
  refine ⟨List.append_ne_nil_of_left_ne_nil (by decide) _, fun c hc => ?_⟩
  rcases List.mem_append.1 hc with hc | hc
  · have hpath : ∀ c ∈ "/api/v1/tenants/".toList, isspace c = false := by simp [isspace]
    exact hpath c hc
  · exact (h.2 c hc).1

theorem read_sync (a : BrokerAddress) {tenant_id : Str} (h : Name tenant_id) :
    HttpRequests.read (a.sync_tenant_to_broker tenant_id) =
      some ⟨"PUT".toList, tenants_path ++ tenant_id, tenant_body tenant_id⟩ := by
  rw [sync_eq]
  refine read_text ⟨by decide, by simp [isspace]⟩ (word_path h) ?_ (body_length_sync a _)
  simp only [List.forall_mem_cons]
  refine ⟨isField_host a, ?_, HttpReply.isField_number (by simp) _, ?_, List.forall_mem_nil _⟩
  · constructor <;> simp
  · constructor <;> simp

theorem read_delete (a : BrokerAddress) {tenant_id : Str} (h : Name tenant_id) :
    HttpRequests.read (a.delete_tenant_from_broker tenant_id) =
      some ⟨"DELETE".toList, tenants_path ++ tenant_id, []⟩ := by
  rw [delete_eq]
  refine read_text ⟨by decide, by simp [isspace]⟩ (word_path h) ?_ rfl
  simp only [List.forall_mem_cons]
  refine ⟨isField_host a, ?_, List.forall_mem_nil _⟩
  constructor <;> simp

/-! ## The names in them -/

/-- A name that needs no escapes, neither in a path nor in a text. -/
def Safe (t : Str) : Prop := Name t ∧ Plain Allowed t

theorem tenant_body_eq (t : Str) : tenant_body t = print (.obj [("tenant_id".toList, .str t)]) := by
  have hopen : "\x7b\"tenant_id\":\"".toList = '\x7b' :: '"' :: ("tenant_id".toList ++ ['"', ':', '"']) := rfl
  have hclose : "\"\x7d".toList = ['"', '\x7d'] := rfl
  delta tenant_body
  rw [hopen, hclose]
  generalize "tenant_id".toList = key
  simp [print, printMembers]

theorem text_body_iff (t : Str) :
    Text Allowed (tenant_body t) (.obj [("tenant_id".toList, .str t)]) ↔ Plain Allowed t := by
  have hkey : Plain Allowed "tenant_id".toList := by decide
  have hnumbers : ∀ n ∈ numbers (.obj [("tenant_id".toList, .str t)]), Number n := by
    simp [numbers, numbersOfMembers]
  rw [tenant_body_eq, text_print_strings_iff hnumbers]
  simp only [strings, stringsOfMembers, List.append_nil, List.forall_mem_cons, hkey, true_and, and_iff_left_iff_imp]
  exact fun _ => nofun

theorem segment_path {t : Str} (h : Name t) : segment tenants_path (tenants_path ++ t) = some t :=
  segment_iff.2 ⟨h.1, fun c hc => (h.2 c hc).2⟩

/-- The PUT is one of the tenant exactly when its name needs no escapes. -/
theorem registers_sync_iff (a : BrokerAddress) (t : Str) : Registers (a.sync_tenant_to_broker t) t ↔ Safe t := by
  have hput : Word "PUT".toList := ⟨by decide, by simp [isspace]⟩
  constructor
  · rintro ⟨r, hread, hmethod, hsegment, hbody⟩
    have hname : Name t := name_of_read hput ((sync_eq a t).symm ▸ hread) hsegment
    rw [read_sync a hname] at hread
    cases hread
    exact ⟨hname, (text_body_iff t).1 hbody⟩
  · rintro ⟨hname, hplain⟩
    exact ⟨_, read_sync a hname, rfl, segment_path hname, (text_body_iff t).2 hplain⟩

theorem removes_delete (a : BrokerAddress) {t : Str} (h : Name t) : Removes (a.delete_tenant_from_broker t) t :=
  ⟨_, read_delete a h, rfl, segment_path h⟩

/-! ## A broker that takes no other requests -/

theorem put_ne_delete : "PUT".toList ≠ "DELETE".toList := by decide

theorem Registers.unique {request t u : Str} (h : Registers request t) (hu : Registers request u) : u = t := by
  obtain ⟨r, hread, -, hsegment, -⟩ := h
  obtain ⟨r', hread', -, hsegment', -⟩ := hu
  cases hread.symm.trans hread'
  exact Option.some.inj (hsegment'.symm.trans hsegment)

theorem Removes.unique {request t u : Str} (h : Removes request t) (hu : Removes request u) : u = t := by
  obtain ⟨r, hread, -, hsegment⟩ := h
  obtain ⟨r', hread', -, hsegment'⟩ := hu
  cases hread.symm.trans hread'
  exact Option.some.inj (hsegment'.symm.trans hsegment)

theorem Registers.not_removes {request t u : Str} (h : Registers request t) : ¬Removes request u := by
  rintro ⟨r', hread', hmethod', -⟩
  obtain ⟨r, hread, hmethod, -⟩ := h
  cases hread.symm.trans hread'
  exact put_ne_delete (hmethod.symm.trans hmethod')

def strict : Broker where
  after tenants request := {t | Registers request t ∨ t ∈ tenants ∧ ¬Removes request t}
  registers {request t} h tenants := by
    ext u
    have hregisters : Registers request u ↔ u = t := ⟨h.unique, fun heq => heq ▸ h⟩
    show Registers request u ∨ u ∈ tenants ∧ ¬Removes request u ↔ _
    rw [hregisters, and_iff_left h.not_removes, Set.mem_insert_iff]
  removes {request t} h tenants := by
    ext u
    have hremoves : Removes request u ↔ u = t := ⟨h.unique, fun heq => heq ▸ h⟩
    show Registers request u ∨ u ∈ tenants ∧ ¬Removes request u ↔ _
    rw [or_iff_right fun hregisters => hregisters.not_removes h, hremoves, Set.mem_sdiff, Set.mem_singleton_iff]

end BrokerAddress

/-! ## Every run -/

/-- The manager, and the tenants that the broker knows. -/
structure Mirror where
  mgr : OrgManager := {}
  tenants : Set Str := ∅

namespace Mirror
open OrgManager BrokerAddress

/-- What a call sends to the broker. -/
def told (a : BrokerAddress) (s : OrgManager) : Event → Option Str
  | .create now info => (created s (.create now info)).map fun o => a.sync_tenant_to_broker o.tenant_id
  | .update _ _ _ => none
  | .delete org_id =>
    if (s.delete_org org_id).1 = .OK then (s.get_org org_id).map fun o => a.delete_tenant_from_broker o.tenant_id
    else none

/-- A call, and whether its request reaches the broker. -/
def Step (a : BrokerAddress) (b : Broker) (s : Mirror) (l : Event × Bool) (s' : Mirror) : Prop :=
  s' = {
    mgr := l.1.apply s.mgr
    tenants := match told a s.mgr l.1 with
      | none => s.tenants
      | some request => if l.2 then b.after s.tenants request else s.tenants }

/-- The broker knows the tenants of the organisations. -/
def Same (s : Mirror) : Prop := ∀ t, t ∈ s.tenants ↔ ∃ o ∈ s.mgr.orgs_, o.tenant_id = t

/-- A new tenant has a name that needs no escapes. -/
def Named (s : Mirror) (l : Event × Bool) : Prop := ∀ o, created s.mgr l.1 = some o → Safe o.tenant_id

/-- The request reaches the broker, if there is one. -/
def Arrives (a : BrokerAddress) (s : Mirror) (l : Event × Bool) : Prop := told a s.mgr l.1 ≠ none → l.2 = true

/-- No two organisations have one tenant, and all names are safe. -/
structure Inv (s : OrgManager) : Prop where
  nodup : (s.orgs_.map (·.tenant_id)).Nodup
  safe : ∀ t ∈ s.orgs_.map (·.tenant_id), Safe t

/-- A call changes nothing of the tenants, or adds one and says so, or takes one
away and says so. -/
theorem call_cases (a : BrokerAddress) (s : OrgManager) (e : Event) :
    (told a s e = none ∧ created s e = none ∧ (e.apply s).orgs_.map (·.tenant_id) = s.orgs_.map (·.tenant_id)) ∨
    (∃ o, created s e = some o ∧ told a s e = some (a.sync_tenant_to_broker o.tenant_id) ∧
      o.tenant_id ∉ s.orgs_.map (·.tenant_id) ∧
      (e.apply s).orgs_.map (·.tenant_id) = s.orgs_.map (·.tenant_id) ++ [o.tenant_id]) ∨
    ∃ t, created s e = none ∧ told a s e = some (a.delete_tenant_from_broker t) ∧
      (s.orgs_.map (·.tenant_id)).Perm (t :: (e.apply s).orgs_.map (·.tenant_id)) := by
  cases e with
  | create now info =>
    rcases create_org_cases (g := (·.tenant_id)) (fun _ _ => rfl) now info s with ⟨hne, hs⟩ | ⟨hok, -, hfresh, hinfo, -, horgs⟩
    · have hcreated : created s (.create now info) = none := if_neg hne
      refine .inl ⟨?_, hcreated, ?_⟩
      · rw [told, hcreated, Option.map_none]
      · rw [Event.apply, hs]
    · have hcreated : created s (.create now info) = some (s.assigned now info) := by
        rw [created, if_pos hok, hinfo]
      refine .inr (.inl ⟨_, hcreated, ?_, ?_, horgs⟩)
      · rw [told, hcreated, Option.map_some]
      · rw [assigned_tenant_id]
        intro hmem
        obtain ⟨o, ho, heq⟩ := List.mem_map.1 hmem
        rw [tenant_exists, List.any_eq_false] at hfresh
        exact hfresh o ho (decide_eq_true heq)
  | update now org_id info =>
    have horgs := (update_org_map (g := (·.tenant_id)) (fun _ _ _ => rfl) now org_id info s).1
    exact .inl ⟨rfl, rfl, horgs⟩
  | delete org_id =>
    rcases delete_org_cases org_id s with ⟨hne, hs⟩ | hs
    · refine .inl ⟨if_neg hne, rfl, ?_⟩
      rw [Event.apply, hs]
    · have hok : (s.delete_org org_id).1 = .OK := by rw [hs]
      have hexists := ((delete_org_ok_iff org_id s).1 hok).1
      obtain ⟨o, ho⟩ := Option.isSome_iff_exists.1 hexists
      refine .inr (.inr ⟨o.tenant_id, rfl, ?_, ?_⟩)
      · rw [told, if_pos hok, ho, Option.map_some]
      · have hperm := (FirstMatch.perm_cons_eraseP ho).map (·.tenant_id)
        rwa [Event.apply, hs]

theorem same_iff {s : Mirror} : Same s ↔ ∀ t, t ∈ s.tenants ↔ t ∈ s.mgr.orgs_.map (·.tenant_id) :=
  forall_congr' fun t => by rw [List.mem_map]

section
variable {a : BrokerAddress} {b : Broker} {s s' : Mirror} {l : Event × Bool}

theorem inv_step (hi : Inv s.mgr) (hnamed : Named s l) (h : Step a b s l s') : Inv s'.mgr := by
  subst h
  rcases call_cases a s.mgr l.1 with ⟨-, -, horgs⟩ | ⟨o, hcreated, -, hfresh, horgs⟩ | ⟨t, -, -, hperm⟩
  · constructor
    · rw [horgs]
      exact hi.nodup
    · rw [horgs]
      exact hi.safe
  · constructor
    · rw [horgs, List.nodup_append_comm, List.singleton_append, List.nodup_cons]
      exact ⟨hfresh, hi.nodup⟩
    · rw [horgs, List.forall_mem_append, List.forall_mem_singleton]
      exact ⟨hi.safe, hnamed o hcreated⟩
  · constructor
    · exact (hperm.nodup_iff.1 hi.nodup).of_cons
    · exact fun u hu => hi.safe u (hperm.mem_iff.2 (List.mem_cons_of_mem _ hu))

theorem same_step_iff (hi : Inv s.mgr) (hs : Same s) (hnamed : Named s l) (h : Step a b s l s') :
    Same s' ↔ Arrives a s l := by
  subst h
  rw [same_iff] at hs ⊢
  rcases call_cases a s.mgr l.1 with ⟨htold, -, horgs⟩ | ⟨o, hcreated, htold, hfresh, horgs⟩ | ⟨t, -, htold, hperm⟩
  · -- nothing is sent
    dsimp only
    rw [Arrives, htold, horgs]
    exact iff_of_true hs fun h => absurd rfl h
  · -- a new tenant: the broker has it only from this request
    have hnew : o.tenant_id ∉ s.tenants := fun hmem => hfresh ((hs _).1 hmem)
    have hregisters := (registers_sync_iff a _).2 (hnamed o hcreated)
    dsimp only
    rw [Arrives, htold, horgs, forall_prop_of_true (Option.some_ne_none _)]
    dsimp only
    constructor
    · intro hsame
      have hmem := (hsame o.tenant_id).2 (List.mem_append_right _ List.mem_cons_self)
      by_contra hlost
      rw [if_neg hlost] at hmem
      exact hnew hmem
    · intro harrives t
      rw [if_pos harrives, b.registers hregisters, Set.mem_insert_iff, List.mem_append, List.mem_singleton, hs t, or_comm]
  · -- a tenant that is gone: no other organisation has it, and the broker still does
    have hold : t ∈ s.mgr.orgs_.map (·.tenant_id) := hperm.mem_iff.2 List.mem_cons_self
    have hgone : t ∉ (l.1.apply s.mgr).orgs_.map (·.tenant_id) := (List.nodup_cons.1 (hperm.nodup_iff.1 hi.nodup)).1
    dsimp only
    rw [Arrives, htold, forall_prop_of_true (Option.some_ne_none _)]
    dsimp only
    constructor
    · intro hsame
      by_contra hlost
      have hmem := hsame t
      rw [if_neg hlost, hs t] at hmem
      exact hgone (hmem.1 hold)
    · intro harrives u
      rw [if_pos harrives, b.removes (removes_delete a (hi.safe t hold).1), Set.mem_sdiff, Set.mem_singleton_iff, hs u,
        hperm.mem_iff, List.mem_cons]
      constructor
      · rintro ⟨hu, hne⟩
        exact hu.resolve_left hne
      · intro hu
        refine ⟨.inr hu, ?_⟩
        rintro rfl
        exact hgone hu

end

def localhost : BrokerAddress where
  host := "127.0.0.1".toList
  port := 8080
  plain := by simp
  start := by simp

end Mirror

end DevSys
