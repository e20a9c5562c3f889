import DevSys.Lib.FirstMatch
import DevSys.Server.Routes
/-!
# Which handler runs

The table is searched in the order of its hashes. A pattern with a slash after
its first parameter takes every path that begins like it, also those of the
pattern without the slash.
-/
open Cxx

namespace DevSys.Route
open ApiServer

/-- Whatever the order of the table, one handler runs. -/
def Settled (req : HttpRequest) : Prop :=
  ∀ order order' : List Route, order.Perm all → order'.Perm all → dispatch order req = dispatch order' req

/-- A path that is no route's own is taken by one pattern at most. -/
def Unambiguous (req : HttpRequest) : Prop :=
  (∀ r : Route, ¬exact_match req r.key) → ∀ r r' : Route, pattern_match req r.key → pattern_match req r'.key → r = r'

/-- A path with one part behind `pre`. -/
def OnePart (pre path : Str) : Prop := ∃ part, path = pre ++ part ∧ part ≠ [] ∧ '/' ∉ part

/-- An account to update or a tenant to show, where the route of the password or
of the devices takes the path as well. -/
def Contested (req : HttpRequest) : Prop :=
  (req.method = "PUT".toList ∧ OnePart "/api/v1/accounts/".toList req.path) ∨
  (req.method = "GET".toList ∧ OnePart "/api/v1/tenants/".toList req.path ∧ req.path ≠ "/api/v1/tenants/by-key".toList)

/-- The pattern has a slash after its first parameter. -/
def Deep (r : Route) : Prop := '/' ∈ r.path.drop r.stem.length

instance : DecidablePred Deep := fun r => inferInstanceAs (Decidable ('/' ∈ r.path.drop r.stem.length))

/-! ## Matching -/

theorem exact_match_iff {r : Route} {req : HttpRequest} :
    exact_match req r.key = true ↔ r.method = req.method ∧ '{' ∉ r.path ∧ r.path = req.path := by
  rw [exact_match, split_key_key]
  simp only [Bool.and_eq_true, decide_eq_true_eq, find_single_eq_none_iff, and_assoc]

theorem pattern_match_iff {r : Route} {req : HttpRequest} :
    pattern_match req r.key = true ↔
      r.method = req.method ∧ '{' ∈ r.path ∧
        ∃ suffix, req.path = r.stem ++ suffix ∧ suffix ≠ [] ∧ (r.Deep ∨ '/' ∉ suffix) := by
  rw [pattern_match, split_key_key]
  dsimp only
  by_cases hb : '{' ∈ r.path
  · obtain ⟨a, b, hp, ha⟩ := List.eq_append_cons_of_mem hb
    have hstem : r.stem = a := stem_of_append hp ha
    have hfind : find ['{'] r.path = some r.stem.length := by rw [hp, find_single_append ha, hstem]
    have htake : r.path.take r.stem.length = r.stem := by rw [hp, hstem, List.take_left]
    rw [hfind, and_iff_right hb]
    simp only [htake, Bool.and_eq_true, Bool.or_eq_true, decide_eq_true_eq, find_eq_zero_iff,
      findFrom_single_isSome_iff, find_single_eq_none_iff, Deep]
    refine and_congr_right fun _ => ?_
    constructor
    · rintro ⟨⟨⟨suffix, hs⟩, hne⟩, hslash⟩
      rw [← hs, List.drop_left] at hne hslash
      exact ⟨suffix, hs.symm, hne, hslash⟩
    · rintro ⟨suffix, hs, hne, hslash⟩
      rw [hs, List.drop_left]
      exact ⟨⟨List.prefix_append _ _, hne⟩, hslash⟩
  · rw [find_single_eq_none_iff.2 hb]
    simp [hb]

/-- Searching the table is searching the routes. -/
theorem dispatch_eq (order : List Route) (req : HttpRequest) :
    dispatch order req =
      (order.find? (fun r => exact_match req r.key) <|> order.find? fun r => pattern_match req r.key) := by
  rw [dispatch, find_route, List.find?_map, List.find?_map]
  have hexact : (fun e : Str × Route => exact_match req e.1) ∘ (fun r : Route => (r.key, r)) =
      fun r => exact_match req r.key := rfl
  have hpattern : (fun e : Str × Route => pattern_match req e.1) ∘ (fun r : Route => (r.key, r)) =
      fun r => pattern_match req r.key := rfl
  rw [hexact, hpattern]
  cases order.find? fun r => exact_match req r.key with
  | some r => rfl
  | none => cases order.find? fun r => pattern_match req r.key <;> rfl

/-! ## The table -/

/-- A number for the text, to compare keys with. -/
def code (s : Str) : Nat := s.foldl (fun n c => n * 256 + c.toNat) 0

/-- No two routes are registered under one key. -/
theorem eq_of_key {r r' : Route} (h : r.key = r'.key) : r = r' := by
  have hnodup : (all.map fun r => code r.key).Nodup := by decide +kernel
  exact List.inj_on_of_nodup_map hnodup (mem_all r) (mem_all r') (congrArg code h)

/-- The routes with a parameter. -/
def patterns : List Route := all.filter fun r => '{' ∈ r.path

theorem mem_patterns {r : Route} : r ∈ patterns ↔ '{' ∈ r.path := by
  simp [patterns, mem_all r]

/-- Two routes with the same stem, the second with a slash after its parameter. -/
def Rivals (r r' : Route) : Prop :=
  (r = put_account ∧ r' = put_account_password) ∨ (r = get_tenant ∧ r' = get_tenant_devices)

instance (r r' : Route) : Decidable (Rivals r r') := inferInstanceAs (Decidable (_ ∨ _))

/-- Where the stem of one pattern begins that of another, what is between has a
slash that the first does not take, but for the two pairs of rivals. -/
theorem rivals_of_stem {r r' : Route} (hb : '{' ∈ r.path) (hb' : '{' ∈ r'.path) (hm : r.method = r'.method)
    (hstem : r.stem <+: r'.stem) (hslash : r.Deep ∨ '/' ∉ r'.stem.drop r.stem.length) :
    r = r' ∨ Rivals r r' ∨ Rivals r' r := by
  have hall : ∀ r ∈ patterns, ∀ r' ∈ patterns,
      r.method = r'.method ∧ r.stem <+: r'.stem ∧ (r.Deep ∨ '/' ∉ r'.stem.drop r.stem.length) →
        r = r' ∨ Rivals r r' ∨ Rivals r' r := by decide +kernel
  exact hall r (mem_patterns.2 hb) r' (mem_patterns.2 hb') ⟨hm, hstem, hslash⟩

/-- No path without parameters is in the way of the rivals. -/
theorem exact_paths (r : Route) (hb : '{' ∉ r.path) :
    (r.method = "PUT".toList → ¬"/api/v1/accounts/".toList <+: r.path) ∧
      (r.method = "GET".toList → "/api/v1/tenants/".toList <+: r.path → r.path = "/api/v1/tenants/by-key".toList) := by
  have hall : ∀ r ∈ all, '{' ∉ r.path →
      (r.method = "PUT".toList → ¬"/api/v1/accounts/".toList <+: r.path) ∧
        (r.method = "GET".toList → "/api/v1/tenants/".toList <+: r.path → r.path = "/api/v1/tenants/by-key".toList) := by
    decide +kernel
  exact hall r (mem_all r) hb

/-! ## Two patterns for one request -/

theorem exact_unique {r r' : Route} {req : HttpRequest} (h : exact_match req r.key) (h' : exact_match req r'.key) :
    r = r' := by
  obtain ⟨hm, -, hp⟩ := exact_match_iff.1 h
  obtain ⟨hm', -, hp'⟩ := exact_match_iff.1 h'
  apply eq_of_key
  rw [key, key, hm, hp, hm', hp']

/-- The two patterns begin alike, the longer stem behind the shorter. -/
theorem rivals_of_prefix {r r' : Route} {req : HttpRequest} (h : pattern_match req r.key) (h' : pattern_match req r'.key)
    (hstem : r.stem <+: r'.stem) : r = r' ∨ Rivals r r' ∨ Rivals r' r := by
  obtain ⟨hm, hb, suffix, hs, -, hslash⟩ := pattern_match_iff.1 h
  obtain ⟨hm', hb', suffix', hs', -, -⟩ := pattern_match_iff.1 h'
  apply rivals_of_stem hb hb' (hm.trans hm'.symm) hstem
  obtain ⟨mid, hmid⟩ := hstem
  rw [← hmid, List.append_assoc, hs, List.append_cancel_left_eq] at hs'
  rw [← hmid, List.drop_left]
  refine hslash.imp_right fun hnot hmem => hnot ?_
  rw [hs']
  exact List.mem_append_left _ hmem

theorem rivals_of_pattern_match {r r' : Route} {req : HttpRequest} (h : pattern_match req r.key)
    (h' : pattern_match req r'.key) : r = r' ∨ Rivals r r' ∨ Rivals r' r := by
  obtain ⟨-, -, suffix, hs, -⟩ := pattern_match_iff.1 h
  obtain ⟨-, -, suffix', hs', -⟩ := pattern_match_iff.1 h'
  rcases List.prefix_or_prefix_of_prefix ⟨suffix, hs.symm⟩ ⟨suffix', hs'.symm⟩ with hstem | hstem
  · exact rivals_of_prefix h h' hstem
  · rcases rivals_of_prefix h' h hstem with heq | hr | hr
    · exact .inl heq.symm
    · exact .inr (.inr hr)
    · exact .inr (.inl hr)

/-- What the first of two rivals takes. -/
theorem pattern_match_shallow_iff {r : Route} {req : HttpRequest} (hb : '{' ∈ r.path) (hdeep : ¬r.Deep) :
    pattern_match req r.key ↔ r.method = req.method ∧ OnePart r.stem req.path := by
  rw [pattern_match_iff, and_iff_right hb]
  simp only [OnePart, hdeep, false_or]

theorem pattern_match_put_account_iff {req : HttpRequest} :
    pattern_match req put_account.key ↔ req.method = "PUT".toList ∧ OnePart "/api/v1/accounts/".toList req.path := by
  have hb : '{' ∈ put_account.path := by decide
  have hdeep : ¬put_account.Deep := by decide
  have hstem : put_account.stem = "/api/v1/accounts/".toList := by decide
  rw [pattern_match_shallow_iff hb hdeep, hstem, eq_comm]
  rfl

theorem pattern_match_get_tenant_iff {req : HttpRequest} :
    pattern_match req get_tenant.key ↔ req.method = "GET".toList ∧ OnePart "/api/v1/tenants/".toList req.path := by
  have hb : '{' ∈ get_tenant.path := by decide
  have hdeep : ¬get_tenant.Deep := by decide
  have hstem : get_tenant.stem = "/api/v1/tenants/".toList := by decide
  rw [pattern_match_shallow_iff hb hdeep, hstem, eq_comm]
  rfl

/-- What the first of two rivals takes, the second takes as well. -/
theorem pattern_match_of_rivals {r r' : Route} {req : HttpRequest} (hr : Rivals r r') (h : pattern_match req r.key) :
    pattern_match req r'.key := by
  have hall : r.method = r'.method ∧ '{' ∈ r'.path ∧ r.stem = r'.stem ∧ r'.Deep := by
    rcases hr with ⟨rfl, rfl⟩ | ⟨rfl, rfl⟩
    · decide
    · decide
  obtain ⟨hmethod, hb', hstem, hdeep⟩ := hall
  obtain ⟨hm, -, suffix, hs, hne, -⟩ := pattern_match_iff.1 h
  exact pattern_match_iff.2 ⟨hmethod ▸ hm, hb', suffix, hstem ▸ hs, hne, .inl hdeep⟩

/-! ## One handler in every order -/

/-- A path without parameters goes to its own route, in every order. -/
theorem dispatch_exact {order : List Route} {r : Route} {req : HttpRequest} (hr : r ∈ order) (h : exact_match req r.key) :
    dispatch order req = some r := by
  have hsome : (order.find? fun r => exact_match req r.key).isSome := List.find?_isSome.2 ⟨r, hr, h⟩
  obtain ⟨r', hr'⟩ := Option.isSome_iff_exists.1 hsome
  have hmatch : exact_match req r'.key = true := by simpa using List.find?_some hr'
  rw [dispatch_eq, hr', exact_unique hmatch h]
  rfl

/-- The two forms of the law agree. -/
theorem settled_iff_unambiguous {req : HttpRequest} : Settled req ↔ Unambiguous req := by
  constructor
  · intro hsettled hexact r r' h h'
    have hnone : ∀ order : List Route, order.find? (fun r => exact_match req r.key) = none :=
      fun order => List.find?_eq_none.2 fun r _ => hexact r
    obtain ⟨order, hperm, hr⟩ := FirstMatch.exists_perm_find? (p := fun r => pattern_match req r.key) (mem_all r) h
    obtain ⟨order', hperm', hr'⟩ := FirstMatch.exists_perm_find? (p := fun r => pattern_match req r.key) (mem_all r') h'
    have hsame := hsettled order order' hperm hperm'
    rw [dispatch_eq, dispatch_eq, hnone, hnone, hr, hr'] at hsame
    exact Option.some.inj hsame
  · intro hone order order' hperm hperm'
    have hexact : ∀ o : List Route, o.Perm all →
        o.find? (fun r => exact_match req r.key) = all.find? fun r => exact_match req r.key :=
      fun o ho => FirstMatch.find?_perm ho fun r _ r' _ h h' => exact_unique h h'
    rw [dispatch_eq, dispatch_eq, hexact order hperm, hexact order' hperm']
    cases hfind : all.find? fun r => exact_match req r.key with
    | some r => rfl
    | none =>
      have hnone : ∀ r : Route, ¬exact_match req r.key := fun r => List.find?_eq_none.1 hfind r (mem_all r)
      have hpattern : ∀ o : List Route, o.Perm all →
          o.find? (fun r => pattern_match req r.key) = all.find? fun r => pattern_match req r.key :=
        fun o ho => FirstMatch.find?_perm ho fun r _ r' _ h h' => hone hnone r r' h h'
      rw [hpattern order hperm, hpattern order' hperm']

/-- A contested path is no route's own, and two rivals take it. -/
theorem exists_rivals_of_contested {req : HttpRequest} (h : Contested req) :
    (∀ r : Route, ¬exact_match req r.key) ∧ ∃ r r' : Route, Rivals r r' ∧ pattern_match req r.key := by
  rcases h with ⟨hmethod, hpart⟩ | ⟨hmethod, hpart, hkey⟩
  · refine ⟨fun r hr => ?_, put_account, put_account_password, .inl ⟨rfl, rfl⟩,
      pattern_match_put_account_iff.2 ⟨hmethod, hpart⟩⟩
    obtain ⟨hm, hb, hp⟩ := exact_match_iff.1 hr
    obtain ⟨part, hpath, -⟩ := hpart
    exact (exact_paths r hb).1 (hm.trans hmethod) ⟨part, by rw [hp, hpath]⟩
  · refine ⟨fun r hr => ?_, get_tenant, get_tenant_devices, .inr ⟨rfl, rfl⟩,
      pattern_match_get_tenant_iff.2 ⟨hmethod, hpart⟩⟩
    obtain ⟨hm, hb, hp⟩ := exact_match_iff.1 hr
    obtain ⟨part, hpath, -⟩ := hpart
    exact hkey (hp ▸ (exact_paths r hb).2 (hm.trans hmethod) ⟨part, by rw [hp, hpath]⟩)

/-- Rivals for a path that is no route's own. -/
theorem contested_of_rivals {r r' : Route} {req : HttpRequest} (hexact : ∀ r : Route, ¬exact_match req r.key)
    (hr : Rivals r r') (h : pattern_match req r.key) : Contested req := by
  rcases hr with ⟨rfl, rfl⟩ | ⟨rfl, rfl⟩
  · exact .inl (pattern_match_put_account_iff.1 h)
  · obtain ⟨hmethod, hpart⟩ := pattern_match_get_tenant_iff.1 h
    refine .inr ⟨hmethod, hpart, fun hpath => hexact get_tenant_by_key ?_⟩
    rw [exact_match_iff, hmethod, hpath]
    exact ⟨rfl, by decide, rfl⟩

theorem unambiguous_iff {req : HttpRequest} : Unambiguous req ↔ ¬Contested req := by
  constructor
  · intro hone hcontested
    obtain ⟨hexact, r, r', hr, h⟩ := exists_rivals_of_contested hcontested
    have heq := hone hexact r r' h (pattern_match_of_rivals hr h)
    rcases hr with ⟨rfl, rfl⟩ | ⟨rfl, rfl⟩
    · cases heq
    · cases heq
  · intro hnot hexact r r' h h'
    rcases rivals_of_pattern_match h h' with heq | hr | hr
    · exact heq
    · exact absurd (contested_of_rivals hexact hr h) hnot
    · exact absurd (contested_of_rivals hexact hr h') hnot

/-- One handler runs in every order of the table, and one pattern at most takes
the path, exactly when the request is none of the contested. -/
theorem settled_iff (req : HttpRequest) :
    (Settled req ↔ ¬Contested req) ∧ (Unambiguous req ↔ ¬Contested req) :=
  ⟨settled_iff_unambiguous.trans unambiguous_iff, unambiguous_iff⟩

/-- An account is updated, or its password changed. -/
theorem settled_fails :
    ¬Settled { method := "PUT".toList, path := "/api/v1/accounts/5".toList } ∧
      ¬Unambiguous { method := "PUT".toList, path := "/api/v1/accounts/5".toList } := by
  have hcontested : Contested { method := "PUT".toList, path := "/api/v1/accounts/5".toList } :=
    .inl ⟨rfl, "5".toList, by decide⟩
  have hboth : ¬Unambiguous { method := "PUT".toList, path := "/api/v1/accounts/5".toList } :=
    fun h => unambiguous_iff.1 h hcontested
  exact ⟨fun h => hboth (settled_iff_unambiguous.1 h), hboth⟩

end DevSys.Route
