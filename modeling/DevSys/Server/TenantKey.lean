import DevSys.Lib.Runs
import DevSys.Lib.Strings
/-!
# The key and the name of the MQTT tenant

One row holds both. A request saves its key with the name that it reads, and
then its name with the key that it reads, so requests at the same time may mix.
-/
open Cxx Runs

namespace DevSys

/-- The row of `mqtt_tenant_config`. -/
structure TenantConfig where
  tenant_key : Str := []
  tenant_name : Str := []
  deriving DecidableEq

/-- What the database server makes of a statement: the new row, or the rows of the result. -/
structure Backend where
  execute : Str → TenantConfig → TenantConfig
  query : Str → TenantConfig → Option (List (List Str))

namespace Backend

def select_text (field : Str) : Str := "SELECT ".toList ++ field ++ " FROM mqtt_tenant_config WHERE id=1".toList

/-- The texts are not escaped. -/
def update_text (key name : Str) : Str :=
  "UPDATE mqtt_tenant_config SET tenant_key='".toList ++ key ++ "', tenant_name='".toList ++ name ++
    "' WHERE id=1".toList

def load_tenant_config (db : Backend) (field : Str) (c : TenantConfig) : Str :=
  match db.query (select_text field) c with
  | some ((text :: _) :: _) => text
  | _ => []

def save_tenant_config (db : Backend) (key name : Str) (c : TenantConfig) : TenantConfig :=
  db.execute (update_text key name) c

/-- A text that a literal of the statement takes as it is. -/
def Plain (s : Str) : Prop := '\'' ∉ s ∧ '\x00' ∉ s

/-- The statements do what SQL says. -/
structure Lawful (db : Backend) : Prop where
  select_key : ∀ c, db.query (select_text "tenant_key".toList) c = some [[c.tenant_key]]
  select_name : ∀ c, db.query (select_text "tenant_name".toList) c = some [[c.tenant_name]]
  update : ∀ key name c, Plain key → Plain name → db.execute (update_text key name) c = ⟨key, name⟩

theorem Lawful.load_key {db : Backend} (hdb : db.Lawful) (c : TenantConfig) :
    db.load_tenant_config "tenant_key".toList c = c.tenant_key := by
  rw [load_tenant_config, hdb.select_key]

theorem Lawful.load_name {db : Backend} (hdb : db.Lawful) (c : TenantConfig) :
    db.load_tenant_config "tenant_name".toList c = c.tenant_name := by
  rw [load_tenant_config, hdb.select_name]

theorem Lawful.save {db : Backend} (hdb : db.Lawful) {key name : Str} (hkey : Plain key) (hname : Plain name)
    (c : TenantConfig) : db.save_tenant_config key name c = ⟨key, name⟩ :=
  hdb.update key name c hkey hname

/-! ## The handlers -/

variable (db : Backend)

def save_tenant_key (key : Str) (c : TenantConfig) : TenantConfig :=
  db.save_tenant_config key (db.load_tenant_config "tenant_name".toList c) c

def save_tenant_name (name : Str) (c : TenantConfig) : TenantConfig :=
  db.save_tenant_config (db.load_tenant_config "tenant_key".toList c) name c

/-- How far a request is. -/
inductive Stage where
  | verified
  | name_loaded (name : Str)
  | key_saved
  | key_loaded (key : Str)
  | done

/-- A request to assign `key`, which was verified with `name`. -/
structure Put where
  key : Str
  name : Str
  stage : Stage := .verified

/-- The next database statement of a request. -/
def next (p : Put) (c : TenantConfig) : Put × TenantConfig :=
  match p.stage with
  | .verified => ({ p with stage := .name_loaded (db.load_tenant_config "tenant_name".toList c) }, c)
  | .name_loaded name => ({ p with stage := .key_saved }, db.save_tenant_config p.key name c)
  | .key_saved => ({ p with stage := .key_loaded (db.load_tenant_config "tenant_key".toList c) }, c)
  | .key_loaded key => ({ p with stage := .done }, db.save_tenant_config key p.name c)
  | .done => (p, c)

/-- The row and the requests. -/
structure Puts where
  config : TenantConfig
  puts : List Put

def start (c : TenantConfig) (requests : List (Str × Str)) : Puts :=
  ⟨c, requests.map fun r => { key := r.1, name := r.2 }⟩

/-- The request with the number goes on. -/
def Acts (s : Puts) (i : Nat) (s' : Puts) : Prop :=
  ∃ p, s.puts[i]? = some p ∧ p.stage ≠ .done ∧ s' = ⟨(db.next p s.config).2, s.puts.set i (db.next p s.config).1⟩

/-- The row is one of the verified pairs. -/
def Paired (requests : List (Str × Str)) (c : TenantConfig) : Prop := (c.tenant_key, c.tenant_name) ∈ requests

def Finished (s : Puts) : Prop := ∀ p ∈ s.puts, p.stage = .done

/-- The statement is an update. -/
def Wrote (u : Puts × Nat) : Prop :=
  ∃ p, u.1.puts[u.2]? = some p ∧ ((∃ name, p.stage = .name_loaded name) ∨ ∃ key, p.stage = .key_loaded key)

/-- The request is about to load the key. -/
def Loads (u : Puts × Nat) : Prop := ∃ p, u.1.puts[u.2]? = some p ∧ p.stage = .key_saved

/-- The last update of the run saves `name`; `key` was in the row when its request loaded it. -/
def LastPair (tr : List (Puts × Nat)) (key name : Str) : Prop :=
  ∃ pre v post p k, tr = pre ++ v :: post ∧ v.1.puts[v.2]? = some p ∧ p.stage = .key_loaded k ∧
    (∀ w ∈ post, ¬Wrote w) ∧ name = p.name ∧
      ∃ u ∈ tr, u.2 = v.2 ∧ Loads u ∧ key = u.1.config.tenant_key

/-! ## Undisturbed -/

variable {db}

/-- The statements of one request in a row are the two saves. -/
theorem next_in_a_row (p : Put) (hp : p.stage = .verified) (c : TenantConfig) :
    let p₁ := db.next p c
    let p₂ := db.next p₁.1 p₁.2
    let p₃ := db.next p₂.1 p₂.2
    db.next p₃.1 p₃.2 = ({ p with stage := .done }, db.save_tenant_name p.name (db.save_tenant_key p.key c)) := by
  simp only [next, hp]
  rfl

/-! ## One statement -/

section
variable {tr : List (Puts × Nat)} {s : Puts} {i j : Nat} {p : Put} {key name : Str}

theorem loads_iff (hp : s.puts[j]? = some p) : Loads (s, j) ↔ p.stage = .key_saved := by
  constructor
  · rintro ⟨q, hq, hstage⟩
    obtain rfl := Option.some.inj (hp.symm.trans hq)
    exact hstage
  · exact fun hstage => ⟨p, hp, hstage⟩

theorem wrote_iff (hp : s.puts[j]? = some p) :
    Wrote (s, j) ↔ (∃ name, p.stage = .name_loaded name) ∨ ∃ key, p.stage = .key_loaded key := by
  constructor
  · rintro ⟨q, hq, hstage⟩
    obtain rfl := Option.some.inj (hp.symm.trans hq)
    exact hstage
  · exact fun hstage => ⟨p, hp, hstage⟩

/-- A statement that neither updates nor loads a key. -/
theorem lastPair_snoc_quiet (hw : ¬Wrote (s, j)) (hl : ¬Loads (s, j)) :
    LastPair (tr ++ [(s, j)]) key name ↔ LastPair tr key name := by
  constructor
  · rintro ⟨pre, v, post, p, k, heq, hp, hstage, hpost, hname, u, hu, hui, hload, hkey⟩
    rcases snoc_eq_split_iff.1 heq with ⟨-, rfl, -⟩ | ⟨mid, rfl, rfl⟩
    · exact absurd ⟨p, hp, .inr ⟨k, hstage⟩⟩ hw
    · refine ⟨pre, v, mid, p, k, rfl, hp, hstage, fun w hmem => hpost w (List.mem_append_left _ hmem), hname, u, ?_, hui,
        hload, hkey⟩
      rcases List.mem_append.1 hu with hu | hu
      · exact hu
      · exact absurd (List.mem_singleton.1 hu ▸ hload) hl
  · rintro ⟨pre, v, post, p, k, rfl, hp, hstage, hpost, hname, u, hu, hui, hload, hkey⟩
    refine ⟨pre, v, post ++ [(s, j)], p, k, by simp, hp, hstage, ?_, hname, u, List.mem_append_left _ hu, hui, hload, hkey⟩
    rw [List.forall_mem_append, List.forall_mem_singleton]
    exact ⟨hpost, hw⟩

/-- The update of the name. -/
theorem lastPair_snoc_last {k : Str} (hp : s.puts[j]? = some p) (hk : p.stage = .key_loaded k) :
    LastPair (tr ++ [(s, j)]) key name ↔
      name = p.name ∧ ∃ u ∈ tr, u.2 = j ∧ Loads u ∧ key = u.1.config.tenant_key := by
  have hw : Wrote (s, j) := (wrote_iff hp).2 (.inr ⟨k, hk⟩)
  have hl : ¬Loads (s, j) := fun h => by
    rw [loads_iff hp, hk] at h
    cases h
  constructor
  · rintro ⟨pre, v, post, q, k, heq, hq, hstage, hpost, hname, u, hu, hui, hload, hkey⟩
    rcases snoc_eq_split_iff.1 heq with ⟨-, rfl, -⟩ | ⟨mid, -, rfl⟩
    · obtain rfl := Option.some.inj (hp.symm.trans hq)
      refine ⟨hname, u, ?_, hui, hload, hkey⟩
      rcases List.mem_append.1 hu with hu | hu
      · exact hu
      · exact absurd (List.mem_singleton.1 hu ▸ hload) hl
    · exact absurd hw (hpost (s, j) (by simp))
  · rintro ⟨hname, u, hu, hui, hload, hkey⟩
    exact ⟨tr, (s, j), [], p, k, rfl, hp, hk, by simp, hname, u, List.mem_append_left _ hu, hui, hload, hkey⟩

end

/-! ## What a request recalls -/

def NotLoaded (tr : List (Puts × Nat)) (i : Nat) : Prop := ∀ u ∈ tr, u.2 = i → ¬Loads u

/-- What the run so far says of a request at a stage. -/
def Recalls (tr : List (Puts × Nat)) (i : Nat) : Stage → Prop
  | .verified => NotLoaded tr i
  | .name_loaded _ => NotLoaded tr i
  | .key_saved => NotLoaded tr i
  | .key_loaded key =>
    (∃ u ∈ tr, u.2 = i ∧ Loads u) ∧
      ∀ u ∈ tr, u.2 = i → Loads u → u.1.config.tenant_key = key
  | .done => True

section
variable {tr : List (Puts × Nat)} {s : Puts} {i j : Nat}

theorem notLoaded_snoc : NotLoaded (tr ++ [(s, j)]) i ↔ NotLoaded tr i ∧ (j = i → ¬Loads (s, j)) := by
  rw [NotLoaded, List.forall_mem_append, List.forall_mem_singleton, NotLoaded]

/-- The others go on. -/
theorem recalls_snoc_ne (hij : j ≠ i) {stage : Stage} (h : Recalls tr i stage) :
    Recalls (tr ++ [(s, j)]) i stage := by
  have hnot : NotLoaded tr i → NotLoaded (tr ++ [(s, j)]) i :=
    fun hn => notLoaded_snoc.2 ⟨hn, fun heq => absurd heq hij⟩
  cases stage with
  | verified => exact hnot h
  | name_loaded name => exact hnot h
  | key_saved => exact hnot h
  | key_loaded key =>
    obtain ⟨⟨u, hu, hui, hload⟩, hall⟩ := h
    refine ⟨⟨u, List.mem_append_left _ hu, hui, hload⟩, ?_⟩
    rw [List.forall_mem_append, List.forall_mem_singleton]
    exact ⟨hall, fun heq => absurd heq hij⟩
  | done => trivial

/-- The request itself goes on. -/
theorem recalls_next (hdb : db.Lawful) {p : Put} (hp : s.puts[j]? = some p) (hdone : p.stage ≠ .done) (h : Recalls tr j p.stage) :
    Recalls (tr ++ [(s, j)]) j (db.next p s.config).1.stage := by
  have hload := loads_iff hp
  unfold next
  cases hstage : p.stage with
  | verified =>
    rw [hstage] at h hload
    exact notLoaded_snoc.2 ⟨h, fun _ hl => by cases hload.1 hl⟩
  | name_loaded name =>
    rw [hstage] at h hload
    exact notLoaded_snoc.2 ⟨h, fun _ hl => by cases hload.1 hl⟩
  | key_saved =>
    rw [hstage] at h hload
    refine ⟨⟨(s, j), by simp, rfl, hload.2 rfl⟩, ?_⟩
    rw [List.forall_mem_append, List.forall_mem_singleton]
    exact ⟨fun u hu huj hl => absurd hl (h u hu huj), fun _ _ => (hdb.load_key s.config).symm⟩
  | key_loaded key => trivial
  | done => exact absurd hstage hdone

end

theorem recalls_run (hdb : db.Lawful) {c : TenantConfig} {requests : List (Str × Str)} {tr : List (Puts × Nat)} {s : Puts}
    (h : Run (Acts db) (start c requests) tr s) (i : Nat) (p : Put) (hp : s.puts[i]? = some p) :
    Recalls tr i p.stage := by
  induction h generalizing p with
  | nil =>
    rw [start, List.getElem?_map, Option.map_eq_some_iff] at hp
    obtain ⟨r, -, rfl⟩ := hp
    exact fun u hu => absurd hu List.not_mem_nil
  | @snoc tr s j s' _ hstep ih =>
    obtain ⟨q, hq, hdone, rfl⟩ := hstep
    by_cases hij : j = i
    · subst hij
      rw [List.getElem?_set_self (List.getElem?_eq_some_iff.1 hq).1] at hp
      rw [← Option.some.inj hp]
      exact recalls_next hdb hq hdone (ih q hq)
    · rw [List.getElem?_set_ne hij] at hp
      exact recalls_snoc_ne hij (ih p hp)

/-! ## How far the run is -/

/-- No request has written yet. -/
def Early (s : Puts) : Prop := ∀ p ∈ s.puts, p.stage = .verified ∨ ∃ name, p.stage = .name_loaded name

/-- A request has saved its key and not yet its name. -/
def HalfWay (s : Puts) : Prop :=
  ∃ (i : Nat) (p : Put), s.puts[i]? = some p ∧ (p.stage = .key_saved ∨ ∃ key, p.stage = .key_loaded key)

/-- The last update was of a name. -/
def NameLast (db : Backend) (tr : List (Puts × Nat)) (s : Puts) : Prop :=
  ∃ k n c, s.config = db.save_tenant_config k n c ∧ ∀ key name, LastPair tr key name ↔ key = k ∧ name = n

inductive Phase (db : Backend) (tr : List (Puts × Nat)) (s : Puts) : Prop
  | early : Early s → (∀ u ∈ tr, ¬Wrote u) → Phase db tr s
  | half_way : HalfWay s → Phase db tr s
  | name_last : NameLast db tr s → Phase db tr s

theorem phase_step {tr : List (Puts × Nat)} {s s' : Puts} {j : Nat} (h : Acts db s j s')
    (hrecalls : ∀ p, s.puts[j]? = some p → Recalls tr j p.stage) (hphase : Phase db tr s) :
    Phase db (tr ++ [(s, j)]) s' := by
  obtain ⟨p, hp, hdone, rfl⟩ := h
  have hself (q : Put) : (s.puts.set j q)[j]? = some q := List.getElem?_set_self (List.getElem?_eq_some_iff.1 hp).1
  have hrecall := hrecalls p hp
  unfold next
  cases hstage : p.stage with
  | verified =>
    -- nothing is written, and the other requests are where they were
    have hw : ¬Wrote (s, j) := by simp [wrote_iff hp, hstage]
    have hl : ¬Loads (s, j) := by simp [loads_iff hp, hstage]
    cases hphase with
    | early hearly hnone =>
      refine .early (fun q hq => ?_) ?_
      · rcases List.mem_or_eq_of_mem_set hq with hq | rfl
        · exact hearly q hq
        · exact .inr ⟨_, rfl⟩
      · rw [List.forall_mem_append, List.forall_mem_singleton]
        exact ⟨hnone, hw⟩
    | half_way hhalf =>
      obtain ⟨i, q, hq, hhalf⟩ := hhalf
      have hij : j ≠ i := by
        rintro rfl
        obtain rfl := Option.some.inj (hp.symm.trans hq)
        simp [hstage] at hhalf
      exact .half_way ⟨i, q, (List.getElem?_set_ne hij).trans hq, hhalf⟩
    | name_last hlast =>
      obtain ⟨k, n, c, hconfig, hlast⟩ := hlast
      refine .name_last ⟨k, n, c, hconfig, fun key name => ?_⟩
      rw [lastPair_snoc_quiet hw hl, hlast]
  | name_loaded name => exact .half_way ⟨j, _, hself _, .inl rfl⟩
  | key_saved => exact .half_way ⟨j, _, hself _, .inr ⟨_, rfl⟩⟩
  | key_loaded k =>
    rw [hstage] at hrecall
    obtain ⟨⟨u, hu, huj, hl⟩, hall⟩ := hrecall
    refine .name_last ⟨k, p.name, s.config, rfl, fun key name => ?_⟩
    rw [lastPair_snoc_last hp hstage]
    constructor
    · rintro ⟨hname, u, hu, huj, hl, hkey⟩
      exact ⟨hkey.trans (hall u hu huj hl), hname⟩
    · rintro ⟨rfl, rfl⟩
      exact ⟨rfl, u, hu, huj, hl, (hall u hu huj hl).symm⟩
  | done => exact absurd hstage hdone

section
variable {c : TenantConfig} {requests : List (Str × Str)} {tr : List (Puts × Nat)} {s : Puts}

theorem phase_run (hdb : db.Lawful) (h : Run (Acts db) (start c requests) tr s) : Phase db tr s := by
  induction h with
  | nil =>
    refine .early (fun p hp => ?_) (by simp)
    obtain ⟨r, -, rfl⟩ := List.mem_map.1 hp
    exact .inl rfl
  | snoc hrun hstep ih => exact phase_step hstep (recalls_run hdb hrun _) ih

theorem length_puts_run (h : Run (Acts db) (start c requests) tr s) : s.puts.length = requests.length := by
  induction h with
  | nil => exact List.length_map _
  | snoc _ hstep ih =>
    obtain ⟨p, -, -, rfl⟩ := hstep
    rw [List.length_set, ih]

/-! ## Any interleaving -/

/-- When all requests have finished, the row is a verified pair exactly when the
request that writes last has found, when it loaded the key, one that was verified
with its name. -/
theorem paired_iff (hdb : db.Lawful) (h : Run (Acts db) (start c requests) tr s) (hfinished : Finished s)
    (hplain : ∀ key name, LastPair tr key name → Plain key ∧ Plain name) :
    Paired requests s.config ↔ ∃ key name, LastPair tr key name ∧ (key, name) ∈ requests := by
  cases phase_run hdb h with
  | early hearly =>
    have hputs : s.puts = [] := by
      rw [List.eq_nil_iff_forall_not_mem]
      intro p hp
      have hstage := hearly p hp
      simp [hfinished p hp] at hstage
    have hnone : requests = [] := by
      rw [← List.length_eq_zero_iff, ← length_puts_run h, hputs, List.length_nil]
    simp [hnone, Paired]
  | half_way hhalf =>
    obtain ⟨i, p, hp, hhalf⟩ := hhalf
    simp [hfinished p (List.mem_of_getElem? hp)] at hhalf
  | name_last hlast =>
    obtain ⟨k, n, c', hconfig, hlast⟩ := hlast
    have hpair : LastPair tr k n := (hlast k n).2 ⟨rfl, rfl⟩
    obtain ⟨hk, hn⟩ := hplain k n hpair
    rw [Paired, hconfig, hdb.save hk hn]
    constructor
    · exact fun hmem => ⟨k, n, hpair, hmem⟩
    · rintro ⟨key, name, hkn, hmem⟩
      obtain ⟨rfl, rfl⟩ := (hlast key name).1 hkn
      exact hmem

end

/-! ## Two requests -/

section
variable {s : Puts} {i : Nat} {key name text : Str}

theorem acts_load_name (hdb : db.Lawful) (hp : s.puts[i]? = some ⟨key, name, .verified⟩) :
    Acts db s i ⟨s.config, s.puts.set i ⟨key, name, .name_loaded s.config.tenant_name⟩⟩ := by
  refine ⟨_, hp, nofun, ?_⟩
  rw [next, hdb.load_name]

theorem acts_save_key (hdb : db.Lawful) (hp : s.puts[i]? = some ⟨key, name, .name_loaded text⟩) (hkey : Plain key)
    (htext : Plain text) : Acts db s i ⟨⟨key, text⟩, s.puts.set i ⟨key, name, .key_saved⟩⟩ := by
  refine ⟨_, hp, nofun, ?_⟩
  simp only [next, hdb.save hkey htext]

theorem acts_load_key (hdb : db.Lawful) (hp : s.puts[i]? = some ⟨key, name, .key_saved⟩) :
    Acts db s i ⟨s.config, s.puts.set i ⟨key, name, .key_loaded s.config.tenant_key⟩⟩ := by
  refine ⟨_, hp, nofun, ?_⟩
  rw [next, hdb.load_key]

theorem acts_save_name (hdb : db.Lawful) (hp : s.puts[i]? = some ⟨key, name, .key_loaded text⟩) (htext : Plain text)
    (hname : Plain name) : Acts db s i ⟨⟨text, name⟩, s.puts.set i ⟨key, name, .done⟩⟩ := by
  refine ⟨_, hp, nofun, ?_⟩
  simp only [next, hdb.save htext hname]

end

/-- The texts of an update between the texts around them. -/
def read_update (set_key set_name sql : Str) : TenantConfig :=
  let rest := sql.drop set_key.length
  let key := rest.takeWhile (· ≠ '\'')
  ⟨key, ((rest.drop key.length).drop set_name.length).takeWhile (· ≠ '\'')⟩

theorem takeWhile_plain {s : Str} (h : Plain s) (rest : Str) : (s ++ '\'' :: rest).takeWhile (· ≠ '\'') = s := by
  rw [takeWhile_append_stop _ _ (by decide), List.takeWhile_eq_self_iff]
  intro c hc
  simpa using fun heq : c = '\'' => h.1 (heq ▸ hc)

theorem read_update_eq {key name : Str} (hkey : Plain key) (hname : Plain name) (a b c : Str) :
    read_update a ('\'' :: b) (a ++ key ++ '\'' :: b ++ name ++ '\'' :: c) = ⟨key, name⟩ := by
  rw [read_update, List.append_assoc, List.append_assoc, List.append_assoc, List.drop_left]
  rw [List.cons_append, takeWhile_plain hkey, List.drop_left, ← List.cons_append, List.drop_left, takeWhile_plain hname]

/-- A server that reads the statements above. -/
def server : Backend where
  execute sql _ := read_update "UPDATE mqtt_tenant_config SET tenant_key='".toList "', tenant_name='".toList sql
  query sql c :=
    if sql = select_text "tenant_key".toList then some [[c.tenant_key]]
    else if sql = select_text "tenant_name".toList then some [[c.tenant_name]]
    else none

theorem lawful_server : server.Lawful where
  select_key c := by
    simp only [server, if_pos]
  select_name c := by
    have hne : select_text "tenant_name".toList ≠ select_text "tenant_key".toList := by decide
    simp only [server, if_neg hne, if_pos]
  update key name c hkey hname := by
    have hmid : "', tenant_name='".toList = '\'' :: ", tenant_name='".toList := by decide
    have hend : "' WHERE id=1".toList = '\'' :: " WHERE id=1".toList := by decide
    have hread := read_update_eq hkey hname "UPDATE mqtt_tenant_config SET tenant_key='".toList
      ", tenant_name='".toList " WHERE id=1".toList
    rw [← hmid, ← hend] at hread
    exact hread

theorem plain_texts :
    Plain "k-1".toList ∧ Plain "k-2".toList ∧ Plain "Acme".toList ∧ Plain "Globex".toList ∧ Plain [] := by
  unfold Plain
  decide

/-- The second request loads the name before the first one begins and its key after
that has finished: its pair is the one in the row. -/
theorem paired_around :
    ∃ tr s, Run (Acts server) (start {} [("k-1".toList, "Acme".toList), ("k-2".toList, "Globex".toList)]) tr s ∧
      Finished s ∧ tr.map (·.2) = [1, 0, 0, 1, 0, 0, 1, 1] ∧
      Paired [("k-1".toList, "Acme".toList), ("k-2".toList, "Globex".toList)] s.config := by
  obtain ⟨hk₁, hk₂, hn₁, hn₂, hnil⟩ := plain_texts
  let begun := start {} [("k-1".toList, "Acme".toList), ("k-2".toList, "Globex".toList)]
  have h₁ : Run (Acts server) begun _ _ := Run.nil.snoc (acts_load_name lawful_server (i := 1) rfl)
  have h₂ := h₁.snoc (acts_load_name lawful_server (i := 0) rfl)
  have h₃ := h₂.snoc (acts_save_key lawful_server (i := 0) rfl hk₁ hnil)
  have h₄ := h₃.snoc (acts_save_key lawful_server (i := 1) rfl hk₂ hnil)
  have h₅ := h₄.snoc (acts_load_key lawful_server (i := 0) rfl)
  have h₆ := h₅.snoc (acts_save_name lawful_server (i := 0) rfl hk₂ hn₁)
  have h₇ := h₆.snoc (acts_load_key lawful_server (i := 1) rfl)
  have h₈ := h₇.snoc (acts_save_name lawful_server (i := 1) rfl hk₂ hn₂)
  have hfinished : ∀ p ∈ [(⟨"k-1".toList, "Acme".toList, .done⟩ : Put), ⟨"k-2".toList, "Globex".toList, .done⟩],
      p.stage = .done := by
    simp
  refine ⟨_, _, h₈, hfinished, rfl, (paired_iff lawful_server h₈ hfinished ?_).2 ?_⟩
  · intro key name hlast
    rw [lastPair_snoc_last rfl rfl] at hlast
    obtain ⟨rfl, u, hu, hsecond, hload, rfl⟩ := hlast
    -- the key was loaded by the statement before
    simp only [List.nil_append, List.cons_append, List.mem_cons, List.not_mem_nil, or_false] at hu
    rcases hu with rfl | rfl | rfl | rfl | rfl | rfl | rfl
    · cases (loads_iff rfl).1 hload
    · cases hsecond
    · cases hsecond
    · cases (loads_iff rfl).1 hload
    · cases hsecond
    · cases hsecond
    · exact ⟨hk₂, hn₂⟩
  · refine ⟨_, _, (lastPair_snoc_last rfl rfl).2 ⟨rfl, _, List.mem_append_right _ List.mem_cons_self, rfl, ?_, rfl⟩, ?_⟩
    · exact (loads_iff rfl).2 rfl
    · decide

/-- The second request saves its key between the two saves of the first, and
its name before the first does. -/
theorem paired_fails :
    ∃ tr s, Run (Acts server) (start {} [("k-1".toList, "Acme".toList), ("k-2".toList, "Globex".toList)]) tr s ∧
      Finished s ∧ ¬Paired [("k-1".toList, "Acme".toList), ("k-2".toList, "Globex".toList)] s.config := by
  obtain ⟨hk₁, hk₂, hn₁, hn₂, hnil⟩ := plain_texts
  let begun := start {} [("k-1".toList, "Acme".toList), ("k-2".toList, "Globex".toList)]
  have h₁ : Run (Acts server) begun _ _ := Run.nil.snoc (acts_load_name lawful_server (i := 0) rfl)
  have h₂ := h₁.snoc (acts_save_key lawful_server (i := 0) rfl hk₁ hnil)
  have h₃ := h₂.snoc (acts_load_name lawful_server (i := 1) rfl)
  have h₄ := h₃.snoc (acts_save_key lawful_server (i := 1) rfl hk₂ hnil)
  have h₅ := h₄.snoc (acts_load_key lawful_server (i := 1) rfl)
  have h₆ := h₅.snoc (acts_load_key lawful_server (i := 0) rfl)
  have h₇ := h₆.snoc (acts_save_name lawful_server (i := 1) rfl hk₂ hn₂)
  have h₈ := h₇.snoc (acts_save_name lawful_server (i := 0) rfl hk₂ hn₁)
  refine ⟨_, _, h₈, ?_, ?_⟩
  · intro p hp
    simp [start, begun] at hp
    rcases hp with rfl | rfl <;> rfl
  · unfold Paired
    decide

end Backend

end DevSys
