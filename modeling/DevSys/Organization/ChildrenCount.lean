import DevSys.Organization.Directory
/-!
# The number of children

`children_count` is kept by hand: a creation adds one to it in memory, behind
the write of the row. A deletion takes nothing away, and the table does not see
the addition until the parent is updated.
-/
open Cxx Runs Numbered

namespace DevSys.OrgStore
open Database Directory

/-! ## Runs -/

inductive Event where
  | create_org (now : Str) (info : OrgInfo)
  | update_org (now : Str) (org_id : Int32) (info : OrgInfo)
  | delete_org (org_id : Int32)
  /-- A fresh manager loads the table. -/
  | reload

def Event.apply : Event → OrgStore → OrgStore
  | .create_org now info, s => (s.create_org now info).2.2
  | .update_org now org_id info, s => (s.update_org now org_id info).2
  | .delete_org org_id, s => (s.delete_org org_id).2
  | .reload, s => s.restart

/-- Giving out the last id would overflow the counter, which is undefined. -/
def Event.Defined (s : OrgStore) : Event → Prop
  | .create_org now info => (s.create_org now info).1 = .OK → s.mgr.next_id_ < Int32.maxValue
  | _ => True

def Step (s : OrgStore) (e : Event) (s' : OrgStore) : Prop := e.Defined s ∧ s' = e.apply s

/-! ## Counting -/

/-- The organisations with this parent. -/
def kids (orgs : List OrgInfo) (org_id : Int32) : Nat := orgs.countP (·.parent_id = org_id)

/-- Every organisation has the number of its children. -/
def Counted (orgs : List OrgInfo) : Prop := ∀ o ∈ orgs, o.children_count.toInt = kids orgs o.org_id

theorem kids_perm {orgs orgs' : List OrgInfo} (h : (orgs'.map (·.parent_id)).Perm (orgs.map (·.parent_id)))
    (org_id : Int32) : kids orgs' org_id = kids orgs org_id := by
  have hcount := h.countP_eq (· = org_id)
  rw [List.countP_map, List.countP_map] at hcount
  exact hcount

theorem kids_append (orgs : List OrgInfo) (a : OrgInfo) (org_id : Int32) :
    kids (orgs ++ [a]) org_id = kids orgs org_id + if a.parent_id = org_id then 1 else 0 := by
  rw [kids, List.countP_append, List.countP_singleton]
  simp [kids]

/-- A deleted organisation is one child less of its parent. -/
theorem kids_delete {orgs : List OrgInfo} (hids : (orgs.map (·.org_id)).Nodup) {x : OrgInfo} (hx : x ∈ orgs)
    (org_id : Int32) :
    kids orgs org_id = kids (Rows.delete OrgInfo.org_id x.org_id orgs) org_id +
      if x.parent_id = org_id then 1 else 0 := by
  have hfind : orgs.find? (·.org_id = x.org_id) = some x := (Rows.find?_eq_some_iff hids).2 ⟨hx, rfl⟩
  have hperm := FirstMatch.perm_cons_eraseP hfind
  rw [Rows.eraseP_eq_delete hids] at hperm
  rw [kids, hperm.countP_eq, List.countP_cons]
  simp [kids]

/-- What counting looks at. -/
def tally (o : OrgInfo) : Int32 × Int32 × Int32 := (o.org_id, o.parent_id, o.children_count)

theorem counted_iff (orgs : List OrgInfo) :
    Counted orgs ↔ ∀ x ∈ orgs.map tally, x.2.2.toInt = (orgs.map tally).countP (·.2.1 = x.1) := by
  simp only [List.forall_mem_map, List.countP_map]
  rfl

theorem counted_congr {orgs orgs' : List OrgInfo} (h : orgs'.map tally = orgs.map tally) :
    Counted orgs' ↔ Counted orgs := by
  rw [counted_iff, counted_iff, h]

/-! ## What is known of ids -/

/-- Memory and table agree, and children come after their parents. -/
structure Sound (s : OrgStore) : Prop where
  stored : Stored OrgInfo.org_id orgLink s.mgr.next_id_ s.mgr.orgs_ s.orgs
  parents : ∀ l ∈ s.mgr.orgs_.map orgLink, 0 ≤ l.2.1.toInt ∧ l.2.1.toInt < l.1.toInt

theorem sound_empty : Sound {} := ⟨stored_empty _ _, by simp⟩

section
variable {s : OrgStore} (hi : Sound s)
include hi

theorem Sound.id_pos {o : OrgInfo} (ho : o ∈ s.mgr.orgs_) : 0 < o.org_id.toInt := by
  have hb := hi.parents _ (List.mem_map_of_mem ho)
  exact Int.lt_of_le_of_lt hb.1 hb.2

/-- An accepted parent is no organisation or one that has its id already. -/
theorem Sound.parent_lt {info : OrgInfo} (hp : s.mgr.checkParent info = none) :
    0 ≤ info.parent_id.toInt ∧ info.parent_id.toInt < s.mgr.next_id_.toInt := by
  refine OrgManager.parent_lt_next hi.stored.pos (fun o ho => ?_) hp
  exact ⟨Int.le_of_lt (hi.id_pos ho), hi.stored.lt_next o ho⟩

theorem Sound.step {e : Event} {s' : OrgStore} (hstep : Step s e s') : Sound s' := by
  obtain ⟨hdef, rfl⟩ := hstep
  cases e with
  | create_org now info =>
    rcases stored_create_org hi.stored now info with ⟨-, hs⟩ | ⟨hsc, hp, ho, hstored⟩
    · rw [Event.apply, hs]
      exact hi
    · refine ⟨hstored (hdef hsc), ?_⟩
      rw [Event.apply, ho]
      intro l hl
      rcases List.mem_append.1 hl with hl | hl
      · exact hi.parents l hl
      · rw [List.mem_singleton.1 hl]
        exact hi.parent_lt hp
  | update_org now org_id info =>
    obtain ⟨ho, hstored⟩ := stored_update_org hi.stored now org_id info
    refine ⟨hstored, ?_⟩
    rw [Event.apply, ho]
    exact hi.parents
  | delete_org org_id =>
    rcases stored_delete_org hi.stored org_id with ⟨-, hs⟩ | ⟨-, ho, hstored⟩
    · rw [Event.apply, hs]
      exact hi
    · refine ⟨hstored, ?_⟩
      rw [Event.apply, ho]
      exact fun l hl => hi.parents l (List.mem_of_mem_filter hl)
  | reload =>
    obtain ⟨ho, hstored⟩ := stored_restart_orgs hi.stored
    exact ⟨hstored, fun l hl => hi.parents l (ho.subset hl)⟩

/-- There are fewer organisations than ids. -/
theorem Sound.length_le : (s.mgr.orgs_.length : Int) ≤ s.mgr.next_id_.toInt := by
  have hnodup : (s.mgr.orgs_.map fun o => o.org_id.toInt.toNat).Nodup := by
    refine List.Nodup.map_on (fun o ho o' ho' heq => ?_) (List.Nodup.of_map _ hi.stored.nodup)
    have hpos := hi.id_pos ho
    have hpos' := hi.id_pos ho'
    refine List.inj_on_of_nodup_map hi.stored.nodup ho ho' (Int32.toInt_inj.1 ?_)
    omega
  have hsub : (s.mgr.orgs_.map fun o => o.org_id.toInt.toNat) ⊆ List.range s.mgr.next_id_.toInt.toNat := by
    intro n hn
    obtain ⟨o, ho, rfl⟩ := List.mem_map.1 hn
    have hlt := hi.stored.lt_next o ho
    have hpos := hi.stored.pos
    rw [List.mem_range]
    omega
  have hle := (List.subperm_of_subset hnodup hsub).length_le
  rw [List.length_map, List.length_range] at hle
  have hpos := hi.stored.pos
  omega

/-! ## Which step keeps the numbers -/

/-- A child more. -/
def addChild (o : OrgInfo) : OrgInfo := { o with children_count := o.children_count + 1 }

omit hi in
theorem countChild_eq_update {orgs : List OrgInfo} (hids : (orgs.map (·.org_id)).Nodup) (parent_id : Int32) :
    OrgManager.countChild parent_id orgs = Rows.update OrgInfo.org_id parent_id addChild orgs := by
  unfold OrgManager.countChild
  rcases Rows.findIdx?_cases hids parent_id with ⟨hnone, habsent⟩ | ⟨i, r, hfind, -, -, -, hmodify⟩
  · rw [hnone]
    exact (Rows.update_of_absent habsent addChild).symm
  · rw [hfind]
    exact hmodify addChild

theorem Sound.ids_append (now : Str) (info : OrgInfo) :
    ((s.mgr.orgs_ ++ [s.mgr.assigned now info]).map (·.org_id)).Nodup := by
  rw [List.map_append, List.map_singleton, OrgManager.assigned_org_id]
  exact hi.stored.nodup.append (List.nodup_singleton _) (List.disjoint_singleton.2 hi.stored.fresh)

/-- A creation appends the new organisation, and its parent has one child more. -/
theorem Sound.orgs_create {now : Str} {info : OrgInfo} (hsc : (s.create_org now info).1 = .OK) :
    (s.create_org now info).2.2.mgr.orgs_ =
      Rows.update OrgInfo.org_id info.parent_id addChild (s.mgr.orgs_ ++ [s.mgr.assigned now info]) := by
  obtain ⟨hp, ht⟩ := (OrgManager.create_org_ok_iff now info s.mgr).1 hsc
  have horgs : (s.create_org now info).2.2.mgr.orgs_ = (s.mgr.create_org now info).2.2.orgs_ := rfl
  rw [horgs, OrgManager.create_org, hp]
  dsimp only
  rw [if_neg (by simp [ht]), OrgManager.assigned_parent_id]
  by_cases h0 : info.parent_id = 0
  · -- no organisation has the id 0
    rw [if_neg (not_not.2 h0), h0, Rows.update_of_absent]
    intro hmem
    obtain ⟨o, ho, hid⟩ := List.mem_map.1 hmem
    have hpos : 0 < o.org_id.toInt := by
      rcases List.mem_append.1 ho with ho | ho
      · exact hi.id_pos ho
      · rw [List.mem_singleton.1 ho, OrgManager.assigned_org_id]
        exact hi.stored.pos
    rw [hid] at hpos
    exact absurd hpos (by decide)
  · rw [if_pos h0]
    exact countChild_eq_update (hi.ids_append now info) info.parent_id

omit hi in
theorem kids_update_addChild (orgs : List OrgInfo) (parent_id org_id : Int32) :
    kids (Rows.update OrgInfo.org_id parent_id addChild orgs) org_id = kids orgs org_id :=
  kids_perm (.of_eq (Rows.map_update (f := addChild) fun _ _ _ => rfl)) org_id

/-- No organisation has more children than there are ids. -/
theorem Sound.kids_le (org_id : Int32) : (kids s.mgr.orgs_ org_id : Int) ≤ s.mgr.next_id_.toInt := by
  have hlen := hi.length_le
  have hle : kids s.mgr.orgs_ org_id ≤ s.mgr.orgs_.length := List.countP_le_length
  omega

/-- No organisation has the next id for its parent. -/
theorem Sound.kids_next : kids s.mgr.orgs_ s.mgr.next_id_ = 0 := by
  rw [kids, List.countP_eq_zero]
  intro o ho hpar
  have hb := (hi.parents _ (List.mem_map_of_mem ho)).2
  have hlt := hi.stored.lt_next o ho
  have heq : o.parent_id = s.mgr.next_id_ := by simpa using hpar
  dsimp only [orgLink] at hb
  rw [heq] at hb
  omega

/-- The new organisation has no children yet, so it must not come with a number. -/
theorem Sound.counted_create_iff {now : Str} {info : OrgInfo} (hsc : (s.create_org now info).1 = .OK)
    (hlt : s.mgr.next_id_ < Int32.maxValue) (hc : Counted s.mgr.orgs_) :
    Counted (s.create_org now info).2.2.mgr.orgs_ ↔ info.children_count = 0 := by
  obtain ⟨hp, -⟩ := (OrgManager.create_org_ok_iff now info s.mgr).1 hsc
  have hparent := (hi.parent_lt hp).2
  have hkids (org_id : Int32) : kids (s.create_org now info).2.2.mgr.orgs_ org_id =
      kids s.mgr.orgs_ org_id + if info.parent_id = org_id then 1 else 0 := by
    rw [hi.orgs_create hsc, kids_update_addChild, kids_append, OrgManager.assigned_parent_id]
  have hold : ∀ r ∈ s.mgr.orgs_, (if r.org_id = info.parent_id then
      (addChild r).children_count.toInt = kids (s.create_org now info).2.2.mgr.orgs_ (addChild r).org_id
      else r.children_count.toInt = kids (s.create_org now info).2.2.mgr.orgs_ r.org_id) := by
    intro r hr
    by_cases hpar : r.org_id = info.parent_id
    · have hle := hi.kids_le r.org_id
      have hcount := hc r hr
      have hroom : r.children_count < Int32.maxValue := by
        rw [Int32.lt_iff_toInt_lt] at hlt ⊢
        omega
      rw [if_pos hpar, hkids, addChild, if_pos hpar.symm, toInt_succ hroom, hcount]
      rfl
    · rw [if_neg hpar, hkids, if_neg (Ne.symm hpar)]
      exact hc r hr
  have hnew : (s.mgr.assigned now info).org_id ≠ info.parent_id := by
    rw [OrgManager.assigned_org_id]
    intro heq
    rw [← heq] at hparent
    exact absurd hparent (Int.lt_irrefl _)
  rw [Counted, hi.orgs_create hsc, Rows.forall_mem_update, List.forall_mem_append, List.forall_mem_singleton,
    ← hi.orgs_create hsc, if_neg hnew, hkids, OrgManager.assigned_org_id, OrgManager.assigned_children_count,
    hi.kids_next, if_neg (by simpa using Ne.symm hnew)]
  rw [and_iff_right hold, ← Int32.toInt_inj]
  rfl

/-- The parent keeps the number that it had. -/
theorem Sound.counted_delete_iff {x : OrgInfo} (hx : x ∈ s.mgr.orgs_) (hc : Counted s.mgr.orgs_) :
    Counted (Rows.delete OrgInfo.org_id x.org_id s.mgr.orgs_) ↔ s.mgr.org_exists x.parent_id = false := by
  have hlt := (hi.parents _ (List.mem_map_of_mem hx)).2
  have hne : x.parent_id ≠ x.org_id := by
    intro heq
    dsimp only [orgLink] at hlt
    rw [heq] at hlt
    exact absurd hlt (Int.lt_irrefl _)
  have hexists : s.mgr.org_exists x.parent_id = false ↔
      ∀ o ∈ Rows.delete OrgInfo.org_id x.org_id s.mgr.orgs_, o.org_id ≠ x.parent_id := by
    rw [OrgManager.org_exists, OrgManager.get_org, ← Bool.not_eq_true, List.find?_isSome]
    simp only [Rows.delete, List.mem_filter, decide_eq_true_eq, not_exists, not_and]
    exact ⟨fun h o ho => h o ho.1, fun h o ho heq => h o ⟨ho, heq ▸ hne⟩ heq⟩
  rw [hexists]
  refine forall_congr' fun o => forall_congr' fun ho => ?_
  have hkids := kids_delete hi.stored.nodup hx o.org_id
  rw [hc o (List.mem_of_mem_filter ho), hkids]
  by_cases hpar : x.parent_id = o.org_id
  · simp [hpar]
  · simp [hpar, Ne.symm hpar]

/-- The rows have the numbers that were current when they were written. -/
theorem Sound.counted_reload_iff (hc : Counted s.mgr.orgs_) :
    Counted s.restart.mgr.orgs_ ↔
      ∀ r ∈ s.orgs, ∀ o ∈ s.mgr.orgs_, o.org_id = r.org_id → r.children_count = o.children_count := by
  have hload : s.restart.mgr.orgs_ = list_orgs_db s.orgs := by rw [OrgStore.restart, load_orgs_eq]
  have hperm : (list_orgs_db s.orgs).Perm s.orgs := List.mergeSort_perm _ _
  have hkids (org_id : Int32) : kids (list_orgs_db s.orgs) org_id = kids s.mgr.orgs_ org_id := by
    have hlinks := ((hperm.map orgLink).trans hi.stored.same).map (·.2.1)
    rw [List.map_map, List.map_map] at hlinks
    exact kids_perm hlinks org_id
  rw [hload]
  constructor
  · intro h r hr o ho hor
    have hrow := h r (hperm.mem_iff.2 hr)
    rw [hkids, ← hor, ← hc o ho] at hrow
    exact Int32.toInt_inj.1 hrow
  · intro h r hr
    have hr := hperm.mem_iff.1 hr
    obtain ⟨o, ho, hlink⟩ := List.mem_map.1 (hi.stored.same.subset (List.mem_map_of_mem hr))
    have hid : o.org_id = r.org_id := congrArg Prod.fst hlink
    rw [h r hr o ho hid, hkids, ← hid]
    exact hc o ho

end

/-- The steps that leave every organisation with the right number. -/
def KeepsCount (s : OrgStore) : Event → Prop
  | .create_org _ info =>
    s.mgr.checkParent info = none → s.mgr.tenant_exists info.tenant_id = false → info.children_count = 0
  | .update_org _ _ _ => True
  | .delete_org org_id =>
    ∀ o, s.mgr.get_org org_id = some o → s.mgr.has_children org_id = false → s.mgr.org_exists o.parent_id = false
  | .reload => ∀ r ∈ s.orgs, ∀ o ∈ s.mgr.orgs_, o.org_id = r.org_id → r.children_count = o.children_count

theorem counted_step_iff {s s' : OrgStore} {e : Event} (hi : Sound s) (hc : Counted s.mgr.orgs_) (hstep : Step s e s') :
    Counted s'.mgr.orgs_ ↔ KeepsCount s e := by
  obtain ⟨hdef, rfl⟩ := hstep
  cases e with
  | create_org now info =>
    dsimp only [Event.apply, KeepsCount]
    rw [← and_imp, ← OrgManager.create_org_ok_iff now]
    by_cases hsc : (s.create_org now info).1 = .OK
    · rw [hi.counted_create_iff hsc (hdef hsc) hc]
      exact (imp_iff_right hsc).symm
    · have hs := (stored_create_org hi.stored now info).resolve_right fun h => hsc h.1
      rw [hs.2]
      exact iff_of_true hc fun h => absurd h hsc
  | update_org now org_id info =>
    have hmap := (OrgManager.update_org_map (g := tally) (fun _ _ _ => rfl) now org_id info s.mgr).1
    exact iff_of_true ((counted_congr hmap).2 hc) trivial
  | delete_org org_id =>
    dsimp only [Event.apply, KeepsCount]
    by_cases hsc : (s.mgr.delete_org org_id).1 = .OK
    · obtain ⟨hexists, hkids⟩ := (OrgManager.delete_org_ok_iff org_id s.mgr).1 hsc
      obtain ⟨x, hget⟩ := Option.isSome_iff_exists.1 hexists
      obtain ⟨hx, rfl⟩ := (Rows.find?_eq_some_iff hi.stored.nodup).1 hget
      -- an organisation is deleted and the count of its parent stays
      have horgs : (s.delete_org x.org_id).2.mgr.orgs_ = Rows.delete OrgInfo.org_id x.org_id s.mgr.orgs_ := by
        have hdel := (OrgManager.delete_org_cases x.org_id s.mgr).resolve_left fun h => h.1 hsc
        rw [OrgStore.delete_org, hdel]
        exact Rows.eraseP_eq_delete hi.stored.nodup x.org_id
      rw [horgs, hi.counted_delete_iff hx hc, hget, hkids]
      simp
    · have hs := (OrgManager.delete_org_cases org_id s.mgr).resolve_right fun h => hsc (congrArg Prod.fst h)
      have horgs : (s.delete_org org_id).2.mgr.orgs_ = s.mgr.orgs_ := congrArg OrgManager.orgs_ hs.2
      rw [horgs]
      refine iff_of_true hc fun o hget hkids => absurd ?_ hsc
      rw [OrgManager.delete_org_ok_iff, OrgManager.org_exists, hget]
      exact ⟨rfl, hkids⟩
  | reload => exact hi.counted_reload_iff hc

/-- Every organisation always has the number of its children exactly when each
creation starts from none, no child is deleted and nothing is loaded whose
number is out of date. -/
theorem counted_run_iff {tr : List (OrgStore × Event)} {s : OrgStore} (hrun : Run Step {} tr s) :
    (∀ p ∈ tr, Counted p.1.mgr.orgs_) ∧ Counted s.mgr.orgs_ ↔ ∀ p ∈ tr, KeepsCount p.1 p.2 :=
  hrun.all_iff Sound (Counted ·.mgr.orgs_) KeepsCount sound_empty (by simp [Counted]) (fun _ _ _ hi => hi.step)
    fun _ _ _ => counted_step_iff

def create_acme : Event := .create_org [] { tenant_id := "acme".toList, org_type := "company".toList }

def create_brewing : Event :=
  .create_org [] { parent_id := 1, tenant_id := "brewing".toList, org_type := "department".toList }

/-- A company with a department. -/
def acme : OrgStore := create_brewing.apply (create_acme.apply {})

theorem run_acme : Run Step {} [({}, create_acme), (create_acme.apply {}, create_brewing)] acme := by
  have hcompany : Step {} create_acme (create_acme.apply {}) := ⟨fun _ => by decide, rfl⟩
  have hdepartment : Step (create_acme.apply {}) create_brewing acme := ⟨fun _ => by decide, rfl⟩
  exact (Run.nil.snoc hcompany).snoc hdepartment

theorem counted_run_acme : Counted acme.mgr.orgs_ :=
  ((counted_run_iff run_acme).2 (by simp [create_acme, create_brewing, KeepsCount])).2

/-- The company keeps a child when its only department is deleted. -/
theorem counted_run_fails : ¬∀ (tr : List (OrgStore × Event)) (s : OrgStore), Run Step {} tr s →
    Counted s.mgr.orgs_ := by
  intro h
  have hdelete : Step acme (.delete_org 2) (acme.delete_org 2).2 := ⟨trivial, rfl⟩
  have hcount := h _ _ (run_acme.snoc hdelete)
  have hone : ∃ o ∈ (acme.delete_org 2).2.mgr.orgs_,
      o.children_count.toInt ≠ kids (acme.delete_org 2).2.mgr.orgs_ o.org_id := by decide
  obtain ⟨o, ho, hne⟩ := hone
  exact hne (hcount o ho)

end DevSys.OrgStore
