import DevSys.Organization.Directory
/-!
# Other accounts

Every operation looks for the first account with an id or a name. It touches no
other account because ids and names are distinct, and this is so because a
creation takes a free name and the next id, whichever accounts were loaded.
-/
open Cxx Runs Numbered

namespace DevSys.AccountManager
open Database Directory

/-! ## Runs -/

inductive Event where
  | create_account (org_mgr : OrgManager) (now : Str) (info : AccountInfo) (password : Str)
  | update_account (now : Str) (account_id : Int32) (info : AccountInfo)
  | change_password (account_id : Int32) (old_password new_password : Str)
  | delete_account (account_id : Int32)
  | login (now : Int) (last_login_at : Str) (req : LoginRequest)

/-- The accounts that an operation is about. -/
def Event.Concerns (a : AccountInfo) : Event → Prop
  | .create_account _ _ info _ => a.username = info.username
  | .update_account _ account_id _ => a.account_id = account_id
  | .change_password account_id _ _ => a.account_id = account_id
  | .delete_account account_id => a.account_id = account_id
  | .login _ _ req => a.username = req.username

/-- A new manager, or one that has loaded the table. The id after the largest
one must not overflow, which is undefined. -/
inductive Start : AccountManager → Prop
  | empty : Start {}
  | load {t : List AccountInfo} (hids : (t.map (·.account_id)).Nodup) (hnames : (t.map (·.username)).Nodup)
      (hroom : ∀ a ∈ t, a.account_id < Int32.maxValue) : Start (load_from_database (list_accounts_db t) {})

/-- Accounts differ in their ids and in their names, and the next id is above them. -/
structure Separate (s : AccountManager) : Prop where
  ids : (s.accounts_.map AccountInfo.account_id).Nodup
  usernames : (s.accounts_.map AccountInfo.username).Nodup
  lt_next : ∀ a ∈ s.accounts_, a.account_id.toInt < s.next_id_.toInt

section
variable (hash_password : Str → Str)

def Event.apply : Event → AccountManager → AccountManager
  | .create_account org_mgr now info password, s => (s.create_account hash_password org_mgr now info password).2.2
  | .update_account now account_id info, s => (s.update_account now account_id info).2
  | .change_password account_id old_password new_password, s =>
    (s.change_password hash_password account_id old_password new_password).2
  | .delete_account account_id, s => (s.delete_account account_id).2
  | .login now last_login_at req, s => (s.login hash_password now last_login_at req).2

/-- Giving out the last id would overflow the counter, which is undefined. -/
def Event.Defined (s : AccountManager) : Event → Prop
  | .create_account org_mgr now info password =>
    (s.create_account hash_password org_mgr now info password).1 = .OK → s.next_id_ < Int32.maxValue
  | _ => True

def Step (s : AccountManager) (e : Event) (s' : AccountManager) : Prop :=
  e.Defined hash_password s ∧ s' = e.apply hash_password s

/-- The accounts that the operation is not about are what they were, and so is
whatever is answered to their logins. -/
structure Framed (e : Event) (s s' : AccountManager) : Prop where
  records (a : AccountInfo) (ha : ¬ e.Concerns a) : a ∈ s'.accounts_ ↔ a ∈ s.accounts_
  get_account (account_id : Int32) (hid : ∀ a ∈ s'.accounts_, e.Concerns a → a.account_id ≠ account_id) :
    s'.get_account account_id = s.get_account account_id
  get_account_by_username (username : Str) (hname : ∀ a ∈ s'.accounts_, e.Concerns a → a.username ≠ username) :
    s'.get_account_by_username username = s.get_account_by_username username
  login (now : Int) (last_login_at : Str) (req : LoginRequest)
    (hname : ∀ a ∈ s'.accounts_, e.Concerns a → a.username ≠ req.username) :
    (s'.login hash_password now last_login_at req).1 = (s.login hash_password now last_login_at req).1

/-! ## What an operation does -/

/-- Nothing, an update of one account that keeps its id and name, or one more account. -/
inductive Change (e : Event) (s : AccountManager) : AccountManager → Prop
  | none : Change e s s
  | update {account_id : Int32} {f : AccountInfo → AccountInfo} (hid : ∀ a, (f a).account_id = a.account_id)
      (hname : ∀ a, (f a).username = a.username) (hconcerns : ∀ a, e.Concerns (f a) ↔ e.Concerns a)
      (hone : ∀ a ∈ s.accounts_, a.account_id = account_id → e.Concerns a) :
      Change e s { s with accounts_ := Rows.update AccountInfo.account_id account_id f s.accounts_ }
  | append {a : AccountInfo} (hid : a.account_id = s.next_id_)
      (hname : a.username ∉ s.accounts_.map AccountInfo.username) (ha : e.Concerns a)
      (hroom : e.Defined hash_password s → s.next_id_ < Int32.maxValue) :
      Change e s { s with accounts_ := s.accounts_ ++ [a], next_id_ := s.next_id_ + 1 }

variable {hash_password} {s : AccountManager} (hs : Separate s)
include hs

theorem Separate.change (e : Event) : Change hash_password e s (e.apply hash_password s) := by
  cases e with
  | create_account org_mgr now info password =>
    dsimp only [Event.apply]
    rcases create_account_cases hash_password org_mgr now info password s with
      ⟨-, sc, -, heq⟩ | ⟨hacc, a, hid, hname, -, -, -, heq⟩ <;> rw [heq]
    · exact .none
    · refine .append hid ?_ hname fun hdef => hdef (by rw [heq])
      have hnone := List.find?_eq_none.1 hacc.1
      rintro hmem
      obtain ⟨b, hb, hname'⟩ := List.mem_map.1 hmem
      exact hnone b hb (by simp [hname', hname])
  | update_account now account_id info =>
    dsimp only [Event.apply]
    unfold update_account
    rcases Rows.findIdx?_cases hs.ids account_id with ⟨hnone, -⟩ | ⟨i, r, hi, -, -, -, hmodify⟩
    · rw [hnone]
      exact .none
    · rw [hi]
      dsimp only
      rw [hmodify]
      exact .update (fun _ => rfl) (fun _ => rfl) (fun _ => Iff.rfl) fun _ _ h => h
  | change_password account_id old_password new_password =>
    dsimp only [Event.apply]
    unfold change_password
    rcases Rows.findIdx?_cases hs.ids account_id with ⟨hnone, -⟩ | ⟨i, r, hi, -, -, -, hmodify⟩
    · rw [hnone]
      exact .none
    · rw [hi]
      dsimp only
      split
      · exact .none
      · rw [hmodify]
        exact .update (fun _ => rfl) (fun _ => rfl) (fun _ => Iff.rfl) fun _ _ h => h
  | delete_account account_id =>
    dsimp only [Event.apply]
    unfold delete_account
    rcases Rows.findIdx?_cases hs.ids account_id with ⟨hnone, -⟩ | ⟨i, r, hi, -, -, -, hmodify⟩
    · rw [hnone]
      exact .none
    · rw [hi]
      dsimp only
      rw [hmodify]
      exact .update (fun _ => rfl) (fun _ => rfl) (fun _ => Iff.rfl) fun _ _ h => h
  | login now last_login_at req =>
    dsimp only [Event.apply]
    unfold login
    cases hget : s.get_account_by_username req.username with
    | none => exact .none
    | some acct =>
      dsimp only
      split
      · exact .none
      split
      · exact .none
      rcases Rows.findIdx?_cases hs.ids acct.account_id with ⟨hnone, -⟩ | ⟨i, r, hi, -, -, -, hmodify⟩
      · rw [hnone]
        exact .none
      · rw [hi]
        dsimp only
        rw [hmodify]
        refine .update (fun _ => rfl) (fun _ => rfl) (fun _ => Iff.rfl) ?_
        -- the id is that of the account with the name
        intro a ha hid
        have hacct := List.mem_of_find?_eq_some hget
        obtain rfl := List.inj_on_of_nodup_map hs.ids ha hacct hid
        have hname : a.username = req.username := by simpa using List.find?_some hget
        exact hname

theorem Separate.step {e : Event} {s' : AccountManager} (hstep : Step hash_password s e s') : Separate s' := by
  obtain ⟨hdef, rfl⟩ := hstep
  have hchange : Change hash_password e s (e.apply hash_password s) := hs.change e
  generalize hs' : e.apply hash_password s = s' at hchange
  cases hchange with
  | none => exact hs
  | @update account_id f hid hname _ _ =>
    refine ⟨Rows.nodup_update hs.ids fun r hr => (hid r).trans hr, ?_, ?_⟩
    · have hnames : ((Rows.update AccountInfo.account_id account_id f s.accounts_).map AccountInfo.username) =
          s.accounts_.map AccountInfo.username := Rows.map_update fun r _ _ => hname r
      rw [hnames]
      exact hs.usernames
    · refine Rows.forall_mem_update.2 fun r hr => ?_
      rw [hid, ite_self]
      exact hs.lt_next r hr
  | @append a hid hname ha hroom =>
    have hsucc := toInt_succ (hroom hdef)
    have hfresh : a.account_id ∉ s.accounts_.map AccountInfo.account_id := by
      intro hmem
      obtain ⟨b, hb, hbid⟩ := List.mem_map.1 hmem
      have hlt := hs.lt_next b hb
      rw [hbid, hid] at hlt
      exact absurd hlt (Int.lt_irrefl _)
    refine ⟨?_, ?_, ?_⟩
    · rw [List.map_append]
      exact hs.ids.append (List.nodup_singleton _) (List.disjoint_singleton.2 hfresh)
    · rw [List.map_append]
      exact hs.usernames.append (List.nodup_singleton _) (List.disjoint_singleton.2 hname)
    · rw [List.forall_mem_append, List.forall_mem_singleton]
      dsimp only
      rw [hid, hsucc]
      exact ⟨fun b hb => by have := hs.lt_next b hb; omega, by omega⟩

omit hs in
/-- The answer to a login depends on the account with the name. -/
theorem login_congr {s s' : AccountManager} {req : LoginRequest}
    (h : s'.get_account_by_username req.username = s.get_account_by_username req.username) (now : Int)
    (last_login_at : Str) :
    (s'.login hash_password now last_login_at req).1 = (s.login hash_password now last_login_at req).1 := by
  unfold login
  rw [h]
  cases s.get_account_by_username req.username with
  | none => rfl
  | some acct =>
    dsimp only
    split
    · rfl
    · split <;> rfl

omit hs in
/-- A search by id or name that no account of the operation meets finds what it found. -/
theorem Change.find? {e : Event} {s' : AccountManager} (h : Change hash_password e s s') {p : AccountInfo → Bool}
    (hp : ∀ a b : AccountInfo, a.account_id = b.account_id → a.username = b.username → p a = p b)
    (hother : ∀ a ∈ s'.accounts_, e.Concerns a → p a = false) : s'.accounts_.find? p = s.accounts_.find? p := by
  cases h with
  | none => rfl
  | @update account_id f hid hname hconcerns hone =>
    refine Rows.find?_update_other fun r hr hk => ?_
    have hfr : f r ∈ Rows.update AccountInfo.account_id account_id f s.accounts_ :=
      Rows.mem_update.2 ⟨r, hr, if_pos hk⟩
    have hpf : p (f r) = false := hother (f r) hfr ((hconcerns r).2 (hone r hr hk))
    exact ⟨(hp r (f r) (hid r).symm (hname r).symm).trans hpf, hpf⟩
  | @append a hid hname ha hroom =>
    have hpa := hother a (List.mem_append_right _ (List.mem_singleton.2 rfl)) ha
    rw [List.find?_append, List.find?_singleton, hpa]
    simp

omit hs in
theorem Change.mem_iff {e : Event} {s' : AccountManager} (h : Change hash_password e s s') {a : AccountInfo}
    (ha : ¬ e.Concerns a) : a ∈ s'.accounts_ ↔ a ∈ s.accounts_ := by
  cases h with
  | none => exact Iff.rfl
  | @update account_id f hid hname hconcerns hone =>
    by_cases hk : a.account_id = account_id
    · refine iff_of_false ?_ fun hmem => ha (hone a hmem hk)
      intro hmem
      obtain ⟨r, hr, rfl⟩ := Rows.mem_update.1 hmem
      by_cases hrk : r.account_id = account_id
      · rw [if_pos hrk] at ha
        exact ha ((hconcerns r).2 (hone r hr hrk))
      · rw [if_neg hrk] at hk
        exact hrk hk
    · exact Rows.mem_update_other hid hk
  | @append b hid hname hb hroom =>
    have hne : a ≠ b := by
      rintro rfl
      exact ha hb
    simp [hne]

theorem Separate.framed (e : Event) : Framed hash_password e s (e.apply hash_password s) := by
  have hchange : Change hash_password e s (e.apply hash_password s) := hs.change e
  generalize e.apply hash_password s = s' at hchange ⊢
  have hname (username : Str) (hother : ∀ a ∈ s'.accounts_, e.Concerns a → a.username ≠ username) :
      s'.get_account_by_username username = s.get_account_by_username username := by
    refine hchange.find? (fun a b _ hab => ?_) fun a ha hcon => decide_eq_false (hother a ha hcon)
    rw [hab]
  refine ⟨fun a => hchange.mem_iff, fun account_id hother => ?_, hname, ?_⟩
  · have hfind := hchange.find? (p := (·.account_id = account_id)) (fun a b hab _ => by rw [hab])
      fun a ha hcon => decide_eq_false (hother a ha hcon)
    exact congrArg (Option.map fun a : AccountInfo => { a with password_hash := [] }) hfind
  · exact fun now last_login_at req hother => login_congr (hname req.username hother) now last_login_at

end

/-! ## Every run -/

theorem Start.separate {s : AccountManager} (h : Start s) : Separate s := by
  cases h with
  | empty => exact ⟨List.nodup_nil, List.nodup_nil, by simp⟩
  | @load t hids hnames hroom =>
    have hperm : (list_accounts_db t).Perm t := List.mergeSort_perm _ _
    rw [load_accounts_eq]
    have hroom' : ∀ a ∈ list_accounts_db t, a.account_id < Int32.maxValue := fun a ha => hroom a (hperm.mem_iff.1 ha)
    exact ⟨(hperm.map _).nodup_iff.2 hids, (hperm.map _).nodup_iff.2 hnames, (lt_nextOf hroom').2⟩

/-- Accounts are always distinct, and no operation touches those it is not about. -/
theorem accounts_apart {hash_password : Str → Str} {s₀ : AccountManager} (h₀ : Start s₀)
    {tr : List (AccountManager × Event)} {s : AccountManager} (hrun : Run (Step hash_password) s₀ tr s) :
    Separate s ∧ ∀ e : Event, Framed hash_password e s (e.apply hash_password s) := by
  have hs : Separate s := hrun.inv Separate h₀.separate fun _ _ _ hs => hs.step
  exact ⟨hs, hs.framed⟩

/-- Two accounts in the table. -/
def staff : List AccountInfo :=
  [{ account_id := 3, username := "ben".toList, password_hash := "1234".toList },
    { account_id := 7, username := "ana".toList, password_hash := "secret".toList }]

theorem load_staff : load_from_database (list_accounts_db staff) {} = { accounts_ := staff, next_id_ := 8 } := by
  have hsorted : list_accounts_db staff = staff := List.mergeSort_of_pairwise (by decide)
  rw [load_accounts_eq, hsorted]
  rfl

/-- A third account for the first organisation. -/
def hire_cleo : Event :=
  .create_account { orgs_ := [{ org_id := 1 }], next_id_ := 2 } []
    { username := "cleo".toList, role_code := "viewer".toList, org_id := 1 } "tea".toList

/-- Ben logs in as before when Ana is deleted. -/
theorem accounts_apart_staff :
    let s := hire_cleo.apply id (load_from_database (list_accounts_db staff) {})
    let req : LoginRequest := { username := "ben".toList, password := "1234".toList }
    Separate s ∧ ((s.delete_account 7).2.login id 0 [] req).1 = (s.login id 0 [] req).1 := by
  have hstart : Start (load_from_database (list_accounts_db staff) {}) := .load (by decide) (by decide) (by decide)
  have hstep : Step id (load_from_database (list_accounts_db staff) {}) hire_cleo
      (hire_cleo.apply id (load_from_database (list_accounts_db staff) {})) := by
    refine ⟨fun _ => ?_, rfl⟩
    rw [load_staff]
    decide
  obtain ⟨hs, hframe⟩ := accounts_apart hstart (Run.nil.snoc hstep)
  refine ⟨hs, (hframe (.delete_account 7)).login 0 [] _ ?_⟩
  rw [load_staff]
  have hother : ∀ a ∈ ((hire_cleo.apply id { accounts_ := staff, next_id_ := 8 }).delete_account 7).2.accounts_,
      a.account_id = 7 → a.username ≠ "ben".toList := by decide
  exact hother

end DevSys.AccountManager
