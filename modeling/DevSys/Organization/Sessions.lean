import DevSys.Organization.Directory
/-!
# Sessions

A token is the account and the second of its login, so two logins in one second
share it; and one session has a token for every way to write its two numbers,
of which a logout forbids one.
-/
open Cxx Runs

namespace DevSys

namespace AccountManager

/-- What an accepted token says. -/
def payload (org_mgr : OrgManager) (now : Int) (acct : AccountInfo) (exp : Int) : TokenPayload where
  account_id := acct.account_id
  username := acct.username
  org_id := acct.org_id
  org_scope := org_mgr.get_org_scope acct.org_id
  role_code := acct.role_code
  permissions := permissions_for_role acct.role_code
  iat := now
  exp := exp

theorem verify_token_eq_some_iff {org_mgr : OrgManager} {now : Int} {token : Str} {s : AccountManager}
    {tp : TokenPayload} :
    s.verify_token org_mgr now token = .ok (some tp) ↔
      token ∉ s.invalidated_tokens_ ∧ ∃ id exp acct, parse_token token = .ok (some (id, exp)) ∧ now ≤ exp ∧
        s.get_account id = some acct ∧ acct.is_active = true ∧ tp = payload org_mgr now acct exp := by
  constructor
  · intro h
    unfold verify_token at h
    split at h
    · cases h
    rename_i hb
    split at h
    · cases h
    · cases h
    rename_i id exp hparse
    split at h
    · cases h
    rename_i hexp
    split at h
    · cases h
    rename_i acct hget
    split at h
    · cases h
    rename_i hactive
    cases h
    exact ⟨hb, id, exp, acct, hparse, by omega, hget, not_not.1 hactive, rfl⟩
  · rintro ⟨hb, id, exp, acct, hparse, hexp, hget, hactive, rfl⟩
    rw [verify_token, if_neg hb, hparse]
    dsimp only
    rw [if_neg (by omega), hget]
    dsimp only
    rw [if_neg (not_not.2 hactive)]
    rfl

/-! ## The spellings of a session -/

/-- The token with `k` blanks in front of the account id. -/
def spelling (k : Nat) (id : Int32) (exp : Int) : Str :=
  token_prefix ++ (List.replicate k ' ' ++ to_string id.toInt) ++ ':' :: to_string exp

theorem parse_spelling (k : Nat) (id : Int32) {exp : Int} (hexp : -2 ^ 63 ≤ exp ∧ exp < 2 ^ 63) :
    parse_token (spelling k id exp) = .ok (some (id, exp)) := by
  have hcolon : ':' ∉ List.replicate k ' ' ++ to_string id.toInt := by
    rw [List.mem_append, not_or, List.mem_replicate]
    exact ⟨fun h => absurd h.2 (by decide), not_mem_to_string (by decide) (by decide)⟩
  have hstoi : stoi (List.replicate k ' ' ++ to_string id.toInt) = .ok id := by
    have h := stoi_to_string id [] (by simp)
    rw [List.append_nil, stoi] at h
    rw [stoi, strtol_replicate_space, h]
  rw [spelling, parse_token_append hcolon, hstoi, stoll_to_string _ hexp]
  rfl

/-- Some spelling is longer than all texts of the list. -/
theorem exists_spelling_not_mem (l : List Str) (id : Int32) (exp : Int) : ∃ k, spelling k id exp ∉ l := by
  have hbound : ∃ n, ∀ t ∈ l, t.length ≤ n := by
    induction l with
    | nil => exact ⟨0, by simp⟩
    | cons t l ih =>
      obtain ⟨n, hn⟩ := ih
      refine ⟨max t.length n, List.forall_mem_cons.2 ⟨Nat.le_max_left _ _, fun u hu => ?_⟩⟩
      exact (hn u hu).trans (Nat.le_max_right _ _)
  obtain ⟨n, hn⟩ := hbound
  refine ⟨n, fun hmem => ?_⟩
  have hle := hn _ hmem
  simp only [spelling, List.length_append, List.length_replicate, List.length_cons] at hle
  omega

/-- The expiry of a token is in range. -/
theorem exp_range_of_parse {token : Str} {id : Int32} {exp : Int} (h : parse_token token = .ok (some (id, exp))) :
    -2 ^ 63 ≤ exp ∧ exp < 2 ^ 63 := by
  unfold parse_token at h
  split at h
  · cases h
  dsimp only at h
  split at h
  · cases h
  obtain ⟨account_id, -, h⟩ := bind_eq_ok.1 h
  obtain ⟨exp', hexp, h⟩ := bind_eq_ok.1 h
  cases h
  obtain ⟨n, -, h⟩ := bind_eq_ok.1 hexp
  split at h
  · cases h
    assumption
  · cases h

/-! ## Logging in -/

/-- The manager after the account has logged in. -/
def logged_in (last_login_at : Str) (a : AccountInfo) (s : AccountManager) : AccountManager :=
  let touch (r : AccountInfo) : AccountInfo := { r with last_login_at := last_login_at }
  { s with accounts_ := Rows.update AccountInfo.account_id a.account_id touch s.accounts_ }

/-- A login changes nothing but the time of the last login. -/
theorem login_accounts {hash_password : Str → Str} (now : Int) (last_login_at : Str) {req : LoginRequest}
    {s : AccountManager} (hids : (s.accounts_.map AccountInfo.account_id).Nodup) {a : AccountInfo}
    (ha : s.get_account_by_username req.username = some a) (hactive : a.is_active = true)
    (hpassword : a.password_hash = hash_password req.password) :
    s.login hash_password now last_login_at req =
      ({ success := true
         token := generate_token now a
         expires_at := to_string (now + 86400)
         account := { a with password_hash := [] }
         permissions := permissions_for_role a.role_code },
        s.logged_in last_login_at a) := by
  rw [login, ha]
  dsimp only
  rw [if_neg (not_not.2 hactive), if_neg (not_not.2 hpassword)]
  rcases Rows.findIdx?_cases hids a.account_id with ⟨-, hnone⟩ | ⟨i, r, hi, -, -, -, hmodify⟩
  · exact absurd (List.mem_map_of_mem (List.mem_of_find?_eq_some ha)) hnone
  · rw [hi]
    dsimp only
    rw [hmodify]
    rfl

/-- The account is found with its id after the login. -/
theorem get_account_logged_in (last_login_at : Str) {s : AccountManager}
    (hids : (s.accounts_.map AccountInfo.account_id).Nodup) {a : AccountInfo} (ha : a ∈ s.accounts_) :
    (s.logged_in last_login_at a).get_account a.account_id =
      some { a with last_login_at := last_login_at, password_hash := [] } := by
  have hkeep : (s.logged_in last_login_at a).accounts_.map AccountInfo.account_id =
      s.accounts_.map AccountInfo.account_id := Rows.map_update fun _ _ _ => rfl
  have hmem : { a with last_login_at := last_login_at } ∈ (s.logged_in last_login_at a).accounts_ :=
    Rows.mem_update.2 ⟨a, ha, if_pos rfl⟩
  have hfind := (Rows.find?_eq_some_iff (hkeep ▸ hids)).2 ⟨hmem, rfl⟩
  rw [get_account, hfind]
  rfl

end AccountManager

namespace Directory
open AccountManager

variable {hash_password : Str → Str}

/-! ## A fresh login -/

/-- The texts logged out since the last restart. -/
def loggedOut (tr : List (Directory × Event)) : List Str :=
  tr.foldl (fun l p => match p.2 with | .logout token => l ++ [token] | .restart _ => [] | _ => l) []

theorem loggedOut_snoc (tr : List (Directory × Event)) (s : Directory) (e : Event) :
    loggedOut (tr ++ [(s, e)]) =
      match e with | .logout token => loggedOut tr ++ [token] | .restart _ => [] | _ => loggedOut tr := by
  rw [loggedOut, List.foldl_append]
  rfl

/-- A reading of the system clock in seconds: it counts nanoseconds in 64 bits. -/
def IsReading (now : Int) : Prop := -2 ^ 63 ≤ now * 1000000000 ∧ now * 1000000000 < 2 ^ 63

/-- If the login succeeds, its token is accepted in the same second, for the
account, with its role, organisation and scope, until a day later. -/
def FreshLoginWorks (hash_password : Str → Str) (s : Directory) (now : Int) (last_login_at : Str) (req : LoginRequest) :
    Prop :=
  let r := s.accts.mgr.login hash_password now last_login_at req
  r.1.success = true →
    ∃ tp, r.2.verify_token s.orgs.mgr now r.1.token = .ok (some tp) ∧ tp.account_id = r.1.account.account_id ∧
      tp.role_code = r.1.account.role_code ∧ tp.org_id = r.1.account.org_id ∧
      tp.org_scope = s.orgs.mgr.get_org_scope r.1.account.org_id ∧ tp.exp = now + 86400

/-- No text of the account and the second was logged out before. -/
def Unspent (hash_password : Str → Str) (tr : List (Directory × Event)) (s : Directory) (now : Int)
    (req : LoginRequest) : Prop :=
  ∀ a, s.accts.mgr.get_account_by_username req.username = some a → a.is_active = true →
    a.password_hash = hash_password req.password → generate_token now a ∉ loggedOut tr

theorem invalidated_apply (e : Event) (s : Directory) :
    (e.apply hash_password s).accts.mgr.invalidated_tokens_ =
      match e with
      | .logout token => s.accts.mgr.invalidated_tokens_ ++ [token]
      | .restart _ => []
      | _ => s.accts.mgr.invalidated_tokens_ := by
  -- only a logout writes the list, and a restart forgets it
  cases e with
  | create_account now info password =>
    show (s.accts.mgr.create_account hash_password s.orgs.mgr now info password).2.2.invalidated_tokens_ = _
    unfold create_account
    split
    · rfl
    split
    · rfl
    split
    · rfl
    · rfl
  | update_account now account_id info =>
    show (s.accts.mgr.update_account now account_id info).2.invalidated_tokens_ = _
    unfold update_account
    split
    · rfl
    · rfl
  | change_password account_id old_password new_password =>
    show (s.accts.mgr.change_password hash_password account_id old_password new_password).2.invalidated_tokens_ = _
    unfold change_password
    split
    · rfl
    split
    · rfl
    · rfl
  | delete_account account_id =>
    show (s.accts.mgr.delete_account account_id).2.invalidated_tokens_ = _
    unfold delete_account
    split
    · rfl
    · rfl
  | login now last_login_at req =>
    show (s.accts.mgr.login hash_password now last_login_at req).2.invalidated_tokens_ = _
    unfold login
    split
    · rfl
    split
    · rfl
    split
    · rfl
    · rfl
  | restart devices =>
    show (AccountManager.load_from_database _ {}).invalidated_tokens_ = []
    rw [load_accounts_eq]
  | _ => rfl

theorem invalidated_run {tr : List (Directory × Event)} {s : Directory} (h : Run (Step hash_password) {} tr s) :
    s.accts.mgr.invalidated_tokens_ = loggedOut tr := by
  induction h with
  | nil => rfl
  | @snoc tr s e s' _ hstep ih =>
    obtain ⟨-, rfl⟩ := hstep
    rw [invalidated_apply, loggedOut_snoc, ih]

theorem saved_run {tr : List (Directory × Event)} {s : Directory} (h : Run (Step hash_password) {} tr s) : Saved s :=
  h.inv Saved saved_empty fun _ _ _ hsaved hstep => (change_of_step hash_password hsaved hstep).1

/-- From an empty system on, a fresh login works exactly when the token of the
account and the second was not logged out since the last restart. -/
theorem freshLoginWorks_iff {tr : List (Directory × Event)} {s : Directory} (h : Run (Step hash_password) {} tr s)
    {now : Int} (hnow : IsReading now) (last_login_at : Str) (req : LoginRequest) :
    FreshLoginWorks hash_password s now last_login_at req ↔ Unspent hash_password tr s now req := by
  have hids := (saved_run h).accounts.nodup
  have hrange : -2 ^ 63 ≤ now + 86400 ∧ now + 86400 < 2 ^ 63 := by
    unfold IsReading at hnow
    omega
  unfold FreshLoginWorks Unspent
  dsimp only
  rw [login_success_iff, ← invalidated_run h]
  constructor
  · intro hworks a ha hactive hpassword
    obtain ⟨tp, hverify, -⟩ := hworks ⟨a, ha, hactive, hpassword⟩
    rw [login_accounts now last_login_at hids ha hactive hpassword, verify_token_eq_some_iff] at hverify
    exact hverify.1
  · rintro hunspent ⟨a, ha, hactive, hpassword⟩
    rw [login_accounts now last_login_at hids ha hactive hpassword]
    refine ⟨_, verify_token_eq_some_iff.2 ⟨hunspent a ha hactive hpassword, a.account_id, now + 86400, _,
      parse_generate_token now a hrange, by omega,
      get_account_logged_in last_login_at hids (List.mem_of_find?_eq_some ha), hactive, rfl⟩, ?_⟩
    exact ⟨rfl, rfl, rfl, rfl, rfl⟩

def ana_login : LoginRequest := { username := "ana".toList, password := "secret".toList }

/-- The company after a login at the second 1000. -/
def acme_login : Directory := Event.apply id (.login 1000 [] ana_login) acme

/-- The first login. -/
theorem freshLoginWorks_acme : FreshLoginWorks id acme 1000 [] ana_login :=
  (freshLoginWorks_iff run_acme (by unfold IsReading; omega) [] ana_login).2 fun _ _ _ _ => List.not_mem_nil

/-- A login and a logout, and another login in the same second. -/
theorem freshLoginWorks_fails :
    ∃ tr s, Run (Step id) {} tr s ∧
      tr.map (·.2) = [create_acme, create_ana, .login 1000 [] ana_login, .logout "mock_jwt:1:87400".toList] ∧
      ¬FreshLoginWorks id s 1000 [] ana_login := by
  have hlogin : Step id acme (.login 1000 [] ana_login) acme_login := ⟨trivial, rfl⟩
  have hlogout : Step id acme_login (.logout "mock_jwt:1:87400".toList) _ := ⟨trivial, rfl⟩
  refine ⟨_, _, (run_acme.snoc hlogin).snoc hlogout, rfl, fun h => ?_⟩
  obtain ⟨tp, hverify, -⟩ := h (by decide)
  exact (verify_token_eq_some_iff.1 hverify).1 (by decide)

/-! ## A final logout -/

/-- The system and the clock, in seconds. -/
structure Moment where
  dir : Directory := {}
  now : Int := 0

inductive Act where
  | op (e : Event)
  | tick (now : Int)

/-- An operation, or time goes by. A verification changes nothing and may come at
every moment. -/
inductive Acts (hash_password : Str → Str) : Moment → Act → Moment → Prop
  | op {m e s} : Step hash_password m.dir e s → Acts hash_password m (.op e) { m with dir := s }
  | tick {m now} : Acts hash_password m (.tick now) { m with now := now }

/-- The token is accepted. -/
def Verifies (m : Moment) (token : Str) : Prop :=
  ∃ tp, m.dir.accts.mgr.verify_token m.dir.orgs.mgr m.now token = .ok (some tp)

/-- A logout of a token that has verified before. -/
def LogsOut (tr : List (Moment × Act)) (token : Str) (pre post : List (Moment × Act)) (u : Moment) : Prop :=
  tr = pre ++ (u, .op (.logout token)) :: post ∧ ∃ v ∈ moments pre u, Verifies v token

/-- No text with the numbers of a token that was logged out is accepted later. -/
def LogoutFinal (tr : List (Moment × Act)) (m : Moment) : Prop :=
  ∀ token pre post u, LogsOut tr token pre post u → ∀ id exp, parse_token token = .ok (some (id, exp)) →
    ∀ v ∈ moments post m, ∀ token', parse_token token' = .ok (some (id, exp)) → ¬Verifies v token'

/-- The session is over: it has expired, or its account is not active. -/
def Over (id : Int32) (exp : Int) (m : Moment) : Prop :=
  m.now ≤ exp → ∀ a, m.dir.accts.mgr.get_account id = some a → a.is_active = false

/-- A session goes on in some spelling until it is over. -/
theorem over_iff {id : Int32} {exp : Int} (hexp : -2 ^ 63 ≤ exp ∧ exp < 2 ^ 63) (m : Moment) :
    Over id exp m ↔ ∀ token, parse_token token = .ok (some (id, exp)) → ¬Verifies m token := by
  constructor
  · rintro hover token htoken ⟨tp, hverify⟩
    obtain ⟨-, id', exp', a, hparse, hnow, hget, hactive, -⟩ := verify_token_eq_some_iff.1 hverify
    rw [htoken] at hparse
    cases hparse
    rw [hover hnow a hget] at hactive
    cases hactive
  · intro hnone hnow a hget
    obtain ⟨k, hk⟩ := exists_spelling_not_mem m.dir.accts.mgr.invalidated_tokens_ id exp
    rw [← Bool.not_eq_true]
    intro hactive
    exact hnone _ (parse_spelling k id hexp)
      ⟨_, verify_token_eq_some_iff.2 ⟨hk, id, exp, a, parse_spelling k id hexp, hnow, hget, hactive, rfl⟩⟩

/-- A logout ends no session. -/
theorem over_logout_iff {id : Int32} {exp : Int} {u v : Moment} {token : Str}
    (h : Acts hash_password u (.op (.logout token)) v) : Over id exp v ↔ Over id exp u := by
  cases h with
  | op hstep =>
    obtain ⟨-, rfl⟩ := hstep
    exact Iff.rfl

/-- The logouts of a run are final exactly when each finds its session over, and
it stays so. -/
theorem logoutFinal_iff {m₀ : Moment} {tr : List (Moment × Act)} {m : Moment} (h : Run (Acts hash_password) m₀ tr m) :
    LogoutFinal tr m ↔
      ∀ token pre post u, LogsOut tr token pre post u → ∀ id exp, parse_token token = .ok (some (id, exp)) →
        ∀ v ∈ u :: moments post m, Over id exp v := by
  constructor
  · intro hfinal token pre post u hlogs id exp hparse
    have hover : ∀ v ∈ moments post m, Over id exp v := fun v hv =>
      (over_iff (exp_range_of_parse hparse) v).2 (hfinal token pre post u hlogs id exp hparse v hv)
    obtain ⟨u', hu', hstep⟩ := Run.exists_next (hlogs.1 ▸ h)
    exact List.forall_mem_cons.2 ⟨(over_logout_iff hstep).1 (hover u' hu'), hover⟩
  · intro hover token pre post u hlogs id exp hparse v hv
    exact (over_iff (exp_range_of_parse hparse) v).1
      (hover token pre post u hlogs id exp hparse v (List.mem_cons_of_mem u hv))

/-! ## A token with a blank -/

theorem spelling_zero : spelling 0 1 87400 = "mock_jwt:1:87400".toList := by decide

theorem parse_ana : parse_token "mock_jwt:1:87400".toList = .ok (some (1, 87400)) :=
  spelling_zero ▸ parse_spelling 0 1 (by decide)

/-- The account is active, and accepted in every spelling that was not logged out. -/
theorem verifies_ana {m : Moment} (hdir : m.dir.accts.mgr.accounts_ = acme.accts.mgr.accounts_) (hnow : m.now ≤ 87400)
    {token : Str} (htoken : token ∉ m.dir.accts.mgr.invalidated_tokens_)
    (hparse : parse_token token = .ok (some (1, 87400))) : Verifies m token := by
  have hget : ∃ a, m.dir.accts.mgr.get_account 1 = some a ∧ a.is_active = true := by
    rw [get_account, hdir]
    exact ⟨_, rfl, rfl⟩
  obtain ⟨a, ha, hactive⟩ := hget
  exact ⟨_, verify_token_eq_some_iff.2 ⟨htoken, 1, 87400, a, hparse, hnow, ha, hactive, rfl⟩⟩

/-- The logout comes after a day. -/
theorem logoutFinal_expired :
    ∃ tr m, tr.map (·.2) = [.tick 90000, .op (.logout "mock_jwt:1:87400".toList)] ∧ LogoutFinal tr m := by
  have htick : Acts id ⟨acme, 1000⟩ (.tick 90000) ⟨acme, 90000⟩ := .tick
  have hlogout : Acts id ⟨acme, 90000⟩ (.op (.logout "mock_jwt:1:87400".toList)) _ := .op ⟨trivial, rfl⟩
  refine ⟨_, _, rfl, (logoutFinal_iff ((Run.nil.snoc htick).snoc hlogout)).2 ?_⟩
  rintro token pre post u ⟨heq, -⟩ id exp hparse v hv hnow
  rcases pre with _ | ⟨p, _ | ⟨q, pre⟩⟩
  · cases heq
  · cases heq
    rw [parse_ana] at hparse
    cases hparse
    -- all moments from the logout on are at the second 90000
    rw [moments, List.map_nil, List.nil_append, List.mem_pair] at hv
    rcases hv with rfl | rfl
    · exact absurd hnow (by decide)
    · exact absurd hnow (by decide)
  · simp at heq

/-- A blank in front of the account id, after the logout. -/
theorem logoutFinal_fails :
    ∃ tr m, Run (Acts id) ⟨acme, 1000⟩ tr m ∧
      tr.map (·.2) = [.op (.login 1000 [] ana_login), .op (.logout "mock_jwt:1:87400".toList)] ∧ ¬LogoutFinal tr m := by
  have hlogin : Acts id ⟨acme, 1000⟩ (.op (.login 1000 [] ana_login)) ⟨acme_login, 1000⟩ := .op ⟨trivial, rfl⟩
  have hlogout : Acts id ⟨acme_login, 1000⟩ (.op (.logout "mock_jwt:1:87400".toList)) _ := .op ⟨trivial, rfl⟩
  refine ⟨_, _, (Run.nil.snoc hlogin).snoc hlogout, rfl, fun hfinal => ?_⟩
  have hbefore : Verifies ⟨acme_login, 1000⟩ "mock_jwt:1:87400".toList :=
    verifies_ana rfl (by decide) List.not_mem_nil parse_ana
  have hafter : Verifies ⟨Event.apply id (.logout "mock_jwt:1:87400".toList) acme_login, 1000⟩ (spelling 1 1 87400) :=
    verifies_ana rfl (by decide) (by decide) (parse_spelling 1 1 (by decide))
  exact hfinal _ [(⟨acme, 1000⟩, .op (.login 1000 [] ana_login))] [] ⟨acme_login, 1000⟩
    ⟨rfl, ⟨acme_login, 1000⟩, by simp [moments], hbefore⟩ 1 87400 parse_ana _ (List.mem_singleton_self _) _
    (parse_spelling 1 1 (by decide)) hafter

end Directory

end DevSys
