import DevSys.Organization.OrgManager
/-!
# `AccountManager`

The accounts and the tokens they log in with. The database and the log are left
out; the operations that hash a password are in `DevSys.Organization.Accounts`.
-/
open Cxx

namespace DevSys

structure AccountManager where
  accounts_ : List AccountInfo := []
  invalidated_tokens_ : List Str := []
  next_id_ : Int32 := 1

namespace AccountManager

/-! ## Permissions -/

def ROLE_PERMISSIONS : List (Str × List Str) :=
  [("super_admin".toList,
      ["org:read".toList, "org:write".toList, "account:read".toList, "account:write".toList, "device:read".toList,
        "device:write".toList, "order:read".toList, "recipe:read".toList, "recipe:write".toList, "ota:read".toList,
        "ota:write".toList, "fault:read".toList, "fault:write".toList, "config:read".toList, "config:write".toList]),
    ("org_admin".toList,
      ["org:read".toList, "org:write".toList, "account:read".toList, "account:write".toList, "device:read".toList,
        "device:write".toList, "order:read".toList, "recipe:read".toList, "recipe:write".toList, "ota:read".toList,
        "ota:write".toList, "fault:read".toList, "fault:write".toList, "config:read".toList]),
    ("dept_admin".toList,
      ["org:read".toList, "account:read".toList, "device:read".toList, "device:write".toList, "order:read".toList,
        "recipe:read".toList, "ota:read".toList, "fault:read".toList, "fault:write".toList]),
    ("operator".toList,
      ["device:read".toList, "order:read".toList, "recipe:read".toList, "recipe:write".toList, "ota:read".toList,
        "fault:read".toList, "fault:write".toList]),
    ("viewer".toList,
      ["device:read".toList, "order:read".toList, "recipe:read".toList, "ota:read".toList, "fault:read".toList])]

def permissions_for_role (role_code : Str) : List Str :=
  (ROLE_PERMISSIONS.lookup role_code).getD []

/-! ## Accounts -/

/-- The first account with this id, without its password hash. -/
def get_account (account_id : Int32) (s : AccountManager) : Option AccountInfo :=
  (s.accounts_.find? (·.account_id = account_id)).map fun a => { a with password_hash := [] }

/-- A deleted account stays in the list and is not active any more. -/
def delete_account (account_id : Int32) (s : AccountManager) : StatusCode × AccountManager :=
  match s.accounts_.findIdx? (·.account_id = account_id) with
  | none => (.ACCOUNT_NOT_FOUND, s)
  | some i => (.OK, { s with accounts_ := s.accounts_.modify i fun a => { a with is_active := false } })

/-! ## Tokens -/

def token_prefix : Str := "mock_jwt:".toList

/-- The token an account logs in with, good for 24 hours. -/
def generate_token (now : Int) (account : AccountInfo) : Str :=
  token_prefix ++ to_string account.account_id.toInt ++ ':' :: to_string (now + 86400)

def logout (token : Str) (s : AccountManager) : StatusCode × AccountManager :=
  (.OK, { s with invalidated_tokens_ := s.invalidated_tokens_ ++ [token] })

/-- The account id and the expiry in a token; numbers that cannot be read throw. -/
def parse_token (token : Str) : Except Exn (Option (Int32 × Int)) :=
  if find token_prefix token ≠ some 0 then .ok none
  else
    let payload := token.drop 9
    match find [':'] payload with
    | none => .ok none
    | some colon => do
      let account_id ← stoi (payload.take colon)
      let exp ← stoll (payload.drop (colon + 1))
      .ok (some (account_id, exp))

def verify_token (org_mgr : OrgManager) (now : Int) (token : Str) (s : AccountManager) :
    Except Exn (Option TokenPayload) :=
  if token ∈ s.invalidated_tokens_ then .ok none
  else
    match parse_token token with
    | .error e => .error e
    | .ok none => .ok none
    | .ok (some (account_id, exp)) =>
      if now > exp then .ok none
      else match s.get_account account_id with
        | none => .ok none
        | some acct =>
          if ¬acct.is_active then .ok none
          else .ok (some
            { account_id := acct.account_id
              username := acct.username
              org_id := acct.org_id
              org_scope := org_mgr.get_org_scope acct.org_id
              role_code := acct.role_code
              permissions := permissions_for_role acct.role_code
              iat := now
              exp := exp })

/-! ## Why a token is refused -/

/-- The reasons for which a caller is not authenticated. -/
inductive Refused (now : Int) (s : AccountManager) (token : Str) : Prop where
  | missing (h : token = [])
  | malformed (h : ∀ id exp, parse_token token ≠ .ok (some (id, exp)))
  | expired {id : Int32} {exp : Int} (h : parse_token token = .ok (some (id, exp))) (hexp : exp < now)
  | logged_out (h : token ∈ s.invalidated_tokens_)
  | deactivated {id : Int32} {exp : Int} {a : AccountInfo} (h : parse_token token = .ok (some (id, exp)))
      (ha : s.get_account id = some a) (hi : a.is_active = false)

/-- The numbers of a token that is not logged out cannot be read. -/
def Unreadable (s : AccountManager) (token : Str) : Prop :=
  token ∉ s.invalidated_tokens_ ∧ ∃ e, parse_token token = .error e

theorem parse_token_nil : parse_token [] = .ok none := by decide

theorem not_unreadable_nil (s : AccountManager) : ¬ s.Unreadable [] := by
  rintro ⟨-, e, he⟩
  rw [parse_token_nil] at he
  cases he

/-- A refused token yields nothing, unless reading its numbers throws. -/
theorem verify_token_of_refused {now : Int} {s : AccountManager} {token : Str} (h : Refused now s token)
    (hread : ¬ s.Unreadable token) (org_mgr : OrgManager) : s.verify_token org_mgr now token = .ok none := by
  unfold verify_token
  by_cases hb : token ∈ s.invalidated_tokens_
  · exact if_pos hb
  rw [if_neg hb]
  rcases hparse : parse_token token with e | _ | ⟨id, exp⟩
  · exact absurd ⟨hb, e, hparse⟩ hread
  · rfl
  dsimp only
  -- the token is well-formed: it is expired, or its account is not active
  cases h with
  | missing he =>
    rw [he, parse_token_nil] at hparse
    cases hparse
  | malformed hm => exact absurd hparse (hm id exp)
  | logged_out hl => exact absurd hl hb
  | expired he hexp =>
    rw [hparse] at he
    cases he
    exact if_pos hexp
  | deactivated he ha hi =>
    rw [hparse] at he
    cases he
    rw [ha]
    simp only [hi, Bool.false_eq_true, not_false_eq_true, if_true, ite_self]

theorem verify_token_of_unreadable {s : AccountManager} {token : Str} (h : s.Unreadable token) (org_mgr : OrgManager)
    (now : Int) : ∃ e, s.verify_token org_mgr now token = .error e := by
  obtain ⟨hb, e, he⟩ := h
  refine ⟨e, ?_⟩
  rw [verify_token, if_neg hb, he]

/-- An accepted token is refused for no reason. -/
theorem not_refused_of_verify_token {org_mgr : OrgManager} {now : Int} {token : Str} {s : AccountManager}
    {tp : TokenPayload} (h : s.verify_token org_mgr now token = .ok (some tp)) : ¬ Refused now s token := by
  intro hr
  by_cases hread : s.Unreadable token
  · obtain ⟨e, he⟩ := verify_token_of_unreadable hread org_mgr now
    rw [he] at h
    cases h
  · rw [verify_token_of_refused hr hread org_mgr] at h
    cases h

/-! ## How a token comes to be refused -/

/-- The first colon behind the prefix separates the numbers. -/
theorem parse_token_append {a : Str} (ha : ':' ∉ a) (b : Str) :
    parse_token ( token_prefix ++ a ++ ':' :: b) =
      stoi a >>= fun account_id => stoll b >>= fun exp => .ok (some (account_id, exp)) := by
  have hdrop : ( token_prefix ++ a ++ ':' :: b).drop 9 = a ++ ':' :: b := by
    rw [List.append_assoc]
    rfl
  have hprefix : find token_prefix ( token_prefix ++ a ++ ':' :: b) = some 0 :=
    find_isSome_of_prefix ⟨_, (List.append_assoc _ _ _).symm⟩
  have hrest : (a ++ ':' :: b).drop (a.length + 1) = b := by
    rw [List.append_cons]
    exact List.drop_left' (by simp)
  simp only [parse_token, hprefix, hdrop, find_single_append ha, List.take_left, hrest, ne_eq, not_true, if_false]

/-- A generated token carries the account and its expiry. -/
theorem parse_generate_token (now : Int) (account : AccountInfo) (hnow : -2 ^ 63 ≤ now + 86400 ∧ now + 86400 < 2 ^ 63) :
    parse_token (generate_token now account) = .ok (some (account.account_id, now + 86400)) := by
  have hid : ':' ∉ to_string account.account_id.toInt := not_mem_to_string (by decide) (by decide)
  have hstoi := stoi_to_string account.account_id [] (by simp)
  rw [List.append_nil] at hstoi
  rw [generate_token, parse_token_append hid, hstoi, stoll_to_string _ hnow]
  rfl

/-- Changing the first match to another match. -/
theorem find?_modify {α : Type} {p : α → Bool} {f : α → α} (hf : ∀ a, p a → p (f a)) {l : List α} {i : Nat}
    (h : l.findIdx? p = some i) : ∃ a, (l.modify i f).find? p = some (f a) := by
  induction l generalizing i with
  | nil => simp at h
  | cons a l ih =>
    rw [List.findIdx?_cons] at h
    by_cases ha : p a
    · rw [if_pos ha] at h
      obtain rfl := Option.some.inj h
      exact ⟨a, by rw [List.modify_zero_cons, List.find?_cons_of_pos (hf a ha)]⟩
    · rw [if_neg ha] at h
      obtain ⟨j, hj, rfl⟩ := Option.map_eq_some_iff.1 h
      obtain ⟨b, hb⟩ := ih hj
      exact ⟨b, by rw [List.modify_succ_cons, List.find?_cons_of_neg ha, hb]⟩

theorem refused_logout (now : Int) (token : Str) (s : AccountManager) : Refused now (s.logout token).2 token :=
  .logged_out (List.mem_append_right _ (List.mem_singleton.2 rfl))

/-- The tokens of a deleted account are refused, whenever they were issued. -/
theorem refused_delete_account (now issued : Int) (account : AccountInfo) (s : AccountManager)
    (hnow : -2 ^ 63 ≤ issued + 86400 ∧ issued + 86400 < 2 ^ 63)
    (h : (s.delete_account account.account_id).1 = .OK) :
    Refused now (s.delete_account account.account_id).2 (generate_token issued account) := by
  unfold delete_account at h ⊢
  cases hi : s.accounts_.findIdx? (·.account_id = account.account_id) with
  | none => simp [hi] at h
  | some i =>
    let deactivate (a : AccountInfo) : AccountInfo := { a with is_active := false }
    have hkeep (a : AccountInfo) (ha : decide (a.account_id = account.account_id)) :
        decide ((deactivate a).account_id = account.account_id) := ha
    obtain ⟨a, ha⟩ := find?_modify hkeep hi
    have hget := congrArg (Option.map fun a : AccountInfo => { a with password_hash := [] }) ha
    exact .deactivated (parse_generate_token issued account hnow) hget rfl

end AccountManager

end DevSys
