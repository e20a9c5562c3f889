import DevSys.Common.Types
import DevSys.Lib.SqlLexer
/-!
# The SQL text of the statements

What the inserts stream into their `ostringstream`, piece by piece. libpq takes
a C string, so what is sent ends at the first NUL.
-/
open Cxx SqlText

namespace DevSys.Database

def sql_escape (s : Str) : Str := s.flatMap fun c => if c = '\'' then "''".toList else [c]

def sql_str (s : Str) : Str := "'".toList ++ sql_escape s ++ "'".toList

def sql_bool (v : Bool) : Str := if v then "TRUE".toList else "FALSE".toList

/-- What `PQexec` reads of a string. -/
def c_str (sql : Str) : Str := sql.takeWhile (· ≠ '\x00')

/-! ## The statements -/

def insert_into_devices : List Str :=
  [ "INSERT INTO devices ".toList,
    "(device_id, tenant_id, product_id, device_type, status, ".toList,
    "firmware_version, mac_address, model, hardware_uid, ".toList,
    "last_heartbeat_at, activated, activated_at) VALUES (".toList ]

def on_device_conflict : List Str :=
  [ ") ON CONFLICT (device_id) DO UPDATE SET ".toList,
    "tenant_id=EXCLUDED.tenant_id,".toList,
    "status=EXCLUDED.status,".toList,
    "firmware_version=EXCLUDED.firmware_version,".toList,
    "last_heartbeat_at=EXCLUDED.last_heartbeat_at,".toList ]

def upsert_device_sql (device : Device) : Str :=
  insert_into_devices.flatten ++ List.flatten
    [ sql_str device.device_id, ",".toList,
      sql_str device.tenant_id, ",".toList,
      sql_str device.product_id, ",".toList,
      to_string device.type.val.toNat, ",".toList,
      to_string device.network_status.val.toNat, ",".toList,
      sql_str device.firmware_version, ",".toList,
      sql_str device.mac_address, ",".toList,
      sql_str device.model, ",".toList,
      sql_str device.hardware_uid, ",".toList,
      to_string device.last_heartbeat_at, ",".toList,
      sql_bool device.activated, ",".toList,
      to_string device.activated_at ] ++
    on_device_conflict.flatten ++ "updated_at=EXTRACT(EPOCH FROM NOW())::BIGINT".toList

/-- `insert_org` first passes the tenant on to the table the broker asks. -/
def sync_tenant_sql (info : OrgInfo) : Str :=
  List.flatten
    [ "INSERT INTO tenants (tenant_id, name) VALUES (".toList,
      sql_str info.tenant_id, ",".toList, sql_str info.org_name,
      ") ON CONFLICT (tenant_id) DO UPDATE SET name=".toList,
      sql_str info.org_name,
      ", updated_at=(EXTRACT(EPOCH FROM NOW())::BIGINT)".toList ]

def insert_into_organizations : List Str :=
  [ "INSERT INTO organizations ".toList,
    "(org_id,parent_id,tenant_id,org_name,org_type,contact_name,contact_phone,contact_email,address,".toList,
    "is_active,level,path,children_count,created_at,updated_at) VALUES (".toList ]

def insert_org_sql (info : OrgInfo) : Str :=
  insert_into_organizations.flatten ++ List.flatten
    [ to_string info.org_id.toInt, ",".toList, to_string info.parent_id.toInt, ",".toList,
      sql_str info.tenant_id, ",".toList, sql_str info.org_name, ",".toList,
      sql_str info.org_type, ",".toList, sql_str info.contact_name, ",".toList,
      sql_str info.contact_phone, ",".toList, sql_str info.contact_email, ",".toList,
      sql_str info.address, ",".toList, sql_bool info.is_active, ",".toList,
      to_string info.level.toInt, ",".toList, sql_str info.path, ",".toList,
      to_string info.children_count.toInt, ",".toList, sql_str info.created_at, ",".toList,
      sql_str info.updated_at, ")".toList ]

def insert_into_accounts : List Str :=
  [ "INSERT INTO accounts ".toList,
    "(account_id,username,display_name,password_hash,role_code,org_id,org_name,email,phone,".toList,
    "is_active,last_login_at,created_at,updated_at) VALUES (".toList ]

def insert_account_sql (info : AccountInfo) : Str :=
  insert_into_accounts.flatten ++ List.flatten
    [ to_string info.account_id.toInt, ",".toList, sql_str info.username, ",".toList,
      sql_str info.display_name, ",".toList, sql_str info.password_hash, ",".toList,
      sql_str info.role_code, ",".toList, to_string info.org_id.toInt, ",".toList,
      sql_str info.org_name, ",".toList, sql_str info.email, ",".toList,
      sql_str info.phone, ",".toList, sql_bool info.is_active, ",".toList,
      sql_str info.last_login_at, ",".toList, sql_str info.created_at, ",".toList,
      sql_str info.updated_at, ")".toList ]

/-! ## Their values -/

def deviceArgs (d : Device) : List Arg :=
  [.str d.device_id, .str d.tenant_id, .str d.product_id, .num d.type.val.toNat, .num d.network_status.val.toNat,
    .str d.firmware_version, .str d.mac_address, .str d.model, .str d.hardware_uid, .num d.last_heartbeat_at,
    .bool d.activated, .num d.activated_at]

def syncArgs (o : OrgInfo) : List Arg := [.str o.tenant_id, .str o.org_name, .str o.org_name]

def orgArgs (o : OrgInfo) : List Arg :=
  [.num o.org_id.toInt, .num o.parent_id.toInt, .str o.tenant_id, .str o.org_name, .str o.org_type,
    .str o.contact_name, .str o.contact_phone, .str o.contact_email, .str o.address, .bool o.is_active,
    .num o.level.toInt, .str o.path, .num o.children_count.toInt, .str o.created_at, .str o.updated_at]

def accountArgs (a : AccountInfo) : List Arg :=
  [.num a.account_id.toInt, .str a.username, .str a.display_name, .str a.password_hash, .str a.role_code,
    .num a.org_id.toInt, .str a.org_name, .str a.email, .str a.phone, .bool a.is_active, .str a.last_login_at,
    .str a.created_at, .str a.updated_at]

/-! ## Their tokens -/

def deviceTemplate : List Item :=
  template insert_into_devices 12
    (on_device_conflict.map (fun p => .tokens (part p)) ++
      ending "updated_at=EXTRACT(EPOCH FROM NOW())::BIGINT".toList)

def syncTemplate : List Item :=
  template ["INSERT INTO tenants (tenant_id, name) VALUES (".toList] 2
    (template [") ON CONFLICT (tenant_id) DO UPDATE SET name=".toList] 1
      (ending ", updated_at=(EXTRACT(EPOCH FROM NOW())::BIGINT)".toList))

def orgTemplate : List Item := template insert_into_organizations 15 (ending ")".toList)

def accountTemplate : List Item := template insert_into_accounts 13 (ending ")".toList)

theorem comma_text : ",".toList = [','] := String.toList_ofList

theorem sql_str_eq (s : Str) : sql_str s = quote s := by
  simp [sql_str, sql_escape, quote]

theorem c_str_of_plain {sql : Str} (h : '\x00' ∉ sql) : c_str sql = sql := by
  rw [c_str, List.takeWhile_eq_self_iff]
  intro c hc
  have hne : c ≠ '\x00' := fun heq => h (heq ▸ hc)
  simpa using hne

/-- What `PQexec` reads of a statement without NUL. -/
theorem lex_c_str {sql : Str} {is : List Item} {as : List Arg} (h : Reads sql is as) :
    lex (c_str sql) = some (fill is as) := by
  rw [c_str_of_plain h.plain]
  exact h.tokens

theorem upsert_device_sql_eq (d : Device) :
    upsert_device_sql d = insert_into_devices.flatten ++ (valuesText (deviceArgs d) ++
      (on_device_conflict.flatten ++ "updated_at=EXTRACT(EPOCH FROM NOW())::BIGINT".toList)) := by
  unfold upsert_device_sql
  simp only [valuesText, deviceArgs, Arg.text, sql_str_eq, sql_bool, comma_text, List.flatten_cons, List.flatten_nil,
    List.append_assoc, List.append_nil, List.cons_append, List.nil_append, -String.reduceToList]

theorem sync_tenant_sql_eq (o : OrgInfo) :
    sync_tenant_sql o = ["INSERT INTO tenants (tenant_id, name) VALUES (".toList].flatten ++
      (valuesText [.str o.tenant_id, .str o.org_name] ++
        ([") ON CONFLICT (tenant_id) DO UPDATE SET name=".toList].flatten ++
          (valuesText [.str o.org_name] ++ ", updated_at=(EXTRACT(EPOCH FROM NOW())::BIGINT)".toList))) := by
  unfold sync_tenant_sql
  simp only [valuesText, Arg.text, sql_str_eq, comma_text, List.flatten_cons, List.flatten_nil, List.append_assoc,
    List.append_nil, List.cons_append, List.nil_append, -String.reduceToList]

theorem insert_org_sql_eq (o : OrgInfo) :
    insert_org_sql o = insert_into_organizations.flatten ++ (valuesText (orgArgs o) ++ ")".toList) := by
  unfold insert_org_sql
  simp only [valuesText, orgArgs, Arg.text, sql_str_eq, sql_bool, comma_text, List.flatten_cons, List.flatten_nil,
    List.append_assoc, List.append_nil, List.cons_append, List.nil_append, -String.reduceToList]

theorem insert_account_sql_eq (a : AccountInfo) :
    insert_account_sql a = insert_into_accounts.flatten ++ (valuesText (accountArgs a) ++ ")".toList) := by
  unfold insert_account_sql
  simp only [valuesText, accountArgs, Arg.text, sql_str_eq, sql_bool, comma_text, List.flatten_cons,
    List.flatten_nil, List.append_assoc, List.append_nil, List.cons_append, List.nil_append, -String.reduceToList]

theorem insert_into_devices_fixed : ∀ p ∈ insert_into_devices, Fixed p (part p) := by
  refine List.forall_mem_cons.2 ⟨Fixed.of_eq String.toList_ofList (by decide +kernel), ?_⟩
  refine List.forall_mem_cons.2 ⟨Fixed.of_eq String.toList_ofList (by decide +kernel), ?_⟩
  refine List.forall_mem_cons.2 ⟨Fixed.of_eq String.toList_ofList (by decide +kernel), ?_⟩
  exact List.forall_mem_singleton.2 (Fixed.of_eq String.toList_ofList (by decide +kernel))

theorem on_device_conflict_fixed : ∀ p ∈ on_device_conflict, Fixed p (part p) := by
  refine List.forall_mem_cons.2 ⟨Fixed.of_eq String.toList_ofList (by decide +kernel), ?_⟩
  refine List.forall_mem_cons.2 ⟨Fixed.of_eq String.toList_ofList (by decide +kernel), ?_⟩
  refine List.forall_mem_cons.2 ⟨Fixed.of_eq String.toList_ofList (by decide +kernel), ?_⟩
  refine List.forall_mem_cons.2 ⟨Fixed.of_eq String.toList_ofList (by decide +kernel), ?_⟩
  exact List.forall_mem_singleton.2 (Fixed.of_eq String.toList_ofList (by decide +kernel))

theorem insert_into_organizations_fixed : ∀ p ∈ insert_into_organizations, Fixed p (part p) := by
  refine List.forall_mem_cons.2 ⟨Fixed.of_eq String.toList_ofList (by decide +kernel), ?_⟩
  refine List.forall_mem_cons.2 ⟨Fixed.of_eq String.toList_ofList (by decide +kernel), ?_⟩
  exact List.forall_mem_singleton.2 (Fixed.of_eq String.toList_ofList (by decide +kernel))

theorem insert_into_accounts_fixed : ∀ p ∈ insert_into_accounts, Fixed p (part p) := by
  refine List.forall_mem_cons.2 ⟨Fixed.of_eq String.toList_ofList (by decide +kernel), ?_⟩
  refine List.forall_mem_cons.2 ⟨Fixed.of_eq String.toList_ofList (by decide +kernel), ?_⟩
  exact List.forall_mem_singleton.2 (Fixed.of_eq String.toList_ofList (by decide +kernel))

/-! ## What the database reads -/

theorem upsert_device_reads {d : Device} (hd : ∀ x ∈ deviceArgs d, x.Plain) :
    Reads (upsert_device_sql d) deviceTemplate (deviceArgs d) := by
  have hlast : Reads _ (ending "updated_at=EXTRACT(EPOCH FROM NOW())::BIGINT".toList) [] :=
    ending_reads String.toList_ofList (by decide +kernel)
  have hconflict := hlast.parts on_device_conflict_fixed
  have h := hconflict.template insert_into_devices_fixed hd (by decide +kernel)
  rw [List.append_nil] at h
  rw [upsert_device_sql_eq]
  exact h

theorem sync_tenant_reads {o : OrgInfo} (ho : ∀ x ∈ syncArgs o, x.Plain) :
    Reads (sync_tenant_sql o) syncTemplate (syncArgs o) := by
  have hfirst : ∀ p ∈ ["INSERT INTO tenants (tenant_id, name) VALUES (".toList], Fixed p (part p) :=
    List.forall_mem_singleton.2 (Fixed.of_eq String.toList_ofList (by decide +kernel))
  have hconflict : ∀ p ∈ [") ON CONFLICT (tenant_id) DO UPDATE SET name=".toList], Fixed p (part p) :=
    List.forall_mem_singleton.2 (Fixed.of_eq String.toList_ofList (by decide +kernel))
  have hlast : Reads _ (ending ", updated_at=(EXTRACT(EPOCH FROM NOW())::BIGINT)".toList) [] :=
    ending_reads String.toList_ofList (by decide +kernel)
  have hrow : (∀ x ∈ [Arg.str o.tenant_id, .str o.org_name], x.Plain) ∧ ∀ x ∈ [Arg.str o.org_name], x.Plain :=
    ⟨fun x hx => ho x (List.mem_append_left [Arg.str o.org_name] hx),
      fun x hx => ho x (List.mem_append_right [Arg.str o.tenant_id, .str o.org_name] hx)⟩
  have hends : Ends [") ON CONFLICT (tenant_id) DO UPDATE SET name=".toList].flatten := by decide +kernel
  have hne : [") ON CONFLICT (tenant_id) DO UPDATE SET name=".toList].flatten ≠ [] := by decide +kernel
  have hname := hlast.template hconflict hrow.2 (by decide +kernel)
  have h := hname.template hfirst hrow.1 (hends.append hne _)
  rw [sync_tenant_sql_eq]
  exact h

theorem insert_org_reads {o : OrgInfo} (ho : ∀ x ∈ orgArgs o, x.Plain) :
    Reads (insert_org_sql o) orgTemplate (orgArgs o) := by
  have hlast : Reads _ (ending ")".toList) [] := ending_reads String.toList_ofList (by decide)
  have h := hlast.template insert_into_organizations_fixed ho (by decide)
  rw [List.append_nil] at h
  rw [insert_org_sql_eq]
  exact h

theorem insert_account_reads {a : AccountInfo} (ha : ∀ x ∈ accountArgs a, x.Plain) :
    Reads (insert_account_sql a) accountTemplate (accountArgs a) := by
  have hlast : Reads _ (ending ")".toList) [] := ending_reads String.toList_ofList (by decide)
  have h := hlast.template insert_into_accounts_fixed ha (by decide)
  rw [List.append_nil] at h
  rw [insert_account_sql_eq]
  exact h

/-- An escaped string is one literal in front of any text that does not continue
it; a statement is always the same tokens but for its values, which are the
fields. -/
theorem literals_injection_proof :
    (∀ s r : Str, ¬Continues r → lex (sql_str s ++ r) = (lex r).map (.literal s :: ·)) ∧
    (∀ d : Device, (∀ x ∈ deviceArgs d, x.Plain) →
      lex (c_str (upsert_device_sql d)) = some (fill deviceTemplate (deviceArgs d))) ∧
    (∀ o : OrgInfo, (∀ x ∈ orgArgs o, x.Plain) →
      lex (c_str (sync_tenant_sql o)) = some (fill syncTemplate (syncArgs o)) ∧
      lex (c_str (insert_org_sql o)) = some (fill orgTemplate (orgArgs o))) ∧
    ∀ a : AccountInfo, (∀ x ∈ accountArgs a, x.Plain) →
      lex (c_str (insert_account_sql a)) = some (fill accountTemplate (accountArgs a)) := by
  refine ⟨fun s r hr => ?_, fun d hd => lex_c_str (upsert_device_reads hd), fun o ho => ?_,
    fun a ha => lex_c_str (insert_account_reads ha)⟩
  · rw [sql_str_eq]
    exact lex_quote s hr
  · refine ⟨lex_c_str (sync_tenant_reads fun x hx => ho x ?_), lex_c_str (insert_org_reads ho)⟩
    revert x
    simp [syncArgs, orgArgs]

/-- A quote and a comment in a name stay in the literal. -/
theorem literals_injection_proof_quote :
    lex (sql_str "x', 'y') --".toList ++ ")".toList) = some [.literal "x', 'y') --".toList, .symbol ')'] :=
  literals_injection_proof.1 "x', 'y') --".toList ")".toList (by decide)

/-- A quote in the next line goes on with the literal, which is then another. -/
theorem literal_continued :
    ¬∀ s r : Str, '\x00' ∉ s → r.head? ≠ some '\'' → lex (sql_str s ++ r) = (lex r).map (.literal s :: ·) := by
  intro h
  have hjoined : lex (sql_str "a".toList ++ "\n'b'".toList) = some [.literal "ab".toList] := by decide
  have hapart : (lex "\n'b'".toList).map (.literal "a".toList :: ·) =
      some [.literal "a".toList, .literal "b".toList] := by decide
  have hsame := h "a".toList "\n'b'".toList (by decide) (by decide)
  rw [hjoined, hapart] at hsame
  simp at hsame

end DevSys.Database
