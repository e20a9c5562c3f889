import DevSys.Lib.Rows
import DevSys.Organization.OrgManager
/-!
# The organizations table

What each operation on organisations makes of the table, and what a start-up
reads from it. The table of tenant keys is left out.
-/
open Cxx

namespace DevSys

namespace Database

/-- A second row with the id or the tenant is refused. -/
def insert_org (info : OrgInfo) (t : List OrgInfo) : List OrgInfo :=
  if t.any (·.tenant_id = info.tenant_id) then t else Rows.insert OrgInfo.org_id info t

/-- Not among the columns: the id and the creation time. -/
def update_org_db (info : OrgInfo) (t : List OrgInfo) : List OrgInfo :=
  Rows.update OrgInfo.org_id info.org_id (fun r => { info with org_id := r.org_id, created_at := r.created_at }) t

def delete_org_db (org_id : Int32) (t : List OrgInfo) : List OrgInfo := Rows.delete OrgInfo.org_id org_id t

/-- `SELECT * FROM organizations ORDER BY org_id ASC`. -/
def list_orgs_db (t : List OrgInfo) : List OrgInfo := t.mergeSort fun a b => a.org_id ≤ b.org_id

end Database

/-- Rows are appended, and the next id is above theirs. -/
def OrgManager.load_from_database (db_orgs : List OrgInfo) (s : OrgManager) : OrgManager :=
  if db_orgs = [] then s
  else
    let max_id := db_orgs.foldl (fun m o => if o.org_id > m then o.org_id else m) 0
    { s with orgs_ := s.orgs_ ++ db_orgs, next_id_ := max_id + 1 }

/-- The organisation manager and the organizations table. -/
structure OrgStore where
  mgr : OrgManager := {}
  orgs : List OrgInfo := []

namespace OrgStore
open Database

/-- The parent's new count of children is not written. -/
def create_org (now : Str) (info : OrgInfo) (s : OrgStore) : StatusCode × OrgInfo × OrgStore :=
  let (sc, info, mgr) := s.mgr.create_org now info
  (sc, info, { mgr := mgr, orgs := if sc = .OK then insert_org info s.orgs else s.orgs })

/-- The stored organisation, after a change in memory, goes to the table. -/
def write (org_id : Int32) (mgr : OrgManager) (t : List OrgInfo) : List OrgInfo :=
  match mgr.get_org org_id with
  | none => t
  | some o => update_org_db o t

def update_org (now : Str) (org_id : Int32) (info : OrgInfo) (s : OrgStore) : StatusCode × OrgStore :=
  let (sc, mgr) := s.mgr.update_org now org_id info
  (sc, { mgr := mgr, orgs := if sc = .OK then write org_id mgr s.orgs else s.orgs })

def delete_org (org_id : Int32) (s : OrgStore) : StatusCode × OrgStore :=
  let (sc, mgr) := s.mgr.delete_org org_id
  (sc, { mgr := mgr, orgs := if sc = .OK then delete_org_db org_id s.orgs else s.orgs })

/-- A fresh manager on the same table. -/
def restart (s : OrgStore) : OrgStore := { s with mgr := OrgManager.load_from_database (list_orgs_db s.orgs) {} }

end OrgStore

end DevSys
