import DevSys.Lib.JsonStrings
import DevSys.Organization.Tree
import DevSys.Server.FaultListing
import DevSys.Server.Handlers
/-!
# The tree of organisations as JSON

The handler writes the tree node by node, with no escapes. What a request can
put into an organisation has no quote in it, so only backslashes and control
characters spoil the text.
-/
open Cxx Runs Rose JsonText JsonGrammar

namespace DevSys

namespace OrgTree
open Json Listings OrgManager FaultListing

/-! ## The handler -/

mutual

/-- The node without an organisation has no text of its own, and no commas. -/
def serialize : OrgTreeNode → Str
  | .node info children =>
    if info.org_id = 0 ∧ children.isEmpty then []
    else
      let has_self := info.org_id ≠ 0
      (if has_self then
          '{' :: List.intercalate [',']
            [member "org_id".toList (to_string info.org_id.toInt), strMember "org_name".toList info.org_name,
              strMember "org_type".toList info.org_type, strMember "tenant_id".toList info.tenant_id,
              member "parent_id".toList (to_string info.parent_id.toInt),
              member "level".toList (to_string info.level.toInt), member "children".toList ['[']]
        else []) ++
        serialize_all has_self children ++ (if has_self then [']', '}'] else [])

def serialize_all (commas : Bool) : List OrgTreeNode → Str
  | [] => []
  | [child] => serialize child
  | child :: next :: rest => serialize child ++ (if commas then [','] else []) ++ serialize_all commas (next :: rest)

end

/-- `GET /api/v1/orgs/tree`. -/
def get_orgs_tree (tree : OrgTreeNode) : HttpResponse :=
  json_response 200 (success (object [member "tree".toList ('[' :: serialize_all true tree.children ++ [']'])]))

/-! ## What it is to say -/

mutual

def node_value : OrgTreeNode → Value
  | .node info children =>
    .obj
      [("org_id".toList, .num (to_string info.org_id.toInt)), ("org_name".toList, .str info.org_name),
        ("org_type".toList, .str info.org_type), ("tenant_id".toList, .str info.tenant_id),
        ("parent_id".toList, .num (to_string info.parent_id.toInt)), ("level".toList, .num (to_string info.level.toInt)),
        ("children".toList, .arr (node_values children))]

def node_values : List OrgTreeNode → List Value
  | [] => []
  | child :: rest => node_value child :: node_values rest

end

def tree_value (tree : OrgTreeNode) : Value :=
  .obj
    [("code".toList, .num ['0']), ("message".toList, .str "success".toList),
      ("data".toList, .obj [("tree".toList, .arr (node_values tree.children))])]

/-- Only the top node is without an organisation. -/
def Numbered (ts : List OrgTreeNode) : Prop := ∀ t ∈ nodesOf ts, t.info.org_id ≠ 0

theorem numbered_cons {t : OrgTreeNode} {ts : List OrgTreeNode} :
    Numbered (t :: ts) ↔ (t.info.org_id ≠ 0 ∧ Numbered t.children) ∧ Numbered ts := by
  cases t with
  | node info children =>
    rw [Numbered, nodesOf, Tree.nodes, List.forall_mem_append, List.forall_mem_cons]
    rfl

mutual

theorem serialize_eq (t : OrgTreeNode) (h : t.info.org_id ≠ 0 ∧ Numbered t.children) :
    serialize t = print (node_value t) := by
  cases t with
  | node info children =>
    obtain ⟨hid, hchildren⟩ := h
    have hid : info.org_id ≠ 0 := hid
    have hrest := serialize_all_eq children hchildren
    rw [serialize, if_neg fun h => hid h.1]
    simp only [hid, ne_eq, not_false_eq_true, if_true, decide_true, hrest]
    rw [node_value, ← object_eq_print]
    simp only [List.map_cons, List.map_nil, strMember_eq, print]
    simp [object, member, List.intercalate]

theorem serialize_all_eq (ts : List OrgTreeNode) (h : Numbered ts) :
    serialize_all true ts = printElements (node_values ts) := by
  match ts with
  | [] => rw [serialize_all, node_values, printElements]
  | [t] =>
    rw [serialize_all, serialize_eq t (numbered_cons.1 h).1, node_values, node_values, printElements]
  | t :: t' :: ts =>
    obtain ⟨ht, hts⟩ := numbered_cons.1 h
    have hnext : node_values (t' :: ts) = node_value t' :: node_values ts := by rw [node_values]
    rw [serialize_all, serialize_eq t ht, serialize_all_eq (t' :: ts) hts, node_values.eq_def (t :: _)]
    simp [hnext, printElements]

end

theorem get_orgs_tree_body {tree : OrgTreeNode} (h : Numbered tree.children) :
    (get_orgs_tree tree).body = print (tree_value tree) := by
  show success (object [member "tree".toList ('[' :: serialize_all true tree.children ++ [']'])]) = _
  have harray : '[' :: serialize_all true tree.children ++ [']'] = print (.arr (node_values tree.children)) := by
    rw [serialize_all_eq _ h, print, List.cons_append]
  rw [harray, success, tree_value, ← object_eq_print]
  simp only [List.map_cons, List.map_nil, strMember_eq, ← object_eq_print]
  simp only [print]

/-! ## Its strings and numbers -/

/-- The texts that a node shows. -/
def shown (o : OrgInfo) : List Str := [o.org_name, o.org_type, o.tenant_id]

theorem plain_keys : ∀ k ∈ ["org_id".toList, "org_name".toList, "org_type".toList, "tenant_id".toList, "parent_id".toList,
    "level".toList, "children".toList], Plain Allowed k := by decide

mutual

theorem plain_node_iff (t : OrgTreeNode) :
    (∀ s ∈ strings (node_value t), Plain Allowed s) ↔ ∀ t' ∈ t.nodes, ∀ s ∈ shown t'.info, Plain Allowed s := by
  cases t with
  | node info children =>
    have hkeys := plain_keys
    simp only [List.forall_mem_cons] at hkeys
    obtain ⟨h₁, h₂, h₃, h₄, h₅, h₆, h₇, -⟩ := hkeys
    have hchildren := plain_nodes_iff children
    rw [Tree.nodes, List.forall_mem_cons, node_value, strings, ← hchildren]
    simp only [stringsOfMembers, strings, List.nil_append, List.append_nil, List.cons_append, List.forall_mem_cons, h₁, h₂,
      h₃, h₄, h₅, h₆, h₇, true_and, shown, Tree.info, List.not_mem_nil, false_imp_iff, implies_true, and_true, and_assoc]

theorem plain_nodes_iff (ts : List OrgTreeNode) :
    (∀ s ∈ stringsOfElements (node_values ts), Plain Allowed s) ↔ ∀ t ∈ nodesOf ts, ∀ s ∈ shown t.info, Plain Allowed s := by
  match ts with
  | [] => simp [node_values, stringsOfElements, nodesOf]
  | t :: ts =>
    rw [node_values, stringsOfElements, nodesOf, List.forall_mem_append, List.forall_mem_append, plain_node_iff t,
      plain_nodes_iff ts]

end

mutual

theorem number_node (t : OrgTreeNode) : ∀ n ∈ numbers (node_value t), Number n := by
  cases t with
  | node info children =>
    have hchildren := number_nodes children
    rw [node_value, numbers]
    simpa [numbersOfMembers, numbers, number_to_string_int] using hchildren

theorem number_nodes (ts : List OrgTreeNode) : ∀ n ∈ numbersOfElements (node_values ts), Number n := by
  match ts with
  | [] => simp [node_values, numbersOfElements]
  | t :: ts =>
    rw [node_values, numbersOfElements, List.forall_mem_append]
    exact ⟨number_node t, number_nodes ts⟩

end

theorem text_tree_iff {tree : OrgTreeNode} (h : Numbered tree.children) :
    Text Allowed (get_orgs_tree tree).body (tree_value tree) ↔ ∀ o ∈ infos tree.children, ∀ s ∈ shown o, Plain Allowed s := by
  have hnumbers : ∀ n ∈ numbers (tree_value tree), Number n := by
    have hzero : Number ['0'] := number_to_string 0
    simpa [tree_value, numbers, numbersOfMembers, hzero] using number_nodes tree.children
  have hkeys : ∀ k ∈ ["code".toList, "message".toList, "success".toList, "data".toList, "tree".toList], Plain Allowed k := by
    decide
  simp only [List.forall_mem_cons] at hkeys
  obtain ⟨h₁, h₂, h₃, h₄, h₅, -⟩ := hkeys
  rw [get_orgs_tree_body h, text_print_strings_iff hnumbers, infos, List.forall_mem_map, ← plain_nodes_iff, tree_value,
    strings]
  simp only [stringsOfMembers, strings, List.nil_append, List.append_nil, List.cons_append, List.forall_mem_cons, h₁, h₂,
    h₃, h₄, h₅, true_and]

/-! ## What comes from requests -/

/-- The changes in the body of a request. -/
def put_info (req : HttpRequest) : OrgInfo :=
  { org_name := JsonHelper.get_string req.body "org_name".toList
    contact_name := JsonHelper.get_string req.body "contact_name".toList
    contact_phone := JsonHelper.get_string req.body "contact_phone".toList
    contact_email := JsonHelper.get_string req.body "contact_email".toList
    address := JsonHelper.get_string req.body "address".toList
    is_active := JsonHelper.get_bool req.body "is_active".toList true }

/-- A call that a handler makes. -/
def Requested : Event → Prop
  | .create _ info => ∃ parent_id req, info = Handlers.org_info parent_id req
  | .update _ _ info => ∃ req, info = put_info req
  | .delete _ => True

/-- The texts of an organisation that the tree shows have no quotes. -/
def Unquoted (o : OrgInfo) : Prop := ∀ s ∈ shown o, '"' ∉ s

theorem unquoted_org_info (parent_id : Int32) (req : HttpRequest) : Unquoted (Handlers.org_info parent_id req) := by
  have hfield (key : Str) : '"' ∉ JsonHelper.get_string req.body key := quote_not_mem_get_string req.body key
  have htenant : '"' ∉ (Handlers.org_info parent_id req).tenant_id := by
    rw [Handlers.org_info]
    dsimp only
    split
    · exact hfield _
    · exact hfield _
  rw [Unquoted, shown]
  simp only [List.forall_mem_cons]
  exact ⟨hfield _, hfield _, htenant, fun _ h => absurd h List.not_mem_nil⟩

theorem shown_assigned (now : Str) (info : OrgInfo) (s : OrgManager) : shown (s.assigned now info) = shown info := by
  rw [assigned]
  split_ifs
  · rfl
  · dsimp only
    split <;> rfl

theorem unquoted_updated {now : Str} {req : HttpRequest} {o : OrgInfo} (ho : Unquoted o) :
    Unquoted (updated now (put_info req) o) := by
  rw [Unquoted, shown] at ho ⊢
  simp only [List.forall_mem_cons] at ho ⊢
  obtain ⟨hname, htype, htenant, hnil⟩ := ho
  refine ⟨?_, htype, htenant, hnil⟩
  rw [updated]
  dsimp only
  split
  · exact quote_not_mem_get_string req.body _
  · exact hname

theorem forall_mem_modify {α : Type} {P : α → Prop} {f : α → α} (hf : ∀ a, P a → P (f a)) {l : List α}
    (h : ∀ a ∈ l, P a) (i : Nat) : ∀ a ∈ l.modify i f, P a := by
  intro a ha
  obtain ⟨j, hj⟩ := List.mem_iff_getElem?.1 ha
  rw [List.getElem?_modify] at hj
  obtain ⟨b, hb, rfl⟩ := Option.map_eq_some_iff.1 hj
  have hmem := h b (List.mem_of_getElem? hb)
  split
  · exact hf b hmem
  · exact hmem

theorem unquoted_step {s s' : OrgManager} {e : Event} (h : ∀ o ∈ s.orgs_, Unquoted o) (hreq : Requested e)
    (hstep : DefinedStep s e s') : ∀ o ∈ s'.orgs_, Unquoted o := by
  obtain ⟨-, rfl⟩ := hstep
  cases e with
  | create now info =>
    obtain ⟨parent_id, req, rfl⟩ := hreq
    rcases create_org_cases (g := shown) (fun _ _ => rfl) now (Handlers.org_info parent_id req) s with
      ⟨-, hs⟩ | ⟨-, -, -, -, -, ho⟩
    · rw [Event.apply, hs]
      exact h
    · intro o hmem
      have hshown := List.mem_map_of_mem (f := shown) hmem
      rw [Event.apply, ho, List.mem_append, List.mem_singleton] at hshown
      rw [Unquoted]
      rcases hshown with hshown | hshown
      · obtain ⟨o', ho', heq⟩ := List.mem_map.1 hshown
        rw [← heq]
        exact h o' ho'
      · rw [hshown, shown_assigned]
        exact unquoted_org_info parent_id req
  | update now org_id info =>
    obtain ⟨req, rfl⟩ := hreq
    rw [Event.apply, update_org]
    split
    · exact h
    · exact forall_mem_modify (fun o ho => unquoted_updated ho) h _
  | delete org_id =>
    rw [Event.apply]
    rcases delete_org_cases org_id s with ⟨-, hs⟩ | hs
    · rw [hs]
      exact h
    · rw [hs]
      exact fun o ho => h o (List.mem_of_mem_eraseP ho)

theorem unquoted_run {tr : List (OrgManager × Event)} {s : OrgManager} (h : Run DefinedStep {} tr s)
    (hreq : ∀ p ∈ tr, Requested p.2) : ∀ o ∈ s.orgs_, Unquoted o := by
  induction h with
  | nil => exact fun o ho => absurd ho List.not_mem_nil
  | snoc _ hstep ih =>
    rw [List.forall_mem_append, List.forall_mem_singleton] at hreq
    exact unquoted_step (ih hreq.1) hreq.2 hstep

theorem plain_iff_of_unquoted {o : OrgInfo} (h : Unquoted o) :
    (∀ s ∈ shown o, Plain Allowed s) ↔ ∀ s ∈ shown o, ∀ c ∈ s, Allowed c ∧ c ≠ '\\' := by
  refine forall₂_congr fun s hs => forall₂_congr fun c hc => and_congr_right fun _ => and_iff_right ?_
  rintro rfl
  exact h s hs hc

/-! ## Every run -/

theorem numbered_of_grow {s : OrgManager} (hi : Ordered s) {fuel : Nat} {children : List OrgTreeNode}
    (h : grow (·.org_id) (·.parent_id) s.activeOrgs fuel 0 = some children) : Numbered children := by
  intro t ht hzero
  have hmem : t.info ∈ infos children := List.mem_map_of_mem ht
  rw [mem_infos_grow h, ← visible_iff] at hmem
  have hbounds (ho : t.info ∈ s.orgs_) := hi.bounds _ (List.mem_map_of_mem ho)
  have hpos : 0 < t.info.org_id.toInt := by
    cases hmem with
    | root ho =>
      have := hbounds ho
      exact this.1.trans_lt this.2.1
    | child _ ho =>
      have := hbounds ho
      exact this.1.trans_lt this.2.1
  rw [hzero] at hpos
  exact absurd hpos (by decide)

/-- In every state that requests lead to, the answer to `GET /api/v1/orgs/tree` is
the text of the tree of visible organisations, and it is read back as that tree
exactly when no name, type or tenant in it has a backslash or a control
character. -/
theorem org_tree_text_iff {tr : List (OrgManager × Event)} {s : OrgManager} (h : Run DefinedStep {} tr s)
    (hreq : ∀ p ∈ tr, Requested p.2) :
    ∃ tree : OrgTreeNode, (∀ fuel, s.orgs_.length ≤ fuel → s.get_org_tree fuel = some tree) ∧
      (∀ o, o ∈ infos tree.children ↔ Visible s o) ∧ (get_orgs_tree tree).body = print (tree_value tree) ∧
      (Text Allowed (get_orgs_tree tree).body (tree_value tree) ↔
        ∀ o, Visible s o → ∀ t ∈ shown o, ∀ c ∈ t, Allowed c ∧ c ≠ '\\') := by
  obtain ⟨hi, -⟩ := ordered_run h
  obtain ⟨children, hgrow, htree⟩ := hi.exists_tree
  have hvisible (o : OrgInfo) : o ∈ infos (Rose.Tree.node {} children).children ↔ Visible s o := by
    rw [Rose.Tree.children, mem_infos_grow hgrow, visible_iff]
  have hnumbered : Numbered (Rose.Tree.node {} children).children := numbered_of_grow hi hgrow
  have hunquoted := unquoted_run h hreq
  refine ⟨.node {} children, htree, hvisible, get_orgs_tree_body hnumbered, ?_⟩
  rw [text_tree_iff hnumbered]
  refine forall_congr' fun o => ?_
  rw [hvisible o]
  refine imp_congr_right fun ho => plain_iff_of_unquoted ?_
  cases ho with
  | root ho => exact hunquoted o ho
  | child _ ho => exact hunquoted o ho

/-- A company whose name ends with a backslash. -/
def posted : HttpRequest :=
  { method := "POST".toList, body := "\x7b\"org_name\":\"acme\\\",\"org_type\":\"company\"\x7d".toList }

theorem org_tree_text_posted :
    let s := (Event.create [] (Handlers.org_info 0 posted)).apply {}
    ∃ tree : OrgTreeNode, s.get_org_tree 1 = some tree ∧ ¬Text Allowed (get_orgs_tree tree).body (tree_value tree) := by
  intro s
  have hstep : DefinedStep {} (.create [] (Handlers.org_info 0 posted)) s := ⟨fun _ => by decide, rfl⟩
  obtain ⟨tree, htree, -, -, htext⟩ := org_tree_text_iff (Run.nil.snoc hstep) (by
    rw [List.nil_append, List.forall_mem_singleton]
    exact ⟨0, posted, rfl⟩)
  have horgs : s.orgs_ = [assigned [] (Handlers.org_info 0 posted) {}] := by decide +kernel
  refine ⟨tree, htree 1 (by rw [horgs]; decide), fun h => ?_⟩
  have hvisible : Visible s (assigned [] (Handlers.org_info 0 posted) {}) :=
    .root (by rw [horgs]; exact List.mem_singleton_self _) (by decide +kernel) (by decide +kernel)
  have hname := htext.1 h _ hvisible _ List.mem_cons_self '\\' (by decide +kernel)
  exact hname.2 rfl

end OrgTree

end DevSys
