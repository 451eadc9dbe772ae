import CveManagement.Sync.Prefilter
import Mathlib.Logic.Relation

/-!
# The tree of configurations

A configuration has nodes, a node has entries in `cpeMatch` and nodes below it in `children`, and
those have nodes below them in turn. `extract_affected_cpes` means to flatten the tree: its comment
speaks of a recursion into nested nodes. What it has is one loop over the children of a node, so
that of the tree it sees the nodes of a configuration and their children
(`CveManagement.extractAffectedCpes_of_isConfigTree`), and not the nodes below.

`CveManagement.flattenedInOrder_iff` says when this is the whole tree in its order.
-/

namespace CveManagement

/-! ### Nodes -/

theorem Json.sizeOf_lt_of_mem_elements {j child : Json} {key : String}
    (h : child ∈ j.elements key) : sizeOf child < sizeOf j := by
  rw [Json.elements] at h
  split at h
  · rename_i items harrow
    cases j with
    | obj members =>
      -- an element is smaller than its array, and that than the object it is a member of
      obtain ⟨m, hm, hv⟩ := Option.map_eq_some_iff.mp harrow
      have hmember := List.sizeOf_lt_of_mem (List.mem_of_find?_eq_some hm)
      have hitem := List.sizeOf_lt_of_mem h
      have hvalue : sizeOf m = 1 + sizeOf m.1 + sizeOf (Json.arr items) := by
        rw [← hv]
        rfl
      simp only [Json.arr.sizeOf_spec, Json.obj.sizeOf_spec] at hvalue ⊢
      omega
    | _ => cases harrow
  · cases h

/-- **The entries of a node and of all nodes below it**, the node first, and a child with what is
below it before the next child. -/
def treeEntries (node : Json) : List Json :=
  node.elements "cpeMatch" ++
    (node.elements "children").attach.flatMap fun child => treeEntries child.1
termination_by sizeOf node
decreasing_by exact Json.sizeOf_lt_of_mem_elements child.2

theorem treeEntries_eq (node : Json) :
    treeEntries node =
      node.elements "cpeMatch" ++ (node.elements "children").flatMap treeEntries := by
  rw [treeEntries, List.flatMap_subtype, List.unattach_attach]
  rintro child hchild
  rfl

/-- **All entries of a payload.** -/
def payloadEntries (rawPayload : Json) : List Json :=
  (rawPayload.elements "configurations").flatMap fun config =>
    (config.elements "nodes").flatMap treeEntries

/-- The entries of a node and of its children. -/
def reachedEntries (node : Json) : List Json :=
  node.elements "cpeMatch" ++
    (node.elements "children").flatMap fun child => child.elements "cpeMatch"

/-- The nodes under a configuration of the payload. -/
def topNodes (rawPayload : Json) : List Json :=
  (rawPayload.elements "configurations").flatMap fun config => config.elements "nodes"

/-- A node is another one, or below it. -/
def Within : Json → Json → Prop := Relation.ReflTransGen fun node child =>
  child ∈ node.elements "children"

/-- A tree without entries is one all of whose nodes are. -/
theorem treeEntries_eq_nil_iff {node : Json} :
    treeEntries node = [] ↔ ∀ n, Within node n → n.elements "cpeMatch" = [] := by
  induction node using treeEntries.induct with
  | case1 node ih =>
    rw [treeEntries_eq, List.append_eq_nil_iff, List.flatMap_eq_nil_iff]
    constructor
    · rintro ⟨hown, hchildren⟩ n hn
      rcases Relation.ReflTransGen.cases_head hn with rfl | ⟨child, hchild, hbelow⟩
      · exact hown
      · exact (ih ⟨child, hchild⟩).mp (hchildren child hchild) n hbelow
    · intro h
      exact ⟨h node .refl, fun child hchild => (ih ⟨child, hchild⟩).mpr fun n hn =>
        h n (.head hchild hn)⟩

/-! ### Payloads of the right shape -/

/-- The member is a list, or absent, or null. -/
def Json.ListOrNull (key : String) (j : Json) : Prop :=
  j.get key = .ok .null ∨ ∃ items, j.get key = .ok (.arr items)

/-- **A tree of nodes**, of any depth. -/
inductive IsNode : Json → Prop
  | mk {node : Json} (own : node.ListOrNull "cpeMatch") (nested : node.ListOrNull "children")
      (below : ∀ child ∈ node.elements "children", IsNode child) : IsNode node

/-- **A payload whose configurations are trees of nodes.** -/
structure IsConfigTree (rawPayload : Json) : Prop where
  configurations : rawPayload.ListOrNull "configurations"
  nodes : ∀ config ∈ rawPayload.elements "configurations", config.ListOrNull "nodes"
  node : ∀ config ∈ rawPayload.elements "configurations",
    ∀ node ∈ config.elements "nodes", IsNode node

/-- **The configurations are flattened**: every entry of every node is returned once, each node
before those below it. -/
def FlattenedInOrder (rawPayload : Json) : Prop :=
  extractAffectedCpes rawPayload = .ok (payloadEntries rawPayload)

/-! ### What the flattening reaches -/

section Reach

variable {key : String} {j node rawPayload : Json}

/-- A list that may be missing, as a loop goes through it. -/
theorem Json.ListOrNull.iterOr (h : j.ListOrNull key) :
    ∃ v, j.get key = .ok v ∧ v.iterOr = .ok (j.elements key) := by
  cases j with
  | obj members =>
    have hget : (Json.obj members).get key = .ok ((Json.member? key members).getD .null) := rfl
    rw [Json.elements, Json.arrow]
    cases hm : Json.member? key members with
    | none => exact ⟨.null, by rw [hget, hm]; rfl, rfl⟩
    | some v =>
      rw [hm, Option.getD_some] at hget
      refine ⟨v, hget, ?_⟩
      rcases h with hnull | ⟨items, hitems⟩
      · obtain rfl := Except.ok.inj (hget.symm.trans hnull)
        rfl
      · obtain rfl := Except.ok.inj (hget.symm.trans hitems)
        exact Json.iterOr_arr
  | _ => rcases h with h | ⟨items, h⟩ <;> cases h

/-- What follows the reading of a list gets its elements. -/
theorem Json.ListOrNull.bind_iterOr (h : j.ListOrNull key) {α : Type}
    (f : List Json → Except PyError α) :
    (do f (← (← j.get key).iterOr)) = f (j.elements key) := by
  obtain ⟨v, hget, hiter⟩ := h.iterOr
  rw [hget]
  exact congrArg (fun x : Except PyError (List Json) => x >>= f) hiter

theorem nodeCpes_of_isNode (h : IsNode node) : nodeCpes node = .ok (reachedEntries node) := by
  obtain ⟨hown, hnested, hbelow⟩ := h
  have hchild : ∀ child ∈ node.elements "children",
      (do (← child.get "cpeMatch").iterOr) = Except.ok (child.elements "cpeMatch") := by
    intro child hchild
    obtain ⟨hchildOwn, -, -⟩ := hbelow child hchild
    obtain ⟨v, hv, hiter⟩ := hchildOwn.iterOr
    rw [hv]
    exact hiter
  rw [nodeCpes, hown.bind_iterOr, hnested.bind_iterOr, mapM_eq_ok hchild]
  rfl

theorem configCpes_of_isConfigTree (h : IsConfigTree rawPayload) {config : Json}
    (hconfig : config ∈ rawPayload.elements "configurations") :
    configCpes config = .ok ((config.elements "nodes").flatMap reachedEntries) := by
  rw [configCpes, (h.nodes config hconfig).bind_iterOr,
    mapM_eq_ok fun node hnode => nodeCpes_of_isNode (h.node config hconfig node hnode)]
  rfl

/-- **What is returned of a tree**: the entries of the nodes of a configuration and of their
children. -/
theorem extractAffectedCpes_of_isConfigTree (h : IsConfigTree rawPayload) :
    extractAffectedCpes rawPayload = .ok ((topNodes rawPayload).flatMap reachedEntries) := by
  rw [extractAffectedCpes, h.configurations.bind_iterOr,
    mapM_eq_ok fun config hconfig => configCpes_of_isConfigTree h hconfig, topNodes,
    List.flatMap_assoc]
  rfl

end Reach

/-! ### When that is the whole tree -/

/-- Pieces that are part of other pieces make up the same list only if they are the same. -/
theorem flatMap_eq_iff_of_sublist {α β : Type} {f g : α → List β} {l : List α}
    (h : ∀ a ∈ l, (f a).Sublist (g a)) : l.flatMap f = l.flatMap g ↔ ∀ a ∈ l, f a = g a := by
  induction l with
  | nil => simp
  | cons a l ih =>
    obtain ⟨ha, hl⟩ := List.forall_mem_cons.mp h
    rw [List.flatMap_cons, List.flatMap_cons, List.forall_mem_cons, ← ih hl]
    constructor
    · intro heq
      have hlength : (f a).length = (g a).length := by
        have htotal := congrArg List.length heq
        have hrest := (List.Sublist.flatMap_right l hl).length_le
        have hfirst := ha.length_le
        rw [List.length_append, List.length_append] at htotal
        omega
      exact List.append_inj heq hlength
    · rintro ⟨ha, hl⟩
      rw [ha, hl]

section Whole

variable {node child rawPayload : Json}

theorem own_sublist_treeEntries (node : Json) :
    (node.elements "cpeMatch").Sublist (treeEntries node) := by
  rw [treeEntries_eq]
  exact List.sublist_append_left _ _

theorem reachedEntries_sublist_treeEntries (node : Json) :
    (reachedEntries node).Sublist (treeEntries node) := by
  rw [reachedEntries, treeEntries_eq]
  exact (List.Sublist.refl _).append
    (List.Sublist.flatMap_right _ fun child _ => own_sublist_treeEntries child)

/-- A node is reached with all that is below it if its grandchildren are empty trees. -/
theorem reachedEntries_eq_iff :
    reachedEntries node = treeEntries node ↔ ∀ child ∈ node.elements "children",
      ∀ grandchild ∈ child.elements "children", treeEntries grandchild = [] := by
  rw [reachedEntries, treeEntries_eq, List.append_cancel_left_eq,
    flatMap_eq_iff_of_sublist fun child _ => own_sublist_treeEntries child]
  refine forall₂_congr fun child _ => ?_
  rw [treeEntries_eq, List.self_eq_append_right, List.flatMap_eq_nil_iff]

theorem payloadEntries_eq (rawPayload : Json) :
    payloadEntries rawPayload = (topNodes rawPayload).flatMap treeEntries := by
  rw [payloadEntries, topNodes, List.flatMap_assoc]

/-- **The configurations are flattened exactly when no node deeper than the children of the
topmost ones has entries.** -/
theorem flattenedInOrder_iff (h : IsConfigTree rawPayload) :
    FlattenedInOrder rawPayload ↔
      ∀ node ∈ topNodes rawPayload, ∀ child ∈ node.elements "children",
        ∀ grandchild ∈ child.elements "children",
          ∀ n, Within grandchild n → n.elements "cpeMatch" = [] := by
  rw [FlattenedInOrder, extractAffectedCpes_of_isConfigTree h, payloadEntries_eq, Except.ok.injEq,
    flatMap_eq_iff_of_sublist fun node _ => reachedEntries_sublist_treeEntries node]
  simp only [reachedEntries_eq_iff, treeEntries_eq_nil_iff]

end Whole

/-- A node with entries and children. -/
def Json.ofNode (entries children : List Json) : Json :=
  .obj [("cpeMatch", .arr entries), ("children", .arr children)]

/-- A payload with one configuration, of these nodes. -/
def Json.ofNodes (nodes : List Json) : Json :=
  .obj [("configurations", .arr [.obj [("nodes", .arr nodes)]])]

theorem isNode_ofNode {entries children : List Json} (h : ∀ child ∈ children, IsNode child) :
    IsNode (.ofNode entries children) :=
  ⟨.inr ⟨entries, rfl⟩, .inr ⟨children, rfl⟩, h⟩

theorem isConfigTree_ofNodes {nodes : List Json} (h : ∀ node ∈ nodes, IsNode node) :
    IsConfigTree (.ofNodes nodes) where
  configurations := .inr ⟨_, rfl⟩
  nodes config hconfig := by
    obtain rfl := List.mem_singleton.mp hconfig
    exact .inr ⟨nodes, rfl⟩
  node config hconfig := by
    obtain rfl := List.mem_singleton.mp hconfig
    exact h

/-- A node with one entry below another one. -/
def Json.nested : Json := .ofNode [] [.ofNode [.ofCriteria "cpe:2.3:a:f5:nginx:1.0"] []]

theorem isNode_nested : IsNode .nested :=
  isNode_ofNode <| List.forall_mem_singleton.mpr <| isNode_ofNode <| List.forall_mem_nil _

theorem flattenedInOrder_child :
    IsConfigTree (.ofNodes [.nested]) ∧ FlattenedInOrder (.ofNodes [.nested]) := by
  have htree := isConfigTree_ofNodes (List.forall_mem_singleton.mpr isNode_nested)
  refine ⟨htree, (flattenedInOrder_iff htree).mpr ?_⟩
  rintro node hnode child hchild grandchild hgrandchild
  obtain rfl := List.mem_singleton.mp hnode
  obtain rfl := List.mem_singleton.mp hchild
  cases hgrandchild

/-- **A grandchild is lost**: of a tree whose only entry is two levels down, nothing is returned. -/
theorem not_flattenedInOrder_grandchild :
    ∃ rawPayload, IsConfigTree rawPayload ∧ ¬FlattenedInOrder rawPayload := by
  refine ⟨.ofNodes [.ofNode [] [.nested]], isConfigTree_ofNodes (List.forall_mem_singleton.mpr
    (isNode_ofNode (List.forall_mem_singleton.mpr isNode_nested))), fun h => ?_⟩
  have hreturned : extractAffectedCpes (.ofNodes [.ofNode [] [.nested]]) = .ok [] := rfl
  have hall := Except.ok.inj (hreturned.symm.trans h)
  simp [payloadEntries, treeEntries_eq, Json.ofNodes, Json.nested, Json.ofNode, Json.elements,
    Json.arrow, Json.member?] at hall

end CveManagement
