import CallGraph.Extract.Analysis
import CallGraph.Proofs.TreeLinks

/-!
# Reads that can fail

The nodes of a tree are read by their numbers.  In the definitions of this
library a number beyond the listing stands for an absent node, so that no read
fails.  To say that such a number never comes up, this file has the same reads
once more, with a failure where there is nothing to read: a `Lapse`.

Every read of a tree is checked here, those of the links included.  Two walks go
from node to node, up to the root and down to everything below; they also check
on each step that they get on, which makes them end.  For a listed number every
checked read gives what the plain one gives (`node_eq`, `ancestors_eq`,
`descendants_eq` and the others), because parents and children are listed.

A list of reads gives what the plain list function gives as soon as each of its
reads does (`mapM_eq`, `filterM_eq` and the others), so what is put together
from reads can be compared part by part.
-/

namespace CallGraph

/-- A read of something that is not there. -/
inductive Lapse
  /-- A number that no node has, or that a walk cannot go on with. -/
  | node (i : Nat)
  /-- A place beyond the end of a list. -/
  | item (place : Nat)
deriving DecidableEq

/-- The outcome of reads: a value, or the first lapse. -/
abbrev Checked := Except Lapse

/-- Every ancestor of a node is listed. -/
theorem SyntaxTree.lt_size_of_mem_ancestors {t : SyntaxTree} {c a : Nat}
    (h : a ∈ t.ancestors c) : a < t.size := by
  have habove := mem_ancestors.mp h
  exact Nat.lt_trans habove.1 habove.lt_size

/-- The parent of a node is listed. -/
theorem SyntaxTree.lt_size_of_parent? {t : SyntaxTree} {c p : Nat}
    (h : t.parent? c = some p) : p < t.size :=
  lt_size_of_mem_ancestors (mem_ancestors.mpr (above_of_parent? h))

namespace Checked

section Lists

variable {α β : Type}

/-- A map whose every step reads in range is the plain map. -/
theorem mapM_eq {f : α → Checked β} {g : α → β} {xs : List α}
    (h : ∀ a ∈ xs, f a = pure (g a)) : xs.mapM f = pure (xs.map g) := by
  induction xs with
  | nil => rfl
  | cons a xs ih =>
      rw [List.mapM_cons, h a List.mem_cons_self, pure_bind,
        ih fun b hb => h b (List.mem_cons_of_mem a hb), pure_bind, List.map_cons]

theorem filterMapM_eq {f : α → Checked (Option β)} {g : α → Option β}
    {xs : List α} (h : ∀ a ∈ xs, f a = pure (g a)) :
    xs.filterMapM f = pure (xs.filterMap g) := by
  induction xs with
  | nil => rfl
  | cons a xs ih =>
      rw [List.filterMapM_cons, h a List.mem_cons_self, pure_bind,
        ih fun b hb => h b (List.mem_cons_of_mem a hb), List.filterMap_cons]
      cases g a with
      | none => rfl
      | some b => rfl

theorem flatMapM_eq {f : α → Checked (List β)} {g : α → List β} {xs : List α}
    (h : ∀ a ∈ xs, f a = pure (g a)) :
    xs.flatMapM f = pure (xs.flatMap g) := by
  induction xs with
  | nil => rfl
  | cons a xs ih =>
      rw [List.flatMapM_cons, h a List.mem_cons_self, pure_bind,
        ih fun b hb => h b (List.mem_cons_of_mem a hb), pure_bind,
        List.flatMap_cons]

/-- The invariant of a checked filter: what was kept so far stands in front of
what the plain filter keeps, in reverse. -/
theorem filterAuxM_eq {f : α → Checked Bool} {p : α → Bool} {xs : List α}
    (h : ∀ a ∈ xs, f a = pure (p a)) (kept : List α) :
    xs.filterAuxM f kept = pure ((xs.filter p).reverse ++ kept) := by
  induction xs generalizing kept with
  | nil => rfl
  | cons a xs ih =>
      rw [List.filterAuxM, h a List.mem_cons_self, pure_bind,
        ih fun b hb => h b (List.mem_cons_of_mem a hb)]
      cases hp : p a with
      | false => rw [List.filter_cons_of_neg (by simp [hp])]; rfl
      | true =>
          rw [List.filter_cons_of_pos hp, List.reverse_cons, List.append_assoc]
          rfl

/-- A filter whose every test reads in range is the plain filter. -/
theorem filterM_eq {f : α → Checked Bool} {p : α → Bool} {xs : List α}
    (h : ∀ a ∈ xs, f a = pure (p a)) : xs.filterM f = pure (xs.filter p) := by
  rw [List.filterM, filterAuxM_eq h, pure_bind, List.append_nil,
    List.reverse_reverse]

/-- A search whose every test reads in range is the plain search. -/
theorem findM?_eq {f : α → Checked Bool} {p : α → Bool} {xs : List α}
    (h : ∀ a ∈ xs, f a = pure (p a)) : xs.findM? f = pure (xs.find? p) := by
  induction xs with
  | nil => rfl
  | cons a xs ih =>
      rw [List.findM?, h a List.mem_cons_self, pure_bind, List.find?_cons,
        ih fun b hb => h b (List.mem_cons_of_mem a hb)]
      cases p a with
      | false => rfl
      | true => rfl

theorem findSomeM?_eq {f : α → Checked (Option β)} {g : α → Option β}
    {xs : List α} (h : ∀ a ∈ xs, f a = pure (g a)) :
    xs.findSomeM? f = pure (xs.findSome? g) := by
  induction xs with
  | nil => rfl
  | cons a xs ih =>
      rw [List.findSomeM?, h a List.mem_cons_self, pure_bind,
        List.findSome?_cons, ih fun b hb => h b (List.mem_cons_of_mem a hb)]
      cases g a with
      | none => rfl
      | some b => rfl

/-- A test for some element whose every step reads in range is the plain test.
-/
theorem anyM_eq {f : α → Checked Bool} {p : α → Bool} {xs : List α}
    (h : ∀ a ∈ xs, f a = pure (p a)) : xs.anyM f = pure (xs.any p) := by
  induction xs with
  | nil => rfl
  | cons a xs ih =>
      rw [List.anyM, h a List.mem_cons_self, pure_bind, List.any_cons,
        ih fun b hb => h b (List.mem_cons_of_mem a hb)]
      cases p a with
      | false => rfl
      | true => rfl

/-- A step on an optional value reads in range if it does so on the value. -/
theorem optionMapM_eq {f : α → Checked β} {g : α → β} {o : Option α}
    (h : ∀ a, o = some a → f a = pure (g a)) :
    o.mapM f = pure (o.map g) := by
  cases o with
  | none => rfl
  | some a => rw [Option.mapM_some, h a rfl, map_pure, Option.map_some]

theorem optionBindM_eq {f : α → Checked (Option β)} {g : α → Option β}
    {o : Option α} (h : ∀ a, o = some a → f a = pure (g a)) :
    o.bindM f = pure (o.bind g) := by
  cases o with
  | none => rfl
  | some a => exact h a rfl

/-- The item of a list at a place. -/
def item (xs : List α) (place : Nat) : Checked α :=
  match xs[place]? with
  | some a => pure a
  | none => throw (.item place)

/-- Reading a place that a list has gives what stands there. -/
theorem item_eq {xs : List α} {place : Nat} {a : α} (h : xs[place]? = some a) :
    item xs place = pure a := by
  rw [item, h]

end Lists

section Tree

variable (t : SyntaxTree)

/-- The node with a given number. -/
def node (i : Nat) : Checked Node :=
  match t.nodes[i]? with
  | some n => pure n
  | none => throw (.node i)

/-- The kind of a node. -/
def kind (i : Nat) : Checked String := return (← node t i).kind

/-- Whether a node is of a kind. -/
def hasKind (wanted : String) (i : Nat) : Checked Bool :=
  return (← kind t i) = wanted

/-- The line on which a node starts. -/
def line (i : Nat) : Checked Nat := return (← node t i).line

/-- The source text that a node covers. -/
def text (i : Nat) : Checked String := do
  let n ← node t i
  return Text.slice t.source n.start n.stop

/-- The node right above a node. -/
def parent? (i : Nat) : Checked (Option Nat) := do
  let _ ← node t i
  return t.parent? i

/-- The nodes right below a node. -/
def children (i : Nat) : Checked (List Nat) := do
  let _ ← node t i
  return t.children i

/-- The children that are named in the grammar. -/
def namedChildren (i : Nat) : Checked (List Nat) := do
  (← children t i).filterM fun c => return (← node t c).named

/-- The children with a given role. -/
def childrenByField (i : Nat) (field : String) : Checked (List Nat) := do
  (← children t i).filterM fun c => return (← node t c).field = some field

/-- The first child with a given role. -/
def childByField? (i : Nat) (field : String) : Checked (Option Nat) := do
  (← children t i).findM? fun c => return (← node t c).field = some field

/-- The first child of one of the given kinds. -/
def firstChildOfKind? (i : Nat) (kinds : List String) :
    Checked (Option Nat) := do
  (← children t i).findM? fun c => return kinds.contains (← kind t c)

/-- The nodes above a node, nearest first.  The way up has to go up. -/
def ancestors (i : Nat) : Checked (List Nat) := do
  match ← parent? t i with
  | none => return []
  | some p =>
    if _h : p < i then return p :: (← ancestors p) else throw (.node p)
termination_by i

/-- A node and everything below it, in pre-order.  The way down has to go on in
the listing. -/
def descendants (i : Nat) : Checked (List Nat) := do
  let below ← (← children t i).flatMapM fun c =>
    if _h : i < c ∧ c < t.size then descendants c else throw (.node c)
  return i :: below
termination_by t.size - i

/-- The nodes of a kind among a node and everything below it. -/
def findKind (i : Nat) (wanted : String) : Checked (List Nat) := do
  (← descendants t i).filterM (hasKind t wanted)

/-- Enters every node among the children of its parent, which has to be listed
by then. -/
def enterAll : Checked (List Unit) :=
  (List.range t.size).mapM fun i =>
    match t.parent? i with
    | none => pure ()
    | some p => if p < i then pure () else throw (.node p)

variable {t} {i : Nat}

/-- Reading a listed node gives that node.  Each read below comes down to this
one. -/
theorem node_eq (h : i < t.size) : node t i = pure (t.node i) := by
  unfold node SyntaxTree.node
  rw [Array.getElem?_eq_getElem h, Array.getD_eq_getD_getElem?,
    Array.getElem?_eq_getElem h, Option.getD_some]

theorem kind_eq (h : i < t.size) : kind t i = pure (t.kind i) := by
  rw [kind, node_eq h, pure_bind, SyntaxTree.kind]

theorem hasKind_eq (wanted : String) (h : i < t.size) :
    hasKind t wanted i = pure (decide (t.kind i = wanted)) := by
  rw [hasKind, kind_eq h, pure_bind]

theorem line_eq (h : i < t.size) : line t i = pure (t.line i) := by
  rw [line, node_eq h, pure_bind, SyntaxTree.line]

theorem text_eq (h : i < t.size) : text t i = pure (t.text i) := by
  rw [text, node_eq h, pure_bind, SyntaxTree.text]

theorem parent?_eq (h : i < t.size) : parent? t i = pure (t.parent? i) := by
  rw [parent?, node_eq h, pure_bind]

theorem children_eq (h : i < t.size) : children t i = pure (t.children i) := by
  rw [children, node_eq h, pure_bind]

/-- Reading which children of a listed node are named is in range, since every
child is listed. -/
theorem namedChildren_eq (h : i < t.size) :
    namedChildren t i = pure (t.namedChildren i) := by
  rw [namedChildren, children_eq h, pure_bind]
  refine filterM_eq fun c hc => ?_
  rw [node_eq (t.mem_children hc).2, pure_bind]

theorem childrenByField_eq (field : String) (h : i < t.size) :
    childrenByField t i field = pure (t.childrenByField i field) := by
  rw [childrenByField, children_eq h, pure_bind]
  refine filterM_eq fun c hc => ?_
  rw [node_eq (t.mem_children hc).2, pure_bind]

/-- Finding the child of a listed node in a role is in range. -/
theorem childByField?_eq (field : String) (h : i < t.size) :
    childByField? t i field = pure (t.childByField? i field) := by
  rw [childByField?, children_eq h, pure_bind]
  refine findM?_eq fun c hc => ?_
  rw [node_eq (t.mem_children hc).2, pure_bind]

theorem firstChildOfKind?_eq (kinds : List String) (h : i < t.size) :
    firstChildOfKind? t i kinds = pure (t.firstChildOfKind? i kinds) := by
  rw [firstChildOfKind?, children_eq h, pure_bind]
  refine findM?_eq fun c hc => ?_
  rw [kind_eq (t.mem_children hc).2, pure_bind]

/-- The child in a role stands later in the listing than its parent. -/
theorem lt_size_of_childByField? {c : Nat} {field : String}
    (h : t.childByField? i field = some c) : i < c ∧ c < t.size :=
  t.mem_children (t.mem_children_of_childByField? h)

/-- Going on with a child gives what the plain way gives, when it does so from
every listed node further on. -/
theorem bindChild_eq {β : Type} {f : Nat → Checked (Option β)}
    {g : Nat → Option β} (field : String) (h : i < t.size)
    (hf : ∀ c, i < c ∧ c < t.size → f c = pure (g c)) :
    (do (← childByField? t i field).bindM f) =
      (pure ((t.childByField? i field).bind g) : Checked (Option β)) := by
  rw [childByField?_eq field h, pure_bind]
  exact optionBindM_eq fun c hc => hf c (lt_size_of_childByField? hc)

/-- The same for what is made of a child. -/
theorem mapChild_eq {β : Type} {f : Nat → Checked β} {g : Nat → β}
    (field : String) (h : i < t.size)
    (hf : ∀ c, i < c ∧ c < t.size → f c = pure (g c)) :
    (do (← childByField? t i field).mapM f) =
      (pure ((t.childByField? i field).map g) : Checked (Option β)) := by
  rw [childByField?_eq field h, pure_bind]
  exact optionMapM_eq fun c hc => hf c (lt_size_of_childByField? hc)

theorem lt_size_of_mem_namedChildren {c : Nat} (h : c ∈ t.namedChildren i) :
    i < c ∧ c < t.size :=
  t.mem_children (List.mem_filter.mp h).1

/-- **The way up** meets listed nodes only. -/
theorem ancestors_eq (h : i < t.size) :
    ancestors t i = pure (t.ancestors i) := by
  induction i using Nat.strongRecOn with
  | ind i ih =>
      rw [ancestors, parent?_eq h, pure_bind, SyntaxTree.ancestors_eq]
      cases hparent : t.parent? i with
      | none => rfl
      | some p =>
          have hup : p < i := (SyntaxTree.above_of_parent? hparent).1
          dsimp only
          rw [dif_pos hup, ih p hup (Nat.lt_trans hup h), pure_bind]

/-- **The way down** meets listed nodes only.  Both sides are ascending, so it
is enough that they have the same members. -/
theorem descendants_eq (h : i < t.size) :
    descendants t i = pure (t.descendants i) := by
  induction hleft : t.size - i using Nat.strongRecOn generalizing i with
  | ind left ih =>
      rw [descendants, children_eq h, pure_bind, SyntaxTree.descendants_eq h]
      have hbelow : ∀ c ∈ t.children i,
          (if _h : i < c ∧ c < t.size then descendants t c
            else throw (.node c)) = pure (t.descendants c) := fun c hc => by
        have hdown := t.mem_children hc
        rw [dif_pos hdown]
        exact ih (t.size - c) (by omega) hdown.2 rfl
      rw [flatMapM_eq hbelow, pure_bind]

/-- Searching below a listed node for a kind is in range. -/
theorem findKind_eq (wanted : String) (h : i < t.size) :
    findKind t i wanted = pure (t.findKind i wanted) := by
  rw [findKind, descendants_eq h, pure_bind]
  exact filterM_eq fun j hj => hasKind_eq wanted (t.mem_descendants hj).2

/-- Entering every node of a tree in turn is in range. -/
theorem enterAll_eq (t : SyntaxTree) :
    enterAll t = pure ((List.range t.size).map fun _ => ()) := by
  refine mapM_eq fun i _ => ?_
  cases hparent : t.parent? i with
  | none => rfl
  | some p => exact if_pos (SyntaxTree.above_of_parent? hparent).1

end Tree

end Checked

end CallGraph
