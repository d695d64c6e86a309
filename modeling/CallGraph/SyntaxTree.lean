import CallGraph.Text.Slice

/-!
# Syntax trees

A syntax tree is the list of its nodes in pre-order, each with its depth; the
number of a node is its position in that list.  A listing is the pre-order of a
tree exactly when it starts at depth zero and every later node is at least one
and at most one level deeper than its predecessor, which is the invariant that
`SyntaxTree` carries.

Everything else is read off the depths.  The nodes below a node are those that
follow it while they are deeper (`descendants`); its ancestors are the nodes
met on the way back to the root that are shallower than all met before
(`ancestors`).  A number beyond the listing stands for an absent node, without
kind, text, parent or children.
-/

namespace CallGraph

/-- A node of a syntax tree, as listed. -/
structure Node where
  depth : Nat
  kind : String
  /-- The role of the node under its parent, such as `name` or `body`. -/
  field : Option String
  named : Bool
  /-- Whether the node stands for text that does not fit the grammar, or for
  text that is missing. -/
  broken : Bool
  start : Nat
  stop : Nat
  line : Nat

/-- What is found at a number that is not listed. -/
def Node.absent : Node := ⟨0, "", none, false, false, 0, 0, 0⟩

/-- Every depth is at least one, and at most one more than the depth before it,
which is `d` for the first. -/
def stepsFrom (d : Nat) : List Nat → Bool
  | [] => true
  | e :: rest => 1 ≤ e && e ≤ d + 1 && stepsFrom e rest

/-- Whether the depths are those of the pre-order listing of a tree. -/
def isPreorder : List Nat → Bool
  | [] => true
  | d :: rest => d == 0 && stepsFrom d rest

/-- A syntax tree over a source text. -/
structure SyntaxTree where
  source : String
  nodes : Array Node
  preorder : isPreorder (nodes.toList.map (·.depth)) = true

namespace SyntaxTree

/-- The tree with the given listing, if it is one. -/
def ofNodes? (source : String) (nodes : Array Node) : Option SyntaxTree :=
  if h : isPreorder (nodes.toList.map (·.depth)) = true then
    some ⟨source, nodes, h⟩
  else none

/-- The tree without nodes. -/
def empty (source : String) : SyntaxTree := ⟨source, #[], rfl⟩

variable (t : SyntaxTree)

/-- The number of nodes. -/
def size : Nat := t.nodes.size

/-- The number of the root. -/
def root : Nat := 0

/-- The node with a given number. -/
def node (i : Nat) : Node := t.nodes.getD i Node.absent

/-- The depth of a node. -/
def depth (i : Nat) : Nat := (t.node i).depth

/-- The kind of a node. -/
def kind (i : Nat) : String := (t.node i).kind

/-- The line on which a node starts, counted from one. -/
def line (i : Nat) : Nat := (t.node i).line

/-- The source text that a node covers. -/
def text (i : Nat) : String :=
  Text.slice t.source (t.node i).start (t.node i).stop

/-- The nodes `first`, `first + 1`, ... up to `count` of them, as long as they
lie deeper than `d`. -/
def runBelow (d : Nat) : (first count : Nat) → List Nat
  | _, 0 => []
  | i, n + 1 => if d < t.depth i then i :: runBelow d (i + 1) n else []

/-- A node and everything below it, in pre-order. -/
def descendants (i : Nat) : List Nat :=
  if i < t.size then
    i :: t.runBelow (t.depth i) (i + 1) (t.size - (i + 1))
  else []

/-- The nodes before number `i` that are shallower than `d` and than every node
passed on the way back to them. -/
def shallowerBefore (d : Nat) : Nat → List Nat
  | 0 => []
  | j + 1 =>
    if t.depth j < d then j :: shallowerBefore (t.depth j) j
    else shallowerBefore d j

/-- The nodes above a node, nearest first. -/
def ancestors (i : Nat) : List Nat := t.shallowerBefore (t.depth i) i

/-- The node right above a node. -/
def parent? (i : Nat) : Option Nat := (t.ancestors i).head?

/-- The nodes right below a node, in order. -/
def children (i : Nat) : List Nat :=
  (t.descendants i).filter fun j => t.depth j = t.depth i + 1

/-- The children that are named in the grammar. -/
def namedChildren (i : Nat) : List Nat :=
  (t.children i).filter fun c => (t.node c).named

/-- The children with a given role. -/
def childrenByField (i : Nat) (field : String) : List Nat :=
  (t.children i).filter fun c => (t.node c).field = some field

/-- The first child with a given role. -/
def childByField? (i : Nat) (field : String) : Option Nat :=
  (t.children i).find? fun c => (t.node c).field = some field

/-- The first child of one of the given kinds. -/
def firstChildOfKind? (i : Nat) (kinds : List String) : Option Nat :=
  (t.children i).find? fun c => kinds.contains (t.kind c)

/-- The nodes of a kind among a node and everything below it, in pre-order. -/
def findKind (i : Nat) (kind : String) : List Nat :=
  (t.descendants i).filter fun j => t.kind j = kind

/-- The line of the first broken node. -/
def errorLine? : Option Nat :=
  (t.nodes.toList.find? (·.broken)).map (·.line)

/-- A run lies in the stretch that it was sought in. -/
theorem mem_runBelow {d first count j : Nat}
    (h : j ∈ t.runBelow d first count) :
    first ≤ j ∧ j < first + count := by
  induction count generalizing first with
  | zero => simp [runBelow] at h
  | succ n ih =>
    rw [runBelow] at h
    split at h
    · rcases List.mem_cons.1 h with rfl | h
      · omega
      · have := ih h
        omega
    · simp at h

/-- Descendants are listed, and none comes before its node. -/
theorem mem_descendants {i j : Nat} (h : j ∈ t.descendants i) :
    i ≤ j ∧ j < t.size := by
  rw [descendants] at h
  split at h
  · rcases List.mem_cons.1 h with rfl | h
    · omega
    · have := t.mem_runBelow h
      omega
  · simp at h

/-- A child comes after its parent in the listing. -/
theorem mem_children {i c : Nat} (h : c ∈ t.children i) :
    i < c ∧ c < t.size := by
  simp only [children, List.mem_filter, decide_eq_true_eq] at h
  have hb := t.mem_descendants h.1
  refine ⟨Nat.lt_of_le_of_ne hb.1 fun e => ?_, hb.2⟩
  subst e
  omega

/-- The measure by which walks down a tree end: the nodes after the present one
become fewer. -/
theorem remaining_lt_of_mem_children {i c : Nat} (h : c ∈ t.children i) :
    t.size - c < t.size - i := by
  have := t.mem_children h
  omega

theorem mem_children_of_childByField? {i c : Nat} {field : String}
    (h : t.childByField? i field = some c) : c ∈ t.children i :=
  List.mem_of_find?_eq_some h

/-- Fewer nodes remain after a child than after its parent, which ends every
way down the tree. -/
theorem remaining_lt_of_childByField? {i c : Nat} {field : String}
    (h : t.childByField? i field = some c) : t.size - c < t.size - i :=
  t.remaining_lt_of_mem_children (t.mem_children_of_childByField? h)

end SyntaxTree

end CallGraph
