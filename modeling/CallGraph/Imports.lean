import CallGraph.OrderedMap
import CallGraph.SyntaxTree
import CallGraph.Text.Segment

/-!
# Import maps

Which names an import brings into a Python file, and what they are called where
they come from.  `import a.b` binds `a` to itself, but only if `a` is not bound
yet; every other form binds its name anew, to the last segment of what it
imports.
-/

namespace CallGraph

/-- One thing that an import statement brings in. -/
inductive Import
  /-- `import path` -/
  | plain (path : String)
  /-- `import path as name` -/
  | aliased (path name : String)
  /-- `from path import ...` -/
  | source (path : String)
  /-- `from ... import target` -/
  | member (target : String)
  /-- `from ... import target as name` -/
  | memberAs (target name : String)
deriving DecidableEq

/-- The names bound by the imports of a file, and the modules they mention. -/
structure ImportMap where
  /-- Each bound name with the name it has where it comes from. -/
  bindings : OrderedMap String String := .empty
  /-- The imported modules in the order of their first mention. -/
  modules : List String := []

namespace ImportMap

/-- Binds a name, in place of any earlier binding. -/
def bind (m : ImportMap) (name origin : String) : ImportMap :=
  { m with bindings := m.bindings.adjust name origin fun _ => origin }

/-- Binds a name unless it is bound. -/
def bindIfNew (m : ImportMap) (name origin : String) : ImportMap :=
  { m with bindings := m.bindings.adjust name origin id }

/-- Records the mention of a module. -/
def mention (m : ImportMap) (path : String) : ImportMap :=
  if path = "" ∨ path ∈ m.modules then m
  else { m with modules := m.modules ++ [path] }

/-- Takes in one import. -/
def add (m : ImportMap) : Import → ImportMap
  | .plain path =>
    (m.mention path).bindIfNew (Text.firstSegment path) (Text.firstSegment path)
  | .aliased path name => (m.mention path).bind name (Text.lastSegment path)
  | .source path => m.mention path
  | .member target => m.bind (Text.lastSegment target) (Text.lastSegment target)
  | .memberAs target name => m.bind name (Text.lastSegment target)

/-- The map after all the imports of a list. -/
def ofImports (imports : List Import) : ImportMap := imports.foldl add {}

/-- What a bound name is called where it comes from. -/
def origin? (m : ImportMap) (name : String) : Option String :=
  m.bindings.get? name

/-- Whether no name is bound. -/
def isEmpty (m : ImportMap) : Bool := m.bindings.entries.isEmpty

end ImportMap

namespace SyntaxTree

variable (t : SyntaxTree)

/-- The texts of the two parts of `target as name`. -/
def aliasParts? (i : Nat) : Option (String × String) := do
  let target ← t.childByField? i "name"
  let name ← t.childByField? i "alias"
  return (t.text target, t.text name)

/-- What one entry of an `import` statement brings in. -/
def plainImport? (i : Nat) : Option Import :=
  if t.kind i = "dotted_name" then some (.plain (t.text i))
  else if t.kind i = "aliased_import" then
    (t.aliasParts? i).map fun (p, n) => .aliased p n
  else none

/-- What one entry of a `from` statement brings in. -/
def memberImport? (i : Nat) : Option Import :=
  if t.kind i = "dotted_name" then some (.member (t.text i))
  else if t.kind i = "aliased_import" then
    (t.aliasParts? i).map fun (p, n) => .memberAs p n
  else none

/-- What a node brings in, if it is an import statement. -/
def importsAt (i : Nat) : List Import :=
  if t.kind i = "import_statement" then
    (t.childrenByField i "name").filterMap t.plainImport?
  else if t.kind i = "import_from_statement" then
    ((t.childByField? i "module_name").map
      fun m => Import.source (t.text m)).toList ++
      (t.childrenByField i "name").filterMap t.memberImport?
  else []

/-- Everything that the import statements of a file bring in, in source order.
-/
def imports : List Import := (t.descendants root).flatMap t.importsAt

/-- The import map of a file. -/
def importMap : ImportMap := ImportMap.ofImports t.imports

end SyntaxTree

end CallGraph
