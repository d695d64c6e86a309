/-!
# Outlines

The parts of a file that are not functions: classes, namespaces, includes and
imported modules.
-/

namespace CallGraph

/-- A class or struct with a body. -/
structure ClassInfo where
  name : String
  line : Nat
  /-- The names of the methods declared or defined directly in the body. -/
  methods : List String
  bases : List String
  namespacePath : Option String
  isTemplate : Bool
deriving DecidableEq, Inhabited

/-- A named namespace. -/
structure NamespaceInfo where
  name : String
  line : Nat
  /-- The number of namespaces around it. -/
  nestedLevel : Nat
deriving DecidableEq, Inhabited

/-- An include directive. -/
structure IncludeInfo where
  path : String
  line : Nat
  /-- Whether the path is written between angle brackets. -/
  isSystem : Bool
deriving DecidableEq, Inhabited

/-- The outline of a file. -/
structure Outline where
  classes : List ClassInfo := []
  namespaces : List NamespaceInfo := []
  includes : List IncludeInfo := []
  imports : List String := []
deriving DecidableEq, Inhabited

end CallGraph
