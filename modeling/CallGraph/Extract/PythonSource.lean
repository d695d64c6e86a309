import CallGraph.Extract.Definition
import CallGraph.KnownNames
import CallGraph.Outline

/-!
# Python sources

Every `def`, whether at top level, in a class or in another function, is a
definition under its plain name.  It is a method when it is a direct statement
of the body of a class.
-/

namespace CallGraph.PythonSource

variable (t : SyntaxTree)

/-- The class in whose body a definition is a direct statement, decorated or
not. -/
def enclosingClass? (definition : Nat) : Option Nat := do
  let parent ← t.parent? definition
  let statement ← if t.kind parent = "decorated_definition" then
      t.parent? parent
    else some parent
  guard (t.kind statement = "block")
  let owner ← t.parent? statement
  guard (t.kind owner = "class_definition")
  return owner

/-- The name of a decorator: a plain name, the last name of an attribute, or
that of the function called. -/
def decoratorName? (i : Nat) : Option String :=
  if t.kind i = "identifier" then some (t.text i)
  else if t.kind i = "attribute" then (t.childByField? i "attribute").map t.text
  else if t.kind i = "call" then
    match _h : t.childByField? i "function" with
    | none => none
    | some f => decoratorName? f
  else none
termination_by t.size - i
decreasing_by exact t.remaining_lt_of_childByField? _h

/-- The names of the decorators of a definition. -/
def decorators (definition : Nat) : List String :=
  match t.parent? definition with
  | none => []
  | some parent =>
    if t.kind parent = "decorated_definition" then
      ((t.children parent).filter
        fun c => t.kind c = "decorator").filterMap fun d =>
          (t.namedChildren d).head?.bind (decoratorName? t)
    else []

/-- The kinds of nodes among the parameters that are no parameters. -/
def parameterMarkers : List String :=
  ["keyword_separator", "positional_separator", "comment"]

/-- The parameters of a definition, as written. -/
def parameters (definition : Nat) : List String :=
  match t.childByField? definition "parameters" with
  | none => []
  | some list =>
    ((t.namedChildren list).filter
      fun p => !parameterMarkers.contains (t.kind p)).map t.text

/-- The names of a dotted chain such as `a.b.c`. -/
def nameChain? (i : Nat) : Option (List String) :=
  if t.kind i = "identifier" then some [t.text i]
  else if t.kind i = "attribute" then
    match _h : t.childByField? i "object" with
    | none => none
    | some object => do
      let member ← t.childByField? i "attribute"
      let chain ← nameChain? object
      return chain ++ [t.text member]
  else none
termination_by t.size - i
decreasing_by exact t.remaining_lt_of_childByField? _h

/-- The shape of a callee. -/
def calleeShape (i : Nat) : Callee :=
  if t.kind i = "identifier" then .name (t.text i)
  else if t.kind i = "attribute" then
    match t.childByField? i "attribute" with
    | none => .unsupported
    | some member =>
      .member ((t.childByField? i "object").bind (nameChain? t)) (t.text member)
  else if t.kind i = "subscript" then
    match (t.childByField? i "value").bind (nameChain? t) with
    | none => .unsupported
    | some chain => .subscript (String.intercalate "." chain)
  else .unsupported

/-- Calls in Python. -/
def callSyntax : CallSyntax := ⟨"call", calleeShape, id⟩

/-- The name of the class that a definition belongs to. -/
def className? (definition : Nat) : Option String :=
  (enclosingClass? t definition).bind
    fun cls => (t.childByField? cls "name").map t.text

/-- The definition at a node, if it has a name that is kept: names of the form
`__name__` are kept only on request. -/
def definitionAt? (path : String) (includePrivate : Bool) (i : Nat) :
    Option Definition := do
  let name := t.text (← t.childByField? i "name")
  guard (includePrivate || !isDunder name)
  let className := className? t i
  return {
    info := {
      name
      filePath := path
      line := t.line i
      parameters := parameters t i
      flags := {
        isAsync := (t.children i).any fun c => t.kind c = "async"
        isPrivate := ['_'].isPrefixOf name.toList
        isMethod := className.isSome }
      className
      decorators := decorators t i }
    node := i }

/-- The definitions of a file, in source order. -/
def definitions (path : String) (includePrivate : Bool) : List Definition :=
  (t.findKind SyntaxTree.root "function_definition").filterMap
    (definitionAt? t path includePrivate)

/-- The definition that a statement of a class body is, decorated or not. -/
def methodAt? (statement : Nat) : Option Nat :=
  if t.kind statement = "function_definition" then some statement
  else if t.kind statement = "decorated_definition" then
    (t.childByField? statement "definition").filter
      fun d => t.kind d = "function_definition"
  else none

/-- The names of the methods of a class. -/
def methodNames (cls : Nat) : List String :=
  match t.childByField? cls "body" with
  | none => []
  | some body =>
    (t.children body).filterMap fun statement =>
      (methodAt? t statement).bind
        fun d => (t.childByField? d "name").map t.text

/-- The base classes of a class that are written as names. -/
def baseNames (cls : Nat) : List String :=
  match t.childByField? cls "superclasses" with
  | none => []
  | some list =>
    ((t.namedChildren list).filter fun a =>
      t.kind a = "identifier" ∨ t.kind a = "attribute").map t.text

/-- The class at a node, if it has a name. -/
def classAt? (i : Nat) : Option ClassInfo :=
  (t.childByField? i "name").map fun name =>
    { name := t.text name
      line := t.line i
      methods := methodNames t i
      bases := baseNames t i
      namespacePath := none
      isTemplate := false }

/-- The outline of a file. -/
def outline : Outline :=
  { classes :=
      (t.findKind SyntaxTree.root "class_definition").filterMap (classAt? t)
    imports := t.importMap.modules }

end CallGraph.PythonSource
