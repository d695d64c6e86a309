import CallGraph.Extract.Declarator
import CallGraph.Extract.Definition
import CallGraph.Outline

/-!
# C and C++ sources

Functions are found by their definitions.  In C++ a function in the body of a
class is named `Class::function`, and so is one defined elsewhere under its
qualified name.  Broken parts of a tree are passed over: what stands around
them is still read.
-/

namespace CallGraph.CSource

variable (t : SyntaxTree)

/-- The kinds of nodes that make their functions methods. -/
def ownerKinds : List String :=
  ["class_specifier", "struct_specifier", "union_specifier"]

/-- The name of the nearest class, struct or union around a node, within the
function around it. -/
def enclosingClass? (i : Nat) : Option String := do
  let owner ← (t.ancestors i).find? fun a =>
    ownerKinds.contains (t.kind a) || t.kind a = "function_definition"
  guard (t.kind owner ≠ "function_definition")
  let name ← t.childByField? owner "name"
  (QualifiedName.segments (t.text name)).getLast?

/-- The names of the namespaces around a node, outermost first. -/
def namespaceNames (i : Nat) : List String :=
  (((t.ancestors i).filter
    fun a => t.kind a = "namespace_definition").filterMap fun a =>
      (t.childByField? a "name").map fun n => Text.compact (t.text n)).reverse

/-- The path of the named namespaces around a node. -/
def namespacePath? (i : Nat) : Option String :=
  match namespaceNames t i with
  | [] => none
  | names => some (Text.joinColons names)

/-- Whether a node stands right inside a template declaration. -/
def isTemplate (i : Nat) : Bool :=
  (t.parent? i).any fun p => t.kind p = "template_declaration"

/-- The names of a receiver such as `a`, `this` or `a->b.c`. -/
def receiverChain? (i : Nat) : Option (List String) :=
  if t.kind i = "identifier" ∨ t.kind i = "this" then some [t.text i]
  else if t.kind i = "field_expression" then
    match _h : t.childByField? i "argument" with
    | none => none
    | some argument => do
      let field ← t.childByField? i "field"
      let chain ← receiverChain? argument
      return chain ++ [QualifiedName.bare (t.text field)]
  else none
termination_by t.size - i
decreasing_by exact t.remaining_lt_of_childByField? _h

/-- The shape of a callee that is a template with its arguments. -/
def templateShape (i : Nat) : Callee :=
  match (t.childByField? i "name").map
      fun n => QualifiedName.segments (t.text n) with
  | none | some [] => .unsupported
  | some [single] => .name single
  | some segments => .qualified segments

/-- The shape of a callee. -/
def calleeShape (i : Nat) : Callee :=
  if t.kind i = "identifier" then .name (t.text i)
  else if t.kind i = "qualified_identifier" then
    .qualified (QualifiedName.segments (t.text i))
  else if t.kind i = "template_function" then templateShape t i
  else if t.kind i = "field_expression" then
    match t.childByField? i "field" with
    | none => .unsupported
    | some field =>
      .member ((t.childByField? i "argument").bind (receiverChain? t))
        (QualifiedName.bare (t.text field))
  else if t.kind i = "subscript_expression" then
    match (t.childByField? i "argument").bind (receiverChain? t) with
    | none => .unsupported
    | some chain => .subscript (Text.joinColons chain)
  else .unsupported

/-- Calls in C and C++. -/
def callSyntax : CallSyntax := ⟨"call_expression", calleeShape, Text.compact⟩

/-- The full name of a function and the class it belongs to, from the segments
of its declared name. -/
def nameAndClass (language : Language) (i : Nat) (segments : List String) :
    String × Option String :=
  if 1 < segments.length then
    (Text.joinColons segments, segments[segments.length - 2]?)
  else
    let short := Text.joinColons segments
    match if language = .cpp then enclosingClass? t i else none with
    | some cls => (cls ++ "::" ++ short, some cls)
    | none => (short, none)

/-- The return type of the function defined at a node; `suffix` holds the
pointers and references of its declarator. -/
def returnType (i : Nat) (suffix : String) : String :=
  match t.childByField? i "type" with
  | none => "void"
  | some type => Text.compact (t.text type) ++ suffix

/-- The definition at a node, if it declares a function with a name. -/
def definitionAt? (language : Language) (path : String) (i : Nat) :
    Option Definition := do
  let (declarator, suffix) ← Declarator.ofFunction? t i
  let segments ← Declarator.declaredName? t i
  let (name, className) := nameAndClass t language i segments
  return {
    info := {
      name
      filePath := path
      line := t.line i
      parameters := Declarator.parameters t declarator
      returnType := some (returnType t i suffix)
      flags := {
        isStatic := (t.children i).any fun c =>
          t.kind c = "storage_class_specifier" ∧ t.text c = "static"
        isTemplate := isTemplate t i
        isMethod := language = .cpp ∧ className.isSome }
      className
      namespacePath := namespacePath? t i }
    node := i }

/-- The definitions of a file, in source order. -/
def definitions (language : Language) (path : String) : List Definition :=
  (t.findKind SyntaxTree.root "function_definition").filterMap
    (definitionAt? t language path)

/-- The include directive at a node. -/
def includeAt? (i : Nat) : Option IncludeInfo :=
  (t.childByField? i "path").map fun path =>
    { path := String.ofList
        (Text.trimEnds ['"', '<', '>'].contains (t.text path).toList)
      line := t.line i
      isSystem := t.kind path = "system_lib_string" }

/-- The include directives of a file. -/
def includes : List IncludeInfo :=
  (t.findKind SyntaxTree.root "preproc_include").filterMap (includeAt? t)

/-- The name of the method that a member of a class body declares or defines. -/
def memberName? (i : Nat) : Option String :=
  if t.kind i = "function_definition" ∨ t.kind i = "field_declaration" ∨
      t.kind i = "declaration" then
    (Declarator.declaredName? t i).bind (·.getLast?)
  else if t.kind i = "template_declaration" then
    (t.namedChildren i).attach.findSome? fun c => memberName? c.1
  else none
termination_by t.size - i
decreasing_by exact t.remaining_lt_of_mem_children (List.mem_filter.1 c.2).1

/-- The kinds of base classes that are listed. -/
def baseKinds : List String :=
  ["type_identifier", "qualified_type_identifier", "template_type"]

/-- The base classes of a class, as written. -/
def baseNames (cls : Nat) : List String :=
  match t.firstChildOfKind? cls ["base_class_clause"] with
  | none => []
  | some clause =>
    ((t.namedChildren clause).filter
      fun b => baseKinds.contains (t.kind b)).map fun b =>
        Text.compact (t.text b)

/-- The class at a node, if it has a name and a body. -/
def classAt? (i : Nat) : Option ClassInfo := do
  let body ← t.childByField? i "body"
  let name ← (QualifiedName.segments
    (t.text (← t.childByField? i "name"))).getLast?
  return {
    name
    line := t.line i
    methods := (t.namedChildren body).filterMap (memberName? t)
    bases := baseNames t i
    namespacePath := namespacePath? t i
    isTemplate := isTemplate t i }

/-- The classes and structs of a file. -/
def classes : List ClassInfo :=
  ((t.descendants SyntaxTree.root).filter fun i =>
    t.kind i = "class_specifier" ∨ t.kind i = "struct_specifier").filterMap
      (classAt? t)

/-- The namespace at a node, if it has a name. -/
def namespaceAt? (i : Nat) : Option NamespaceInfo :=
  (t.childByField? i "name").map fun name =>
    { name := Text.compact (t.text name)
      line := t.line i
      nestedLevel := (t.ancestors i).countP
        fun a => t.kind a = "namespace_definition" }

/-- The named namespaces of a file. -/
def namespaces : List NamespaceInfo :=
  (t.findKind SyntaxTree.root "namespace_definition").filterMap (namespaceAt? t)

/-- The outline of a file; only C++ files have classes and namespaces. -/
def outline (language : Language) : Outline :=
  if language = .cpp then
    { classes := classes t, namespaces := namespaces t, includes := includes t }
  else { includes := includes t }

end CallGraph.CSource
