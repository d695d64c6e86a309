import CallGraph.Proofs.CheckedReads
import CallGraph.Proofs.DeclaratorChains
import CallGraph.Proofs.MemberDefinitions

/-!
# C and C++ sources with checked reads

The extraction of definitions and outlines from the tree of a C or C++ source,
with every read checked, those of the segments of a name included.  From a
listed node all of it gives what the plain extraction gives.  Trees of broken
sources are no exception: the kinds and roles of the nodes do not matter.

Three functions go down a chain of nodes, through declarators, receivers and
templates.  They check on each step that the next node comes later in the
listing.
-/

namespace CallGraph.Checked.C

variable (t : SyntaxTree)

/-- What a wrapping declarator adds to the return type. -/
def mark? (i : Nat) : Checked (Option String) := do
  if (← kind t i) = "pointer_declarator" then return some "*"
  else if (← kind t i) = "reference_declarator" then
    let rvalue ← (← children t i).anyM (hasKind t "&&")
    return some (if rvalue then "&&" else "&")
  else if (← kind t i) = "parenthesized_declarator" ∨
      (← kind t i) = "attributed_declarator" then return some ""
  else return none

/-- The declarator that a node wraps. -/
def inner? (i : Nat) : Checked (Option Nat) := do
  match ← childByField? t i "declarator" with
  | some d => return some d
  | none => (← namedChildren t i).findM? fun c => do
      return (← kind t c) ≠ "attribute_declaration"

/-- The declarator of a function at or inside a declarator. -/
def functionDeclarator? (i : Nat) : Checked (Option (Nat × String)) := do
  if (← kind t i) = "function_declarator" then return some (i, "")
  else
    (← mark? t i).bindM fun mark => do
      (← inner? t i).bindM fun j => do
        if _h : i < j ∧ j < t.size then
          return (← functionDeclarator? j).map fun (f, suffix) =>
            (f, mark ++ suffix)
        else throw (.node j)
termination_by t.size - i

/-- The declarator of the function that a node defines or declares. -/
def ofFunction? (i : Nat) : Checked (Option (Nat × String)) := do
  (← childByField? t i "declarator").bindM (functionDeclarator? t)

/-- The segments of the name of the function that a node defines or
declares. -/
def declaredName? (i : Nat) : Checked (Option (List String)) := do
  (← ofFunction? t i).bindM fun (f, _) => do
    (← childByField? t f "declarator").bindM fun name => do
      let segments := QualifiedName.segments (← text t name)
      return if segments ≠ [] then some segments else none

/-- Parameters without a lone `void`, which means none. -/
def withoutVoid (texts : List String) : Checked (List String) := do
  if texts.length = 1 then
    return if (← item texts 0) = "void" then [] else texts
  else return texts

/-- The parameters of a function declarator. -/
def parameters (declarator : Nat) : Checked (List String) := do
  match ← childByField? t declarator "parameters" with
  | none => return []
  | some list =>
    let kept ← (← namedChildren t list).filterM fun p => do
      return (← kind t p) ≠ "comment"
    withoutVoid (← kept.mapM fun p => return Text.collapse (← text t p))

/-- The name of the nearest class around a node, within the function around
it. -/
def enclosingClass? (i : Nat) : Checked (Option String) := do
  let owner ← (← ancestors t i).findM? fun a => do
    return CSource.ownerKinds.contains (← kind t a) ||
      (← kind t a) = "function_definition"
  owner.bindM fun owner => do
    if (← kind t owner) ≠ "function_definition" then
      (← childByField? t owner "name").bindM fun name => do
        return (QualifiedName.segments (← text t name)).getLast?
    else return none

/-- The path of the named namespaces around a node. -/
def namespacePath? (i : Nat) : Checked (Option String) := do
  let spaces ← (← ancestors t i).filterM (hasKind t "namespace_definition")
  let names ← spaces.filterMapM fun a => do
    (← childByField? t a "name").mapM fun n => return Text.compact (← text t n)
  return match names.reverse with
    | [] => none
    | names => some (Text.joinColons names)

/-- Whether a node stands right inside a template declaration. -/
def isTemplate (i : Nat) : Checked Bool := do
  match ← parent? t i with
  | none => return false
  | some p => hasKind t "template_declaration" p

/-- The names of a receiver. -/
def receiverChain? (i : Nat) : Checked (Option (List String)) := do
  if (← kind t i) = "identifier" ∨ (← kind t i) = "this" then
    return some [← text t i]
  else if (← kind t i) = "field_expression" then
    (← childByField? t i "argument").bindM fun argument => do
      (← childByField? t i "field").bindM fun field => do
        if _h : i < argument ∧ argument < t.size then
          (← receiverChain? argument).bindM fun chain => do
            return some (chain ++ [QualifiedName.bare (← text t field)])
        else throw (.node argument)
  else return none
termination_by t.size - i

/-- The shape of a callee that is a template with its arguments. -/
def templateShape (i : Nat) : Checked Callee := do
  let segments ← (← childByField? t i "name").mapM fun n => do
    return QualifiedName.segments (← text t n)
  return match segments with
    | none | some [] => .unsupported
    | some [single] => .name single
    | some segments => .qualified segments

/-- The shape of a callee. -/
def calleeShape (i : Nat) : Checked Callee := do
  if (← kind t i) = "identifier" then return .name (← text t i)
  else if (← kind t i) = "qualified_identifier" then
    return .qualified (QualifiedName.segments (← text t i))
  else if (← kind t i) = "template_function" then templateShape t i
  else if (← kind t i) = "field_expression" then
    match ← childByField? t i "field" with
    | none => return .unsupported
    | some field =>
      let receiver ← (← childByField? t i "argument").bindM (receiverChain? t)
      return .member receiver (QualifiedName.bare (← text t field))
  else if (← kind t i) = "subscript_expression" then
    match ← (← childByField? t i "argument").bindM (receiverChain? t) with
    | none => return .unsupported
    | some chain => return .subscript (Text.joinColons chain)
  else return .unsupported

/-- The full name of a function and the class it belongs to; the class is the
segment before the last one. -/
def nameAndClass (language : Language) (i : Nat) (segments : List String) :
    Checked (String × Option String) := do
  if 1 < segments.length then
    return (Text.joinColons segments, some (← item segments.reverse 1))
  else
    let cls ← if language = .cpp then enclosingClass? t i else pure none
    let short := Text.joinColons segments
    return match cls with
      | some cls => (cls ++ "::" ++ short, some cls)
      | none => (short, none)

/-- The return type of the function defined at a node. -/
def returnType (i : Nat) (suffix : String) : Checked String := do
  match ← childByField? t i "type" with
  | none => return "void"
  | some type => return Text.compact (← text t type) ++ suffix

/-- The definition at a node, if it declares a function with a name. -/
def definitionAt? (language : Language) (path : String) (i : Nat) :
    Checked (Option Definition) := do
  (← ofFunction? t i).bindM fun (declarator, suffix) => do
    (← declaredName? t i).bindM fun segments => do
      let (name, className) ← nameAndClass t language i segments
      return some {
        info := {
          name
          filePath := path
          line := ← line t i
          parameters := ← parameters t declarator
          returnType := some (← returnType t i suffix)
          flags := {
            isStatic := ← (← children t i).anyM fun c => do
              return (← kind t c) = "storage_class_specifier" ∧
                (← text t c) = "static"
            isTemplate := ← isTemplate t i
            isMethod := language = .cpp ∧ className.isSome }
          className
          namespacePath := ← namespacePath? t i }
        node := i }

/-- The definitions of a file, in source order. -/
def definitions (language : Language) (path : String) :
    Checked (List Definition) := do
  (← findKind t SyntaxTree.root "function_definition").filterMapM
    (definitionAt? t language path)

/-- The include directive at a node. -/
def includeAt? (i : Nat) : Checked (Option IncludeInfo) := do
  (← childByField? t i "path").mapM fun path => do
    return {
      path := String.ofList
        (Text.trimEnds ['"', '<', '>'].contains (← text t path).toList)
      line := ← line t i
      isSystem := ← hasKind t "system_lib_string" path }

/-- The name of the method that a member of a class body declares or defines. -/
def memberName? (i : Nat) : Checked (Option String) := do
  if (← kind t i) = "function_definition" ∨
      (← kind t i) = "field_declaration" ∨ (← kind t i) = "declaration" then
    return (← declaredName? t i).bind (·.getLast?)
  else if (← kind t i) = "template_declaration" then
    (← namedChildren t i).findSomeM? fun c =>
      if _h : i < c ∧ c < t.size then memberName? c else throw (.node c)
  else return none
termination_by t.size - i

/-- The base classes of a class, as written. -/
def baseNames (cls : Nat) : Checked (List String) := do
  match ← firstChildOfKind? t cls ["base_class_clause"] with
  | none => return []
  | some clause =>
    let kept ← (← namedChildren t clause).filterM fun b => do
      return CSource.baseKinds.contains (← kind t b)
    kept.mapM fun b => return Text.compact (← text t b)

/-- The class at a node, if it has a name and a body. -/
def classAt? (i : Nat) : Checked (Option ClassInfo) := do
  (← childByField? t i "body").bindM fun body => do
    (← childByField? t i "name").bindM fun nameNode => do
      (QualifiedName.segments (← text t nameNode)).getLast?.bindM fun name => do
        return some {
          name
          line := ← line t i
          methods := ← (← namedChildren t body).filterMapM (memberName? t)
          bases := ← baseNames t i
          namespacePath := ← namespacePath? t i
          isTemplate := ← isTemplate t i }

/-- The classes and structs of a file. -/
def classes : Checked (List ClassInfo) := do
  let found ← (← descendants t SyntaxTree.root).filterM fun i => do
    return (← kind t i) = "class_specifier" ∨
      (← kind t i) = "struct_specifier"
  found.filterMapM (classAt? t)

/-- The namespace at a node, if it has a name. -/
def namespaceAt? (i : Nat) : Checked (Option NamespaceInfo) := do
  (← childByField? t i "name").mapM fun name => do
    return {
      name := Text.compact (← text t name)
      line := ← line t i
      nestedLevel := (← (← ancestors t i).filterM
        (hasKind t "namespace_definition")).length }

/-- The outline of a file; only C++ files have classes and namespaces. -/
def outline (language : Language) : Checked Outline := do
  let includes ← (← findKind t SyntaxTree.root "preproc_include").filterMapM
    (includeAt? t)
  if language = .cpp then
    let namespaces ← (← findKind t SyntaxTree.root
      "namespace_definition").filterMapM (namespaceAt? t)
    return { classes := ← classes t, namespaces, includes }
  else return { includes }

variable {t} {i : Nat}

theorem mark?_eq (h : i < t.size) :
    mark? t i = pure (Declarator.mark? t i) := by
  rw [mark?, Declarator.mark?]
  simp only [kind_eq h, pure_bind, children_eq h,
    anyM_eq fun c hc => hasKind_eq "&&" (t.mem_children hc).2]
  split
  · rfl
  · split
    · rfl
    · split <;> rfl

theorem inner?_eq (h : i < t.size) :
    inner? t i = pure (Declarator.inner? t i) := by
  rw [inner?, Declarator.inner?, childByField?_eq _ h, pure_bind]
  cases t.childByField? i "declarator" with
  | some d => rfl
  | none =>
      dsimp only
      rw [namedChildren_eq h, pure_bind, Option.none_or]
      refine findM?_eq fun c hc => ?_
      rw [kind_eq (lt_size_of_mem_namedChildren hc).2, pure_bind]

/-- The declarator inside another stands later in the listing: the way down
ends. -/
theorem lt_size_of_inner? {j : Nat} (h : Declarator.inner? t i = some j) :
    i < j ∧ j < t.size :=
  t.mem_children (Declarator.mem_children_of_inner? t h)

/-- The way down from a listed declarator to a function's stays in range. -/
theorem functionDeclarator?_eq (h : i < t.size) :
    functionDeclarator? t i = pure (Declarator.functionDeclarator? t i) := by
  induction hleft : t.size - i using Nat.strongRecOn generalizing i with
  | ind left ih =>
      rw [functionDeclarator?, Declarator.functionDeclarator?, kind_eq h,
        pure_bind]
      split
      · rfl
      · rw [mark?_eq h, pure_bind]
        cases Declarator.mark? t i with
        | none => rfl
        | some mark =>
            rw [Option.bindM_some, inner?_eq h, pure_bind]
            cases hinner : Declarator.inner? t i with
            | none => rfl
            | some j =>
                have hdown := lt_size_of_inner? hinner
                rw [Option.bindM_some, dif_pos hdown,
                  ih (t.size - j) (by omega) hdown.2 rfl, pure_bind]

/-- The walk through declarators ends at a listed node. -/
theorem lt_size_of_functionDeclarator? {f : Nat} {suffix : String}
    (h : Declarator.functionDeclarator? t i = some (f, suffix)) :
    f < t.size := by
  obtain ⟨_, hwraps, _⟩ := Declarator.exists_wraps h
  exact SyntaxTree.lt_size_of_kind (by decide) hwraps.function

theorem ofFunction?_eq (h : i < t.size) :
    ofFunction? t i = pure (Declarator.ofFunction? t i) :=
  bindChild_eq "declarator" h fun _ hd => functionDeclarator?_eq hd.2

/-- The declarator that a function's node leads to is listed. -/
theorem lt_size_of_ofFunction? {f : Nat} {suffix : String}
    (h : Declarator.ofFunction? t i = some (f, suffix)) : f < t.size := by
  obtain ⟨d, -, hd⟩ := Option.bind_eq_some_iff.mp h
  exact lt_size_of_functionDeclarator? hd

theorem declaredName?_eq (h : i < t.size) :
    declaredName? t i = pure (Declarator.declaredName? t i) := by
  rw [declaredName?, Declarator.declaredName?, ofFunction?_eq h, pure_bind]
  refine optionBindM_eq fun ⟨f, suffix⟩ hf => ?_
  dsimp only
  refine bindChild_eq "declarator" (lt_size_of_ofFunction? hf)
    fun name hname => ?_
  rw [text_eq hname.2, pure_bind, guard_bind]
  rfl

/-- The test for a lone `void` reads the first parameter only when there is
one. -/
theorem withoutVoid_eq (texts : List String) :
    withoutVoid texts = pure (if texts = ["void"] then [] else texts) := by
  match texts with
  | [] => rfl
  | [a] => simp [withoutVoid, item]
  | a :: b :: rest => simp [withoutVoid]

theorem parameters_eq (h : i < t.size) :
    parameters t i = pure (Declarator.parameters t i) := by
  rw [parameters, Declarator.parameters, childByField?_eq _ h, pure_bind]
  cases hlist : t.childByField? i "parameters" with
  | none => rfl
  | some list =>
      dsimp only
      rw [namedChildren_eq (lt_size_of_childByField? hlist).2, pure_bind,
        filterM_eq fun p hp => by
          rw [kind_eq (lt_size_of_mem_namedChildren hp).2, pure_bind],
        pure_bind, mapM_eq fun p hp => by
          rw [text_eq (lt_size_of_mem_namedChildren
            (List.mem_filter.mp hp).1).2, pure_bind],
        pure_bind, withoutVoid_eq]

/-- The class around a listed node is found in range, all ancestors being
listed. -/
theorem enclosingClass?_eq (h : i < t.size) :
    enclosingClass? t i = pure (CSource.enclosingClass? t i) := by
  rw [enclosingClass?, CSource.enclosingClass?, ancestors_eq h, pure_bind,
    findM?_eq fun a ha => by
      rw [kind_eq (SyntaxTree.lt_size_of_mem_ancestors ha), pure_bind,
        pure_bind], pure_bind]
  refine optionBindM_eq fun owner howner => ?_
  have hsize := SyntaxTree.lt_size_of_mem_ancestors
    (List.mem_of_find?_eq_some howner)
  rw [kind_eq hsize, pure_bind, guard_bind]
  split
  · refine bindChild_eq "name" hsize fun name hname => ?_
    rw [text_eq hname.2, pure_bind]
  · rfl

theorem namespacePath?_eq (h : i < t.size) :
    namespacePath? t i = pure (CSource.namespacePath? t i) := by
  rw [namespacePath?, CSource.namespacePath?, ancestors_eq h, pure_bind,
    filterM_eq fun a ha => hasKind_eq "namespace_definition"
      (SyntaxTree.lt_size_of_mem_ancestors ha), pure_bind,
    filterMapM_eq fun a ha => mapChild_eq "name"
      (SyntaxTree.lt_size_of_mem_ancestors (List.mem_filter.mp ha).1)
      fun n hn => by rw [text_eq hn.2, pure_bind], pure_bind]
  rfl

theorem isTemplate_eq (h : i < t.size) :
    isTemplate t i = pure (CSource.isTemplate t i) := by
  rw [isTemplate, CSource.isTemplate, parent?_eq h, pure_bind]
  cases hparent : t.parent? i with
  | none => rfl
  | some p =>
      exact hasKind_eq "template_declaration"
        (SyntaxTree.lt_size_of_parent? hparent)

/-- The chain of receivers goes down by later nodes and stays in range. -/
theorem receiverChain?_eq (h : i < t.size) :
    receiverChain? t i = pure (CSource.receiverChain? t i) := by
  induction hleft : t.size - i using Nat.strongRecOn generalizing i with
  | ind left ih =>
      rw [receiverChain?, CSource.receiverChain?]
      simp only [kind_eq h, pure_bind]
      split
      · rw [text_eq h, pure_bind]
      · split
        · rw [childByField?_eq _ h, pure_bind]
          cases hargument : t.childByField? i "argument" with
          | none => rfl
          | some argument =>
              have hdown := lt_size_of_childByField? hargument
              rw [Option.bindM_some, childByField?_eq _ h, pure_bind]
              refine optionBindM_eq fun field hfield => ?_
              rw [dif_pos hdown, ih (t.size - argument) (by omega) hdown.2 rfl,
                pure_bind]
              refine optionBindM_eq fun chain _ => ?_
              rw [text_eq (lt_size_of_childByField? hfield).2, pure_bind]
              rfl
        · rfl

theorem templateShape_eq (h : i < t.size) :
    templateShape t i = pure (CSource.templateShape t i) := by
  rw [templateShape, CSource.templateShape, ← bind_assoc,
    mapChild_eq "name" h fun n hn => by rw [text_eq hn.2, pure_bind]]
  rfl

/-- The shape of a listed callee is read in range, whatever its kind. -/
theorem calleeShape_eq (h : i < t.size) :
    calleeShape t i = pure (CSource.calleeShape t i) := by
  have hchain := bindChild_eq "argument" h fun c hc => receiverChain?_eq hc.2
  rw [calleeShape, CSource.calleeShape]
  simp only [kind_eq h, pure_bind]
  split
  · rw [text_eq h, pure_bind]
  · split
    · rw [text_eq h, pure_bind]
    · split
      · exact templateShape_eq h
      · split
        · rw [childByField?_eq _ h, pure_bind]
          cases hfield : t.childByField? i "field" with
          | none => rfl
          | some field =>
              dsimp only
              rw [← bind_assoc, hchain, pure_bind,
                text_eq (lt_size_of_childByField? hfield).2, pure_bind]
        · split
          · rw [← bind_assoc, hchain, pure_bind]
            cases (t.childByField? i "argument").bind
              (CSource.receiverChain? t) with
            | none => rfl
            | some chain => rfl
          · rfl

/-- A name of two segments or more has a segment before the last one. -/
theorem item_reverse_one {segments : List String} (h : 1 < segments.length) :
    ∃ owner, item segments.reverse 1 = pure owner ∧
      segments[segments.length - 2]? = some owner := by
  have hplace : segments.length - 2 < segments.length := by omega
  have howner := List.getElem?_eq_getElem hplace
  refine ⟨_, item_eq ?_, howner⟩
  rw [List.getElem?_reverse h, ← howner]
  rfl

/-- The name and the class of a definition are read in range: the last segments
of the declared name are there when they are asked for. -/
theorem nameAndClass_eq (language : Language) (segments : List String)
    (h : i < t.size) :
    nameAndClass t language i segments =
      pure (CSource.nameAndClass t language i segments) := by
  rw [nameAndClass, CSource.nameAndClass]
  split
  · rename_i hlong
    obtain ⟨owner, hitem, howner⟩ := item_reverse_one hlong
    rw [hitem, pure_bind, howner]
  · split
    · rw [enclosingClass?_eq h]
      rfl
    · rfl

theorem returnType_eq (suffix : String) (h : i < t.size) :
    returnType t i suffix = pure (CSource.returnType t i suffix) := by
  rw [returnType, CSource.returnType, childByField?_eq _ h, pure_bind]
  cases htype : t.childByField? i "type" with
  | none => rfl
  | some type =>
      dsimp only
      rw [text_eq (lt_size_of_childByField? htype).2, pure_bind]

/-- Every read of the definition at a listed node is in range. -/
theorem definitionAt?_eq (language : Language) (path : String)
    (h : i < t.size) :
    definitionAt? t language path i =
      pure (CSource.definitionAt? t language path i) := by
  rw [definitionAt?, CSource.definitionAt?, ofFunction?_eq h, pure_bind]
  refine optionBindM_eq fun ⟨declarator, suffix⟩ hdeclarator => ?_
  dsimp only
  rw [declaredName?_eq h, pure_bind]
  refine optionBindM_eq fun segments _ => ?_
  rw [nameAndClass_eq _ _ h, pure_bind, line_eq h, pure_bind,
    parameters_eq (lt_size_of_ofFunction? hdeclarator), pure_bind,
    returnType_eq _ h, pure_bind, children_eq h, pure_bind,
    anyM_eq fun c hc => by
      rw [kind_eq (t.mem_children hc).2, pure_bind,
        text_eq (t.mem_children hc).2, pure_bind], pure_bind,
    isTemplate_eq h, pure_bind, namespacePath?_eq h, pure_bind]
  rfl

/-- Every read of the definitions of a C or C++ source is in range. -/
theorem definitions_eq (language : Language) (path : String)
    (h : SyntaxTree.root < t.size) :
    definitions t language path =
      pure (CSource.definitions t language path) := by
  rw [definitions, findKind_eq _ h, pure_bind]
  exact filterMapM_eq fun i hi =>
    definitionAt?_eq language path (SyntaxTree.mem_findKind_root.mp hi).1

theorem includeAt?_eq (h : i < t.size) :
    includeAt? t i = pure (CSource.includeAt? t i) := by
  refine mapChild_eq "path" h fun path hpath => ?_
  rw [text_eq hpath.2, pure_bind, line_eq h, pure_bind, hasKind_eq _ hpath.2,
    pure_bind]

theorem memberName?_eq (h : i < t.size) :
    memberName? t i = pure (CSource.memberName? t i) := by
  induction hleft : t.size - i using Nat.strongRecOn generalizing i with
  | ind left ih =>
      rw [memberName?]
      simp only [kind_eq h, pure_bind]
      split
      · rename_i hkind
        rw [declaredName?_eq h, pure_bind, CSource.memberName?, if_pos hkind]
      · rename_i hkind
        split
        · rename_i htemplate
          rw [namedChildren_eq h, pure_bind,
            CSource.memberName?_of_template htemplate]
          refine findSomeM?_eq fun c hc => ?_
          have hdown := lt_size_of_mem_namedChildren hc
          rw [dif_pos hdown]
          exact ih (t.size - c) (by omega) hdown.2 rfl
        · rename_i htemplate
          rw [CSource.memberName?, if_neg hkind, if_neg htemplate]

theorem baseNames_eq (h : i < t.size) :
    baseNames t i = pure (CSource.baseNames t i) := by
  rw [baseNames, CSource.baseNames, firstChildOfKind?_eq _ h, pure_bind]
  cases hclause : t.firstChildOfKind? i ["base_class_clause"] with
  | none => rfl
  | some clause =>
      have hsize := (t.mem_children (List.mem_of_find?_eq_some hclause)).2
      dsimp only
      rw [namedChildren_eq hsize, pure_bind, filterM_eq fun b hb => by
        rw [kind_eq (lt_size_of_mem_namedChildren hb).2, pure_bind], pure_bind]
      refine mapM_eq fun b hb => ?_
      rw [text_eq (lt_size_of_mem_namedChildren (List.mem_filter.mp hb).1).2,
        pure_bind]

theorem classAt?_eq (h : i < t.size) :
    classAt? t i = pure (CSource.classAt? t i) := by
  refine bindChild_eq "body" h fun body hbody => ?_
  refine bindChild_eq "name" h fun nameNode hname => ?_
  rw [text_eq hname.2, pure_bind]
  refine optionBindM_eq fun name _ => ?_
  rw [line_eq h, pure_bind, namedChildren_eq hbody.2, pure_bind,
    filterMapM_eq fun c hc => memberName?_eq (lt_size_of_mem_namedChildren hc).2,
    pure_bind, baseNames_eq h, pure_bind, namespacePath?_eq h, pure_bind,
    isTemplate_eq h, pure_bind]
  rfl

theorem classes_eq (h : SyntaxTree.root < t.size) :
    classes t = pure (CSource.classes t) := by
  have hlisted : ∀ i ∈ t.descendants SyntaxTree.root, i < t.size :=
    fun i hi => (t.mem_descendants hi).2
  rw [classes, descendants_eq h, pure_bind, filterM_eq fun i hi => by
    rw [kind_eq (hlisted i hi), pure_bind, pure_bind], pure_bind]
  exact filterMapM_eq fun i hi => classAt?_eq
    (hlisted i (List.mem_filter.mp hi).1)

theorem namespaceAt?_eq (h : i < t.size) :
    namespaceAt? t i = pure (CSource.namespaceAt? t i) := by
  refine mapChild_eq "name" h fun name hname => ?_
  rw [text_eq hname.2, pure_bind, line_eq h,
    pure_bind, ancestors_eq h, pure_bind, filterM_eq fun a ha =>
      hasKind_eq "namespace_definition"
        (SyntaxTree.lt_size_of_mem_ancestors ha), pure_bind,
    List.countP_eq_length_filter]

/-- Every read of the outline of a C or C++ source is in range. -/
theorem outline_eq (language : Language) (h : SyntaxTree.root < t.size) :
    outline t language = pure (CSource.outline t language) := by
  rw [outline, CSource.outline, findKind_eq _ h, pure_bind,
    filterMapM_eq fun i hi =>
      includeAt?_eq (SyntaxTree.mem_findKind_root.mp hi).1, pure_bind]
  split
  · rw [findKind_eq _ h, pure_bind, filterMapM_eq fun i hi =>
      namespaceAt?_eq (SyntaxTree.mem_findKind_root.mp hi).1, pure_bind,
      classes_eq h, pure_bind]
    rfl
  · rfl

end CallGraph.Checked.C
