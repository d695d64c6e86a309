import CallGraph.Proofs.CheckedReads
import CallGraph.Proofs.PythonMethods

/-!
# Python sources with checked reads

The extraction of imports, definitions and classes from the tree of a Python
source, with every read of the tree checked.  From a listed node all of it gives
what the plain extraction gives: no read meets a number that is not listed,
whatever the kinds and roles of the nodes are.

Two functions go down a chain of nodes, for the name of a decorator and for a
dotted name.  They check on each step that the next node comes later in the
listing.
-/

namespace CallGraph.Checked

section Imports

variable (t : SyntaxTree)

/-- The texts of the two parts of `target as name`. -/
def aliasParts? (i : Nat) : Checked (Option (String × String)) := do
  (← childByField? t i "name").bindM fun target => do
    (← childByField? t i "alias").bindM fun name => do
      return some (← text t target, ← text t name)

/-- What one entry of an import statement brings in, with its own name or with a
new one. -/
def importItem? (same : String → Import) (renamed : String → String → Import)
    (i : Nat) : Checked (Option Import) := do
  if (← kind t i) = "dotted_name" then return some (same (← text t i))
  else if (← kind t i) = "aliased_import" then
    return (← aliasParts? t i).map fun (p, n) => renamed p n
  else return none

/-- What a node brings in, if it is an import statement. -/
def importsAt (i : Nat) : Checked (List Import) := do
  if (← kind t i) = "import_statement" then
    (← childrenByField t i "name").filterMapM (importItem? t .plain .aliased)
  else if (← kind t i) = "import_from_statement" then
    let source ← (← childByField? t i "module_name").mapM fun m => do
      return Import.source (← text t m)
    let members ← (← childrenByField t i "name").filterMapM
      (importItem? t .member .memberAs)
    return source.toList ++ members
  else return []

/-- The import map of a file. -/
def importMap : Checked ImportMap := do
  let imports ← (← descendants t SyntaxTree.root).flatMapM (importsAt t)
  return ImportMap.ofImports imports

variable {t} {i : Nat}

theorem aliasParts?_eq (h : i < t.size) :
    aliasParts? t i = pure (t.aliasParts? i) := by
  refine bindChild_eq "name" h fun target htarget => ?_
  refine bindChild_eq "alias" h fun name hname => ?_
  rw [text_eq htarget.2, pure_bind, text_eq hname.2, pure_bind]
  rfl

/-- One item of an import is read in range, whether it is renamed or not. -/
theorem importItem?_eq (same : String → Import)
    (renamed : String → String → Import) (h : i < t.size) :
    importItem? t same renamed i = pure
      (if t.kind i = "dotted_name" then some (same (t.text i))
      else if t.kind i = "aliased_import" then
        (t.aliasParts? i).map fun (p, n) => renamed p n
      else none) := by
  simp only [importItem?, kind_eq h, pure_bind, text_eq h, aliasParts?_eq h]
  split
  · rfl
  · split <;> rfl

theorem importsAt_eq (h : i < t.size) :
    importsAt t i = pure (t.importsAt i) := by
  have hentries : ∀ same renamed,
      (t.childrenByField i "name").filterMapM (importItem? t same renamed) =
        pure ((t.childrenByField i "name").filterMap fun c =>
          if t.kind c = "dotted_name" then some (same (t.text c))
          else if t.kind c = "aliased_import" then
            (t.aliasParts? c).map fun (p, n) => renamed p n
          else none) :=
    fun same renamed => filterMapM_eq fun c hc =>
      importItem?_eq same renamed (t.mem_children (List.mem_filter.mp hc).1).2
  have hsource := mapChild_eq (t := t) "module_name" h
    (f := fun m => return Import.source (← text t m))
    (g := fun m => Import.source (t.text m)) fun m hm => by
      rw [text_eq hm.2, pure_bind]
  simp only [importsAt, kind_eq h, pure_bind, childrenByField_eq _ h, hentries]
  unfold SyntaxTree.importsAt
  split
  · rfl
  · split
    · rw [← bind_assoc, hsource, pure_bind]
      rfl
    · rfl

/-- Every read of the imports of a source is in range. -/
theorem importMap_eq (h : SyntaxTree.root < t.size) :
    importMap t = pure t.importMap := by
  rw [importMap, descendants_eq h, pure_bind,
    flatMapM_eq fun i hi => importsAt_eq (t.mem_descendants hi).2, pure_bind]
  rfl

end Imports

namespace Python

variable (t : SyntaxTree)

/-- The class that has a node as its block. -/
def classOfBlock? (block : Nat) : Checked (Option Nat) := do
  if (← kind t block) = "block" then
    (← parent? t block).bindM fun owner => do
      return if (← kind t owner) = "class_definition" then some owner else none
  else return none

/-- The class in whose body a definition is a direct statement. -/
def enclosingClass? (definition : Nat) : Checked (Option Nat) := do
  (← parent? t definition).bindM fun parent => do
    if (← kind t parent) = "decorated_definition" then
      (← parent? t parent).bindM (classOfBlock? t)
    else classOfBlock? t parent

/-- The name of the class that a definition belongs to. -/
def className? (definition : Nat) : Checked (Option String) := do
  (← enclosingClass? t definition).bindM fun cls => do
    (← childByField? t cls "name").mapM (text t)

/-- The name of a decorator. -/
def decoratorName? (i : Nat) : Checked (Option String) := do
  if (← kind t i) = "identifier" then return some (← text t i)
  else if (← kind t i) = "attribute" then
    (← childByField? t i "attribute").mapM (text t)
  else if (← kind t i) = "call" then
    (← childByField? t i "function").bindM fun f =>
      if _h : i < f ∧ f < t.size then decoratorName? f else throw (.node f)
  else return none
termination_by t.size - i

/-- The names of the decorators of a definition. -/
def decorators (definition : Nat) : Checked (List String) := do
  match ← parent? t definition with
  | none => return []
  | some parent =>
    if (← kind t parent) = "decorated_definition" then
      let marks ← (← children t parent).filterM (hasKind t "decorator")
      marks.filterMapM fun d => do
        (← namedChildren t d).head?.bindM (decoratorName? t)
    else return []

/-- The parameters of a definition, as written. -/
def parameters (definition : Nat) : Checked (List String) := do
  match ← childByField? t definition "parameters" with
  | none => return []
  | some list =>
    let kept ← (← namedChildren t list).filterM fun p => do
      return !PythonSource.parameterMarkers.contains (← kind t p)
    kept.mapM (text t)

/-- The names of a dotted chain. -/
def nameChain? (i : Nat) : Checked (Option (List String)) := do
  if (← kind t i) = "identifier" then return some [← text t i]
  else if (← kind t i) = "attribute" then
    (← childByField? t i "object").bindM fun object => do
      (← childByField? t i "attribute").bindM fun member => do
        if _h : i < object ∧ object < t.size then
          (← nameChain? object).bindM fun chain => do
            return some (chain ++ [← text t member])
        else throw (.node object)
  else return none
termination_by t.size - i

/-- The shape of a callee. -/
def calleeShape (i : Nat) : Checked Callee := do
  if (← kind t i) = "identifier" then return .name (← text t i)
  else if (← kind t i) = "attribute" then
    match ← childByField? t i "attribute" with
    | none => return .unsupported
    | some member =>
      let receiver ← (← childByField? t i "object").bindM (nameChain? t)
      return .member receiver (← text t member)
  else if (← kind t i) = "subscript" then
    match ← (← childByField? t i "value").bindM (nameChain? t) with
    | none => return .unsupported
    | some chain => return .subscript (String.intercalate "." chain)
  else return .unsupported

/-- The definition at a node, if it has a name that is kept. -/
def definitionAt? (path : String) (includePrivate : Bool) (i : Nat) :
    Checked (Option Definition) := do
  (← childByField? t i "name").bindM fun nameNode => do
    let name ← text t nameNode
    if includePrivate || !isDunder name then
      let className ← className? t i
      return some {
        info := {
          name
          filePath := path
          line := ← line t i
          parameters := ← parameters t i
          flags := {
            isAsync := ← (← children t i).anyM (hasKind t "async")
            isPrivate := ['_'].isPrefixOf name.toList
            isMethod := className.isSome }
          className
          decorators := ← decorators t i }
        node := i }
    else return none

/-- The definitions of a file, in source order. -/
def definitions (path : String) (includePrivate : Bool) :
    Checked (List Definition) := do
  (← findKind t SyntaxTree.root "function_definition").filterMapM
    (definitionAt? t path includePrivate)

/-- The definition that a statement of a class body is, decorated or not. -/
def methodAt? (statement : Nat) : Checked (Option Nat) := do
  if (← kind t statement) = "function_definition" then return some statement
  else if (← kind t statement) = "decorated_definition" then
    (← childByField? t statement "definition").bindM fun d => do
      return if (← kind t d) = "function_definition" then some d else none
  else return none

/-- The names of the methods of a class. -/
def methodNames (cls : Nat) : Checked (List String) := do
  match ← childByField? t cls "body" with
  | none => return []
  | some body =>
    (← children t body).filterMapM fun statement => do
      (← methodAt? t statement).bindM fun d => do
        (← childByField? t d "name").mapM (text t)

/-- The base classes of a class that are written as names. -/
def baseNames (cls : Nat) : Checked (List String) := do
  match ← childByField? t cls "superclasses" with
  | none => return []
  | some list =>
    let kept ← (← namedChildren t list).filterM fun a => do
      return (← kind t a) = "identifier" ∨ (← kind t a) = "attribute"
    kept.mapM (text t)

/-- The class at a node, if it has a name. -/
def classAt? (i : Nat) : Checked (Option ClassInfo) := do
  (← childByField? t i "name").mapM fun name => do
    return {
      name := ← text t name
      line := ← line t i
      methods := ← methodNames t i
      bases := ← baseNames t i
      namespacePath := none
      isTemplate := false }

/-- The outline of a file. -/
def outline : Checked Outline := do
  let classes ← (← findKind t SyntaxTree.root "class_definition").filterMapM
    (classAt? t)
  return { classes, imports := (← importMap t).modules }

variable {t} {i : Nat}

theorem classOfBlock?_eq (h : i < t.size) :
    classOfBlock? t i = pure (PythonSource.classOfBlock? t i) := by
  rw [classOfBlock?, PythonSource.classOfBlock?, kind_eq h, pure_bind]
  split
  · rw [parent?_eq h, pure_bind]
    refine optionBindM_eq fun owner howner => ?_
    rw [kind_eq (SyntaxTree.lt_size_of_parent? howner), pure_bind]
  · rfl

/-- The class around a listed definition is found in range, through a decorated
one as well. -/
theorem enclosingClass?_eq (h : i < t.size) :
    enclosingClass? t i = pure (PythonSource.enclosingClass? t i) := by
  rw [enclosingClass?, PythonSource.enclosingClass?_eq, parent?_eq h, pure_bind]
  refine optionBindM_eq fun parent hparent => ?_
  have hsize := SyntaxTree.lt_size_of_parent? hparent
  rw [kind_eq hsize, pure_bind]
  split
  · rw [parent?_eq hsize, pure_bind]
    exact optionBindM_eq fun block hblock =>
      classOfBlock?_eq (SyntaxTree.lt_size_of_parent? hblock)
  · exact classOfBlock?_eq hsize

theorem className?_eq (h : i < t.size) :
    className? t i = pure (PythonSource.className? t i) := by
  rw [className?, PythonSource.className?, enclosingClass?_eq h, pure_bind]
  refine optionBindM_eq fun cls hcls => ?_
  have hsize := SyntaxTree.lt_size_of_kind (by decide)
    (PythonSource.kind_of_enclosingClass? hcls)
  exact mapChild_eq "name" hsize fun name hname => text_eq hname.2

/-- The name of a listed decorator is read in range, called or not. -/
theorem decoratorName?_eq (h : i < t.size) :
    decoratorName? t i = pure (PythonSource.decoratorName? t i) := by
  induction hleft : t.size - i using Nat.strongRecOn generalizing i with
  | ind left ih =>
      rw [decoratorName?, PythonSource.decoratorName?]
      simp only [kind_eq h, pure_bind]
      split
      · rw [text_eq h, pure_bind]
      · split
        · exact mapChild_eq "attribute" h fun name hname => text_eq hname.2
        · split
          · rw [childByField?_eq _ h, pure_bind]
            cases hf : t.childByField? i "function" with
            | none => rfl
            | some f =>
                have hdown := lt_size_of_childByField? hf
                rw [Option.bindM_some, dif_pos hdown]
                exact ih (t.size - f) (by omega) hdown.2 rfl
          · rfl

theorem decorators_eq (h : i < t.size) :
    decorators t i = pure (PythonSource.decorators t i) := by
  rw [decorators, PythonSource.decorators, parent?_eq h, pure_bind]
  cases hparent : t.parent? i with
  | none => rfl
  | some parent =>
      have hsize := SyntaxTree.lt_size_of_parent? hparent
      dsimp only
      rw [kind_eq hsize, pure_bind]
      split
      · rw [children_eq hsize, pure_bind, filterM_eq fun c hc =>
          hasKind_eq "decorator" (t.mem_children hc).2, pure_bind]
        refine filterMapM_eq fun d hd => ?_
        have hd := (t.mem_children (List.mem_filter.mp hd).1).2
        rw [namedChildren_eq hd, pure_bind]
        exact optionBindM_eq fun c hc => decoratorName?_eq
          (lt_size_of_mem_namedChildren (List.mem_of_head? hc)).2
      · rfl

theorem parameters_eq (h : i < t.size) :
    parameters t i = pure (PythonSource.parameters t i) := by
  rw [parameters, PythonSource.parameters, childByField?_eq _ h, pure_bind]
  cases hlist : t.childByField? i "parameters" with
  | none => rfl
  | some list =>
      dsimp only
      rw [namedChildren_eq (lt_size_of_childByField? hlist).2, pure_bind,
        filterM_eq fun p hp => by
          rw [kind_eq (lt_size_of_mem_namedChildren hp).2, pure_bind],
        pure_bind]
      exact mapM_eq fun p hp => text_eq
        (lt_size_of_mem_namedChildren (List.mem_filter.mp hp).1).2

/-- The chain of attributes goes down by later nodes and stays in range. -/
theorem nameChain?_eq (h : i < t.size) :
    nameChain? t i = pure (PythonSource.nameChain? t i) := by
  induction hleft : t.size - i using Nat.strongRecOn generalizing i with
  | ind left ih =>
      rw [nameChain?, PythonSource.nameChain?]
      simp only [kind_eq h, pure_bind]
      split
      · rw [text_eq h, pure_bind]
      · split
        · rw [childByField?_eq _ h, pure_bind]
          cases hobject : t.childByField? i "object" with
          | none => rfl
          | some object =>
              have hdown := lt_size_of_childByField? hobject
              rw [Option.bindM_some, childByField?_eq _ h, pure_bind]
              refine optionBindM_eq fun member hmember => ?_
              rw [dif_pos hdown, ih (t.size - object) (by omega) hdown.2 rfl,
                pure_bind]
              refine optionBindM_eq fun chain _ => ?_
              rw [text_eq (lt_size_of_childByField? hmember).2, pure_bind]
              rfl
        · rfl

/-- The shape of a listed callee is read in range, whatever its kind. -/
theorem calleeShape_eq (h : i < t.size) :
    calleeShape t i = pure (PythonSource.calleeShape t i) := by
  have hchain := fun field => bindChild_eq field h
    fun c hc => nameChain?_eq (t := t) hc.2
  rw [calleeShape, PythonSource.calleeShape]
  simp only [kind_eq h, pure_bind]
  split
  · rw [text_eq h, pure_bind]
  · split
    · rw [childByField?_eq _ h, pure_bind]
      cases hmember : t.childByField? i "attribute" with
      | none => rfl
      | some member =>
          dsimp only
          rw [← bind_assoc, hchain, pure_bind,
            text_eq (lt_size_of_childByField? hmember).2, pure_bind]
    · split
      · rw [← bind_assoc, hchain, pure_bind]
        cases (t.childByField? i "value").bind (PythonSource.nameChain? t) with
        | none => rfl
        | some chain => rfl
      · rfl

/-- Every read of the definition at a listed node is in range. -/
theorem definitionAt?_eq (path : String) (includePrivate : Bool)
    (h : i < t.size) :
    definitionAt? t path includePrivate i =
      pure (PythonSource.definitionAt? t path includePrivate i) := by
  refine bindChild_eq "name" h fun name hname => ?_
  rw [text_eq hname.2, pure_bind, guard_bind]
  split
  · rw [className?_eq h, pure_bind, line_eq h, pure_bind, parameters_eq h,
      pure_bind, children_eq h, pure_bind,
      anyM_eq fun c hc => hasKind_eq "async" (t.mem_children hc).2, pure_bind,
      decorators_eq h, pure_bind]
    rfl
  · rfl

/-- Every read of the definitions of a Python source is in range. -/
theorem definitions_eq (path : String) (includePrivate : Bool)
    (h : SyntaxTree.root < t.size) :
    definitions t path includePrivate =
      pure (PythonSource.definitions t path includePrivate) := by
  rw [definitions, findKind_eq _ h, pure_bind]
  exact filterMapM_eq fun i hi =>
    definitionAt?_eq path includePrivate (SyntaxTree.mem_findKind_root.mp hi).1

theorem methodAt?_eq (h : i < t.size) :
    methodAt? t i = pure (PythonSource.methodAt? t i) := by
  rw [methodAt?, PythonSource.methodAt?]
  simp only [kind_eq h, pure_bind]
  split
  · rfl
  · split
    · rw [childByField?_eq _ h, pure_bind, optionBindM_eq fun d hd => by
        rw [kind_eq (lt_size_of_childByField? hd).2, pure_bind]]
      cases t.childByField? i "definition" with
      | none => rfl
      | some d => simp [Option.filter]
    · rfl

/-- A method found so is listed, decorated or not. -/
theorem lt_size_of_methodAt? {d : Nat}
    (h : PythonSource.methodAt? t i = some d) : d < t.size := by
  have hkind : t.kind d = "function_definition" := by
    unfold PythonSource.methodAt? at h
    split at h
    · rename_i hstatement
      rwa [← Option.some.inj h]
    · split at h
      · exact of_decide_eq_true (Option.filter_eq_some_iff.mp h).2
      · cases h
  exact SyntaxTree.lt_size_of_kind (by decide) hkind

theorem methodNames_eq (h : i < t.size) :
    methodNames t i = pure (PythonSource.methodNames t i) := by
  rw [methodNames, PythonSource.methodNames, childByField?_eq _ h, pure_bind]
  cases hbody : t.childByField? i "body" with
  | none => rfl
  | some body =>
      dsimp only
      rw [children_eq (lt_size_of_childByField? hbody).2, pure_bind]
      refine filterMapM_eq fun statement hstatement => ?_
      rw [methodAt?_eq (t.mem_children hstatement).2, pure_bind]
      exact optionBindM_eq fun d hd =>
        mapChild_eq "name" (lt_size_of_methodAt? hd) fun name hname =>
          text_eq hname.2

theorem baseNames_eq (h : i < t.size) :
    baseNames t i = pure (PythonSource.baseNames t i) := by
  rw [baseNames, PythonSource.baseNames, childByField?_eq _ h, pure_bind]
  cases hlist : t.childByField? i "superclasses" with
  | none => rfl
  | some list =>
      dsimp only
      rw [namedChildren_eq (lt_size_of_childByField? hlist).2, pure_bind,
        filterM_eq fun a ha => by
          rw [kind_eq (lt_size_of_mem_namedChildren ha).2, pure_bind, pure_bind],
        pure_bind]
      exact mapM_eq fun a ha => text_eq
        (lt_size_of_mem_namedChildren (List.mem_filter.mp ha).1).2

theorem classAt?_eq (h : i < t.size) :
    classAt? t i = pure (PythonSource.classAt? t i) := by
  refine mapChild_eq "name" h fun name hname => ?_
  rw [text_eq hname.2, pure_bind, line_eq h,
    pure_bind, methodNames_eq h, pure_bind, baseNames_eq h, pure_bind]

/-- Every read of the outline of a Python source is in range. -/
theorem outline_eq (h : SyntaxTree.root < t.size) :
    outline t = pure (PythonSource.outline t) := by
  rw [outline, findKind_eq _ h, pure_bind, filterMapM_eq fun i hi =>
    classAt?_eq (SyntaxTree.mem_findKind_root.mp hi).1, pure_bind,
    importMap_eq h, pure_bind]
  rfl

end Python

end CallGraph.Checked
