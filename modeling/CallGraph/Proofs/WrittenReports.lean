import CallGraph.Report.Wire
import CallGraph.Proofs.JsonText
import Mathlib.Data.List.Forall2

/-!
# What the text of a report tells

Two reports with the same text can differ only in what is not meant to be shown:
the flags that a language does not have, the return type of a Python function,
and whether a function without further definitions counts none or one.  Since a
text has one reading as a JSON value (`Json.render_injective`), this is a matter
of values, and each part of a report is compared on its own.

Only nodes are not plain.  Which fields a node has depends on its language and
on which of its data are present, so the position of a field does not tell what
it is.  A node is therefore seen as the list of all fields that a node may have,
each present or absent (`GraphNode.slots`).  The names in that list are the same
for every node and distinct, so the fields that are written determine it
(`written_injective`).
-/

namespace CallGraph

/-- The fields that are present. -/
def written (slots : List (String × Option Json)) : List (String × Json) :=
  slots.filterMap fun slot => slot.2.map (slot.1, ·)

/-- The slots are written in order, the empty ones left out. -/
theorem written_cons (name : String) (value : Option Json)
    (slots : List (String × Option Json)) :
    written ((name, value) :: slots) =
      optionalField name id value ++ written slots := by
  cases value with
  | none => rfl
  | some v => rfl

/-- Only the names of the slots are written. -/
theorem mem_names_of_mem_written {slots : List (String × Option Json)}
    {field : String × Json} (h : field ∈ written slots) :
    field.1 ∈ slots.map Prod.fst := by
  obtain ⟨slot, hslot, hfield⟩ := List.mem_filterMap.mp h
  obtain ⟨_, _, rfl⟩ := Option.map_eq_some_iff.mp hfield
  exact List.mem_map_of_mem hslot

/-- Where the possible names of fields are fixed and distinct, the fields that
are present tell which are absent. -/
theorem written_injective {slots others : List (String × Option Json)}
    (hnames : slots.map Prod.fst = others.map Prod.fst)
    (hnodup : (slots.map Prod.fst).Nodup)
    (h : written slots = written others) : slots = others := by
  induction slots generalizing others with
  | nil => exact (List.map_eq_nil_iff.mp hnames.symm).symm
  | cons slot slots ih =>
      cases others with
      | nil => cases hnames
      | cons other others =>
          obtain ⟨name, value⟩ := slot
          obtain ⟨name', value'⟩ := other
          simp only [List.map_cons, List.cons.injEq] at hnames
          obtain ⟨rfl, hnames⟩ := hnames
          obtain ⟨hnew, hdistinct⟩ := List.nodup_cons.mp hnodup
          rw [written_cons, written_cons] at h
          cases value with
          | none =>
              cases value' with
              | none => rw [ih hnames hdistinct h]
              | some v =>
                  have hrest : written slots = (name, v) :: written others := h
                  have hmem := mem_names_of_mem_written
                    (hrest ▸ List.mem_cons_self)
                  exact absurd hmem hnew
          | some v =>
              cases value' with
              | none =>
                  have hrest : written others = (name, v) :: written slots :=
                    h.symm
                  have hmem := mem_names_of_mem_written
                    (hrest ▸ List.mem_cons_self)
                  exact absurd (hnames ▸ hmem) hnew
              | some v' =>
                  obtain ⟨hfield, hrest⟩ := List.cons.inj h
                  obtain ⟨_, rfl⟩ := Prod.mk.inj hfield
                  rw [ih hnames hdistinct hrest]
                  rfl

theorem written_append (slots others : List (String × Option Json)) :
    written (slots ++ others) = written slots ++ written others :=
  List.filterMap_append

theorem optionalField_eq_written {α : Type} (name : String) (f : α → Json)
    (value : Option α) :
    optionalField name f value = written [(name, value.map f)] := by
  cases value with
  | none => rfl
  | some a => rfl

/-- A flag as it is written for a function: only some languages have it. -/
def shownFlag (languages : List Language) (language : Language)
    (flag : Bool) : Option Json :=
  if language ∈ languages then some (.bool flag) else none

/-- The possible flags of a function. -/
def flagSlots (flags : FunctionFlags) (language : Language) :
    List (String × Option Json) :=
  [("is_private", shownFlag [.python] language flags.isPrivate),
    ("is_async", shownFlag [.python] language flags.isAsync),
    ("is_method", shownFlag [.python, .cpp] language flags.isMethod),
    ("is_static", shownFlag [.c, .cpp] language flags.isStatic),
    ("is_template", shownFlag [.cpp] language flags.isTemplate)]

/-- The possible fields of a node, present or not. -/
def GraphNode.slots : GraphNode → List (String × Option Json)
  | function node =>
    [("id", some (.str node.id)), ("label", some (.str node.id)),
      ("file", some (.str node.info.filePath)),
      ("connected", some (.bool node.connected)), ("external", none)] ++
    flagSlots node.info.flags node.language ++
    [("class_name", node.info.className.map .str)] ++
    [("namespace", node.info.namespacePath.map .str)] ++
    [("line", some (.num node.info.line))] ++
    [("return_type", (writtenReturnType node).map .str)] ++
    [("decorators", if node.info.decorators.isEmpty then none
      else some (.strings node.info.decorators))] ++
    [("definitions", if 1 < node.definitions
      then some (.num node.definitions) else none)]
  | external node =>
    [("id", some (.str node.id)), ("label", some (.str node.id)),
      ("file", none), ("connected", some (.bool node.connected)),
      ("external", some (.bool true)), ("is_private", none),
      ("is_async", none), ("is_method", none), ("is_static", none),
      ("is_template", none), ("class_name", none), ("namespace", none),
      ("line", none), ("return_type", none), ("decorators", none),
      ("definitions", none)]

theorem flagFields_eq_written (flags : FunctionFlags) (language : Language) :
    flagFields flags language = written (flagSlots flags language) := by
  cases language with
  | python => rfl
  | c => rfl
  | cpp => rfl

/-- A node is written as its slots with the empty ones left out. -/
theorem GraphNode.toJson_eq_written (node : GraphNode) :
    node.toJson = .obj (written node.slots) := by
  cases node with
  | external node => rfl
  | function node =>
      have hdecorators : written [("decorators",
          if node.info.decorators.isEmpty then none
          else some (.strings node.info.decorators))] =
            if node.info.decorators.isEmpty then []
            else [("decorators", .strings node.info.decorators)] := by
        split
        · rfl
        · rfl
      have hdefinitions : written [("definitions",
          if 1 < node.definitions then some (.num node.definitions)
          else none)] =
            if 1 < node.definitions then
              [("definitions", .num node.definitions)]
            else [] := by
        split
        · rfl
        · rfl
      simp only [slots, written_append, hdecorators, hdefinitions,
        ← flagFields_eq_written, ← optionalField_eq_written]
      rfl

/-- All nodes have the same slots, in the same order. -/
theorem GraphNode.slots_names (node : GraphNode) :
    node.slots.map Prod.fst =
      ["id", "label", "file", "connected", "external", "is_private",
        "is_async", "is_method", "is_static", "is_template", "class_name",
        "namespace", "line", "return_type", "decorators", "definitions"] := by
  cases node with
  | function node => rfl
  | external node => rfl

/-- Nodes are written alike exactly when their slots agree. -/
theorem GraphNode.toJson_inj {node other : GraphNode} :
    node.toJson = other.toJson ↔ node.slots = other.slots := by
  rw [toJson_eq_written, toJson_eq_written, Json.obj.injEq]
  constructor
  · apply written_injective
    · rw [slots_names, slots_names]
    · rw [slots_names]
      decide
  · exact congrArg written

/-- What the texts of two functions have in common when they are equal. -/
structure FunctionNode.Agrees (node other : FunctionNode) : Prop where
  id : node.id = other.id
  connected : node.connected = other.connected
  language : node.language = other.language
  filePath : node.info.filePath = other.info.filePath
  line : node.info.line = other.info.line
  className : node.info.className = other.info.className
  namespacePath : node.info.namespacePath = other.info.namespacePath
  decorators : node.info.decorators = other.info.decorators
  pythonFlags : node.language = .python →
    node.info.flags.isPrivate = other.info.flags.isPrivate ∧
      node.info.flags.isAsync = other.info.flags.isAsync ∧
      node.info.flags.isMethod = other.info.flags.isMethod
  cFlags : node.language = .c →
    node.info.flags.isStatic = other.info.flags.isStatic
  cppFlags : node.language = .cpp →
    node.info.flags.isMethod = other.info.flags.isMethod ∧
      node.info.flags.isStatic = other.info.flags.isStatic ∧
      node.info.flags.isTemplate = other.info.flags.isTemplate
  returnType : node.language ≠ .python →
    node.info.returnType = other.info.returnType
  definitions : max 1 node.definitions = max 1 other.definitions

/-- What the texts of two nodes have in common when they are equal. -/
inductive GraphNode.Agrees : GraphNode → GraphNode → Prop
  | function {node other : FunctionNode} (h : node.Agrees other) :
    Agrees (.function node) (.function other)
  | external (node : ExternalNode) : Agrees (.external node) (.external node)

/-- The slots of the flags tell the language, and the flags that the language
has. -/
theorem flagSlots_inj {flags others : FunctionFlags}
    {language other : Language} :
    flagSlots flags language = flagSlots others other ↔
      language = other ∧
      (language = .python → flags.isPrivate = others.isPrivate ∧
        flags.isAsync = others.isAsync ∧ flags.isMethod = others.isMethod) ∧
      (language = .c → flags.isStatic = others.isStatic) ∧
      (language = .cpp → flags.isMethod = others.isMethod ∧
        flags.isStatic = others.isStatic ∧
        flags.isTemplate = others.isTemplate) := by
  cases language <;> cases other <;> simp [flagSlots, shownFlag]

theorem Json.strings_inj {names others : List String} :
    Json.strings names = Json.strings others ↔ names = others := by
  rw [strings, strings, Json.arr.injEq]
  exact List.map_inj_right fun _ _ => Json.str.inj

theorem map_str_inj {value other : Option String} :
    value.map Json.str = other.map Json.str ↔ value = other :=
  (Option.map_injective fun _ _ => Json.str.inj).eq_iff

/-- An empty list of decorators is left out, and the slot still tells the list.
-/
theorem decoratorSlot_inj {names others : List String} :
    (if names.isEmpty then none else some (Json.strings names)) =
        (if others.isEmpty then none else some (Json.strings others)) ↔
      names = others := by
  cases names <;> cases others <;> simp [Json.strings_inj]

/-- The slot for the number of definitions does not tell zero from one. -/
theorem definitionSlot_inj {count other : Nat} :
    (if 1 < count then some (Json.num count) else none) =
        (if 1 < other then some (Json.num other) else none) ↔
      max 1 count = max 1 other := by
  by_cases hcount : 1 < count <;> by_cases hother : 1 < other <;>
    simp [hcount, hother] <;> omega

/-- Outside Python the written return type tells the return type. -/
theorem writtenReturnType_inj {node other : FunctionNode}
    (h : node.language = other.language) :
    writtenReturnType node = writtenReturnType other ↔
      (node.language ≠ .python →
        node.info.returnType = other.info.returnType) := by
  unfold writtenReturnType
  rw [← h]
  cases node.language <;> simp

/-- The fields of a function that may be present tell what they should. -/
theorem slots_function_inj {node other : FunctionNode} :
    (GraphNode.function node).slots = (GraphNode.function other).slots ↔
      node.Agrees other := by
  constructor
  · intro h
    simp only [GraphNode.slots, flagSlots, List.cons_append, List.nil_append,
      List.cons.injEq, Prod.mk.injEq, Option.some.injEq, Json.str.injEq,
      Json.bool.injEq, Json.num.injEq, map_str_inj, decoratorSlot_inj,
      definitionSlot_inj, true_and, and_true] at h
    obtain ⟨hid, _, hfile, hconnected, hprivate, hasync, hmethod, hstatic,
      htemplate, hclass, hnamespace, hline, hreturn, hdecorators,
      hdefinitions⟩ := h
    have hflags : flagSlots node.info.flags node.language =
        flagSlots other.info.flags other.language := by
      simp only [flagSlots, hprivate, hasync, hmethod, hstatic, htemplate]
    obtain ⟨hlanguage, hpython, hc, hcpp⟩ := flagSlots_inj.mp hflags
    exact ⟨hid, hconnected, hlanguage, hfile, hline, hclass, hnamespace,
      hdecorators, hpython, hc, hcpp,
      (writtenReturnType_inj hlanguage).mp hreturn, hdefinitions⟩
  · intro h
    have hflags : flagSlots node.info.flags node.language =
        flagSlots other.info.flags other.language :=
      flagSlots_inj.mpr ⟨h.language, h.pythonFlags, h.cFlags, h.cppFlags⟩
    have hreturn := (writtenReturnType_inj h.language).mpr h.returnType
    have hdefinitions := definitionSlot_inj.mpr h.definitions
    simp only [GraphNode.slots, hflags, hreturn, hdefinitions, h.id,
      h.connected, h.filePath, h.line, h.className, h.namespacePath,
      h.decorators]

/-- **Nodes.**  The texts of two nodes are equal exactly when the nodes agree
in what is shown of them. -/
theorem GraphNode.toJson_eq_iff {node other : GraphNode} :
    node.toJson = other.toJson ↔ node.Agrees other := by
  rw [toJson_inj]
  cases node with
  | function node =>
      cases other with
      | function other =>
          rw [slots_function_inj]
          constructor
          · exact .function
          · rintro ⟨h⟩
            exact h
      | external other =>
          constructor
          · intro h
            simp [slots] at h
          · intro h
            cases h
  | external node =>
      cases other with
      | function other =>
          constructor
          · intro h
            simp [slots] at h
          · intro h
            cases h
      | external other =>
          constructor
          · intro h
            simp only [slots, List.cons.injEq, Prod.mk.injEq,
              Option.some.injEq, Json.str.injEq, Json.bool.injEq, true_and,
              and_true] at h
            have heq : node = other := by
              obtain ⟨id, connected⟩ := node
              obtain ⟨_, _⟩ := other
              obtain ⟨rfl, _, rfl⟩ := h
              rfl
            exact heq ▸ .external node
          · intro h
            cases h
            rfl

/-- **Edges.**  The text of an edge tells all of it. -/
theorem Edge.toJson_inj {edge other : Edge} :
    edge.toJson = other.toJson ↔ edge = other := by
  constructor
  · intro h
    obtain ⟨source, target, file⟩ := edge
    obtain ⟨source', target', file'⟩ := other
    simp only [toJson, optionalField_eq_written, Json.obj.injEq,
      List.cons_append, List.nil_append, List.cons.injEq, Prod.mk.injEq,
      Json.str.injEq, true_and] at h
    obtain ⟨rfl, rfl, hfile⟩ := h
    have hslots : [("file", file.map Json.str)] =
        [("file", file'.map Json.str)] :=
      written_injective rfl (List.pairwise_singleton _ _) hfile
    simp only [List.cons.injEq, Prod.mk.injEq, true_and, and_true,
      map_str_inj] at hslots
    rw [hslots]
  · intro h
    rw [h]

/-- The written tallies tell whether there are any, and which. -/
theorem Tallies.fields_inj {tallies others : Option Tallies} :
    (tallies.map fields).getD [] = (others.map fields).getD [] ↔
      tallies = others := by
  constructor
  · intro h
    rcases tallies with _ | (_ | _) <;> rcases others with _ | (_ | _) <;>
      simp_all [fields]
  · intro h
    rw [h]

/-- **Counts.**  The text of the counts tells all of them. -/
theorem Stats.toJson_inj {stats others : Stats} :
    stats.toJson = others.toJson ↔ stats = others := by
  constructor
  · intro h
    obtain ⟨_, _, _, _, _, _, _, _, tallies⟩ := stats
    obtain ⟨_, _, _, _, _, _, _, _, tallies'⟩ := others
    simp only [toJson, Json.obj.injEq, List.cons_append, List.nil_append,
      List.cons.injEq, Prod.mk.injEq, Json.num.injEq, true_and,
      Tallies.fields_inj] at h
    obtain ⟨rfl, rfl, rfl, rfl, rfl, rfl, rfl, rfl, rfl⟩ := h
    rfl
  · intro h
    rw [h]

/-- What the texts of two reports have in common when they are equal: all but
what is not shown of functions. -/
structure Report.Agrees (report other : Report) : Prop where
  language : report.language = other.language
  nodes : List.Forall₂ GraphNode.Agrees report.nodes other.nodes
  edges : report.edges = other.edges
  stats : report.stats = other.stats
  errors : report.errors = other.errors
  warning : report.warning = other.warning

/-- Lists of nodes are written alike exactly when they agree node by node. -/
theorem nodes_toJson_inj {nodes others : List GraphNode} :
    nodes.map GraphNode.toJson = others.map GraphNode.toJson ↔
      List.Forall₂ GraphNode.Agrees nodes others := by
  rw [← List.forall₂_eq_eq_eq, List.forall₂_map_left_iff,
    List.forall₂_map_right_iff]
  simp only [GraphNode.toJson_eq_iff]

theorem edges_toJson_inj {edges others : List Edge} :
    edges.map Edge.toJson = others.map Edge.toJson ↔ edges = others :=
  List.map_inj_right fun _ _ => Edge.toJson_inj.mp

/-- No messages are written as nothing at all, and what is written still tells
the messages. -/
theorem errors_toJson_inj {errors others : List String} :
    (if errors.isEmpty then Json.null else .strings errors) =
        (if others.isEmpty then Json.null else .strings others) ↔
      errors = others := by
  cases errors with
  | nil =>
      cases others with
      | nil => exact iff_of_true rfl rfl
      | cons other others => simp [Json.strings]
  | cons error errors =>
      cases others with
      | nil => simp [Json.strings]
      | cons other others => exact Json.strings_inj

theorem warning_toJson_inj {warning other : Option String} :
    Json.option .str warning = Json.option .str other ↔ warning = other := by
  cases warning <;> cases other <;> simp [Json.option]

/-- The displayed names tell the languages apart. -/
theorem language_toJson_inj {language other : Option Language} :
    Json.option (fun l => .str l.displayName) language =
        Json.option (fun l => .str l.displayName) other ↔
      language = other := by
  rcases language with _ | (_ | _ | _) <;> rcases other with _ | (_ | _ | _) <;>
    simp [Json.option, Language.displayName]

/-- **The text of a report.**  Two reports have the same text exactly when they
agree in everything that is shown. -/
theorem Report.render_eq_iff (report other : Report) :
    report.render = other.render ↔ report.Agrees other := by
  have hvalues : report.render = other.render ↔
      report.toJson = other.toJson :=
    ⟨Json.render_injective, congrArg Json.render⟩
  rw [hvalues]
  simp only [toJson, Json.obj.injEq, List.cons.injEq, Prod.mk.injEq,
    Json.arr.injEq, true_and, and_true, nodes_toJson_inj, edges_toJson_inj,
    Stats.toJson_inj, errors_toJson_inj, warning_toJson_inj,
    language_toJson_inj]
  constructor
  · rintro ⟨hnodes, hedges, hstats, herrors, hwarning, hlanguage⟩
    exact ⟨hlanguage, hnodes, hedges, hstats, herrors, hwarning⟩
  · rintro ⟨hlanguage, hnodes, hedges, hstats, herrors, hwarning⟩
    exact ⟨hnodes, hedges, hstats, herrors, hwarning, hlanguage⟩

end CallGraph
