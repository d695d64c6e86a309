import CallGraph.QualifiedName
import CallGraph.SyntaxTree

/-!
# Declarators

In C and C++ the name of a function stands inside a chain of declarators:
`int *(*f)(void)` wraps it in pointers and parentheses.  `functionDeclarator?`
walks down that chain to the declarator of the function and collects the
pointers and references on the way, which belong to the type that the function
returns.
-/

namespace CallGraph.Declarator

variable (t : SyntaxTree)

/-- What a wrapping declarator adds to the return type; none when the node
wraps nothing. -/
def mark? (i : Nat) : Option String :=
  if t.kind i = "pointer_declarator" then some "*"
  else if t.kind i = "reference_declarator" then
    some (if (t.children i).any fun c => t.kind c = "&&" then "&&" else "&")
  else if t.kind i = "parenthesized_declarator" ∨
      t.kind i = "attributed_declarator" then some ""
  else none

/-- The declarator that a node wraps. -/
def inner? (i : Nat) : Option Nat :=
  (t.childByField? i "declarator").or
    ((t.namedChildren i).find? fun c => t.kind c ≠ "attribute_declaration")

theorem mem_children_of_inner? {i j : Nat} (h : inner? t i = some j) :
    j ∈ t.children i := by
  rw [inner?, Option.or_eq_some_iff] at h
  rcases h with h | ⟨-, h⟩
  · exact t.mem_children_of_childByField? h
  · exact (List.mem_filter.1 (List.mem_of_find?_eq_some h)).1

theorem remaining_lt_of_inner? {i j : Nat} (h : inner? t i = some j) :
    t.size - j < t.size - i :=
  t.remaining_lt_of_mem_children (mem_children_of_inner? t h)

/-- The declarator of a function at or inside a declarator, and the pointers
and references around it, outermost first. -/
def functionDeclarator? (i : Nat) : Option (Nat × String) :=
  if t.kind i = "function_declarator" then some (i, "")
  else
    match mark? t i with
    | none => none
    | some mark =>
      match _h : inner? t i with
      | none => none
      | some j =>
        (functionDeclarator? j).map fun (f, suffix) => (f, mark ++ suffix)
termination_by t.size - i
decreasing_by exact remaining_lt_of_inner? t _h

/-- The declarator of the function that a node defines or declares, with its
suffix. -/
def ofFunction? (i : Nat) : Option (Nat × String) :=
  (t.childByField? i "declarator").bind (functionDeclarator? t)

/-- The segments of the name of the function that a node defines or declares. -/
def declaredName? (i : Nat) : Option (List String) := do
  let (f, _) ← ofFunction? t i
  let name ← t.childByField? f "declarator"
  let segments := QualifiedName.segments (t.text name)
  guard (segments ≠ [])
  return segments

/-- The parameters of a function declarator, each with its words one space
apart; a lone `void` means none. -/
def parameters (declarator : Nat) : List String :=
  match t.childByField? declarator "parameters" with
  | none => []
  | some list =>
    let texts := ((t.namedChildren list).filter
      fun p => t.kind p ≠ "comment").map fun p => Text.collapse (t.text p)
    if texts = ["void"] then [] else texts

end CallGraph.Declarator
