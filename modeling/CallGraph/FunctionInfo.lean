/-!
# Function records

What is known about one definition of a function: its name, where it stands,
how it is declared and what it belongs to.
-/

namespace CallGraph

/-- The yes-or-no properties of a definition. -/
structure FunctionFlags where
  isAsync : Bool := false
  isStatic : Bool := false
  isPrivate : Bool := false
  isTemplate : Bool := false
  isMethod : Bool := false
deriving DecidableEq

/-- One definition of a function or method. -/
structure FunctionInfo where
  /-- The name by which calls find the function: all the segments of its
  declared name, as in `Scope::Class::method`; a method that C++ declares in the
  body of its class has the class in front. -/
  name : String
  filePath : String
  line : Nat
  /-- The text of each declared parameter. -/
  parameters : List String := []
  returnType : Option String := none
  flags : FunctionFlags := {}
  className : Option String := none
  namespacePath : Option String := none
  decorators : List String := []
deriving DecidableEq

/-- The records with a name that no earlier record of the list has. -/
def firstByName : List FunctionInfo → List FunctionInfo
  | [] => []
  | f :: rest => f :: (firstByName rest).filter fun g => g.name ≠ f.name

end CallGraph
