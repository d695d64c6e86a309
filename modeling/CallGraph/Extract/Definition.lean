import CallGraph.Callee
import CallGraph.FunctionInfo

/-!
# Definitions and their calls

A definition is a record together with the node it was read from.  The calls of
a definition are all the calls in its body, those of functions nested in it
included.
-/

namespace CallGraph

/-- A function record and the node of its definition. -/
structure Definition where
  info : FunctionInfo
  node : Nat
deriving DecidableEq

/-- How calls look in a language: the kind of their nodes, the shape of a
callee node, and how a callee is quoted. -/
structure CallSyntax where
  callKind : String
  shape : SyntaxTree → Nat → Callee
  quote : String → String

/-- The call at a node, in the body of `caller`; none when the node has no
callee. -/
def CallSyntax.siteAt? (s : CallSyntax) (t : SyntaxTree) (caller : String)
    (resolve : Callee → NameSet) (call : Nat) : Option CallSite :=
  (t.childByField? call "function").map fun callee =>
    { caller
      raw := s.quote (t.text callee)
      line := t.line call
      callee := s.shape t callee
      candidates := resolve (s.shape t callee) }

/-- The calls in the body of a definition, in source order. -/
def CallSyntax.sites (s : CallSyntax) (t : SyntaxTree)
    (resolve : Callee → NameSet)
    (d : Definition) : List CallSite :=
  match t.childByField? d.node "body" with
  | none => []
  | some body =>
    (t.findKind body s.callKind).filterMap (s.siteAt? t d.info.name resolve)

end CallGraph
