import CallGraph.Pattern.Assertion
import CallGraph.Pattern.Regex

/-!
# Forms of patterns

What a pattern says, in a normal form: neighbouring characters make one
literal, sequences and choices do not stand directly within their like, a
choice between characters is a set, and a common beginning of all the branches
of a choice stands in front of it.  The functions whose names begin with `of`
keep to it.
-/

namespace CallGraph

/-- What a pattern says. -/
inductive Form
  | empty
  | literal (cs : List Char)
  | set (s : CharSet)
  | assert (a : Assertion)
  /-- At least `least` and at most `most` times; any number of times beyond
  `least` without `most`.  A greedy repetition takes as much as it can first.
  -/
  | rep (body : Form) (least : Nat) (most : Option Nat) (greedy : Bool)
  /-- A group of its own, which is different from any other. -/
  | group (body : Form)
  | seq (parts : List Form)
  | alt (branches : List Form)

namespace Form

mutual

/-- Whether two forms say the same in the same words. -/
def same : Form → Form → Bool
  | empty, empty => true
  | literal a, literal b => a == b
  | set a, set b => a == b
  | assert a, assert b => a == b
  | rep a least most greedy, rep b least' most' greedy' =>
    same a b && least == least' && most == most' && greedy == greedy'
  | seq as, seq bs => sameAll as bs
  | alt as, alt bs => sameAll as bs
  | _, _ => false

/-- Whether two lists hold the same forms. -/
def sameAll : List Form → List Form → Bool
  | [], [] => true
  | a :: as, b :: bs => same a b && sameAll as bs
  | _, _ => false

end

mutual

/-- Whether a form matches the empty text only. -/
def isVoid : Form → Bool
  | empty => true
  | literal _ => false
  | set _ => false
  | assert _ => true
  | rep body _ _ _ => isVoid body
  | group body => isVoid body
  | seq parts => areVoid parts
  | alt branches => areVoid branches

/-- Whether all the forms match the empty text only. -/
def areVoid : List Form → Bool
  | [] => true
  | f :: rest => isVoid f && areVoid rest

end

/-- The form of a set; a single character is a literal. -/
def ofSet (s : CharSet) : Form :=
  match s.only? with
  | some c => literal [c]
  | none => set s

/-- The form of a repetition.  What is empty is repeated at most once, and what
occurs exactly once is not repeated. -/
def ofRep (body : Form) (least : Nat) (most : Option Nat) (greedy : Bool) :
    Form :=
  let void := isVoid body
  let least := if void then min least 1 else least
  let most := if void then some (most.elim 1 (min · 1)) else most
  if most = some 0 then empty
  else if least = 1 ∧ most = some 1 then body
  else rep body least most greedy

/-- The parts of a form within a sequence. -/
def parts : Form → List Form
  | empty => []
  | seq fs => fs
  | f => [f]

/-- Puts a form in front of a sequence; two literals become one. -/
def consPart : Form → List Form → List Form
  | literal a, literal b :: rest => literal (a ++ b) :: rest
  | f, rest => f :: rest

/-- The form of a sequence. -/
def ofSeq (fs : List Form) : Form :=
  match (fs.flatMap parts).foldr consPart [] with
  | [] => empty
  | [f] => f
  | fs => seq fs

/-- The branches of a form within a choice. -/
def branches : Form → List Form
  | alt fs => fs
  | f => [f]

/-- The ranges of the characters that a form stands for, if it stands for one
character. -/
def charRanges? : Form → Option (List (Nat × Nat))
  | literal [c] => some [(c.toNat, c.toNat)]
  | set s => some s.ranges
  | _ => none

/-- The form of a choice whose branches begin differently. -/
def ofDistinct (fs : List Form) : Form :=
  match fs.flatMap branches with
  | [] => set .none
  | [f] => f
  | fs =>
    match fs.mapM charRanges? with
    | some ranges => ofSet (.ofRanges ranges.flatten)
    | none => alt fs

/-- The parts of a form, if it is a sequence. -/
def parts? : Form → Option (List Form)
  | seq fs => some fs
  | _ => none

/-- How many parts two sequences have in common at their beginnings. -/
def commonCount : List Form → List Form → Nat
  | a :: as, b :: bs => if same a b then commonCount as bs + 1 else 0
  | _, _ => 0

/-- The form of a choice. -/
def ofAlt (fs : List Form) : Form :=
  match ofDistinct fs with
  | alt fs =>
    match fs.mapM parts? with
    | some (first :: rest) =>
      let common := (rest.map (commonCount first)).foldl min first.length
      if common = 0 then alt fs
      else
        let remainders := (first :: rest).map fun ps => ofSeq (ps.drop common)
        ofSeq (first.take common ++ [ofDistinct remainders])
    | _ => alt fs
  | f => f

mutual

/-- The regular expression of a form. -/
def expr : Form → Regex CharSet Assertion
  | empty => .empty
  | literal cs => Regex.seqAll (cs.map fun c => .symbol (.single c))
  | set s => .symbol s
  | assert a => .assert a
  | rep body least most _ => .rep (expr body) least most
  | group body => expr body
  | seq parts => Regex.seqAll (exprs parts)
  | alt branches => Regex.altAll (.symbol .none) (exprs branches)

/-- The regular expressions of forms. -/
def exprs : List Form → List (Regex CharSet Assertion)
  | [] => []
  | f :: rest => expr f :: exprs rest

end

end Form

end CallGraph
