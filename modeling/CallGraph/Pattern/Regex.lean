/-!
# Regular expressions

A regular expression over symbol classes `σ` and assertions `γ` about
positions.  Matching does not search: `reach` carries a whole set of positions
of the text at once through the expression, from the positions before to the
positions after.  A set of positions is a number whose bit `i` says whether
position `i` belongs to it, so that stepping over a symbol is a shift.
-/

namespace CallGraph

/-- A regular expression. -/
inductive Regex (σ γ : Type)
  | empty
  | symbol (s : σ)
  | assert (a : γ)
  | seq (first second : Regex σ γ)
  | alt (left right : Regex σ γ)
  /-- At least `least` and at most `most` times; any number of times beyond
  `least` without `most`. -/
  | rep (body : Regex σ γ) (least : Nat) (most : Option Nat)

namespace Regex

/-- The set of the positions at which a list holds `true`. -/
def positions : List Bool → Nat
  | [] => 0
  | b :: rest => b.toNat + 2 * positions rest

/-- Applies `f` a number of times; stops when nothing changes any more. -/
def times (f : Nat → Nat) : Nat → Nat → Nat
  | 0, s => s
  | n + 1, s =>
    let next := f s
    if next = s then s else times f n next

/-- The positions reached by applying `f` at most a number of times. -/
def upTo (f : Nat → Nat) : Nat → Nat → Nat
  | 0, s => s
  | n + 1, s =>
    let next := s ||| f s
    if next = s then s else upTo f n next

variable {σ γ : Type}

/-- The positions after a match of the expression that starts at one of the
positions `s`, in a text of length `length`.  `before` gives the positions in
front of a symbol of a class, `holds` those where an assertion is true. -/
def reach (length : Nat) (before : σ → Nat) (holds : γ → Nat) :
    Regex σ γ → Nat → Nat
  | empty, s => s
  | symbol c, s => (s &&& before c) <<< 1
  | assert a, s => s &&& holds a
  | seq first second, s =>
    reach length before holds second (reach length before holds first s)
  | alt left right, s =>
    reach length before holds left s ||| reach length before holds right s
  | rep body least most, s =>
    let once := reach length before holds body
    upTo once (most.elim (length + 1) (· - least)) (times once least s)

/-- The expressions of a list, one after another. -/
def seqAll : List (Regex σ γ) → Regex σ γ
  | [] => empty
  | [r] => r
  | r :: rest => seq r (seqAll rest)

/-- Any one of the expressions of a list. -/
def altAll (first : Regex σ γ) (rest : List (Regex σ γ)) : Regex σ γ :=
  rest.foldl alt first

end Regex

end CallGraph
