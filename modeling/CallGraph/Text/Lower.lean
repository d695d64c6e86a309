import CallGraph.Text.CaseTable

/-!
# Lower case

A text is lowered character by character.  Two characters are special: a dotted
capital I becomes two characters, and a capital sigma becomes the final form
when it ends a word, that is when a letter with case stands before it and none
after it, characters without influence on case aside.
-/

namespace CallGraph.Text

/-- The lower-case form of one character on its own. -/
def lowerChar (c : Char) : List Char :=
  if c.toNat = 0x130 then ['i', '\u0307']
  else match caseImage? lowerRuns c.toNat with
    | some n => [Char.ofNat n]
    | none => [c]

/-- Whether the first character that counts for case has case. -/
def startsCased (cs : List Char) : Bool :=
  match cs.dropWhile fun c => inRanges caseIgnorableRanges c.toNat with
  | [] => false
  | c :: _ => inRanges casedRanges c.toNat

/-- Lowers `rest`, where `before` holds the characters already passed, nearest
first. -/
def lowerFrom (before : List Char) : List Char → List Char
  | [] => []
  | c :: rest =>
    let here :=
      if c = 'Σ' then
        if startsCased before && !startsCased rest then ['ς'] else ['σ']
      else lowerChar c
    here ++ lowerFrom (c :: before) rest

/-- A text in lower case. -/
def lower (s : String) : String :=
  String.ofList (lowerFrom [] s.toList)

end CallGraph.Text
