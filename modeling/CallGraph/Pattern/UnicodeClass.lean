import CallGraph.Pattern.Age
import CallGraph.Pattern.Segmentation

/-!
# Classes of characters by name

A class is named by a property, by a general category or a script alone, or by
a property together with its value.  In these names neither case nor blanks,
hyphens and underscores count, and an `is` in front is passed over.
-/

namespace CallGraph.CharSet

/-- What counts of a name.  A single `c` after `is` is not a name of its own but
the abbreviation `isc`. -/
def looseName (name : List Char) : String :=
  let counting := fun (cs : List Char) =>
    (cs.filter fun c => c.toNat ≤ 0x7F && !(" _-".toList.contains c)).map
      Char.toLower
  match name with
  | i :: s :: rest =>
    if i.toLower == 'i' && s.toLower == 's' then
      if counting rest == ['c'] then "isc" else String.ofList (counting rest)
    else String.ofList (counting name)
  | _ => String.ofList (counting name)

/-- The class of a name that stands alone. -/
def ofName? (name : List Char) : Option CharSet :=
  let name := looseName name
  property? name <|> category? name <|> script? name

/-- The class of a property and its value. -/
def ofValue? (name value : List Char) : Option CharSet :=
  let value := looseName value
  match looseName name with
  | "gc" | "generalcategory" => category? value
  | "sc" | "script" => script? value
  | "scx" | "scriptextensions" => scriptExtension? value
  | "age" => age? value
  | "gcb" | "graphemeclusterbreak" => graphemeBreak? value
  | "sb" | "sentencebreak" => sentenceBreak? value
  | "wb" | "wordbreak" => wordBreak? value
  | _ => Option.none

end CallGraph.CharSet
