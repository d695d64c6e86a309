/-!
# JSON

A JSON value whose objects keep their fields in order, and its compact text.  A
string is written character by character; only quotes, backslashes and control
characters are escaped.
-/

namespace CallGraph

/-- A JSON value without fractions or negative numbers. -/
inductive Json
  | null
  | bool (b : Bool)
  | num (n : Nat)
  | str (s : String)
  | arr (items : List Json)
  | obj (fields : List (String × Json))

namespace Json

/-- A hexadecimal digit in lower case. -/
def hexDigit (n : Nat) : Char := Nat.digitChar (n % 16)

/-- How a character is written inside a string. -/
def escapeChar (c : Char) : List Char :=
  if c = '"' then ['\\', '"']
  else if c = '\\' then ['\\', '\\']
  else if c = '\x08' then ['\\', 'b']
  else if c = '\x0c' then ['\\', 'f']
  else if c = '\n' then ['\\', 'n']
  else if c = '\r' then ['\\', 'r']
  else if c = '\t' then ['\\', 't']
  else if c.toNat < 0x20 then
    ['\\', 'u', '0', '0', hexDigit (c.toNat / 16), hexDigit c.toNat]
  else [c]

/-- The text of a string. -/
def stringChars (s : String) : List Char :=
  '"' :: (s.toList.flatMap escapeChar ++ ['"'])

/-- Puts a comma between texts. -/
def commaSeparated : List (List Char) → List Char
  | [] => []
  | [x] => x
  | x :: rest => x ++ ',' :: commaSeparated rest

mutual

/-- The compact text of a value. -/
def chars : Json → List Char
  | null => "null".toList
  | bool true => "true".toList
  | bool false => "false".toList
  | num n => Nat.toDigits 10 n
  | str s => stringChars s
  | arr items => '[' :: (commaSeparated (itemTexts items) ++ [']'])
  | obj fields => '\x7b' :: (commaSeparated (fieldTexts fields) ++ ['\x7d'])

/-- The texts of the items of a list. -/
def itemTexts : List Json → List (List Char)
  | [] => []
  | item :: rest => item.chars :: itemTexts rest

/-- The texts of the fields of an object. -/
def fieldTexts : List (String × Json) → List (List Char)
  | [] => []
  | (name, value) :: rest =>
    (stringChars name ++ ':' :: value.chars) :: fieldTexts rest

end

/-- The compact text of a value. -/
def render (j : Json) : String := String.ofList j.chars

/-- A list of strings. -/
def strings (ss : List String) : Json := arr (ss.map str)

/-- A value, or null. -/
def option {α : Type} (f : α → Json) : Option α → Json
  | none => null
  | some a => f a

end Json

end CallGraph
