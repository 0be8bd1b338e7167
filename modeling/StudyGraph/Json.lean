import StudyGraph.Text

/-!
# JSON values

JSON without numbers: the part of the format in which quizzes are identified. `render` writes a
value compactly, with no space between tokens. A string is quoted and its characters are escaped by
`escape`: the quotation mark and the backslash by a backslash, a control character below U+0020 by
its short escape if it has one and by `\u00` with two hexadecimal digits otherwise, and every other
character stands for itself.
-/

namespace StudyGraph

/-- A JSON value without numbers. -/
inductive Json where
  | null
  | bool (b : Bool)
  | string (t : Text)
  | array (items : List Json)
  | object (members : List (Text × Json))
  deriving Inhabited

namespace Json

/-- A hexadecimal digit in lower case. -/
def hexDigit (n : Nat) : Char :=
  if n < 10 then Char.ofNat (48 + n) else Char.ofNat (87 + n)

/-- How a character is written between quotation marks. -/
def escape (c : Char) : Text :=
  if c = '"' then ['\\', '"']
  else if c = '\\' then ['\\', '\\']
  else if c = '\x08' then ['\\', 'b']
  else if c = '\t' then ['\\', 't']
  else if c = '\n' then ['\\', 'n']
  else if c = '\x0c' then ['\\', 'f']
  else if c = '\r' then ['\\', 'r']
  else if c.toNat < 0x20 then
    ['\\', 'u', '0', '0', hexDigit (c.toNat / 16), hexDigit (c.toNat % 16)]
  else [c]

/-- A string with its quotation marks. -/
def quote (t : Text) : Text :=
  '"' :: t.flatMap escape ++ ['"']

mutual

/-- The compact text of a value. -/
def render : Json → Text
  | null => "null"
  | bool true => "true"
  | bool false => "false"
  | string t => quote t
  | array [] => "[]"
  | array (item :: items) => '[' :: render item ++ renderItems items
  | object [] => ['\x7b', '\x7d']
  | object ((key, value) :: members) =>
    '\x7b' :: quote key ++ ':' :: render value ++ renderMembers members

/-- The items behind the first one, each after a comma, and the closing bracket. -/
def renderItems : List Json → Text
  | [] => [']']
  | item :: items => ',' :: render item ++ renderItems items

/-- The members behind the first one, each after a comma, and the closing brace. -/
def renderMembers : List (Text × Json) → Text
  | [] => ['\x7d']
  | (key, value) :: members => ',' :: quote key ++ ':' :: render value ++ renderMembers members

end

/-- A list of strings. -/
def strings (texts : List Text) : Json :=
  array (texts.map string)

/-- A value, or `null` in its absence. -/
def ofOption {α : Type} (f : α → Json) : Option α → Json
  | none => null
  | some a => f a

end Json

end StudyGraph
