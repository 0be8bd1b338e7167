import StudyGraph.Text.Combining

/-!
# String literals

A text between quotation marks as a programmer reads it: quotation marks and backslashes are
escaped, and so are all characters that one would not see, or that would attach to the character
before them. Not printable are ignorable characters and the categories of controls, format
characters, surrogates, private and unassigned code points, and separators other than the space.
-/

namespace StudyGraph.Text

/-- Whether a character shows by itself. -/
def isPrintable (c : Char) : Bool :=
  c = ' ' || !isIgnorable c &&
    match Category.of c with
    | .control | .format | .surrogate | .privateUse | .unassigned | .spaceSeparator
    | .lineSeparator | .paragraphSeparator => false
    | _ => true

/-- A number in hexadecimal digits. -/
def ofNatHex (n : Nat) : Text :=
  Nat.toDigits 16 n

/-- How a character stands in a literal. -/
def escapeInLiteral (c : Char) : Text :=
  if c = '\x00' then "\\0"
  else if c = '\t' then "\\t"
  else if c = '\r' then "\\r"
  else if c = '\n' then "\\n"
  else if c = '\\' then "\\\\"
  else if c = '"' then "\\\""
  else if isCombining c || !isPrintable c then "\\u\x7b" ++ ofNatHex c.toNat ++ "\x7d"
  else [c]

/-- A text as a literal. -/
def literal (t : Text) : Text :=
  '"' :: t.flatMap escapeInLiteral ++ ['"']

end StudyGraph.Text
