import ScriptKeeper.Json.Value

/-!
# Printing JSON

`Json.pretty` writes a document with two spaces for each level, one member or item a line and
empty arrays and objects closed at once; `Json.compact` writes it without any space. Strings
are written as they are, except that quotes, backslashes and control characters are escaped.
-/

namespace ScriptKeeper.Json

/-- The digit of a number below 16. -/
def hexDigit (n : Nat) : Char := if n < 10 then Char.ofNat (48 + n) else Char.ofNat (87 + n)

/-- How a character is written in a string. -/
def escapeChar (c : Char) : List Char :=
  if c = '"' then ['\\', '"']
  else if c = '\\' then ['\\', '\\']
  else if c = '\n' then ['\\', 'n']
  else if c = '\r' then ['\\', 'r']
  else if c = '\t' then ['\\', 't']
  else if c = '\x08' then ['\\', 'b']
  else if c = '\x0c' then ['\\', 'f']
  else if c.toNat < 0x20 then
    ['\\', 'u', '0', '0', hexDigit (c.toNat / 16), hexDigit (c.toNat % 16)]
  else [c]

/-- A text as a string of a document. -/
def printString (s : String) : List Char := '"' :: s.toList.flatMap escapeChar ++ ['"']

/-- The number in decimal digits. -/
def printNat (n : Nat) : List Char := Nat.toDigits 10 n

/-- What stands for a value that denotes nothing: the replacement character. -/
def printIllFormed : List Char := printString "\ufffd"

/-- A line break and the indentation of the given depth. -/
def indentation (depth : Nat) : List Char := '\n' :: List.replicate (2 * depth) ' '

mutual

/-- A value at the given depth. -/
def printPretty (depth : Nat) : Json → List Char
  | .null => "null".toList
  | .bool true => "true".toList
  | .bool false => "false".toList
  | .natural n => printNat n
  | .number lexeme => lexeme.toList
  | .string s => printString s
  | .illFormed => printIllFormed
  | .array [] => ['[', ']']
  | .array (item :: items) =>
    '[' :: indentation (depth + 1) ++ printPretty (depth + 1) item ++
      printPrettyItems (depth + 1) items ++ indentation depth ++ [']']
  | .object [] => ['\x7b', '\x7d']
  | .object ((name, value) :: members) =>
    '\x7b' :: indentation (depth + 1) ++ printString name ++ [':', ' '] ++
      printPretty (depth + 1) value ++ printPrettyMembers (depth + 1) members ++
      indentation depth ++ ['\x7d']

/-- The items after the first. -/
def printPrettyItems (depth : Nat) : List Json → List Char
  | [] => []
  | item :: items =>
    ',' :: indentation depth ++ printPretty depth item ++ printPrettyItems depth items

/-- The members after the first. -/
def printPrettyMembers (depth : Nat) : List (String × Json) → List Char
  | [] => []
  | (name, value) :: members =>
    ',' :: indentation depth ++ printString name ++ [':', ' '] ++ printPretty depth value ++
      printPrettyMembers depth members

end

/-- The document over several lines. -/
def pretty (j : Json) : String := String.ofList (printPretty 0 j)

mutual

/-- A value without spaces. -/
def printCompact : Json → List Char
  | .null => "null".toList
  | .bool true => "true".toList
  | .bool false => "false".toList
  | .natural n => printNat n
  | .number lexeme => lexeme.toList
  | .string s => printString s
  | .illFormed => printIllFormed
  | .array [] => ['[', ']']
  | .array (item :: items) => '[' :: printCompact item ++ printCompactItems items ++ [']']
  | .object [] => ['\x7b', '\x7d']
  | .object ((name, value) :: members) =>
    '\x7b' :: printString name ++ [':'] ++ printCompact value ++
      printCompactMembers members ++ ['\x7d']

/-- The items after the first. -/
def printCompactItems : List Json → List Char
  | [] => []
  | item :: items => ',' :: printCompact item ++ printCompactItems items

/-- The members after the first. -/
def printCompactMembers : List (String × Json) → List Char
  | [] => []
  | (name, value) :: members =>
    ',' :: printString name ++ [':'] ++ printCompact value ++ printCompactMembers members

end

/-- The document on one line. -/
def compact (j : Json) : String := String.ofList (printCompact j)

end ScriptKeeper.Json
