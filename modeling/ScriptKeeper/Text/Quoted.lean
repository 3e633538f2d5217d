import ScriptKeeper.Unicode.Class

/-!
# Quoted text

Messages show a text between double quotes. Characters that have a shape of their own stand
as they are; the quote, the backslash and the common control characters are escaped by a
letter, and every other character by its code point.
-/

namespace ScriptKeeper.Text

/-- The lower-case hexadecimal digits of a number, without leading zeros. -/
def hexDigits (n : Nat) : List Char := Nat.toDigits 16 n

/-- How a character is written between the quotes. -/
def quotedChar (c : Char) : List Char :=
  if c = '\x00' then ['\\', '0']
  else if c = '\t' then ['\\', 't']
  else if c = '\r' then ['\\', 'r']
  else if c = '\n' then ['\\', 'n']
  else if c = '\\' then ['\\', '\\']
  else if c = '"' then ['\\', '"']
  else if Unicode.isPrintable c && !Unicode.extendsGrapheme c then [c]
  else ['\\', 'u', '\x7b'] ++ hexDigits c.toNat ++ ['\x7d']

/-- The text between double quotes. -/
def quoted (text : String) : String :=
  String.ofList ('"' :: text.toList.flatMap quotedChar ++ ['"'])

/-- The text without the white space at its two ends. -/
def trimBlanks (text : String) : String :=
  let front := text.toList.dropWhile Unicode.isBlank
  String.ofList (front.reverse.dropWhile Unicode.isBlank).reverse

/-- Whether two texts agree up to the case of ASCII letters. -/
def equalsIgnoringCase (s t : String) : Bool :=
  s.toList.map Char.toLower == t.toList.map Char.toLower

end ScriptKeeper.Text
