import ScriptKeeper.Json.Value

/-!
# Reading JSON

`Json.read?` reads a whole document, with blanks around it. Documents may be nested to any
depth. Readers take the characters that are left and give those that are left after them.
-/

namespace ScriptKeeper.Json

/-- Whether a character may stand between the parts of a document. -/
def isSpace (c : Char) : Bool := c = ' ' || c = '\n' || c = '\t' || c = '\r'

/-- The characters from the next part of a document on. -/
def skipSpace (cs : List Char) : List Char := cs.dropWhile isSpace

/-- The value of a hexadecimal digit. -/
def hexValue? (c : Char) : Option Nat :=
  if c.isDigit then some (c.toNat - '0'.toNat)
  else if 'a' ≤ c ∧ c ≤ 'f' then some (c.toNat - 'a'.toNat + 10)
  else if 'A' ≤ c ∧ c ≤ 'F' then some (c.toNat - 'A'.toNat + 10)
  else none

/-- The code unit that four hexadecimal digits give. -/
def readUnit : List Char → Option (Nat × List Char)
  | a :: b :: c :: d :: rest => do
    let n := ((← hexValue? a) * 16 + (← hexValue? b)) * 16 + (← hexValue? c)
    return (n * 16 + (← hexValue? d), rest)
  | _ => none

/-- The character that a letter after a backslash stands for. -/
def simpleEscape? (c : Char) : Option Char :=
  match c with
  | '"' => some '"'
  | '\\' => some '\\'
  | '/' => some '/'
  | 'b' => some '\x08'
  | 'f' => some '\x0c'
  | 'n' => some '\n'
  | 'r' => some '\r'
  | 't' => some '\t'
  | _ => none

/-- What one code unit, or a pair of surrogates, stands for: the character, or `none` for half
    a pair; and the characters after it. -/
def readUnits (cs : List Char) : Option (Option Char × List Char) := do
  let (unit, rest) ← readUnit cs
  if 0xD800 ≤ unit ∧ unit < 0xDC00 then
    match rest with
    | '\\' :: 'u' :: after =>
      match readUnit after with
      | some (low, after) =>
        if 0xDC00 ≤ low ∧ low < 0xE000 then
          return (some (Char.ofNat (0x10000 + (unit - 0xD800) * 0x400 + (low - 0xDC00))), after)
        else return (none, rest)
      | none => none
    | rest => return (none, rest)
  else if 0xDC00 ≤ unit ∧ unit < 0xE000 then return (none, rest)
  else return (some (Char.ofNat unit), rest)

/-- The rest of a string whose opening quote has been read: its text, unless it denotes none.
    `text` is what has been read of it, in reverse order. The first argument bounds its
    length. -/
def readStringFrom : Nat → Option (List Char) → List Char → Option (Option String × List Char)
  | 0, _, _ => none
  | _ + 1, _, [] => none
  | fuel + 1, text, c :: rest =>
    if c = '"' then some (text.map fun cs => String.ofList cs.reverse, rest)
    else if c = '\\' then
      match rest with
      | 'u' :: rest => do
        let (unit, rest) ← readUnits rest
        readStringFrom fuel (do return (← unit) :: (← text)) rest
      | c :: rest => do
        let c ← simpleEscape? c
        readStringFrom fuel (text.map (c :: ·)) rest
      | [] => none
    else if c.toNat < 0x20 then none
    else readStringFrom fuel (text.map (c :: ·)) rest

/-- A string whose opening quote has been read. -/
def readString (cs : List Char) : Option (Option String × List Char) :=
  readStringFrom (cs.length + 1) (some []) cs

/-- At least one digit. -/
def readDigits (cs : List Char) : Option (List Char × List Char) :=
  let digits := cs.takeWhile Char.isDigit
  if digits.isEmpty then none else some (digits, cs.dropWhile Char.isDigit)

/-- A fraction after a point, or nothing. -/
def readFraction : List Char → Option (List Char × List Char)
  | '.' :: rest => (readDigits rest).map fun (ds, rest) => ('.' :: ds, rest)
  | rest => some ([], rest)

/-- An exponent, or nothing. -/
def readExponent : List Char → Option (List Char × List Char)
  | e :: rest =>
    if e = 'e' ∨ e = 'E' then
      match rest with
      | s :: after =>
        if s = '+' ∨ s = '-' then
          (readDigits after).map fun (ds, rest) => (e :: s :: ds, rest)
        else (readDigits rest).map fun (ds, rest) => (e :: ds, rest)
      | [] => none
    else some ([], e :: rest)
  | [] => some ([], [])

/-- The number that decimal digits give. -/
def natOfDigits (digits : List Char) : Nat :=
  digits.foldl (fun n d => 10 * n + (d.toNat - '0'.toNat)) 0

/-- A number. Only zero itself begins with the digit zero. -/
def readNumber (cs : List Char) : Option (Json × List Char) := do
  let negative := cs.head? == some '-'
  let (digits, rest) ← readDigits (if negative then cs.drop 1 else cs)
  if digits.head? = some '0' ∧ digits.length ≠ 1 then none
  let (fraction, rest) ← readFraction rest
  let (exponent, rest) ← readExponent rest
  if negative || !fraction.isEmpty || !exponent.isEmpty then
    let sign := if negative then ['-'] else []
    return (.number (String.ofList (sign ++ digits ++ fraction ++ exponent)), rest)
  else return (.natural (natOfDigits digits), rest)

/-- The word `word`, which stands for `value`. -/
def readWord (word : String) (value : Json) (cs : List Char) : Option (Json × List Char) :=
  if word.toList.isPrefixOf cs then some (value, cs.drop word.length) else none

/-- What is expected next inside an array or an object. -/
inductive Expected
  /-- A value. -/
  | value
  /-- The items of an array, after those that have been read, in reverse order. -/
  | items (read : List Json)
  /-- The members of an object, after those that have been read, in reverse order; `none` if
      one of their names denotes no text. -/
  | members (read : Option (List (String × Json)))

/-- Reads what is expected, with blanks before it. Arrays and objects are read from behind
    their opening bracket or from behind an item on. The first argument bounds the number of
    parts. -/
def readExpected : Nat → Expected → List Char → Option (Json × List Char)
  | 0, _, _ => none
  | fuel + 1, .value, cs =>
    match skipSpace cs with
    | '\x7b' :: rest =>
      match skipSpace rest with
      | '\x7d' :: rest => some (.object [], rest)
      | '"' :: rest => do
        let (name, rest) ← readString rest
        match skipSpace rest with
        | ':' :: rest =>
          let (value, rest) ← readExpected fuel .value rest
          readExpected fuel (.members (name.map fun name => [(name, value)])) rest
        | _ => none
      | _ => none
    | '[' :: rest =>
      match skipSpace rest with
      | ']' :: rest => some (.array [], rest)
      | rest => do
        let (item, rest) ← readExpected fuel .value rest
        readExpected fuel (.items [item]) rest
    | '"' :: rest => do
      let (s, rest) ← readString rest
      return ((s.map Json.string).getD .illFormed, rest)
    | 'n' :: rest => readWord "null" .null ('n' :: rest)
    | 't' :: rest => readWord "true" (.bool true) ('t' :: rest)
    | 'f' :: rest => readWord "false" (.bool false) ('f' :: rest)
    | rest => readNumber rest
  | fuel + 1, .items read, cs =>
    match skipSpace cs with
    | ']' :: rest => some (.array read.reverse, rest)
    | ',' :: rest => do
      let (item, rest) ← readExpected fuel .value rest
      readExpected fuel (.items (item :: read)) rest
    | _ => none
  | fuel + 1, .members read, cs =>
    match skipSpace cs with
    | '\x7d' :: rest =>
      some ((read.map fun members => object members.reverse).getD .illFormed, rest)
    | ',' :: rest =>
      match skipSpace rest with
      | '"' :: rest => do
        let (name, rest) ← readString rest
        match skipSpace rest with
        | ':' :: rest =>
          let (value, rest) ← readExpected fuel .value rest
          readExpected fuel (.members (do return (← name, value) :: (← read))) rest
        | _ => none
      | _ => none
    | _ => none

/-- The value of a whole document. -/
def read? (text : String) : Option Json := do
  let cs := text.toList
  let (value, rest) ← readExpected (2 * cs.length + 2) .value cs
  if (skipSpace rest).isEmpty then some value else none

end ScriptKeeper.Json
