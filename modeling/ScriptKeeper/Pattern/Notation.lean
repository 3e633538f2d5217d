import ScriptKeeper.Pattern.Expr
import ScriptKeeper.Unicode.Class
import ScriptKeeper.Unicode.Lookup

/-!
# The notation of single characters and sets

The parts of a pattern that stand for one character: literals, escapes and bracketed sets.
How they read depends on the flags in force.

* `readEscape`: what follows a backslash;
* `readSet`: what follows an opening bracket, with nested sets, ranges and the operators
  for intersection, difference and symmetric difference.

Readers take the characters that are left and give those that are left after them; they
answer `none` on a malformed pattern.
-/

namespace ScriptKeeper.Pattern

open Unicode (CharSet)

/-- The flags that patterns switch on and off. -/
structure Flags where
  caseInsensitive : Bool := false
  multiLine : Bool := false
  dotMatchesNewline : Bool := false
  swapGreed : Bool := false
  unicode : Bool := true
  /-- A carriage return ends lines too. -/
  returnEndsLines : Bool := false
  /-- Blanks and comments in the pattern are ignored. -/
  ignoreBlanks : Bool := false
  deriving DecidableEq, Repr

/-- The characters after blanks and comments, which a number sign opens and a newline
    closes. The flag tells whether a comment is open. -/
def skipBlanks : Bool → List Char → List Char
  | _, [] => []
  | true, c :: rest => skipBlanks (c != '\n') rest
  | false, c :: rest =>
    if Unicode.isBlank c then skipBlanks false rest
    else if c = '#' then skipBlanks true rest
    else c :: rest

/-- The characters from the next significant one on. -/
def Flags.skip (flags : Flags) (cs : List Char) : List Char :=
  if flags.ignoreBlanks then skipBlanks false cs else cs

/-- The leading characters that are accepted, and those after them; insignificant
    characters may stand behind each. The first argument bounds how many are taken. -/
def Flags.collect (flags : Flags) (accept : Char → Bool) : Nat → List Char → List Char × List Char
  | 0, cs => ([], cs)
  | _ + 1, [] => ([], [])
  | bound + 1, c :: rest =>
    if accept c then
      let (taken, rest) := flags.collect accept bound (flags.skip rest)
      (c :: taken, rest)
    else ([], c :: rest)

/-- The set with both cases of each of its ASCII letters. -/
def foldAsciiCase (s : CharSet) : CharSet :=
  (List.range 26).foldl
    (fun t i =>
      if s.hasPoint ('A'.toNat + i) || s.hasPoint ('a'.toNat + i) then
        (t.insert ('A'.toNat + i) ('A'.toNat + i)).insert ('a'.toNat + i) ('a'.toNat + i)
      else t) s

/-- The set as the flags have it: closed under case if case does not matter. -/
def Flags.fold (flags : Flags) (s : CharSet) : CharSet :=
  if !flags.caseInsensitive then s
  else if flags.unicode then s.foldCase
  else foldAsciiCase s

/-- The complement, if need be. Without Unicode a complement holds bytes that are no
    characters, and is refused. -/
def Flags.negateIf (flags : Flags) (negated : Bool) (s : CharSet) : Option CharSet :=
  if !negated then some s
  else if flags.unicode then some s.complement
  else none

/-- What one element of the notation stands for. -/
inductive Atom
  /-- A character; `fixedByte` tells that it is written by two hexadecimal digits. -/
  | char (c : Char) (fixedByte : Bool)
  | set (s : CharSet)
  | look (assertion : Look)

/-! ### Escapes -/

/-- The value of a hexadecimal digit. -/
def hexValue? (c : Char) : Option Nat :=
  if c.isDigit then some (c.toNat - '0'.toNat)
  else if 'a' ≤ c ∧ c ≤ 'f' then some (c.toNat - 'a'.toNat + 10)
  else if 'A' ≤ c ∧ c ≤ 'F' then some (c.toNat - 'A'.toNat + 10)
  else none

/-- The character whose code point the hexadecimal digits give. -/
def charOfHex? (digits : List Char) : Option Char :=
  if digits.isEmpty then none
  else
    let n := digits.foldl (fun n d => 16 * n + (hexValue? d).getD 0) 0
    if n.isValidChar then some (Char.ofNat n) else none

/-- Exactly `count` hexadecimal digits. -/
def Flags.hexDigits (flags : Flags) : Nat → List Char → Option (List Char × List Char)
  | 0, cs => some ([], cs)
  | _ + 1, [] => none
  | count + 1, c :: rest =>
    if (hexValue? c).isSome then
      (flags.hexDigits count (flags.skip rest)).map fun (ds, rest) => (c :: ds, rest)
    else none

/-- A code point after `x`, `u` or `U`: in braces, or by as many digits as given. -/
def readCodePoint (flags : Flags) (digits : Nat) (cs : List Char) : Option (Atom × List Char) := do
  match flags.skip cs with
  | '\x7b' :: rest =>
    let (ds, rest) := flags.collect (fun c => (hexValue? c).isSome) cs.length (flags.skip rest)
    match rest with
    | '\x7d' :: rest =>
      let c ← charOfHex? ds
      return (.char c false, flags.skip rest)
    | _ => none
  | rest =>
    let (ds, rest) ← flags.hexDigits digits rest
    let c ← charOfHex? ds
    return (.char c (digits == 2), rest)

/-- The text before the first place where `separator` stands, and the text after it. -/
def cutAt? (separator : List Char) : List Char → Option (List Char × List Char)
  | [] => none
  | c :: rest =>
    if separator.isPrefixOf (c :: rest) then some ([], (c :: rest).drop separator.length)
    else (cutAt? separator rest).map fun (before, after) => (c :: before, after)

/-- The set that the text between the braces of a property names: one name, or a property
    and its value divided by a colon or an equals sign. An exclamation mark before the
    equals sign does not matter. -/
def namedSet? (name : List Char) : Option CharSet :=
  match cutAt? ['!', '='] name <|> cutAt? [':'] name <|> cutAt? ['='] name with
  | some (property, value) =>
    Unicode.setOfValue? (String.ofList property) (String.ofList value)
  | none => Unicode.setOfName? (String.ofList name)

/-- A property after `p` or `P`: one letter, or a name in braces. -/
def readProperty (flags : Flags) (negated : Bool) (cs : List Char) :
    Option (Atom × List Char) := do
  let (name, rest) ← match flags.skip cs with
    | [] => none
    | '\x7b' :: rest =>
      let (name, rest) := flags.collect (· != '\x7d') cs.length (flags.skip rest)
      if rest.isEmpty then none else some (name, rest.drop 1)
    | '\\' :: _ => none
    | c :: rest => some ([c], rest)
  if !flags.unicode then none
  let set ← namedSet? name
  let set ← flags.negateIf negated (flags.fold set)
  return (.set set, rest)

/-- The digits, blanks or characters of words, as the flags have them. -/
def readClass (flags : Flags) (letter : Char) : Option CharSet :=
  let ofLower : Char → CharSet := fun c =>
    if c = 'd' then if flags.unicode then Unicode.digits else ⟨[(0x30, 0x39)]⟩
    else if c = 's' then if flags.unicode then Unicode.blanks else ⟨[(0x9, 0xD), (0x20, 0x20)]⟩
    else if flags.unicode then Unicode.wordCharacters
    else ⟨[(0x30, 0x39), (0x41, 0x5A), (0x5F, 0x5F), (0x61, 0x7A)]⟩
  flags.negateIf letter.isUpper (ofLower letter.toLower)

/-- A boundary of words after `b`. Braces may name a particular kind; if they do not hold a
    name they are read as a repetition later. -/
def readWordBoundary (flags : Flags) (cs : List Char) : Option (Atom × List Char) :=
  let ascii := !flags.unicode
  let plain : Option (Atom × List Char) := some (.look (.wordBoundary ascii), cs)
  match cs with
  | '\x7b' :: rest =>
    match flags.skip rest with
    | [] => none
    | c :: after =>
      if !(c.isAlpha || c = '-') then plain
      else
        let (name, rest) := flags.collect (fun c => c.isAlpha || c = '-') cs.length (c :: after)
        match rest with
        | '\x7d' :: rest =>
          match String.ofList name with
          | "start" => some (.look (.wordStart ascii), rest)
          | "end" => some (.look (.wordEnd ascii), rest)
          | "start-half" => some (.look (.wordStartHalf ascii), rest)
          | "end-half" => some (.look (.wordEndHalf ascii), rest)
          | _ => none
        | _ => none
  | _ => plain

/-- What the characters after a backslash stand for. Letters and digits have meanings or
    are refused; every other ASCII character stands for itself. -/
def readEscape (flags : Flags) : List Char → Option (Atom × List Char)
  | [] => none
  | c :: rest =>
    let ascii := !flags.unicode
    match c with
    | 'x' => readCodePoint flags 2 rest
    | 'u' => readCodePoint flags 4 rest
    | 'U' => readCodePoint flags 8 rest
    | 'p' => readProperty flags false rest
    | 'P' => readProperty flags true rest
    | 'd' | 's' | 'w' | 'D' | 'S' | 'W' => (readClass flags c).map fun s => (.set s, rest)
    | 'a' => some (.char '\x07' false, rest)
    | 'f' => some (.char '\x0c' false, rest)
    | 't' => some (.char '\t' false, rest)
    | 'n' => some (.char '\n' false, rest)
    | 'r' => some (.char '\r' false, rest)
    | 'v' => some (.char '\x0b' false, rest)
    | 'A' => some (.look .textStart, rest)
    | 'z' => some (.look .textEnd, rest)
    | 'b' => readWordBoundary flags rest
    | 'B' => some (.look (.notWordBoundary ascii), rest)
    | '<' => some (.look (.wordStart ascii), rest)
    | '>' => some (.look (.wordEnd ascii), rest)
    | c => if c.toNat < 0x80 && !c.isAlphanum then some (.char c false, rest) else none

/-! ### Sets in brackets -/

/-- The set that one element contributes to a bracketed set. Without Unicode, only ASCII
    characters can stand there. -/
def Flags.atomSet? (flags : Flags) : Atom → Option CharSet
  | .char c _ => if flags.unicode || c.toNat < 0x80 then some (CharSet.singleton c) else none
  | .set s => some s
  | .look _ => none

/-- The character next after the first one, looked for behind blanks and number signs if
    the pattern ignores them. The flag tells whether a number sign was met. -/
def peekSignificant : Bool → List Char → Option Char
  | _, [] => none
  | met, c :: rest =>
    if Unicode.isBlank c then peekSignificant met rest
    else if !met && c = '#' then peekSignificant true rest
    else some c

/-- The character that follows the one at the front. -/
def Flags.peekNext (flags : Flags) (cs : List Char) : Option Char :=
  let rest := cs.drop 1
  if flags.ignoreBlanks then peekSignificant false rest <|> rest.head? else rest.head?

/-- One element of a bracketed set. -/
def readElement (flags : Flags) : List Char → Option (Atom × List Char)
  | [] => none
  | '\\' :: rest => readEscape flags rest
  | c :: rest => some (.char c false, rest)

/-- One element of a bracketed set, or a range between two characters. A hyphen before the
    closing bracket or before another hyphen makes no range. -/
def readRange (flags : Flags) (cs : List Char) : Option (CharSet × List Char) := do
  let (first, rest) ← readElement flags cs
  match flags.skip rest with
  | [] => none
  | '-' :: after =>
    let next := flags.peekNext ('-' :: after)
    if next = some ']' ∨ next = some '-' then
      return (← flags.atomSet? first, '-' :: after)
    else
      let (last, rest) ← readElement flags (flags.skip after)
      match first, last with
      | .char a _, .char b _ =>
        let _ ← flags.atomSet? first
        let _ ← flags.atomSet? last
        if a ≤ b then return (⟨[(a.toNat, b.toNat)]⟩, rest) else none
      | _, _ => none
  | rest => return (← flags.atomSet? first, rest)

/-- The ASCII classes that have names. -/
def asciiClass? (name : String) : Option CharSet :=
  match name with
  | "alnum" => some ⟨[(0x30, 0x39), (0x41, 0x5A), (0x61, 0x7A)]⟩
  | "alpha" => some ⟨[(0x41, 0x5A), (0x61, 0x7A)]⟩
  | "ascii" => some ⟨[(0x0, 0x7F)]⟩
  | "blank" => some ⟨[(0x9, 0x9), (0x20, 0x20)]⟩
  | "cntrl" => some ⟨[(0x0, 0x1F), (0x7F, 0x7F)]⟩
  | "digit" => some ⟨[(0x30, 0x39)]⟩
  | "graph" => some ⟨[(0x21, 0x7E)]⟩
  | "lower" => some ⟨[(0x61, 0x7A)]⟩
  | "print" => some ⟨[(0x20, 0x7E)]⟩
  | "punct" => some ⟨[(0x21, 0x2F), (0x3A, 0x40), (0x5B, 0x60), (0x7B, 0x7E)]⟩
  | "space" => some ⟨[(0x9, 0xD), (0x20, 0x20)]⟩
  | "upper" => some ⟨[(0x41, 0x5A)]⟩
  | "word" => some ⟨[(0x30, 0x39), (0x41, 0x5A), (0x5F, 0x5F), (0x61, 0x7A)]⟩
  | "xdigit" => some ⟨[(0x30, 0x39), (0x41, 0x46), (0x61, 0x66)]⟩
  | _ => none

/-- An ASCII class between colons, whether it is negated, and the characters after its
    closing bracket. -/
def readAsciiClass : List Char → Option (CharSet × Bool × List Char)
  | ':' :: rest => do
    let negated := rest.head? == some '^'
    let rest := if negated then rest.drop 1 else rest
    let name := rest.takeWhile (· != ':')
    match rest.dropWhile (· != ':') with
    | ':' :: ']' :: rest =>
      let set ← asciiClass? (String.ofList name)
      return (set, negated, rest)
    | _ => none
  | _ => none

/-- The operators between the operands of a bracketed set. -/
inductive SetOp
  | inter
  | diff
  | symmDiff

/-- What an operator makes of two sets. -/
def SetOp.apply : SetOp → CharSet → CharSet → CharSet
  | .inter => CharSet.inter
  | .diff => CharSet.diff
  | .symmDiff => CharSet.symmDiff

/-- A bracketed set as far as it has been read: what comes before the last operator, and the
    elements after it. Sets carry the depth to which their notation is nested. -/
structure OpenSet where
  negated : Bool
  before : Option (SetOp × CharSet × Nat) := none
  elements : CharSet := CharSet.empty
  count : Nat := 0
  depth : Nat := 0

namespace OpenSet

/-- The set with one more element. -/
def add (s : OpenSet) (elements : CharSet) (depth : Nat) : OpenSet :=
  { s with
    elements := s.elements.union elements
    count := s.count + 1
    depth := max s.depth depth }

/-- What has been read, with its depth: elements of which there are several are one level
    deeper, and so are the operands of an operator. -/
def value (flags : Flags) (s : OpenSet) : CharSet × Nat :=
  let operand := flags.fold s.elements
  let depth := if s.count < 2 then s.depth else s.depth + 1
  match s.before with
  | none => (operand, depth)
  | some (op, left, leftDepth) => (op.apply left operand, max leftDepth depth + 1)

/-- The set with an operator after what has been read. -/
def operator (flags : Flags) (op : SetOp) (s : OpenSet) : OpenSet :=
  let (left, depth) := s.value flags
  { negated := s.negated, before := some (op, left, depth) }

/-- The beginning of a bracketed set: a circumflex that negates it, then hyphens, or a closing
    bracket, that stand for themselves. -/
def opening (flags : Flags) (cs : List Char) : Option (OpenSet × List Char) := do
  let cs := flags.skip cs
  let negated := cs.head? == some '^'
  let cs := if negated then flags.skip (cs.drop 1) else cs
  let (hyphens, cs) := flags.collect (· = '-') cs.length cs
  let start : OpenSet := hyphens.foldl (fun s c => s.add (CharSet.singleton c) 0) { negated }
  match cs with
  | [] => none
  | ']' :: rest =>
    if hyphens.isEmpty then
      match flags.skip rest with
      | [] => none
      | rest => return (start.add (CharSet.singleton ']') 0, rest)
    else return (start, ']' :: rest)
  | cs => return (start, cs)

end OpenSet

/-- The rest of a bracketed set: the set, the depth of its notation and the characters after
    its closing bracket. The first argument bounds the number of elements. -/
def readSetFrom (flags : Flags) : Nat → OpenSet → List Char → Option (CharSet × Nat × List Char)
  | 0, _, _ => none
  | fuel + 1, s, cs =>
    match flags.skip cs with
    | [] => none
    | ']' :: rest => do
      let (set, depth) := s.value flags
      let set ← flags.negateIf s.negated set
      return (set, depth + 1, rest)
    | '[' :: rest =>
      match readAsciiClass rest with
      | some (set, negated, rest) => do
        let set ← flags.negateIf negated (flags.fold set)
        readSetFrom flags fuel (s.add set 0) rest
      | none => do
        let (inner, rest) ← OpenSet.opening flags rest
        let (set, depth, rest) ← readSetFrom flags fuel inner rest
        readSetFrom flags fuel (s.add set depth) rest
    | '&' :: '&' :: rest => readSetFrom flags fuel (s.operator flags .inter) rest
    | '-' :: '-' :: rest => readSetFrom flags fuel (s.operator flags .diff) rest
    | '~' :: '~' :: rest => readSetFrom flags fuel (s.operator flags .symmDiff) rest
    | cs => do
      let (set, rest) ← readRange flags cs
      readSetFrom flags fuel (s.add set 0) rest

/-- A set whose opening bracket has been read. -/
def readSet (flags : Flags) (cs : List Char) : Option (CharSet × Nat × List Char) := do
  let (s, rest) ← OpenSet.opening flags cs
  readSetFrom flags (cs.length + 1) s rest

end ScriptKeeper.Pattern
