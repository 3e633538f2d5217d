import ScriptKeeper.Pattern.Notation

/-!
# Reading patterns

The notation of patterns as a whole: alternatives, groups, flags and repetitions, around the
characters and sets of `ScriptKeeper.Pattern.Notation`. Reading a pattern gives the
expression that it stands for, or `none` if it is malformed.

Flags hold from where they are set to the end of the group around them, across alternatives.
The notation may be nested up to `maxDepth` levels deep: groups, repetitions, bracketed sets,
alternatives, and sequences of more than one member are a level each.
-/

namespace ScriptKeeper.Pattern

/-- How deeply the notation of a pattern may be nested. -/
def maxDepth : Nat := 250

/-- The greatest number of a counted repetition. -/
def maxCount : Nat := 4294967295

/-- What is left of a pattern, and the groups opened so far. -/
structure Cursor where
  rest : List Char
  groups : Nat := 0
  names : List String := []

/-- A member of a sequence, with the depth of its notation. Flags are members too, which
    cannot be repeated. -/
structure Member where
  expr : Expr
  depth : Nat
  repeatable : Bool := true

/-! ### Repetitions -/

/-- A repetition of the last of the members, which come in reverse order. -/
def repeatLast (flags : Flags) (least : Nat) (most : Option Nat) (greedy : Bool) :
    List Member → Option (List Member)
  | [] => none
  | m :: others =>
    if m.repeatable then
      some (⟨m.expr.repeated least most (greedy != flags.swapGreed), m.depth + 1, true⟩ :: others)
    else none

/-- Whether a question mark makes the repetition before it reluctant; the characters after
    it. -/
def readGreed : List Char → Bool × List Char
  | '?' :: rest => (false, rest)
  | rest => (true, rest)

/-- A decimal number with blanks around it. -/
def readCount (flags : Flags) (cs : List Char) : Option (Nat × List Char) :=
  let start := cs.dropWhile Unicode.isBlank
  let (digits, rest) := flags.collect Char.isDigit cs.length start
  let rest := (flags.collect Unicode.isBlank cs.length rest).2
  let n := digits.foldl (fun n d => 10 * n + (d.toNat - '0'.toNat)) 0
  if digits.isEmpty || n > maxCount then none else some (n, rest)

/-- The bounds of a counted repetition, and the characters after its closing brace. -/
def readBounds (flags : Flags) (cs : List Char) : Option (Nat × Option Nat × List Char) := do
  let (least, rest) ← readCount flags (flags.skip cs)
  let (most, rest) ← match rest with
    | ',' :: rest =>
      match flags.skip rest with
      | [] => none
      | '\x7d' :: rest => some (none, '\x7d' :: rest)
      | rest => (readCount flags rest).map fun (n, rest) => (some n, rest)
    | rest => some (some least, rest)
  match rest with
  | '\x7d' :: rest =>
    if most.any (· < least) then none else return (least, most, flags.skip rest)
  | _ => none

/-! ### Groups -/

/-- What an opening parenthesis begins. -/
inductive Opening
  /-- A group that remembers what it matches. -/
  | group (name : Option String)
  /-- A group under the given flags. -/
  | plain (flags : Flags)
  /-- No group: the flags change. -/
  | flags (flags : Flags)

/-- Whether a character may stand in the name of a group. -/
def isNameChar (first : Bool) (c : Char) : Bool :=
  c = '_' || Unicode.isAlphabetic c ||
    (!first && (c = '.' || c = '[' || c = ']' || Unicode.isNumeric c))

/-- The name of a group, up to its closing angle bracket. -/
def readName (cs : List Char) : Option (String × List Char) :=
  let name := cs.takeWhile (· != '>')
  match name, cs.dropWhile (· != '>') with
  | c :: others, '>' :: rest =>
    if isNameChar true c && others.all (isNameChar false) then
      some (String.ofList name, rest)
    else none
  | _, _ => none

/-- The flags with the one of the given letter switched. -/
def Flags.set? (flags : Flags) (letter : Char) (on : Bool) : Option Flags :=
  match letter with
  | 'i' => some { flags with caseInsensitive := on }
  | 'm' => some { flags with multiLine := on }
  | 's' => some { flags with dotMatchesNewline := on }
  | 'U' => some { flags with swapGreed := on }
  | 'u' => some { flags with unicode := on }
  | 'R' => some { flags with returnEndsLines := on }
  | 'x' => some { flags with ignoreBlanks := on }
  | _ => none

/-- The letters of flags up to a colon or a closing parenthesis: the flags with the changes,
    and the characters from there on. No letter and no hyphen may come twice, and a letter
    has to follow the hyphen. -/
def readFlags : Flags → List Char → List Char → Option (Flags × List Char)
  | _, _, [] => none
  | flags, seen, c :: rest =>
    if c = ':' ∨ c = ')' then
      if seen.head? = some '-' then none else some (flags, c :: rest)
    else if seen.contains c then none
    else if c = '-' then readFlags flags (c :: seen) rest
    else do readFlags (← flags.set? c (!seen.contains '-')) (c :: seen) rest

/-- What follows an opening parenthesis. Looking ahead or behind is not supported. -/
def readOpening (flags : Flags) (cs : List Char) : Option (Opening × List Char) :=
  match flags.skip cs with
  | '?' :: '=' :: _ => none
  | '?' :: '!' :: _ => none
  | '?' :: '<' :: '=' :: _ => none
  | '?' :: '<' :: '!' :: _ => none
  | '?' :: 'P' :: '<' :: rest => (readName rest).map fun (name, rest) => (.group name, rest)
  | '?' :: '<' :: rest => (readName rest).map fun (name, rest) => (.group name, rest)
  | '?' :: rest => do
    match ← readFlags flags [] rest with
    | (inner, ':' :: after) => return (.plain inner, after)
    | (inner, ')' :: after) =>
      if rest.head? = some ')' then none else return (.flags inner, after)
    | _ => none
  | rest => some (.group none, rest)

/-! ### Expressions -/

/-- The expression of a literal character. -/
def Flags.literal? (flags : Flags) (c : Char) (fixedByte : Bool) : Option Expr :=
  if !flags.unicode && fixedByte && c.toNat ≥ 0x80 then none
  else some (.one (flags.fold (Unicode.CharSet.singleton c)))

/-- The expression of one element. -/
def Flags.atom? (flags : Flags) : Atom → Option Expr
  | .char c fixedByte => flags.literal? c fixedByte
  | .set s => some (.one s)
  | .look assertion => some (.look assertion)

/-- What a dot stands for. Without Unicode it would match bytes that are no characters. -/
def Flags.dot? (flags : Flags) : Option Expr :=
  if !flags.unicode then none
  else if flags.dotMatchesNewline then some (.one Unicode.CharSet.full)
  else if flags.returnEndsLines then
    some (.one (Unicode.CharSet.ofRanges [(0xA, 0xA), (0xD, 0xD)]).complement)
  else some (.one (Unicode.CharSet.ofRanges [(0xA, 0xA)]).complement)

/-- What a circumflex stands for. -/
def Flags.lineStart (flags : Flags) : Look :=
  if !flags.multiLine then .textStart
  else if flags.returnEndsLines then .anyLineStart
  else .lineStart

/-- What a dollar sign stands for. -/
def Flags.lineEnd (flags : Flags) : Look :=
  if !flags.multiLine then .textEnd
  else if flags.returnEndsLines then .anyLineEnd
  else .lineEnd

/-- The sequence of the members, which come in reverse order, with its depth. -/
def closeBranch (members : List Member) : Expr × Nat :=
  let deepest := (members.map Member.depth).foldl max 0
  (.concat (members.reverse.map Member.expr),
    if members.length < 2 then deepest else deepest + 1)

/-- The choice between the branches, which come in reverse order, with its depth. -/
def closeBranches : List (Expr × Nat) → Expr × Nat
  | [branch] => branch
  | branches =>
    (.alternate (branches.reverse.map Prod.fst), (branches.map Prod.snd).foldl max 0 + 1)

/-- Reads up to a closing parenthesis that opens nowhere, or to the end. The branches before
    the present one and its members so far come in reverse order. The first argument bounds
    the number of elements. -/
def readBranches : Nat → Flags → List (Expr × Nat) → List Member → Cursor →
    Option ((Expr × Nat) × Cursor)
  | 0, _, _, _, _ => none
  | fuel + 1, flags, done, members, cursor =>
    let add (m : Member) (rest : List Char) : Option ((Expr × Nat) × Cursor) :=
      readBranches fuel flags done (m :: members) { cursor with rest }
    let repeatTo (least : Nat) (most : Option Nat) (rest : List Char) :
        Option ((Expr × Nat) × Cursor) := do
      let (greedy, rest) := readGreed rest
      readBranches fuel flags done (← repeatLast flags least most greedy members)
        { cursor with rest }
    match flags.skip cursor.rest with
    | [] => some (closeBranches (closeBranch members :: done), { cursor with rest := [] })
    | ')' :: rest =>
      some (closeBranches (closeBranch members :: done), { cursor with rest := ')' :: rest })
    | '|' :: rest =>
      readBranches fuel flags (closeBranch members :: done) [] { cursor with rest }
    | '(' :: rest => do
      match ← readOpening flags rest with
      | (.flags flags, rest) =>
        readBranches fuel flags done (⟨.empty, 0, false⟩ :: members) { cursor with rest }
      | (.plain inner, rest) =>
        match ← readBranches fuel inner [] [] { cursor with rest } with
        | ((body, depth), cursor) =>
          match cursor.rest with
          | ')' :: rest =>
            readBranches fuel flags done (⟨body, depth + 1, true⟩ :: members) { cursor with rest }
          | _ => none
      | (.group name, rest) =>
        if name.any cursor.names.contains then none
        else
          let index := cursor.groups + 1
          let names := name.toList ++ cursor.names
          match ← readBranches fuel flags [] [] { rest, groups := index, names } with
          | ((body, depth), cursor) =>
            match cursor.rest with
            | ')' :: rest =>
              readBranches fuel flags done (⟨.group index name body, depth + 1, true⟩ :: members)
                { cursor with rest }
            | _ => none
    | '?' :: rest => repeatTo 0 (some 1) rest
    | '*' :: rest => repeatTo 0 none rest
    | '+' :: rest => repeatTo 1 none rest
    | '\x7b' :: rest => do
      let (least, most, rest) ← readBounds flags rest
      repeatTo least most rest
    | '[' :: rest => do
      let (set, depth, rest) ← readSet flags rest
      add ⟨.one set, depth, true⟩ rest
    | '.' :: rest => do add ⟨← flags.dot?, 0, true⟩ rest
    | '^' :: rest => add ⟨.look flags.lineStart, 0, true⟩ rest
    | '$' :: rest => add ⟨.look flags.lineEnd, 0, true⟩ rest
    | '\\' :: rest => do
      let (atom, rest) ← readEscape flags rest
      add ⟨← flags.atom? atom, 0, true⟩ rest
    | c :: rest => do add ⟨← flags.literal? c false, 0, true⟩ rest

/-- The expression that the pattern stands for under the given flags. -/
def read? (flags : Flags) (pattern : String) : Option Expr := do
  let cs := pattern.toList
  let ((expr, depth), cursor) ← readBranches (cs.length + 1) flags [] [] { rest := cs }
  if cursor.rest.isEmpty && depth ≤ maxDepth then some expr else none

end ScriptKeeper.Pattern
