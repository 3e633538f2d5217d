import ScriptKeeper.Unicode.CharSet

/-!
# Pattern expressions

What a pattern means once its notation has been read: characters of a set, assertions about
the place, sequences, alternatives in order of preference, groups and repetitions.

Sequences and alternatives are built by `Expr.concat` and `Expr.alternate`, which flatten
what they are given. `alternate` also takes out what all alternatives begin with, so that
the beginning is matched once, before an alternative is chosen. Repetitions are built by
`Expr.repeated`: what takes no characters is repeated at most once.
-/

namespace ScriptKeeper.Pattern

open Unicode (CharSet)

/-- What an assertion says of the characters before and after a place. -/
inductive Look
  | textStart
  | textEnd
  | lineStart
  | lineEnd
  /-- The start of a line in a text whose lines may end with a carriage return. -/
  | anyLineStart
  /-- The end of a line in a text whose lines may end with a carriage return. -/
  | anyLineEnd
  | wordBoundary (ascii : Bool)
  | notWordBoundary (ascii : Bool)
  | wordStart (ascii : Bool)
  | wordEnd (ascii : Bool)
  /-- No character of a word comes before. -/
  | wordStartHalf (ascii : Bool)
  /-- No character of a word comes after. -/
  | wordEndHalf (ascii : Bool)
  deriving DecidableEq, Repr

/-- A pattern expression. -/
inductive Expr
  /-- Matches the empty text. -/
  | empty
  /-- Matches one character of the set. -/
  | one (set : CharSet)
  /-- Matches the empty text where the assertion holds. -/
  | look (assertion : Look)
  | seq (first second : Expr)
  /-- The first alternative is preferred. -/
  | alt (first second : Expr)
  /-- Remembers what the body matched. -/
  | group (index : Nat) (name : Option String) (body : Expr)
  /-- Repeats the body at least `least` and at most `most` times, as often as possible if
      greedy and as seldom as possible if not. -/
  | iterate (body : Expr) (least : Nat) (most : Option Nat) (greedy : Bool)
  deriving DecidableEq, Repr, Inhabited

namespace Expr

/-- The expression that matches nothing. -/
def never : Expr := one CharSet.empty

/-- Whether every match takes at least one character. -/
def consumes : Expr → Bool
  | empty => false
  | one _ => true
  | look _ => false
  | seq a b => a.consumes || b.consumes
  | alt a b => a.consumes && b.consumes
  | group _ _ body => body.consumes
  | iterate body least _ _ => least != 0 && body.consumes

/-- Whether no match takes a character. -/
def takesNothing : Expr → Bool
  | empty => true
  | one _ => false
  | look _ => true
  | seq a b => a.takesNothing && b.takesNothing
  | alt a b => a.takesNothing && b.takesNothing
  | group _ _ body => body.takesNothing
  | iterate body _ most _ => most == some 0 || (body.takesNothing && most.isSome)

/-- The members of a sequence; the empty expression is the sequence without members. -/
def factors : Expr → List Expr
  | empty => []
  | seq a b => a.factors ++ b.factors
  | e => [e]

/-- The alternatives of an expression, in order. -/
def branches : Expr → List Expr
  | alt a b => a.branches ++ b.branches
  | e => [e]

/-- The sequence of the members, which are no sequences themselves. -/
def ofFactors : List Expr → Expr
  | [] => empty
  | [e] => e
  | e :: rest => seq e (ofFactors rest)

/-- The alternative between the branches, which are no alternatives themselves. -/
def ofBranches : List Expr → Expr
  | [] => never
  | [e] => e
  | e :: rest => alt e (ofBranches rest)

/-- The expressions one after the other. -/
def concat (es : List Expr) : Expr := ofFactors (es.flatMap factors)

/-- The set of an expression that matches just the characters of one. -/
def set? : Expr → Option CharSet
  | one s => some s
  | _ => none

/-- The beginning that two lists share. -/
def sharedBeginning : List Expr → List Expr → List Expr
  | a :: as, b :: bs => if a = b then a :: sharedBeginning as bs else []
  | _, _ => []

/-- What all of the lists begin with. -/
def commonBeginning : List (List Expr) → List Expr
  | [] => []
  | first :: rest => rest.foldl sharedBeginning first

/-- A choice between expressions, in order of preference. Single characters become one set,
    and members that all branches begin with are taken out, provided that every branch has
    more than one member. The first argument bounds how often beginnings are taken out. -/
def alternateUpTo : Nat → List Expr → Expr
  | 0, es => ofBranches (es.flatMap branches)
  | fuel + 1, es =>
    let parts := es.flatMap branches
    if parts.length < 2 then ofBranches parts
    else match parts.mapM set? with
      | some sets => one (sets.foldl CharSet.union CharSet.empty)
      | none =>
        let members := parts.map factors
        let shared := commonBeginning members
        if shared.isEmpty || members.any (·.length < 2) then ofBranches parts
        else
          let remainders := members.map fun ms => ofFactors (ms.drop shared.length)
          concat (shared ++ [alternateUpTo fuel remainders])

/-- How many nodes an expression has. -/
def nodeCount : Expr → Nat
  | empty => 1
  | one _ => 1
  | look _ => 1
  | seq a b => a.nodeCount + b.nodeCount + 1
  | alt a b => a.nodeCount + b.nodeCount + 1
  | group _ _ body => body.nodeCount + 1
  | iterate body _ _ _ => body.nodeCount + 1

/-- A choice between expressions, in order of preference. -/
def alternate (es : List Expr) : Expr :=
  alternateUpTo (es.foldr (fun e n => e.nodeCount + n) 0) es

/-- A repetition. What takes no characters is repeated at most once; repeating never gives
    the empty expression, and repeating exactly once the body itself. -/
def repeated (body : Expr) (least : Nat) (most : Option Nat) (greedy : Bool) : Expr :=
  let atMostOnce := body.takesNothing
  let least := if atMostOnce then min least 1 else least
  let most := if atMostOnce then some ((most.map (min · 1)).getD 1) else most
  if least = 0 ∧ most = some 0 then empty
  else if least = 1 ∧ most = some 1 then body
  else iterate body least most greedy

/-! ### Size -/

/-- An estimate of the bytes that a set takes in a compiled pattern: the ranges beyond ASCII
    are spelt out byte by byte. -/
def setWeight (s : CharSet) : Nat :=
  s.ranges.foldr (fun r n => (if r.2 < 0x80 then 8 else 48) + n) 32

/-- An estimate of the bytes that the compiled expression takes. Bodies are copied as often
    as they have to match. -/
def weight : Expr → Nat
  | empty => 32
  | one s => setWeight s
  | look _ => 32
  | seq a b => a.weight + b.weight
  | alt a b => a.weight + b.weight + 48
  | group _ _ body => body.weight + 64
  | iterate body least most _ => body.weight * max 1 (max least (most.getD 0)) + 96

/-- Whether the expression is a plain text. -/
def isPlain : Expr → Bool
  | empty => false
  | one s => match s.ranges with
    | [(lo, hi)] => lo == hi
    | _ => false
  | seq a b => a.isPlain && b.isPlain
  | _ => false

/-- The size that is held against the limit: a plain text is looked for as it stands, without
    being compiled. -/
def compiledSize (e : Expr) : Nat := if e.isPlain then 0 else e.weight + 256

end Expr

end ScriptKeeper.Pattern
