import ScriptKeeper.Pattern.Expr

/-!
# Programs

A pattern expression is compiled to a program: a list of instructions, each of which names
those that may come next. `Expr.code` lays the code of an expression out from a base address
on, and makes it continue at a given address; it takes `Expr.size` instructions and is entered
at its base.

A repeated body that may match the empty text is entered once before it is asked whether to
repeat: what comes first has to be preferred also when a repetition takes no characters.
-/

namespace ScriptKeeper.Pattern

open Unicode (CharSet)

/-- An instruction. Addresses are positions in the program. -/
inductive Instr
  /-- Takes one character of the set. -/
  | consume (set : CharSet) (next : Nat)
  /-- Goes on where the assertion holds. -/
  | check (assertion : Look) (next : Nat)
  /-- Marks the present place in a slot. -/
  | save (slot : Nat) (next : Nat)
  | jump (next : Nat)
  /-- Goes on at either address; the first is preferred. -/
  | fork (preferred other : Nat)
  | accept
  deriving DecidableEq, Repr, Inhabited

/-- A choice between repeating at `body` and leaving to `exit`. -/
def Instr.choice (greedy : Bool) (body exit : Nat) : Instr :=
  if greedy then .fork body exit else .fork exit body

namespace Expr

/-- How many instructions the code of an expression takes. -/
def size : Expr → Nat
  | empty => 1
  | one _ => 1
  | look _ => 1
  | seq a b => a.size + b.size
  | alt a b => a.size + b.size + 1
  | group _ _ body => body.size + 2
  | iterate body least none _ =>
    if least = 0 then if body.consumes then body.size + 1 else body.size + 2
    else least * body.size + 1
  | iterate body least (some most) _ =>
    least * body.size + (most - least) * (body.size + 1) + 1

/-- The code of an expression from the address `base` on, which continues at `next`. -/
def code : Expr → (base next : Nat) → List Instr
  | empty, _, next => [.jump next]
  | one set, _, next => [.consume set next]
  | look assertion, _, next => [.check assertion next]
  | seq a b, base, next => a.code base (base + a.size) ++ b.code (base + a.size) next
  | alt a b, base, next =>
    .fork (base + 1) (base + 1 + a.size) ::
      (a.code (base + 1) next ++ b.code (base + 1 + a.size) next)
  | group index _ body, base, next =>
    .save (2 * index) (base + 1) ::
      (body.code (base + 1) (base + 1 + body.size) ++ [.save (2 * index + 1) next])
  | iterate body least none greedy, base, next =>
    if least = 0 then
      if body.consumes then Instr.choice greedy (base + 1) next :: body.code (base + 1) base
      else
        Instr.choice greedy (base + 1) next ::
          (body.code (base + 1) (base + 1 + body.size) ++
            [Instr.choice greedy (base + 1) next])
    else
      (List.range least).flatMap
          (fun i => body.code (base + i * body.size) (base + (i + 1) * body.size)) ++
        [Instr.choice greedy (base + (least - 1) * body.size) next]
  | iterate body least (some most) greedy, base, next =>
    let optional := base + least * body.size
    let exit := optional + (most - least) * (body.size + 1)
    (List.range least).flatMap
        (fun i => body.code (base + i * body.size) (base + (i + 1) * body.size)) ++
      (List.range (most - least)).flatMap
        (fun i =>
          let start := optional + i * (body.size + 1)
          Instr.choice greedy (start + 1) exit ::
            body.code (start + 1) (start + 1 + body.size)) ++
      [.jump next]

/-- The groups of an expression with their names, in the order of their opening. -/
def groups : Expr → List (Nat × Option String)
  | empty => []
  | one _ => []
  | look _ => []
  | seq a b => a.groups ++ b.groups
  | alt a b => a.groups ++ b.groups
  | group index name body => (index, name) :: body.groups
  | iterate body _ _ _ => body.groups

/-- The names of the groups by their numbers, from the whole match on. A number that no group
    of the expression has is kept free up to the greatest. -/
def groupNames (e : Expr) : List (Option String) :=
  let greatest := (e.groups.map Prod.fst).foldl max 0
  (List.range (greatest + 1)).map fun index =>
    ((e.groups.find? fun g => g.1 == index).bind Prod.snd)

end Expr

/-- A program, which is entered at its first instruction. -/
abbrev Program := Array Instr

/-- The program of an expression: its code, and acceptance after it. -/
def Expr.program (e : Expr) : Program := (e.code 0 e.size ++ [Instr.accept]).toArray

end ScriptKeeper.Pattern
