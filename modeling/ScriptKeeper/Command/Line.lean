/-!
# Command lines

A command line is a list of words. A word that begins with two dashes names an option, one that
begins with a single dash holds the letters of options, and every other word is an operand or the
name of a subcommand, which has a command line of its own behind it. After the word of two dashes
alone all words are operands.

A *grammar* says which options and operands there are; `Grammar.read` reads the words by it, up
to the subcommand. Words are read in order, and the first that asks for help, or does not fit,
decides what becomes of the whole line. An option's value in a word of its own is judged only
when the next option is met or when the line is at its end, which is after its subcommand.
-/

namespace ScriptKeeper.CommandLine

/-- Why a command line is not carried out. -/
inductive Halt
  /-- It asks for help. -/
  | help
  /-- It asks for the version. -/
  | version
  /-- It does not fit its grammar. -/
  | misuse
  deriving DecidableEq, Repr

/-- What an option does. -/
inductive OptionKind
  | help
  | version
  /-- The option is there or not. -/
  | switch
  /-- The option has a value, of which `accepts` says whether it can be used. -/
  | setting (accepts : String → Bool)

/-- An option. -/
structure OptionRule where
  name : String
  letter : Option Char := none
  kind : OptionKind

/-- What a command line may hold. -/
structure Grammar where
  options : List OptionRule
  /-- For every operand, whether a word can be used for it. -/
  operands : List (String → Bool) := []
  /-- Any number of further operands may follow. -/
  manyOperands : Bool := false
  subcommands : List String := []

/-- What has been read of a command line. -/
structure Reading where
  /-- The options that have been given, with their values; a switch has the empty value. -/
  given : List (String × String) := []
  operands : List String := []
  /-- The last option cannot be used: it has been given before, or its value is refused. -/
  faulty : Bool := false
  /-- The subcommand, with the words after it. -/
  subcommand : Option (String × List String) := none
  deriving DecidableEq, Repr

namespace Reading

/-- The value of an option that has been given. -/
def value? (r : Reading) (name : String) : Option String :=
  (r.given.find? fun x => x.1 == name).map Prod.snd

/-- Whether an option has been given. -/
def has (r : Reading) (name : String) : Bool := (r.value? name).isSome

/-- Judges the last option. -/
def settle (r : Reading) : Except Halt Reading :=
  if r.faulty then .error .misuse else .ok r

/-- Takes an option with its value. -/
def take (r : Reading) (name value : String) (accepted : Bool) : Reading :=
  { r with given := r.given ++ [(name, value)], faulty := r.has name || !accepted }

end Reading

namespace Grammar

/-- Takes an operand. -/
def takeOperand (g : Grammar) (r : Reading) (word : String) : Except Halt Reading := do
  let r ← r.settle
  let accepted :=
    match g.operands[r.operands.length]? with
    | some accepts => accepts word
    | none => g.manyOperands
  if accepted then return { r with operands := r.operands ++ [word] } else throw .misuse

/-- An option whose value is the next word. -/
abbrev Awaited := Option (String × (String → Bool))

/-- Takes an option to which no value is attached. -/
def takeOption (r : Reading) (rule : OptionRule) : Except Halt (Reading × Awaited) := do
  let r ← r.settle
  match rule.kind with
  | .help => throw .help
  | .version => throw .version
  | .switch => return (← (r.take rule.name "" true).settle, none)
  | .setting accepts => return (r, some (rule.name, accepts))

/-- Takes an option to which a value is attached. -/
def takeAttached (r : Reading) (rule : OptionRule) (value : String) :
    Except Halt (Reading × Awaited) := do
  let r ← r.settle
  match rule.kind with
  | .setting accepts => return (← (r.take rule.name value (accepts value)).settle, none)
  | _ => throw .misuse

/-- Takes the option that a word names, with the value behind an equals sign, if there is one. -/
def takeNamed (g : Grammar) (r : Reading) (body : List Char) :
    Except Halt (Reading × Awaited) :=
  let name := String.ofList (body.takeWhile (· != '='))
  match g.options.find? fun rule => rule.name == name with
  | none => .error .misuse
  | some rule =>
    match body.dropWhile (· != '=') with
    | [] => takeOption r rule
    | _ :: value => takeAttached r rule (String.ofList value)

/-- Takes the options of the letters of one word. Only an option without value has a letter. -/
def takeLetters (g : Grammar) : Reading → List Char → Except Halt Reading
  | r, [] => .ok r
  | r, letter :: rest => do
    match g.options.find? fun rule => rule.letter == some letter with
    | none => throw .misuse
    | some rule => g.takeLetters (← takeOption r rule).1 rest

/-- Whether a word can be the value of the option before it: it does not look like an option. -/
def isValue (word : String) : Bool := word == "-" || word.toList.head? != some '-'

/-- Reads the words behind an option whose value is awaited, if there is one. -/
def readFrom (g : Grammar) : Awaited → Reading → List String → Except Halt Reading
  | none, r, [] => .ok r
  | some _, _, [] => .error .misuse
  | some (name, accepts), r, word :: rest =>
    if isValue word then g.readFrom none (r.take name word (accepts word)) rest
    else .error .misuse
  | none, r, word :: rest =>
    if g.subcommands.contains word then .ok { r with subcommand := some (word, rest) }
    else
      match word.toList with
      | ['-', '-'] => rest.foldlM g.takeOperand r
      | '-' :: '-' :: body => do
        let (r, awaited) ← g.takeNamed r body
        g.readFrom awaited r rest
      | '-' :: letter :: letters => do
        g.readFrom none (← g.takeLetters r (letter :: letters)) rest
      | _ => do g.readFrom none (← g.takeOperand r word) rest

/-- Reads the words of a command line. -/
def read (g : Grammar) (words : List String) : Except Halt Reading := g.readFrom none {} words

end Grammar

end ScriptKeeper.CommandLine
