import ScriptKeeper.Command.Line
import ScriptKeeper.Command.LogFormat
import ScriptKeeper.Settings.Stock

/-!
# Arguments

What the program is asked to do, as its command line says it: settings of the program as a whole,
which environment variables can give too, and a command with its own options and operands.
-/

namespace ScriptKeeper

open CommandLine

/-- A command. -/
inductive Command
  /-- Write the stock settings. -/
  | init
  /-- Check the scripts of the given folders, or of the configured ones if none is given. -/
  | scan (folders : List String)
  /-- Try a pattern on a text. -/
  | testRegex (pattern text : String) (ignoreCase multiLine : Bool)
  /-- List the templates. -/
  | templates
  /-- Create a template. -/
  | newTemplate (path : String)
  /-- Create a script from a template. -/
  | newScript (name template folder : String)
  deriving DecidableEq, Repr

/-- A command with the settings of the program as a whole. -/
structure Invocation where
  settingsFile : String
  logFilter : String
  logFormat : LogFormat
  command : Command
  deriving DecidableEq, Repr

/-- The values of environment variables. -/
abbrev Environment := String → Option String

namespace Command

/-- Any word will do. -/
def anyWord (_ : String) : Bool := true

/-- A path has at least one character. -/
def isPath (word : String) : Bool := !word.isEmpty

/-- Whether a word names a log format. -/
def isLogFormat (word : String) : Bool := (LogFormat.ofText? word).isSome

/-- The option that asks for help. -/
def helpOption : OptionRule := { name := "help", letter := some 'h', kind := .help }

/-- The names of the commands. -/
def names : List String :=
  ["init", "scan", "test-regex", "templates", "new-template", "new-script"]

/-- The command line of the program as a whole. -/
def programGrammar : Grammar where
  options := [
    { name := "settings", kind := .setting isPath },
    { name := "log-filter", kind := .setting anyWord },
    { name := "log-format", kind := .setting isLogFormat },
    helpOption,
    { name := "version", letter := some 'V', kind := .version }]
  subcommands := names

/-- The command lines of the commands that have no options of their own. -/
def plainGrammar : Grammar where
  options := [helpOption]

/-- The command line of `scan`. -/
def scanGrammar : Grammar where
  options := [helpOption]
  manyOperands := true

/-- The command line of `test-regex`. -/
def testRegexGrammar : Grammar where
  options := [
    { name := "ignore-case", kind := .switch },
    { name := "multi-line", kind := .switch },
    helpOption]
  operands := [anyWord, anyWord]

/-- The command line of `new-template`. -/
def newTemplateGrammar : Grammar where
  options := [helpOption]
  operands := [isPath]

/-- The command line of `new-script`. -/
def newScriptGrammar : Grammar where
  options := [
    { name := "template", kind := .setting anyWord },
    { name := "folder", kind := .setting isPath },
    helpOption]
  operands := [anyWord]

/-- The options and operands of a command, all of which are settled. -/
def readAll (grammar : Grammar) (words : List String) : Except Halt Reading := do
  (← grammar.read words).settle

/-- The command of the given name, with the words after it. -/
def ofWords (name : String) (words : List String) : Except Halt Command :=
  match name with
  | "init" => do
    let _ ← readAll plainGrammar words
    return init
  | "scan" => return scan (← readAll scanGrammar words).operands
  | "test-regex" => do
    let r ← readAll testRegexGrammar words
    match r.operands with
    | [pattern, text] => return testRegex pattern text (r.has "ignore-case") (r.has "multi-line")
    | _ => throw .misuse
  | "templates" => do
    let _ ← readAll plainGrammar words
    return templates
  | "new-template" => do
    match (← readAll newTemplateGrammar words).operands with
    | [path] => return newTemplate path
    | _ => throw .misuse
  | "new-script" => do
    let r ← readAll newScriptGrammar words
    match r.operands, r.value? "template" with
    | [name], some template => return newScript name template ((r.value? "folder").getD ".")
    | _, _ => throw .misuse
  | _ => throw .misuse

end Command

namespace Invocation

/-- The environment variable of the file of settings. -/
def settingsVariable : String := "CODEMANAGER_SETTINGS"

/-- The environment variable of what is logged. -/
def logFilterVariable : String := "CODEMANAGER_LOG_FILTER"

/-- The environment variable of the form of the log. -/
def logFormatVariable : String := "CODEMANAGER_LOG_FORMAT"

/-- The environment variables that are looked at. -/
def environmentNames : List String := [settingsVariable, logFilterVariable, logFormatVariable]

/-- The value of a setting of the program: as given by the option, or else by the environment
    variable, which is judged like the option, or else the usual one. -/
def setting (environment : Environment) (r : Reading) (option variable_ : String)
    (accepts : String → Bool) (usual : String) : Except Halt String :=
  match r.value? option, environment variable_ with
  | some value, _ => .ok value
  | none, some value => if accepts value then .ok value else .error .misuse
  | none, none => .ok usual

/-- What the words of a command line ask for. -/
def ofArguments (environment : Environment) (words : List String) : Except Halt Invocation := do
  let r ← Command.programGrammar.read words
  match r.subcommand with
  | none => throw .misuse
  | some (name, rest) =>
    let command ← Command.ofWords name rest
    let r ← r.settle
    let settingsFile ←
      setting environment r "settings" settingsVariable Command.isPath Stock.settingsFile
    let logFilter ←
      setting environment r "log-filter" logFilterVariable Command.anyWord Stock.logFilter
    let logFormat ←
      setting environment r "log-format" logFormatVariable Command.isLogFormat
        LogFormat.stock.text
    let logFormat := (LogFormat.ofText? logFormat).getD LogFormat.stock
    return { settingsFile, logFilter, logFormat, command }

end Invocation

end ScriptKeeper
