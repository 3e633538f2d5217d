import ScriptKeeper.Json.Value
import ScriptKeeper.Settings.Basic

/-!
# Settings as documents

The settings are stored as one JSON object, whose members come in the order of the fields.
Reading (`Settings.ofJson?`) is more liberal than writing (`Settings.toJson`):

* members of unknown names are passed over, but a known name may come only once;
* a member that is missing has the stock value at the top level; further down, a number of a
  rule that is missing is zero, an index none, a flag false and a list of rules empty;
* a record may also be written as the array of its fields. At the end of such an array only
  those fields may be missing that have a value of their own for that case: at the top level
  all, further down flags and lists.
-/

namespace ScriptKeeper

/-- The greatest index of a pattern. -/
def maxIndex : Nat := 18446744073709551615

/-- What a document has for a field of a record. -/
inductive RecordField
  | given (value : Json)
  /-- An object without such a member. -/
  | absent
  /-- An array that ends before the field. -/
  | cutOff

namespace RecordField

/-- The field of the given name in an object; a name must not come twice. -/
def ofMembers (members : List (String × Json)) (name : String) : Option RecordField :=
  match members.filter fun m => m.1 == name with
  | [] => some .absent
  | [m] => some (.given m.2)
  | _ => none

/-- The fields of the given names, in order, of a record. -/
def all? (names : List String) : Json → Option (List RecordField)
  | .object members => names.mapM (ofMembers members)
  | .array items =>
    if items.length ≤ names.length then
      some (items.map .given ++ List.replicate (names.length - items.length) .cutOff)
    else none
  | _ => none

/-- A field that has to be given. -/
def required {α : Type} (read : Json → Option α) : RecordField → Option α
  | given j => read j
  | _ => none

/-- A field that has a value of its own if it is missing. -/
def defaulting {α : Type} (value : α) (read : Json → Option α) : RecordField → Option α
  | given j => read j
  | _ => some value

/-- A field that can be null; in an object it may be missing too. -/
def nullable {α : Type} (read : Json → Option α) : RecordField → Option (Option α)
  | given .null => some none
  | given j => (read j).map some
  | absent => some none
  | cutOff => none

end RecordField

namespace Json

/-- The text of a string. -/
def text? : Json → Option String
  | string s => some s
  | _ => none

/-- The value of a flag. -/
def flag? : Json → Option Bool
  | bool b => some b
  | _ => none

/-- A natural number up to a bound. -/
def natural? (bound : Nat) : Json → Option Nat
  | natural n => if n ≤ bound then some n else none
  | _ => none

/-- The items of an array, each of which has to be readable. -/
def list? {α : Type} (read : Json → Option α) : Json → Option (List α)
  | array items => items.mapM read
  | _ => none

/-- A number, or null for none. -/
def ofIndex : Option Nat → Json
  | some n => natural n
  | none => null

end Json

open RecordField Json

/-- Reads the number of a rule. -/
def RuleId.ofJson? : Json → Option RuleId := natural? maxRuleId

namespace ScriptFolder

/-- The document of a script folder. -/
def toJson (f : ScriptFolder) : Json := .object [
  ("name", .string f.name),
  ("path", .string f.path),
  ("include_subdirectories", .bool f.includeSubdirectories),
  ("rules", .array (f.rules.map .natural))]

/-- What a document says of a script folder. -/
def ofJson? (j : Json) : Option ScriptFolder := do
  match ← all? ["name", "path", "include_subdirectories", "rules"] j with
  | [name, path, descend, rules] =>
    return {
      name := ← required text? name
      path := ← required text? path
      includeSubdirectories := ← defaulting false flag? descend
      rules := ← defaulting [] (list? RuleId.ofJson?) rules }
  | _ => none

end ScriptFolder

namespace Placeholder

/-- The document of a placeholder. -/
def toJson (p : Placeholder) : Json :=
  .object [("name", .string p.name), ("value", .string p.value)]

/-- What a document says of a placeholder. -/
def ofJson? (j : Json) : Option Placeholder := do
  match ← all? ["name", "value"] j with
  | [name, value] => return ⟨← required text? name, ← required text? value⟩
  | _ => none

end Placeholder

namespace NamedPattern

/-- The document of a named pattern. -/
def toJson (p : NamedPattern) : Json :=
  .object [("name", .string p.name), ("regex", .string p.regex)]

/-- What a document says of a named pattern. -/
def ofJson? (j : Json) : Option NamedPattern := do
  match ← all? ["name", "regex"] j with
  | [name, regex] => return ⟨← required text? name, ← required text? regex⟩
  | _ => none

end NamedPattern

namespace UnwantedCode

/-- The document of a rule against unwanted code. -/
def toJson (r : UnwantedCode) : Json := .object [
  ("id", .natural r.id),
  ("name", .string r.name),
  ("regex_index", ofIndex r.regexIndex),
  ("description", .string r.description)]

/-- What a document says of a rule against unwanted code. -/
def ofJson? (j : Json) : Option UnwantedCode := do
  match ← all? ["id", "name", "regex_index", "description"] j with
  | [id, name, index, description] =>
    return {
      id := ← defaulting 0 RuleId.ofJson? id
      name := ← required text? name
      regexIndex := ← nullable (natural? maxIndex) index
      description := ← required text? description }
  | _ => none

end UnwantedCode

namespace CodeGuideline

/-- The document of a guideline. -/
def toJson (r : CodeGuideline) : Json := .object [
  ("id", .natural r.id),
  ("name", .string r.name),
  ("search_regex_index", ofIndex r.searchRegexIndex),
  ("group_name", .string r.groupName),
  ("match_regex_index", ofIndex r.matchRegexIndex),
  ("description", .string r.description)]

/-- What a document says of a guideline. -/
def ofJson? (j : Json) : Option CodeGuideline := do
  match ← all? ["id", "name", "search_regex_index", "group_name", "match_regex_index",
    "description"] j with
  | [id, name, search, group, matched, description] =>
    return {
      id := ← defaulting 0 RuleId.ofJson? id
      name := ← required text? name
      searchRegexIndex := ← nullable (natural? maxIndex) search
      groupName := ← required text? group
      matchRegexIndex := ← nullable (natural? maxIndex) matched
      description := ← required text? description }
  | _ => none

end CodeGuideline

namespace CodeDocumentation

/-- The document of a rule for documentation. -/
def toJson (r : CodeDocumentation) : Json := .object [
  ("id", .natural r.id),
  ("name", .string r.name),
  ("regex_index", ofIndex r.regexIndex),
  ("description", .string r.description)]

/-- What a document says of a rule for documentation. -/
def ofJson? (j : Json) : Option CodeDocumentation := do
  match ← all? ["id", "name", "regex_index", "description"] j with
  | [id, name, index, description] =>
    return {
      id := ← defaulting 0 RuleId.ofJson? id
      name := ← required text? name
      regexIndex := ← nullable (natural? maxIndex) index
      description := ← required text? description }
  | _ => none

end CodeDocumentation

namespace Settings

/-- The names of the fields of the settings. -/
def fieldNames : List String := ["template_folder", "script_folders", "placeholders", "regexes",
  "documentation_regex", "unwanted_code", "code_guidelines", "code_documentation"]

/-- The settings as a document. -/
def toJson (s : Settings) : Json := .object [
  ("template_folder", .string s.templateFolder),
  ("script_folders", .array (s.scriptFolders.map ScriptFolder.toJson)),
  ("placeholders", .array (s.placeholders.map Placeholder.toJson)),
  ("regexes", .array (s.regexes.map NamedPattern.toJson)),
  ("documentation_regex", .string s.documentationRegex),
  ("unwanted_code", .array (s.unwantedCode.map UnwantedCode.toJson)),
  ("code_guidelines", .array (s.codeGuidelines.map CodeGuideline.toJson)),
  ("code_documentation", .array (s.codeDocumentation.map CodeDocumentation.toJson))]

/-- The settings that a document holds. -/
def ofJson? (j : Json) : Option Settings := do
  match ← all? fieldNames j with
  | [templates, folders, placeholders, regexes, documentation, unwanted, guidelines,
      documented] =>
    return {
      templateFolder := ← defaulting stock.templateFolder text? templates
      scriptFolders := ← defaulting stock.scriptFolders (list? ScriptFolder.ofJson?) folders
      placeholders := ← defaulting stock.placeholders (list? Placeholder.ofJson?) placeholders
      regexes := ← defaulting stock.regexes (list? NamedPattern.ofJson?) regexes
      documentationRegex := ← defaulting stock.documentationRegex text? documentation
      unwantedCode := ← defaulting stock.unwantedCode (list? UnwantedCode.ofJson?) unwanted
      codeGuidelines :=
        ← defaulting stock.codeGuidelines (list? CodeGuideline.ofJson?) guidelines
      codeDocumentation :=
        ← defaulting stock.codeDocumentation (list? CodeDocumentation.ofJson?) documented }
  | _ => none

end Settings

end ScriptKeeper
