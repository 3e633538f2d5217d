import ScriptKeeper.Unicode.Age
import ScriptKeeper.Unicode.Break
import ScriptKeeper.Unicode.CaseFold
import ScriptKeeper.Unicode.Category
import ScriptKeeper.Unicode.Class
import ScriptKeeper.Unicode.Property
import ScriptKeeper.Unicode.Script

/-!
# Looking up sets of characters by name

A set is named either by one word, which is a binary property, a general category or a
script, in this order (`setOfName?`), or by a property and one of its values
(`setOfValue?`). Names are compared in their loose form.
-/

namespace ScriptKeeper.Unicode

/-- The characters in any of the categories with the given loose names. -/
def unionOfCategories (names : List String) : CharSet :=
  (names.filterMap (lookup? categories)).foldl CharSet.union CharSet.empty

/-- The characters that some category lists. -/
def assigned : CharSet :=
  (categories.map NamedSet.set).foldl CharSet.union CharSet.empty

/-- The general category of the given loose name, or one of the groups that categories
    form. -/
def category? (name : String) : Option CharSet :=
  if name = "any" then some CharSet.full
  else if name = "assigned" then some assigned
  else if name = "ascii" then some ⟨[(0, 0x7F)]⟩
  else if ["unassigned", "cn"].contains name then some assigned.complement
  else if ["letter", "l"].contains name then
    some (unionOfCategories ["lu", "ll", "lt", "lm", "lo"])
  else if ["casedletter", "lc"].contains name then some (unionOfCategories ["lu", "ll", "lt"])
  else if ["mark", "m", "combiningmark"].contains name then
    some (unionOfCategories ["mn", "mc", "me"])
  else if ["number", "n"].contains name then some (unionOfCategories ["nd", "nl", "no"])
  else if ["punctuation", "p", "punct"].contains name then
    some (unionOfCategories ["pc", "pd", "ps", "pe", "pi", "pf", "po"])
  else if ["symbol", "s"].contains name then some (unionOfCategories ["sm", "sc", "sk", "so"])
  else if ["separator", "z"].contains name then some (unionOfCategories ["zs", "zl", "zp"])
  else if ["other", "c"].contains name then
    some ((unionOfCategories ["cc", "cf", "co"]).union assigned.complement)
  else lookup? categories name

/-- The characters assigned in the version of the given loose name or in an earlier one. -/
def assignedBy? (name : String) : Option CharSet :=
  if ages.any fun age => age.names.contains name then
    let earlier := ages.takeWhile fun age => !age.names.contains name
    let own := ages.filter fun age => age.names.contains name
    some (((earlier ++ own).map NamedSet.set).foldl CharSet.union CharSet.empty)
  else none

/-- The set that one word names. The short names "cf", "lc" and "sc" are those of
    categories, although properties have them too. -/
def setOfName? (name : String) : Option CharSet :=
  let loose := looseName name
  let property :=
    if ["cf", "lc", "sc"].contains loose then none else lookup? properties loose
  property <|> category? loose <|> lookup? scripts loose

/-- The set of characters that have the given value of the given property. -/
def setOfValue? (property value : String) : Option CharSet :=
  let value := looseName value
  match looseName property with
  | "generalcategory" | "gc" => category? value
  | "script" | "sc" => lookup? scripts value
  | "scriptextensions" | "scx" => lookup? scriptExtensions value <|> lookup? scripts value
  | "age" => assignedBy? value
  | "graphemeclusterbreak" | "gcb" => lookup? graphemeBreaks value
  | "wordbreak" | "wb" => lookup? wordBreaks value
  | "sentencebreak" | "sb" => lookup? sentenceBreaks value
  | _ => none

end ScriptKeeper.Unicode
