/-!
# JSON values

A JSON document as it was read: members in the order of the text, repeated names included. Of
numbers only the natural ones that are written without sign, fraction and exponent have a
value here; every other number is kept as it was written. A string whose escapes hold half of
a pair of surrogates denotes no text, and neither does an object with such a name
(`Json.illFormed`).
-/

namespace ScriptKeeper

/-- A JSON value. -/
inductive Json
  | null
  | bool (value : Bool)
  | natural (value : Nat)
  /-- A number that is not written as a natural one. -/
  | number (lexeme : String)
  | string (value : String)
  /-- A string that denotes no text, or an object with a name that denotes none. -/
  | illFormed
  | array (items : List Json)
  | object (members : List (String × Json))
  deriving Repr, Inhabited

namespace Json

/-- The members of an object. -/
def members? : Json → Option (List (String × Json))
  | object ms => some ms
  | _ => none

/-- The first value of the given name in an object. -/
def get? (j : Json) (name : String) : Option Json :=
  j.members?.bind fun ms => (ms.find? fun m => m.1 == name).map Prod.snd

end Json

end ScriptKeeper
