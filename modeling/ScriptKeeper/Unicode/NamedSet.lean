import ScriptKeeper.Unicode.CharSet

/-!
# Named sets of characters

Properties of characters and their values go by several names. A name is compared in its
loose form (`looseName`): without case, blanks, hyphens and underscores, and without a
leading "is".
-/

namespace ScriptKeeper.Unicode

/-- A set of characters with its names in loose form, written as a table. -/
structure NamedSet where
  names : List String
  table : String

/-- The set itself. -/
def NamedSet.set (s : NamedSet) : CharSet := CharSet.ofTable s.table

/-- The set of the given loose name. -/
def lookup? (sets : List NamedSet) (name : String) : Option CharSet :=
  (sets.find? fun s => s.names.contains name).map NamedSet.set

/-- Whether a name begins with "is" in some case, and what follows it. -/
def withoutIs (name : List Char) : Bool × List Char :=
  match name with
  | i :: s :: rest =>
    if (i = 'i' ∨ i = 'I') ∧ (s = 's' ∨ s = 'S') then (true, rest) else (false, name)
  | _ => (false, name)

/-- The loose form of a name: lower case, without blanks, hyphens, underscores, characters
    beyond ASCII and a leading "is". The name "isc" keeps its "is", since "c" alone names a
    category. -/
def looseName (name : String) : String :=
  let (shortened, rest) := withoutIs name.toList
  let kept := rest.filterMap fun c =>
    if c = ' ' ∨ c = '_' ∨ c = '-' ∨ c.toNat ≥ 0x80 then none else some c.toLower
  if shortened ∧ kept = ['c'] then "isc" else String.ofList kept

end ScriptKeeper.Unicode
