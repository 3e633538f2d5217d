import ScriptKeeper.Scan.Violation

/-!
# Reports

A report collects the violations of scans in the order in which they are found, counts them by
kind and renders them line by line.
-/

namespace ScriptKeeper.Scan

/-- The violations that have been collected, in order. -/
structure Report where
  violations : List Violation := []
  deriving DecidableEq, Repr

namespace Report

/-- Adds violations behind the others. -/
def collect (r : Report) (violations : List Violation) : Report :=
  ⟨r.violations ++ violations⟩

/-- Drops all violations. -/
def clear (_ : Report) : Report := {}

/-- How many violations there are. -/
def size (r : Report) : Nat := r.violations.length

/-- Whether there is no violation. -/
def isEmpty (r : Report) : Bool := r.violations.isEmpty

/-- The violations of one kind. -/
def ofKind (r : Report) (kind : ViolationKind) : List Violation :=
  r.violations.filter fun v => v.kind == kind

/-- How many violations there are of each kind that has any, in the order of the kinds. -/
def counts (r : Report) : List (ViolationKind × Nat) :=
  ViolationKind.all.filterMap fun kind =>
    let n := (r.ofKind kind).length
    if n = 0 then none else some (kind, n)

/-- The lines of the report, one for each violation. -/
def render (r : Report) : List String := r.violations.map Violation.text

end Report

end ScriptKeeper.Scan
