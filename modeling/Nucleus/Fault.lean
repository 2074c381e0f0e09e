/-! What stops a run for good: a failed check is not an error value, and nothing runs after it. -/
namespace Nucleus

inductive Fault where
  /-- A word or byte range that does not lie inside its window. -/
  | access
  /-- An index past the end of a table or of a bit array. -/
  | index
  /-- A computed number outside the range of a machine word. -/
  | range
deriving DecidableEq, Repr

end Nucleus
