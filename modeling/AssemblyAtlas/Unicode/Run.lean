/-!
# Runs of code points

The tables of character properties are lists of runs: stretches of code points, or every second
code point of a stretch, as where upper and lower case alternate.
-/

namespace AssemblyAtlas.Unicode

/-- The code points from `first` to `last` that are a multiple of `stride` from `first`. -/
structure Run where
  first : Nat
  last : Nat
  stride : Nat
deriving Repr, DecidableEq

namespace Run

/-- The code points of a run. -/
def members (r : Run) : List Nat :=
  (List.range ((r.last - r.first) / r.stride + 1)).map fun i => r.first + i * r.stride

/-- The code points of a run as ranges. -/
def ranges (r : Run) : List (Nat × Nat) :=
  if r.stride = 1 then [(r.first, r.last)] else r.members.map fun c => (c, c)

end Run

end AssemblyAtlas.Unicode
