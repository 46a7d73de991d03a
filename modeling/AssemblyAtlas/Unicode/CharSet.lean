import AssemblyAtlas.Unicode.Run

/-!
# Sets of characters

A set of characters is a list of ranges of code points. Every operation leaves the ranges in
order, without overlap, and with a gap between one and the next, so that a set is written in one
way only.
-/

namespace AssemblyAtlas.Unicode

/-- A set of code points, as ranges whose ends belong to them. -/
structure CharSet where
  ranges : List (Nat × Nat)
deriving Repr, DecidableEq

namespace CharSet

/-- The code point is in the set. -/
def contains (s : CharSet) (c : Nat) : Bool :=
  s.ranges.any fun (low, high) => low ≤ c && c ≤ high

/-- Joins ranges that overlap or touch, in a list ordered by the low ends. -/
def joinRanges : List (Nat × Nat) → List (Nat × Nat)
  | [] => []
  | r :: rest => go r rest
where
  /-- Joins ranges to the range before them. -/
  go : Nat × Nat → List (Nat × Nat) → List (Nat × Nat)
    | r, [] => [r]
    | (low, high), (low', high') :: rest =>
      if low' ≤ high + 1 then go (low, max high high') rest
      else (low, high) :: go (low', high') rest

/-- The set of the code points in some range of a list. -/
def ofRanges (ranges : List (Nat × Nat)) : CharSet :=
  ⟨joinRanges (ranges.mergeSort fun a b => a.1 ≤ b.1)⟩

/-- The set of the code points of a list. -/
def ofPoints (points : List Nat) : CharSet :=
  ofRanges (points.map fun c => (c, c))

/-- The set of the code points of runs. -/
def ofRuns (runs : List Run) : CharSet :=
  ofRanges (runs.flatMap Run.ranges)

/-- The set of the code points from `low` to `high`. -/
def range (low high : Nat) : CharSet :=
  ofRanges [(low, high)]

/-- The set of one code point. -/
def singleton (c : Nat) : CharSet :=
  ⟨[(c, c)]⟩

instance : EmptyCollection CharSet :=
  ⟨⟨[]⟩⟩

/-- The set of all characters: all code points but the surrogates. -/
def all : CharSet :=
  ⟨[(0, 0xD7FF), (0xE000, 0x10FFFF)]⟩

/-- The set of all bytes. -/
def bytes : CharSet :=
  ⟨[(0, 0xFF)]⟩

instance : Union CharSet :=
  ⟨fun a b => ofRanges (a.ranges ++ b.ranges)⟩

/-- What two ranges have in common. -/
def overlap? (a b : Nat × Nat) : Option (Nat × Nat) :=
  let low := max a.1 b.1
  let high := min a.2 b.2
  if low ≤ high then some (low, high) else none

instance : Inter CharSet :=
  ⟨fun a b => ⟨a.ranges.flatMap fun r => b.ranges.filterMap (overlap? r)⟩⟩

/-- The stretches from `low` to `high` that ranges leave free. -/
def gaps (low high : Nat) : List (Nat × Nat) → List (Nat × Nat)
  | [] => if low ≤ high then [(low, high)] else []
  | r :: rest =>
    if low < r.1 then (low, r.1 - 1) :: gaps (r.2 + 1) high rest else gaps (r.2 + 1) high rest

/-- The characters of an alphabet that are not in the set. -/
def complementIn (alphabet s : CharSet) : CharSet :=
  alphabet ∩ ⟨gaps 0 0x10FFFF s.ranges⟩

instance : SDiff CharSet :=
  ⟨fun a b => complementIn a b⟩

/-- The characters of one set and not the other. -/
def symmetricDifference (a b : CharSet) : CharSet :=
  (a \ b) ∪ (b \ a)

/-- All characters of the set are below 128. -/
def isAscii (s : CharSet) : Bool :=
  s.ranges.all fun (_, high) => high < 128

/-- The character of a set of one. -/
def single? (s : CharSet) : Option Nat :=
  match s.ranges with
  | [(low, high)] => if low = high then some low else none
  | _ => none

end CharSet

end AssemblyAtlas.Unicode
