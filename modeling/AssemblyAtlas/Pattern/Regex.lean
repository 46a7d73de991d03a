/-!
# Regular expressions and matching

A regular expression over tests of single characters and of places. To match a text, the tests
are first carried out at every position of it. Sets of positions are natural numbers, in which
the bit at an index says whether the position belongs to the set, and an expression takes the set
of positions where it may begin to the set of those where it may end.
-/

namespace AssemblyAtlas.Pattern

/-- A regular expression: `α` tests a character, `β` tests a place. -/
inductive Regex (α β : Type)
  /-- Nothing at all. -/
  | empty
  /-- One character that passes a test. -/
  | one (test : α)
  /-- A place that passes a test. -/
  | place (test : β)
  /-- A group that keeps what it matches. -/
  | capture (inner : Regex α β)
  /-- One thing after another. -/
  | sequence (first rest : Regex α β)
  /-- One thing or another. -/
  | alternative (first rest : Regex α β)
  /-- At least `low` and at most `high` times. -/
  | iterate (item : Regex α β) (low : Nat) (high : Option Nat)
deriving Repr

namespace Regex

variable {α β γ δ : Type}

/-- Replaces the tests. -/
def map (f : α → γ) (g : β → δ) : Regex α β → Regex γ δ
  | .empty => .empty
  | .one a => .one (f a)
  | .place b => .place (g b)
  | .capture r => .capture (r.map f g)
  | .sequence r s => .sequence (r.map f g) (s.map f g)
  | .alternative r s => .alternative (r.map f g) (s.map f g)
  | .iterate r low high => .iterate (r.map f g) low high

/-! ### Sets of positions -/

/-- What a set becomes after `n` rounds. The rounds end early when nothing changes any more. -/
def rounds (f : Nat → Nat) : Nat → Nat → Nat
  | 0, s => s
  | n + 1, s =>
    let t := f s
    if t = s then s else rounds f n t

/-- All that a set becomes after at most `n` rounds. -/
def withinRounds (f : Nat → Nat) (n : Nat) (s : Nat) : Nat :=
  rounds (fun s => s ||| f s) n s

/-- The positions where a match can end that begins in a set of positions, for a text of `length`
characters whose positions are tested. -/
def ends (length : Nat) : Regex Nat Nat → Nat → Nat
  | .empty, s => s
  | .one passing, s => (s &&& passing) <<< 1
  | .place passing, s => s &&& passing
  | .capture r, s => r.ends length s
  | .sequence r t, s => t.ends length (r.ends length s)
  | .alternative r t, s => r.ends length s ||| t.ends length s
  | .iterate r low high, s =>
    let more := match high with
      | some high => high - low
      | none => length + 1
    withinRounds (r.ends length) more (rounds (r.ends length) low s)

/-- The set of the positions that pass a test, the first of them being `i`. -/
def positions (test : γ → Bool) : List γ → Nat
  | [] => 0
  | x :: xs => (if test x then 1 else 0) ||| (positions test xs <<< 1)

/-- The set of all positions of a text of a length. -/
def allPositions (length : Nat) : Nat :=
  1 <<< (length + 1) - 1

/-- Every character of a text with the one before it and the one after it, and the end. -/
def places (before : Option Char) : List Char → List (Option Char × Option Char)
  | [] => [(before, none)]
  | c :: cs => (before, some c) :: places (some c) cs

/-- The expression matches some part of a text. -/
def matchesIn (r : Regex (Char → Bool) (Option Char → Option Char → Bool)) (text : List Char) :
    Bool :=
  let located := r.map (positions · text) fun test =>
    positions (fun p => test p.1 p.2) (places none text)
  located.ends text.length (allPositions text.length) != 0

end Regex

end AssemblyAtlas.Pattern
