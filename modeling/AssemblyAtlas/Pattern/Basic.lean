import AssemblyAtlas.Error
import AssemblyAtlas.Limits
import AssemblyAtlas.Pattern.Memory
import AssemblyAtlas.Pattern.Parser

/-!
# Patterns

A pattern is a regular expression that accepts a text if it matches some part of it. Letters stand
for all their cases unless a flag says otherwise.

Of the properties of characters, a pattern may name the general categories and whether a character
is alphabetic, upper or lower case, or white space (`Unicode.property?`). There are no tables of
scripts, ages and the other properties of the standard, and a pattern that names one of these is
refused like one that is malformed.
-/

namespace AssemblyAtlas

/-- A compiled pattern. -/
structure Pattern where
  regex : Pattern.CharRegex

namespace Pattern

/-- The memory that a compiled pattern may take. -/
def maxMemory : Nat := 0x100000

/-- The pattern of a text, if it is well-formed and not too large. -/
def ofText? (s : String) : Option Pattern := do
  let (regex, _) ← (← Expr.parse? s).regex {}
  if memory regex ≤ maxMemory then some { regex } else none

/-- The pattern of a text that a caller gives. -/
def compile (s : String) : Except Error Pattern :=
  let s := Limits.normalize s
  if s.isEmpty then .error (.argument .emptyPattern)
  else
    match ofText? s with
    | some p => .ok p
    | none => .error (.argument .invalidPattern)

/-- The pattern matches some part of the text. -/
def accepts (p : Pattern) (s : String) : Bool :=
  (p.regex.map (fun set c => set.contains c.toNat) Look.test).matchesIn s.toList

end Pattern

end AssemblyAtlas
