import AssemblyAtlas.Pattern.Expr
import AssemblyAtlas.Pattern.Regex
import AssemblyAtlas.Unicode.CaseFold
import AssemblyAtlas.Unicode.Category

/-!
# What patterns mean

The regular expression that a pattern is, once flags are applied and classes are worked out. Where
characters are bytes, nothing may match a byte that is no character of its own.
-/

namespace AssemblyAtlas.Pattern

open Unicode (CharSet)

/-- The flags that change what a pattern means. -/
structure Flags where
  ignoreCase : Bool := true
  multiLine : Bool := false
  dotAll : Bool := false
  unicode : Bool := true
  crlf : Bool := false
deriving Repr, DecidableEq

/-- The flags after a change. -/
def Flags.change (f : Flags) (change : FlagChange) : Flags :=
  { ignoreCase := change.apply .ignoreCase f.ignoreCase
    multiLine := change.apply .multiLine f.multiLine
    dotAll := change.apply .dotAll f.dotAll
    unicode := change.apply .unicode f.unicode
    crlf := change.apply .crlf f.crlf }

/-! ### Places -/

/-- The tests of a place. -/
inductive Look
  | textStart
  | textEnd
  | lineStart (crlf : Bool)
  | lineEnd (crlf : Bool)
  | wordBoundary (unicode : Bool)
  | notWordBoundary (unicode : Bool)
  | wordStart (unicode : Bool)
  | wordEnd (unicode : Bool)
  | wordStartHalf (unicode : Bool)
  | wordEndHalf (unicode : Bool)
deriving Repr, DecidableEq

/-- The test that an anchor is. -/
def Anchor.look (f : Flags) : Anchor → Look
  | .lineStart => if f.multiLine then .lineStart f.crlf else .textStart
  | .lineEnd => if f.multiLine then .lineEnd f.crlf else .textEnd
  | .textStart => .textStart
  | .textEnd => .textEnd
  | .wordBoundary => .wordBoundary f.unicode
  | .notWordBoundary => .notWordBoundary f.unicode
  | .wordStart => .wordStart f.unicode
  | .wordEnd => .wordEnd f.unicode
  | .wordStartHalf => .wordStartHalf f.unicode
  | .wordEndHalf => .wordEndHalf f.unicode

/-- The ASCII characters of words. -/
def asciiWord : CharSet :=
  .ofRanges [(0x30, 0x39), (0x41, 0x5A), (0x5F, 0x5F), (0x61, 0x7A)]

/-- There is a character and it belongs to words. -/
def isWord (unicode : Bool) : Option Char → Bool
  | some c => (if unicode then Unicode.word else asciiWord).contains c.toNat
  | none => false

/-- The place between two characters passes a test. -/
def Look.test : Look → Option Char → Option Char → Bool
  | .textStart, before, _ => before.isNone
  | .textEnd, _, after => after.isNone
  | .lineStart false, before, _ => before.isNone || before == some '\n'
  | .lineStart true, before, after =>
    before.isNone || before == some '\n' || before == some '\r' && after != some '\n'
  | .lineEnd false, _, after => after.isNone || after == some '\n'
  | .lineEnd true, before, after =>
    after.isNone || after == some '\r' || after == some '\n' && before != some '\r'
  | .wordBoundary u, before, after => isWord u before != isWord u after
  | .notWordBoundary u, before, after => isWord u before == isWord u after
  | .wordStart u, before, after => !isWord u before && isWord u after
  | .wordEnd u, before, after => isWord u before && !isWord u after
  | .wordStartHalf u, before, _ => !isWord u before
  | .wordEndHalf u, _, after => !isWord u after

/-! ### Classes -/

/-- The ASCII letters of both cases for every ASCII letter of the set. -/
def withAsciiCases (s : CharSet) : CharSet :=
  let shifted (low high : Nat) (shift : Nat → Nat) : List (Nat × Nat) :=
    (s ∩ .range low high).ranges.map fun (a, b) => (shift a, shift b)
  s ∪ .ofRanges (shifted 0x41 0x5A (· + 0x20)) ∪ .ofRanges (shifted 0x61 0x7A (· - 0x20))

/-- The set with all cases of its characters, if case is ignored. -/
def Flags.cases (f : Flags) (s : CharSet) : CharSet :=
  if !f.ignoreCase then s else if f.unicode then s.withCases else withAsciiCases s

/-- The set, or if negated all other characters. Where characters are bytes the result must be
ASCII. -/
def Flags.negate (f : Flags) (negated : Bool) (s : CharSet) : Option CharSet :=
  if f.unicode then some (if negated then CharSet.all \ s else s)
  else
    let s := if negated then CharSet.bytes \ s else s
    if s.isAscii then some s else none

/-- The characters of a shorthand. -/
def Shorthand.set (f : Flags) : Shorthand → CharSet
  | .digit => if f.unicode then Unicode.digit else .range 0x30 0x39
  | .space => if f.unicode then Unicode.whiteSpace else .ofRanges [(0x09, 0x0D), (0x20, 0x20)]
  | .word => if f.unicode then Unicode.word else asciiWord

/-- The operation on sets. -/
def SetOperation.apply : SetOperation → CharSet → CharSet → CharSet
  | .intersection => fun a b => a ∩ b
  | .difference => fun a b => a \ b
  | .symmetricDifference => CharSet.symmetricDifference

/-- A literal can stand where characters are what the flags say. -/
def Literal.allowed (f : Flags) (l : Literal) : Bool :=
  f.unicode || !l.isByte || l.code < 128

/-- The characters of a class. Cases are added before a class is negated. -/
def ClassExpr.set (f : Flags) : ClassExpr → Option CharSet
  | .empty => some ∅
  | .range low high =>
    if f.unicode || low.code < 128 && high.code < 128 then some (.range low.code high.code)
    else none
  | .shorthand kind negated => f.negate negated (kind.set f)
  | .ascii ranges negated => f.negate negated (f.cases (.ofRanges ranges))
  | .property name value negated =>
    if !f.unicode then none
    else do
      let s ← match value with
        | none => Unicode.property? (Unicode.looseName name)
        | some value => Unicode.propertyValue? (Unicode.looseName name) (Unicode.looseName value)
      f.negate negated (f.cases s)
  | .bracket inner negated => do f.negate negated (f.cases (← inner.set f))
  | .union first rest => return (← first.set f) ∪ (← rest.set f)
  | .combine operation left right =>
    return operation.apply (f.cases (← left.set f)) (f.cases (← right.set f))

/-! ### Expressions -/

/-- A regular expression over sets of characters. -/
abbrev CharRegex := Regex CharSet Look

/-- The expression can only match nothing. -/
def isNothing : CharRegex → Bool
  | .empty | .place _ => true
  | .one _ => false
  | .capture r => isNothing r
  | .sequence r s | .alternative r s => isNothing r && isNothing s
  | .iterate r _ high => isNothing r || high == some 0

/-- One expression after another. -/
def followedBy : CharRegex → CharRegex → CharRegex
  | .empty, s => s
  | r, .empty => r
  | r, s => .sequence r s

/-- An expression repeated. What can only match nothing is tried at most once. -/
def repeated (r : CharRegex) (low : Nat) (high : Option Nat) : CharRegex :=
  let (low, high) := if isNothing r then (min low 1, some (min (high.getD 1) 1)) else (low, high)
  if high = some 0 then .empty
  else if low = 1 ∧ high = some 1 then r
  else .iterate r low high

/-- The characters that the dot stands for. -/
def Flags.dot (f : Flags) : Option CharSet :=
  if !f.unicode then none
  else if f.dotAll then some .all
  else if f.crlf then some (CharSet.all \ .ofPoints [0x0A, 0x0D])
  else some (CharSet.all \ .singleton 0x0A)

/-- The regular expression of a pattern under flags, and the flags after it. -/
def Expr.regex (f : Flags) : Expr → Option (CharRegex × Flags)
  | .empty => some (.empty, f)
  | .flags change => some (.empty, f.change change)
  | .literal l =>
    if l.allowed f then some (.one (f.cases (.singleton l.code)), f) else none
  | .dot => do return (.one (← f.dot), f)
  | .anchor a => some (.place (a.look f), f)
  | .charClass c => do return (.one (← c.set f), f)
  | .iterate item low high => do
    let (r, f) ← item.regex f
    return (repeated r low high, f)
  | .group (.capture _) inner => do return (.capture (← inner.regex f).1, f)
  | .group (.plain change) inner => do return ((← inner.regex (f.change change)).1, f)
  | .sequence first rest => do
    let (r, f) ← first.regex f
    let (s, f) ← rest.regex f
    return (followedBy r s, f)
  | .alternative first rest => do
    let (r, f) ← first.regex f
    let (s, f) ← rest.regex f
    return (.alternative r s, f)

end AssemblyAtlas.Pattern
