/-!
# Patterns as written

The tree of a pattern: what stands in it, before flags are applied and classes are worked out.
Sequences, alternatives and unions are chains that lean to the right, and no item of a chain is
itself a chain of the same kind, so a chain is the list of its items.
-/

namespace AssemblyAtlas.Pattern

/-- A character that stands for itself. -/
structure Literal where
  code : Nat
  /-- The character is written as two hexadecimal digits, which is a byte where characters are
  bytes. -/
  isByte : Bool := false
deriving Repr, DecidableEq

/-- The classes that are written as a letter after a backslash. -/
inductive Shorthand
  | digit
  | space
  | word
deriving Repr, DecidableEq

/-- The operations on classes. -/
inductive SetOperation
  | intersection
  | difference
  | symmetricDifference
deriving Repr, DecidableEq

/-- A class of characters. -/
inductive ClassExpr
  /-- The class of nothing. -/
  | empty
  /-- The characters from one to another. -/
  | range (low high : Literal)
  /-- A class written as a letter after a backslash. -/
  | shorthand (kind : Shorthand) (negated : Bool)
  /-- A class of ASCII characters. -/
  | ascii (ranges : List (Nat × Nat)) (negated : Bool)
  /-- The characters that have a property. -/
  | property (name : String) (value : Option String) (negated : Bool)
  /-- A class in brackets. -/
  | bracket (inner : ClassExpr) (negated : Bool)
  /-- The characters of one class or another. -/
  | union (first rest : ClassExpr)
  /-- An operation on two classes. -/
  | combine (operation : SetOperation) (left right : ClassExpr)
deriving Repr, DecidableEq

namespace ClassExpr

/-- The union of classes. -/
def ofItems : List ClassExpr → ClassExpr
  | [] => .empty
  | [c] => c
  | c :: cs => .union c (ofItems cs)

/-- The class is a union. -/
def isUnion : ClassExpr → Bool
  | .union .. => true
  | _ => false

/-- How deep brackets, unions and operations are nested. -/
def depth : ClassExpr → Nat
  | .bracket inner _ => inner.depth + 1
  | .union first rest =>
    max (first.depth + 1) (if rest.isUnion then rest.depth else rest.depth + 1)
  | .combine _ left right => max left.depth right.depth + 1
  | _ => 0

end ClassExpr

/-- The places that a pattern can require. -/
inductive Anchor
  | lineStart
  | lineEnd
  | textStart
  | textEnd
  | wordBoundary
  | notWordBoundary
  | wordStart
  | wordEnd
  | wordStartHalf
  | wordEndHalf
deriving Repr, DecidableEq

/-- The flags of a pattern. -/
inductive Flag
  /-- Letters stand for all their cases. -/
  | ignoreCase
  /-- Lines have beginnings and ends. -/
  | multiLine
  /-- The dot stands for line ends too. -/
  | dotAll
  /-- Repetitions are short unless asked to be long. -/
  | swapGreed
  /-- Characters are code points, not bytes. -/
  | unicode
  /-- A carriage return ends a line too. -/
  | crlf
  /-- Blanks and comments are ignored. -/
  | extended
deriving Repr, DecidableEq

/-- The flag of a letter. -/
def Flag.ofChar? : Char → Option Flag
  | 'i' => some .ignoreCase
  | 'm' => some .multiLine
  | 's' => some .dotAll
  | 'U' => some .swapGreed
  | 'u' => some .unicode
  | 'R' => some .crlf
  | 'x' => some .extended
  | _ => none

/-- Flags that are set and cleared. -/
structure FlagChange where
  on : List Flag := []
  off : List Flag := []
deriving Repr, DecidableEq

/-- The value of a flag after a change. -/
def FlagChange.apply (change : FlagChange) (flag : Flag) (value : Bool) : Bool :=
  if flag ∈ change.on then true else if flag ∈ change.off then false else value

/-- The kinds of groups. -/
inductive GroupKind
  /-- A group that keeps what it matches, with or without a name. -/
  | capture (name : Option String)
  /-- A group that only changes flags. -/
  | plain (change : FlagChange)
deriving Repr, DecidableEq

/-- The change of flags inside a group. -/
def GroupKind.change : GroupKind → FlagChange
  | .capture _ => {}
  | .plain change => change

/-- A pattern as written. -/
inductive Expr
  | empty
  /-- A change of flags from here to the end of the group. -/
  | flags (change : FlagChange)
  | literal (l : Literal)
  | dot
  | anchor (a : Anchor)
  | charClass (c : ClassExpr)
  /-- At least `low` and at most `high` times. -/
  | iterate (item : Expr) (low : Nat) (high : Option Nat)
  | group (kind : GroupKind) (inner : Expr)
  | sequence (first rest : Expr)
  | alternative (first rest : Expr)
deriving Repr, DecidableEq

namespace Expr

/-- One item after another. -/
def ofItems : List Expr → Expr
  | [] => .empty
  | [e] => e
  | e :: es => .sequence e (ofItems es)

/-- One branch or another. -/
def ofBranches : List Expr → Expr
  | [] => .empty
  | [e] => e
  | e :: es => .alternative e (ofBranches es)

/-- The expression can be repeated: it is no empty place and no change of flags. -/
def isRepeatable : Expr → Bool
  | .empty | .flags _ => false
  | _ => true

/-- The expression is a sequence. -/
def isSequence : Expr → Bool
  | .sequence .. => true
  | _ => false

/-- The expression is a choice between branches. -/
def isAlternative : Expr → Bool
  | .alternative .. => true
  | _ => false

/-- How deep groups, repetitions, sequences, alternatives and classes are nested. -/
def depth : Expr → Nat
  | .charClass c => c.depth
  | .iterate item .. => item.depth + 1
  | .group _ inner => inner.depth + 1
  | .sequence first rest =>
    max (first.depth + 1) (if rest.isSequence then rest.depth else rest.depth + 1)
  | .alternative first rest =>
    max (first.depth + 1) (if rest.isAlternative then rest.depth else rest.depth + 1)
  | _ => 0

/-- The names of the groups. -/
def groupNames : Expr → List String
  | .iterate item .. => item.groupNames
  | .group (.capture (some name)) inner => name :: inner.groupNames
  | .group _ inner => inner.groupNames
  | .sequence first rest => first.groupNames ++ rest.groupNames
  | .alternative first rest => first.groupNames ++ rest.groupNames
  | _ => []

end Expr

end AssemblyAtlas.Pattern
