import AssemblyAtlas.Limits
import AssemblyAtlas.Text.AsciiCase
import AssemblyAtlas.Text.Decimal
import AssemblyAtlas.Word

/-!
# Settings

What a query uses where the caller leaves something open. Settings can be given by variables of
the environment; a variable that cannot be read leaves the default, and a number out of range is
pulled into it.
-/

namespace AssemblyAtlas

/-- What a query uses where the caller leaves something open. -/
structure Settings where
  /-- The number of items on a page. -/
  pageSize : Nat := Limits.defaultPageSize
  /-- The depth of call graphs. -/
  callDepth : Nat := Limits.defaultCallDepth
  /-- The length of dependency paths. -/
  pathLength : Nat := Limits.defaultPathLength
  /-- Members that are not visible outside their assembly are reported as dead code too. -/
  includePrivate : Bool := false
deriving DecidableEq, Repr

namespace Settings

/-- An integer of 64 bits, with white space around it. -/
def number? (s : String) : Option Int :=
  Text.intBetween? Word.int64Min Word.int64Max (Text.trim s)

/-- A truth value, in any case and with white space around it. The case of ASCII letters is all
that matters: no other character has one of these letters as its lower case. -/
def flag? (s : String) : Option Bool :=
  match Text.lower (Text.trim s) with
  | "1" | "true" | "yes" | "on" => some true
  | "0" | "false" | "no" | "off" => some false
  | _ => none

/-- The settings that variables give; their names start with the name of the program. -/
def ofVariables (program : String) (lookup : String → Option String) : Settings :=
  let number (name : String) := (lookup (program ++ name)).bind number?
  { pageSize := ((number "_PAGE_SIZE").map
      (Limits.clampPageSize · Limits.maxPageSize)).getD Limits.defaultPageSize
    callDepth := ((number "_CALL_DEPTH").map
      (Limits.clampDepth · Limits.maxCallDepth)).getD Limits.defaultCallDepth
    pathLength := ((number "_PATH_LENGTH").map
      (Limits.clampPathLength · Limits.maxPathLength)).getD Limits.defaultPathLength
    includePrivate := ((lookup (program ++ "_INCLUDE_PRIVATE")).bind flag?).getD false }

end Settings

end AssemblyAtlas
