/-!
# Letter case of ASCII

Names are compared either exactly or ignoring the case of the letters `A` to `Z`; every other
character stands for itself only.
-/

namespace AssemblyAtlas.Text

/-- The text with `A` to `Z` turned into `a` to `z`. -/
def lower (s : String) : String :=
  s.map Char.toLower

/-- The texts are equal but for the case of ASCII letters. -/
def eqIgnoreCase (s t : String) : Bool :=
  lower s == lower t

end AssemblyAtlas.Text
