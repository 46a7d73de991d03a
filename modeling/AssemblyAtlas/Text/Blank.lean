/-!
# White space

The characters of the Unicode property `White_Space`, and cutting them off the ends of a text.
The zero-width space U+200B and the byte order mark U+FEFF do not have the property.
-/

namespace AssemblyAtlas.Text

/-- The character has the Unicode property `White_Space`. -/
def isBlank (c : Char) : Bool :=
  let n := c.toNat
  (0x9 ≤ n && n ≤ 0xD) || n == 0x20 || n == 0x85 || n == 0xA0 || n == 0x1680 ||
    (0x2000 ≤ n && n ≤ 0x200A) || n == 0x2028 || n == 0x2029 || n == 0x202F || n == 0x205F ||
    n == 0x3000

/-- A list without its longest suffix on which `p` holds. -/
def dropWhileEnd {α : Type} (p : α → Bool) (xs : List α) : List α :=
  (xs.reverse.dropWhile p).reverse

/-- A text without white space at its end. -/
def trimEnd (s : String) : String :=
  String.ofList (dropWhileEnd isBlank s.toList)

/-- A text without white space at either end. -/
def trim (s : String) : String :=
  String.ofList (dropWhileEnd isBlank (s.toList.dropWhile isBlank))

end AssemblyAtlas.Text
