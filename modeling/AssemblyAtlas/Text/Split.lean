/-!
# Splitting names

Full names are put together with separators; these functions take them apart again.
-/

namespace AssemblyAtlas.Text

/-- The part of the text after its last character satisfying `p`; all of it if there is none. -/
def afterLast (p : Char → Bool) (s : String) : String :=
  String.ofList (s.toList.reverse.takeWhile (fun c => !p c)).reverse

/-- The part of the text before its last `sep`; empty if there is none. -/
def beforeLast (sep : Char) (s : String) : String :=
  String.ofList ((s.toList.reverse.dropWhile (· != sep)).drop 1).reverse

/-- The pieces of a list between the elements equal to `sep`; one piece if there is none. -/
def splitAt {α : Type} [BEq α] (sep : α) : List α → List (List α)
  | [] => [[]]
  | c :: cs =>
    if c == sep then [] :: splitAt sep cs
    else match splitAt sep cs with
      | [] => [[c]]
      | piece :: pieces => (c :: piece) :: pieces

/-- Every way to write the list as a part, `sep` and a rest, the longest part first. -/
def cutsFromRight {α : Type} [BEq α] (sep : α) (xs : List α) : List (List α × List α) :=
  go [] xs []
where
  /-- `seen` is the part already passed, latest first; `cuts` are the cuts found in it. -/
  go (seen : List α) : List α → List (List α × List α) → List (List α × List α)
    | [], cuts => cuts
    | c :: cs, cuts =>
      go (c :: seen) cs (if c == sep then (seen.reverse, cs) :: cuts else cuts)

end AssemblyAtlas.Text
