import AssemblyAtlas.Paging.Cursor
import AssemblyAtlas.Word

/-!
# Pages

A page holds the items of a request, the length of the whole list, and a token for the next page
if items remain.
-/

namespace AssemblyAtlas

/-- A page of a list. -/
structure Page (α : Type) where
  /-- The items of the page. -/
  items : List α
  /-- The length of the whole list. -/
  total : Nat
  /-- The token of the next page, if items remain. -/
  next : Option String
deriving DecidableEq, Repr

namespace Page

/-- The page of a list that is asked for. The end of the page saturates at 64 bits. -/
def of {α : Type} (xs : List α) (r : PageRequest) : Page α :=
  let stop := min (r.offset + r.size) Word.uint64Max
  { items := (xs.drop r.offset).take r.size
    total := xs.length
    next := if stop < xs.length then some (PageRequest.token ⟨stop, r.size⟩) else none }

/-- The fields of a page as JSON. -/
def toFields {α : Type} (f : α → Json) (p : Page α) : List (String × Json) :=
  [("items", Json.list f p.items), ("total_count", .nat p.total),
    ("returned_count", .nat p.items.length)] ++ Json.field? "next_cursor" Json.text p.next

end Page

end AssemblyAtlas
