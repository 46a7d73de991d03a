/-!
# Sorted lists

Lists in the order of a comparison, with equal elements in the order they came in, and the
distinct texts of a list in order. Texts are compared character by character, which is the order
of their UTF-8 bytes.
-/

namespace AssemblyAtlas

/-- The list in the order of `cmp`; elements that compare equal keep their order. -/
def sortedBy {α : Type} (cmp : α → α → Ordering) (xs : List α) : List α :=
  xs.mergeSort fun a b => (cmp a b).isLE

/-- The distinct texts of a list, in order. -/
def distinctSorted (xs : List String) : List String :=
  sortedBy compare xs.eraseDups

end AssemblyAtlas
