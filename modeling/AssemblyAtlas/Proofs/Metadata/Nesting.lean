import AssemblyAtlas.Metadata.Assembly
import Mathlib.Data.List.Basic

/-!
# Induction over nested types

A property holds of every type if it holds of each type whose nested types have it
(`TypeDef.nestedInduction`). The list of a type with all types nested in it is opened by
`TypeDef.withNested_mk` and `TypeDef.allWithNested_eq_flatMap`.
-/

namespace AssemblyAtlas.TypeDef

/-- A property that a type has when the types nested in it do, every type has. -/
@[elab_as_elim]
theorem nestedInduction {motive : TypeDef → Prop}
    (node : ∀ info nested, (∀ t ∈ nested, motive t) → motive ⟨info, nested⟩) (t : TypeDef) :
    motive t := by
  refine @TypeDef.rec motive (fun ts => ∀ t ∈ ts, motive t)
    (fun info nested ih => node info nested ih) (by simp) (fun t ts ht hts => ?_) t
  exact List.forall_mem_cons.2 ⟨ht, hts⟩

theorem allWithNested_eq_flatMap (ts : List TypeDef) :
    allWithNested ts = ts.flatMap withNested := by
  induction ts with
  | nil => simp [allWithNested]
  | cons t ts ih => simp [allWithNested, ih]

theorem withNested_mk (info : TypeInfo) (nested : List TypeDef) :
    withNested ⟨info, nested⟩ = ⟨info, nested⟩ :: nested.flatMap withNested := by
  rw [withNested, allWithNested_eq_flatMap]

theorem self_mem_withNested (t : TypeDef) : t ∈ t.withNested := by
  obtain ⟨info, nested⟩ := t
  rw [withNested_mk]
  exact List.mem_cons_self

end AssemblyAtlas.TypeDef
