import AssemblyAtlas.Proofs.Analysis.LoadOrder
import Mathlib.Algebra.GroupWithZero.Nat

/-!
# References by context

References are entered one by one in the groups of their contexts, and each group is sorted when all
of them are entered. Nothing is lost or repeated on the way, and since sorting commutes with taking
the references of one context, the groups are the parts of the sorted list
(`Reference.groups_partition_sort`).

`Reference.Grouped` says what the groups are while references are still entered. One reference keeps
it (`Reference.Grouped.enter`), and so do all.
-/

namespace AssemblyAtlas.Reference

/-- The contexts of the groups strictly increase. -/
def Increasing (gs : List (ReferenceContext × List Reference)) : Prop :=
  gs.Pairwise fun g h => Ord.compare g.1 h.1 = .lt

/-- The groups hold exactly the given references: in the order of contexts, with the references of
each context in the order they came in, and without empty groups. -/
structure Grouped (rs : List Reference) (gs : List (ReferenceContext × List Reference)) :
    Prop where
  increasing : Increasing gs
  ne_nil : ∀ g ∈ gs, g.2 ≠ []
  eq_filter : ∀ g ∈ gs, g.2 = rs.filter (·.context == g.1)
  perm : (gs.flatMap (·.2)).Perm rs

/-! ### One reference -/

section Enter

variable {r : Reference} {gs : List (ReferenceContext × List Reference)}

theorem ne_of_compare_eq_lt {x y : ReferenceContext} (h : Ord.compare x y = .lt) : y ≠ x := by
  rintro rfl
  rw [Std.ReflOrd.compare_self] at h
  cases h

/-- A context that comes before that of the first group is the context of no group. -/
theorem ne_of_lt_head {x : ReferenceContext} {g : ReferenceContext × List Reference}
    (h : Increasing (g :: gs)) (hx : Ord.compare x g.1 = .lt) : ∀ k ∈ g :: gs, k.1 ≠ x := by
  intro k hk
  rcases List.mem_cons.1 hk with rfl | hk
  · exact ne_of_compare_eq_lt hx
  · exact ne_of_compare_eq_lt (Std.TransCmp.lt_trans hx ((List.pairwise_cons.1 h).1 k hk))

/-- What entering a reference does to the groups: those of other contexts stay, and the group of its
context is new or gets the reference at its end. -/
theorem mem_enter_cases (h : Increasing gs) {g : ReferenceContext × List Reference}
    (hg : g ∈ r.enter gs) :
    (g ∈ gs ∧ g.1 ≠ r.context) ∨ (g = (r.context, [r]) ∧ ∀ k ∈ gs, k.1 ≠ r.context) ∨
      ∃ rs, (r.context, rs) ∈ gs ∧ g = (r.context, rs ++ [r]) := by
  induction gs with
  | nil => exact .inr (.inl ⟨List.mem_singleton.1 hg, by simp⟩)
  | cons k gs ih =>
    obtain ⟨context, rs⟩ := k
    obtain ⟨hfirst, hrest⟩ := List.pairwise_cons.1 h
    rw [enter] at hg
    cases hcompare : Ord.compare r.context context with
    | lt =>
      have hne := ne_of_lt_head h hcompare
      rw [hcompare] at hg
      rcases List.mem_cons.1 hg with rfl | hg
      · exact .inr (.inl ⟨rfl, hne⟩)
      · exact .inl ⟨hg, hne g hg⟩
    | eq =>
      obtain rfl : r.context = context := Std.LawfulEqOrd.eq_of_compare hcompare
      rw [hcompare] at hg
      rcases List.mem_cons.1 hg with rfl | hg
      · exact .inr (.inr ⟨rs, List.mem_cons_self, rfl⟩)
      · exact .inl ⟨List.mem_cons_of_mem _ hg, ne_of_compare_eq_lt (hfirst g hg)⟩
    | gt =>
      have hne : context ≠ r.context :=
        (ne_of_compare_eq_lt (Std.OrientedCmp.lt_of_gt hcompare)).symm
      rw [hcompare] at hg
      rcases List.mem_cons.1 hg with rfl | hg
      · exact .inl ⟨List.mem_cons_self, hne⟩
      · rcases ih hrest hg with ⟨hg, hother⟩ | ⟨hnew, hothers⟩ | ⟨old, hold, hgrown⟩
        · exact .inl ⟨List.mem_cons_of_mem _ hg, hother⟩
        · exact .inr (.inl ⟨hnew, List.forall_mem_cons.2 ⟨hne, hothers⟩⟩)
        · exact .inr (.inr ⟨old, List.mem_cons_of_mem _ hold, hgrown⟩)

theorem Increasing.enter (h : Increasing gs) (r : Reference) : Increasing (r.enter gs) := by
  induction gs with
  | nil => exact List.pairwise_singleton _ _
  | cons k gs ih =>
    obtain ⟨context, rs⟩ := k
    obtain ⟨hfirst, hrest⟩ := List.pairwise_cons.1 h
    rw [Reference.enter]
    cases hcompare : Ord.compare r.context context with
    | lt =>
      refine List.pairwise_cons.2 ⟨List.forall_mem_cons.2 ⟨hcompare, fun k hk => ?_⟩, h⟩
      exact Std.TransCmp.lt_trans hcompare (hfirst k hk)
    | eq => exact List.pairwise_cons.2 ⟨hfirst, hrest⟩
    | gt =>
      refine List.pairwise_cons.2 ⟨fun k hk => ?_, ih hrest⟩
      have hlt : Ord.compare context r.context = .lt := Std.OrientedCmp.lt_of_gt hcompare
      rcases mem_enter_cases hrest hk with ⟨hk, -⟩ | ⟨rfl, -⟩ | ⟨old, -, rfl⟩
      · exact hfirst k hk
      · exact hlt
      · exact hlt

theorem flatMap_enter_perm (r : Reference) (gs : List (ReferenceContext × List Reference)) :
    ((r.enter gs).flatMap (·.2)).Perm (r :: gs.flatMap (·.2)) := by
  induction gs with
  | nil => exact .refl _
  | cons k gs ih =>
    obtain ⟨context, rs⟩ := k
    rw [enter]
    cases Ord.compare r.context context with
    | lt => exact .refl _
    | eq =>
      simp only [List.flatMap_cons, List.append_assoc, List.singleton_append]
      exact List.perm_middle
    | gt =>
      simp only [List.flatMap_cons]
      exact (ih.append_left rs).trans List.perm_middle

/-- **Entering a reference adds it to the groups and changes nothing else.** -/
theorem Grouped.enter {rs : List Reference} (h : Grouped rs gs) (r : Reference) :
    Grouped (rs ++ [r]) (r.enter gs) where
  increasing := h.increasing.enter r
  ne_nil g hg := by
    rcases mem_enter_cases h.increasing hg with ⟨hg, -⟩ | ⟨rfl, -⟩ | ⟨old, -, rfl⟩
    · exact h.ne_nil g hg
    · exact List.cons_ne_nil _ _
    · exact List.concat_ne_nil _ _
  eq_filter g hg := by
    rw [List.filter_append]
    rcases mem_enter_cases h.increasing hg with ⟨hg, hne⟩ | ⟨rfl, hnew⟩ | ⟨old, hold, rfl⟩
    · rw [h.eq_filter g hg]
      simp [hne.symm]
    · -- No reference of the context was entered before, since it would be in a group.
      have hnone : rs.filter (·.context == r.context) = [] := by
        rw [List.filter_eq_nil_iff]
        intro s hs hcontext
        obtain ⟨k, hk, hsk⟩ := List.mem_flatMap.1 (h.perm.mem_iff.2 hs)
        rw [h.eq_filter k hk, List.mem_filter, beq_iff_eq] at hsk
        exact hnew k hk (hsk.2.symm.trans (beq_iff_eq.1 hcontext))
      simp [hnone]
    · have hgroup : old = rs.filter (·.context == r.context) := h.eq_filter _ hold
      simp [hgroup]
  perm := (flatMap_enter_perm r gs).trans
    ((h.perm.cons r).trans (List.perm_append_singleton r rs).symm)

end Enter

/-! ### All references -/

theorem Grouped.foldl {rs : List Reference} {gs : List (ReferenceContext × List Reference)}
    (h : Grouped rs gs) (more : List Reference) :
    Grouped (rs ++ more) (more.foldl (fun entered r => r.enter entered) gs) := by
  induction more generalizing rs gs with
  | nil => rwa [List.append_nil]
  | cons r more ih =>
    rw [List.append_cons]
    exact ih (h.enter r)

theorem grouped_foldl (rs : List Reference) :
    Grouped rs (rs.foldl (fun entered r => r.enter entered) []) := by
  have hnone : Grouped [] [] := ⟨.nil, by simp, by simp, .nil⟩
  exact hnone.foldl rs

/-- **The groups are the parts of the sorted references.** Their contexts strictly increase, and
none is empty. Each counts its references, which are those of the sorted list with its context, in
the same order. So the counts add up to the number of references, and the groups together hold
each reference as often as it was given. -/
theorem groups_partition_sort (rs : List Reference) :
    ((groups rs).map (·.context)).Pairwise (fun x y => Ord.compare x y = .lt) ∧
    (∀ g ∈ groups rs, g.references ≠ [] ∧ g.count = g.references.length ∧
      g.references = (sort rs).filter (·.context == g.context)) ∧
    ((groups rs).map (·.count)).sum = rs.length ∧
    ((groups rs).flatMap (·.references)).Perm rs := by
  have hgrouped := grouped_foldl rs
  have hsorted : ∀ gs : List (ReferenceContext × List Reference),
      (gs.flatMap fun g => sort g.2).Perm (gs.flatMap (·.2)) := fun gs =>
    List.Perm.flatMap_left gs fun g _ => sortedBy_perm _ g.2
  refine ⟨?_, fun g hg => ?_, ?_, ?_⟩
  · rw [groups, List.map_map, List.pairwise_map]
    exact hgrouped.increasing
  · obtain ⟨⟨context, group⟩, hk, rfl⟩ := List.mem_map.1 hg
    have hperm : (sort group).Perm group := sortedBy_perm _ group
    refine ⟨fun hnil => ?_, hperm.length_eq.symm, ?_⟩
    · exact hgrouped.ne_nil _ hk (List.nil_perm.1 (hnil ▸ hperm))
    · have hgroup : group = rs.filter (·.context == context) := hgrouped.eq_filter _ hk
      dsimp only
      rw [sort, sort, filter_sortedBy, hgroup]
  · rw [groups, List.map_map, ← hgrouped.perm.length_eq, List.length_flatMap]
    rfl
  · rw [groups, List.flatMap_map]
    exact (hsorted _).trans hgrouped.perm

end AssemblyAtlas.Reference
