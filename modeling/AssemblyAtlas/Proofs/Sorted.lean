import Mathlib.Data.String.Basic
import AssemblyAtlas.Sorted

/-!
# Sorting

`sortedBy` rearranges a list so that no element stands before a smaller one. Elements that compare
equal keep their order, and nothing else of the order in which elements come shows in the result
(`sortedBy_eq_iff`). When the elements are compared by texts that are all different, the texts
strictly increase (`pairwise_lt_sortedBy`).
-/

namespace AssemblyAtlas

variable {α β : Type}

theorem sortedBy_perm (cmp : α → α → Ordering) (xs : List α) : (sortedBy cmp xs).Perm xs :=
  List.mergeSort_perm xs _

@[simp]
theorem mem_sortedBy {cmp : α → α → Ordering} {xs : List α} {x : α} :
    x ∈ sortedBy cmp xs ↔ x ∈ xs :=
  (sortedBy_perm cmp xs).mem_iff

@[simp]
theorem mem_distinctSorted {xs : List String} {s : String} : s ∈ distinctSorted xs ↔ s ∈ xs := by
  rw [distinctSorted, mem_sortedBy, List.mem_eraseDups]

theorem sortedBy_map (cmp : β → β → Ordering) (f : α → β) (xs : List α) :
    sortedBy cmp (xs.map f) = (sortedBy (fun a b => cmp (f a) (f b)) xs).map f := by
  unfold sortedBy
  rw [List.map_mergeSort]
  exact fun _ _ _ _ => rfl

theorem isLE_total (cmp : α → α → Ordering) [Std.OrientedCmp cmp] (a b : α) :
    ((cmp a b).isLE || (cmp b a).isLE) = true := by
  have hswap : cmp b a = (cmp a b).swap := Std.OrientedCmp.eq_swap
  rw [hswap]
  cases cmp a b <;> decide

theorem pairwise_sortedBy (cmp : α → α → Ordering) [Std.TransCmp cmp] (xs : List α) :
    (sortedBy cmp xs).Pairwise fun a b => (cmp a b).isLE := by
  apply List.pairwise_mergeSort
  · intro a b c hab hbc
    exact Std.TransCmp.isLE_trans hab hbc
  · exact isLE_total cmp

/-- The order in which elements come does not matter when only equal elements compare equal. -/
theorem sortedBy_eq_of_perm {cmp : α → α → Ordering} [Std.TransCmp cmp] {xs ys : List α}
    (h : xs.Perm ys) (heq : ∀ a ∈ xs, ∀ b ∈ xs, cmp a b = .eq → a = b) :
    sortedBy cmp xs = sortedBy cmp ys := by
  refine List.Perm.eq_of_pairwise ?_ (pairwise_sortedBy cmp xs) (pairwise_sortedBy cmp ys) ?_
  · intro a b ha hb hab hba
    rw [mem_sortedBy] at ha hb
    exact heq a ha b (h.mem_iff.2 hb) (Std.OrientedCmp.isLE_antisymm hab hba)
  · exact (sortedBy_perm cmp xs).trans (h.trans (sortedBy_perm cmp ys).symm)

/-- The order in which elements come does not matter when the comparison reads all of them. -/
theorem sortedBy_congr {cmp : α → α → Ordering} [Std.TransCmp cmp] [Std.LawfulEqCmp cmp]
    {xs ys : List α} (h : xs.Perm ys) : sortedBy cmp xs = sortedBy cmp ys :=
  sortedBy_eq_of_perm h fun _ _ _ _ => Std.LawfulEqCmp.eq_of_compare

/-- A sorted list is what sorting makes of its elements in any order. -/
theorem sortedBy_eq_of_pairwise {cmp : α → α → Ordering} [Std.TransCmp cmp] [Std.LawfulEqCmp cmp]
    {xs ys : List α} (hperm : xs.Perm ys) (hsorted : ys.Pairwise fun a b => (cmp a b).isLE) :
    sortedBy cmp xs = ys := by
  rw [sortedBy_congr hperm]
  exact List.mergeSort_of_pairwise hsorted

/-! ### Ties -/

/-- The comparison does not tell the elements apart. -/
def ties (cmp : α → α → Ordering) (a b : α) : Bool :=
  cmp a b == .eq

theorem ties_iff {cmp : α → α → Ordering} {a b : α} : ties cmp a b = true ↔ cmp a b = .eq :=
  beq_iff_eq

section Ties

variable {cmp : α → α → Ordering} [Std.TransCmp cmp] {xs ys : List α}

theorem ties_self (a : α) : ties cmp a a = true :=
  ties_iff.2 Std.ReflCmp.compare_self

/-- Sorting keeps elements that tie with a given one in the order they come in. -/
theorem filter_ties_sortedBy (a : α) (xs : List α) :
    (sortedBy cmp xs).filter (ties cmp a) = xs.filter (ties cmp a) := by
  have htied : (xs.filter (ties cmp a)).Pairwise fun b c => (cmp b c).isLE := by
    refine List.pairwise_of_forall_mem_list fun b hb c hc => ?_
    have hab : cmp a b = .eq := ties_iff.1 (List.mem_filter.1 hb).2
    have hac : cmp a c = .eq := ties_iff.1 (List.mem_filter.1 hc).2
    rw [← Std.TransCmp.congr_left hab, hac]
    rfl
  have hsub : (xs.filter (ties cmp a)).Sublist (sortedBy cmp xs) := by
    refine List.sublist_mergeSort ?_ (isLE_total cmp) htied List.filter_sublist
    intro b c d hbc hcd
    exact Std.TransCmp.isLE_trans hbc hcd
  have hfilter := hsub.filter (ties cmp a)
  rw [List.filter_filter, funext fun b => Bool.and_self _] at hfilter
  exact (hfilter.eq_of_length ((sortedBy_perm cmp xs).filter _).length_eq.symm).symm

/-- The head of a sorted list comes before all elements, itself included. -/
theorem isLE_of_mem_cons {x : α} (h : (x :: xs).Pairwise fun a b => (cmp a b).isLE) {b : α}
    (hb : b ∈ x :: xs) : (cmp x b).isLE := by
  rcases List.mem_cons.1 hb with rfl | hb
  · exact Std.ReflCmp.isLE_rfl
  · exact (List.pairwise_cons.1 h).1 b hb

theorem mem_iff_of_filter_ties (h : ∀ a, xs.filter (ties cmp a) = ys.filter (ties cmp a)) {a : α} :
    a ∈ xs ↔ a ∈ ys := by
  have hmem : a ∈ xs.filter (ties cmp a) ↔ a ∈ ys.filter (ties cmp a) := by rw [h a]
  simpa only [List.mem_filter, ties_self, and_true] using hmem

/-- Sorted lists are the same if the elements that tie with any given one are. -/
theorem eq_of_filter_ties (hxs : xs.Pairwise fun a b => (cmp a b).isLE)
    (hys : ys.Pairwise fun a b => (cmp a b).isLE)
    (h : ∀ a, xs.filter (ties cmp a) = ys.filter (ties cmp a)) : xs = ys := by
  induction xs generalizing ys with
  | nil =>
    cases ys with
    | nil => rfl
    | cons y ys => exact absurd ((mem_iff_of_filter_ties h).2 List.mem_cons_self) List.not_mem_nil
  | cons x xs ih =>
    cases ys with
    | nil => exact absurd ((mem_iff_of_filter_ties h).1 List.mem_cons_self) List.not_mem_nil
    | cons y ys =>
      -- Each list has the head of the other, so that the heads tie; the first of the elements that
      -- tie with them is the head of both lists.
      have hxy : cmp x y = .eq := Std.OrientedCmp.isLE_antisymm
        (isLE_of_mem_cons hxs ((mem_iff_of_filter_ties h).2 List.mem_cons_self))
        (isLE_of_mem_cons hys ((mem_iff_of_filter_ties h).1 List.mem_cons_self))
      have hheads := h x
      rw [List.filter_cons_of_pos (ties_self x), List.filter_cons_of_pos (ties_iff.2 hxy)] at hheads
      obtain ⟨rfl, -⟩ := List.cons.inj hheads
      refine congrArg (x :: ·) (ih hxs.of_cons hys.of_cons fun a => ?_)
      have ha := h a
      rw [List.filter_cons, List.filter_cons] at ha
      split at ha
      · exact (List.cons.inj ha).2
      · exact ha

/-- **Sorting depends on the order of ties and on nothing else.** -/
theorem sortedBy_eq_iff : sortedBy cmp xs = sortedBy cmp ys ↔
    ∀ a, xs.filter (ties cmp a) = ys.filter (ties cmp a) := by
  constructor
  · intro h a
    rw [← filter_ties_sortedBy, h, filter_ties_sortedBy]
  · intro h
    refine eq_of_filter_ties (pairwise_sortedBy cmp xs) (pairwise_sortedBy cmp ys) fun a => ?_
    rw [filter_ties_sortedBy, filter_ties_sortedBy, h]

/-- A part of the list can be taken before or after sorting. -/
theorem filter_sortedBy (p : α → Bool) (xs : List α) :
    (sortedBy cmp xs).filter p = sortedBy cmp (xs.filter p) := by
  refine eq_of_filter_ties ((pairwise_sortedBy cmp xs).filter p)
    (pairwise_sortedBy cmp (xs.filter p)) fun a => ?_
  rw [filter_ties_sortedBy, List.filter_comm, filter_ties_sortedBy, List.filter_comm]

/-- The order in which elements come never matters exactly if no two of them tie. -/
theorem sortedBy_perm_invariant_iff [DecidableEq α] :
    (∀ ys, xs.Perm ys → sortedBy cmp xs = sortedBy cmp ys) ↔
      ∀ a ∈ xs, ∀ b ∈ xs, cmp a b = .eq → a = b := by
  constructor
  · intro h a ha b hb hab
    by_contra hne
    -- Otherwise the two could come first, in either order.
    obtain ⟨rest, hrest⟩ : ∃ rest, xs.Perm (a :: b :: rest) :=
      ⟨(xs.erase a).erase b, (List.perm_cons_erase ha).trans
        (.cons a (List.perm_cons_erase ((List.mem_erase_of_ne (Ne.symm hne)).2 hb)))⟩
    have hsort : sortedBy cmp (a :: b :: rest) = sortedBy cmp (b :: a :: rest) :=
      (h _ hrest).symm.trans (h _ (hrest.trans (.swap b a rest)))
    have htied := sortedBy_eq_iff.1 hsort a
    simp only [List.filter_cons, ties_self, ties_iff.2 hab, if_true] at htied
    exact hne (List.cons.inj htied).1
  · intro h ys hys
    exact sortedBy_eq_of_perm hys h

end Ties

/-! ### Distinct texts -/

theorem nodup_eraseDups : ∀ xs : List String, xs.eraseDups.Nodup
  | [] => List.nodup_nil
  | x :: xs => by
    rw [List.eraseDups_cons, List.nodup_cons, List.mem_eraseDups, List.mem_filter]
    exact ⟨by simp, nodup_eraseDups _⟩
termination_by xs => xs.length
decreasing_by
  exact Nat.lt_succ_of_le (List.length_filter_le _ _)

/-- The distinct texts depend neither on the order nor on the number of times that texts come. -/
theorem distinctSorted_congr {xs ys : List String} (h : ∀ s, s ∈ xs ↔ s ∈ ys) :
    distinctSorted xs = distinctSorted ys := by
  refine sortedBy_congr ((List.perm_ext_iff_of_nodup (nodup_eraseDups xs) (nodup_eraseDups ys)).2
    fun s => ?_)
  rw [List.mem_eraseDups, List.mem_eraseDups, h]

/-- Elements with different texts stand in strictly increasing order of their texts. -/
theorem pairwise_lt_sortedBy (key : α → String) {xs : List α} (h : (xs.map key).Nodup) :
    (sortedBy (compareOn key) xs).Pairwise fun a b => key a < key b := by
  have hle := pairwise_sortedBy (compareOn key) xs
  have hne : (sortedBy (compareOn key) xs).Pairwise fun a b => key a ≠ key b :=
    List.pairwise_map.1 (((sortedBy_perm _ xs).map key).nodup_iff.2 h)
  refine (hle.and hne).imp fun {a b} hab => ?_
  rcases lt_trichotomy (key a) (key b) with hlt | heq | hgt
  · exact hlt
  · exact absurd heq hab.2
  · have hcmp : compareOn key a b = .gt := compare_gt_iff_gt.2 hgt
    rw [hcmp] at hab
    exact absurd hab.1 (by decide)

end AssemblyAtlas
