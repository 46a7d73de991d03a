import AssemblyAtlas.Proofs.Text.Blank
import AssemblyAtlas.Text.Split
import Mathlib.Algebra.GroupWithZero.Nat

/-!
# Taking texts apart

`Text.splitAt` undoes joining with a separator, as long as no piece holds the separator, and a
separator aside it loses no character. `Text.cutsFromRight` finds all places to cut a text in two,
the last of them first.
-/

namespace AssemblyAtlas.Text

variable {α : Type} [BEq α] {sep : α} {xs : List α}

/-! ### Pieces -/

theorem splitAt_eq_splitOn (sep : α) (xs : List α) : splitAt sep xs = xs.splitOn sep := by
  induction xs with
  | nil => rfl
  | cons x xs ih =>
    rw [splitAt, ih, List.splitOn_eq_splitOnP, List.splitOn_eq_splitOnP,
      List.splitOnP_cons_eq_if_modifyHead]
    split
    · rfl
    · cases hpieces : xs.splitOnP (· == sep) with
      | nil => exact absurd hpieces (List.splitOnP_ne_nil _ xs)
      | cons piece pieces => rfl

theorem splitAt_intercalate [LawfulBEq α] {pieces : List (List α)} (hne : pieces ≠ [])
    (h : ∀ piece ∈ pieces, sep ∉ piece) : splitAt sep ([sep].intercalate pieces) = pieces := by
  rw [splitAt_eq_splitOn, List.splitOn_intercalate sep h hne]

theorem not_mem_of_mem_splitAt [LawfulBEq α] {piece : List α} (h : piece ∈ splitAt sep xs) :
    sep ∉ piece := by
  induction xs generalizing piece with
  | nil => simp_all [splitAt]
  | cons x xs ih =>
    rw [splitAt] at h
    split at h
    · rcases List.mem_cons.1 h with rfl | h
      · exact List.not_mem_nil
      · exact ih h
    · next hx =>
      have hsep : sep ≠ x := fun heq => hx (beq_iff_eq.2 heq.symm)
      split at h
      · simp_all
      · next first rest hpieces =>
        rcases List.mem_cons.1 h with rfl | h
        · rw [List.mem_cons, not_or]
          exact ⟨hsep, ih (hpieces ▸ List.mem_cons_self)⟩
        · exact ih (hpieces ▸ List.mem_cons_of_mem first h)

/-- Joining adds no element but separators. -/
theorem count_intercalate [LawfulBEq α] {x : α} (hx : x ≠ sep) (pieces : List (List α)) :
    ([sep].intercalate pieces).count x = (pieces.map (List.count x)).sum := by
  induction pieces with
  | nil => rfl
  | cons piece pieces ih =>
    cases pieces with
    | nil => simp
    | cons next rest =>
      have hsep : [sep].count x = 0 := List.count_eq_zero.2 (by simpa using hx)
      rw [List.intercalate_cons_cons, List.count_append, List.count_append, ih, hsep]
      simp only [List.map_cons, List.sum_cons, Nat.add_zero]

theorem sum_count_splitAt [LawfulBEq α] {x : α} (hx : x ≠ sep) (xs : List α) :
    ((splitAt sep xs).map (List.count x)).sum = xs.count x := by
  rw [← count_intercalate hx, splitAt_eq_splitOn, List.intercalate_splitOn]

/-! ### Cuts -/

theorem mem_cutsFromRight_go [LawfulBEq α] {cut : List α × List α} {seen : List α}
    {cuts : List (List α × List α)} :
    cut ∈ cutsFromRight.go sep seen xs cuts ↔
      cut ∈ cuts ∨ ∃ before, xs = before ++ sep :: cut.2 ∧ cut.1 = seen.reverse ++ before := by
  induction xs generalizing seen cuts with
  | nil => simp [cutsFromRight.go]
  | cons x xs ih =>
    rw [cutsFromRight.go, ih]
    constructor
    · rintro (h | ⟨before, rfl, hcut⟩)
      · split at h
        · next hx =>
          rcases List.mem_cons.1 h with rfl | h
          · exact .inr ⟨[], by rw [eq_of_beq hx]; rfl, by simp⟩
          · exact .inl h
        · exact .inl h
      · exact .inr ⟨x :: before, rfl, by simpa using hcut⟩
    · rintro (h | ⟨before, hxs, hcut⟩)
      · left
        split
        · exact List.mem_cons_of_mem _ h
        · exact h
      · cases before with
        | nil =>
          obtain ⟨rfl, rfl⟩ := List.cons.inj hxs
          left
          rw [if_pos (beq_self_eq_true x), List.mem_cons]
          exact .inl (Prod.ext (by simpa using hcut) rfl)
        | cons y before =>
          obtain ⟨rfl, rfl⟩ := List.cons.inj hxs
          exact .inr ⟨before, rfl, by simpa using hcut⟩

/-- The cuts are the ways to write the list as a part, the separator and a rest. -/
theorem mem_cutsFromRight [LawfulBEq α] {cut : List α × List α} :
    cut ∈ cutsFromRight sep xs ↔ xs = cut.1 ++ sep :: cut.2 := by
  rw [cutsFromRight, mem_cutsFromRight_go]
  simp

theorem pairwise_cutsFromRight_go {seen : List α} {cuts : List (List α × List α)}
    (hcuts : cuts.Pairwise fun x y => y.1.length < x.1.length)
    (hseen : ∀ cut ∈ cuts, cut.1.length < seen.length) :
    (cutsFromRight.go sep seen xs cuts).Pairwise fun x y => y.1.length < x.1.length := by
  induction xs generalizing seen cuts with
  | nil => exact hcuts
  | cons x xs ih =>
    rw [cutsFromRight.go]
    split
    · -- The new cut comes after all that was passed, so it is longer than the earlier ones.
      refine ih (List.pairwise_cons.2 ⟨fun cut hcut => by simpa using hseen cut hcut, hcuts⟩) ?_
      intro cut hcut
      rcases List.mem_cons.1 hcut with rfl | hcut
      · simp
      · exact Nat.lt_succ_of_lt (hseen cut hcut)
    · exact ih hcuts fun cut hcut => Nat.lt_succ_of_lt (hseen cut hcut)

/-- What precedes the cut gets shorter from cut to cut. -/
theorem pairwise_cutsFromRight (sep : α) (xs : List α) :
    (cutsFromRight sep xs).Pairwise fun x y => y.1.length < x.1.length :=
  pairwise_cutsFromRight_go .nil fun _ h => absurd h List.not_mem_nil

/-- What a search over the cuts finds, it finds at the last cut at which anything is found. -/
theorem exists_of_findSome?_cutsFromRight {β : Type} {f : List α × List α → Option β} {b : β}
    (h : (cutsFromRight sep xs).findSome? f = some b) :
    ∃ cut ∈ cutsFromRight sep xs, f cut = some b ∧
      ∀ other ∈ cutsFromRight sep xs, f other ≠ none → other.1.length ≤ cut.1.length := by
  obtain ⟨before, cut, after, hcuts, hcut, hnone⟩ := List.findSome?_eq_some_iff.1 h
  have hsorted := pairwise_cutsFromRight sep xs
  rw [hcuts] at hsorted ⊢
  refine ⟨cut, by simp, hcut, fun other hother hsome => ?_⟩
  rcases List.mem_append.1 hother with hother | hother
  · exact absurd (hnone other hother) hsome
  · rcases List.mem_cons.1 hother with rfl | hother
    · exact Nat.le_refl _
    · exact Nat.le_of_lt ((List.pairwise_cons.1 (List.pairwise_append.1 hsorted).2.1).1 _ hother)

/-- The part after the last of some characters holds none of them. -/
theorem not_of_mem_afterLast {p : Char → Bool} {s : String} {c : Char}
    (h : c ∈ (afterLast p s).toList) : p c = false := by
  rw [afterLast, String.toList_ofList, List.mem_reverse] at h
  simpa using List.mem_takeWhile_imp h

end AssemblyAtlas.Text
