import AssemblyAtlas.Proofs.Text.AsciiCase
import AssemblyAtlas.Text.Blank
import Mathlib.Data.List.DropRight

/-!
# Trimming

A trimmed text has no white space to lose, that is, none at its start and none at its end
(`Text.trim_eq_self_iff`). Trimming commutes with turning letters into lower case, since no letter
that changes is white space.
-/

namespace AssemblyAtlas.Text

theorem dropWhileEnd_eq_rdropWhile {α : Type} (p : α → Bool) (xs : List α) :
    dropWhileEnd p xs = xs.rdropWhile p := rfl

@[simp]
theorem toList_trim (s : String) :
    (trim s).toList = (s.toList.dropWhile isBlank).rdropWhile isBlank := by
  rw [trim, String.toList_ofList, dropWhileEnd_eq_rdropWhile]

theorem toList_trimEnd (s : String) : (trimEnd s).toList = s.toList.rdropWhile isBlank := by
  rw [trimEnd, String.toList_ofList, dropWhileEnd_eq_rdropWhile]

/-! ### Trimmed lists -/

theorem dropWhile_eq_self_of_prefix {α : Type} {p : α → Bool} {xs ys : List α}
    (h : xs <+: ys) (hys : ys.dropWhile p = ys) : xs.dropWhile p = xs := by
  cases xs with
  | nil => rfl
  | cons x xs =>
    obtain ⟨zs, rfl⟩ := h
    cases hx : p x with
    | false => rw [List.dropWhile_cons, hx]; rfl
    | true =>
      -- Otherwise the longer list would lose its first element, and get shorter.
      have hlen := congrArg List.length hys
      have hle := (List.dropWhile_suffix (l := xs ++ zs) p).length_le
      simp only [List.cons_append, List.dropWhile_cons, hx, if_true, List.length_cons] at hlen
      omega

theorem dropWhile_trim (s : String) : (trim s).toList.dropWhile isBlank = (trim s).toList := by
  rw [toList_trim]
  exact dropWhile_eq_self_of_prefix (List.rdropWhile_prefix _ _) (List.dropWhile_idempotent _ _)

theorem trim_trim (s : String) : trim (trim s) = trim s := by
  apply String.toList_injective
  rw [toList_trim (trim s), dropWhile_trim, toList_trim, List.rdropWhile_idempotent]

theorem trim_eq_empty_iff {s : String} : trim s = "" ↔ ∀ c ∈ s.toList, isBlank c = true := by
  rw [← String.toList_inj, toList_trim, String.toList_empty, List.rdropWhile_eq_nil_iff]
  constructor
  · intro h
    -- What is left after dropping blanks at the start does not start with one.
    cases hrest : s.toList.dropWhile isBlank with
    | nil => exact List.dropWhile_eq_nil_iff.1 hrest
    | cons c cs =>
      have hhead := List.head?_dropWhile_not isBlank s.toList
      rw [hrest] at h hhead
      simp [h c List.mem_cons_self] at hhead
  · intro h c hc
    exact h c ((List.dropWhile_suffix _).subset hc)

/-- Trimming keeps all characters that are not white space. -/
theorem count_trim {c : Char} (hc : isBlank c = false) (s : String) :
    (trim s).toList.count c = s.toList.count c := by
  have hnone : ∀ cs : List Char, (∀ d ∈ cs, isBlank d = true) → cs.count c = 0 := fun cs h =>
    List.count_eq_zero.2 fun hmem => absurd (h c hmem) (by simp [hc])
  have hstart : ∀ cs : List Char, (cs.dropWhile isBlank).count c = cs.count c := by
    intro cs
    conv_rhs => rw [← List.takeWhile_append_dropWhile (p := isBlank) (l := cs)]
    rw [List.count_append, hnone _ fun d hd => List.mem_takeWhile_imp hd, Nat.zero_add]
  have hend : ∀ cs : List Char, (cs.rdropWhile isBlank).count c = cs.count c := by
    intro cs
    conv_rhs => rw [← List.rdropWhile_append_rtakeWhile (p := isBlank) (l := cs)]
    rw [List.count_append, hnone _ fun d hd => List.mem_rtakeWhile_imp hd, Nat.add_zero]
  rw [toList_trim, hend, hstart]

/-! ### White space at the ends -/

/-- The text starts with white space. -/
def startsBlank (s : String) : Bool :=
  s.toList.head?.any isBlank

/-- The text ends in white space. -/
def endsBlank (s : String) : Bool :=
  s.toList.getLast?.any isBlank

theorem dropWhile_eq_self_iff {s : String} :
    s.toList.dropWhile isBlank = s.toList ↔ startsBlank s = false := by
  rw [startsBlank]
  cases s.toList with
  | nil => simp
  | cons c cs =>
    rw [List.dropWhile_eq_self_iff]
    simp

theorem trimEnd_eq_self_iff {s : String} : trimEnd s = s ↔ endsBlank s = false := by
  rw [← String.toList_inj, toList_trimEnd, endsBlank, List.rdropWhile_eq_self_iff]
  rcases List.eq_nil_or_concat s.toList with h | ⟨cs, c, h⟩
  · simp [h]
  · simp [h]

theorem trim_eq_self_iff {s : String} :
    trim s = s ↔ startsBlank s = false ∧ endsBlank s = false := by
  rw [← dropWhile_eq_self_iff, ← trimEnd_eq_self_iff]
  constructor
  · intro h
    have hstart : s.toList.dropWhile isBlank = s.toList := h ▸ dropWhile_trim s
    refine ⟨hstart, String.toList_injective ?_⟩
    rw [toList_trimEnd, ← hstart, ← toList_trim, h, hstart]
  · rintro ⟨hstart, hend⟩
    apply String.toList_injective
    rw [toList_trim, hstart, ← toList_trimEnd, hend]

theorem trimEnd_push {c : Char} (hc : isBlank c = true) (s : String) :
    trimEnd (s.push c) = trimEnd s := by
  apply String.toList_injective
  rw [toList_trimEnd, toList_trimEnd, String.toList_push, List.rdropWhile_concat_pos _ _ _ hc]

theorem endsBlank_push (s : String) (c : Char) : endsBlank (s.push c) = isBlank c := by
  simp [endsBlank]

theorem exists_push_of_endsBlank {s : String} (h : endsBlank s = true) :
    ∃ (before : String) (c : Char), s = before.push c ∧ isBlank c = true := by
  rcases List.eq_nil_or_concat s.toList with hs | ⟨cs, c, hs⟩
  · simp [endsBlank, hs] at h
  · refine ⟨String.ofList cs, c, String.toList_injective (by simp [hs]), ?_⟩
    simpa [endsBlank, hs] using h

theorem endsBlank_trim (s : String) : endsBlank (trim s) = false := by
  rw [← trimEnd_eq_self_iff, ← String.toList_inj, toList_trimEnd, toList_trim,
    List.rdropWhile_idempotent]

/-! ### Letter case -/

theorem isBlank_toLower (c : Char) : isBlank c.toLower = isBlank c := by
  rcases toLower_eq_self_or_letter c with h | ⟨hA, hZ, hlower⟩
  · rw [h]
  · rw [Bool.eq_iff_iff]
    simp only [isBlank, hlower, Bool.or_eq_true, Bool.and_eq_true, decide_eq_true_eq, beq_iff_eq]
    omega

theorem trim_lower (s : String) : trim (lower s) = lower (trim s) := by
  apply String.toList_injective
  have hblank : isBlank ∘ Char.toLower = isBlank := funext isBlank_toLower
  simp [List.rdropWhile, List.dropWhile_map, ← List.map_reverse, hblank]

end AssemblyAtlas.Text
