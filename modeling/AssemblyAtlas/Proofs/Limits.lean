import AssemblyAtlas.Limits
import AssemblyAtlas.Proofs.Text.Blank
import Mathlib.Tactic.MkIffOfInductiveProp

/-!
# Cutting texts

A text that is too long is cut at a boundary between characters, which is found by going back from
the limit. The result is the longest beginning of the text in whole characters that fits
(`Limits.longest_cut`), whatever the sizes of its characters, and at most three bytes of the limit
are left unused (`Text.Longest.lt_size_add_four`).

Names and patterns are trimmed before they are cut (`Limits.longest_normalize`). The cut can fall
after white space inside the text, and such a result is not trimmed: normalizing it once more
shortens it (`Limits.normalize_normalize_iff`).
-/

namespace AssemblyAtlas

/-! ### Longest beginnings -/

namespace Text

theorem eq_append_of_prefix {s t : String} (h : t.toList <+: s.toList) :
    ∃ rest : String, s = t ++ rest := by
  obtain ⟨rest, hrest⟩ := h
  refine ⟨String.ofList rest, String.toList_injective ?_⟩
  rw [String.toList_append, String.toList_ofList, hrest]

theorem utf8ByteSize_le_of_prefix {s t : String} (h : t.toList <+: s.toList) :
    t.utf8ByteSize ≤ s.utf8ByteSize := by
  obtain ⟨rest, rfl⟩ := eq_append_of_prefix h
  rw [String.utf8ByteSize_append]
  exact Nat.le_add_right _ _

/-- Of two beginnings of a text, the one with no more bytes is a beginning of the other. -/
theorem prefix_of_utf8ByteSize_le {s t u : String} (ht : t.toList <+: s.toList)
    (hu : u.toList <+: s.toList) (h : u.utf8ByteSize ≤ t.utf8ByteSize) : u.toList <+: t.toList := by
  rcases List.prefix_or_prefix_of_prefix hu ht with hut | htu
  · exact hut
  · obtain ⟨rest, rfl⟩ := eq_append_of_prefix htu
    rw [String.utf8ByteSize_append] at h
    obtain rfl : rest = "" := String.utf8ByteSize_eq_zero_iff.1 (by omega)
    simp only [String.append_empty, List.prefix_rfl]

/-- `t` is the longest beginning of `s` in whole characters that has at most `n` bytes. -/
structure Longest (n : Nat) (s t : String) : Prop where
  isPrefix : t.toList <+: s.toList
  size_le : t.utf8ByteSize ≤ n
  longest : ∀ u : String, u.toList <+: s.toList → u.utf8ByteSize ≤ n → u.toList <+: t.toList

namespace Longest

variable {n : Nat} {s t u : String}

theorem refl (h : s.utf8ByteSize ≤ n) : Longest n s s :=
  ⟨List.prefix_rfl, h, fun _ hu _ => hu⟩

/-- The next character does not fit. -/
theorem next_exceeds (h : Longest n s t) {c : Char} {rest : List Char}
    (hs : s.toList = t.toList ++ c :: rest) : n < t.utf8ByteSize + c.utf8Size := by
  by_contra hfits
  have hpush : (t.push c).toList <+: s.toList := ⟨rest, by simp [hs]⟩
  have hsize : (t.push c).utf8ByteSize ≤ n := by
    rw [String.utf8ByteSize_push]
    omega
  have hlen := (h.longest _ hpush hsize).length_le
  rw [String.toList_push, List.length_append, List.length_singleton] at hlen
  omega

/-- A beginning that fits, but not with the next character, is the longest. -/
theorem eq_of_next_exceeds (h : Longest n s t) (hu : u.utf8ByteSize ≤ n) {c : Char}
    {rest : List Char} (hs : s.toList = u.toList ++ c :: rest)
    (hc : n < u.utf8ByteSize + c.utf8Size) : t = u := by
  have hut : u.toList <+: t.toList := h.longest u ⟨_, hs.symm⟩ hu
  have hpush : (u.push c).toList <+: s.toList := ⟨rest, by simp [hs]⟩
  have hsize := h.size_le
  have htpush : t.utf8ByteSize ≤ (u.push c).utf8ByteSize := by
    rw [String.utf8ByteSize_push]
    omega
  have htu := prefix_of_utf8ByteSize_le hpush h.isPrefix htpush
  rw [String.toList_push, List.prefix_concat_iff] at htu
  rcases htu with heq | htu
  · -- The next character would be part of what fits.
    rw [← String.toList_push, String.toList_inj] at heq
    rw [heq, String.utf8ByteSize_push] at hsize
    omega
  · exact String.toList_injective (htu.eq_of_length_le hut.length_le)

/-- A character has at most four bytes, so at most three bytes are left unused. -/
theorem lt_size_add_four (h : Longest n s t) (hn : n < s.utf8ByteSize) :
    n < t.utf8ByteSize + 4 := by
  obtain ⟨rest, hrest⟩ := h.isPrefix
  cases rest with
  | nil =>
    rw [List.append_nil] at hrest
    obtain rfl := String.toList_injective hrest
    omega
  | cons c rest =>
    have hnext := h.next_exceeds hrest.symm
    have hfour := Char.utf8Size_le_four c
    omega

end Longest

end Text

namespace Limits

/-! ### Going back to a boundary -/

section

variable (s : String) (n : Nat)

theorem backOff_le : (backOff s n).offset.byteIdx ≤ n := by
  induction n with
  | zero => exact Nat.le_refl 0
  | succ n ih =>
    rw [backOff]
    split
    · exact Nat.le_refl _
    · exact ih.trans (Nat.le_succ n)

variable {s n}

/-- No boundary up to `n` lies after the one that is found. -/
theorem le_backOff {m : Nat} (hm : String.Pos.Raw.IsValid s ⟨m⟩) (h : m ≤ n) :
    m ≤ (backOff s n).offset.byteIdx := by
  induction n with
  | zero => exact h.trans (Nat.zero_le _)
  | succ n ih =>
    rw [backOff]
    split
    · exact h
    · next hne =>
      have hlt : m ≠ n + 1 := by rintro rfl; exact hne hm
      exact ih (by omega)

variable (s n)

theorem utf8ByteSize_cut : (cut s n).utf8ByteSize = (backOff s n).offset.byteIdx := by
  simp [cut]

theorem isValid_utf8ByteSize_cut : String.Pos.Raw.IsValid s ⟨(cut s n).utf8ByteSize⟩ := by
  rw [utf8ByteSize_cut]
  exact (backOff s n).isValid

theorem not_isValid_of_cut_lt {m : Nat} (hm : (cut s n).utf8ByteSize < m) (h : m ≤ n) :
    ¬ String.Pos.Raw.IsValid s ⟨m⟩ := by
  intro hvalid
  rw [utf8ByteSize_cut] at hm
  exact Nat.not_lt.2 (le_backOff hvalid h) hm

/-- **The cut leaves the longest beginning that fits.** -/
theorem longest_cut : Text.Longest n s (cut s n) := by
  have hstarts : (cut s n).toList <+: s.toList := by
    refine ⟨(s.sliceFrom (backOff s n)).copy.toList, ?_⟩
    rw [cut, ← String.toList_append, ← (backOff s n).splits.eq_append]
  refine ⟨hstarts, utf8ByteSize_cut s n ▸ backOff_le s n, fun u hu hsize => ?_⟩
  -- The end of a beginning is a boundary, so the search does not go back past it.
  have hboundary : String.Pos.Raw.IsValid s ⟨u.utf8ByteSize⟩ := by
    obtain ⟨rest, hs⟩ := Text.eq_append_of_prefix hu
    exact String.Pos.Raw.isValid_iff_exists_append.2 ⟨u, rest, hs, rfl⟩
  refine Text.prefix_of_utf8ByteSize_le hstarts hu ?_
  rw [utf8ByteSize_cut]
  exact le_backOff hboundary hsize

end

/-! ### Texts that are left as they are -/

/-- Normalizing leaves the text as it is: it has no white space around it and is not too long. -/
@[mk_iff]
structure Within (s : String) : Prop where
  trim_eq : Text.trim s = s
  size_le : s.utf8ByteSize ≤ queryBytes

instance (s : String) : Decidable (Within s) :=
  decidable_of_iff' _ (within_iff s)

theorem Within.normalize_eq {s : String} (h : Within s) : normalize s = s := by
  rw [normalize, h.trim_eq, if_pos h.size_le]

/-- A text without white space before it that is not too long is left without white space after
it. -/
theorem within_trimEnd {s : String} (hstart : s.toList.dropWhile Text.isBlank = s.toList)
    (hsize : s.utf8ByteSize ≤ queryBytes) : Within (Text.trimEnd s) := by
  have hstarts : (Text.trimEnd s).toList <+: s.toList := by
    rw [Text.toList_trimEnd]
    exact List.rdropWhile_prefix _ _
  constructor
  · apply String.toList_injective
    rw [Text.toList_trim, Text.dropWhile_eq_self_of_prefix hstarts hstart, Text.toList_trimEnd,
      List.rdropWhile_idempotent]
  · exact (Text.utf8ByteSize_le_of_prefix hstarts).trans hsize

/-- What precedes a sign in a text, without the white space before the sign. -/
theorem Within.of_prefix {s : String} (h : Within s) {cs : List Char} (hcs : cs <+: s.toList) :
    Within (Text.trimEnd (String.ofList cs)) := by
  have hstarts : (String.ofList cs).toList <+: s.toList := by rwa [String.toList_ofList]
  have hstart : s.toList.dropWhile Text.isBlank = s.toList := h.trim_eq ▸ Text.dropWhile_trim s
  exact within_trimEnd (Text.dropWhile_eq_self_of_prefix hstarts hstart)
    ((Text.utf8ByteSize_le_of_prefix hstarts).trans h.size_le)

/-! ### Normalized texts -/

theorem normalize_of_le {q : String} (h : (Text.trim q).utf8ByteSize ≤ queryBytes) :
    normalize q = Text.trim q := by
  rw [normalize, if_pos h]

theorem normalize_of_lt {q : String} (h : queryBytes < (Text.trim q).utf8ByteSize) :
    normalize q = cut (Text.trim q) queryBytes := by
  rw [normalize, if_neg (Nat.not_le.2 h)]

theorem longest_normalize (q : String) :
    Text.Longest queryBytes (Text.trim q) (normalize q) := by
  rcases Nat.lt_or_ge queryBytes (Text.trim q).utf8ByteSize with h | h
  · rw [normalize_of_lt h]
    exact longest_cut _ _
  · rw [normalize_of_le h]
    exact .refl h

/-- A name that is not blank is not blank after it was cut: every character has at most four
bytes. -/
theorem normalize_ne_empty {s : String} (h : Text.trim s ≠ "") : normalize s ≠ "" := by
  intro hempty
  cases hchars : (Text.trim s).toList with
  | nil => exact h (String.toList_inj.1 hchars)
  | cons c cs =>
    have hlongest := longest_normalize s
    rw [hempty] at hlongest
    have hfirst := hlongest.next_exceeds hchars
    have hfour := Char.utf8Size_le_four c
    rw [String.utf8ByteSize_empty, queryBytes] at hfirst
    omega

/-- **Texts are cut at the right place.** The result is the longest beginning of the trimmed text
that has at most 512 bytes. If the trimmed text is longer, the search for a boundary stops at most
three bytes below the limit, and all bytes that it passes are inside a character of the text. -/
theorem normalize_cuts (q : String) :
    let text := Text.trim q
    let size := (normalize q).utf8ByteSize
    Text.Longest 512 text (normalize q) ∧
    (text.utf8ByteSize ≤ 512 → normalize q = text) ∧
    (512 < text.utf8ByteSize → 509 ≤ size ∧ size ≤ 512 ∧
      (backOff text 512).offset.byteIdx = size ∧ String.Pos.Raw.IsValid text ⟨size⟩ ∧
      ∀ n, size < n → n ≤ 512 → ¬ String.Pos.Raw.IsValid text ⟨n⟩) := by
  intro text size
  have hlongest : Text.Longest 512 text (normalize q) := longest_normalize q
  refine ⟨hlongest, normalize_of_le, fun hlong => ?_⟩
  have hcut : normalize q = cut text 512 := normalize_of_lt hlong
  have hsize : size = (cut text 512).utf8ByteSize := congrArg String.utf8ByteSize hcut
  have hfour : 512 < size + 4 := hlongest.lt_size_add_four hlong
  rw [hsize] at hfour ⊢
  exact ⟨by omega, (longest_cut text 512).size_le, (utf8ByteSize_cut text 512).symm,
    isValid_utf8ByteSize_cut text 512, fun n => not_isValid_of_cut_lt text 512⟩

/-- One letter of one byte and two hundred of four bytes: the limit falls before the last byte of a
letter, and the search goes back three bytes. -/
theorem normalize_cuts_wide :
    let wide (n : Nat) : String := String.ofList ('a' :: List.replicate n '𝔸')
    512 < (Text.trim (wide 200)).utf8ByteSize ∧ normalize (wide 200) = wide 127 ∧
      (normalize (wide 200)).utf8ByteSize = 509 ∧
      ∀ n, 509 < n → n ≤ 512 → ¬ String.Pos.Raw.IsValid (Text.trim (wide 200)) ⟨n⟩ := by
  intro wide
  have hsize (n : Nat) : (wide n).utf8ByteSize = 1 + n * 4 := by
    rw [Text.utf8ByteSize_ofList_cons, Text.utf8ByteSize_ofList_replicate]
    rfl
  have hsplit (m n : Nat) :
      (wide (m + (n + 1))).toList = (wide m).toList ++ '𝔸' :: List.replicate n '𝔸' := by
    simp [wide, List.replicate_add, List.replicate_succ]
  have htrim (n : Nat) : Text.trim (wide (n + 1)) = wide (n + 1) := by
    have hpush : wide (n + 1) = (wide n).push '𝔸' :=
      String.toList_injective ((hsplit n 0).trans (String.toList_push _).symm)
    rw [Text.trim_eq_self_iff]
    constructor
    · rw [Text.startsBlank, String.toList_ofList, List.head?_cons]
      decide
    · rw [hpush, Text.endsBlank_push]
      decide
  have hlong : 512 < (Text.trim (wide 200)).utf8ByteSize := by
    rw [htrim 199, hsize]
    decide
  obtain ⟨hlongest, -, hstop⟩ := normalize_cuts (wide 200)
  obtain ⟨-, -, -, -, hinside⟩ := hstop hlong
  have hcut : normalize (wide 200) = wide 127 := by
    rw [htrim 199] at hlongest
    refine hlongest.eq_of_next_exceeds ?_ (hsplit 127 72) ?_
    · rw [hsize]
      decide
    · rw [hsize]
      decide
  have hbytes : (normalize (wide 200)).utf8ByteSize = 509 := by rw [hcut, hsize]
  exact ⟨hlong, hcut, hbytes, hbytes ▸ hinside⟩

/-! ### Normalizing twice -/

/-- The limit falls after white space: the text has white space that ends within the limit, and the
character after it does not. -/
def BlankAtLimit (text : String) : Prop :=
  ∃ (before : String) (c next : Char) (rest : List Char),
    text.toList = before.toList ++ c :: next :: rest ∧ Text.isBlank c = true ∧
    (before.push c).utf8ByteSize ≤ queryBytes ∧
    queryBytes < ((before.push c).push next).utf8ByteSize

theorem dropWhile_normalize (q : String) :
    (normalize q).toList.dropWhile Text.isBlank = (normalize q).toList :=
  Text.dropWhile_eq_self_of_prefix (longest_normalize q).isPrefix (Text.dropWhile_trim q)

theorem within_trimEnd_normalize (q : String) : Within (Text.trimEnd (normalize q)) :=
  within_trimEnd (dropWhile_normalize q) (longest_normalize q).size_le

/-- Normalizing once more removes white space at the end, and nothing else. -/
theorem normalize_normalize (q : String) :
    normalize (normalize q) = Text.trimEnd (normalize q) := by
  have htrim : Text.trim (normalize q) = Text.trimEnd (normalize q) := by
    apply String.toList_injective
    rw [Text.toList_trim, Text.toList_trimEnd, dropWhile_normalize]
  rw [normalize, htrim, if_pos (within_trimEnd_normalize q).size_le]

/-- The result ends in white space exactly if the limit falls after white space. -/
theorem endsBlank_normalize_iff (q : String) :
    Text.endsBlank (normalize q) = true ↔ BlankAtLimit (Text.trim q) := by
  have hlongest := longest_normalize q
  constructor
  · intro hends
    obtain ⟨before, c, hpush, hblank⟩ := Text.exists_push_of_endsBlank hends
    obtain ⟨rest, htext⟩ := hlongest.isPrefix
    cases rest with
    | nil =>
      -- A text that is not cut does not end in white space.
      rw [List.append_nil, String.toList_inj] at htext
      rw [htext, Text.endsBlank_trim] at hends
      cases hends
    | cons next rest =>
      have hnext := hlongest.next_exceeds htext.symm
      refine ⟨before, c, next, rest, ?_, hblank, hpush ▸ hlongest.size_le, ?_⟩
      · rw [← htext, hpush, String.toList_push, List.append_assoc, List.singleton_append]
      · rwa [← hpush, String.utf8ByteSize_push]
  · rintro ⟨before, c, next, rest, htext, hblank, hfits, hexceeds⟩
    have hpush : (Text.trim q).toList = (before.push c).toList ++ next :: rest := by
      rw [htext, String.toList_push, List.append_assoc, List.singleton_append]
    rw [String.utf8ByteSize_push] at hexceeds
    rw [hlongest.eq_of_next_exceeds hfits hpush hexceeds, Text.endsBlank_push, hblank]

/-- **Normalizing twice.** A normalized text does not start with white space. It ends in white space
exactly if the limit falls after white space, and only then does normalizing it once more change
it: the white space at the end goes. After that nothing changes any more. -/
theorem normalize_normalize_iff (q : String) :
    Text.startsBlank (normalize q) = false ∧
    (Text.endsBlank (normalize q) = true ↔ BlankAtLimit (Text.trim q)) ∧
    (normalize (normalize q) = normalize q ↔ ¬ BlankAtLimit (Text.trim q)) ∧
    normalize (normalize q) = Text.trimEnd (normalize q) ∧
    Text.endsBlank (normalize (normalize q)) = false ∧
    normalize (normalize (normalize q)) = normalize (normalize q) := by
  have hwithin : Within (normalize (normalize q)) := by
    rw [normalize_normalize]
    exact within_trimEnd_normalize q
  refine ⟨Text.dropWhile_eq_self_iff.1 (dropWhile_normalize q), endsBlank_normalize_iff q, ?_,
    normalize_normalize q, ?_, hwithin.normalize_eq⟩
  · rw [normalize_normalize, Text.trimEnd_eq_self_iff, ← endsBlank_normalize_iff, Bool.not_eq_true]
  · rw [← hwithin.trim_eq, Text.endsBlank_trim]

/-- A text of 513 bytes with a space before the last: the space is the last byte within the limit,
and it goes when the text is normalized again. -/
theorem normalize_shortens_twice :
    let word (n : Nat) : String := String.ofList (List.replicate n 'a')
    let q : String := ((word 511).push ' ').push 'b'
    normalize q = (word 511).push ' ' ∧ Text.endsBlank (normalize q) = true ∧
      normalize (normalize q) = word 511 ∧ normalize (normalize q) ≠ normalize q := by
  intro word q
  have hsize : (word 511).utf8ByteSize = 511 := Text.utf8ByteSize_ofList_replicate 511 'a'
  have hspace : Text.isBlank ' ' = true := by decide
  have htrim : Text.trim q = q := by
    have hstart (n : Nat) (c d : Char) :
        Text.startsBlank (((word (n + 1)).push c).push d) = false := by
      simp only [Text.startsBlank, word, List.replicate_succ, String.toList_push,
        String.toList_ofList, List.cons_append, List.head?_cons]
      decide
    rw [Text.trim_eq_self_iff, Text.endsBlank_push]
    exact ⟨hstart 510 ' ' 'b', by decide⟩
  have honce : normalize q = (word 511).push ' ' := by
    have hlongest := longest_normalize q
    rw [htrim] at hlongest
    have hsplit : q.toList = ((word 511).push ' ').toList ++ 'b' :: [] := String.toList_push _
    refine hlongest.eq_of_next_exceeds ?_ hsplit ?_
    · rw [String.utf8ByteSize_push, hsize]
      decide
    · rw [String.utf8ByteSize_push, hsize]
      decide
  have hends : Text.endsBlank (normalize q) = true := by rw [honce, Text.endsBlank_push, hspace]
  have hword (n : Nat) : Text.endsBlank (word (n + 1)) = false := by
    have hpush : word (n + 1) = (word n).push 'a' :=
      String.toList_injective (by simp [word, List.replicate_succ'])
    rw [hpush, Text.endsBlank_push]
    decide
  have htwice : normalize (normalize q) = word 511 := by
    rw [normalize_normalize, honce, Text.trimEnd_push hspace, Text.trimEnd_eq_self_iff]
    exact hword 510
  refine ⟨honce, hends, htwice, fun heq => ?_⟩
  rw [← heq, htwice, hword 510] at hends
  cases hends

end Limits

end AssemblyAtlas
