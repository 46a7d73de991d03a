import AssemblyAtlas.Paging.Page
import AssemblyAtlas.Proofs.Paging.Token

/-!
# Following the tokens of pages

Tokens come back as the requests they were made for, so whoever follows them from page to page sees
every item of the list from the requested offset on, once and in order (`Page.exhausts_fetch`). One
step either reaches the end of the list or goes on with a token that is understood, and each step
leaves fewer items.
-/

namespace AssemblyAtlas

/-! ### Pages -/

namespace Page

variable {α : Type}

/-- The pages of a list by their tokens; without a token the first page of the default size. -/
def fetch (xs : List α) (defaultSize : Nat) (token : Option String) : Except Error (Page α) := do
  let request ← PageRequest.ofToken token defaultSize
  return .of xs request

theorem fetch_eq_ok {xs : List α} {defaultSize : Nat} {token : Option String} {r : PageRequest}
    (h : PageRequest.ofToken token defaultSize = .ok r) :
    fetch xs defaultSize token = .ok (.of xs r) := by
  rw [fetch, h]
  rfl

/-- A page that does not reach the end of the list is full, and its token asks for the page of the
same size after it. -/
theorem of_before_end {xs : List α} {r : PageRequest} (hxs : xs.length < 2 ^ 63)
    (h : r.offset + r.size < xs.length) :
    (Page.of xs r).items.length = r.size ∧
      (Page.of xs r).next = some (PageRequest.token ⟨r.offset + r.size, r.size⟩) := by
  have hstop : min (r.offset + r.size) Word.uint64Max = r.offset + r.size := by
    simp only [Word.uint64Max]
    omega
  constructor
  · simp only [Page.of, List.length_take, List.length_drop]
    omega
  · simp only [Page.of, hstop, if_pos h]

/-- A page that reaches the end of the list has all the items that are left, and no token. -/
theorem of_at_end {xs : List α} {r : PageRequest} (hxs : xs.length < 2 ^ 63)
    (h : xs.length ≤ r.offset + r.size) :
    (Page.of xs r).items = xs.drop r.offset ∧ (Page.of xs r).next = none := by
  have hstop : ¬ min (r.offset + r.size) Word.uint64Max < xs.length := by
    simp only [Word.uint64Max]
    omega
  constructor
  · refine List.take_of_length_le ?_
    rw [List.length_drop]
    omega
  · simp only [Page.of, if_neg hstop]

/-! ### Walks -/

/-- Asking for the page of a token, and then for the page of each page's token, gives these pages
and ends: no request is refused, and the last page is the only one without a token. -/
inductive Walk (fetch : Option String → Except Error (Page α)) :
    Option String → List (Page α) → Prop where
  /-- The page has no token. -/
  | last {token : Option String} {page : Page α} (answer : fetch token = .ok page)
      (stop : page.next = none) : Walk fetch token [page]
  /-- The page has a token, and the walk goes on from there. -/
  | step {token : Option String} {page : Page α} {next : String} {pages : List (Page α)}
      (answer : fetch token = .ok page) (more : page.next = some next)
      (rest : Walk fetch (some next) pages) : Walk fetch token (page :: pages)

theorem Walk.ne_nil {fetch : Option String → Except Error (Page α)} {token : Option String}
    {pages : List (Page α)} (h : Walk fetch token pages) : pages ≠ [] := by
  cases h <;> simp

/-- The walk from a token that asks for `start` shows the items of the list from the offset on, each
once and in order. Every page knows the length of the list, and all but the last are full. -/
def Exhausts (fetch : Option String → Except Error (Page α)) (token : Option String)
    (start : PageRequest) (xs : List α) : Prop :=
  ∃ pages, Walk fetch token pages ∧
    pages.flatMap (·.items) = xs.drop start.offset ∧
    (∀ p ∈ pages, p.total = xs.length) ∧
    ∀ p ∈ pages.dropLast, p.items.length = start.size

/-- **Following tokens shows every item once.** The induction is on the number of items after the
offset, which each page but the last makes smaller. -/
theorem exhausts_fetch {xs : List α} (hxs : xs.length < 2 ^ 63) {defaultSize : Nat}
    {token : Option String} {start : PageRequest}
    (h : PageRequest.ofToken token defaultSize = .ok start) :
    Exhausts (fetch xs defaultSize) token start xs := by
  have hpos := (PageRequest.bounds_of_ofToken h).1
  induction hn : xs.length - start.offset using Nat.strong_induction_on
    generalizing token start with
  | _ n ih =>
    have hanswer : fetch xs defaultSize token = .ok (.of xs start) := fetch_eq_ok h
    by_cases hend : start.offset + start.size < xs.length
    · obtain ⟨hfull, hnext⟩ := of_before_end hxs hend
      have hoffset : start.offset + start.size < 2 ^ 63 := by omega
      have hsize : start.size < 2 ^ 63 := by omega
      have hback := PageRequest.ofToken_token (r := ⟨start.offset + start.size, start.size⟩)
        hoffset hpos hsize defaultSize
      obtain ⟨pages, hwalk, hitems, htotal, hsizes⟩ :=
        ih (xs.length - (start.offset + start.size)) (by omega) hback hpos rfl
      refine ⟨.of xs start :: pages, .step hanswer hnext hwalk, ?_, ?_, ?_⟩
      · rw [List.flatMap_cons, hitems]
        change (xs.drop start.offset).take start.size ++ xs.drop (start.offset + start.size) = _
        rw [← List.drop_drop, List.take_append_drop]
      · exact List.forall_mem_cons.2 ⟨rfl, htotal⟩
      · rw [List.dropLast_cons_of_ne_nil hwalk.ne_nil]
        exact List.forall_mem_cons.2 ⟨hfull, hsizes⟩
    · obtain ⟨hitems, hnext⟩ := of_at_end (r := start) hxs (by omega)
      refine ⟨[.of xs start], .last hanswer hnext, ?_, ?_, ?_⟩
      · rw [List.flatMap_singleton, hitems]
      · exact List.forall_mem_singleton.2 rfl
      · simp

end Page

end AssemblyAtlas
