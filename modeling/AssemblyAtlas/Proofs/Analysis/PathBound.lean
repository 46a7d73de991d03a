import AssemblyAtlas.Proofs.Analysis.Dependency

/-!
# Dependency paths under a larger bound

The bound on the length of dependency paths is tested for each type that is taken from the queue.
Since the queue goes by rounds (`Catalog.runQueue_eq_search`), the bound does not change what the
search does, only when it stops: the search with a larger bound goes through the same rounds first,
with the same types visited after each (`Catalog.search_add`), and what a round finds is one hop
longer than what the round before it found (`Catalog.level_followAll`). So a larger bound adds
longer paths at the end of the list and changes nothing before them
(`Catalog.dependencyPaths_stable`). Nothing is assumed about names: several assemblies may declare a
type of one name.
-/

namespace AssemblyAtlas

/-- The number of hops on a path, one less than the names on it. -/
def hops (path : List String) : Nat :=
  path.length - 1

namespace Catalog

variable {c : Catalog} {target : String} {k : Nat} {frontier : List Reached}
  {visited : List String}

/-! ### Lengths -/

/-- From paths of `k` hops, the search finds paths of more than `k` hops, and no more than the bound
allows. -/
theorem length_of_mem_search {n : Nat} (h : ∀ x ∈ frontier, x.path.length = k + 1)
    {p : List String} (hp : p ∈ c.search target n frontier visited) :
    k + 1 < p.length ∧ p.length ≤ k + n + 1 := by
  induction n generalizing k frontier visited with
  | zero =>
    rw [search] at hp
    exact absurd hp List.not_mem_nil
  | succ n ih =>
    have hround := level_followAll c target visited h
    rw [search_succ] at hp
    rcases List.mem_append.1 hp with hp | hp
    · have hlen := hround.found p hp
      omega
    · -- The later rounds start one hop further, with one round less to go.
      have hlater := ih hround.queue hp
      omega

/-! ### Rounds -/

/-- The types reached last and the names of all reached, after some rounds more. -/
def afterRounds (c : Catalog) (target : String) : Nat → List Reached → List String →
    List Reached × List String
  | 0, frontier, visited => (frontier, visited)
  | n + 1, frontier, visited =>
    let r := c.followAll target frontier visited
    c.afterRounds target n r.queue r.visited

theorem length_of_mem_afterRounds {n : Nat} (h : ∀ x ∈ frontier, x.path.length = k + 1) :
    ∀ x ∈ (c.afterRounds target n frontier visited).1, x.path.length = k + n + 1 := by
  induction n generalizing k frontier visited with
  | zero => exact h
  | succ n ih =>
    have hround := level_followAll c target visited h
    intro x hx
    have hlater := ih hround.queue x hx
    omega

/-- **The search with a larger bound does the same rounds first**, and goes on from where the search
with the smaller bound stops. -/
theorem search_add (c : Catalog) (target : String) (m n : Nat) (frontier : List Reached)
    (visited : List String) :
    c.search target (m + n) frontier visited =
      c.search target m frontier visited ++
        c.search target n (c.afterRounds target m frontier visited).1
          (c.afterRounds target m frontier visited).2 := by
  induction m generalizing frontier visited with
  | zero =>
    have hnone : c.search target 0 frontier visited = [] := by rw [search]
    rw [hnone, Nat.zero_add, List.nil_append, afterRounds]
  | succ m ih =>
    rw [Nat.add_right_comm, search_succ, search_succ, ih, List.append_assoc, afterRounds]

/-- **A larger bound only adds longer paths at the end.** The dependency paths of at most `l₁` hops
come first among those of at most `l₂` hops, in the same order, and the others are longer. From a
type to one of the same name there is the one path of no hop, whatever the bound. -/
theorem dependencyPaths_stable (c : Catalog) (source target : TypeSymbol) {l₁ l₂ : Nat}
    (hle : l₁ ≤ l₂) :
    c.dependencyPaths source target l₁ <+: c.dependencyPaths source target l₂ ∧
      c.dependencyPaths source target l₁ =
        (c.dependencyPaths source target l₂).filter (fun p => hops p ≤ l₁) ∧
      (source.fullName = target.fullName →
        ∀ l, c.dependencyPaths source target l = [[source.fullName]]) := by
  by_cases hname : source.fullName = target.fullName
  · have htrivial : ∀ l, c.dependencyPaths source target l = [[source.fullName]] := by
      intro l
      rw [dependencyPaths, if_pos (by simpa using hname)]
    rw [htrivial l₁, htrivial l₂]
    exact ⟨List.prefix_refl _, rfl, fun _ => htrivial⟩
  · have hstart : ∀ x ∈ [Reached.mk source [source.fullName]], x.path.length = 0 + 1 := by simp
    obtain ⟨more, rfl⟩ := Nat.exists_eq_add_of_le hle
    rw [dependencyPaths_eq_search c hname, dependencyPaths_eq_search c hname, search_add]
    refine ⟨List.prefix_append _ _, ?_, fun h => absurd h hname⟩
    -- Of the two parts, the filter keeps the first whole and nothing of the second.
    have hshort : ∀ p ∈ c.search target.fullName l₁ [⟨source, [source.fullName]⟩]
        [source.fullName], decide (hops p ≤ l₁) = true := by
      intro p hp
      have hlen := (length_of_mem_search hstart hp).2
      rw [decide_eq_true_eq, hops]
      omega
    rw [List.filter_append, List.filter_eq_self.2 hshort, List.filter_eq_nil_iff.2,
      List.append_nil]
    intro p hp
    have hlen := (length_of_mem_search (length_of_mem_afterRounds hstart) hp).1
    rw [decide_eq_true_eq, hops]
    omega

/-- Two assemblies declare a type `C`. One path of two hops leads to the target, and one of three
through the first `C`. -/
theorem dependencyPaths_stable_repeated :
    let field (name : String) : Field := { name, type := { fullName := name } }
    let a : TypeDef := { TypeDef.named "A" with fields := [field "B", field "C"] }
    let b : TypeDef := { TypeDef.named "B" with fields := [field "D"] }
    let c : TypeDef := { TypeDef.named "C" with fields := [field "E"] }
    let e : TypeDef := { TypeDef.named "E" with fields := [field "C", field "D"] }
    let lib : Assembly := .ofTypes "Lib" [a, b, c, e]
    let other : Assembly := .ofTypes "Other" [.named "C", .named "D"]
    let catalog := ofAssemblies [lib, other]
    let source : TypeSymbol := ⟨lib, a⟩
    let target : TypeSymbol := ⟨other, .named "D"⟩
    2 ≤ 3 ∧ catalog.dependencyPaths source target 2 = [["A", "B", "D"]] ∧
      catalog.dependencyPaths source target 3 = [["A", "B", "D"], ["A", "C", "E", "D"]] ∧
      catalog.dependencyPaths source target 2 <+: catalog.dependencyPaths source target 3 ∧
      catalog.dependencyPaths source target 2 =
        (catalog.dependencyPaths source target 3).filter (fun p => hops p ≤ 2) := by
  intro field a b c e lib other catalog source target
  obtain ⟨hfirst, hfilter, -⟩ := dependencyPaths_stable catalog source target (Nat.le_succ 2)
  exact ⟨Nat.le_succ 2, by decide +kernel, by decide +kernel, hfirst, hfilter⟩

end Catalog

end AssemblyAtlas
