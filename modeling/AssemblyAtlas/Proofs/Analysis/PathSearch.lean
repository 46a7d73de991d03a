import AssemblyAtlas.Analysis.Dependency
import AssemblyAtlas.Proofs.Catalog.Lookup

/-!
# The search for dependency paths, round by round

The search takes one type after another from its queue. The queue is ordered by the lengths of the
ways to its types, and these differ by one at most: at its front are the types of one round, behind
them those reached from the types of the round that were taken already. `Catalog.search` goes by
whole rounds instead: it follows all types of a frontier and goes on with those that were reached
first. A round of the queue does what a round of `search` does (`Catalog.runQueue_append`), so that
both find the same paths in the same order (`Catalog.runQueue_eq_search`); the bound on the length,
tested for each type that is taken, bounds the number of rounds. The queue is empty in the end,
because each turn takes a type and each name enters once (`Catalog.pending_follow_le`).
-/

namespace AssemblyAtlas

/-- A search from paths of `k` hops: what it finds and reaches has one hop more. -/
structure PathSearch.Level (k : Nat) (s : PathSearch) : Prop where
  found : ∀ p ∈ s.found, p.length = k + 2
  queue : ∀ x ∈ s.queue, x.path.length = k + 2

/-- The search with more found and more waiting before. -/
def PathSearch.after (found : List (List String)) (queue : List Reached) (s : PathSearch) :
    PathSearch :=
  { s with found := found ++ s.found, queue := queue ++ s.queue }

namespace Catalog

variable {c : Catalog} {target : String} {here : Reached} {s : PathSearch} {dep : TypeSig}

/-! ### One dependency -/

/-- A dependency adds a path only if it is the target, and the path is the one that ends there. -/
theorem mem_found_follow {p : List String} (h : p ∈ (c.follow target here s dep).found) :
    p ∈ s.found ∨ dep.fullName = target ∧ p = here.path ++ [target] := by
  unfold follow at h
  split at h
  · next htarget =>
    rcases List.mem_append.1 h with h | h
    · exact .inl h
    · exact .inr ⟨eq_of_beq htarget, List.mem_singleton.1 h⟩
  · split at h
    · exact .inl h
    · split at h <;> exact .inl h

/-- A dependency reaches the type that it is resolved to and no other. -/
theorem mem_queue_follow {x : Reached} (h : x ∈ (c.follow target here s dep).queue) :
    x ∈ s.queue ∨ c.resolveSig? dep here.symbol.assembly.name = some x.symbol ∧
      x.path = here.path ++ [dep.fullName] := by
  unfold follow at h
  split at h
  · exact .inl h
  · split at h
    · exact .inl h
    · split at h
      · exact .inl h
      · next symbol hsymbol =>
        rcases List.mem_append.1 h with h | h
        · exact .inl h
        · rw [List.mem_singleton.1 h]
          exact .inr ⟨hsymbol, rfl⟩

theorem level_follow {k : Nat} (hhere : here.path.length = k + 1) (h : s.Level k) (dep : TypeSig) :
    (c.follow target here s dep).Level k := by
  have hlonger : ∀ name : String, (here.path ++ [name]).length = k + 2 := by
    intro name
    rw [List.length_append, hhere, List.length_singleton]
  refine ⟨fun p hp => ?_, fun x hx => ?_⟩
  · rcases mem_found_follow hp with hp | ⟨-, rfl⟩
    · exact h.found p hp
    · exact hlonger target
  · rcases mem_queue_follow hx with hx | ⟨-, hpath⟩
    · exact h.queue x hx
    · rw [hpath]
      exact hlonger dep.fullName

/-- What was found and waiting before is not looked at. -/
theorem follow_after (c : Catalog) (target : String) (here : Reached) (found : List (List String))
    (queue : List Reached) (s : PathSearch) (dep : TypeSig) :
    c.follow target here (s.after found queue) dep =
      (c.follow target here s dep).after found queue := by
  unfold follow PathSearch.after
  split
  · rw [List.append_assoc]
  · split
    · rfl
    · split
      · rfl
      · rw [List.append_assoc]

/-! ### How long the queue lasts -/

/-- The types whose names have not been reached. -/
def unreached (c : Catalog) (visited : List String) : List TypeSymbol :=
  c.types.filter fun x => !visited.contains x.fullName

/-- A bound on the turns that a search still takes: each type in the queue takes one, and each type
whose name has not been reached may enter the queue. -/
def pending (c : Catalog) (s : PathSearch) : Nat :=
  s.queue.length + (c.unreached s.visited).length

/-- To mark the name of a declared type leaves fewer types to reach. -/
theorem length_unreached_cons_lt {x : TypeSymbol} (hx : x ∈ c.types) {visited : List String}
    (hnew : x.fullName ∉ visited) :
    (c.unreached (x.fullName :: visited)).length < (c.unreached visited).length := by
  have hsplit : c.unreached (x.fullName :: visited) =
      (c.unreached visited).filter fun y => y.fullName != x.fullName := by
    rw [unreached, unreached, List.filter_filter]
    refine List.filter_congr fun y _ => ?_
    rw [List.contains_cons, Bool.not_or]
    rfl
  rw [hsplit, List.length_filter_lt_length_iff_exists]
  refine ⟨x, List.mem_filter.2 ⟨hx, by simpa using hnew⟩, by simp⟩

/-- **One dependency** puts a type into the queue only in place of one that was not reached. -/
theorem pending_follow_le (c : Catalog) (target : String) (here : Reached) (s : PathSearch)
    (dep : TypeSig) : c.pending (c.follow target here s dep) ≤ c.pending s := by
  unfold follow
  split
  · exact Nat.le_refl _
  · split
    · exact Nat.le_refl _
    · next hnew =>
      split
      · exact Nat.le_refl _
      · next symbol hsymbol =>
        obtain ⟨hdeclared, hname⟩ := resolveSig?_sound hsymbol
        have hfresh : symbol.fullName ∉ s.visited := by simpa [hname] using hnew
        have hlt := length_unreached_cons_lt hdeclared hfresh
        rw [hname] at hlt
        simp only [pending, List.length_append, List.length_singleton]
        omega

/-! ### Rounds -/

/-- Follows all dependencies of all types reached in the round before. -/
def followAll (c : Catalog) (target : String) (frontier : List Reached) (visited : List String) :
    PathSearch :=
  frontier.foldl (c.followEach target) ⟨[], [], visited⟩

/-- The paths to the target from the types reached, with at most `hops` more dependencies. -/
def search (c : Catalog) (target : String) : (hops : Nat) → List Reached → (visited : List String) →
    List (List String)
  | 0, _, _ => []
  | hops + 1, frontier, visited =>
    let s := c.followAll target frontier visited
    s.found ++ c.search target hops s.queue s.visited

variable {k : Nat} {frontier : List Reached} {visited : List String}

theorem search_succ (c : Catalog) (target : String) (hops : Nat) (frontier : List Reached)
    (visited : List String) :
    c.search target (hops + 1) frontier visited =
      (c.followAll target frontier visited).found ++
        c.search target hops (c.followAll target frontier visited).queue
          (c.followAll target frontier visited).visited :=
  rfl

/-- What each dependency of the frontier keeps is kept by the round. -/
theorem followAll_induction {motive : PathSearch → Prop} (frontier : List Reached)
    (visited : List String) (start : motive ⟨[], [], visited⟩)
    (follow : ∀ s here dep, here ∈ frontier → dep ∈ here.symbol.type.dependencies → motive s →
      motive (c.follow target here s dep)) :
    motive (c.followAll target frontier visited) := by
  refine List.foldlRecOn frontier _ start fun s hs here hhere => ?_
  exact List.foldlRecOn _ _ hs fun s hs dep hdep => follow s here dep hhere hdep hs

/-- What a round reaches is declared. -/
theorem followAll_queue_mem_types (target : String) (frontier : List Reached)
    (visited : List String) :
    ∀ x ∈ (c.followAll target frontier visited).queue, x.symbol ∈ c.types := by
  refine followAll_induction (motive := fun s => ∀ x ∈ s.queue, x.symbol ∈ c.types) frontier visited
    (by simp) fun s here dep _ _ hs x hx => ?_
  rcases mem_queue_follow hx with hx | ⟨hsymbol, -⟩
  · exact hs x hx
  · exact (resolveSig?_sound hsymbol).1

/-- **One round** finds and reaches what is one hop further. -/
theorem level_followAll (c : Catalog) (target : String) (visited : List String)
    (h : ∀ x ∈ frontier, x.path.length = k + 1) :
    (c.followAll target frontier visited).Level k :=
  followAll_induction frontier visited ⟨by simp, by simp⟩
    fun _ _ dep hhere _ hs => level_follow (h _ hhere) hs dep

/-- A round reaches no more types than had not been reached before it. -/
theorem pending_followAll_le (c : Catalog) (target : String) (frontier : List Reached)
    (visited : List String) :
    c.pending (c.followAll target frontier visited) ≤ (c.unreached visited).length :=
  followAll_induction (motive := fun s => c.pending s ≤ (c.unreached visited).length) frontier
    visited (by simp [pending])
    fun s here dep _ _ hs => Nat.le_trans (pending_follow_le c target here s dep) hs

/-! ### Rounds of the queue -/

theorem followEach_after (c : Catalog) (target : String) (found : List (List String))
    (queue : List Reached) (s : PathSearch) (here : Reached) :
    c.followEach target (s.after found queue) here =
      (c.followEach target s here).after found queue :=
  List.foldl_hom (PathSearch.after found queue) fun s dep =>
    follow_after c target here found queue s dep

/-- **One turn.** The type at the front of the queue is taken and followed, if the way to it has no
more names than the bound allows hops. What it reaches goes to the end of the queue. -/
theorem runQueue_cons {maxLength : Nat} (hshort : here.path.length ≤ maxLength) (fuel : Nat)
    (found : List (List String)) (queue : List Reached) (s : PathSearch) :
    c.runQueue target maxLength (fuel + 1) (s.after found (here :: queue)) =
      c.runQueue target maxLength fuel ((c.followEach target s here).after found queue) := by
  rw [← followEach_after]
  simp only [runQueue, PathSearch.after, List.cons_append, if_neg (Nat.not_lt.2 hshort)]

/-- **One round of the queue.** Of a queue with the types of a round in front and those reached in
the round already behind them, the former are taken one by one, and what they reach is behind the
latter then. -/
theorem runQueue_append {maxLength : Nat} (hshort : ∀ x ∈ frontier, x.path.length ≤ maxLength)
    (fuel : Nat) (found : List (List String)) (s : PathSearch) :
    c.runQueue target maxLength (frontier.length + fuel) (s.after found frontier) =
      c.runQueue target maxLength fuel
        ((frontier.foldl (c.followEach target) s).after found []) := by
  induction frontier generalizing s with
  | nil => rw [List.length_nil, Nat.zero_add, List.foldl_nil]
  | cons here frontier ih =>
    rw [List.length_cons, Nat.add_right_comm, runQueue_cons (hshort here List.mem_cons_self),
      ih fun x hx => hshort x (List.mem_cons_of_mem here hx), List.foldl_cons]

/-- Types on ways with more names than the bound allows hops are passed over. -/
theorem runQueue_of_long {maxLength fuel : Nat} {found : List (List String)}
    {queue : List Reached} (hlong : ∀ x ∈ queue, maxLength < x.path.length)
    (hfuel : queue.length ≤ fuel) :
    c.runQueue target maxLength fuel ⟨found, queue, visited⟩ = ⟨found, [], visited⟩ := by
  induction queue generalizing fuel with
  | nil => cases fuel <;> rfl
  | cons here queue ih =>
    have hpass : maxLength < here.path.length := hlong here List.mem_cons_self
    cases fuel with
    | zero => exact absurd hfuel (by simp)
    | succ fuel =>
      simp only [runQueue, if_pos hpass]
      exact ih (fun x hx => hlong x (List.mem_cons_of_mem here hx)) (Nat.le_of_succ_le_succ hfuel)

/-- **The queue does what the rounds do.** From types on ways of `k` hops, with a turn for each of
them and for each type not reached, the queue gets empty, and the paths found on the way are those
of as many rounds as the bound allows. -/
theorem runQueue_eq_search {maxLength hops fuel : Nat} (hhops : k + hops = maxLength)
    (hlength : ∀ x ∈ frontier, x.path.length = k + 1)
    (hfuel : frontier.length + (c.unreached visited).length ≤ fuel) (found : List (List String)) :
    (c.runQueue target maxLength fuel ⟨found, frontier, visited⟩).queue = [] ∧
      (c.runQueue target maxLength fuel ⟨found, frontier, visited⟩).found =
        found ++ c.search target hops frontier visited := by
  induction hops generalizing k frontier visited fuel found with
  | zero =>
    have hlong : ∀ x ∈ frontier, maxLength < x.path.length := by
      intro x hx
      rw [hlength x hx]
      omega
    rw [runQueue_of_long hlong (by omega), search, List.append_nil]
    exact ⟨rfl, rfl⟩
  | succ hops ih =>
    have hshort : ∀ x ∈ frontier, x.path.length ≤ maxLength := by
      intro x hx
      rw [hlength x hx]
      omega
    -- The types of the round are taken first, which leaves turns for those that they reach.
    obtain ⟨fuel, rfl⟩ := Nat.exists_eq_add_of_le (Nat.le_of_add_right_le hfuel)
    have hround :
        c.runQueue target maxLength (frontier.length + fuel) ⟨found, frontier, visited⟩ =
          c.runQueue target maxLength fuel
            ((c.followAll target frontier visited).after found []) := by
      rw [followAll, ← runQueue_append hshort]
      simp only [PathSearch.after, List.append_nil]
    have hpending := pending_followAll_le c target frontier visited
    rw [pending] at hpending
    rw [hround, search_succ, ← List.append_assoc]
    exact ih (by omega) (level_followAll c target visited hlength).queue (by omega) _

/-- **The dependency paths are those of the rounds.** -/
theorem dependencyPaths_eq_search (c : Catalog) {source target : TypeSymbol}
    (hne : source.fullName ≠ target.fullName) (maxLength : Nat) :
    c.dependencyPaths source target maxLength =
      c.search target.fullName maxLength [⟨source, [source.fullName]⟩] [source.fullName] := by
  have hfuel : 1 + (c.unreached [source.fullName]).length ≤ c.types.length + 1 := by
    have hle : (c.unreached [source.fullName]).length ≤ c.types.length := List.length_filter_le _ _
    omega
  rw [dependencyPaths, if_neg (by simpa using hne)]
  exact (runQueue_eq_search (Nat.zero_add maxLength) (by simp) hfuel []).2

end Catalog

end AssemblyAtlas
