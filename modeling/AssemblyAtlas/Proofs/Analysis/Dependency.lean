import Mathlib.Data.List.Forall2
import Mathlib.Tactic.Tauto
import AssemblyAtlas.Proofs.Analysis.PathSearch

/-!
# Dependency paths

The search for paths from one type to another takes types from a queue, which amounts to going in
rounds (`Catalog.dependencyPaths_eq_search`). After `k` rounds the frontier has exactly the types at
distance `k` from the source, on chains that avoid the target, each with a shortest chain to it
(`Catalog.Frontier`); a round keeps this (`Catalog.Frontier.next`), because what it does can be said
dependency by dependency (`Catalog.Followed`). It follows which paths are listed: one through each
type that names the target, by a shortest chain (`Catalog.dependencyPaths_exact`).
-/

namespace AssemblyAtlas

/-! ### Dependencies -/

namespace TypeSig

/-- Induction along `firstOfEachName`, which drops the later signatures of a name it keeps. -/
@[elab_as_elim]
theorem firstOfEachNameInduction {motive : List TypeSig → Prop} (nil : motive [])
    (cons : ∀ s sigs, motive (sigs.filter fun t => t.fullName != s.fullName) → motive (s :: sigs))
    (sigs : List TypeSig) : motive sigs := by
  induction hn : sigs.length using Nat.strongRecOn generalizing sigs with
  | ind n ih =>
    cases sigs with
    | nil => exact nil
    | cons s sigs =>
      have hle := List.length_filter_le (fun t : TypeSig => t.fullName != s.fullName) sigs
      rw [List.length_cons] at hn
      exact cons s sigs (ih _ (by omega) _ rfl)

theorem firstOfEachName_cons (s : TypeSig) (sigs : List TypeSig) :
    firstOfEachName (s :: sigs) =
      s :: firstOfEachName (sigs.filter fun t => t.fullName != s.fullName) := by
  rw [firstOfEachName, List.eraseDupsBy_cons, firstOfEachName]
  congr 3
  funext t
  cases h : t.fullName == s.fullName <;> simp [bne, h]

theorem firstOfEachName_sublist (sigs : List TypeSig) : (firstOfEachName sigs).Sublist sigs := by
  induction sigs using firstOfEachNameInduction with
  | nil => exact List.Sublist.refl _
  | cons s sigs ih =>
    rw [firstOfEachName_cons]
    exact (ih.trans List.filter_sublist).cons_cons s

theorem nodup_firstOfEachName (sigs : List TypeSig) :
    ((firstOfEachName sigs).map (·.fullName)).Nodup := by
  induction sigs using firstOfEachNameInduction with
  | nil => exact List.nodup_nil
  | cons s sigs ih =>
    rw [firstOfEachName_cons, List.map_cons, List.nodup_cons]
    refine ⟨fun hmem => ?_, ih⟩
    obtain ⟨t, ht, hname⟩ := List.mem_map.1 hmem
    have hfilter := (firstOfEachName_sublist _).subset ht
    rw [List.mem_filter, bne_iff_ne] at hfilter
    exact hfilter.2 hname

end TypeSig

/-- The type names a type of this full name in its signatures. -/
def TypeSymbol.Names (x : TypeSymbol) (name : String) : Prop :=
  ∃ dep ∈ x.type.dependencies, dep.fullName = name

namespace Catalog

/-- A hop: the first type depends on the second, which is declared. -/
structure Hop (c : Catalog) (x y : TypeSymbol) : Prop where
  declared : y ∈ c.types
  names : x.Names y.fullName

/-! ### Chains and distances -/

/-- A chain of dependencies from one type to another, through allowed types only. The list has the
types on the way, both ends included, so that it is one longer than the number of hops. -/
inductive Chain (c : Catalog) (allowed : TypeSymbol → Prop) (x : TypeSymbol) :
    List TypeSymbol → TypeSymbol → Prop where
  | start : allowed x → Chain c allowed x [x] x
  | hop {w : List TypeSymbol} {y z : TypeSymbol} :
      Chain c allowed x w y → c.Hop y z → allowed z → Chain c allowed x (w ++ [z]) z

/-- The type has another name. -/
def OtherThan (name : String) (x : TypeSymbol) : Prop :=
  x.fullName ≠ name

/-- A shortest chain between the types has `d` hops. -/
structure IsDistance (c : Catalog) (allowed : TypeSymbol → Prop) (x y : TypeSymbol) (d : Nat) :
    Prop where
  exists_chain : ∃ w, c.Chain allowed x w y ∧ w.length = d + 1
  least : ∀ w, c.Chain allowed x w y → d + 1 ≤ w.length

variable {c : Catalog} {allowed : TypeSymbol → Prop} {x y z : TypeSymbol} {w : List TypeSymbol}

namespace Chain

theorem length_pos (h : c.Chain allowed x w y) : 0 < w.length := by
  cases h <;> simp

theorem allowed_end (h : c.Chain allowed x w y) : allowed y := by
  cases h <;> assumption

theorem forall_allowed (h : c.Chain allowed x w y) : ∀ u ∈ w, allowed u := by
  induction h with
  | start hx => simpa using hx
  | hop _ _ hz ih =>
    intro u hu
    rcases List.mem_append.1 hu with hu | hu
    · exact ih u hu
    · rwa [List.mem_singleton.1 hu]

theorem forall_declared (hx : x ∈ c.types) (h : c.Chain allowed x w y) : ∀ u ∈ w, u ∈ c.types := by
  induction h with
  | start => simpa using hx
  | hop _ hhop _ ih =>
    intro u hu
    rcases List.mem_append.1 hu with hu | hu
    · exact ih u hu
    · rw [List.mem_singleton.1 hu]
      exact hhop.declared

/-- A chain leads to each type on it with no more hops. -/
theorem exists_of_mem (h : c.Chain allowed x w y) :
    ∀ u ∈ w, ∃ v, c.Chain allowed x v u ∧ v.length ≤ w.length := by
  induction h with
  | start hx =>
    intro u hu
    rw [List.mem_singleton.1 hu]
    exact ⟨[x], .start hx, Nat.le_refl _⟩
  | @hop w y z hw hhop hz ih =>
    intro u hu
    rcases List.mem_append.1 hu with hu | hu
    · obtain ⟨v, hv, hle⟩ := ih u hu
      exact ⟨v, hv, by rw [List.length_append]; omega⟩
    · rw [List.mem_singleton.1 hu]
      exact ⟨w ++ [z], .hop hw hhop hz, Nat.le_refl _⟩

theorem mono {more : TypeSymbol → Prop} (hmore : ∀ u, allowed u → more u)
    (h : c.Chain allowed x w y) : c.Chain more x w y := by
  induction h with
  | start hx => exact .start (hmore _ hx)
  | hop _ hhop hz ih => exact .hop ih hhop (hmore _ hz)

/-- What a chain leads to has a distance, no greater than the number of its hops. -/
theorem exists_isDistance (h : c.Chain allowed x w y) :
    ∃ d, c.IsDistance allowed x y d ∧ d + 1 ≤ w.length := by
  induction hn : w.length using Nat.strongRecOn generalizing w with
  | ind n ih =>
    by_cases hless : ∃ v, c.Chain allowed x v y ∧ v.length < n
    · obtain ⟨v, hv, hlt⟩ := hless
      obtain ⟨d, hd, hle⟩ := ih v.length hlt hv rfl
      exact ⟨d, hd, by omega⟩
    · have hpos := h.length_pos
      refine ⟨n - 1, ⟨⟨w, h, by omega⟩, fun v hv => ?_⟩, by omega⟩
      by_contra hlt
      exact hless ⟨v, hv, by omega⟩

end Chain

namespace IsDistance

variable {d e : Nat}

theorem unique (h : c.IsDistance allowed x y d) (h' : c.IsDistance allowed x y e) : d = e := by
  obtain ⟨w, hw, hlen⟩ := h.exists_chain
  obtain ⟨v, hv, hlen'⟩ := h'.exists_chain
  have hle := h.least v hv
  have hle' := h'.least w hw
  omega

theorem allowed_end (h : c.IsDistance allowed x y d) : allowed y := by
  obtain ⟨w, hw, -⟩ := h.exists_chain
  exact hw.allowed_end

theorem zero_iff (hx : allowed x) : c.IsDistance allowed x y 0 ↔ y = x := by
  constructor
  · intro h
    obtain ⟨w, hw, hlen⟩ := h.exists_chain
    cases hw with
    | start => rfl
    | hop hw _ _ =>
      have hpos := hw.length_pos
      simp only [List.length_append, List.length_singleton] at hlen
      omega
  · rintro rfl
    exact ⟨⟨[y], .start hx, rfl⟩, fun w hw => hw.length_pos⟩

/-- On a shortest chain, the last type but one is one hop nearer: a shorter chain to it would give a
shorter one to the last. -/
theorem of_hop (h : c.IsDistance allowed x z (d + 1)) (hw : c.Chain allowed x w y)
    (hhop : c.Hop y z) (hz : allowed z) (hlen : w.length = d + 1) : c.IsDistance allowed x y d := by
  refine ⟨⟨w, hw, hlen⟩, fun v hv => ?_⟩
  have hle := h.least (v ++ [z]) (.hop hv hhop hz)
  rw [List.length_append, List.length_singleton] at hle
  omega

/-- A type is one hop further than another exactly if it can be reached from a type that far and is
not nearer itself. -/
theorem succ_iff : c.IsDistance allowed x z (d + 1) ↔
    allowed z ∧ (∃ y, c.IsDistance allowed x y d ∧ c.Hop y z) ∧
      ∀ e ≤ d, ¬ c.IsDistance allowed x z e := by
  constructor
  · intro h
    refine ⟨h.allowed_end, ?_, fun e he h' => by have heq := h.unique h'; omega⟩
    obtain ⟨w, hw, hlen⟩ := h.exists_chain
    cases hw with
    | start => simp at hlen
    | @hop w y z hw hhop hz =>
      rw [List.length_append, List.length_singleton] at hlen
      exact ⟨y, h.of_hop hw hhop hz (by omega), hhop⟩
  · rintro ⟨hz, ⟨y, hy, hhop⟩, hfar⟩
    obtain ⟨w, hw, hlen⟩ := hy.exists_chain
    have hchain : (w ++ [z]).length = d + 1 + 1 := by
      rw [List.length_append, hlen, List.length_singleton]
    refine ⟨⟨w ++ [z], .hop hw hhop hz, hchain⟩, ?_⟩
    intro v hv
    obtain ⟨e, he, hle⟩ := hv.exists_isDistance
    have hgt : ¬ e ≤ d := fun hed => hfar e hed he
    omega

end IsDistance

/-- No name is repeated on a shortest chain. -/
theorem Chain.nodup_of_isDistance (hnames : (c.types.map (·.fullName)).Nodup) (hx : x ∈ c.types)
    (h : c.Chain allowed x w y) {d : Nat} (hd : c.IsDistance allowed x y d)
    (hlen : w.length = d + 1) : (w.map (·.fullName)).Nodup := by
  induction h generalizing d with
  | start => simp
  | @hop w y z hw hhop hz ih =>
    rw [List.length_append, List.length_singleton] at hlen
    have hpos := hw.length_pos
    obtain ⟨d, rfl⟩ : ∃ e, d = e + 1 := ⟨d - 1, by omega⟩
    have hinit := ih (hd.of_hop hw hhop hz (by omega)) (by omega)
    rw [List.map_append, List.map_singleton, List.nodup_append]
    refine ⟨hinit, by simp, ?_⟩
    intro n hn m hm hnm
    obtain ⟨u, hu, rfl⟩ := List.mem_map.1 hn
    rw [List.mem_singleton] at hm
    obtain rfl : u = z := List.inj_on_of_nodup_map hnames (hw.forall_declared hx u hu)
      hhop.declared (hnm.trans hm)
    -- The chain passes through its end before, so there is a shorter one.
    obtain ⟨v, hv, hle⟩ := hw.exists_of_mem u hu
    have hleast := hd.least v hv
    omega

/-! ### One round -/

theorem resolveSig?_eq_some_iff (hnames : (c.types.map (·.fullName)).Nodup) {sig : TypeSig}
    {assembly : String} {s : TypeSymbol} :
    c.resolveSig? sig assembly = some s ↔ s ∈ c.types ∧ s.fullName = sig.fullName :=
  resolveType?_eq_some_iff hnames

/-- The dependencies that a round follows, each with the type that has it, in order. -/
def edges (frontier : List Reached) : List (Reached × TypeSig) :=
  frontier.flatMap fun here => here.symbol.type.dependencies.map fun dep => (here, dep)

theorem mem_edges_iff {frontier : List Reached} {e : Reached × TypeSig} :
    e ∈ edges frontier ↔ e.1 ∈ frontier ∧ e.2 ∈ e.1.symbol.type.dependencies := by
  obtain ⟨here, dep⟩ := e
  simp only [edges, List.mem_flatMap, List.mem_map, Prod.mk.injEq]
  constructor
  · rintro ⟨here, hmem, dep, hdep, rfl, rfl⟩
    exact ⟨hmem, hdep⟩
  · rintro ⟨hmem, hdep⟩
    exact ⟨here, hmem, dep, hdep, rfl, rfl⟩

theorem followAll_eq_foldl (c : Catalog) (target : String) (frontier : List Reached)
    (visited : List String) :
    c.followAll target frontier visited =
      (edges frontier).foldl (fun r e => c.follow target e.1 r e.2) ⟨[], [], visited⟩ := by
  rw [edges, List.foldl_flatMap]
  simp only [List.foldl_map]
  rfl

/-- What a round has done once it has followed some dependencies: it has found a path for each one
on the target, and reached each other declared type that they name and that was not visited. -/
structure Followed (c : Catalog) (target : String) (visited : List String)
    (es : List (Reached × TypeSig)) (r : PathSearch) : Prop where
  found : r.found = (es.filter (·.2.fullName == target)).map fun e => e.1.path ++ [target]
  nodup : (r.queue.map (·.symbol.fullName)).Nodup
  queue : ∀ y, (∃ x ∈ r.queue, x.symbol = y) ↔
    y ∈ c.types ∧ y.fullName ≠ target ∧ y.fullName ∉ visited ∧ ∃ e ∈ es, e.2.fullName = y.fullName
  paths : ∀ x ∈ r.queue, ∃ e ∈ es, e.2.fullName = x.symbol.fullName ∧
    x.path = e.1.path ++ [x.symbol.fullName]
  visited : ∀ n, n ∈ r.visited ↔ n ∈ visited ∨ n ∈ r.queue.map (·.symbol.fullName)

namespace Followed

variable {target : String} {visited : List String} {es : List (Reached × TypeSig)} {r : PathSearch}

theorem exists_name_append {e : Reached × TypeSig} {n : String} :
    (∃ e' ∈ es ++ [e], e'.2.fullName = n) ↔
      (∃ e' ∈ es, e'.2.fullName = n) ∨ e.2.fullName = n := by
  simp only [List.mem_append, List.mem_singleton, or_and_right, exists_or, exists_eq_left]

/-- A dependency that leads nowhere new adds nothing to what the round has to reach. -/
theorem queue_append (h : c.Followed target visited es r) {e : Reached × TypeSig}
    (hold : ∀ y ∈ c.types, y.fullName = e.2.fullName →
      y.fullName = target ∨ y.fullName ∈ visited ∨ ∃ e ∈ es, e.2.fullName = y.fullName)
    (y : TypeSymbol) :
    (∃ x ∈ r.queue, x.symbol = y) ↔ y ∈ c.types ∧ y.fullName ≠ target ∧ y.fullName ∉ visited ∧
      ∃ e' ∈ es ++ [e], e'.2.fullName = y.fullName := by
  rw [h.queue, exists_name_append]
  constructor
  · rintro ⟨hy, hne, hnew, he⟩
    exact ⟨hy, hne, hnew, .inl he⟩
  · rintro ⟨hy, hne, hnew, he | he⟩
    · exact ⟨hy, hne, hnew, he⟩
    · exact ⟨hy, hne, hnew, ((hold y hy he.symm).resolve_left hne).resolve_left hnew⟩

theorem paths_append (h : c.Followed target visited es r) (e : Reached × TypeSig) :
    ∀ x ∈ r.queue, ∃ e' ∈ es ++ [e], e'.2.fullName = x.symbol.fullName ∧
      x.path = e'.1.path ++ [x.symbol.fullName] := by
  intro x hx
  obtain ⟨e', he, hpath⟩ := h.paths x hx
  exact ⟨e', List.mem_append_left _ he, hpath⟩

/-- Following a dependency on the target gives one path more, and nothing is reached. -/
theorem find (h : c.Followed target visited es r) {e : Reached × TypeSig}
    (htarget : e.2.fullName = target) :
    c.Followed target visited (es ++ [e])
      { r with found := r.found ++ [e.1.path ++ [target]] } where
  found := by rw [h.found, List.filter_append]; simp [htarget]
  nodup := h.nodup
  queue := h.queue_append fun _ _ hname => .inl (hname.trans htarget)
  paths := h.paths_append e
  visited := h.visited

/-- Following another dependency that leads nowhere new changes nothing. -/
theorem skip (h : c.Followed target visited es r) {e : Reached × TypeSig}
    (htarget : e.2.fullName ≠ target)
    (hold : ∀ y ∈ c.types, y.fullName = e.2.fullName →
      y.fullName ∈ visited ∨ ∃ e ∈ es, e.2.fullName = y.fullName) :
    c.Followed target visited (es ++ [e]) r where
  found := by rw [h.found, List.filter_append]; simp [htarget]
  nodup := h.nodup
  queue := h.queue_append fun y hy hname => .inr (hold y hy hname)
  paths := h.paths_append e
  visited := h.visited

/-- Following a dependency on a new type reaches that type. -/
theorem reach (hnames : (c.types.map (·.fullName)).Nodup) (h : c.Followed target visited es r)
    {e : Reached × TypeSig} (htarget : e.2.fullName ≠ target) (hnew : e.2.fullName ∉ r.visited)
    {symbol : TypeSymbol} (hdeclared : symbol ∈ c.types)
    (hname : symbol.fullName = e.2.fullName) :
    c.Followed target visited (es ++ [e])
      { r with
        queue := r.queue ++ [⟨symbol, e.1.path ++ [e.2.fullName]⟩]
        visited := e.2.fullName :: r.visited } := by
  rw [h.visited, not_or] at hnew
  refine ⟨?_, ?_, fun y => ?_, fun x hx => ?_, fun n => ?_⟩
  · rw [h.found, List.filter_append]
    simp [htarget]
  · rw [List.map_append, List.nodup_append]
    refine ⟨h.nodup, by simp, ?_⟩
    rintro n hn m hm rfl
    obtain rfl : n = symbol.fullName := by simpa using hm
    exact hnew.2 (hname ▸ hn)
  · have hmem : (∃ x ∈ r.queue ++ [⟨symbol, e.1.path ++ [e.2.fullName]⟩], x.symbol = y) ↔
        (∃ x ∈ r.queue, x.symbol = y) ∨ symbol = y := by
      simp only [List.mem_append, List.mem_singleton, or_and_right, exists_or, exists_eq_left]
    rw [hmem, h.queue, exists_name_append]
    constructor
    · rintro (⟨hy, hne, hold, he⟩ | rfl)
      · exact ⟨hy, hne, hold, .inl he⟩
      · exact ⟨hdeclared, hname ▸ htarget, hname ▸ hnew.1, .inr hname.symm⟩
    · rintro ⟨hy, hne, hold, he | he⟩
      · exact .inl ⟨hy, hne, hold, he⟩
      · exact .inr (List.inj_on_of_nodup_map hnames hdeclared hy (hname.trans he))
  · rcases List.mem_append.1 hx with hx | hx
    · exact h.paths_append e x hx
    · obtain rfl := List.mem_singleton.1 hx
      exact ⟨e, by simp, hname.symm, by rw [hname]⟩
  · rw [List.mem_cons, h.visited, List.map_append, List.mem_append, List.map_singleton,
      List.mem_singleton, hname]
    tauto

theorem mem_queue_names (h : c.Followed target visited es r) {n : String} :
    n ∈ r.queue.map (·.symbol.fullName) ↔ ∃ y ∈ c.types, y.fullName = n ∧ n ≠ target ∧ n ∉ visited ∧
      ∃ e ∈ es, e.2.fullName = n := by
  rw [List.mem_map]
  constructor
  · rintro ⟨x, hx, rfl⟩
    obtain ⟨hy, hne, hnew, he⟩ := (h.queue x.symbol).1 ⟨x, hx, rfl⟩
    exact ⟨x.symbol, hy, rfl, hne, hnew, he⟩
  · rintro ⟨y, hy, rfl, hne, hnew, he⟩
    obtain ⟨x, hx, rfl⟩ := (h.queue y).2 ⟨hy, hne, hnew, he⟩
    exact ⟨x, hx, rfl⟩

/-- **One dependency more.** -/
theorem follow (hnames : (c.types.map (·.fullName)).Nodup) (h : c.Followed target visited es r)
    (e : Reached × TypeSig) :
    c.Followed target visited (es ++ [e]) (c.follow target e.1 r e.2) := by
  obtain ⟨here, dep⟩ := e
  unfold Catalog.follow
  by_cases htarget : dep.fullName = target
  · rw [if_pos (by simpa using htarget)]
    exact h.find htarget
  rw [if_neg (by simpa using htarget)]
  by_cases hseen : dep.fullName ∈ r.visited
  · -- What is marked was visited before the round, or one of its dependencies has named it.
    rw [if_pos (by simpa using hseen)]
    refine h.skip htarget fun y _ hname => ?_
    rw [h.visited, h.mem_queue_names, ← hname] at hseen
    exact hseen.imp id fun ⟨_, _, _, _, _, he⟩ => he
  rw [if_neg (by simpa using hseen)]
  cases hresolve : c.resolveSig? dep here.symbol.assembly.name with
  | none =>
    -- No declared type has the name: one would be found.
    refine h.skip htarget fun y hy hname => ?_
    rw [(resolveSig?_eq_some_iff hnames).2 ⟨hy, hname⟩] at hresolve
    exact absurd hresolve (by simp)
  | some symbol =>
    obtain ⟨hdeclared, hname⟩ := (resolveSig?_eq_some_iff hnames).1 hresolve
    exact h.reach hnames htarget hseen hdeclared hname

/-- **A whole round.** -/
theorem followAll (hnames : (c.types.map (·.fullName)).Nodup) (target : String)
    (frontier : List Reached) (visited : List String) :
    c.Followed target visited (edges frontier) (c.followAll target frontier visited) := by
  have hrun : ∀ (es done : List (Reached × TypeSig)) (r : PathSearch),
      c.Followed target visited done r → c.Followed target visited (done ++ es)
        (es.foldl (fun r e => c.follow target e.1 r e.2) r) := by
    intro es
    induction es with
    | nil => intro done r h; rwa [List.append_nil]
    | cons e es ih =>
      intro done r h
      rw [List.foldl_cons, List.append_cons]
      exact ih _ _ (h.follow hnames e)
  rw [followAll_eq_foldl]
  exact hrun (edges frontier) [] _ ⟨rfl, by simp, by simp, by simp, by simp⟩

end Followed

/-- The type names a type of this full name; `TypeSymbol.Names` as a check. -/
def namesIn (x : TypeSymbol) (name : String) : Bool :=
  x.type.dependencies.any (·.fullName == name)

theorem namesIn_iff {x : TypeSymbol} {name : String} : namesIn x name = true ↔ x.Names name := by
  simp [namesIn, TypeSymbol.Names]

/-- Of dependencies with different names, one at most has a given name. -/
theorem length_filter_of_nodup {deps : List TypeSig} (h : (deps.map (·.fullName)).Nodup)
    (name : String) :
    (deps.filter (·.fullName == name)).length =
      if deps.any (·.fullName == name) then 1 else 0 := by
  induction deps with
  | nil => rfl
  | cons dep deps ih =>
    rw [List.map_cons, List.nodup_cons] at h
    by_cases hname : dep.fullName = name
    · have hrest : deps.filter (·.fullName == name) = [] := by
        refine List.filter_eq_nil_iff.2 fun d hd heq => h.1 ?_
        rw [hname, ← eq_of_beq heq]
        exact List.mem_map_of_mem hd
      simp [hname, hrest]
    · simp [hname, ih h.2]

/-- A round finds one path for each type of the frontier that names the target. -/
theorem found_followAll (hnames : (c.types.map (·.fullName)).Nodup) (target : String)
    (frontier : List Reached) (visited : List String) :
    (c.followAll target frontier visited).found =
      (frontier.filter fun x => namesIn x.symbol target).map fun x => x.path ++ [target] := by
  rw [(Followed.followAll hnames target frontier visited).found]
  induction frontier with
  | nil => rfl
  | cons here frontier ih =>
    have hone : (here.symbol.type.dependencies.filter (·.fullName == target)).length =
        if namesIn here.symbol target then 1 else 0 :=
      length_filter_of_nodup (TypeSig.nodup_firstOfEachName _) target
    have hhere : ((here.symbol.type.dependencies.map fun dep => (here, dep)).filter
        (·.2.fullName == target)).map (fun e => e.1.path ++ [target]) =
        List.replicate (here.symbol.type.dependencies.filter (·.fullName == target)).length
          (here.path ++ [target]) := by
      rw [List.filter_map, List.map_map]
      change (here.symbol.type.dependencies.filter (·.fullName == target)).map
        (fun _ => here.path ++ [target]) = _
      exact List.map_const'
    rw [edges, List.flatMap_cons, List.filter_append, List.map_append, hhere, ← edges, ih, hone,
      List.filter_cons]
    cases namesIn here.symbol target <;> rfl

/-! ### The search -/

/-- The state of the search after `k` rounds: the frontier has the types at distance `k` from the
source, each once and with a shortest chain to it, and those no further away are visited. -/
structure Frontier (c : Catalog) (source : TypeSymbol) (target : String) (k : Nat)
    (frontier : List Reached) (visited : List String) : Prop where
  nodup : (frontier.map (·.symbol.fullName)).Nodup
  layer : ∀ y, (∃ x ∈ frontier, x.symbol = y) ↔
    c.IsDistance (OtherThan target) source y k
  paths : ∀ x ∈ frontier, ∃ w, c.Chain (OtherThan target) source w x.symbol ∧
    w.length = k + 1 ∧ x.path = w.map (·.fullName)
  visited : ∀ y ∈ c.types, y.fullName ∈ visited ↔
    ∃ e ≤ k, c.IsDistance (OtherThan target) source y e

namespace Frontier

variable {source : TypeSymbol} {target : String} {k : Nat} {frontier : List Reached}
  {visited : List String}

theorem start (hs : source ∈ c.types) (hnames : (c.types.map (·.fullName)).Nodup)
    (hne : source.fullName ≠ target) :
    c.Frontier source target 0 [⟨source, [source.fullName]⟩] [source.fullName] where
  nodup := by simp
  layer y := by
    rw [IsDistance.zero_iff hne]
    simp [eq_comm]
  paths x hx := by
    obtain rfl := List.mem_singleton.1 hx
    exact ⟨[source], .start hne, rfl, rfl⟩
  visited y hy := by
    have hzero := IsDistance.zero_iff (c := c) (y := y) (show OtherThan target source from hne)
    simp only [List.mem_singleton, Nat.le_zero, exists_eq_left, hzero]
    exact ⟨fun hname => List.inj_on_of_nodup_map hnames hy hs hname, fun heq => by rw [heq]⟩

/-- What a round reaches is one hop further away. -/
theorem layer_next (hnames : (c.types.map (·.fullName)).Nodup)
    (h : c.Frontier source target k frontier visited) (y : TypeSymbol) :
    (∃ x ∈ (c.followAll target frontier visited).queue, x.symbol = y) ↔
      c.IsDistance (OtherThan target) source y (k + 1) := by
  have hedges : ∀ n, (∃ e ∈ edges frontier, e.2.fullName = n) ↔
      ∃ z, c.IsDistance (OtherThan target) source z k ∧ z.Names n := by
    intro n
    simp only [mem_edges_iff, ← h.layer, TypeSymbol.Names]
    constructor
    · rintro ⟨⟨x, dep⟩, ⟨hx, hdep⟩, hname⟩
      exact ⟨x.symbol, ⟨x, hx, rfl⟩, dep, hdep, hname⟩
    · rintro ⟨_, ⟨x, hx, rfl⟩, dep, hdep, hname⟩
      exact ⟨(x, dep), ⟨hx, hdep⟩, hname⟩
  rw [(Followed.followAll hnames target frontier visited).queue, hedges, IsDistance.succ_iff]
  constructor
  · rintro ⟨hy, hne, hnew, z, hz, hzy⟩
    rw [h.visited y hy] at hnew
    exact ⟨hne, ⟨z, hz, hy, hzy⟩, fun e he hd => hnew ⟨e, he, hd⟩⟩
  · rintro ⟨hne, ⟨z, hz, hhop⟩, hfar⟩
    refine ⟨hhop.declared, hne, ?_, z, hz, hhop.names⟩
    rw [h.visited y hhop.declared]
    rintro ⟨e, he, hd⟩
    exact hfar e he hd

/-- **One round further.** -/
theorem next (hnames : (c.types.map (·.fullName)).Nodup)
    (h : c.Frontier source target k frontier visited) :
    c.Frontier source target (k + 1) (c.followAll target frontier visited).queue
      (c.followAll target frontier visited).visited := by
  have hround := Followed.followAll hnames target frontier visited
  refine ⟨hround.nodup, h.layer_next hnames, fun x hx => ?_, fun y hy => ?_⟩
  · obtain ⟨e, he, hname, hpath⟩ := hround.paths x hx
    obtain ⟨hmem, hdep⟩ := mem_edges_iff.1 he
    obtain ⟨w, hw, hlen, hwpath⟩ := h.paths e.1 hmem
    obtain ⟨hdeclared, hne, -, -⟩ := (hround.queue x.symbol).1 ⟨x, hx, rfl⟩
    refine ⟨w ++ [x.symbol], .hop hw ⟨hdeclared, e.2, hdep, hname⟩ hne, ?_, ?_⟩
    · rw [List.length_append, hlen, List.length_singleton]
    · rw [hpath, hwpath, List.map_append, List.map_singleton]
  · have hnew : y.fullName ∈ (c.followAll target frontier visited).queue.map (·.symbol.fullName) ↔
        c.IsDistance (OtherThan target) source y (k + 1) := by
      rw [← h.layer_next hnames, List.mem_map]
      constructor
      · rintro ⟨x, hx, hname⟩
        obtain ⟨hdeclared, -⟩ := (hround.queue x.symbol).1 ⟨x, hx, rfl⟩
        exact ⟨x, hx, List.inj_on_of_nodup_map hnames hdeclared hy hname⟩
      · rintro ⟨x, hx, rfl⟩
        exact ⟨x, hx, rfl⟩
    rw [hround.visited, hnew, h.visited y hy]
    constructor
    · rintro (⟨e, he, hd⟩ | hd)
      · exact ⟨e, by omega, hd⟩
      · exact ⟨k + 1, Nat.le_refl _, hd⟩
    · rintro ⟨e, he, hd⟩
      rcases Nat.lt_or_eq_of_le he with hlt | rfl
      · exact .inl ⟨e, by omega, hd⟩
      · exact .inr hd

end Frontier

/-- The path takes a shortest chain to a type that avoids the target, and ends with the target. -/
def IsPathThrough (c : Catalog) (source : TypeSymbol) (target : String) (y : TypeSymbol)
    (p : List String) : Prop :=
  ∃ d w, c.IsDistance (OtherThan target) source y d ∧ c.Chain (OtherThan target) source w y ∧
    w.length = d + 1 ∧ p = w.map (·.fullName) ++ [target]

/-- The paths go through the types that name the target at the distances from `k` on below `bound`,
one through each, and are sorted by length. -/
structure Lists (c : Catalog) (source : TypeSymbol) (target : String) (k bound : Nat)
    (ends : List TypeSymbol) (paths : List (List String)) : Prop where
  nodup : ends.Nodup
  mem_ends : ∀ y, y ∈ ends ↔
    y.Names target ∧ ∃ d, c.IsDistance (OtherThan target) source y d ∧ k ≤ d ∧ d < bound
  through : List.Forall₂ (c.IsPathThrough source target) ends paths
  sorted : paths.Pairwise fun p q => p.length ≤ q.length

theorem exists_mem_of_forall₂ {α β : Type} {R : α → β → Prop} {xs : List α} {ys : List β}
    (h : List.Forall₂ R xs ys) {y : β} (hy : y ∈ ys) : ∃ x ∈ xs, R x y := by
  induction h with
  | nil => exact absurd hy (by simp)
  | @cons x z xs zs hR _ ih =>
    rcases List.mem_cons.1 hy with rfl | hy
    · exact ⟨x, List.mem_cons_self, hR⟩
    · obtain ⟨x, hx, hxy⟩ := ih hy
      exact ⟨x, List.mem_cons_of_mem _ hx, hxy⟩

namespace Lists

variable {source : TypeSymbol} {target : String} {k j bound : Nat} {ends ends' : List TypeSymbol}
  {paths paths' : List (List String)}

/-- A listed path has one hop more than there are to the type that names the target. -/
theorem exists_length (h : c.Lists source target k bound ends paths) {p : List String}
    (hp : p ∈ paths) : ∃ d, k ≤ d ∧ d < bound ∧ p.length = d + 2 := by
  obtain ⟨y, hy, d, w, hd, -, hw, rfl⟩ := exists_mem_of_forall₂ h.through hp
  obtain ⟨-, e, he, hle, hlt⟩ := (h.mem_ends y).1 hy
  obtain rfl := hd.unique he
  exact ⟨d, hle, hlt, by rw [List.length_append, List.length_map, hw, List.length_singleton]⟩

/-- The paths of nearer types come before those of types further away. -/
theorem append (h : c.Lists source target k j ends paths)
    (h' : c.Lists source target j bound ends' paths') (hk : k ≤ j) (hj : j ≤ bound) :
    c.Lists source target k bound (ends ++ ends') (paths ++ paths') where
  nodup := by
    rw [List.nodup_append]
    refine ⟨h.nodup, h'.nodup, ?_⟩
    rintro y hy z hz rfl
    obtain ⟨-, d, hd, -, hlt⟩ := (h.mem_ends y).1 hy
    obtain ⟨-, e, he, hle, -⟩ := (h'.mem_ends y).1 hz
    have heq := hd.unique he
    omega
  mem_ends y := by
    rw [List.mem_append, h.mem_ends, h'.mem_ends]
    constructor
    · rintro (⟨hy, d, hd, hle, hlt⟩ | ⟨hy, d, hd, hle, hlt⟩)
      · exact ⟨hy, d, hd, hle, by omega⟩
      · exact ⟨hy, d, hd, by omega, hlt⟩
    · rintro ⟨hy, d, hd, hle, hlt⟩
      rcases Nat.lt_or_ge d j with hnear | hfar
      · exact .inl ⟨hy, d, hd, hle, hnear⟩
      · exact .inr ⟨hy, d, hd, hfar, hlt⟩
  through := List.rel_append h.through h'.through
  sorted := by
    rw [List.pairwise_append]
    refine ⟨h.sorted, h'.sorted, fun p hp q hq => ?_⟩
    obtain ⟨d, -, hlt, hlen⟩ := h.exists_length hp
    obtain ⟨e, hle, -, hlen'⟩ := h'.exists_length hq
    omega

end Lists

/-- A round lists the paths through the types of the frontier. -/
theorem Frontier.lists_found (hnames : (c.types.map (·.fullName)).Nodup) {source : TypeSymbol}
    {target : String} {k : Nat} {frontier : List Reached} {visited : List String}
    (h : c.Frontier source target k frontier visited) :
    c.Lists source target k (k + 1)
      ((frontier.filter fun x => namesIn x.symbol target).map (·.symbol))
      (c.followAll target frontier visited).found := by
  rw [found_followAll hnames]
  constructor
  case nodup =>
    have hfirst : (frontier.map (·.symbol)).Nodup := by
      refine List.Nodup.of_map (·.fullName) ?_
      rw [List.map_map]
      exact h.nodup
    exact hfirst.sublist (List.filter_sublist.map _)
  case mem_ends =>
    intro y
    -- The only distance from `k` on below `k + 1` is that of the frontier.
    have hlayer : (∃ d, c.IsDistance (OtherThan target) source y d ∧ k ≤ d ∧ d < k + 1) ↔
        c.IsDistance (OtherThan target) source y k := by
      constructor
      · rintro ⟨d, hd, hle, hlt⟩
        obtain rfl : d = k := by omega
        exact hd
      · intro hd
        exact ⟨k, hd, Nat.le_refl k, Nat.lt_succ_self k⟩
    rw [hlayer, ← h.layer, List.mem_map]
    constructor
    · rintro ⟨x, hx, rfl⟩
      rw [List.mem_filter, namesIn_iff] at hx
      exact ⟨hx.2, x, hx.1, rfl⟩
    · rintro ⟨hy, x, hx, rfl⟩
      exact ⟨x, List.mem_filter.2 ⟨hx, namesIn_iff.2 hy⟩, rfl⟩
  case through =>
    rw [List.forall₂_map_left_iff, List.forall₂_map_right_iff, List.forall₂_same]
    intro x hx
    have hmem := List.mem_of_mem_filter hx
    obtain ⟨w, hw, hlen, hpath⟩ := h.paths x hmem
    exact ⟨k, w, (h.layer _).1 ⟨x, hmem, rfl⟩, hw, hlen, by rw [hpath]⟩
  case sorted =>
    have hlen : ∀ p ∈ (frontier.filter fun x => namesIn x.symbol target).map
        (fun x => x.path ++ [target]), p.length = k + 2 := by
      intro p hp
      obtain ⟨x, hx, rfl⟩ := List.mem_map.1 hp
      obtain ⟨w, -, hlen, hpath⟩ := h.paths x (List.mem_of_mem_filter hx)
      rw [List.length_append, hpath, List.length_map, hlen, List.length_singleton]
    refine List.pairwise_of_forall_mem_list fun p hp q hq => ?_
    exact Nat.le_of_eq ((hlen p hp).trans (hlen q hq).symm)

/-- **The search lists the paths round by round.** -/
theorem Frontier.lists_search (hnames : (c.types.map (·.fullName)).Nodup) {source : TypeSymbol}
    {target : String} {k : Nat} {frontier : List Reached} {visited : List String}
    (h : c.Frontier source target k frontier visited) (hops : Nat) :
    ∃ ends, c.Lists source target k (k + hops) ends (c.search target hops frontier visited) := by
  induction hops generalizing k frontier visited with
  | zero =>
    refine ⟨[], List.nodup_nil, fun y => ?_, ?_, ?_⟩
    · simp only [List.not_mem_nil, false_iff, not_and, not_exists]
      intro _ d _ _
      omega
    · rw [search]
      exact .nil
    · rw [search]
      exact .nil
  | succ hops ih =>
    obtain ⟨ends, hrest⟩ := ih (h.next hnames)
    rw [Nat.add_right_comm] at hrest
    rw [search_succ]
    exact ⟨_, (h.lists_found hnames).append hrest (by omega) (by omega)⟩

/-- A chain that may pass through the target either avoids it, or there is a shorter one that avoids
it and leads to a type that names it. -/
theorem Chain.avoids_or {target : String} (hx : OtherThan target x)
    (h : c.Chain (fun _ => True) x w y) :
    c.Chain (OtherThan target) x w y ∨
      ∃ v u, c.Chain (OtherThan target) x v u ∧ u.Names target ∧ v.length < w.length := by
  induction h with
  | start => exact .inl (.start hx)
  | @hop w y z _ hhop _ ih =>
    rw [List.length_append, List.length_singleton]
    rcases ih with hw | ⟨v, u, hv, hu, hlt⟩
    · by_cases hz : z.fullName = target
      · exact .inr ⟨w, y, hw, hz ▸ hhop.names, by omega⟩
      · exact .inl (.hop hw hhop hz)
    · exact .inr ⟨v, u, hv, hu, by omega⟩

/-- A path through a type is a chain from the source to the target. -/
theorem IsPathThrough.exists_chain {source target : TypeSymbol} (ht : target ∈ c.types)
    {p : List String} (hy : y.Names target.fullName)
    (h : c.IsPathThrough source target.fullName y p) :
    ∃ w, c.Chain (fun _ => True) source w target ∧ p = w.map (·.fullName) := by
  obtain ⟨d, w, -, hw, -, rfl⟩ := h
  refine ⟨w ++ [target], .hop (hw.mono fun _ _ => trivial) ⟨ht, hy⟩ trivial, ?_⟩
  rw [List.map_append, List.map_singleton]

theorem IsPathThrough.nodup (hnames : (c.types.map (·.fullName)).Nodup) {source : TypeSymbol}
    (hs : source ∈ c.types) {target : String} {p : List String}
    (h : c.IsPathThrough source target y p) : p.Nodup := by
  obtain ⟨d, w, hd, hw, hlen, rfl⟩ := h
  rw [List.nodup_append]
  refine ⟨hw.nodup_of_isDistance hnames hs hd hlen, by simp, ?_⟩
  intro n hn m hm hnm
  obtain ⟨u, hu, rfl⟩ := List.mem_map.1 hn
  exact hw.forall_allowed u hu (hnm.trans (List.mem_singleton.1 hm))

/-- For each chain to the target there is a listed path that is no longer, if the chain is no longer
than the bound. -/
theorem Lists.exists_path_of_chain {source target : TypeSymbol}
    (hne : source.fullName ≠ target.fullName) {bound : Nat} {ends : List TypeSymbol}
    {paths : List (List String)} (h : c.Lists source target.fullName 0 bound ends paths)
    (hw : c.Chain (fun _ => True) source w target) (hlen : w.length ≤ bound + 1) :
    ∃ p ∈ paths, p.length ≤ w.length := by
  rcases hw.avoids_or hne with havoid | ⟨v, u, hv, hu, hlt⟩
  · exact absurd rfl havoid.allowed_end
  · obtain ⟨d, hd, hle⟩ := hv.exists_isDistance
    have hmem : u ∈ ends := (h.mem_ends u).2 ⟨hu, d, hd, Nat.zero_le _, by omega⟩
    obtain ⟨p, hp, e, v', he, -, hlen', rfl⟩ := exists_mem_of_forall₂ h.through.flip hmem
    obtain rfl := hd.unique he
    refine ⟨_, hp, ?_⟩
    rw [List.length_append, List.length_map, hlen', List.length_singleton]
    omega

/-- The first listed path is no longer than any chain to the target. -/
theorem Lists.head_length_le {source target : TypeSymbol}
    (hne : source.fullName ≠ target.fullName) {bound : Nat} {ends : List TypeSymbol}
    {paths : List (List String)} (h : c.Lists source target.fullName 0 bound ends paths)
    {p : List String} (hp : p ∈ paths.head?) (hw : c.Chain (fun _ => True) source w target) :
    p.length ≤ w.length := by
  obtain ⟨rest, rfl⟩ := List.head?_eq_some_iff.1 hp
  by_cases hlen : w.length ≤ bound + 1
  · obtain ⟨q, hq, hle⟩ := h.exists_path_of_chain hne hw hlen
    rcases List.mem_cons.1 hq with rfl | hq
    · exact hle
    · exact Nat.le_trans ((List.pairwise_cons.1 h.sorted).1 q hq) hle
  · -- The chain is longer than the bound, which no listed path is.
    obtain ⟨d, -, hlt, hd⟩ := h.exists_length List.mem_cons_self
    omega

/-- **The dependency paths are exactly the shortest ones through each type that names the target.**
Where no name is declared twice, there is one path for every type that names the target and is
fewer than `maxLength` hops from the source on chains that avoid the target, and no other. It takes
a shortest such chain to the type, repeats no name, and the paths are sorted by length. So there is
a path exactly if some chain from source to target has at most `maxLength` hops, and the first path
is as short as any such chain. -/
theorem dependencyPaths_exact {c : Catalog} (hnames : (c.types.map (·.fullName)).Nodup)
    {source target : TypeSymbol} (hs : source ∈ c.types) (ht : target ∈ c.types)
    (hne : source.fullName ≠ target.fullName) (maxLength : Nat) :
    let paths := c.dependencyPaths source target maxLength
    (∃ ends : List TypeSymbol, ends.Nodup ∧
      (∀ y, y ∈ ends ↔ y.Names target.fullName ∧
        ∃ d, c.IsDistance (OtherThan target.fullName) source y d ∧ d + 1 ≤ maxLength) ∧
      List.Forall₂ (fun y p => ∃ d w, c.IsDistance (OtherThan target.fullName) source y d ∧
        c.Chain (OtherThan target.fullName) source w y ∧ w.length = d + 1 ∧
        p = w.map (·.fullName) ++ [target.fullName]) ends paths) ∧
    (∀ p ∈ paths, p.Nodup) ∧
    paths.Pairwise (fun p q => p.length ≤ q.length) ∧
    (paths ≠ [] ↔
      ∃ w, c.Chain (fun _ => True) source w target ∧ w.length ≤ maxLength + 1) ∧
    ∀ p ∈ paths.head?, (∃ w, c.Chain (fun _ => True) source w target ∧ p = w.map (·.fullName)) ∧
      ∀ w, c.Chain (fun _ => True) source w target → p.length ≤ w.length := by
  intro paths
  have hpaths : paths = c.search target.fullName maxLength [⟨source, [source.fullName]⟩]
      [source.fullName] := dependencyPaths_eq_search c hne maxLength
  obtain ⟨ends, hlists⟩ := (Frontier.start hs hnames hne).lists_search hnames maxLength
  rw [← hpaths, Nat.zero_add] at hlists
  have hends : ∀ y, y ∈ ends ↔ y.Names target.fullName ∧
      ∃ d, c.IsDistance (OtherThan target.fullName) source y d ∧ d + 1 ≤ maxLength := by
    simpa only [Nat.zero_le, true_and, Nat.lt_iff_add_one_le] using hlists.mem_ends
  have hthrough : ∀ p ∈ paths, ∃ y ∈ ends, c.IsPathThrough source target.fullName y p :=
    fun p hp => exists_mem_of_forall₂ hlists.through hp
  have hchain : ∀ p ∈ paths, ∃ w, c.Chain (fun _ => True) source w target ∧
      p = w.map (·.fullName) := by
    intro p hp
    obtain ⟨y, hy, hpath⟩ := hthrough p hp
    exact hpath.exists_chain ht ((hends y).1 hy).1
  refine ⟨⟨ends, hlists.nodup, hends, hlists.through⟩, fun p hp => ?_, hlists.sorted, ?_, ?_⟩
  · obtain ⟨y, -, hpath⟩ := hthrough p hp
    exact hpath.nodup hnames hs
  · constructor
    · intro hsome
      obtain ⟨p, hp⟩ := List.exists_mem_of_ne_nil _ hsome
      obtain ⟨d, -, hlt, hlen⟩ := hlists.exists_length hp
      obtain ⟨w, hw, rfl⟩ := hchain p hp
      rw [List.length_map] at hlen
      exact ⟨w, hw, by omega⟩
    · rintro ⟨w, hw, hlen⟩
      obtain ⟨p, hp, -⟩ := hlists.exists_path_of_chain hne hw hlen
      exact List.ne_nil_of_mem hp
  · intro p hp
    exact ⟨hchain p (List.mem_of_mem_head? hp), fun w hw => hlists.head_length_le hne hp hw⟩

/-- Two ways of two hops lead to the target, and one of three that is not shortest. -/
theorem dependencyPaths_exact_converging :
    let field (name : String) : Field := { name, type := { fullName := name } }
    let a : TypeDef := { TypeDef.named "A" with fields := [field "B", field "C"] }
    let b : TypeDef := { TypeDef.named "B" with fields := [field "C", field "D"] }
    let c : TypeDef := { TypeDef.named "C" with fields := [field "A", field "D"] }
    let lib : Assembly := .ofTypes "Lib" [a, b, c, .named "D"]
    let catalog := ofAssemblies [lib]
    let source : TypeSymbol := ⟨lib, a⟩
    let target : TypeSymbol := ⟨lib, .named "D"⟩
    (catalog.types.map (·.fullName)).Nodup ∧ source ∈ catalog.types ∧ target ∈ catalog.types ∧
      source.fullName ≠ target.fullName ∧
      catalog.dependencyPaths source target 5 = [["A", "B", "D"], ["A", "C", "D"]] ∧
      (∃ w, catalog.Chain (fun _ => True) source w target ∧ w.length ≤ 6) ∧
      ∀ w, catalog.Chain (fun _ => True) source w target → 3 ≤ w.length := by
  intro field a b c lib catalog source target
  have hnames : (catalog.types.map (·.fullName)).Nodup := by
    have hlist : catalog.types.map (·.fullName) = ["A", "B", "C", "D"] := by decide +kernel
    rw [hlist]
    decide +kernel
  have htypes : lib.types = [a, b, c, .named "D"] := rfl
  have hs : source ∈ catalog.types :=
    mem_types_iff.2 ⟨List.mem_singleton_self lib, by simp [source, htypes]⟩
  have ht : target ∈ catalog.types :=
    mem_types_iff.2 ⟨List.mem_singleton_self lib, by simp [target, htypes]⟩
  have hne : source.fullName ≠ target.fullName := by decide +kernel
  have hpaths : catalog.dependencyPaths source target 5 = [["A", "B", "D"], ["A", "C", "D"]] := by
    decide +kernel
  obtain ⟨-, -, -, hsome, hfirst⟩ := dependencyPaths_exact hnames hs ht hne 5
  rw [hpaths] at hsome hfirst
  exact ⟨hnames, hs, ht, hne, hpaths, hsome.1 (by simp), (hfirst _ rfl).2⟩

end Catalog

end AssemblyAtlas
