import AssemblyAtlas.Proofs.Except
import AssemblyAtlas.Proofs.Paging.Walk
import AssemblyAtlas.Query.Command

/-!
# Queries page by page

The answers to a query are the pages of one list, which depends on what is asked and not on the
token. Following the tokens of a query therefore shows its whole result
(`Query.walks_exhaust`).
-/

namespace AssemblyAtlas.Query

/-- A query whose answers are the pages of one list shows the whole list when its tokens are
followed. -/
theorem exhausts_of_fetch {α : Type} {query : Option String → Except Error (Page α)} {xs : List α}
    {size : Nat} (hquery : ∀ t, query t = Page.fetch xs size t) (hxs : xs.length < 2 ^ 63)
    {token : Option String} {start : PageRequest}
    (h : PageRequest.ofToken token size = .ok start) : Page.Exhausts query token start xs := by
  obtain rfl : query = Page.fetch xs size := funext hquery
  exact Page.exhausts_fetch hxs h

/-- Following the tokens of a query from `token` on, which asks for `start`, shows its whole result
from the offset on, whatever is asked of the catalog. -/
structure WalksExhaust (c : Catalog) (settings : Settings) (token : Option String)
    (start : PageRequest) : Prop where
  callers : ∀ q target, method c q = .ok target →
    (Usage.sort (c.callers target)).length < 2 ^ 63 →
      Page.Exhausts (fun t => (Query.callers c settings q t).map (·.page)) token start
        (Usage.sort (c.callers target))
  readers : ∀ q target, field c q = .ok target →
    (Usage.sort (c.readers target)).length < 2 ^ 63 →
      Page.Exhausts (fun t => (Query.readers c settings q t).map (·.page)) token start
        (Usage.sort (c.readers target))
  writers : ∀ q target, field c q = .ok target →
    (Usage.sort (c.writers target)).length < 2 ^ 63 →
      Page.Exhausts (fun t => (Query.writers c settings q t).map (·.page)) token start
        (Usage.sort (c.writers target))
  references : ∀ q target, type c q = .ok target →
    (Reference.sort (c.references target)).length < 2 ^ 63 →
      Page.Exhausts (fun t => (Query.references c settings q t).map (·.page)) token start
        (Reference.sort (c.references target))
  dependencyPaths : ∀ p q source target maxLength length, type c p = .ok source →
    type c q = .ok target →
    length = (maxLength.map (Limits.clampPathLength · Limits.maxPathLength)).getD
      settings.pathLength →
    (c.dependencyPaths source target length).length < 2 ^ 63 →
      Page.Exhausts (fun t => (Query.dependencyPaths c settings p q maxLength t).map (·.page))
        token start (c.dependencyPaths source target length)
  deadCode : ∀ name a includePrivate dead, assembly c name = .ok a →
    dead = (a.deadCode (includePrivate.getD settings.includePrivate)).symbols →
    dead.length < 2 ^ 63 →
      Page.Exhausts (fun t => (Query.deadCode c settings name includePrivate t).map (·.page))
        token start dead
  search : ∀ pattern kind name k a found, kindFilter kind = .ok k → scope c name = .ok a →
    searchSymbols c pattern k (a.map (·.name)) = .ok found → found.length < 2 ^ 63 →
      Page.Exhausts (fun t => (Query.search c settings pattern kind name t).map (·.page))
        token start found

/-- **Following tokens loses and repeats nothing**, neither over a plain list nor over the result
of a query. Without a token, or with the empty one, the walk starts at the first item. -/
theorem walks_exhaust (settings : Settings) {token : Option String} {start : PageRequest}
    (h : PageRequest.ofToken token settings.pageSize = .ok start) :
    (∀ t, t = none ∨ t = some "" →
        ∃ first, PageRequest.ofToken t settings.pageSize = .ok first ∧ first.offset = 0) ∧
      (∀ (α : Type) (xs : List α), xs.length < 2 ^ 63 →
        Page.Exhausts (Page.fetch xs settings.pageSize) token start xs) ∧
      ∀ c : Catalog, WalksExhaust c settings token start := by
  refine ⟨?_, fun α xs hxs => Page.exhausts_fetch hxs h, fun c => ?_⟩
  · rintro t (rfl | rfl) <;> exact ⟨.first settings.pageSize, rfl, rfl⟩
  constructor
  case callers =>
    intro q target hq hlen
    refine exhausts_of_fetch (fun t => ?_) hlen h
    simp only [Query.callers, hq, Except.ok_bind, Except.map_bind_pure]
    rfl
  case readers =>
    intro q target hq hlen
    refine exhausts_of_fetch (fun t => ?_) hlen h
    simp only [Query.readers, hq, Except.ok_bind, Except.map_bind_pure]
    rfl
  case writers =>
    intro q target hq hlen
    refine exhausts_of_fetch (fun t => ?_) hlen h
    simp only [Query.writers, hq, Except.ok_bind, Except.map_bind_pure]
    rfl
  case references =>
    intro q target hq hlen
    refine exhausts_of_fetch (fun t => ?_) hlen h
    simp only [Query.references, hq, Except.ok_bind, Except.map_bind_pure]
    rfl
  case dependencyPaths =>
    rintro p q source target maxLength _ hp hq rfl hlen
    refine exhausts_of_fetch (fun t => ?_) hlen h
    simp only [Query.dependencyPaths, hp, hq, Except.ok_bind, Except.map_bind_pure]
    rfl
  case deadCode =>
    rintro name a includePrivate _ ha rfl hlen
    refine exhausts_of_fetch (fun t => ?_) hlen h
    simp only [Query.deadCode, ha, Except.ok_bind, Except.map_bind_pure]
    rfl
  case search =>
    intro pattern kind name k a found hkind hscope hfound hlen
    refine exhausts_of_fetch (fun t => ?_) hlen h
    simp only [Query.search, hkind, hscope, hfound, Except.ok_bind, Except.map_bind_pure]
    rfl

/-- From the second item on, two at a time: over a text of five characters, and over the dead code
of an assembly of three types. -/
theorem walks_exhaust_pairs :
    let settings : Settings := { pageSize := 3 }
    let token := some (PageRequest.token ⟨1, 2⟩)
    let app : Assembly := .ofTypes "App" [.named "N.A", .named "N.B", .named "N.C"]
    let c : Catalog := .ofAssemblies [app]
    PageRequest.ofToken token settings.pageSize = .ok ⟨1, 2⟩ ∧
      Page.Exhausts (Page.fetch "pages".toList settings.pageSize) token ⟨1, 2⟩ "pages".toList ∧
      assembly c "App" = .ok app ∧
      Page.Exhausts (fun t => (deadCode c settings "App" none t).map (·.page)) token ⟨1, 2⟩
        (app.deadCode false).symbols := by
  intro settings token app c
  have htoken : PageRequest.ofToken token settings.pageSize = .ok ⟨1, 2⟩ :=
    PageRequest.ofToken_token (by decide) (by decide) (by decide) _
  have hname : normalizeName "App" = .ok "App" := by decide +kernel
  have htrim : Text.trim "App" = "App" := by decide +kernel
  have hnamed : app.isNamed (Text.trim "App") = true := by
    rw [htrim]
    exact beq_self_eq_true _
  have hfind : c.findAssemblyLoose? "App" = some app := List.find?_cons_of_pos hnamed
  have happ : assembly c "App" = .ok app := by
    simp only [assembly, hname, Except.ok_bind, hfind]
    rfl
  have htext : "pages".toList.length = 5 := by decide +kernel
  have hdead : (app.deadCode false).symbols.length = 3 := by
    simp only [DeadCode.symbols, Assembly.deadCode, distinctSorted, sortedBy, List.length_append,
      List.length_map, List.length_mergeSort]
    decide +kernel
  obtain ⟨-, hlist, hqueries⟩ := walks_exhaust settings htoken
  exact ⟨htoken, hlist Char "pages".toList (by omega), happ,
    (hqueries c).deadCode "App" app none _ happ rfl (by omega)⟩

end AssemblyAtlas.Query
