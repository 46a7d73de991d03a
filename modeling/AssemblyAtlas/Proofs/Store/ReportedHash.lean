import AssemblyAtlas.Proofs.Store.Holdings

/-!
# The hash that is reported for a name

A store keeps assemblies apart by their exact names, but the hash under a name is read ignoring
case, and is that of the row that was inserted first. Removing a name removes all its variants at
once, so what is reported is determined by what was saved since: it is the hash of the variant that
was saved first, with the text that was saved last under that variant
(`Tables.contentHash?_serveAll`).

Hence the hash that is reported for an assembly right after it was saved is its own, unless an older
assembly is still stored whose name differs only in case (`Tables.contentHash?_save_iff`).
-/

namespace AssemblyAtlas.Store

/-! ### What was saved -/

/-- The assemblies saved since a name was last removed, after one more request. -/
def remember (n : String) (saved : List Assembly) : Request → List Assembly
  | .save a => saved ++ [a]
  | .saveAll as => saved ++ as
  | .remove m => if sameName m n then [] else saved

/-- The assemblies saved since a name was last removed. -/
def savedSince (n : String) (requests : List Request) : List Assembly :=
  requests.foldl (remember n) []

/-- The assembly that was last saved under exactly this name. -/
def lastSaved? (saved : List Assembly) (m : String) : Option Assembly :=
  saved.reverse.find? (·.name == m)

/-- The assembly whose hash is reported for a name: the variant of the name that was saved first,
as it was saved last. -/
def reported? (n : String) (saved : List Assembly) : Option Assembly :=
  (saved.find? fun a => sameName a.name n).bind fun first => lastSaved? saved first.name

theorem savedSince_remove {m n : String} (requests : List Request) (h : sameName m n = true) :
    savedSince n (requests ++ [.remove m]) = [] := by
  rw [savedSince, List.foldl_concat]
  exact if_pos h

theorem lastSaved?_concat (saved : List Assembly) (a : Assembly) (m : String) :
    lastSaved? (saved ++ [a]) m = if a.name = m then some a else lastSaved? saved m := by
  rw [lastSaved?, List.reverse_concat]
  by_cases h : a.name = m
  · rw [if_pos h, List.find?_cons_of_pos (by simpa using h)]
  · rw [if_neg h, List.find?_cons_of_neg (by simpa using h), lastSaved?]

theorem name_of_lastSaved? {saved : List Assembly} {m : String} {a : Assembly}
    (h : lastSaved? saved m = some a) : a.name = m :=
  eq_of_beq (List.find?_some h :)

theorem mem_of_lastSaved? {saved : List Assembly} {m : String} {a : Assembly}
    (h : lastSaved? saved m = some a) : a ∈ saved :=
  List.mem_reverse.1 (List.mem_of_find?_eq_some h)

theorem exists_lastSaved? {saved : List Assembly} {a : Assembly} (h : a ∈ saved) :
    ∃ b, lastSaved? saved a.name = some b := by
  rw [← Option.isSome_iff_exists, lastSaved?, List.find?_isSome]
  exact ⟨a, List.mem_reverse.2 h, beq_self_eq_true _⟩

theorem reported?_eq_some {n : String} {saved : List Assembly} {b : Assembly}
    (h : reported? n saved = some b) : b ∈ saved ∧ sameName b.name n = true := by
  obtain ⟨first, hfirst, hlast⟩ := Option.bind_eq_some_iff.1 h
  have hsame := List.find?_some hfirst
  rw [name_of_lastSaved? hlast]
  exact ⟨mem_of_lastSaved? hlast, hsame⟩

/-- An assembly of another name that is shown stays when the name itself is saved. -/
theorem reported?_concat_of_ne {saved : List Assembly} {a b : Assembly}
    (hb : reported? a.name saved = some b) (hname : b.name ≠ a.name) :
    reported? a.name (saved ++ [a]) = some b := by
  obtain ⟨first, hfirst, hlast⟩ := Option.bind_eq_some_iff.1 hb
  rw [reported?, List.find?_append, hfirst, Option.some_or, Option.bind_some, lastSaved?_concat,
    if_neg (name_of_lastSaved? hlast ▸ hname.symm), hlast]

/-- Unless an assembly of another name is shown, what is saved under a name is shown. -/
theorem reported?_concat_self {saved : List Assembly} {a : Assembly}
    (h : ∀ b, reported? a.name saved = some b → b.name = a.name) :
    reported? a.name (saved ++ [a]) = some a := by
  rw [reported?, List.find?_append]
  cases hfirst : saved.find? fun b => sameName b.name a.name with
  | none =>
    have hself : [a].find? (fun b => sameName b.name a.name) = some a :=
      List.find?_cons_of_pos (sameName_self a.name)
    rw [Option.none_or, hself, Option.bind_some, lastSaved?_concat, if_pos rfl]
  | some first =>
    obtain ⟨b, hb⟩ := exists_lastSaved? (List.mem_of_find?_eq_some hfirst)
    have hname : b.name = a.name := h b (by rw [reported?, hfirst, Option.bind_some, hb])
    rw [Option.some_or, Option.bind_some, lastSaved?_concat,
      if_pos (hname.symm.trans (name_of_lastSaved? hb))]

theorem mem_of_mem_remember {n : String} {saved : List Assembly} {r : Request} {b : Assembly}
    (h : b ∈ remember n saved r) : b ∈ saved ∨ b ∈ r.assemblies := by
  cases r with
  | save a => simpa [remember, Request.assemblies] using h
  | saveAll as => simpa [remember, Request.assemblies] using h
  | remove m =>
    rw [remember] at h
    split at h
    · cases h
    · exact .inl h

theorem mem_of_mem_savedSince {n : String} {requests : List Request} {b : Assembly}
    (h : b ∈ savedSince n requests) : b ∈ requests.flatMap Request.assemblies := by
  have hrun : ∀ (rs : List Request) (saved : List Assembly), b ∈ rs.foldl (remember n) saved →
      b ∈ saved ∨ b ∈ rs.flatMap Request.assemblies := by
    intro rs
    induction rs with
    | nil => exact fun saved hb => .inl hb
    | cons r rs ih =>
      intro saved hb
      rw [List.flatMap_cons, List.mem_append]
      rcases ih _ hb with hb | hb
      · rcases mem_of_mem_remember hb with hb | hb
        · exact .inl hb
        · exact .inr (.inl hb)
      · exact .inr (.inr hb)
  exact (hrun requests [] h).resolve_left List.not_mem_nil

/-! ### Rows by name -/

/-- A search for less ends at the same place, if that is what it looks for. -/
theorem find?_eq_some_of_imp {α : Type} {p q : α → Bool} {xs : List α} {x : α}
    (h : xs.find? p = some x) (hq : q x = true) (himp : ∀ y, q y = true → p y = true) :
    xs.find? q = some x := by
  obtain ⟨-, before, after, rfl, hbefore⟩ := List.find?_eq_some_iff_append.1 h
  refine List.find?_eq_some_iff_append.2 ⟨hq, before, after, rfl, fun y hy => ?_⟩
  have hpy := hbefore y hy
  cases hqy : q y with
  | false => rfl
  | true => simp [himp y hqy] at hpy

namespace Tables

/-- The names of the assemblies, in the order of their rows. -/
def names (t : Tables) : List String :=
  t.assemblies.map (·.name)

/-- The hash in the row of exactly this name. -/
def hashOf? (t : Tables) (m : String) : Option String :=
  (t.assemblies.find? (·.name == m)).map (·.contentHash)

theorem map_name_putRow (row : AssemblyRow) (rows : List AssemblyRow) :
    (putRow row rows).map (·.name) = if row.name ∈ rows.map (·.name) then rows.map (·.name)
      else rows.map (·.name) ++ [row.name] := by
  induction rows with
  | nil => simp [putRow]
  | cons r rows ih => grind [putRow]

theorem find?_putRow (row : AssemblyRow) (rows : List AssemblyRow) (m : String) :
    (putRow row rows).find? (·.name == m) =
      if row.name = m then some row else rows.find? (·.name == m) := by
  induction rows with
  | nil => by_cases h : row.name = m <;> simp [putRow, h]
  | cons r rows ih => grind [putRow]

/-- Saving adds the name of the assembly at the end, unless it is there already. -/
theorem names_save (t : Tables) (a : Assembly) :
    (t.save a).1.names = if a.name ∈ t.names then t.names else t.names ++ [a.name] := by
  unfold save
  dsimp only
  split
  · next hsame =>
    obtain ⟨r, hr, -⟩ := Option.map_eq_some_iff.1 hsame
    have hname : r.name = a.name := eq_of_beq (List.find?_some hr :)
    rw [if_pos (hname ▸ List.mem_map_of_mem (List.mem_of_find?_eq_some hr))]
  · exact map_name_putRow (.of a) t.assemblies

theorem hashOf?_save (t : Tables) (a : Assembly) (m : String) :
    (t.save a).1.hashOf? m =
      if a.name = m then some (AssemblyRow.of a).contentHash else t.hashOf? m := by
  unfold save
  dsimp only
  split
  · next hsame =>
    -- The stored hash is that of the assembly, so leaving the row as it is changes nothing.
    split
    · next hm => rw [← hm, hashOf?, hsame]
    · rfl
  · rw [hashOf?, find?_putRow]
    by_cases hm : a.name = m
    · rw [if_pos (show (AssemblyRow.of a).name = m from hm), if_pos hm, Option.map_some]
    · rw [if_neg (show ¬ (AssemblyRow.of a).name = m from hm), if_neg hm, hashOf?]

theorem find?_names_save (t : Tables) (a : Assembly) (p : String → Bool) :
    (t.save a).1.names.find? p = (t.names ++ [a.name]).find? p := by
  rw [names_save]
  split
  · next hmem =>
    rw [List.find?_append]
    cases hfind : t.names.find? p with
    | some m => rfl
    | none => simp [List.find?_eq_none.1 hfind _ hmem]
  · rfl

/-- A row is kept by a removal if and only if its name is not the same as the removed one. -/
theorem find?_remove (t : Tables) {m n : String} (p : AssemblyRow → Bool)
    (hp : ∀ r, p r = true → sameName r.name n = true) :
    (t.remove m).1.assemblies.find? p =
      if sameName m n then none else t.assemblies.find? p := by
  -- Of the rows that are looked for, either all have the removed name or none.
  have hrow : ∀ r, p r = true → sameName r.name m = sameName m n := fun r hr => by
    rw [sameName_congr_left (hp r hr) m, sameName_comm]
  rw [remove, List.find?_filter]
  cases hsame : sameName m n with
  | true =>
    refine List.find?_eq_none.2 fun r _ hr => ?_
    obtain ⟨hkept, hr⟩ := of_decide_eq_true hr
    simp [hrow r hr, hsame] at hkept
  | false =>
    show _ = t.assemblies.find? p
    congr 1
    funext r
    cases hr : p r with
    | false => simp
    | true => simp [hrow r hr, hsame]

/-! ### Requests -/

/-- Among the variants of a name, the rows show what was saved: the variant that came first stands
first, and the row of each has the hash of what was saved last under it. -/
structure Traces (t : Tables) (n : String) (saved : List Assembly) : Prop where
  first : t.names.find? (sameName · n) = (saved.map (·.name)).find? (sameName · n)
  last : ∀ m, sameName m n = true →
    t.hashOf? m = (lastSaved? saved m).map fun a => (AssemblyRow.of a).contentHash

namespace Traces

variable {t : Tables} {n : String} {saved : List Assembly}

theorem save (h : t.Traces n saved) (a : Assembly) : (t.save a).1.Traces n (saved ++ [a]) where
  first := by
    rw [find?_names_save, List.find?_append, h.first, List.map_append, List.find?_append]
    rfl
  last m hm := by
    rw [hashOf?_save, lastSaved?_concat, h.last m hm]
    split <;> rfl

theorem saveAll (h : t.Traces n saved) (as : List Assembly) :
    (t.saveAll as).1.Traces n (saved ++ as) := by
  induction as generalizing t saved with
  | nil => rwa [List.append_nil]
  | cons a as ih =>
    rw [saveAll_cons, ← List.singleton_append, ← List.append_assoc]
    exact ih (h.save a)

theorem remove (h : t.Traces n saved) (m : String) :
    (t.remove m).1.Traces n (if sameName m n then [] else saved) where
  first := by
    rw [names, List.find?_map, Function.comp_def,
      find?_remove t (fun r => sameName r.name n) fun r hr => hr]
    split
    · rfl
    · rw [← h.first, names, List.find?_map, Function.comp_def]
  last k hk := by
    have hrow : ∀ r : AssemblyRow, (r.name == k) = true → sameName r.name n = true :=
      fun r hr => eq_of_beq hr ▸ hk
    rw [hashOf?, find?_remove t _ hrow]
    split
    · rfl
    · exact h.last k hk

theorem serve (h : t.Traces n saved) (r : Request) :
    (t.serve r).1.Traces n (remember n saved r) := by
  cases r with
  | save a => exact h.save a
  | saveAll as => exact h.saveAll as
  | remove m => exact h.remove m

theorem serveAll (h : t.Traces n saved) (requests : List Request) :
    (t.serveAll requests).1.Traces n (requests.foldl (remember n) saved) := by
  induction requests generalizing t saved with
  | nil => exact h
  | cons r requests ih => exact ih (h.serve r)

theorem contentHash?_eq (h : t.Traces n saved) :
    t.contentHash? n = (reported? n saved).map fun a => (AssemblyRow.of a).contentHash := by
  have hfirst := h.first
  rw [names, List.find?_map, List.find?_map] at hfirst
  cases hrow : t.assemblies.find? fun r => sameName r.name n with
  | none =>
    have hnone : saved.find? (fun a => sameName a.name n) = none := by
      simpa [Function.comp_def, hrow] using hfirst.symm
    rw [contentHash?, hrow, reported?, hnone]
    rfl
  | some r =>
    obtain ⟨a, ha, hname⟩ : ∃ a, saved.find? (fun a => sameName a.name n) = some a ∧
        a.name = r.name := by
      simpa [Function.comp_def, hrow] using hfirst.symm
    have hr : sameName r.name n = true := (List.find?_some hrow :)
    -- The first row of some variant is also the first row of its own name.
    have hown : t.assemblies.find? (·.name == r.name) = some r :=
      find?_eq_some_of_imp hrow (beq_self_eq_true _) fun q hq => eq_of_beq hq ▸ hr
    rw [contentHash?, hrow, reported?, ha, Option.bind_some, hname, ← h.last _ hr, hashOf?, hown]

end Traces

theorem traces_empty {t : Tables} (hempty : t.assemblies = []) (n : String) : t.Traces n [] := by
  constructor <;> simp [names, hashOf?, hempty, lastSaved?]

/-- **The hash under a name is that of the variant that was saved first**, as it was saved last,
after any requests to an empty store. -/
theorem contentHash?_serveAll {t : Tables} (hempty : t.assemblies = []) (requests : List Request)
    (n : String) : (t.serveAll requests).1.contentHash? n =
      (reported? n (savedSince n requests)).map fun a => (AssemblyRow.of a).contentHash :=
  ((traces_empty hempty n).serveAll requests).contentHash?_eq

/-- **The hash under the name of an assembly that was just saved** is its own if and only if there
was no assembly shown under the name before, or it has exactly this name, or it has the same hash.
Otherwise the hash of the other assembly is still shown. So the hash is right whenever no variant of
the name was saved. -/
theorem contentHash?_save_iff (t : Tables) (hempty : t.assemblies = []) (requests : List Request)
    (a : Assembly) :
    let hash (b : Assembly) := Sha256.hex (Text.Utf8.encode b.canonicalText)
    let shown := ((t.serveAll requests).1.save a).1.contentHash? a.name
    let before := reported? a.name (savedSince a.name requests)
    (shown = some (hash a) ↔ ∀ b, before = some b → b.name = a.name ∨ hash b = hash a) ∧
      (∀ b, before = some b → b.name ≠ a.name → shown = some (hash b)) ∧
      ((∀ b ∈ requests.flatMap Request.assemblies, sameName b.name a.name → b.name = a.name) →
        shown = some (hash a)) := by
  intro hash shown before
  have hshown : shown = (reported? a.name (savedSince a.name requests ++ [a])).map hash :=
    (((traces_empty hempty a.name).serveAll requests).save a).contentHash?_eq
  have hother : ∀ b, before = some b → b.name ≠ a.name → shown = some (hash b) := by
    intro b hb hname
    rw [hshown, reported?_concat_of_ne hb hname, Option.map_some]
  have hself : (∀ b, before = some b → b.name = a.name) → shown = some (hash a) := by
    intro h
    rw [hshown, reported?_concat_self h, Option.map_some]
  have hiff : shown = some (hash a) ↔ ∀ b, before = some b → b.name = a.name ∨ hash b = hash a := by
    constructor
    · intro hown b hb
      refine or_iff_not_imp_left.2 fun hname => ?_
      exact Option.some.inj ((hother b hb hname).symm.trans hown)
    · intro h
      by_cases hvariant : ∃ b, before = some b ∧ b.name ≠ a.name
      · obtain ⟨b, hb, hname⟩ := hvariant
        rw [hother b hb hname, (h b hb).resolve_left hname]
      · exact hself fun b hb => by_contra fun hname => hvariant ⟨b, hb, hname⟩
  refine ⟨hiff, hother, fun hvariants => hiff.2 fun b hb => .inl ?_⟩
  obtain ⟨hmem, hsame⟩ := reported?_eq_some hb
  exact hvariants b (mem_of_mem_savedSince hmem) hsame

/-- An older variant of the name was removed, under a third spelling of it. -/
theorem contentHash?_save_iff_removed :
    let older : Assembly := { name := "App", version := "1.0.0.0" }
    let newer : Assembly := { name := "app" }
    let requests : List Request := [.save older, .remove "APP"]
    ({} : Tables).assemblies = [] ∧
      ((({} : Tables).serveAll requests).1.save newer).1.contentHash? newer.name =
        some (Sha256.hex (Text.Utf8.encode newer.canonicalText)) := by
  intro older newer requests
  have hsame : sameName "APP" "app" = true := by
    have hupper : Text.lower (sameName.beforeZero "APP") = "app" := by decide +kernel
    have hlower : Text.lower (sameName.beforeZero "app") = "app" := by decide +kernel
    exact sameName_iff.2 ⟨hupper.trans hlower.symm, rfl⟩
  have hsince : savedSince newer.name requests = [] :=
    savedSince_remove [.save older] hsame
  obtain ⟨hiff, -⟩ := contentHash?_save_iff {} rfl requests newer
  refine ⟨rfl, hiff.2 fun b hb => ?_⟩
  rw [hsince] at hb
  cases hb

/-- Two assemblies are saved whose names differ only in case. The hash that is then reported for the
name of the second is the hash of the first. -/
theorem contentHash?_save_shows_older :
    let older : Assembly := { name := "App", version := "1.0.0.0" }
    let newer : Assembly := { name := "app" }
    let shown := ((({} : Tables).serveAll [.save older]).1.save newer).1.contentHash? newer.name
    shown = some (Sha256.hex (Text.Utf8.encode older.canonicalText)) ∧
      shown ≠ some (Sha256.hex (Text.Utf8.encode newer.canonicalText)) := by
  intro older newer shown
  have hsame : sameName "App" "app" = true := by
    have hupper : Text.lower (sameName.beforeZero "App") = "app" := by decide +kernel
    have hlower : Text.lower (sameName.beforeZero "app") = "app" := by decide +kernel
    exact sameName_iff.2 ⟨hupper.trans hlower.symm, rfl⟩
  have hreported : reported? newer.name [older, newer] = some older := by
    have hfirst : [older, newer].find? (fun a => sameName a.name newer.name) = some older :=
      List.find?_cons_of_pos hsame
    rw [reported?, hfirst]
    rfl
  have hshown : shown = some (Sha256.hex (Text.Utf8.encode older.canonicalText)) := by
    have hrun := contentHash?_serveAll (t := {}) rfl [.save older, .save newer] newer.name
    rw [show savedSince newer.name [.save older, .save newer] = [older, newer] from rfl,
      hreported] at hrun
    exact hrun
  have hhash : Sha256.hex (Text.Utf8.encode older.canonicalText) ≠
      Sha256.hex (Text.Utf8.encode newer.canonicalText) := by decide +kernel
  exact ⟨hshown, fun h => hhash (Option.some.inj (hshown.symm.trans h))⟩

end Tables

end AssemblyAtlas.Store
