import AssemblyAtlas.Json.Decoder
import Mathlib.Data.List.Basic

/-!
# Decoders undo encoders

`Decoder.Recovers d f x` says that the decoder `d` reads the encoding `f x` as `x`, and does so
exactly when the encoding is not nested more deeply than allowed. There is one law for each way to
build a decoder: texts, truth values, integers, lists, names, and the fields of a record, which
are always written or written only if there is a value. The laws are put together along the steps
of a decoder by `Yields.bind`.

`Decoder.Ensures d P` says that everything `d` reads, from any value at all, has the property `P`;
here the steps are followed by `Gives.bind`.
-/

namespace AssemblyAtlas.Json

/-! ### Nesting -/

@[simp] theorem nesting_text (s : String) : (text s).nesting = 0 := rfl
@[simp] theorem nesting_bool (b : Bool) : (Json.bool b).nesting = 0 := rfl
@[simp] theorem nesting_nat (n : Nat) : (nat n).nesting = 0 := rfl

theorem nestingOfItems_le_iff {js : List Json} {n : Nat} :
    nestingOfItems js ≤ n ↔ ∀ j ∈ js, j.nesting ≤ n := by
  induction js with
  | nil => simp [nestingOfItems]
  | cons j js ih => rw [nestingOfItems, Nat.max_le, ih, List.forall_mem_cons]

theorem nestingOfFields_le_iff {fs : List (Option String × Json)} {n : Nat} :
    nestingOfFields fs ≤ n ↔ ∀ f ∈ fs, f.2.nesting ≤ n := by
  induction fs with
  | nil => simp [nestingOfFields]
  | cons f fs ih =>
    obtain ⟨k, j⟩ := f
    rw [nestingOfFields, Nat.max_le, ih, List.forall_mem_cons]

/-- No value of the fields is nested more than `n` deep. -/
def FieldsWithin (n : Nat) (fields : List (String × Json)) : Prop :=
  ∀ f ∈ fields, f.2.nesting ≤ n

@[simp] theorem fieldsWithin_nil (n : Nat) : FieldsWithin n [] := by
  simp [FieldsWithin]

@[simp] theorem fieldsWithin_cons {n : Nat} {name : String} {j : Json}
    {fields : List (String × Json)} :
    FieldsWithin n ((name, j) :: fields) ↔ j.nesting ≤ n ∧ FieldsWithin n fields :=
  List.forall_mem_cons

@[simp] theorem fieldsWithin_append {n : Nat} {fields others : List (String × Json)} :
    FieldsWithin n (fields ++ others) ↔ FieldsWithin n fields ∧ FieldsWithin n others :=
  List.forall_mem_append

/-- A field that is written only if there is a value is as deep as that value. -/
@[simp] theorem fieldsWithin_field? {α : Type} {n : Nat} {name : String} {f : α → Json}
    {x : Option α} : FieldsWithin n (field? name f x) ↔ ∀ a ∈ x, (f a).nesting ≤ n := by
  cases x <;> simp [field?]

theorem nesting_record_le_iff {fields : List (String × Json)} {n : Nat} :
    (record fields).nesting ≤ n + 1 ↔ FieldsWithin n fields := by
  rw [record, nesting, Nat.add_le_add_iff_right, nestingOfFields_le_iff, List.forall_mem_map]
  rfl

theorem nesting_record_pos (fields : List (String × Json)) : 0 < (record fields).nesting := by
  simp [record, nesting]

theorem nesting_list_le_iff {α : Type} {f : α → Json} {xs : List α} {n : Nat} :
    (list f xs).nesting ≤ n + 1 ↔ ∀ x ∈ xs, (f x).nesting ≤ n := by
  simp [list, nesting, nestingOfItems_le_iff]

theorem nesting_list_pos {α : Type} (f : α → Json) (xs : List α) : 0 < (list f xs).nesting := by
  simp [list, nesting]

/-! ### Readings -/

section Yields

variable {α β : Type} {r : Option α} {P Q : Prop} {x : α}

/-- The reading `r` succeeds exactly under the condition `P`, and then with `x`. -/
def Yields (r : Option α) (P : Prop) (x : α) : Prop :=
  ∀ y, r = some y ↔ P ∧ y = x

theorem Yields.pure (x : α) : Yields (some x) True x := by
  intro y
  simp [eq_comm]

/-- The conditions of two steps come together. -/
theorem Yields.bind {g : α → Option β} {z : β} (hr : Yields r P x) (hg : Yields (g x) Q z) :
    Yields (r.bind g) (P ∧ Q) z := by
  intro y
  rw [Option.bind_eq_some_iff]
  constructor
  · rintro ⟨a, ha, hy⟩
    obtain ⟨hP, rfl⟩ := (hr a).1 ha
    obtain ⟨hQ, rfl⟩ := (hg y).1 hy
    exact ⟨⟨hP, hQ⟩, rfl⟩
  · rintro ⟨⟨hP, hQ⟩, rfl⟩
    exact ⟨x, (hr x).2 ⟨hP, rfl⟩, (hg y).2 ⟨hQ, rfl⟩⟩

theorem Yields.map (hr : Yields r P x) (g : α → β) : Yields (r.map g) P (g x) := by
  have h : Yields (r.bind fun a => some (g a)) (P ∧ True) (g x) := hr.bind (Yields.pure (g x))
  intro y
  rw [Option.map_eq_bind, ← and_true P]
  exact h y

theorem Yields.congr (hr : Yields r P x) (h : P ↔ Q) : Yields r Q x := by
  intro y
  rw [hr y, h]

theorem yields_of_eq (hr : r = some x) (hP : P) : Yields r P x := by
  intro y
  simp [hr, hP, eq_comm]

end Yields

namespace Decoder

variable {α β : Type}

/-- The decoder reads the encoding of `x` as `x`, exactly when the encoding is not nested more
deeply than allowed. -/
def Recovers (d : Decoder α) (f : α → Json) (x : α) : Prop :=
  ∀ levels, Yields (d levels (f x)) ((f x).nesting ≤ levels) x

/-! ### Scalars and lists -/

theorem text_recovers (s : String) : Recovers text Json.text s :=
  fun _ => yields_of_eq rfl (Nat.zero_le _)

theorem bool_recovers (b : Bool) : Recovers bool Json.bool b :=
  fun _ => yields_of_eq rfl (Nat.zero_le _)

/-- A name from a fixed set is read back if it stands for what it names. -/
theorem name_recovers {ofName? : String → Option α} {toName : α → String} {x : α}
    (h : ofName? (toName x) = some x) : Recovers (name ofName?) (fun x => Json.text (toName x)) x :=
  fun _ => yields_of_eq h (Nat.zero_le _)

theorem toInt?_ofInt (n : Int) : (Numeral.ofInt n).toInt? = some n := by
  unfold Numeral.toInt? Numeral.ofInt
  by_cases hn : n < 0
  · have hwhole : (n.natAbs == 0) = false := beq_false_of_ne (by omega)
    have habs : -(n.natAbs : Int) = n := by omega
    simp only [hn, decide_true, hwhole]
    exact congrArg some habs
  · have habs : (n.natAbs : Int) = n := by omega
    simp only [hn, decide_false]
    exact congrArg some habs

theorem int64_recovers {n : Int} (hlow : Word.int64Min ≤ n) (hhigh : n ≤ Word.int64Max) :
    Recovers int64 Json.int n := by
  intro levels
  have hread : int64 levels (Json.int n) = some n := by
    simp [int64, intBetween, Json.int, toInt?_ofInt, Option.filter_some, hlow, hhigh]
  exact yields_of_eq hread (Nat.zero_le _)

theorem uint32_recovers (n : UInt32) : Recovers uint32 (fun n => nat n.toNat) n := by
  intro levels
  have hlt : (n.toNat : Int) ≤ Word.uint32Max := by
    have := n.toNat_lt
    simp only [Word.uint32Max]
    omega
  have hread : uint32 levels (nat n.toNat) = some n := by
    simp [uint32, intBetween, nat, int, toInt?_ofInt, Option.filter_some, hlt]
  exact yields_of_eq hread (Nat.zero_le _)

theorem mapM_yields {d : Decoder α} {f : α → Json} {xs : List α} {n : Nat}
    (h : ∀ x ∈ xs, Yields (d n (f x)) ((f x).nesting ≤ n) x) :
    Yields ((xs.map f).mapM (d n)) (∀ x ∈ xs, (f x).nesting ≤ n) xs := by
  induction xs with
  | nil => exact yields_of_eq rfl (by simp)
  | cons x xs ih =>
    have hx := h x List.mem_cons_self
    have hxs := ih fun z hz => h z (List.mem_cons_of_mem _ hz)
    rw [List.map_cons, List.mapM_cons]
    exact (hx.bind (hxs.bind (.pure (x :: xs)))).congr (by simp)

/-- A list is read back if its elements are at every lower level. -/
theorem list_yields {d : Decoder α} {f : α → Json} (xs : List α) {levels : Nat}
    (h : ∀ x ∈ xs, ∀ n < levels, Yields (d n (f x)) ((f x).nesting ≤ n) x) :
    Yields (list d levels (Json.list f xs)) ((Json.list f xs).nesting ≤ levels) xs := by
  cases levels with
  | zero =>
    have hpos := nesting_list_pos f xs
    intro y
    simp only [list, reduceCtorEq, false_iff, not_and]
    omega
  | succ n =>
    exact (mapM_yields fun x hx => h x hx n n.lt_succ_self).congr nesting_list_le_iff.symm

theorem list_recovers {d : Decoder α} {f : α → Json} (xs : List α)
    (h : ∀ x ∈ xs, Recovers d f x) : Recovers (list d) (Json.list f) xs :=
  fun _ => list_yields xs fun x hx n _ => h x hx n

end Decoder

/-! ### Records -/

theorem known?_go_eq_some (names : List String) (fields seen : List (String × Json))
    (hnames : ∀ f ∈ fields, f.1 ∈ names) (hseen : ∀ f ∈ fields, ∀ e ∈ seen, e.1 ≠ f.1)
    (hnodup : (fields.map (·.1)).Nodup) :
    known?.go names seen (fields.map fun (name, value) => (some name, value)) =
      some (seen.reverse ++ fields) := by
  induction fields generalizing seen with
  | nil => simp [known?.go]
  | cons f fields ih =>
    obtain ⟨key, value⟩ := f
    have hkey : names.contains key = true := by
      simpa using hnames (key, value) List.mem_cons_self
    have hnew : ¬ seen.any (·.1 == key) = true := by
      rw [List.any_eq_true]
      rintro ⟨e, he, hk⟩
      exact hseen (key, value) List.mem_cons_self e he (beq_iff_eq.1 hk)
    rw [List.map_cons, List.nodup_cons] at hnodup
    have hrest := ih ((key, value) :: seen) (fun f hf => hnames f (List.mem_cons_of_mem _ hf))
      (fun f hf e he => by
        rcases List.mem_cons.1 he with rfl | he
        · exact fun h => hnodup.1 (List.mem_map.2 ⟨f, hf, h.symm⟩)
        · exact hseen f (List.mem_cons_of_mem _ hf) e he) hnodup.2
    rw [List.map_cons, known?.go, if_pos hkey, if_neg hnew, hrest]
    simp

/-- The members of a record are its fields, when they are known and in the order of the names. -/
theorem members_record {names : List String} {fields : List (String × Json)}
    (hsub : (fields.map (·.1)).Sublist names) (hnames : names.Nodup) (n : Nat) :
    members names (n + 1) (record fields) = some ⟨false, fields, n⟩ := by
  have hgo := known?_go_eq_some names fields []
    (fun f hf => hsub.subset (List.mem_map.2 ⟨f, hf, rfl⟩)) (by simp) (hnames.sublist hsub)
  simp [members, record, known?, hgo]

/-- A record is read back if its fields are at every lower level. -/
theorem members_yields {α : Type} {names : List String} {fields : List (String × Json)} {x : α}
    {k : Members → Option α} {levels : Nat} (hsub : (fields.map (·.1)).Sublist names)
    (hnames : names.Nodup)
    (hk : ∀ n < levels, Yields (k ⟨false, fields, n⟩) (FieldsWithin n fields) x) :
    Yields ((members names levels (record fields)).bind k) ((record fields).nesting ≤ levels)
      x := by
  cases levels with
  | zero =>
    have hpos := nesting_record_pos fields
    intro y
    simp only [record, members, Option.bind_none, reduceCtorEq, false_iff, not_and]
    simp only [record] at hpos
    omega
  | succ n =>
    rw [members_record hsub hnames]
    exact (hk n n.lt_succ_self).congr nesting_record_le_iff.symm

/-- A decoder that reads the members of a record recovers it if reading the fields does. -/
theorem Decoder.record_recovers {α : Type} {d : Decoder α} {names : List String}
    {toFields : α → List (String × Json)} {x : α} {k : Members → Option α}
    (hd : ∀ levels j, d levels j = (members names levels j).bind k)
    (hsub : ((toFields x).map (·.1)).Sublist names) (hnames : names.Nodup)
    (hk : ∀ n, Yields (k ⟨false, toFields x, n⟩) (FieldsWithin n (toFields x)) x) :
    d.Recovers (fun x => record (toFields x)) x := by
  intro levels
  rw [hd]
  exact members_yields hsub hnames fun n _ => hk n

/-! ### Fields -/

/-- An optional field is found under its own name only. As one lemma, since a separate one for equal
names would make `simp` unify the names. -/
@[simp]
theorem lookup_field? {α : Type} (name other : String) (f : α → Json) (x : Option α) :
    (field? other f x).lookup name = if name = other then x.map f else none := by
  cases x with
  | none => simp [field?]
  | some a =>
    by_cases h : name = other
    · simp [field?, h]
    · have hbeq : (name == other) = false := by simpa using h
      simp [field?, List.lookup_cons, h, hbeq]

namespace Members

variable {α : Type} {d : Decoder α} {f : α → Json} {name : String}
  {fields : List (String × Json)} {n : Nat}

theorem required_yields {x : α} (hget : fields.lookup name = some (f x))
    (h : Yields (d n (f x)) ((f x).nesting ≤ n) x) :
    Yields ((Members.mk false fields n).required name d) ((f x).nesting ≤ n) x := by
  rw [required, get?, hget]
  exact h

theorem orElse_yields {x default : α} (hget : fields.lookup name = some (f x))
    (h : Yields (d n (f x)) ((f x).nesting ≤ n) x) :
    Yields ((Members.mk false fields n).orElse name d default) ((f x).nesting ≤ n) x := by
  rw [orElse, get?, hget]
  exact h

/-- A field that is written only if there is a value is read back as such. Its encoding must not
be `null`, which stands for no value. -/
theorem optional_yields {x : Option α} (hget : fields.lookup name = x.map f)
    (hnull : ∀ a, f a ≠ .null) (h : ∀ a ∈ x, Yields (d n (f a)) ((f a).nesting ≤ n) a) :
    Yields ((Members.mk false fields n).optional name d) (∀ a ∈ x, (f a).nesting ≤ n) x := by
  cases x with
  | none =>
    rw [optional, orElse, get?, hget]
    exact yields_of_eq rfl (by simp)
  | some a =>
    have hdecode : Decoder.nullable d n (f a) = (d n (f a)).map some := by
      unfold Decoder.nullable
      split
      · exact absurd ‹_› (hnull a)
      · rfl
    rw [optional, orElse, get?, hget]
    simp only [Option.map_some, hdecode]
    exact ((h a rfl).map some).congr (by simp)

end Members

/-! ### Values that are kept whole -/

/-- The value can be kept whole exactly when it is not nested more deeply than allowed. -/
def Keeps (j : Json) : Prop :=
  ∀ n, j.isKeepable n = true ↔ j.nesting ≤ n

theorem keeps_text (s : String) : Keeps (text s) := by
  intro n
  simp [text, isKeepable, nesting]

theorem areKeepable_iff {js : List Json} {n : Nat} :
    areKeepable n js = true ↔ ∀ j ∈ js, j.isKeepable n = true := by
  induction js with
  | nil => simp [areKeepable]
  | cons j js ih => simp [areKeepable, ih]

theorem keeps_list {α : Type} {f : α → Json} {xs : List α} (h : ∀ x ∈ xs, Keeps (f x)) :
    Keeps (list f xs) := by
  intro n
  cases n with
  | zero => simp [list, isKeepable, nesting]
  | succ n =>
    rw [nesting_list_le_iff, list, isKeepable, areKeepable_iff, List.forall_mem_map]
    exact forall₂_congr fun x hx => h x hx n

theorem areFieldsKeepable_iff {fields : List (String × Json)} (h : ∀ f ∈ fields, Keeps f.2)
    (n : Nat) : areFieldsKeepable n (fields.map fun (name, value) => (some name, value)) = true ↔
      FieldsWithin n fields := by
  induction fields with
  | nil => simp [areFieldsKeepable]
  | cons f fields ih =>
    obtain ⟨name, j⟩ := f
    have hj := h (name, j) List.mem_cons_self n
    have hrest := ih fun f hf => h f (List.mem_cons_of_mem _ hf)
    rw [List.map_cons, areFieldsKeepable, Bool.and_eq_true, Bool.and_eq_true, hrest,
      fieldsWithin_cons, hj]
    simp

theorem keeps_record {fields : List (String × Json)} (h : ∀ f ∈ fields, Keeps f.2) :
    Keeps (record fields) := by
  intro n
  cases n with
  | zero => simp [record, isKeepable, nesting]
  | succ n => rw [nesting_record_le_iff, record, isKeepable, areFieldsKeepable_iff h]

theorem takeField?_record {key : String} {j : Json} {fields : List (String × Json)}
    (hkey : ∀ f ∈ fields, f.1 ≠ key) :
    takeField? key (((key, j) :: fields).map fun (name, value) => (some name, value)) =
      some (j, fields.map fun (name, value) => (some name, value)) := by
  have hrest : ∀ f ∈ fields.map fun (name, value) => (some name, value),
      (f.1 == some key) = false := by
    intro f hf
    obtain ⟨e, he, rfl⟩ := List.mem_map.1 hf
    simpa using hkey e he
  have hnone : (fields.map fun (name, value) => (some name, value)).filter (·.1 == some key) =
      [] := by
    rw [List.filter_eq_nil_iff]
    intro f hf
    simp [hrest f hf]
  have hall : (fields.map fun (name, value) => (some name, value)).filter
      (fun f => !(f.1 == some key)) = fields.map fun (name, value) => (some name, value) := by
    rw [List.filter_eq_self]
    intro f hf
    simp [hrest f hf]
  rw [takeField?, List.partition_eq_filter_filter, List.map_cons, List.filter_cons_of_pos (by simp),
    hnone, List.filter_cons_of_neg (by simp)]
  simp only [Function.comp_def, hall]

/-- A record whose first field is its tag is read by the decoder of the tag. -/
theorem Decoder.tagged_yields {α : Type} {key tag : String} {ofTag? : String → Option (Decoder α)}
    {d : Decoder α} {fields : List (String × Json)} {x : α} (htag : ofTag? tag = some d)
    (hkey : ∀ f ∈ fields, f.1 ≠ key) (hkeep : ∀ f ∈ fields, Keeps f.2)
    (h : ∀ levels, Yields (d levels (record fields)) ((record fields).nesting ≤ levels) x)
    (levels : Nat) :
    Yields (tagged key ofTag? levels (record ((key, Json.text tag) :: fields)))
      ((record ((key, Json.text tag) :: fields)).nesting ≤ levels) x := by
  cases levels with
  | zero =>
    intro y
    simp [tagged, record, nesting]
  | succ n =>
    have hfields := areFieldsKeepable_iff hkeep n
    rw [nesting_record_le_iff, fieldsWithin_cons]
    simp only [tagged, record, takeField?_record hkey, Option.bind_eq_bind, Option.bind_some,
      Decoder.text, Json.text, htag]
    intro y
    by_cases hwithin : FieldsWithin n fields
    · rw [if_pos (hfields.2 hwithin), ← record, h (n + 1) y, nesting_record_le_iff]
      simp [nesting]
    · rw [if_neg (mt hfields.1 hwithin)]
      simp [hwithin]

/-! ### Properties of all that is read -/

section Gives

variable {α β : Type} {P : α → Prop}

/-- Whatever the reading gives has the property. -/
def Gives (r : Option α) (P : α → Prop) : Prop :=
  ∀ x, r = some x → P x

theorem Gives.pure {x : α} (h : P x) : Gives (some x) P := by
  intro y hy
  exact Option.some.inj hy ▸ h

theorem Gives.bind {r : Option β} {g : β → Option α} (h : ∀ y, r = some y → Gives (g y) P) :
    Gives (r.bind g) P := by
  intro x hx
  obtain ⟨y, hy, hgy⟩ := Option.bind_eq_some_iff.1 hx
  exact h y hy x hgy

end Gives

variable {α : Type} {d : Decoder α} {P : α → Prop}

/-- Everything that the decoder reads has the property. -/
def Decoder.Ensures (d : Decoder α) (P : α → Prop) : Prop :=
  ∀ levels j, Gives (d levels j) P

theorem Decoder.int64_ensures :
    Decoder.int64.Ensures fun n => Word.int64Min ≤ n ∧ n ≤ Word.int64Max := by
  intro levels j n hn
  unfold int64 intBetween at hn
  split at hn
  · have hbounds := (Option.filter_eq_some_iff.1 hn).2
    simpa using hbounds
  · cases hn

theorem Decoder.Ensures.list (h : d.Ensures P) :
    (Decoder.list d).Ensures fun xs => ∀ x ∈ xs, P x := by
  intro levels j
  unfold Decoder.list
  split
  · next levels items =>
    induction items with
    | nil => exact .pure (by simp)
    | cons item items ih =>
      rw [List.mapM_cons]
      refine .bind fun x hx => .bind fun xs hxs => .pure ?_
      exact List.forall_mem_cons.2 ⟨h levels item x hx, ih xs hxs⟩
  · intro xs hxs
    cases hxs

namespace Members

variable {m : Members} {name : String}

theorem required_ensures {x : α} (h : d.Ensures P) (hx : m.required name d = some x) : P x := by
  obtain ⟨j, -, hj⟩ := Option.bind_eq_some_iff.1 hx
  exact h m.levels j x hj

theorem orElse_ensures {x default : α} (h : d.Ensures P) (hdefault : P default)
    (hx : m.orElse name d default = some x) : P x := by
  unfold orElse at hx
  split at hx
  · exact Option.some.inj hx ▸ hdefault
  · next j hj => exact h m.levels j x hx

theorem optional_ensures {x : Option α} (h : d.Ensures P) (hx : m.optional name d = some x) :
    ∀ a ∈ x, P a := by
  refine orElse_ensures (d := Decoder.nullable d) (P := fun x => ∀ a ∈ x, P a) ?_ (by simp) hx
  intro levels j
  unfold Decoder.nullable
  split
  · exact .pure (by simp)
  · intro y hy
    obtain ⟨b, hb, rfl⟩ := Option.map_eq_some_iff.1 hy
    simpa using h levels _ b hb

end Members

end AssemblyAtlas.Json
