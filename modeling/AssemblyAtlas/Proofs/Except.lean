/-!
# Computations that may fail

Steps of a computation are taken apart by `Except.bind_eq_ok_iff`. A computation over a list
succeeds exactly when it does for every element, and fails with the only failure there is.
-/

namespace AssemblyAtlas.Except

variable {ε α β γ : Type}

/-- A computation that succeeds after another gives what the second makes of the first's result. -/
theorem bind_eq_ok_iff {x : Except ε α} {f : α → Except ε β} {b : β} :
    (x >>= f) = .ok b ↔ ∃ a, x = .ok a ∧ f a = .ok b := by
  cases x with
  | error e => simp [bind, Except.bind]
  | ok a => simp [bind, Except.bind]

/-- What follows a computation matters only for the results that it can give. -/
theorem bind_congr_ok {x : Except ε α} {f g : α → Except ε β}
    (h : ∀ a, x = .ok a → f a = g a) : (x >>= f) = (x >>= g) := by
  cases x with
  | error e => rfl
  | ok a => exact h a rfl

theorem ok_bind (a : α) (f : α → Except ε β) : (.ok a >>= f) = f a := rfl

theorem error_bind (e : ε) (f : α → Except ε β) : (.error e >>= f) = .error e := rfl

theorem map_bind_pure (x : Except ε α) (f : α → β) (g : β → γ) :
    (x >>= fun a => pure (f a)).map g = x >>= fun a => pure (g (f a)) := by
  cases x <;> rfl

/-! ### Lists -/

variable {f : α → Except ε β} {xs : List α}

theorem exists_of_mapM_eq_ok {ys : List β} (h : xs.mapM f = .ok ys) {x : α} (hx : x ∈ xs) :
    ∃ y ∈ ys, f x = .ok y := by
  induction xs generalizing ys with
  | nil => cases hx
  | cons a xs ih =>
    rw [List.mapM_cons] at h
    obtain ⟨b, hb, h⟩ := bind_eq_ok_iff.1 h
    obtain ⟨bs, hbs, h⟩ := bind_eq_ok_iff.1 h
    obtain rfl : b :: bs = ys := Except.ok.inj h
    rcases List.mem_cons.1 hx with rfl | hx
    · exact ⟨b, List.mem_cons_self, hb⟩
    · obtain ⟨y, hy, hxy⟩ := ih hbs hx
      exact ⟨y, List.mem_cons_of_mem _ hy, hxy⟩

theorem exists_mapM_eq_ok (h : ∀ x ∈ xs, ∃ y, f x = .ok y) : ∃ ys, xs.mapM f = .ok ys := by
  induction xs with
  | nil => exact ⟨[], rfl⟩
  | cons a xs ih =>
    obtain ⟨b, hb⟩ := h a List.mem_cons_self
    obtain ⟨bs, hbs⟩ := ih fun x hx => h x (List.mem_cons_of_mem _ hx)
    refine ⟨b :: bs, ?_⟩
    rw [List.mapM_cons, hb, hbs]
    rfl

/-- If all failures are the same one, it does not matter which comes first. -/
theorem mapM_eq_error {e : ε} (h : ∀ x ∈ xs, (∃ y, f x = .ok y) ∨ f x = .error e) {x : α}
    (hx : x ∈ xs) (hfail : f x = .error e) : xs.mapM f = .error e := by
  induction xs with
  | nil => cases hx
  | cons a xs ih =>
    rw [List.mapM_cons]
    rcases h a List.mem_cons_self with ⟨b, hb⟩ | ha
    · have hlater : x ∈ xs := by
        rcases List.mem_cons.1 hx with rfl | hx
        · rw [hfail] at hb
          cases hb
        · exact hx
      rw [hb, ih (fun y hy => h y (List.mem_cons_of_mem _ hy)) hlater]
      rfl
    · rw [ha]
      rfl

end AssemblyAtlas.Except
