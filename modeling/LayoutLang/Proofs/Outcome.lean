/-!
# When a computation that may fail succeeds

A chain of checks succeeds if each link does, and fails as the first link that does not.  Renaming a
failure does not change which computations succeed.  Every reader and every check of the language is
opened with these facts, so that no proof has to unfold the monad.
-/

namespace LayoutLang.Outcome

variable {ε ε' α β : Type}

/-- A chain whose first link succeeds goes on with the result. -/
theorem bind_of_ok {x : Except ε α} {a : α} (h : x = .ok a) (f : α → Except ε β) :
    (x >>= f) = f a := by
  rw [h]
  rfl

/-- A chain succeeds if its first link does and the rest does on the result. -/
theorem bind_eq_ok {x : Except ε α} {f : α → Except ε β} {b : β} :
    (x >>= f) = .ok b ↔ ∃ a, x = .ok a ∧ f a = .ok b := by
  cases x with
  | error e =>
      constructor
      · intro h
        cases h
      · rintro ⟨_, h, _⟩
        cases h
  | ok a =>
      constructor
      · intro h
        exact ⟨a, rfl, h⟩
      · rintro ⟨_, h, h'⟩
        cases h
        exact h'

theorem map_eq_ok {x : Except ε α} {f : α → β} {b : β} :
    x.map f = .ok b ↔ ∃ a, x = .ok a ∧ f a = b := by
  cases x with
  | error e =>
      constructor
      · intro h
        cases h
      · rintro ⟨_, h, _⟩
        cases h
  | ok a =>
      constructor
      · intro h
        exact ⟨a, rfl, Except.ok.inj h⟩
      · rintro ⟨_, h, rfl⟩
        cases h
        rfl

theorem mapError_eq_ok {x : Except ε α} {f : ε → ε'} {a : α} :
    x.mapError f = .ok a ↔ x = .ok a := by
  cases x with
  | error e =>
      constructor
      · intro h
        cases h
      · intro h
        cases h
  | ok b =>
      constructor
      · intro h
        cases h
        rfl
      · intro h
        cases h
        rfl

/-- A check succeeds if what it asks for holds. -/
theorem check_eq_ok {p : Prop} [Decidable p] {a b : α} {e : ε} :
    (if p then Except.ok a else .error e) = .ok b ↔ p ∧ a = b := by
  split
  · next h =>
    constructor
    · intro h'
      exact ⟨h, Except.ok.inj h'⟩
    · rintro ⟨-, rfl⟩
      rfl
  · next h =>
    constructor
    · intro h'
      cases h'
    · rintro ⟨h', -⟩
      exact absurd h' h

/-- What an option holds; a failure if it is empty. -/
def ofOption (e : ε) : Option α → Except ε α
  | none => .error e
  | some a => .ok a

theorem ofOption_eq_ok {e : ε} {m : Option α} {a : α} : ofOption e m = .ok a ↔ m = some a := by
  cases m with
  | none => exact ⟨nofun, nofun⟩
  | some b =>
      constructor
      · intro h
        exact congrArg some (Except.ok.inj h)
      · intro h
        exact congrArg Except.ok (Option.some.inj h)

/-! ## Failures -/

/-- A chain fails where its first link does, or where the rest does on the result. -/
theorem bind_eq_error {x : Except ε α} {f : α → Except ε β} {e : ε} :
    (x >>= f) = .error e ↔ x = .error e ∨ ∃ a, x = .ok a ∧ f a = .error e := by
  cases x with
  | error e' =>
      constructor
      · intro h
        cases h
        exact .inl rfl
      · rintro (h | ⟨_, h, _⟩)
        · cases h
          rfl
        · cases h
  | ok a =>
      constructor
      · intro h
        exact .inr ⟨a, rfl, h⟩
      · rintro (h | ⟨_, h, h'⟩)
        · cases h
        · cases h
          exact h'

theorem mapError_eq_error {x : Except ε α} {f : ε → ε'} {e : ε'} :
    x.mapError f = .error e ↔ ∃ e', x = .error e' ∧ f e' = e := by
  cases x with
  | error e' =>
      constructor
      · intro h
        exact ⟨e', rfl, Except.error.inj h⟩
      · rintro ⟨_, h, rfl⟩
        cases h
        rfl
  | ok a =>
      constructor
      · intro h
        cases h
      · rintro ⟨_, h, _⟩
        cases h

theorem map_eq_error {x : Except ε α} {f : α → β} {e : ε} :
    x.map f = .error e ↔ x = .error e := by
  cases x with
  | error e' =>
      constructor
      · intro h
        cases h
        rfl
      · intro h
        cases h
        rfl
  | ok a =>
      constructor
      · intro h
        cases h
      · intro h
        cases h

/-! ## Renaming failures -/

theorem mapError_bind (x : Except ε α) (f : α → Except ε β) (g : ε → ε') :
    (x >>= f).mapError g = x.mapError g >>= fun a => (f a).mapError g := by
  cases x <;> rfl

theorem mapError_map (x : Except ε α) (f : α → β) (g : ε → ε') :
    (x.map f).mapError g = (x.mapError g).map f := by
  cases x <;> rfl

theorem mapError_check {p : Prop} [Decidable p] {a : α} {e : ε} (g : ε → ε') :
    (if p then Except.ok a else .error e).mapError g = if p then .ok a else .error (g e) := by
  split <;> rfl

/-- Two chains give the same, but for the names of failures, if their links do. -/
theorem mapError_bind_congr {x y : Except ε α} {f g : α → Except ε β} {name : ε → ε'}
    (h : x.mapError name = y.mapError name)
    (hrest : ∀ a, (f a).mapError name = (g a).mapError name) :
    (x >>= f).mapError name = (y >>= g).mapError name := by
  simp only [mapError_bind, h, hrest]

theorem mapError_map_congr {x y : Except ε α} {name : ε → ε'} (f : α → β)
    (h : x.mapError name = y.mapError name) : (x.map f).mapError name = (y.map f).mapError name := by
  rw [mapError_map, mapError_map, h]

theorem mapError_id (x : Except ε α) : x.mapError id = x := by
  cases x <;> rfl

/-! ## Lists of outcomes -/

/-- All successes, if there is nothing else. -/
theorem mapM_id_eq_ok {xs : List (Except ε α)} {ys : List α} :
    xs.mapM id = .ok ys ↔ xs = ys.map .ok := by
  induction xs generalizing ys with
  | nil => cases ys <;> simp [pure, Except.pure]
  | cons x xs ih =>
      rw [List.mapM_cons, bind_eq_ok]
      constructor
      · rintro ⟨y, rfl, h⟩
        obtain ⟨ys', hys, h⟩ := bind_eq_ok.mp h
        cases h
        rw [List.map_cons, ← ih.mp hys]
      · intro h
        cases ys with
        | nil => cases h
        | cons y ys =>
            obtain ⟨rfl, rfl⟩ := List.cons.inj h
            exact ⟨y, rfl, bind_eq_ok.mpr ⟨ys, ih.mpr rfl, rfl⟩⟩

/-- Otherwise the first failure. -/
theorem mapM_id_eq_error {xs : List (Except ε α)} {e : ε} :
    xs.mapM id = .error e ↔ ∃ ys rest, xs = List.map .ok ys ++ .error e :: rest := by
  induction xs with
  | nil => simp [pure, Except.pure]
  | cons x xs ih =>
      rw [List.mapM_cons]
      cases x with
      | error e' =>
          constructor
          · intro h
            cases h
            exact ⟨[], xs, rfl⟩
          · rintro ⟨ys, rest, h⟩
            cases ys with
            | nil => cases h; rfl
            | cons y ys => cases h
      | ok y =>
          constructor
          · intro h
            have hxs : xs.mapM id = .error e := by
              cases hm : xs.mapM id with
              | error e' =>
                  rw [hm] at h
                  exact h
              | ok ys =>
                  rw [hm] at h
                  cases h
            obtain ⟨ys, rest, rfl⟩ := ih.mp hxs
            exact ⟨y :: ys, rest, rfl⟩
          · rintro ⟨ys, rest, h⟩
            cases ys with
            | nil => cases h
            | cons y' ys =>
                obtain ⟨-, rfl⟩ := List.cons.inj h
                have hxs := ih.mpr ⟨ys, rest, rfl⟩
                rw [hxs]
                rfl

/-- Renaming each outcome renames what is had of them together. -/
theorem mapM_id_map (f : α → β) (g : ε → ε') (xs : List (Except ε α)) :
    (xs.map fun x => (x.map f).mapError g).mapM id
      = ((xs.mapM id).map (List.map f)).mapError g := by
  induction xs with
  | nil => rfl
  | cons x xs ih =>
      rw [List.map_cons, List.mapM_cons, List.mapM_cons, ih]
      cases x with
      | error e => rfl
      | ok a => cases xs.mapM id <;> rfl

end LayoutLang.Outcome
