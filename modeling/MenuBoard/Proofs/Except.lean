/-!
Steps that may fail, taken apart: what a row of steps gives, every step has given; how it fails, one of its steps has failed.
-/

namespace MenuBoard

variable {ε ε' α β : Type}

theorem bind_eq_ok {x : Except ε α} {f : α → Except ε β} {b : β} : x >>= f = .ok b ↔ ∃ a, x = .ok a ∧ f a = .ok b := by
  cases x with
  | error e =>
    constructor
    · intro h
      cases h
    · rintro ⟨a, h, -⟩
      cases h
  | ok a =>
    constructor
    · intro h
      exact ⟨a, rfl, h⟩
    · rintro ⟨a', h, hf⟩
      cases h
      exact hf

theorem map_eq_ok {x : Except ε α} {f : α → β} {b : β} : x.map f = .ok b ↔ ∃ a, x = .ok a ∧ f a = b := by
  cases x with
  | error e => simp [Except.map]
  | ok a => simp [Except.map]

theorem mapError_eq_ok {r : Except ε α} {reword : ε → ε'} {a : α} : r.mapError reword = .ok a ↔ r = .ok a := by
  cases r with
  | error e =>
    constructor
    · intro h
      cases h
    · intro h
      cases h
  | ok a' =>
    constructor
    · intro h
      exact congrArg Except.ok (Except.ok.inj h)
    · intro h
      exact congrArg Except.ok (Except.ok.inj h)

theorem bind_eq_error {x : Except ε α} {f : α → Except ε β} {e : ε} :
    x >>= f = .error e ↔ x = .error e ∨ ∃ a, x = .ok a ∧ f a = .error e := by
  cases x with
  | error e' =>
    constructor
    · intro h
      exact .inl (congrArg Except.error (Except.error.inj h))
    · rintro (h | ⟨a, h, -⟩)
      · exact congrArg Except.error (Except.error.inj h)
      · cases h
  | ok a =>
    constructor
    · intro h
      exact .inr ⟨a, rfl, h⟩
    · rintro (h | ⟨a', h, hf⟩)
      · cases h
      · cases h
        exact hf

theorem map_eq_error {x : Except ε α} {f : α → β} {e : ε} : x.map f = .error e ↔ x = .error e := by
  cases x with
  | error e' => simp [Except.map]
  | ok a => simp [Except.map]

theorem mapError_eq_error {r : Except ε α} {reword : ε → ε'} {e : ε'} :
    r.mapError reword = .error e ↔ ∃ cause, r = .error cause ∧ reword cause = e := by
  cases r with
  | error cause =>
    constructor
    · intro h
      exact ⟨cause, rfl, Except.error.inj h⟩
    · rintro ⟨cause', h, rfl⟩
      cases h
      rfl
  | ok a =>
    constructor
    · intro h
      cases h
    · rintro ⟨cause, h, -⟩
      cases h

/-! ## How a result fails -/

/-- The result is an error. -/
def Fails (x : Except ε α) : Prop := ∃ e, x = .error e

/-- Every error that the result may be is such. -/
def FailsOnly (P : ε → Prop) (x : Except ε α) : Prop := ∀ e, x = .error e → P e

theorem not_fails_ok (a : α) : ¬ Fails (.ok a : Except ε α) := fun ⟨_, h⟩ => by cases h

theorem fails_error (e : ε) : Fails (.error e : Except ε α) := ⟨e, rfl⟩

theorem not_fails_iff {x : Except ε α} : ¬ Fails x ↔ ∃ a, x = .ok a := by
  cases x with
  | error e => exact ⟨fun h => absurd (fails_error e) h, fun ⟨_, h⟩ => by cases h⟩
  | ok a => exact ⟨fun _ => ⟨a, rfl⟩, fun _ => not_fails_ok a⟩

/-- A step whose failure does not depend on what the step before it gives. -/
theorem fails_bind {x : Except ε α} {f : α → Except ε β} {P : Prop} (hf : ∀ a, Fails (f a) ↔ P) :
    Fails (x >>= f) ↔ Fails x ∨ P := by
  cases x with
  | error e => exact ⟨fun _ => .inl (fails_error e), fun _ => ⟨e, rfl⟩⟩
  | ok a => exact (hf a).trans ⟨.inr, fun h => h.resolve_left (not_fails_ok a)⟩

theorem failsOnly_ok (P : ε → Prop) (a : α) : FailsOnly P (.ok a) := fun _ h => by cases h

theorem failsOnly_error {P : ε → Prop} {e : ε} : FailsOnly P (.error e : Except ε α) ↔ P e :=
  ⟨fun h => h e rfl, fun h _ he => Except.error.inj he ▸ h⟩

theorem FailsOnly.bind {P : ε → Prop} {x : Except ε α} {f : α → Except ε β} (h : FailsOnly P x)
    (hf : ∀ a, FailsOnly P (f a)) : FailsOnly P (x >>= f) := by
  intro e herror
  rcases bind_eq_error.1 herror with hfirst | ⟨a, -, hnext⟩
  · exact h e hfirst
  · exact hf a e hnext

/-! ## Rows of steps -/

/-- Steps that agree on the items of a list bring the same of it. -/
theorem mapM_congr {f g : α → Except ε β} {items : List α} (h : ∀ a ∈ items, f a = g a) : items.mapM f = items.mapM g := by
  induction items with
  | nil => rfl
  | cons a items ih =>
    rw [List.mapM_cons, List.mapM_cons, h a List.mem_cons_self, ih fun b hb => h b (List.mem_cons_of_mem a hb)]

/-- Steps that all succeed bring what each of them brings, in a row. -/
theorem mapM_eq_ok {f : α → Except ε β} {brings : α → List β} {items : List α}
    (h : ∀ a ∈ items, ∃ b, f a = .ok b ∧ brings a = [b]) : items.mapM f = .ok (items.flatMap brings) := by
  induction items with
  | nil => rfl
  | cons a items ih =>
    obtain ⟨b, hb, hbrings⟩ := h a List.mem_cons_self
    rw [List.mapM_cons, hb, ih fun a' ha' => h a' (List.mem_cons_of_mem a ha'), List.flatMap_cons, hbrings]
    rfl

/-- The first step that fails ends the row. -/
theorem mapM_eq_error {f : α → Except ε β} {before after : List α} {a : α} {e : ε}
    (hbefore : ∀ b ∈ before, ∃ r, f b = .ok r) (h : f a = .error e) : (before ++ a :: after).mapM f = .error e := by
  induction before with
  | nil =>
    rw [List.nil_append, List.mapM_cons, h]
    rfl
  | cons b before ih =>
    obtain ⟨r, hr⟩ := hbefore b List.mem_cons_self
    rw [List.cons_append, List.mapM_cons, hr, ih fun b' hb' => hbefore b' (List.mem_cons_of_mem b hb')]
    rfl

/-- A row that fails, fails as one of its steps does. -/
theorem exists_of_mapM_eq_error {f : α → Except ε β} {items : List α} {e : ε} (h : items.mapM f = .error e) :
    ∃ a ∈ items, f a = .error e := by
  induction items with
  | nil => cases h
  | cons a items ih =>
    rw [List.mapM_cons] at h
    rcases bind_eq_error.1 h with hfirst | ⟨first, -, h⟩
    · exact ⟨a, List.mem_cons_self, hfirst⟩
    · rcases bind_eq_error.1 h with hmore | ⟨more, -, h⟩
      · obtain ⟨a', hmem, ha'⟩ := ih hmore
        exact ⟨a', List.mem_cons_of_mem a hmem, ha'⟩
      · cases h

/-- A row fails as its first step that fails does. -/
theorem mapM_eq_error_iff {f : α → Except ε β} {items : List α} {e : ε} : items.mapM f = .error e ↔
    ∃ before a after, items = before ++ a :: after ∧ (∀ b ∈ before, ∃ r, f b = .ok r) ∧ f a = .error e := by
  constructor
  · intro h
    induction items with
    | nil => cases h
    | cons first items ih =>
      rw [List.mapM_cons] at h
      rcases bind_eq_error.1 h with hfirst | ⟨r, hr, h⟩
      · exact ⟨[], first, items, rfl, List.forall_mem_nil _, hfirst⟩
      · rcases bind_eq_error.1 h with hmore | ⟨more, -, h⟩
        · obtain ⟨before, a, after, rfl, hbefore, ha⟩ := ih hmore
          exact ⟨first :: before, a, after, rfl, List.forall_mem_cons.2 ⟨⟨r, hr⟩, hbefore⟩, ha⟩
        · cases h
  · rintro ⟨before, a, after, rfl, hbefore, ha⟩
    exact mapM_eq_error hbefore ha

/-- In a row that succeeds every step does. -/
theorem ok_of_mapM_eq_ok {f : α → Except ε β} {items : List α} {results : List β} (h : items.mapM f = .ok results) {a : α}
    (ha : a ∈ items) : ∃ b, f a = .ok b := by
  induction items generalizing results with
  | nil => cases ha
  | cons first items ih =>
    rw [List.mapM_cons] at h
    obtain ⟨b, hb, h⟩ := bind_eq_ok.1 h
    obtain ⟨more, hmore, -⟩ := bind_eq_ok.1 h
    rcases List.mem_cons.1 ha with rfl | ha
    · exact ⟨b, hb⟩
    · exact ih hmore ha

/-- What comes of the items of a list comes of one of them. -/
theorem exists_of_mapM_eq_ok {f : α → Except ε β} {items : List α} {results : List β} (h : items.mapM f = .ok results)
    {b : β} (hb : b ∈ results) : ∃ a ∈ items, f a = .ok b := by
  induction items generalizing results with
  | nil =>
    obtain rfl := Except.ok.inj h
    cases hb
  | cons a items ih =>
    rw [List.mapM_cons] at h
    obtain ⟨first, hfirst, h⟩ := bind_eq_ok.1 h
    obtain ⟨more, hmore, h⟩ := bind_eq_ok.1 h
    obtain rfl := Except.ok.inj h
    rcases List.mem_cons.1 hb with rfl | hb
    · exact ⟨a, List.mem_cons_self, hfirst⟩
    · obtain ⟨a', hmem, ha'⟩ := ih hmore hb
      exact ⟨a', List.mem_cons_of_mem _ hmem, ha'⟩

end MenuBoard
