/-! Chains of checks in `Except`, with two kinds of failure.

A decoder is a chain of reads and checks, and its failures fall into two
classes: the soft ones, which only say that the input is not of the expected
form, and the hard ones, which carry a verdict of their own. A computation
*clears* its soft checks when it does not end in a soft failure. Clearing is
inverted one step at a time from the front (`Clears.bind`, `Clears.guard`), so
what a decoder has checked is read off its text in order, and running it on an
input that passes is the same walk with `bind_ok` and `guard_ok`. -/
namespace ClassicS7.Checks

variable {ε α β : Type}

/-- The computation did not end in a soft failure: it returned, or failed hard. -/
def Clears (soft : ε → Prop) (x : Except ε α) : Prop := ∀ e, x = .error e → ¬ soft e

/-- Every failure of the computation is a soft one. -/
def FailsSoft (soft : ε → Prop) (x : Except ε α) : Prop := ∀ e, x = .error e → soft e

variable {soft : ε → Prop}

theorem clears_ok (a : α) : Clears soft (.ok a : Except ε α) := by
  intro e h
  cases h

/-- What does not clear failed softly. -/
theorem soft_of_not_clears {x : Except ε α} (h : ¬ Clears soft x) : ∃ e, x = .error e ∧ soft e := by
  cases x with
  | error e =>
    refine ⟨e, rfl, Classical.not_not.mp fun hsoft => h fun e' he => ?_⟩
    cases he
    exact hsoft
  | ok a => exact absurd (clears_ok a) h

/-! ### Running a chain forwards -/

theorem bind_ok {x : Except ε α} {a : α} (h : x = .ok a) (f : α → Except ε β) : (x >>= f) = f a := by
  rw [h]
  rfl

theorem bind_error {x : Except ε α} {e : ε} (h : x = .error e) (f : α → Except ε β) :
    (x >>= f) = .error e := by
  rw [h]
  rfl

theorem bind_eq_ok {x : Except ε α} {f : α → Except ε β} {b : β} :
    (x >>= f) = .ok b ↔ ∃ a, x = .ok a ∧ f a = .ok b := by
  constructor
  · intro h
    cases x with
    | error e => cases h
    | ok a => exact ⟨a, rfl, h⟩
  · rintro ⟨a, rfl, h⟩
    exact h

theorem bind_assoc (x : Except ε α) {γ : Type} (f : α → Except ε β) (g : β → Except ε γ) :
    ((x >>= f) >>= g) = (x >>= fun a => f a >>= g) := by
  cases x <;> rfl

/-- Without the text of its error, a chain is a chain of options. -/
theorem toOption_bind (x : Except ε α) (f : α → Except ε β) :
    (x >>= f).toOption = x.toOption.bind fun a => (f a).toOption := by
  cases x <;> rfl

/-- A fold of checked steps, without the text of its error. -/
theorem toOption_foldlM {σ : Type} (f : σ → α → Except ε σ) (s : σ) (as : List α) :
    (as.foldlM f s).toOption = as.foldlM (fun s a => (f s a).toOption) s := by
  induction as generalizing s with
  | nil => rfl
  | cons a as ih =>
    rw [List.foldlM_cons, List.foldlM_cons, toOption_bind]
    exact congrArg _ (funext ih)

theorem toOption_guard {c : Prop} [Decidable c] {e : ε} {k : PUnit → Except ε β} :
    (if c then throw e >>= k else k ⟨⟩).toOption = if c then none else (k ⟨⟩).toOption := by
  by_cases h : c
  · rw [if_pos h, if_pos h]
    rfl
  · rw [if_neg h, if_neg h]

theorem toOption_eq_some {x : Except ε α} {a : α} : x.toOption = some a ↔ x = .ok a := by
  cases x <;> simp [Except.toOption]

theorem toOption_eq_none {x : Except ε α} : x.toOption = none ↔ ∃ e, x = .error e := by
  cases x <;> simp [Except.toOption]

/-- A check that passes leaves the rest of the chain. -/
theorem guard_ok {c : Prop} [Decidable c] {e : ε} {k : PUnit → Except ε β} (h : ¬ c) :
    (if c then throw e >>= k else k ⟨⟩) = k ⟨⟩ := if_neg h

/-- A check that fails is the result of the chain. -/
theorem guard_error {c : Prop} [Decidable c] {e : ε} {k : PUnit → Except ε β} (h : c) :
    (if c then throw e >>= k else k ⟨⟩) = .error e := if_pos h

theorem guard_eq_ok {c : Prop} [Decidable c] {e : ε} {k : PUnit → Except ε β} {b : β} :
    (if c then throw e >>= k else k ⟨⟩) = .ok b ↔ ¬ c ∧ k ⟨⟩ = .ok b := by
  by_cases h : c
  · rw [guard_error h]
    exact iff_of_false (fun h => by cases h) fun hk => hk.1 h
  · rw [guard_ok h]
    exact (and_iff_right h).symm

/-- A list of checked elements is as long as the list. -/
theorem length_mapM {f : α → Except ε β} {values : List α} {results : List β}
    (h : values.mapM f = .ok results) : results.length = values.length := by
  induction values generalizing results with
  | nil =>
    cases h
    rfl
  | cons value rest ih =>
    rw [List.mapM_cons] at h
    obtain ⟨result, -, h⟩ := bind_eq_ok.mp h
    obtain ⟨results, hresults, h⟩ := bind_eq_ok.mp h
    cases h
    rw [List.length_cons, List.length_cons, ih hresults]

/-! ### Inverting a chain from the front -/

/-- A first step that can only fail softly returned, and the rest clears. -/
theorem Clears.bind {x : Except ε α} {f : α → Except ε β} (h : Clears soft (x >>= f))
    (hx : FailsSoft soft x) : ∃ a, x = .ok a ∧ Clears soft (f a) := by
  cases x with
  | error e => exact absurd (hx e rfl) (h e rfl)
  | ok a => exact ⟨a, rfl, h⟩

/-- What clears as a whole clears in its first step. -/
theorem Clears.left {x : Except ε α} {f : α → Except ε β} (h : Clears soft (x >>= f)) : Clears soft x := by
  intro e he
  exact h e (bind_error he f)

/-- What clears as a whole clears after a first step that returned. -/
theorem Clears.right {x : Except ε α} {f : α → Except ε β} (h : Clears soft (x >>= f)) {a : α}
    (hx : x = .ok a) : Clears soft (f a) := by
  rwa [bind_ok hx] at h

/-- A check that is known to pass is passed over. -/
theorem Clears.pass {c : Prop} [Decidable c] {e : ε} {k : PUnit → Except ε β}
    (h : Clears soft (if c then throw e >>= k else k ⟨⟩)) (hc : ¬ c) : Clears soft (k ⟨⟩) := by
  rwa [guard_ok hc] at h

/-- A branch that is known to be taken clears. -/
theorem Clears.pos {c : Prop} [Decidable c] {x y : Except ε α} (h : Clears soft (if c then x else y))
    (hc : c) : Clears soft x := by
  rwa [if_pos hc] at h

theorem Clears.neg {c : Prop} [Decidable c] {x y : Except ε α} (h : Clears soft (if c then x else y))
    (hc : ¬ c) : Clears soft y := by
  rwa [if_neg hc] at h

/-- A last check with a soft error passed. -/
theorem Clears.last {c : Prop} [Decidable c] {e : ε} {x : Except ε α}
    (h : Clears soft (if c then throw e else x)) (he : soft e) : ¬ c := by
  intro hc
  rw [if_pos hc] at h
  exact h e rfl he

/-- A check with a soft error passed, and the rest clears. -/
theorem Clears.guard {c : Prop} [Decidable c] {e : ε} {k : PUnit → Except ε β}
    (h : Clears soft (if c then throw e >>= k else k ⟨⟩)) (he : soft e) : ¬ c ∧ Clears soft (k ⟨⟩) := by
  by_cases hc : c
  · rw [if_pos hc] at h
    exact absurd he (h e rfl)
  · rw [if_neg hc] at h
    exact ⟨hc, h⟩

/-! ### Chains that only fail softly -/

theorem failsSoft_ok (a : α) : FailsSoft soft (.ok a : Except ε α) := by
  intro e h
  cases h

theorem failsSoft_error {e : ε} (he : soft e) : FailsSoft soft (.error e : Except ε α) := by
  intro e' h
  cases h
  exact he

theorem FailsSoft.bind {x : Except ε α} {f : α → Except ε β} (hx : FailsSoft soft x)
    (hf : ∀ a, x = .ok a → FailsSoft soft (f a)) : FailsSoft soft (x >>= f) := by
  cases x with
  | error e =>
    intro e' h
    cases h
    exact hx e rfl
  | ok a => exact hf a rfl

theorem FailsSoft.guard {c : Prop} [Decidable c] {e : ε} {k : PUnit → Except ε β} (he : soft e)
    (hk : ¬ c → FailsSoft soft (k ⟨⟩)) : FailsSoft soft (if c then throw e >>= k else k ⟨⟩) := by
  by_cases hc : c
  · rw [if_pos hc]
    exact failsSoft_error he
  · rw [if_neg hc]
    exact hk hc

end ClassicS7.Checks
