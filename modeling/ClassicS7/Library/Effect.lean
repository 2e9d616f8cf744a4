/-! Programs that change a state and may fail, and what they end with.

A failure keeps the state it happened in. `Ends` is the condition on a state that
makes a program end in one of two ways: with a value and a state that meet one
condition, or with an error and a state that meet another. It is given by its
rules, one for each way to build a program; a loop is an induction over them. -/
namespace ClassicS7

/-- A program over a state `σ` that may fail with an `ε`. -/
abbrev Effect (ε σ : Type) := ExceptT ε (StateM σ)

namespace Effect

variable {ε σ τ α β : Type}

/-- From a state, a program ends with a value or with an error, as the conditions say. -/
def Ends (prog : Effect ε σ α) (s : σ) (ok : α → σ → Prop) (error : ε → σ → Prop) : Prop :=
  match prog.run.run s with
  | (.ok a, s') => ok a s'
  | (.error e, s') => error e s'

/-- A program over one part of a state. -/
def part (get : τ → σ) (set : σ → τ → τ) (prog : Effect ε σ α) : Effect ε τ α :=
  fun s => ((prog.run.run (get s)).1, set (prog.run.run (get s)).2 s)

/-! ### The rules -/

section Rules
variable {s : σ} {ok ok' : α → σ → Prop} {error error' : ε → σ → Prop}

@[simp] theorem ends_pure {a : α} : Ends (pure a : Effect ε σ α) s ok error ↔ ok a s := Iff.rfl

@[simp] theorem ends_throw {e : ε} : Ends (throw e : Effect ε σ α) s ok error ↔ error e s := Iff.rfl

@[simp] theorem ends_get {ok : σ → σ → Prop} : Ends (get : Effect ε σ σ) s ok error ↔ ok s s := Iff.rfl

@[simp] theorem ends_set {s' : σ} {ok : PUnit → σ → Prop} :
    Ends (set s' : Effect ε σ PUnit) s ok error ↔ ok ⟨⟩ s' := Iff.rfl

@[simp] theorem ends_modify {f : σ → σ} {ok : PUnit → σ → Prop} :
    Ends (modify f : Effect ε σ PUnit) s ok error ↔ ok ⟨⟩ (f s) := Iff.rfl

@[simp] theorem ends_bind {x : Effect ε σ β} {f : β → Effect ε σ α} :
    Ends (x >>= f) s ok error ↔ Ends x s (fun b s' => Ends (f b) s' ok error) error := by
  unfold Ends ExceptT.run StateT.run
  simp only [bind, ExceptT.bind, ExceptT.mk, StateT.bind, ExceptT.bindCont]
  cases x s with
  | mk result next => cases result <;> rfl

/-- A handler runs from the state of the failure. -/
@[simp] theorem ends_tryCatch {x : Effect ε σ α} {handler : ε → Effect ε σ α} :
    Ends (tryCatch x handler) s ok error ↔ Ends x s ok fun e s' => Ends (handler e) s' ok error := by
  unfold Ends ExceptT.run StateT.run
  simp only [tryCatch, tryCatchThe, MonadExceptOf.tryCatch, ExceptT.tryCatch, ExceptT.mk, bind, StateT.bind]
  cases x s with
  | mk result next => cases result <;> rfl

@[simp] theorem ends_part {get : τ → σ} {set : σ → τ → τ} {prog : Effect ε σ α} {t : τ} {ok : α → τ → Prop}
    {error : ε → τ → Prop} :
    Ends (part get set prog) t ok error ↔
      Ends prog (get t) (fun a s => ok a (set s t)) fun e s => error e (set s t) := by
  unfold Ends part ExceptT.run StateT.run
  dsimp only
  cases prog (get t) with
  | mk result next => cases result <;> rfl

@[simp] theorem ends_ite {c : Prop} [Decidable c] {x y : Effect ε σ α} :
    Ends (if c then x else y) s ok error ↔ if c then Ends x s ok error else Ends y s ok error := by
  split <;> rfl

theorem ends_dite {c : Prop} [Decidable c] {x : c → Effect ε σ α} {y : ¬ c → Effect ε σ α} :
    Ends (if h : c then x h else y h) s ok error ↔
      (∀ h, Ends (x h) s ok error) ∧ ∀ h, Ends (y h) s ok error := by
  by_cases hc : c
  · rw [dif_pos hc]
    exact ⟨fun h => ⟨fun _ => h, fun h' => absurd hc h'⟩, fun h => h.1 hc⟩
  · rw [dif_neg hc]
    exact ⟨fun h => ⟨fun h' => absurd h' hc, fun _ => h⟩, fun h => h.2 hc⟩

/-- A check in a chain of steps. -/
theorem ends_guard {c : Prop} [Decidable c] {e : ε} {k : PUnit → Effect ε σ α} :
    Ends (if c then throw e >>= k else k ⟨⟩) s ok error ↔ (c → error e s) ∧ (¬ c → Ends (k ⟨⟩) s ok error) := by
  by_cases hc : c
  · rw [if_pos hc]
    exact ⟨fun h => ⟨fun _ => h, fun h' => absurd hc h'⟩, fun h => h.1 hc⟩
  · rw [if_neg hc]
    exact ⟨fun h => ⟨fun h' => absurd h' hc, fun _ => h⟩, fun h => h.2 hc⟩

/-- Weaker conditions. -/
theorem Ends.mono {prog : Effect ε σ α} (h : Ends prog s ok error) (hok : ∀ a s', ok a s' → ok' a s')
    (herror : ∀ e s', error e s' → error' e s') : Ends prog s ok' error' := by
  unfold Ends at h ⊢
  split at h
  · exact hok _ _ h
  · exact herror _ _ h

theorem Ends.and {prog : Effect ε σ α} (h : Ends prog s ok error) (h' : Ends prog s ok' error') :
    Ends prog s (fun a s' => ok a s' ∧ ok' a s') fun e s' => error e s' ∧ error' e s' := by
  unfold Ends at h h' ⊢
  cases hrun : prog.run.run s with
  | mk result next =>
    rw [hrun] at h h'
    cases result <;> exact ⟨h, h'⟩

/-- A step that does not fail, and what comes after it. -/
theorem Ends.bind {x : Effect ε σ β} {f : β → Effect ε σ α} {mid : β → σ → Prop}
    (h : Ends x s mid fun _ _ => False) (hf : ∀ b s', mid b s' → Ends (f b) s' ok error) :
    Ends (x >>= f) s ok error := ends_bind.mpr (h.mono hf fun _ _ h => h.elim)

/-- What does not fail does not come to its handler. -/
theorem Ends.unhandled {x : Effect ε σ α} {handler : ε → Effect ε σ α} (h : Ends x s ok fun _ _ => False) :
    Ends (tryCatch x handler) s ok error := ends_tryCatch.mpr (h.mono (fun _ _ h => h) fun _ _ h => h.elim)

theorem ends_of_forall {prog : Effect ε σ α} (hok : ∀ a s', ok a s') (herror : ∀ e s', error e s') :
    Ends prog s ok error := by
  unfold Ends
  split
  · exact hok _ _
  · exact herror _ _

/-- Where a run ends, when both of its ends meet the condition. -/
theorem Ends.final {prog : Effect ε σ α} {post : σ → Prop}
    (h : Ends prog s (fun _ s' => post s') fun _ s' => post s') : post (prog.run.run s).2 := by
  unfold Ends at h
  cases hrun : prog.run.run s with
  | mk result next =>
    rw [hrun] at h
    cases result <;> exact h

end Rules

/-- A loop over steps that do nothing. -/
theorem forM_pure {m : Type → Type} {ι : Type} [Monad m] [LawfulMonad m] {f : ι → m PUnit} (is : List ι)
    (h : ∀ i ∈ is, f i = pure ⟨⟩) : is.forM f = pure ⟨⟩ := by
  induction is with
  | nil => rfl
  | cons i is ih =>
    obtain ⟨hfirst, hrest⟩ := List.forall_mem_cons.mp h
    show (f i >>= fun _ => is.forM f) = pure ⟨⟩
    rw [hfirst, pure_bind]
    exact ih hrest

/-! ### Disciplines

An invariant between the steps of programs, with what a step may change. What keeps to a
discipline in each of its steps keeps to it as a whole, whether it returns or fails. -/

structure Discipline (σ : Type) where
  inv : σ → Prop
  /-- What may become of a state. -/
  rel : σ → σ → Prop
  refl : ∀ s, rel s s
  trans : ∀ s s' s'', rel s s' → rel s' s'' → rel s s''

namespace Discipline

variable {d : Discipline σ}

/-- The state `s'` is in order, and may have come from `s`. -/
def Next (d : Discipline σ) (s s' : σ) : Prop := d.inv s' ∧ d.rel s s'

theorem Next.refl {s : σ} (h : d.inv s) : d.Next s s := ⟨h, d.refl s⟩

theorem Next.trans {s s' s'' : σ} (h : d.Next s s') (h' : d.Next s' s'') : d.Next s s'' :=
  ⟨h'.1, d.trans _ _ _ h.2 h'.2⟩

/-- From every state in order, the program ends in a state in order that may have come from it. -/
def Keeps (d : Discipline σ) (prog : Effect ε σ α) : Prop :=
  ∀ s, d.inv s → Ends prog s (fun _ s' => d.Next s s') fun _ s' => d.Next s s'

theorem keeps_pure (a : α) : d.Keeps (pure a : Effect ε σ α) := by
  intro s hs
  exact ends_pure.mpr (.refl hs)

theorem keeps_throw (e : ε) : d.Keeps (throw e : Effect ε σ α) := by
  intro s hs
  exact ends_throw.mpr (.refl hs)

theorem keeps_get : d.Keeps (get : Effect ε σ σ) := by
  intro s hs
  exact ends_get.mpr (.refl hs)

theorem keeps_modify {f : σ → σ} (h : ∀ s, d.inv s → d.Next s (f s)) :
    d.Keeps (modify f : Effect ε σ PUnit) := by
  intro s hs
  exact ends_modify.mpr (h s hs)

/-- The second step starts where the first one ended. -/
theorem Keeps.bind {x : Effect ε σ β} {f : β → Effect ε σ α} (hx : d.Keeps x) (hf : ∀ b, d.Keeps (f b)) :
    d.Keeps (x >>= f) := by
  intro s hs
  refine ends_bind.mpr ((hx s hs).mono (fun b s' h => ?_) fun e s' h => h)
  exact (hf b s' h.1).mono (fun _ _ => h.trans) fun _ _ => h.trans

/-- A handler starts where the failure happened. -/
theorem Keeps.tryCatch {x : Effect ε σ α} {handler : ε → Effect ε σ α} (hx : d.Keeps x)
    (hhandler : ∀ e, d.Keeps (handler e)) : d.Keeps (tryCatch x handler) := by
  intro s hs
  refine ends_tryCatch.mpr ((hx s hs).mono (fun a s' h => h) fun e s' h => ?_)
  exact (hhandler e s' h.1).mono (fun _ _ => h.trans) fun _ _ => h.trans

theorem Keeps.ite {c : Prop} [Decidable c] {x y : Effect ε σ α} (hx : d.Keeps x) (hy : d.Keeps y) :
    d.Keeps (if c then x else y) := by
  split
  · exact hx
  · exact hy

theorem Keeps.dite {c : Prop} [Decidable c] {x : c → Effect ε σ α} {y : ¬ c → Effect ε σ α}
    (hx : ∀ h, d.Keeps (x h)) (hy : ∀ h, d.Keeps (y h)) : d.Keeps (if h : c then x h else y h) := by
  split
  · exact hx _
  · exact hy _

/-- A check that may end the program. -/
theorem Keeps.guard {c : Prop} [Decidable c] {e : ε} {k : PUnit → Effect ε σ α} (hk : d.Keeps (k ⟨⟩)) :
    d.Keeps (if c then throw e >>= k else k ⟨⟩) :=
  .ite ((keeps_throw e).bind fun ⟨⟩ => hk) hk

/-- A loop over a list. -/
theorem Keeps.forIn {ι : Type} {f : ι → β → Effect ε σ (ForInStep β)} (hf : ∀ i b, d.Keeps (f i b)) (is : List ι)
    (b : β) : d.Keeps (forIn is b f) := by
  induction is generalizing b with
  | nil => exact keeps_pure b
  | cons i is ih =>
    rw [List.forIn_cons]
    refine (hf i b).bind fun step => ?_
    cases step with
    | done b => exact keeps_pure b
    | yield b => exact ih b

/-- A run of programs that keep to the discipline. -/
theorem next_foldl {ι : Type} {step : σ → ι → σ} (hstep : ∀ s i, d.inv s → d.Next s (step s i)) {s : σ}
    (hs : d.inv s) (is : List ι) : d.Next s (is.foldl step s) := by
  induction is generalizing s with
  | nil => exact .refl hs
  | cons i is ih => exact (hstep s i hs).trans (ih (hstep s i hs).1)

end Discipline

/-- The discipline of leaving one view of the state as it is. -/
def leaving {β : Type} (view : σ → β) : Discipline σ where
  inv _ := True
  rel s s' := view s' = view s
  refl _ := rfl
  trans _ _ _ h h' := h'.trans h

/-- A program leaves a view of the state as it is. -/
def Leaves {β : Type} (view : σ → β) (prog : Effect ε σ α) : Prop := (leaving view).Keeps prog

theorem Leaves.ends {γ : Type} {view : σ → γ} {prog : Effect ε σ α} (h : Leaves view prog) (s : σ) :
    Ends prog s (fun _ s' => view s' = view s) fun _ s' => view s' = view s :=
  (h s trivial).mono (fun _ _ h => h.2) fun _ _ h => h.2

theorem leaves_iff {γ : Type} {view : σ → γ} {prog : Effect ε σ α} :
    Leaves view prog ↔ ∀ s, Ends prog s (fun _ s' => view s' = view s) fun _ s' => view s' = view s :=
  ⟨fun h => h.ends, fun h s _ => (h s).mono (fun _ _ h => ⟨trivial, h⟩) fun _ _ h => ⟨trivial, h⟩⟩

end Effect

end ClassicS7
