/-! Machines that answer events, and when two of them give the same answers.

A machine takes a state and an event to a next state and an answer. One that may
fail on an event has a trace only if it fails on none (`trace`); a total one
always has its `outputs`. `Lockstep` says that a total machine follows a partial
one state by state, and names the steps on which their answers agree; the two
then give the same answers along a run exactly when every step of it is such a
step (`Lockstep.outputs_eq_iff`). `attempt` is the other way to treat a partial
operation: one that does not apply is skipped, and `effective` keeps the ones
that did. -/
namespace ClassicS7.Machine

variable {ε S T E F R O : Type}

/-! ### Runs and answers -/

/-- The answers of a machine that may fail, up to a first failure. -/
def trace (step : S → E → Except ε (S × R)) : S → List E → Except ε (List R)
  | _, [] => .ok []
  | s, e :: es =>
    match step s e with
    | .error error => .error error
    | .ok (s', r) =>
      match trace step s' es with
      | .error error => .error error
      | .ok rest => .ok (r :: rest)

/-- The answers of a total machine. -/
def outputs (step : S → E → S × R) : S → List E → List R
  | _, [] => []
  | s, e :: es => (step s e).2 :: outputs step (step s e).1 es

/-- The state after a run of a total machine. -/
def final (step : S → E → S × R) (s : S) (es : List E) : S := es.foldl (fun s e => (step s e).1) s

/-- A predicate on states and events holds before every step of a run. -/
def Along (step : S → E → S × R) (P : S → E → Prop) : S → List E → Prop
  | _, [] => True
  | s, e :: es => P s e ∧ Along step P (step s e).1 es

/-- A loop that carries the state and pushes each answer collects the outputs. -/
theorem foldl_push (step : S → E → S × R) (s : S) (answers : Array R) (es : List E) :
    (es.foldl (fun acc e => ((step acc.1 e).1, acc.2.push (step acc.1 e).2)) (s, answers)).2.toList =
      answers.toList ++ outputs step s es := by
  induction es generalizing s answers with
  | nil => simp [outputs]
  | cons e es ih =>
    rw [List.foldl_cons, ih, outputs, Array.toList_push, List.append_assoc, List.singleton_append]

theorem toList_forIn_push (step : S → E → S × R) (s : S) (es : Array E) :
    (Id.run (forIn es (s, (#[] : Array R)) fun e acc =>
      pure (.yield ((step acc.1 e).1, acc.2.push (step acc.1 e).2)))).2.toList = outputs step s es.toList := by
  rw [Array.forIn_pure_yield_eq_foldl, ← Array.foldl_toList]
  exact (foldl_push step s #[] es.toList).trans (List.nil_append _)

/-- An invariant of every step holds after every run. -/
theorem final_of_invariant {step : S → E → S × R} (inv : S → Prop) (hstep : ∀ s e, inv s → inv (step s e).1)
    {s : S} (hs : inv s) (es : List E) : inv (final step s es) := by
  induction es generalizing s with
  | nil => exact hs
  | cons e es ih => exact ih (hstep s e hs)

theorem final_append (step : S → E → S × R) (s : S) (es later : List E) :
    final step s (es ++ later) = final step (final step s es) later :=
  List.foldl_append

/-- A run from a state that no event changes stays there. -/
theorem final_of_fixed {step : S → E → S × R} {s : S} (hfixed : ∀ e, (step s e).1 = s) (es : List E) :
    final step s es = s :=
  final_of_invariant (· = s) (fun _ e h => h ▸ hfixed e) rfl es

/-- An invariant of every step holds along every run. -/
theorem along_of_invariant {step : S → E → S × R} {P : S → E → Prop} (inv : S → Prop)
    (hstep : ∀ s e, inv s → inv (step s e).1) (hP : ∀ s e, inv s → P s e) {s : S} (hs : inv s)
    (es : List E) : Along step P s es := by
  induction es generalizing s with
  | nil => trivial
  | cons e es ih => exact ⟨hP s e hs, ih (hstep s e hs)⟩

/-- What holds of the answer to every event where the invariant does holds of all answers of a run. -/
theorem outputs_of_invariant {step : S → E → S × R} {Q : R → Prop} (inv : S → Prop)
    (hstep : ∀ s e, inv s → inv (step s e).1) (hQ : ∀ s e, inv s → Q (step s e).2) {s : S} (hs : inv s)
    (es : List E) : ∀ r ∈ outputs step s es, Q r := by
  induction es generalizing s with
  | nil => exact fun r hr => absurd hr List.not_mem_nil
  | cons e es ih => exact List.forall_mem_cons.mpr ⟨hQ s e hs, ih (hstep s e hs)⟩

/-- What the events of a run come to, each by its answer. -/
def collected (step : S → E → S × R) (f : E → R → List O) : S → List E → List O
  | _, [] => []
  | s, e :: es => f e (step s e).2 ++ collected step f (step s e).1 es

/-- An invariant of states and of what the events so far have come to holds after every run. -/
theorem final_collected {step : S → E → S × R} {f : E → R → List O} (inv : List O → S → Prop)
    (hstep : ∀ done s e, inv done s → inv (done ++ f e (step s e).2) (step s e).1) {s : S} (hs : inv [] s)
    (es : List E) : inv (collected step f s es) (final step s es) := by
  suffices general : ∀ done s, inv done s → inv (done ++ collected step f s es) (final step s es) from general [] s hs
  induction es with
  | nil =>
    intro done s h
    rwa [collected, List.append_nil]
  | cons e es ih =>
    intro done s h
    have hrest := ih _ _ (hstep done s e h)
    rwa [List.append_assoc] at hrest

/-- A step that never fails on the events of a list has a trace of them. -/
theorem trace_total {step : S → E → Except ε (S × R)} {inv : S → Prop} {valid : E → Prop}
    (progress : ∀ s e, inv s → valid e → ∃ s' r, step s e = .ok (s', r) ∧ inv s')
    {s : S} (hs : inv s) (es : List E) (hes : ∀ e ∈ es, valid e) : ∃ out, trace step s es = .ok out := by
  induction es generalizing s with
  | nil => exact ⟨[], rfl⟩
  | cons e es ih =>
    obtain ⟨s', r, hstep, hs'⟩ := progress s e hs (hes e List.mem_cons_self)
    obtain ⟨rest, hrest⟩ := ih hs' fun e he => hes e (List.mem_cons_of_mem _ he)
    refine ⟨r :: rest, ?_⟩
    rw [trace, hstep]
    simp only [hrest]

/-- Checking each event before its step is checking all of them first, where a step
never fails on an event that passed. -/
theorem trace_checked {check : E → Except ε F} {step : S → F → Except ε (S × R)} {inv : S → Prop}
    (progress : ∀ s f, inv s → ∃ s' r, step s f = .ok (s', r) ∧ inv s') {s : S} (hs : inv s) (es : List E) :
    trace (fun s e => check e >>= step s) s es = (es.mapM check >>= trace step s) := by
  induction es generalizing s with
  | nil => rfl
  | cons e es ih =>
    rw [trace, List.mapM_cons]
    cases check e with
    | error error => rfl
    | ok f =>
      obtain ⟨s', r, hstep, hs'⟩ := progress s f hs
      have hrest := ih hs'
      show (match step s f with | .error error => _ | .ok (s', r) => _) = _
      rw [hstep]
      dsimp only
      rw [hrest]
      cases es.mapM check with
      | error error => rfl
      | ok fs =>
        show _ = trace step s (f :: fs)
        rw [trace, hstep]
        rfl

/-! ### Two machines in lockstep -/

/-- A total machine follows a partial one through `abs`, on the partial one's
states that meet `inv`; on those the answers of a step are equal exactly where
`agree` holds. -/
structure Lockstep (partialStep : S → E → Except ε (S × R)) (totalStep : T → F → T × R)
    (inv : S → Prop) (abs : S → T) (event : E → F) (agree : T → F → Prop) : Prop where
  invariant : ∀ {s e s' r}, inv s → partialStep s e = .ok (s', r) → inv s'
  state : ∀ {s e s' r}, inv s → partialStep s e = .ok (s', r) → (totalStep (abs s) (event e)).1 = abs s'
  answer : ∀ {s e s' r}, inv s → partialStep s e = .ok (s', r) →
    ((totalStep (abs s) (event e)).2 = r ↔ agree (abs s) (event e))

section Lockstep
variable {partialStep : S → E → Except ε (S × R)} {totalStep : T → F → T × R}
  {inv : S → Prop} {abs : S → T} {event : E → F} {agree : T → F → Prop}

/-- In lockstep, two runs give the same answers exactly when every step does. -/
theorem Lockstep.outputs_eq_iff (lockstep : Lockstep partialStep totalStep inv abs event agree)
    {s : S} (hs : inv s) {es : List E} {out : List R} (htrace : trace partialStep s es = .ok out) :
    outputs totalStep (abs s) (es.map event) = out ↔ Along totalStep agree (abs s) (es.map event) := by
  induction es generalizing s out with
  | nil =>
    cases htrace
    exact iff_of_true rfl trivial
  | cons e es ih =>
    rw [trace] at htrace
    split at htrace
    · cases htrace
    · rename_i s' r hstep
      split at htrace
      · cases htrace
      · rename_i rest hrest
        cases htrace
        have hstate := lockstep.state hs hstep
        rw [List.map_cons, outputs, Along, List.cons.injEq, lockstep.answer hs hstep, hstate,
          ih (lockstep.invariant hs hstep) hrest]

/-- Where every step agrees, the total machine gives the partial one's trace. -/
theorem Lockstep.outputs_eq (lockstep : Lockstep partialStep totalStep inv abs event fun _ _ => True)
    {s : S} (hs : inv s) {es : List E} {out : List R} (htrace : trace partialStep s es = .ok out) :
    outputs totalStep (abs s) (es.map event) = out :=
  (lockstep.outputs_eq_iff hs htrace).mpr
    (along_of_invariant (fun _ => True) (fun _ _ _ => trivial) (fun _ _ _ => trivial) trivial _)

end Lockstep

/-! ### Operations that are skipped where they do not apply -/

/-- An operation that does not apply leaves the state. -/
def attempt (apply : S → E → Option S) (s : S) (e : E) : S := (apply s e).getD s

def attemptAll (apply : S → E → Option S) (s : S) (es : List E) : S := es.foldl (attempt apply) s

/-- The operations that applied, in order. -/
def effective (apply : S → E → Option S) : S → List E → List E
  | _, [] => []
  | s, e :: es =>
    match apply s e with
    | some s' => e :: effective apply s' es
    | none => effective apply s es

section Attempts
variable {apply : S → E → Option S} {apply' : T → F → Option T} {abs : S → T} {event : E → F}

theorem attemptAll_cons (s : S) (e : E) (es : List E) :
    attemptAll apply s (e :: es) = attemptAll apply (attempt apply s e) es := rfl

theorem attemptAll_append (s : S) (es later : List E) :
    attemptAll apply s (es ++ later) = attemptAll apply (attemptAll apply s es) later :=
  List.foldl_append

/-- An operation that applies after others is one more that applied. -/
theorem effective_concat {s s' : S} {es : List E} {e : E} (h : apply (attemptAll apply s es) e = some s') :
    effective apply s (es ++ [e]) = effective apply s es ++ [e] := by
  induction es generalizing s with
  | nil =>
    have hlast : apply s e = some s' := h
    simp only [List.nil_append, effective, hlast]
  | cons first es ih =>
    rw [attemptAll_cons, attempt] at h
    rw [List.cons_append, effective, effective]
    cases hfirst : apply s first with
    | none =>
      rw [hfirst] at h
      exact ih h
    | some next =>
      rw [hfirst] at h
      exact congrArg _ (ih h)

/-- What commutes with one operation commutes with a sequence of attempts. -/
theorem abs_attemptAll (hcommute : ∀ s e, (apply s e).map abs = apply' (abs s) (event e)) (s : S)
    (es : List E) : abs (attemptAll apply s es) = attemptAll apply' (abs s) (es.map event) := by
  induction es generalizing s with
  | nil => rfl
  | cons e es ih =>
    have hstep : abs (attempt apply s e) = attempt apply' (abs s) (event e) := by
      rw [attempt, attempt, ← hcommute]
      cases apply s e <;> rfl
    rw [attemptAll_cons, ih, hstep]
    rfl

/-- A run that ends at the first operation that does not apply is the abstract run. -/
theorem abs_foldlM (hcommute : ∀ s e, (apply s e).map abs = apply' (abs s) (event e)) (s : S)
    (es : List E) : (es.foldlM apply s).map abs = (es.map event).foldlM apply' (abs s) := by
  induction es generalizing s with
  | nil => rfl
  | cons e es ih =>
    rw [List.foldlM_cons, List.map_cons, List.foldlM_cons, ← hcommute]
    cases apply s e with
    | none => rfl
    | some s' => exact ih s'

/-- The operations that apply are the same ones. -/
theorem map_effective (hcommute : ∀ s e, (apply s e).map abs = apply' (abs s) (event e)) (s : S)
    (es : List E) : (effective apply s es).map event = effective apply' (abs s) (es.map event) := by
  induction es generalizing s with
  | nil => rfl
  | cons e es ih =>
    rw [effective, List.map_cons, effective, ← hcommute]
    cases apply s e with
    | none => exact ih s
    | some s' => exact congrArg _ (ih s')

/-- An invariant of states and of the operations that led to them holds after every
sequence of attempts. -/
theorem attemptAll_invariant (inv : List E → S → Prop)
    (hstep : ∀ done s e s', inv done s → apply s e = some s' → inv (done ++ [e]) s') {done : List E} {s : S}
    (hs : inv done s) (es : List E) : inv (done ++ effective apply s es) (attemptAll apply s es) := by
  induction es generalizing done s with
  | nil => rwa [effective, List.append_nil]
  | cons e es ih =>
    rw [attemptAll_cons, attempt, effective]
    cases h : apply s e with
    | none => exact ih hs
    | some s' =>
      have hrest := ih (hstep done s e s' hs h)
      rwa [List.append_assoc] at hrest

end Attempts

end ClassicS7.Machine
