import ClassicS7.Oracle.Correspondence

/-! The operation oracle: write diagnostics.

`decodeProgress` keeps the attempts of a list of events in order, beside the
locations that are out, and rejects the list at the first event that does not apply.
The client's `progressResult` folds the operations of write progress and takes the
snapshot. Both states are the same ledger (`tally_applies`, `ledger_applies`), and
both reports are read off it (`Tally.report_eq`, `ofProgress_snapshot`). -/
namespace ClassicS7.Oracle.Operation
open WriteProgress Checks

/-! ### The oracle -/

/-- An event as the corpus spells it; the oracle never looks into a location. -/
inductive ProgressEvent (α : Type) where
  | send (locations : List α)
  | acknowledge (results : List S7.WriteItemResult)
  | replay
  | globalReject
  deriving Repr, DecidableEq

structure Tally (α : Type) where
  attempts : List (α × Outcome) := []
  pending : List α := []
  deriving Repr, DecidableEq

structure ProgressReport (α : Type) where
  attempts : List (α × String)
  acknowledgedCount : Nat
  rejectedCount : Nat
  replayedUncertainCount : Nat
  uncertainCount : Nat
  deriving Repr, DecidableEq

def outcomeOf : S7.WriteItemResult → Outcome
  | .success => .success
  | .failure code => .failure code

/-- The outcome is a result of the item itself. -/
def isItemOutcome : Outcome → Bool
  | .success | .failure _ => true
  | _ => false

section Oracle
variable {α : Type}

/-- The tally after an event that applies. -/
def Tally.step (tally : Tally α) : ProgressEvent α → Option (Tally α)
  | .send locations =>
    if !tally.pending.isEmpty || locations.isEmpty then none else some { tally with pending := locations }
  | .acknowledge results =>
    if results.length ≠ tally.pending.length then none
    else some { attempts := tally.attempts ++
      (tally.pending.zip results).map fun (location, result) => (location, outcomeOf result) }
  | .replay => some { attempts := tally.attempts ++ tally.pending.map (·, .replayedUnknown) }
  | .globalReject => some { attempts := tally.attempts ++ tally.pending.map (·, .globalRejected) }

def Tally.report (tally : Tally α) : ProgressReport α :=
  let attempts := tally.attempts ++ tally.pending.map (·, .pending)
  let outcomes := attempts.map Prod.snd
  { attempts := attempts.map fun attempt => (attempt.1, attempt.2.text)
    acknowledgedCount := outcomes.countP isItemOutcome
    rejectedCount := outcomes.count .globalRejected
    replayedUncertainCount := outcomes.count .replayedUnknown
    uncertainCount := outcomes.count .pending }

def decodeProgress (events : List (ProgressEvent α)) : Except String (ProgressReport α) :=
  match events.foldlM Tally.step {} with
  | none => .error "progress-transition"
  | some tally => .ok tally.report

end Oracle

/-! ### The client -/

/-- The client's fold over the same events, up to the first error. -/
def progressResult (operations : List Operation) : Except DecodeError WriteProgress := do
  let state ← operations.foldlM State.apply {}
  return state.snapshot

def ProgressEvent.operation : ProgressEvent WriteLocation → Operation
  | .send locations => .sent locations.toArray
  | .acknowledge results => .acknowledge results.toArray
  | .replay => .replay
  | .globalReject => .globalReject

/-- The diagnostics of the client, as the corpus reports them. -/
def ProgressReport.ofProgress (progress : WriteProgress) : ProgressReport WriteLocation :=
  { attempts := progress.attempts.toList.map fun attempt =>
      (attempt.location, Histories.outcomeName attempt.outcome)
    acknowledgedCount := progress.acknowledged.size
    rejectedCount := progress.rejected.size
    replayedUncertainCount := progress.replayedUncertain.size
    uncertainCount := progress.uncertain.size }

/-! ### Both are one ledger -/

def isItemResult : WriteAttemptOutcome → Bool
  | .itemResult _ => true
  | _ => false

/-- The report of a ledger of attempts. -/
def ledgerReport {α : Type} (ledger : Ledger α WriteAttemptOutcome) : ProgressReport α :=
  let attempts := ledger.entries.map fun entry => (entry.1, entry.2.getD .pending)
  let outcomes := attempts.map Prod.snd
  { attempts := attempts.map fun attempt => (attempt.1, Histories.outcomeName attempt.2)
    acknowledgedCount := outcomes.countP isItemResult
    rejectedCount := outcomes.count .globalRejected
    replayedUncertainCount := outcomes.count .replayedUnknown
    uncertainCount := outcomes.count .pending }

section Ledger
variable {α : Type}

def Tally.ledger (tally : Tally α) : Ledger α WriteAttemptOutcome :=
  { closed := tally.attempts.map fun attempt => (attempt.1, attempt.2.model)
    opened := tally.pending }

def ProgressEvent.ledgerOp : ProgressEvent α → Ledger.Op α WriteAttemptOutcome
  | .send locations => .record locations
  | .acknowledge results => .settle (results.map .itemResult)
  | .replay => .settleAll .replayedUnknown
  | .globalReject => .settleAll .globalRejected

theorem model_outcomeOf (result : S7.WriteItemResult) : (outcomeOf result).model = .itemResult result := by
  cases result <;> rfl

/-- Every event is the ledger operation it stands for. -/
theorem tally_applies (tally : Tally α) (event : ProgressEvent α) :
    (tally.step event).map Tally.ledger = tally.ledger.apply event.ledgerOp := by
  cases event with
  | send locations =>
    have hguard : (!tally.pending.isEmpty || locations.isEmpty) = true ↔
        ¬ (tally.ledger.opened = [] ∧ locations ≠ []) := by
      simp [Tally.ledger, Classical.or_iff_not_imp_left]
    rw [Tally.step, ProgressEvent.ledgerOp, Ledger.apply, Ledger.record]
    by_cases hpossible : tally.ledger.opened = [] ∧ locations ≠ []
    · rw [if_pos hpossible, if_neg (mt hguard.mp (not_not_intro hpossible))]
      rfl
    · rw [if_neg hpossible, if_pos (hguard.mpr hpossible)]
      rfl
  | acknowledge results =>
    rw [Tally.step, ProgressEvent.ledgerOp, Ledger.apply, Ledger.settle, List.length_map]
    by_cases hlength : results.length = tally.pending.length
    · rw [if_neg (not_not_intro hlength)]
      refine Eq.trans (congrArg some ?_) (if_pos hlength).symm
      simp [Tally.ledger, Function.comp_def, model_outcomeOf, List.zip_map_right]
    · rw [if_pos hlength]
      exact (if_neg hlength).symm
  | replay | globalReject =>
    refine congrArg some ?_
    simp [Tally.ledger, Ledger.settleAll, Function.comp_def, Outcome.model]

theorem isItemResult_model (outcome : Outcome) : isItemResult outcome.model = isItemOutcome outcome := by
  cases outcome <;> rfl

theorem model_inj {outcome outcome' : Outcome} : outcome.model = outcome'.model ↔ outcome = outcome' := by
  cases outcome <;> cases outcome' <;> simp [Outcome.model]

theorem count_model (outcomes : List Outcome) (outcome : Outcome) :
    (outcomes.map Outcome.model).count outcome.model = outcomes.count outcome := by
  rw [List.count, List.count, List.countP_map]
  refine List.countP_congr fun other _ => ?_
  simp only [Function.comp_apply, beq_iff_eq, model_inj]

/-- The oracle's report is that of its ledger. -/
theorem Tally.report_eq (tally : Tally α) : tally.report = ledgerReport tally.ledger := by
  have hattempts : tally.ledger.entries.map (fun entry => (entry.1, entry.2.getD .pending)) =
      (tally.attempts ++ tally.pending.map (·, Outcome.pending)).map fun attempt =>
        (attempt.1, attempt.2.model) := by
    simp [Tally.ledger, Ledger.entries, Function.comp_def, show Outcome.pending.model = .pending from rfl]
  have houtcomes : ∀ attempts : List (α × Outcome),
      (attempts.map fun attempt => (attempt.1, attempt.2.model)).map Prod.snd =
        (attempts.map Prod.snd).map Outcome.model := by
    intro attempts
    rw [List.map_map, List.map_map]
    rfl
  rw [ledgerReport, hattempts, houtcomes, Tally.report]
  simp only [List.map_map, List.countP_map, Function.comp_def, outcomeName_model, isItemResult_model,
    ← count_model]
  rfl

end Ledger

/-! ### The two reports -/

theorem ledgerOp_operation (event : ProgressEvent WriteLocation) :
    event.operation.ledgerOp = event.ledgerOp := by
  cases event <;> rfl

/-- The client's diagnostics are the report of its ledger. -/
theorem ofProgress_snapshot (state : State) :
    ProgressReport.ofProgress state.snapshot = ledgerReport state.ledger := by
  have hattempts : state.ledger.entries.map (fun entry => (entry.1, entry.2.getD .pending)) =
      state.trace.toList.map fun attempt => (attempt.location, attempt.outcome) := by
    rw [trace_eq_entries, List.map_map]
    rfl
  have hwith : ∀ outcome, (state.trace.toList.filterMap (rangeWith outcome)).length =
      state.trace.toList.countP fun attempt => attempt.outcome == outcome := by
    intro outcome
    rw [List.length_filterMap_eq_countP]
    refine List.countP_congr fun attempt _ => ?_
    simp [rangeWith]
  have hitem : (state.trace.toList.filterMap acknowledgement).length =
      state.trace.toList.countP fun attempt => isItemResult attempt.outcome := by
    rw [List.length_filterMap_eq_countP]
    refine List.countP_congr fun attempt _ => ?_
    unfold acknowledgement
    cases attempt.outcome <;> simp [isItemResult]
  rw [ledgerReport, hattempts, ProgressReport.ofProgress, snapshot_eq]
  simp only [List.map_map, List.count, List.countP_map, Function.comp_def, List.size_toArray, hwith, hitem]

/-- The folds of both sides run the same ledger. -/
theorem fold_ledger (events : List (ProgressEvent WriteLocation)) :
    (events.foldlM Tally.step {}).map Tally.ledger =
      ((events.map ProgressEvent.operation).foldlM State.apply {}).toOption.map State.ledger := by
  have hops : (events.map ProgressEvent.operation).map Operation.ledgerOp =
      events.map ProgressEvent.ledgerOp := by
    rw [List.map_map]
    exact List.map_congr_left fun event _ => ledgerOp_operation event
  rw [Machine.abs_foldlM tally_applies, toOption_foldlM]
  refine Eq.trans ?_ (Machine.abs_foldlM ledger_applies ..).symm
  rw [hops]
  rfl

/-- The oracle rejects the events that the client's fold ends on, and reports the
diagnostics of the client on the others. -/
theorem decodeProgress_eq (events : List (ProgressEvent WriteLocation)) :
    decodeProgress events =
      ((progressResult (events.map ProgressEvent.operation)).mapError fun _ => "progress-transition").map
        ProgressReport.ofProgress := by
  have hfold := fold_ledger events
  unfold decodeProgress progressResult
  cases hclient : (events.map ProgressEvent.operation).foldlM State.apply {} with
  | error e =>
    rw [hclient] at hfold
    rw [Option.map_eq_none_iff.mp hfold]
    rfl
  | ok state =>
    rw [hclient] at hfold
    obtain ⟨tally, htally, hledger⟩ := Option.map_eq_some_iff.mp hfold
    rw [htally]
    refine congrArg Except.ok ?_
    rw [tally.report_eq, hledger, ← ofProgress_snapshot]

end ClassicS7.Oracle.Operation
