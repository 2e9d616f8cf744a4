import ClassicS7.Client.Policy
import ClassicS7.Library.Ledger
import ClassicS7.Wire.Items

/-! Write progress: what is known of each write that was sent.

The state keeps finished attempts in reverse and the batch that is out. It is a
ledger (`State.ledger`) whose entries are the attempts, and every operation is an
operation of the ledger (`ledger_applies`), so what holds of ledgers over any
sequence of operations holds of write progress. -/
namespace ClassicS7

structure WriteLocation where
  range : S7.MemoryRange
  /-- Original caller index for multi-item writes; scalar writes use `none`. -/
  itemIndex : Option Nat := none
  /-- Byte offset within the original logical payload, not an element offset. -/
  chunkByteOffset : Nat := 0
  deriving Repr, DecidableEq

inductive WriteAttemptOutcome where
  | pending
  | itemResult (result : S7.WriteItemResult)
  | globalRejected
  | replayedUnknown
  deriving Repr, DecidableEq

structure WriteAttempt where
  location : WriteLocation
  outcome : WriteAttemptOutcome := .pending
  deriving Repr, DecidableEq

/-- One wire write, not necessarily one entire caller item. -/
structure WriteAcknowledgement where
  range : S7.MemoryRange
  result : S7.WriteItemResult
  itemIndex : Option Nat := none
  chunkByteOffset : Nat := 0
  deriving Repr, DecidableEq

structure WriteProgress where
  /-- Chronological per-wire-item attempts. A replay produces a new entry at the
  same location. -/
  attempts : Array WriteAttempt := #[]
  acknowledged : Array WriteAcknowledgement := #[]
  /-- Global PLC rejections for which no per-item code is available. -/
  rejected : Array S7.MemoryRange := #[]
  /-- Earlier unacknowledged attempts preceding an explicitly permitted replay. -/
  replayedUncertain : Array S7.MemoryRange := #[]
  /-- These requests may have reached the PLC but have no validated item result. -/
  uncertain : Array S7.MemoryRange := #[]
  deriving Repr, DecidableEq

namespace WriteProgress

/-- Completed attempts are accumulated in reverse order. -/
structure State where
  history : List WriteAttempt := []
  pending : Array WriteLocation := #[]
  deriving Repr, DecidableEq

namespace State

def sent (state : State) (locations : Array WriteLocation) : Except DecodeError State :=
  if !state.pending.isEmpty || locations.isEmpty then
    .error (.invalidField 0 "write progress cannot start an empty or overlapping attempt")
  else .ok { state with pending := locations }

def finish (state : State) (outcome : WriteAttemptOutcome) : State :=
  { history := (state.pending.map fun location => { location, outcome }).toList.reverse ++ state.history }

def replay (state : State) : State := state.finish .replayedUnknown

def globalReject (state : State) : State := state.finish .globalRejected

/-- The count must match exactly; errors do not silently clear uncertainty. -/
def acknowledge (state : State) (results : Array S7.WriteItemResult) : Except DecodeError State :=
  if results.size != state.pending.size then
    .error (.invalidField 0 "write progress acknowledgement count differs from outstanding items")
  else .ok { history := ((state.pending.zip results).map fun (location, result) =>
    { location, outcome := .itemResult result }).toList.reverse ++ state.history }

def trace (state : State) : Array WriteAttempt :=
  state.history.reverse.toArray ++ state.pending.map (fun location => { location := location })

def snapshot (state : State) : WriteProgress := Id.run do
  let attempts := state.trace
  let mut progress : WriteProgress := { attempts }
  for attempt in attempts do
    match attempt.outcome with
    | .pending => progress := { progress with uncertain := progress.uncertain.push attempt.location.range }
    | .replayedUnknown =>
        progress := { progress with replayedUncertain := progress.replayedUncertain.push attempt.location.range }
    | .globalRejected =>
        progress := { progress with rejected := progress.rejected.push attempt.location.range }
    | .itemResult result =>
        progress := { progress with acknowledged := progress.acknowledged.push {
          range := attempt.location.range, result
          itemIndex := attempt.location.itemIndex
          chunkByteOffset := attempt.location.chunkByteOffset } }
  return progress

end State

/-! ### Operations -/

inductive Operation where
  | sent (locations : Array WriteLocation)
  | acknowledge (results : Array S7.WriteItemResult)
  | replay
  | globalReject
  deriving Repr, DecidableEq

def State.apply (state : State) : Operation → Except DecodeError State
  | .sent locations => state.sent locations
  | .acknowledge results => state.acknowledge results
  | .replay => .ok state.replay
  | .globalReject => .ok state.globalReject

def State.applies (state : State) (operation : Operation) : Option State := (state.apply operation).toOption

/-- The state after a sequence of operations; one that returns an error leaves it. -/
def after (operations : List Operation) : State := Machine.attemptAll State.applies {} operations

/-- The operations of a sequence that returned no error. -/
def successful (operations : List Operation) : List Operation :=
  Machine.effective State.applies {} operations

/-! ### Write progress is a ledger -/

/-- The attempts in order, and the batch that is out. -/
def State.ledger (state : State) : Ledger WriteLocation WriteAttemptOutcome :=
  { closed := state.history.reverse.map fun attempt => (attempt.location, attempt.outcome)
    opened := state.pending.toList }

def Operation.ledgerOp : Operation → Ledger.Op WriteLocation WriteAttemptOutcome
  | .sent locations => .record locations.toList
  | .acknowledge results => .settle (results.toList.map .itemResult)
  | .replay => .settleAll .replayedUnknown
  | .globalReject => .settleAll .globalRejected

theorem ledger_sent (state : State) (locations : Array WriteLocation) :
    (state.sent locations).toOption.map State.ledger = state.ledger.record locations.toList := by
  unfold State.sent Ledger.record
  by_cases hpending : state.pending.toList = [] ∧ locations.toList ≠ []
  · rw [if_pos (show state.ledger.opened = [] ∧ _ from hpending)]
    rw [if_neg (by simpa using hpending)]
    rfl
  · rw [if_neg (show ¬ (state.ledger.opened = [] ∧ _) from hpending)]
    rw [if_pos (by simpa [Classical.or_iff_not_imp_left] using hpending)]
    rfl

theorem ledger_finish (state : State) (outcome : WriteAttemptOutcome) :
    (state.finish outcome).ledger = state.ledger.settleAll outcome := by
  simp [State.finish, State.ledger, Ledger.settleAll, Function.comp_def]

theorem ledger_acknowledge (state : State) (results : Array S7.WriteItemResult) :
    (state.acknowledge results).toOption.map State.ledger =
      state.ledger.settle (results.toList.map .itemResult) := by
  unfold State.acknowledge Ledger.settle
  by_cases hsize : results.size = state.pending.size
  · rw [if_neg (by simpa using hsize), if_pos (by simpa [State.ledger] using hsize)]
    simp [Except.toOption, State.ledger, Function.comp_def, List.zip_map_right]
  · rw [if_pos (by simpa using hsize), if_neg (by simpa [State.ledger] using hsize)]
    rfl

/-- Every operation is the ledger operation it stands for. -/
theorem ledger_applies (state : State) (operation : Operation) :
    (state.applies operation).map State.ledger = state.ledger.apply operation.ledgerOp := by
  cases operation with
  | sent locations => exact ledger_sent state locations
  | acknowledge results => exact ledger_acknowledge state results
  | replay => exact congrArg some (ledger_finish state .replayedUnknown)
  | globalReject => exact congrArg some (ledger_finish state .globalRejected)

/-- An attempt read off a ledger entry; an open entry is a pending attempt. -/
def attemptOf (entry : WriteLocation × Option WriteAttemptOutcome) : WriteAttempt :=
  { location := entry.1, outcome := entry.2.getD .pending }

theorem trace_eq_entries (state : State) : state.trace.toList = state.ledger.entries.map attemptOf := by
  simp [State.trace, State.ledger, Ledger.entries, attemptOf, Function.comp_def]

theorem ledger_after (operations : List Operation) :
    (after operations).ledger =
      Machine.attemptAll Ledger.apply {} (operations.map Operation.ledgerOp) :=
  Machine.abs_attemptAll ledger_applies {} operations

theorem ledgerOp_successful (operations : List Operation) :
    (successful operations).map Operation.ledgerOp =
      Machine.effective Ledger.apply {} (operations.map Operation.ledgerOp) :=
  Machine.map_effective ledger_applies {} operations

/-! ### The attempts of a sequence of operations -/

/-- The locations an operation sends. -/
def Operation.locations : Operation → List WriteLocation
  | .sent locations => locations.toList
  | _ => []

def Operation.settles : Operation → Bool
  | .sent _ => false
  | .acknowledge _ | .replay | .globalReject => true

/-- The attempts a settling operation makes of the locations that are out. -/
def Operation.outcomes (batch : List WriteLocation) : Operation → List WriteAttempt
  | .sent _ => batch.map fun location => { location }
  | .acknowledge results =>
    (batch.zip results.toList).map fun (location, result) => { location, outcome := .itemResult result }
  | .replay => batch.map fun location => { location, outcome := .replayedUnknown }
  | .globalReject => batch.map fun location => { location, outcome := .globalRejected }

/-- The attempts that a sequence of successful operations amounts to: each array
that was sent, with the outcomes of the first later operation that settles it, and
pending if there is none. -/
def attemptsOf : List Operation → List WriteAttempt
  | [] => []
  | .sent locations :: later =>
    (match later.find? Operation.settles with
    | some operation => operation.outcomes locations.toList
    | none => locations.toList.map fun location => { location }) ++ attemptsOf later
  | _ :: later => attemptsOf later

theorem settles_ledgerOp (operation : Operation) : operation.ledgerOp.settles = operation.settles := by
  cases operation <;> rfl

theorem close_ledgerOp (batch : List WriteLocation) (operation : Operation) :
    (operation.ledgerOp.close batch).map attemptOf = operation.outcomes batch := by
  cases operation <;>
    simp [Operation.ledgerOp, Ledger.Op.close, Operation.outcomes, attemptOf, Function.comp_def,
      List.zip_map_right]

theorem attemptsOf_eq_account (operations : List Operation) :
    attemptsOf operations = (Ledger.account (operations.map Operation.ledgerOp)).map attemptOf := by
  induction operations with
  | nil => rfl
  | cons operation later ih =>
    cases operation with
    | sent locations =>
      have hfind : (later.map Operation.ledgerOp).find? Ledger.Op.settles =
          (later.find? Operation.settles).map Operation.ledgerOp := by
        rw [List.find?_map]
        congr 2
        funext operation
        exact settles_ledgerOp operation
      simp only [attemptsOf, List.map_cons, Operation.ledgerOp, Ledger.account, Ledger.resolve,
        List.map_append, ih, hfind]
      congr 1
      cases later.find? Operation.settles with
      | none => simp [attemptOf, Function.comp_def]
      | some operation => exact (close_ledgerOp _ operation).symm
    | acknowledge | replay | globalReject => exact ih

theorem batch_ledgerOp (operation : Operation) : operation.ledgerOp.batch = operation.locations := by
  cases operation <;> rfl

theorem recorded_ledgerOp (operations : List Operation) :
    Ledger.recorded (operations.map Operation.ledgerOp) = operations.flatMap Operation.locations := by
  rw [Ledger.recorded, List.flatMap_map]
  exact congrArg (operations.flatMap ·) (funext batch_ledgerOp)

/-- The trace is what the successful operations amount to. -/
theorem trace_after (operations : List Operation) :
    (after operations).trace.toList = attemptsOf (successful operations) := by
  rw [trace_eq_entries, ledger_after, Ledger.entries_attemptAll, attemptsOf_eq_account, ledgerOp_successful]

/-- Its locations are the arrays that were sent, end to end. -/
theorem trace_locations (operations : List Operation) :
    (after operations).trace.toList.map (·.location) =
      (successful operations).flatMap Operation.locations := by
  rw [trace_eq_entries, ledger_after, ← recorded_ledgerOp, ledgerOp_successful,
    ← Ledger.map_fst_entries_attemptAll, List.map_map]
  rfl

/-- An operation that returned has added what it sends to the locations of the trace. -/
theorem trace_apply {state next : State} {operation : Operation} (h : state.apply operation = .ok next) :
    next.trace.toList.map (·.location) = state.trace.toList.map (·.location) ++ operation.locations := by
  have happly : state.ledger.apply operation.ledgerOp = some next.ledger := by
    rw [← ledger_applies, State.applies, h]
    rfl
  have hlocations : ∀ state : State,
      state.trace.toList.map (·.location) = state.ledger.entries.map Prod.fst := by
    intro state
    rw [trace_eq_entries, List.map_map]
    rfl
  rw [hlocations, hlocations, Ledger.map_fst_entries_apply happly, batch_ledgerOp]

/-- Sending succeeds exactly when nothing is out and there is something to send. -/
theorem sent_eq_ok {state next : State} {locations : Array WriteLocation} :
    state.sent locations = .ok next ↔
      state.pending = #[] ∧ locations ≠ #[] ∧ next = { state with pending := locations } := by
  unfold State.sent
  by_cases hpossible : state.pending = #[] ∧ locations ≠ #[]
  · rw [if_neg (by simpa using hpossible), ← and_assoc, and_iff_right hpossible, Except.ok.injEq, eq_comm]
  · rw [if_pos (by simpa [Classical.or_iff_not_imp_left] using hpossible), ← and_assoc]
    exact iff_of_false (fun h => by cases h) fun h => hpossible h.1

theorem sent_ok_iff (state : State) (locations : Array WriteLocation) :
    (∃ next, state.sent locations = .ok next) ↔ state.pending = #[] ∧ locations ≠ #[] :=
  ⟨fun ⟨_, h⟩ => ⟨(sent_eq_ok.mp h).1, (sent_eq_ok.mp h).2.1⟩, fun h => ⟨_, sent_eq_ok.mpr ⟨h.1, h.2, rfl⟩⟩⟩

/-- Once acknowledged, nothing is out. -/
theorem pending_acknowledge {state next : State} {results : Array S7.WriteItemResult}
    (h : state.acknowledge results = .ok next) : next.pending = #[] := by
  unfold State.acknowledge at h
  split at h
  · cases h
  · rw [← Except.ok.inj h]

/-- An operation that returns is one more of the sequence. -/
theorem after_concat {operations : List Operation} {operation : Operation} {next : State}
    (h : (after operations).apply operation = .ok next) : after (operations ++ [operation]) = next := by
  rw [after, Machine.attemptAll, List.foldl_append]
  change Machine.attempt State.applies (after operations) operation = next
  rw [Machine.attempt, State.applies, h]
  rfl

/-! ### Snapshots -/

/-- The parts of a snapshot, as filters of the attempts. -/
def acknowledgement (attempt : WriteAttempt) : Option WriteAcknowledgement :=
  match attempt.outcome with
  | .itemResult result =>
    some {
      range := attempt.location.range, result
      itemIndex := attempt.location.itemIndex
      chunkByteOffset := attempt.location.chunkByteOffset }
  | _ => none

def rangeWith (outcome : WriteAttemptOutcome) (attempt : WriteAttempt) : Option S7.MemoryRange :=
  if attempt.outcome = outcome then some attempt.location.range else none

/-- One round of the snapshot's loop. -/
def record (progress : WriteProgress) (attempt : WriteAttempt) : WriteProgress :=
  match attempt.outcome with
  | .pending => { progress with uncertain := progress.uncertain.push attempt.location.range }
  | .replayedUnknown =>
    { progress with replayedUncertain := progress.replayedUncertain.push attempt.location.range }
  | .globalRejected => { progress with rejected := progress.rejected.push attempt.location.range }
  | .itemResult result =>
    { progress with acknowledged := progress.acknowledged.push {
        range := attempt.location.range, result
        itemIndex := attempt.location.itemIndex
        chunkByteOffset := attempt.location.chunkByteOffset } }

theorem snapshot_eq_foldl (state : State) :
    state.snapshot = state.trace.foldl record { attempts := state.trace } := by
  have hbody : state.snapshot = Id.run (forIn state.trace ({ attempts := state.trace } : WriteProgress)
      fun attempt progress => pure (.yield (record progress attempt))) := by
    unfold State.snapshot
    refine congrArg (forIn (m := Id) state.trace _) ?_
    funext attempt progress
    unfold record
    cases attempt.outcome <;> rfl
  rw [hbody, Array.forIn_pure_yield_eq_foldl]
  rfl

/-- The loop appends to each part what its filter keeps. -/
theorem foldl_record (attempts : List WriteAttempt) (progress : WriteProgress) :
    attempts.foldl record progress =
      { attempts := progress.attempts
        acknowledged := progress.acknowledged ++ (attempts.filterMap acknowledgement).toArray
        rejected := progress.rejected ++ (attempts.filterMap (rangeWith .globalRejected)).toArray
        replayedUncertain :=
          progress.replayedUncertain ++ (attempts.filterMap (rangeWith .replayedUnknown)).toArray
        uncertain := progress.uncertain ++ (attempts.filterMap (rangeWith .pending)).toArray } := by
  induction attempts generalizing progress with
  | nil => simp
  | cons attempt rest ih =>
    rw [List.foldl_cons, ih]
    cases h : attempt.outcome <;> simp [record, acknowledgement, rangeWith, h]

/-- The snapshot is the trace and its four filters. -/
theorem snapshot_eq (state : State) :
    state.snapshot =
      { attempts := state.trace
        acknowledged := (state.trace.toList.filterMap acknowledgement).toArray
        rejected := (state.trace.toList.filterMap (rangeWith .globalRejected)).toArray
        replayedUncertain := (state.trace.toList.filterMap (rangeWith .replayedUnknown)).toArray
        uncertain := (state.trace.toList.filterMap (rangeWith .pending)).toArray } := by
  rw [snapshot_eq_foldl, ← Array.foldl_toList, foldl_record]
  simp

/-- Every attempt falls in one of the four parts. -/
theorem parts_length (attempts : List WriteAttempt) :
    (attempts.filterMap acknowledgement).length +
      (attempts.filterMap (rangeWith .globalRejected)).length +
      (attempts.filterMap (rangeWith .replayedUnknown)).length +
      (attempts.filterMap (rangeWith .pending)).length = attempts.length := by
  induction attempts with
  | nil => rfl
  | cons attempt rest ih =>
    cases h : attempt.outcome <;>
      simp only [List.filterMap_cons, acknowledgement, rangeWith, h, List.length_cons, reduceCtorEq,
        if_true, if_false] <;> omega

/-- **Write progress keeps its books**: over any sequence of operations from the
empty state, the trace holds what was sent, in order, each location under the
first operation that settled it, sending is possible exactly when nothing is out,
and the snapshot splits the trace. -/
theorem bookkeeping (operations : List Operation) :
    (after operations).trace.toList.map (·.location) =
        (successful operations).flatMap Operation.locations ∧
      (∀ locations, (∃ next, (after operations).sent locations = .ok next) ↔
        (after operations).pending = #[] ∧ locations ≠ #[]) ∧
      (after operations).trace.toList = attemptsOf (successful operations) ∧
      (after operations).snapshot.attempts = (after operations).trace ∧
      (after operations).snapshot.acknowledged.toList =
        (after operations).trace.toList.filterMap acknowledgement ∧
      (after operations).snapshot.rejected.toList =
        (after operations).trace.toList.filterMap (rangeWith .globalRejected) ∧
      (after operations).snapshot.replayedUncertain.toList =
        (after operations).trace.toList.filterMap (rangeWith .replayedUnknown) ∧
      (after operations).snapshot.uncertain.toList =
        (after operations).trace.toList.filterMap (rangeWith .pending) ∧
      (after operations).snapshot.acknowledged.size + (after operations).snapshot.rejected.size +
        (after operations).snapshot.replayedUncertain.size + (after operations).snapshot.uncertain.size =
        (after operations).trace.size := by
  refine ⟨trace_locations operations, sent_ok_iff _, trace_after operations, ?_⟩
  rw [snapshot_eq]
  refine ⟨rfl, rfl, rfl, rfl, rfl, ?_⟩
  simpa using parts_length (after operations).trace.toList

end WriteProgress
end ClassicS7
