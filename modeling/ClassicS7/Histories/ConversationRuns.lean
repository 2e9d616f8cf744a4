import ClassicS7.Histories.Conversations

/-! What holds of a conversation over every history.

The reference that a conversation keeps is that of the write that is out (`Safe`),
and its write progress is that of the operations it performed. So a send is accepted
only when no write is out, and an acknowledgement only under the reference of the
write that is, with a status for each of its items. -/
namespace ClassicS7.Conversations
open Histories Checks

/-! ### What an event can do -/

inductive Moves (state : State) : State → Prop where
  | lifecycle {event : Lifecycle.Event} {next : Lifecycle.State}
      (htransition : Lifecycle.transition state.lifecycle event = some next) :
      Moves state { state with lifecycle := next }
  | replay (hopen : state.lifecycle ≠ .closed) :
      Moves state { state with progress := state.progress.replay, pendingReference := none }
  | send {reference : UInt16} {locations : Array WriteLocation} {packet : Bytes} {next : WriteProgress.State}
      (hopen : state.lifecycle = .connected) (hrequest : request reference locations = .ok packet)
      (hsent : state.progress.sent locations = .ok next) :
      Moves state { state with progress := next, pendingReference := some reference }
  | acknowledge {results : Array S7.WriteItemResult} {next : WriteProgress.State}
      (hopen : state.lifecycle = .connected) (hacknowledged : state.progress.acknowledge results = .ok next) :
      Moves state { state with progress := next, pendingReference := none }

/-- What a state makes of an acknowledgement on the wire. -/
def decodeAcknowledgement (state : State) (reference : UInt16) (count : Nat) (codes : Array UInt8) :
    Except DecodeError (Array S7.WriteItemResult) := do
  let .ok packet := acknowledgement reference count codes
    | throw (.invalidField 0 "corpus ACK encoding")
  let response ← S7.decodeResponse packet
  S7.decodeAreaWriteMany (state.pendingReference.getD reference) state.progress.pending.size response

/-- What it does with the results. -/
def settle (state : State) (results : Array S7.WriteItemResult) : State × Json :=
  match state.progress.acknowledge results with
  | .ok next => ({ state with progress := next, pendingReference := none }, accepted)
  | .error _ => (state, rejected "write-progress")

section Step
variable {state : State} {reference : UInt16}

theorem step_closed (h : state.lifecycle ≠ .connected) {count : Nat} {codes : Array UInt8} :
    step state (.acknowledge reference count codes) = (state, rejected "not-connected") := by
  simp [step, Id.run, pure, h]

theorem step_acknowledge_error (hopen : state.lifecycle = .connected) {count : Nat} {codes : Array UInt8}
    {e : DecodeError} (h : decodeAcknowledgement state reference count codes = .error e) :
    step state (.acknowledge reference count codes) = (state, rejected "response-codec") := by
  have hconnected : (state.lifecycle != .connected) = false := bne_eq_false_iff_eq.mpr hopen
  unfold decodeAcknowledgement at h
  simp only [step, hconnected]
  cases hpacket : acknowledgement reference count codes with
  | error e' => rfl
  | ok packet =>
    rw [hpacket] at h
    dsimp only at h ⊢
    rw [h]
    rfl

theorem step_acknowledge_ok (hopen : state.lifecycle = .connected) {count : Nat} {codes : Array UInt8}
    {results : Array S7.WriteItemResult} (h : decodeAcknowledgement state reference count codes = .ok results) :
    step state (.acknowledge reference count codes) = settle state results := by
  have hconnected : (state.lifecycle != .connected) = false := bne_eq_false_iff_eq.mpr hopen
  unfold decodeAcknowledgement at h
  simp only [step, hconnected]
  cases hpacket : acknowledgement reference count codes with
  | error e => rw [hpacket] at h; cases h
  | ok packet =>
    rw [hpacket] at h
    dsimp only at h ⊢
    rw [h, settle]
    dsimp only
    cases state.progress.acknowledge results <;> rfl

/-- An event is refused or only read, and changes nothing, or it makes a move. -/
theorem step_moves (state : State) (event : Event) :
    (step state event).1 = state ∨ Moves state (step state event).1 := by
  cases event with
  | lifecycle event =>
    simp only [step]
    cases htransition : Lifecycle.transition state.lifecycle event with
    | none => exact .inl rfl
    | some next => exact .inr (.lifecycle htransition)
  | retry safety allow kind remaining =>
    simp only [step, Id.run, pure]
    by_cases hreplay : ((retryBudgetAfter remaining (state.lifecycle == .closed)
        (classifyClientError (errorOfKind kind)) safety allow).isSome && safety == .potentiallyMutating) = true
    · rw [if_pos hreplay]
      refine .inr (.replay fun hclosed => ?_)
      simp [hclosed, retryBudgetAfter] at hreplay
    · rw [if_neg hreplay]
      exact .inl rfl
  | send reference locations =>
    simp only [step, Id.run, pure]
    split
    · exact .inl rfl
    rename_i hguard
    have hopen : state.lifecycle = .connected := by simpa using hguard
    cases hrequest : request reference locations with
    | error e => exact .inl rfl
    | ok packet =>
      cases hsent : state.progress.sent locations with
      | error e => exact .inl rfl
      | ok next => exact .inr (.send hopen hrequest hsent)
  | acknowledge reference count codes =>
    by_cases hopen : state.lifecycle = .connected
    · cases hdecode : decodeAcknowledgement state reference count codes with
      | error e => exact .inl (congrArg Prod.fst (step_acknowledge_error hopen hdecode))
      | ok results =>
        rw [step_acknowledge_ok hopen hdecode, settle]
        cases hnext : state.progress.acknowledge results with
        | error e => exact .inl rfl
        | ok next => exact .inr (.acknowledge hopen hnext)
    · exact .inl (congrArg Prod.fst (step_closed hopen))
  | read reference range payload =>
    refine .inl ?_
    simp only [step, Id.run, pure]
    split
    · rfl
    split
    · rfl
    split
    · split <;> rfl
    · rfl

end Step

/-! ### The invariant -/

/-- What holds after every history. -/
structure Safe (state : State) : Prop where
  width : state.progress.pending.size ≤ S7.maxItemCount
  reference : state.pendingReference = none ↔ state.progress.pending = #[]
  history : ∃ operations, state.progress = WriteProgress.after operations

theorem safe_initial : Safe {} where
  width := Nat.zero_le _
  reference := iff_of_true rfl rfl
  history := ⟨[], rfl⟩

section Invariant
variable {state next : State}

/-- A performed operation is one more of the history. -/
theorem Safe.history_concat (safe : Safe state) {operation : WriteProgress.Operation}
    {progress : WriteProgress.State} (h : state.progress.apply operation = .ok progress) :
    ∃ operations, progress = WriteProgress.after operations := by
  obtain ⟨operations, hstate⟩ := safe.history
  rw [hstate] at h
  exact ⟨operations ++ [operation], (WriteProgress.after_concat h).symm⟩

theorem Safe.move (safe : Safe state) (h : Moves state next) : Safe next := by
  cases h with
  | lifecycle htransition => exact ⟨safe.width, safe.reference, safe.history⟩
  | replay hopen =>
    have happly : state.progress.apply .replay = .ok state.progress.replay := rfl
    exact ⟨Nat.zero_le _, iff_of_true rfl rfl, safe.history_concat happly⟩
  | @send reference locations packet progress hopen hrequest hsent =>
    have happly : state.progress.apply (.sent locations) = .ok progress := hsent
    obtain ⟨hpositive, hwidth⟩ := S7.size_of_encodeAreaWriteMany hrequest
    obtain ⟨-, hlocations, hnext⟩ := WriteProgress.sent_eq_ok.mp hsent
    refine ⟨?_, ?_, safe.history_concat happly⟩
    · simpa [hnext] using hwidth
    · rw [hnext]
      exact iff_of_false (Option.some_ne_none reference) hlocations
  | @acknowledge results progress hopen hacknowledged =>
    have happly : state.progress.apply (.acknowledge results) = .ok progress := hacknowledged
    have hpending : progress.pending = #[] := WriteProgress.pending_acknowledge hacknowledged
    refine ⟨?_, iff_of_true rfl hpending, safe.history_concat happly⟩
    rw [hpending]
    exact Nat.zero_le _

/-- Every event keeps the invariant. -/
theorem Safe.event (safe : Safe state) (event : Event) : Safe (step state event).1 := by
  obtain h | h := step_moves state event
  · rwa [h]
  · exact safe.move h

/-! ### Answers -/

/-- A send is accepted exactly when it encodes, on a connection with no write out. -/
theorem Safe.send_accepted_iff (safe : Safe state) (reference : UInt16) (locations : Array WriteLocation) :
    (step state (.send reference locations)).2 = accepted ↔
      state.lifecycle = .connected ∧ (∃ packet, request reference locations = .ok packet) ∧
        state.pendingReference = none := by
  simp only [step, Id.run, pure]
  by_cases hopen : state.lifecycle = .connected
  · rw [if_neg (by simpa using hopen), and_iff_right hopen, safe.reference]
    cases hrequest : request reference locations with
    | error e => exact iff_of_false (rejected_ne_accepted _) fun h => by simp at h
    | ok packet =>
      have hlocations : locations ≠ #[] := by
        simpa [Array.size_pos_iff] using (S7.size_of_encodeAreaWriteMany hrequest).1
      have hsent := WriteProgress.sent_ok_iff state.progress locations
      rw [and_iff_left hlocations] at hsent
      rw [and_iff_right ⟨packet, rfl⟩, ← hsent]
      cases state.progress.sent locations with
      | error e => exact iff_of_false (rejected_ne_accepted _) fun h => by simp at h
      | ok next => exact iff_of_true rfl ⟨next, rfl⟩
  · rw [if_pos (by simpa using hopen)]
    exact iff_of_false (rejected_ne_accepted _) fun h => hopen h.1

/-- What an acknowledgement decodes to: under the reference of the write that is out,
the status of each of its items. -/
theorem Safe.decodeAcknowledgement_eq_ok (safe : Safe state) {reference : UInt16} {count : Nat}
    {codes : Array UInt8} {results : Array S7.WriteItemResult} :
    decodeAcknowledgement state reference count codes = .ok results ↔
      (state.pendingReference = some reference ∧ UInt8.ofNat count = UInt8.ofNat state.progress.pending.size ∧
        codes.size = state.progress.pending.size) ∧ results = codes.map S7.WriteItemResult.ofReturnCode := by
  have hwidth := safe.width
  have hparameters : ([5, UInt8.ofNat count] : Bytes).length ≤ S7.maxSectionSize := by
    rw [List.length_cons, List.length_singleton]
    decide
  unfold decodeAcknowledgement acknowledgement
  by_cases hcodes : codes.toList.length ≤ S7.maxSectionSize
  · rw [S7.encodeAckData_ok reference hparameters hcodes]
    dsimp only
    rw [bind_ok (S7.decodeResponse_ackDataBytes reference hparameters hcodes)]
    cases hreference : state.pendingReference with
    | none =>
      rw [safe.reference.mp hreference]
      refine iff_of_false (fun h => ?_) fun h => by simp at h
      unfold S7.decodeAreaWriteMany at h
      cases (guard_error rfl).symm.trans h
    | some expected =>
      have hpositive : 0 < state.progress.pending.size := by
        rw [Array.size_pos_iff, ne_eq, ← safe.reference, hreference]
        exact Option.some_ne_none expected
      rw [S7.decodeAreaWriteMany_eq_ok hpositive hwidth, S7.itemParameters_eq_accepted]
      simp [S7.writeFunction, ← Array.toList_inj, and_assoc, eq_comm]
  · obtain ⟨e, he⟩ := S7.encodeAckData_error reference hparameters (Nat.lt_of_not_le hcodes)
    rw [he]
    refine iff_of_false (fun h => by cases h) fun h => hcodes ?_
    rw [Array.length_toList, h.1.2.2]
    exact Nat.le_trans hwidth (by decide)

/-- An acknowledgement is accepted exactly when it names the write that is out, and has
a status for each of its items. -/
theorem Safe.acknowledge_accepted_iff (safe : Safe state) (reference : UInt16) (count : Nat)
    (codes : Array UInt8) :
    (step state (.acknowledge reference count codes)).2 = accepted ↔
      state.lifecycle = .connected ∧ state.pendingReference = some reference ∧
        UInt8.ofNat count = UInt8.ofNat state.progress.pending.size ∧
          codes.size = state.progress.pending.size := by
  by_cases hopen : state.lifecycle = .connected
  · rw [and_iff_right hopen]
    cases hdecode : decodeAcknowledgement state reference count codes with
    | error e =>
      rw [step_acknowledge_error hopen hdecode]
      refine iff_of_false (rejected_ne_accepted _) fun h => ?_
      cases hdecode.symm.trans (safe.decodeAcknowledgement_eq_ok.mpr ⟨h, rfl⟩)
    | ok results =>
      obtain ⟨h, rfl⟩ := safe.decodeAcknowledgement_eq_ok.mp hdecode
      have hsize : (codes.map S7.WriteItemResult.ofReturnCode).size = state.progress.pending.size := by
        rw [Array.size_map, h.2.2]
      rw [step_acknowledge_ok hopen hdecode, settle, WriteProgress.State.acknowledge,
        if_neg (by simpa using hsize)]
      exact iff_of_true rfl h
  · rw [step_closed hopen]
    exact iff_of_false (rejected_ne_accepted _) fun h => hopen h.1

/-- A closed conversation no longer changes. -/
theorem closed_frozen (hclosed : state.lifecycle = .closed) (event : Event) : (step state event).1 = state := by
  obtain h | h := step_moves state event
  · exact h
  generalize (step state event).1 = next at h
  cases h with
  | lifecycle htransition =>
    rw [hclosed] at htransition
    rw [Lifecycle.closed_is_terminal htransition, ← hclosed]
  | replay hopen => exact absurd hclosed hopen
  | send hopen | acknowledge hopen => cases hclosed.symm.trans hopen

end Invariant

/-! ### Histories -/

/-- The state after a history. -/
def after (events : List Event) : State := Machine.final answer {} events

theorem safe_answer (state : State) (event : Event) (safe : Safe state) : Safe (answer state event).1 :=
  safe.event event

theorem safe_after (events : List Event) : Safe (after events) :=
  Machine.final_of_invariant Safe safe_answer safe_initial events

/-- **A conversation has one write out at a time**: after every history a send is
accepted only when there is none, an acknowledgement only for the one there is, and
the attempts are those of some operations on write progress. -/
theorem exchanges_after (events : List Event) (reference : UInt16) :
    (∀ locations, (step (after events) (.send reference locations)).2 = accepted →
        (after events).progress.pending = #[]) ∧
      (∀ count codes, (step (after events) (.acknowledge reference count codes)).2 = accepted →
        (after events).pendingReference = some reference ∧ codes.size = (after events).progress.pending.size) ∧
      ∃ operations, (after events).progress.trace.toList =
        WriteProgress.attemptsOf (WriteProgress.successful operations) := by
  have safe := safe_after events
  refine ⟨fun locations h => ?_, fun count codes h => ?_, ?_⟩
  · exact safe.reference.mp ((safe.send_accepted_iff reference locations).mp h).2.2
  · obtain ⟨-, hreference, -, hsize⟩ := (safe.acknowledge_accepted_iff reference count codes).mp h
    exact ⟨hreference, hsize⟩
  · obtain ⟨operations, hprogress⟩ := safe.history
    rw [hprogress]
    exact ⟨operations, WriteProgress.trace_after operations⟩

/-- After every history a send is accepted exactly when it encodes, on a connection with no
write out. -/
theorem send_accepted_after (events : List Event) (reference : UInt16) (locations : Array WriteLocation) :
    (step (after events) (.send reference locations)).2 = accepted ↔
      (after events).lifecycle = .connected ∧ (∃ packet, request reference locations = .ok packet) ∧
        (after events).progress.pending = #[] := by
  have safe := safe_after events
  rw [← safe.reference]
  exact safe.send_accepted_iff reference locations

/-- An acknowledgement is accepted exactly when it names the write that is out, and has a
status for each of its items. -/
theorem acknowledge_accepted_after (events : List Event) (reference : UInt16) (count : Nat) (codes : Array UInt8) :
    (step (after events) (.acknowledge reference count codes)).2 = accepted ↔
      (after events).lifecycle = .connected ∧ (after events).pendingReference = some reference ∧
        UInt8.ofNat count = UInt8.ofNat (after events).progress.pending.size ∧
          codes.size = (after events).progress.pending.size :=
  (safe_after events).acknowledge_accepted_iff reference count codes

/-! ### Operations -/

/-- Whether a retry was permitted. -/
def isPermitted : Json → Bool
  | .obj [("status", .str _), ("permitted", .bool permitted)] => permitted
  | _ => false

/-- The operation on write progress that an event stands for, by what was made of it. -/
def operations (event : Event) (result : Json) : List WriteProgress.Operation :=
  match event with
  | .retry safety _ _ _ => if isPermitted result && safety == .potentiallyMutating then [.replay] else []
  | .send _ locations => if isAccepted result then [.sent locations] else []
  | .acknowledge _ _ codes =>
    if isAccepted result then [.acknowledge (codes.map S7.WriteItemResult.ofReturnCode)] else []
  | _ => []

/-- An event does to the progress what its operation does. -/
theorem progress_step {state : State} (safe : Safe state) {done : List WriteProgress.Operation}
    (h : state.progress = WriteProgress.after done) (event : Event) : (step state event).1.progress =
      WriteProgress.after (done ++ operations event (step state event).2) := by
  have hsame : state.progress = WriteProgress.after (done ++ []) := by rw [List.append_nil, h]
  have hnext {operation : WriteProgress.Operation} {progress : WriteProgress.State}
      (happly : state.progress.apply operation = .ok progress) :
      progress = WriteProgress.after (done ++ [operation]) :=
    (WriteProgress.after_concat (h ▸ happly)).symm
  cases event with
  | lifecycle event =>
    simp only [step]
    cases Lifecycle.transition state.lifecycle event with
    | none => exact hsame
    | some next => exact hsame
  | retry safety allow kind remaining =>
    simp only [step, Id.run, pure, operations, isPermitted]
    split
    · exact hnext rfl
    · exact hsame
  | send reference locations =>
    simp only [step, Id.run, pure]
    split
    · exact hsame
    cases request reference locations with
    | error e => exact hsame
    | ok packet =>
      dsimp only
      cases hsent : state.progress.sent locations with
      | error e => exact hsame
      | ok next => exact hnext hsent
  | acknowledge reference count codes =>
    by_cases hopen : state.lifecycle = .connected
    · cases hdecode : decodeAcknowledgement state reference count codes with
      | error e =>
        rw [step_acknowledge_error hopen hdecode]
        exact hsame
      | ok results =>
        rw [step_acknowledge_ok hopen hdecode, settle]
        obtain ⟨-, rfl⟩ := safe.decodeAcknowledgement_eq_ok.mp hdecode
        cases hacknowledged : state.progress.acknowledge (codes.map S7.WriteItemResult.ofReturnCode) with
        | error e => exact hsame
        | ok next => exact hnext hacknowledged
    · rw [step_closed hopen]
      exact hsame
  | read reference range payload =>
    simp only [step, Id.run, pure]
    split
    · exact hsame
    split
    · exact hsame
    split
    · split <;> exact hsame
    · exact hsame

/-- The attempts of a conversation are those of the sends and the acknowledgements that it
has accepted, and of the replays that it has permitted. -/
theorem progress_accepted (events : List Event) :
    (after events).progress = WriteProgress.after (Machine.collected step operations {} events) := by
  have h := Machine.final_collected (f := operations)
    (fun done state => Safe state ∧ state.progress = WriteProgress.after done)
    (fun done state event h => ⟨h.1.event event, progress_step h.1 h.2 event⟩) ⟨safe_initial, rfl⟩ events
  exact h.2

/-- Once closed, a conversation stays as it is, whatever events follow. -/
theorem after_closed {events : List Event} (hclosed : (after events).lifecycle = .closed) (later : List Event) :
    after (events ++ later) = after events := by
  rw [after, Machine.final_append]
  exact Machine.final_of_fixed (fun event => closed_frozen hclosed event) later

end ClassicS7.Conversations
