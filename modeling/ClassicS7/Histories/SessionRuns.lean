import ClassicS7.Histories.Sessions

/-! What holds of a session over every history.

`Moves` lists what an event can do to a state, with its guards (`step_moves`). The
invariant `Safe` counts: what was sent and what is left of the allowance, and the
locations of the attempts against the number of sends. It is kept by every move, so
whatever the events, a request is sent at most once more than its allowance, a write
without the opt-in at most once, and the attempts of a write are its sends. -/
namespace ClassicS7.Sessions
open Histories Checks

/-! ### What an event can do -/

inductive Moves (config : Config) (state : State) : State → Prop where
  | begin {packet : Bytes} (hopen : state.lifecycle = .connected)
      (hrequest : request config = .ok packet) :
      Moves config state { state with
        remaining := config.budget, active := some config.reference
        phase := .ready, sends := 0, progress := {} }
  | send {progress : WriteProgress.State} (hopen : state.lifecycle = .connected) (hready : state.phase = .ready)
      (hsent : sentProgress config state = .ok progress) :
      Moves config state { state with sends := state.sends + 1, phase := .awaiting, progress }
  | retry (hactive : state.active ≠ none) (hremaining : 0 < state.remaining)
      (hpermitted : config.write = false ∨ config.allow = true) :
      Moves config state { state with
        remaining := state.remaining - 1, lifecycle := .disconnected, phase := .reconnectCotp
        progress := if config.write && state.phase == .awaiting then state.progress.replay else state.progress }
  | fail {kind : ClientErrorKind} (hactive : state.active ≠ none) :
      Moves config state { state with
        lifecycle := .disconnected, active := none, phase := .failed
        progress := if config.write && kind == .plcRejected && state.phase == .awaiting
          then state.progress.globalReject else state.progress }
  | reconnectSetup (hphase : state.phase = .reconnectCotp) :
      Moves config state { state with phase := .reconnectSetup }
  | reconnected (hphase : state.phase = .reconnectSetup) :
      Moves config state { state with lifecycle := .connected, phase := .ready }
  | complete {packet : Bytes} {results : Array S7.WriteItemResult} {progress : WriteProgress.State}
      (hopen : state.lifecycle = .connected) (hphase : state.phase = .awaiting)
      (hresults : decodeResults config packet = .ok results)
      (hprogress : acknowledgedProgress config state results = .ok progress) :
      Moves config state { state with active := none, phase := .completed, progress }
  | disconnect : Moves config state { state with lifecycle := .closed, active := none, phase := .closed }

/-- A failure of an open session is a retry or the end of its request. -/
theorem failure_moves (config : Config) {state : State} (kind : ClientErrorKind) (hactive : state.active ≠ none)
    (hopen : state.lifecycle ≠ .closed) : Moves config state (failure config state kind).1 := by
  have hlive : (state.lifecycle == .closed) = false := beq_eq_false_iff_ne.mpr hopen
  unfold failure
  rw [retryBudgetAfter_eq]
  by_cases heligible : retryEligible state.remaining (state.lifecycle == .closed) kind
      (if config.write then .potentiallyMutating else .readOnly) config.allow
  · rw [if_pos heligible]
    obtain ⟨-, hremaining, -, hpermitted⟩ := heligible
    refine .retry hactive hremaining ?_
    cases hwrite : config.write with
    | true => exact .inr (by simpa [retryPermitted, hwrite] using hpermitted)
    | false => exact .inl rfl
  · rw [if_neg heligible]
    simp only [hlive, Bool.false_eq_true, if_false]
    exact .fail hactive

/-- A closed session has ended its request, in the phase that says so. -/
def Ended (state : State) : Prop := state.lifecycle = .closed → state.active = none ∧ state.phase = .closed

/-- An event is refused, and changes nothing, or it makes a move. -/
theorem step_moves (config : Config) {state : State} (hclosed : Ended state) (event : Event) :
    (step config state event).1 = state ∨ Moves config state (step config state event).1 := by
  cases event with
  | begin =>
    simp only [step, Id.run, pure]
    split
    · exact .inl rfl
    rename_i hguard
    have hopen : state.lifecycle = .connected := by simpa using hguard
    split
    · exact .inl rfl
    cases hrequest : request config with
    | error e => exact .inl rfl
    | ok packet => exact .inr (.begin hopen hrequest)
  | send =>
    simp only [step, Id.run, pure]
    split
    · exact .inl rfl
    rename_i hguard
    obtain ⟨⟨hopen, -⟩, hready⟩ : (state.lifecycle = .connected ∧ state.active ≠ none) ∧
        state.phase = .ready := by
      simpa using hguard
    cases hsent : sentProgress config state with
    | error e => exact .inl rfl
    | ok progress => exact .inr (.send hopen hready hsent)
  | failure kind =>
    simp only [step, Id.run, pure]
    split
    · exact .inl rfl
    rename_i hguard
    obtain ⟨hactive, -⟩ : state.active ≠ none ∧ state.phase.acceptsFailure = true := by simpa using hguard
    exact .inr (failure_moves config kind hactive fun h => hactive (hclosed h).1)
  | reconnectSetup =>
    simp only [step, Id.run, pure]
    split
    · exact .inl rfl
    rename_i hguard
    obtain ⟨-, hphase⟩ : state.active ≠ none ∧ state.phase = .reconnectCotp := by simpa using hguard
    exact .inr (.reconnectSetup hphase)
  | reconnected =>
    simp only [step, Id.run, pure]
    split
    · exact .inl rfl
    rename_i hguard
    obtain ⟨⟨-, hphase⟩, -⟩ : (state.active ≠ none ∧ state.phase = .reconnectSetup) ∧
        state.lifecycle = .disconnected := by
      simpa using hguard
    exact .inr (.reconnected hphase)
  | response packet =>
    simp only [step, Id.run, pure]
    split
    · exact .inl rfl
    rename_i hguard
    obtain ⟨⟨hopen, hactive⟩, hphase⟩ : (state.lifecycle = .connected ∧ state.active ≠ none) ∧
        state.phase = .awaiting := by
      simpa using hguard
    cases hresults : decodeResults config packet with
    | error e => exact .inr (failure_moves config _ hactive fun h => hactive (hclosed h).1)
    | ok results =>
      dsimp only
      cases hprogress : acknowledgedProgress config state results with
      | error e => exact .inl rfl
      | ok progress => exact .inr (.complete hopen hphase hresults hprogress)
  | disconnect => exact .inr .disconnect

/-! ### The invariant -/

/-- The sends of a phase beyond its retries: one where the last send is not to be repeated. -/
def Phase.sent : Phase → Nat
  | .awaiting | .failed | .completed | .closed => 1
  | .idle | .ready | .reconnectCotp | .reconnectSetup => 0

/-- The locations of a write's attempts: all of its locations for each send. -/
def sentLocations (config : Config) (sends : Nat) : List WriteLocation :=
  (List.replicate sends config.locations.toList).flatten

/-- What holds after every history. -/
structure Safe (config : Config) (state : State) : Prop where
  closed : Ended state
  encodes : state.active ≠ none → ∃ packet, request config = .ok packet
  allowance : state.sends + state.remaining ≤ config.budget + state.phase.sent
  conservative : config.write = true → config.allow = false → state.sends ≤ state.phase.sent
  pending : config.write = true → state.active ≠ none →
    state.progress.pending = if state.phase = .awaiting then config.locations else #[]
  attempts : config.write = true →
    state.progress.trace.toList.map (·.location) = sentLocations config state.sends
  untouched : config.write = false → state.progress = {}

/-- A session that has sent nothing has attempted nothing. -/
theorem trace_initial (config : Config) :
    ({} : WriteProgress.State).trace.toList.map (·.location) = sentLocations config 0 := by
  simp [WriteProgress.State.trace, sentLocations]

theorem safe_initial (config : Config) : Safe config {} where
  closed := fun h => by cases h
  encodes := fun h => absurd rfl h
  allowance := Nat.zero_le _
  conservative := fun _ _ => Nat.zero_le _
  pending := fun _ h => absurd rfl h
  attempts := fun _ => trace_initial config
  untouched := fun _ => rfl

theorem sentLocations_succ (config : Config) (sends : Nat) :
    sentLocations config (sends + 1) = sentLocations config sends ++ config.locations.toList := by
  rw [sentLocations, List.replicate_succ', List.flatten_append, List.flatten_singleton]
  rfl

/-- Settling what is out leaves the locations of the attempts. -/
theorem locations_finish (progress : WriteProgress.State) (outcome : WriteAttemptOutcome) :
    (progress.finish outcome).trace.toList.map (·.location) = progress.trace.toList.map (·.location) := by
  simp [WriteProgress.State.finish, WriteProgress.State.trace, Function.comp_def]

theorem Phase.sent_le (phase : Phase) : phase.sent ≤ 1 := by
  cases phase <;> decide

section Step
variable {config : Config} {state next : State}

/-- Sending a write puts its locations out, after what was attempted before. -/
theorem sentProgress_write (hwrite : config.write = true) {progress : WriteProgress.State}
    (h : sentProgress config state = .ok progress) :
    progress.pending = config.locations ∧ progress.trace.toList.map (·.location) =
      state.progress.trace.toList.map (·.location) ++ config.locations.toList := by
  rw [sentProgress, if_pos hwrite] at h
  obtain ⟨-, -, hnext⟩ := WriteProgress.sent_eq_ok.mp h
  have happly : state.progress.apply (.sent config.locations) = .ok progress := h
  exact ⟨by rw [hnext], WriteProgress.trace_apply happly⟩

/-- Its results leave the locations of the attempts. -/
theorem acknowledgedProgress_write (hwrite : config.write = true) {results : Array S7.WriteItemResult}
    {progress : WriteProgress.State} (h : acknowledgedProgress config state results = .ok progress) :
    progress.trace.toList.map (·.location) = state.progress.trace.toList.map (·.location) := by
  rw [acknowledgedProgress, if_pos hwrite] at h
  have happly : state.progress.apply (.acknowledge results) = .ok progress := h
  exact (WriteProgress.trace_apply happly).trans (List.append_nil _)

/-- A read has no write progress. -/
theorem sentProgress_read (hread : config.write = false) : sentProgress config state = .ok state.progress := by
  rw [sentProgress, hread]
  rfl

theorem acknowledgedProgress_read (hread : config.write = false) (results : Array S7.WriteItemResult) :
    acknowledgedProgress config state results = .ok state.progress := by
  rw [acknowledgedProgress, hread]
  rfl

/-- A conditional settlement leaves the locations of the attempts. -/
theorem locations_ite_finish (c : Prop) [Decidable c] (progress : WriteProgress.State)
    (outcome : WriteAttemptOutcome) :
    (if c then progress.finish outcome else progress).trace.toList.map (·.location) =
      progress.trace.toList.map (·.location) := by
  split
  · exact locations_finish progress outcome
  · rfl

theorem Safe.move (safe : Safe config state) (h : Moves config state next) : Safe config next := by
  have hallowance := safe.allowance
  have hsent := state.phase.sent_le
  cases h with
  | begin hopen hrequest =>
    exact {
      closed := fun h => by cases hopen.symm.trans h
      encodes := fun _ => ⟨_, hrequest⟩
      allowance := by simp [Phase.sent]
      conservative := fun _ _ => Nat.zero_le _
      pending := fun _ _ => rfl
      attempts := fun _ => trace_initial config
      untouched := fun _ => rfl }
  | send hopen hready hprogress =>
    rw [hready] at hallowance
    refine {
      closed := fun h => by cases hopen.symm.trans h
      encodes := safe.encodes
      allowance := ?_
      conservative := fun hwrite hallow => ?_
      pending := fun hwrite _ => (sentProgress_write hwrite hprogress).1
      attempts := fun hwrite => ?_
      untouched := fun hread => ?_ }
    · simp only [Phase.sent] at hallowance ⊢
      omega
    · have hsends := safe.conservative hwrite hallow
      rw [hready] at hsends
      exact Nat.succ_le_succ hsends
    · rw [(sentProgress_write hwrite hprogress).2, safe.attempts hwrite, sentLocations_succ]
    · cases (sentProgress_read hread).symm.trans hprogress
      exact safe.untouched hread
  | retry hactive hremaining hpermitted =>
    refine {
      closed := fun h => by cases h
      encodes := safe.encodes
      allowance := ?_
      conservative := fun hwrite hallow => ?_
      pending := fun hwrite _ => ?_
      attempts := fun hwrite => (locations_ite_finish ..).trans (safe.attempts hwrite)
      untouched := fun hread => ?_ }
    · simp only [Phase.sent]
      omega
    · rw [hwrite, hallow] at hpermitted
      simp at hpermitted
    · have hpending := safe.pending hwrite hactive
      by_cases hphase : state.phase = .awaiting
      · simp [hwrite, hphase, WriteProgress.State.replay, WriteProgress.State.finish]
      · simpa [hphase] using hpending
    · simpa [hread] using safe.untouched hread
  | fail hactive =>
    refine {
      closed := fun h => by cases h
      encodes := fun h => absurd rfl h
      allowance := ?_
      conservative := fun hwrite hallow => Nat.le_trans (safe.conservative hwrite hallow) hsent
      pending := fun _ h => absurd rfl h
      attempts := fun hwrite => (locations_ite_finish ..).trans (safe.attempts hwrite)
      untouched := fun hread => ?_ }
    · simp only [Phase.sent]
      omega
    · simpa [hread] using safe.untouched hread
  | reconnectSetup hphase =>
    rw [hphase] at hallowance
    exact {
      closed := fun h => by cases hphase.symm.trans (safe.closed h).2
      encodes := safe.encodes
      allowance := hallowance
      conservative := fun hwrite hallow => by
        simpa [hphase, Phase.sent] using safe.conservative hwrite hallow
      pending := fun hwrite hactive => by simpa [hphase] using safe.pending hwrite hactive
      attempts := safe.attempts
      untouched := safe.untouched }
  | reconnected hphase =>
    rw [hphase] at hallowance
    exact {
      closed := fun h => by cases h
      encodes := safe.encodes
      allowance := hallowance
      conservative := fun hwrite hallow => by
        simpa [hphase, Phase.sent] using safe.conservative hwrite hallow
      pending := fun hwrite hactive => by simpa [hphase] using safe.pending hwrite hactive
      attempts := safe.attempts
      untouched := safe.untouched }
  | complete hopen hphase hresults hprogress =>
    rw [hphase] at hallowance
    refine {
      closed := fun h => by cases hopen.symm.trans h
      encodes := fun h => absurd rfl h
      allowance := hallowance
      conservative := fun hwrite hallow => Nat.le_trans (safe.conservative hwrite hallow) hsent
      pending := fun _ h => absurd rfl h
      attempts := fun hwrite => (acknowledgedProgress_write hwrite hprogress).trans (safe.attempts hwrite)
      untouched := fun hread => ?_ }
    cases (acknowledgedProgress_read hread _).symm.trans hprogress
    exact safe.untouched hread
  | disconnect =>
    refine {
      closed := fun _ => ⟨rfl, rfl⟩
      encodes := fun h => absurd rfl h
      allowance := ?_
      conservative := fun hwrite hallow => Nat.le_trans (safe.conservative hwrite hallow) hsent
      pending := fun _ h => absurd rfl h
      attempts := safe.attempts
      untouched := safe.untouched }
    simp only [Phase.sent]
    omega

/-- Every event keeps the invariant. -/
theorem Safe.event (safe : Safe config state) (event : Event) : Safe config (step config state event).1 := by
  obtain h | h := step_moves config safe.closed event
  · rwa [h]
  · exact safe.move h

end Step

/-! ### Answers -/

section Answers
variable {config : Config} {state : State}

/-- A request that encodes has at most as many locations as fit one, and at least one. -/
theorem size_of_request {packet : Bytes} (hwrite : config.write = true) (h : request config = .ok packet) :
    0 < config.locations.size ∧ config.locations.size ≤ S7.maxItemCount := by
  rw [request, if_pos hwrite] at h
  simpa only [Array.size_map] using S7.size_of_encodeAreaWriteMany h

/-- A ready request of a safe session can be sent. -/
theorem Safe.sends (safe : Safe config state) (hactive : state.active ≠ none) (hready : state.phase = .ready) :
    ∃ progress, sentProgress config state = .ok progress := by
  cases hwrite : config.write with
  | false => exact ⟨_, sentProgress_read hwrite⟩
  | true =>
    obtain ⟨packet, hrequest⟩ := safe.encodes hactive
    have hpending : state.progress.pending = #[] := by
      rw [safe.pending hwrite hactive, if_neg (by rw [hready]; decide)]
    rw [sentProgress, if_pos hwrite]
    exact ⟨_, WriteProgress.sent_eq_ok.mpr
      ⟨hpending, Array.size_pos_iff.mp (size_of_request hwrite hrequest).1, rfl⟩⟩

/-- The results of a response that decodes are one for each location that is out. -/
theorem Safe.acknowledges (safe : Safe config state) (hactive : state.active ≠ none)
    (hawaiting : state.phase = .awaiting) {packet : Bytes} {results : Array S7.WriteItemResult}
    (h : decodeResults config packet = .ok results) :
    ∃ progress, acknowledgedProgress config state results = .ok progress := by
  cases hwrite : config.write with
  | false => exact ⟨_, acknowledgedProgress_read hwrite results⟩
  | true =>
    obtain ⟨request, hrequest⟩ := safe.encodes hactive
    obtain ⟨hpositive, hcount⟩ := size_of_request hwrite hrequest
    obtain ⟨response, -, h⟩ := bind_eq_ok.mp h
    rw [if_pos hwrite, S7.decodeAreaWriteMany_eq_ok hpositive hcount] at h
    obtain ⟨-, hlength, hresults⟩ := h
    have hsize : results.size = state.progress.pending.size := by
      rw [safe.pending hwrite hactive, if_pos hawaiting, ← Array.length_toList, hresults, List.length_map,
        hlength]
    rw [acknowledgedProgress, if_pos hwrite, WriteProgress.State.acknowledge,
      if_neg (by simpa using hsize)]
    exact ⟨_, rfl⟩

theorem failure_ne_rejected (kind : ClientErrorKind) (category : String) :
    (failure config state kind).2 ≠ rejected category := by
  unfold failure
  split <;> simp [rejected]

/-- A safe session refuses no event for its write progress. -/
theorem Safe.progresses (safe : Safe config state) (event : Event) :
    (step config state event).2 ≠ rejected "write-progress" := by
  have hother : ∀ category, category ≠ "write-progress" → rejected category ≠ rejected "write-progress" :=
    fun _ => mt rejected_inj.mp
  cases event with
  | begin =>
    simp only [step, Id.run, pure]
    split
    · exact hother _ (by decide)
    split
    · exact hother _ (by decide)
    cases request config with
    | error e => exact hother _ (by decide)
    | ok packet => exact (rejected_ne_accepted _).symm
  | send =>
    simp only [step, Id.run, pure]
    split
    · exact hother _ (by decide)
    rename_i hguard
    obtain ⟨⟨-, hactive⟩, hready⟩ : (state.lifecycle = .connected ∧ state.active ≠ none) ∧
        state.phase = .ready := by
      simpa using hguard
    obtain ⟨progress, hsent⟩ := safe.sends hactive hready
    rw [hsent]
    exact (rejected_ne_accepted _).symm
  | failure kind =>
    simp only [step, Id.run, pure]
    split
    · exact hother _ (by decide)
    · exact failure_ne_rejected kind _
  | reconnectSetup | reconnected =>
    simp only [step, Id.run, pure]
    split
    · exact hother _ (by decide)
    · exact (rejected_ne_accepted _).symm
  | response packet =>
    simp only [step, Id.run, pure]
    split
    · exact hother _ (by decide)
    rename_i hguard
    obtain ⟨⟨-, hactive⟩, hawaiting⟩ : (state.lifecycle = .connected ∧ state.active ≠ none) ∧
        state.phase = .awaiting := by
      simpa using hguard
    cases hresults : decodeResults config packet with
    | error e => exact hother _ (by decide)
    | ok results =>
      obtain ⟨progress, hprogress⟩ := safe.acknowledges hactive hawaiting hresults
      simp only [hprogress]
      exact (rejected_ne_accepted _).symm
  | disconnect => exact (rejected_ne_accepted _).symm

/-- A closed session no longer changes. -/
theorem Safe.frozen (safe : Safe config state) (hclosed : state.lifecycle = .closed) (event : Event) :
    (step config state event).1 = state := by
  obtain ⟨hactive, hphase⟩ := safe.closed hclosed
  obtain h | h := step_moves config safe.closed event
  · exact h
  generalize (step config state event).1 = next at h
  cases h with
  | begin hopen | send hopen | complete hopen => cases hclosed.symm.trans hopen
  | retry hlive | fail hlive => exact absurd hactive hlive
  | reconnectSetup hother | reconnected hother => cases hphase.symm.trans hother
  | disconnect =>
    obtain ⟨lifecycle, remaining, active, phase, sends, progress⟩ := state
    cases hclosed
    cases hactive
    cases hphase
    rfl

end Answers

/-! ### Histories -/

/-- The state after a history. -/
def after (config : Config) (events : List Event) : State := Machine.final (answer config) {} events

theorem safe_answer (config : Config) (state : State) (event : Event) (safe : Safe config state) :
    Safe config (answer config state event).1 := safe.event event

theorem safe_after (config : Config) (events : List Event) : Safe config (after config events) :=
  Machine.final_of_invariant (Safe config) (safe_answer config) (safe_initial config) events

/-- **A session keeps to its allowance**: after every history its request was sent at
most once more than the budget allows to retry, a write that may not be repeated
at most once, and the attempts of a write are its locations, once for each send. -/
theorem sends_after (config : Config) (events : List Event) :
    (after config events).sends ≤ config.budget + 1 ∧
      (config.write = true → config.allow = false → (after config events).sends ≤ 1) ∧
      (config.write = true → (after config events).progress.trace.toList.map (·.location) =
        (List.replicate (after config events).sends config.locations.toList).flatten) := by
  have safe := safe_after config events
  have hsent := (after config events).phase.sent_le
  refine ⟨?_, fun hwrite hallow => Nat.le_trans (safe.conservative hwrite hallow) hsent, safe.attempts⟩
  have hallowance := safe.allowance
  omega

/-! ### Sends that were accepted -/

/-- An event that was accepted. -/
def acceptedEvent (event : Event) (result : Json) : List Event := if isAccepted result then [event] else []

/-- How many of some events are sends, since the last begin among them. -/
def sendsSinceBegin (events : List Event) : Nat := (events.reverse.takeWhile (· != .begin)).count .send

theorem sendsSinceBegin_concat (events : List Event) (event : Event) :
    sendsSinceBegin (events ++ [event]) =
      if event = .begin then 0 else if event = .send then sendsSinceBegin events + 1 else sendsSinceBegin events := by
  rw [sendsSinceBegin, List.reverse_concat]
  by_cases hbegin : event = .begin
  · rw [if_pos hbegin, List.takeWhile_cons_of_neg (by simp [hbegin])]
    rfl
  · rw [if_neg hbegin, List.takeWhile_cons_of_pos (by simp [hbegin]), List.count_cons]
    by_cases hsend : event = .send
    · rw [if_pos hsend, if_pos (by simp [hsend])]
      rfl
    · rw [if_neg hsend, if_neg (by simp [hsend])]
      rfl

theorem sends_failure (config : Config) (state : State) (kind : ClientErrorKind) :
    (failure config state kind).1.sends = state.sends := by
  unfold failure
  split <;> rfl

/-- An event counts as a send, or starts the count over, where it is accepted. -/
theorem sends_step (config : Config) (state : State) (events : List Event) (event : Event)
    (h : state.sends = sendsSinceBegin events) : (step config state event).1.sends =
      sendsSinceBegin (events ++ acceptedEvent event (step config state event).2) := by
  have hrefused (category : String) :
      state.sends = sendsSinceBegin (events ++ acceptedEvent event (rejected category)) := by
    rw [acceptedEvent, isAccepted_rejected, if_neg (by decide), List.append_nil]
    exact h
  have hother (json : Json) (hevent : event ≠ .begin ∧ event ≠ .send) :
      state.sends = sendsSinceBegin (events ++ acceptedEvent event json) := by
    unfold acceptedEvent
    split
    · rw [sendsSinceBegin_concat, if_neg hevent.1, if_neg hevent.2, h]
    · rw [List.append_nil, h]
  cases event with
  | begin =>
    simp only [step, Id.run, pure]
    split
    · exact hrefused _
    split
    · exact hrefused _
    cases request config with
    | error e => exact hrefused _
    | ok packet =>
      rw [acceptedEvent, isAccepted_accepted, if_pos rfl, sendsSinceBegin_concat, if_pos rfl]
  | send =>
    simp only [step, Id.run, pure]
    split
    · exact hrefused _
    cases sentProgress config state with
    | error e => exact hrefused _
    | ok progress =>
      rw [acceptedEvent, isAccepted_accepted, if_pos rfl, sendsSinceBegin_concat, if_neg (by decide), if_pos rfl, ← h]
  | failure kind =>
    simp only [step, Id.run, pure]
    split
    · exact hrefused _
    · exact (sends_failure config state kind).trans (hother _ ⟨by simp, by simp⟩)
  | reconnectSetup | reconnected =>
    simp only [step, Id.run, pure]
    split
    · exact hrefused _
    · exact hother _ ⟨by simp, by simp⟩
  | response packet =>
    simp only [step, Id.run, pure]
    split
    · exact hrefused _
    cases decodeResults config packet with
    | error e => exact (sends_failure config state _).trans (hother _ ⟨by simp, by simp⟩)
    | ok results =>
      dsimp only
      cases acknowledgedProgress config state results with
      | error e => exact hrefused _
      | ok progress => exact hother _ ⟨by simp, by simp⟩
  | disconnect => exact hother _ ⟨by simp, by simp⟩

/-- What a session reports as its sends are the sends that it has accepted since the last
begin that it has accepted. -/
theorem sends_accepted (config : Config) (events : List Event) :
    (after config events).sends = sendsSinceBegin (Machine.collected (step config) acceptedEvent {} events) :=
  Machine.final_collected (fun done state => state.sends = sendsSinceBegin done)
    (fun done state event h => sends_step config state done event h) rfl events

/-- No report of a history refuses an event for its write progress. -/
theorem runEvents_progresses (config : Config) (events : Array Event) (state : Json) :
    report (rejected "write-progress") state ∉ (runEvents config events).toList := by
  have hanswer : ∀ s e, Safe config s → (answer config s e).2 ≠ report (rejected "write-progress") state := by
    intro s e safe h
    simp only [answer, report, Json.obj.injEq, List.cons.injEq, Prod.mk.injEq, true_and] at h
    exact safe.progresses e h.1
  intro hreport
  rw [runEvents_eq_outputs] at hreport
  exact Machine.outputs_of_invariant (Q := fun r => r ≠ report (rejected "write-progress") state)
    (Safe config) (safe_answer config) hanswer (safe_initial config) events.toList _ hreport rfl

/-- Once closed, a session stays as it is, whatever events follow. -/
theorem after_closed (config : Config) {events : List Event}
    (hclosed : (after config events).lifecycle = .closed) (later : List Event) :
    after config (events ++ later) = after config events := by
  rw [after, Machine.final_append]
  exact Machine.final_of_fixed (fun event => (safe_after config events).frozen hclosed event) later

end ClassicS7.Sessions
