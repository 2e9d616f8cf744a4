import ClassicS7.Library.Machine

/-! The serialization gate of a client.

Every operation of a client runs behind a gate: a call takes a ticket and the
promise of the call before it, waits for that promise, runs if the gate lets its
ticket start, and when its operation has ended tells the gate and then resolves its
own promise.
Calls come in at any time and the steps of different calls interleave freely.
`Ordered` says what holds of every interleaving: the steps taken are those of calls
that run one after another, in the order they were submitted. -/
namespace ClassicS7.Correlation

/-- Pure bookkeeping for the gate: a ticket may run only once every earlier ticket
has finished. -/
structure Gate where
  issued : Nat
  finished : Nat
  deriving Repr, DecidableEq

namespace Gate

def empty : Gate := { issued := 0, finished := 0 }

/-- Take the next ticket. -/
def submit (gate : Gate) : Gate × Nat := ({ gate with issued := gate.issued + 1 }, gate.issued)

/-- Only the oldest unfinished ticket may run. -/
def mayStart (gate : Gate) (ticket : Nat) : Bool := ticket == gate.finished && ticket < gate.issued

/-- The running ticket completes. Saturating, so a spurious finish cannot count a
ticket that was never issued. -/
def finish (gate : Gate) : Gate :=
  if gate.finished < gate.issued then { gate with finished := gate.finished + 1 } else gate

/-- Running and queued tickets. -/
def pending (gate : Gate) : Nat := gate.issued - gate.finished

end Gate

/-! ### Calls -/

inductive Phase where
  | waiting
  | running
  /-- The gate did not let the ticket start. -/
  | refused
  /-- The operation has returned or failed; the gate still counts the ticket. -/
  | ended
  /-- The gate counts the ticket as finished; the promise is not resolved yet. -/
  | released
  | resolved
  deriving Repr, DecidableEq

/-- The gate has still to be told of the call. -/
def Phase.pending : Phase → Bool
  | waiting | running | refused | ended => true
  | released | resolved => false

/-- One call: the promise it waits for, its ticket, and where it is. Promises are
named by the position of the call that resolves them. -/
structure Call where
  previous : Option Nat
  ticket : Nat
  phase : Phase := .waiting
  deriving Repr, DecidableEq

/-- The gate with the tail of the promise chain, which change together, and all
calls so far in the order they were submitted. -/
structure Queue where
  gate : Gate := Gate.empty
  tail : Option Nat := none
  calls : List Call := []
  deriving Repr, DecidableEq

inductive Action where
  | submit
  | start (call : Nat)
  /-- The operation returns or fails. -/
  | complete (call : Nat)
  /-- The gate is told, whatever came before. -/
  | release (call : Nat)
  | resolve (call : Nat)
  deriving Repr, DecidableEq

namespace Queue

def phaseOf (queue : Queue) (call : Nat) : Option Phase := (queue.calls[call]?).map (·.phase)

/-- A promise is resolved by its call; the chain starts with a resolved one. -/
def isResolved (queue : Queue) : Option Nat → Bool
  | none => true
  | some call => queue.phaseOf call == some .resolved

def setPhase (queue : Queue) (call : Nat) (phase : Phase) : Queue :=
  { queue with calls := queue.calls.modify call fun entry => { entry with phase } }

/-- One step of one call, where it is possible. -/
def step (queue : Queue) : Action → Option Queue
  | .submit =>
    let (gate, ticket) := queue.gate.submit
    some {
      gate, tail := some queue.calls.length
      calls := queue.calls ++ [{ previous := queue.tail, ticket }] }
  | .start call => do
    let entry ← queue.calls[call]?
    if entry.phase == .waiting && queue.isResolved entry.previous then
      some (queue.setPhase call (if queue.gate.mayStart entry.ticket then .running else .refused))
    else none
  | .complete call => do
    let entry ← queue.calls[call]?
    if entry.phase == .running then some (queue.setPhase call .ended) else none
  | .release call => do
    let entry ← queue.calls[call]?
    if entry.phase == .ended || entry.phase == .refused then
      some { queue.setPhase call .released with gate := queue.gate.finish }
    else none
  | .resolve call => do
    let entry ← queue.calls[call]?
    if entry.phase == .released then some (queue.setPhase call .resolved) else none

/-- The queue after some actions; one that is not possible does nothing. -/
def after (actions : List Action) : Queue := Machine.attemptAll step {} actions

theorem after_append (actions more : List Action) :
    after (actions ++ more) = Machine.attemptAll step (after actions) more :=
  Machine.attemptAll_append _ _ _

/-- The actions that were possible. -/
def performed (actions : List Action) : List Action := Machine.effective step {} actions

end Queue

/-! ### One call after another -/

/-- The steps of calls that run one after another: four for each call. -/
def Action.turn (index : Nat) : Action :=
  match index % 4 with
  | 0 => .start (index / 4)
  | 1 => .complete (index / 4)
  | 2 => .release (index / 4)
  | _ => .resolve (index / 4)

@[simp] theorem Action.turn_ne_submit (index : Nat) : turn index ≠ .submit := by
  rw [turn]
  split <;> exact Action.noConfusion

theorem Action.turn_start (call : Nat) : turn (4 * call) = .start call := by
  rw [turn, Nat.mul_mod_right, Nat.mul_div_cancel_left _ (by decide)]
  rfl

theorem Action.turn_complete (call : Nat) : turn (4 * call + 1) = .complete call := by
  rw [turn, Nat.mul_add_mod, Nat.mul_add_div (by decide)]
  rfl

theorem Action.turn_release (call : Nat) : turn (4 * call + 2) = .release call := by
  rw [turn, Nat.mul_add_mod, Nat.mul_add_div (by decide)]
  rfl

theorem Action.turn_resolve (call : Nat) : turn (4 * call + 3) = .resolve call := by
  rw [turn, Nat.mul_add_mod, Nat.mul_add_div (by decide)]
  rfl

/-- The phase of a call after some of its own steps. -/
def Phase.reached : Nat → Phase
  | 0 => .waiting
  | 1 => .running
  | 2 => .ended
  | 3 => .released
  | _ => .resolved

/-- The promise that a call of the chain waits for: that of the call before it. -/
def before : Nat → Option Nat
  | 0 => none
  | call + 1 => some call

/-- A queue whose calls have taken some steps, one call after another, by the actions
that led to it. -/
structure Ordered (actions : List Action) (queue : Queue) (steps : Nat) : Prop where
  issued : queue.gate.issued = queue.calls.length
  finished : queue.gate.finished = (steps + 1) / 4
  tail : queue.tail = before queue.calls.length
  ticket : ∀ {call : Nat} {entry : Call}, queue.calls[call]? = some entry → entry.ticket = call
  previous : ∀ {call : Nat} {entry : Call}, queue.calls[call]? = some entry → entry.previous = before call
  phase : ∀ {call : Nat} {entry : Call}, queue.calls[call]? = some entry →
    entry.phase = .reached (steps - 4 * call)
  submitted : steps ≤ 4 * queue.calls.length
  serial : actions.filter (· ≠ .submit) = (List.range steps).map Action.turn

namespace Queue
variable {queue : Queue} {call : Nat} {entry : Call}

theorem phaseOf_eq (h : queue.calls[call]? = some entry) : queue.phaseOf call = some entry.phase := by
  rw [phaseOf, h]
  rfl

@[simp] theorem gate_setPhase (phase : Phase) : (queue.setPhase call phase).gate = queue.gate := rfl

@[simp] theorem tail_setPhase (phase : Phase) : (queue.setPhase call phase).tail = queue.tail := rfl

@[simp] theorem length_setPhase (phase : Phase) : (queue.setPhase call phase).calls.length = queue.calls.length :=
  List.length_modify ..

/-- A call after one phase was set: that one with its new phase, or another as it was. -/
theorem setPhase_cases {phase : Phase} {other : Nat} {changed : Call}
    (h : (queue.setPhase call phase).calls[other]? = some changed) :
    (other = call ∧ ∃ entry, queue.calls[call]? = some entry ∧ changed = { entry with phase }) ∨
      (other ≠ call ∧ queue.calls[other]? = some changed) := by
  rw [setPhase, List.getElem?_modify] at h
  obtain ⟨entry, hentry, h⟩ := Option.map_eq_some_iff.mp h
  by_cases hother : call = other
  · subst hother
    rw [if_pos rfl] at h
    exact .inl ⟨rfl, entry, hentry, h.symm⟩
  · rw [if_neg hother] at h
    exact .inr ⟨Ne.symm hother, h ▸ hentry⟩

/-- What a step can do. -/
inductive Moves (queue : Queue) : Action → Queue → Prop where
  | submit : Moves queue .submit {
      gate := queue.gate.submit.1, tail := some queue.calls.length
      calls := queue.calls ++ [{ previous := queue.tail, ticket := queue.gate.issued }] }
  | start {call : Nat} {entry : Call} (hcall : queue.calls[call]? = some entry) (hwaiting : entry.phase = .waiting)
      (hprevious : queue.isResolved entry.previous = true) :
      Moves queue (.start call)
        (queue.setPhase call (if queue.gate.mayStart entry.ticket then .running else .refused))
  | complete {call : Nat} {entry : Call} (hcall : queue.calls[call]? = some entry)
      (hphase : entry.phase = .running) : Moves queue (.complete call) (queue.setPhase call .ended)
  | release {call : Nat} {entry : Call} (hcall : queue.calls[call]? = some entry)
      (hphase : entry.phase = .ended ∨ entry.phase = .refused) :
      Moves queue (.release call) { queue.setPhase call .released with gate := queue.gate.finish }
  | resolve {call : Nat} {entry : Call} (hcall : queue.calls[call]? = some entry)
      (hphase : entry.phase = .released) : Moves queue (.resolve call) (queue.setPhase call .resolved)

theorem step_moves {action : Action} {next : Queue} (h : queue.step action = some next) :
    Moves queue action next := by
  cases action with
  | submit =>
    cases h
    exact .submit
  | start call =>
    obtain ⟨entry, hcall, h⟩ := Option.bind_eq_some_iff.mp h
    split at h
    · rename_i hguard
      obtain ⟨hwaiting, hprevious⟩ : entry.phase = .waiting ∧ queue.isResolved entry.previous = true := by
        simpa using hguard
      cases h
      exact .start hcall hwaiting hprevious
    · cases h
  | complete call =>
    obtain ⟨entry, hcall, h⟩ := Option.bind_eq_some_iff.mp h
    split at h
    · rename_i hguard
      cases h
      exact .complete hcall (by simpa using hguard)
    · cases h
  | release call =>
    obtain ⟨entry, hcall, h⟩ := Option.bind_eq_some_iff.mp h
    split at h
    · rename_i hguard
      cases h
      exact .release hcall (by simpa using hguard)
    · cases h
  | resolve call =>
    obtain ⟨entry, hcall, h⟩ := Option.bind_eq_some_iff.mp h
    split at h
    · rename_i hguard
      cases h
      exact .resolve hcall (by simpa using hguard)
    · cases h

theorem Moves.step {action : Action} {next : Queue} (h : Moves queue action next) :
    queue.step action = some next := by
  cases h with
  | submit => rfl
  | start hcall hwaiting hprevious => simp [Queue.step, hcall, hwaiting, hprevious]
  | complete hcall hphase => simp [Queue.step, hcall, hphase]
  | release hcall hphase => rcases hphase with hphase | hphase <;> simp [Queue.step, hcall, hphase]
  | resolve hcall hphase => simp [Queue.step, hcall, hphase]

/-- Only a submission adds a call. -/
theorem Moves.length {action : Action} {next : Queue} (h : Moves queue action next) (haction : action ≠ .submit) :
    next.calls.length = queue.calls.length := by
  cases h with
  | submit => exact absurd rfl haction
  | start | complete | release | resolve => exact length_setPhase _

end Queue

/-! ### Every step is the next one -/

namespace Phase
variable {steps : Nat}

theorem reached_ne_refused : reached steps ≠ .refused := by
  unfold reached
  split <;> decide

theorem reached_eq_waiting : reached steps = .waiting ↔ steps = 0 := by
  unfold reached
  split <;> simp_all

theorem reached_eq_running : reached steps = .running ↔ steps = 1 := by
  unfold reached
  split <;> simp_all

theorem reached_eq_ended : reached steps = .ended ↔ steps = 2 := by
  unfold reached
  split <;> simp_all

theorem reached_eq_released : reached steps = .released ↔ steps = 3 := by
  unfold reached
  split <;> simp_all

theorem reached_eq_resolved : reached steps = .resolved ↔ 4 ≤ steps := by
  unfold reached
  split <;> simp_all
  omega

/-- Whether the gate has still to be told that a call is over. -/
theorem reached_pending : (reached steps).pending = decide (steps ≤ 2) := by
  rcases steps with _ | _ | _ | _ | steps <;> simp [reached, pending]

/-- A step of one call leaves the phase of every other. -/
theorem reached_other {call : Nat} (h : call ≠ steps / 4) :
    reached (steps + 1 - 4 * call) = reached (steps - 4 * call) := by
  rcases Nat.lt_or_gt_of_ne h with h | h
  · rw [reached_eq_resolved.mpr (by omega), reached_eq_resolved.mpr (by omega)]
  · rw [reached_eq_waiting.mpr (by omega), reached_eq_waiting.mpr (by omega)]

end Phase

theorem ordered_initial : Ordered [] {} 0 where
  issued := rfl
  finished := rfl
  tail := rfl
  ticket := fun h => by cases h
  previous := fun h => by cases h
  phase := fun h => by cases h
  submitted := Nat.zero_le _
  serial := rfl

section Step
variable {actions : List Action} {queue : Queue} {steps : Nat} (ordered : Ordered actions queue steps)
include ordered

/-- The promise that a call waits for is resolved when the calls before it have taken
all their steps. -/
theorem Ordered.isResolved_iff {call : Nat} {entry : Call} (hcall : queue.calls[call]? = some entry) :
    queue.isResolved entry.previous = true ↔ 4 * call ≤ steps := by
  rw [ordered.previous hcall]
  cases call with
  | zero => simp [before, Queue.isResolved]
  | succ earlier =>
    have hlength := (List.getElem?_eq_some_iff.mp hcall).1
    have hearlier : queue.calls[earlier]? = some queue.calls[earlier] := List.getElem?_eq_getElem _
    rw [before, Queue.isResolved, Queue.phaseOf_eq hearlier, ordered.phase hearlier, beq_iff_eq,
      Option.some.injEq, Phase.reached_eq_resolved]
    omega

theorem Ordered.submit : Ordered (actions ++ [.submit]) {
    gate := queue.gate.submit.1, tail := some queue.calls.length
    calls := queue.calls ++ [{ previous := queue.tail, ticket := queue.gate.issued }] } steps := by
  have hsubmitted := ordered.submitted
  -- a call of the longer list is an old one, or the new one
  have hcases : ∀ {call : Nat} {entry : Call},
      (queue.calls ++ [({ previous := queue.tail, ticket := queue.gate.issued } : Call)])[call]? = some entry →
      queue.calls[call]? = some entry ∨
        call = queue.calls.length ∧ entry = { previous := queue.tail, ticket := queue.gate.issued } := by
    intro call entry h
    rw [List.getElem?_append] at h
    split at h
    · exact .inl h
    · rw [List.getElem?_singleton] at h
      split at h
      · exact .inr ⟨by omega, (Option.some.inj h).symm⟩
      · cases h
  constructor
  case issued => simp [Gate.submit, ordered.issued]
  case finished => exact ordered.finished
  case tail => simp [before]
  case ticket =>
    intro call entry h
    obtain h | ⟨rfl, rfl⟩ := hcases h
    · exact ordered.ticket h
    · exact ordered.issued
  case previous =>
    intro call entry h
    obtain h | ⟨rfl, rfl⟩ := hcases h
    · exact ordered.previous h
    · exact ordered.tail
  case phase =>
    intro call entry h
    obtain h | ⟨rfl, rfl⟩ := hcases h
    · exact ordered.phase h
    · exact (Phase.reached_eq_waiting.mpr (by omega)).symm
  case submitted =>
    rw [List.length_append, List.length_singleton]
    omega
  case serial =>
    rw [List.filter_append, ordered.serial]
    exact List.append_nil _

/-- The next step of the call whose turn it is. -/
theorem Ordered.turn {call : Nat} {entry : Call} {action : Action} {gate : Gate} {phase : Phase}
    (hcall : queue.calls[call]? = some entry) (hturn : call = steps / 4) (haction : action = .turn steps)
    (hphase : phase = .reached (steps + 1 - 4 * call)) (hissued : gate.issued = queue.gate.issued)
    (hfinished : gate.finished = (steps + 2) / 4) :
    Ordered (actions ++ [action]) { queue.setPhase call phase with gate } (steps + 1) := by
  have hlength := (List.getElem?_eq_some_iff.mp hcall).1
  constructor
  case issued => simpa [hissued] using ordered.issued
  case finished => exact hfinished
  case tail => simpa using ordered.tail
  case ticket =>
    intro other changed h
    obtain ⟨rfl, entry, hentry, rfl⟩ | ⟨-, h⟩ := Queue.setPhase_cases h
    · have hticket := ordered.ticket hentry
      exact hticket
    · exact ordered.ticket h
  case previous =>
    intro other changed h
    obtain ⟨rfl, entry, hentry, rfl⟩ | ⟨-, h⟩ := Queue.setPhase_cases h
    · have hprevious := ordered.previous hentry
      exact hprevious
    · exact ordered.previous h
  case phase =>
    intro other changed h
    obtain ⟨rfl, entry, hentry, rfl⟩ | ⟨hother, h⟩ := Queue.setPhase_cases h
    · exact hphase
    · rw [ordered.phase h, Phase.reached_other (hturn ▸ hother)]
  case submitted =>
    simp only [Queue.length_setPhase]
    omega
  case serial =>
    have hlast : [action].filter (· ≠ .submit) = [.turn steps] := by simp [haction]
    rw [List.filter_append, ordered.serial, hlast, List.range_succ, List.map_append]
    rfl

/-- Every step but a submission is the next one of the calls one after another. -/
theorem Ordered.move {action : Action} {next : Queue} (h : Queue.Moves queue action next) :
    Ordered (actions ++ [action]) next (if action = .submit then steps else steps + 1) := by
  cases h with
  | submit => exact ordered.submit
  | @start call entry hcall hwaiting hprevious =>
    have hlength := (List.getElem?_eq_some_iff.mp hcall).1
    have hnext : steps = 4 * call := by
      have hwaiting := Phase.reached_eq_waiting.mp ((ordered.phase hcall).symm.trans hwaiting)
      have hprevious := (ordered.isResolved_iff hcall).mp hprevious
      omega
    have hstart : queue.gate.mayStart entry.ticket = true := by
      have hfinished : call = queue.gate.finished := by
        rw [ordered.finished]
        omega
      rw [Gate.mayStart, ordered.ticket hcall, ordered.issued, ← hfinished]
      simpa using hlength
    rw [if_pos hstart]
    refine ordered.turn hcall (by omega) ?_ ?_ rfl ?_
    · rw [hnext, Action.turn_start]
    · exact (Phase.reached_eq_running.mpr (by omega)).symm
    · rw [ordered.finished]
      omega
  | @complete call entry hcall hphase =>
    have hnext : steps = 4 * call + 1 := by
      have hrunning := Phase.reached_eq_running.mp ((ordered.phase hcall).symm.trans hphase)
      omega
    refine ordered.turn hcall (by omega) ?_ ?_ rfl ?_
    · rw [hnext, Action.turn_complete]
    · exact (Phase.reached_eq_ended.mpr (by omega)).symm
    · rw [ordered.finished]
      omega
  | @release call entry hcall hphase =>
    have hended : entry.phase = .ended := hphase.resolve_right fun hrefused =>
      Phase.reached_ne_refused ((ordered.phase hcall).symm.trans hrefused)
    have hnext : steps = 4 * call + 2 := by
      have hended := Phase.reached_eq_ended.mp ((ordered.phase hcall).symm.trans hended)
      omega
    have hlength := (List.getElem?_eq_some_iff.mp hcall).1
    have hfinished := ordered.finished
    have hissued := ordered.issued
    refine ordered.turn hcall (by omega) ?_ ?_ ?_ ?_
    · rw [hnext, Action.turn_release]
    · exact (Phase.reached_eq_released.mpr (by omega)).symm
    · rw [Gate.finish]
      split <;> rfl
    · rw [Gate.finish, if_pos (by omega)]
      simp only
      omega
  | @resolve call entry hcall hphase =>
    have hnext : steps = 4 * call + 3 := by
      have hreleased := Phase.reached_eq_released.mp ((ordered.phase hcall).symm.trans hphase)
      omega
    refine ordered.turn hcall (by omega) ?_ ?_ rfl ?_
    · rw [hnext, Action.turn_resolve]
    · exact (Phase.reached_eq_resolved.mpr (by omega)).symm
    · rw [ordered.finished]
      omega

/-- While some call has steps to take, the next one can be taken. -/
theorem Ordered.enabled (h : steps < 4 * queue.calls.length) : ∃ next, Queue.Moves queue (.turn steps) next := by
  have hlength : steps / 4 < queue.calls.length := by omega
  have hcall : queue.calls[steps / 4]? = some queue.calls[steps / 4] := List.getElem?_eq_getElem _
  have hphase := ordered.phase hcall
  obtain hsteps | hsteps | hsteps | hsteps :
      steps % 4 = 0 ∨ steps % 4 = 1 ∨ steps % 4 = 2 ∨ steps % 4 = 3 := by omega
  · rw [show Action.turn steps = .start (steps / 4) by rw [Action.turn, hsteps]; rfl]
    have hwaiting := hphase.trans (Phase.reached_eq_waiting.mpr (by omega))
    exact ⟨_, .start hcall hwaiting ((ordered.isResolved_iff hcall).mpr (by omega))⟩
  · rw [show Action.turn steps = .complete (steps / 4) by rw [Action.turn, hsteps]; rfl]
    have hrunning := hphase.trans (Phase.reached_eq_running.mpr (by omega))
    exact ⟨_, .complete hcall hrunning⟩
  · rw [show Action.turn steps = .release (steps / 4) by rw [Action.turn, hsteps]; rfl]
    have hended := hphase.trans (Phase.reached_eq_ended.mpr (by omega))
    exact ⟨_, .release hcall (.inl hended)⟩
  · rw [show Action.turn steps = .resolve (steps / 4) by rw [Action.turn, hsteps]; rfl]
    have hreleased := hphase.trans (Phase.reached_eq_released.mpr (by omega))
    exact ⟨_, .resolve hcall hreleased⟩

/-- The calls the gate counts as pending are those it has still to be told of. -/
theorem Ordered.pending : queue.gate.pending = queue.calls.countP fun entry => entry.phase.pending := by
  have hphases : queue.calls.map (·.phase) =
      (List.range queue.calls.length).map fun call => Phase.reached (steps - 4 * call) := by
    refine List.ext_getElem (by simp) fun call hcall _ => ?_
    rw [List.length_map] at hcall
    simpa using ordered.phase (List.getElem?_eq_getElem hcall)
  have hcount : ∀ calls : Nat, (List.range calls).countP (fun call => decide (steps - 4 * call ≤ 2)) =
      calls - (steps + 1) / 4 := by
    intro calls
    induction calls with
    | zero => simp
    | succ calls ih =>
      rw [List.range_succ, List.countP_append, ih, List.countP_singleton]
      split <;> simp_all <;> omega
  calc queue.gate.pending
    _ = queue.calls.length - (steps + 1) / 4 := by rw [Gate.pending, ordered.issued, ordered.finished]
    _ = (queue.calls.map (·.phase)).countP Phase.pending := by
      rw [hphases, List.countP_map, ← hcount]
      refine List.countP_congr fun call _ => ?_
      rw [Function.comp_apply, Phase.reached_pending]
    _ = _ := List.countP_map

/-- A call is between its start and the promise of its end. -/
def Call.active (entry : Call) : Prop :=
  entry.phase = .running ∨ entry.phase = .ended ∨ entry.phase = .released

theorem Ordered.active {call : Nat} {entry : Call} (hcall : queue.calls[call]? = some entry)
    (hactive : entry.active) : call = steps / 4 := by
  rw [Call.active, ordered.phase hcall, Phase.reached_eq_running, Phase.reached_eq_ended,
    Phase.reached_eq_released] at hactive
  omega

end Step

/-! ### Every interleaving -/

theorem ordered_after (actions : List Action) :
    ∃ steps, Ordered (Queue.performed actions) (Queue.after actions) steps :=
  Machine.attemptAll_invariant (fun done queue => ∃ steps, Ordered done queue steps)
    (fun _ _ _ _ ⟨_, ordered⟩ h => ⟨_, ordered.move (Queue.step_moves h)⟩) ⟨0, ordered_initial⟩ actions

/-- A submission always succeeds: the call it appends waits for the call before it, and its
ticket is the next one. -/
theorem after_submit (actions : List Action) :
    Queue.performed (actions ++ [.submit]) = Queue.performed actions ++ [.submit] ∧
      (Queue.after (actions ++ [.submit])).calls = (Queue.after actions).calls ++
        [{ previous := before (Queue.after actions).calls.length, ticket := (Queue.after actions).calls.length }] := by
  obtain ⟨steps, ordered⟩ := ordered_after actions
  constructor
  · exact Machine.effective_concat rfl
  · rw [Queue.after_append, ← ordered.tail, ← ordered.issued]
    rfl

/-- **Operations run one at a time, in the order of their calls.** After every
interleaving of calls and their steps, the steps taken are those of calls that run
one after another, the gate refused none and counts as pending those whose operation has
not ended, with the one, if there is one, that has ended and has still to tell the gate. -/
theorem serialized_in_order (actions : List Action) :
    (∃ steps, (Queue.performed actions).filter (· ≠ .submit) = (List.range steps).map Action.turn) ∧
      (∀ entry ∈ (Queue.after actions).calls, entry.phase ≠ .refused) ∧
      (∀ a b : Nat, ∀ x y : Call, (Queue.after actions).calls[a]? = some x →
        (Queue.after actions).calls[b]? = some y → x.active → y.active → a = b) ∧
      (Queue.after actions).gate.pending = (Queue.after actions).calls.countP fun entry => entry.phase.pending := by
  obtain ⟨steps, ordered⟩ := ordered_after actions
  refine ⟨⟨steps, ordered.serial⟩, ?_, ?_, ordered.pending⟩
  · intro entry hentry
    obtain ⟨call, hcall⟩ := List.getElem?_of_mem hentry
    rw [ordered.phase hcall]
    exact Phase.reached_ne_refused
  · intro a b x y ha hb hx hy
    rw [ordered.active ha hx, ordered.active hb hy]

/-! ### No call is stuck -/

/-- Taking the remaining steps of all calls, one call after another. -/
theorem Ordered.settle {actions : List Action} {queue : Queue} {steps : Nat} (ordered : Ordered actions queue steps)
    {more : Nat} (hmore : steps + more = 4 * queue.calls.length) :
    ∃ done, Ordered done (Machine.attemptAll Queue.step queue ((List.range' steps more).map .turn)) (steps + more) ∧
      (Machine.attemptAll Queue.step queue ((List.range' steps more).map .turn)).calls.length =
        queue.calls.length := by
  induction more generalizing actions queue steps with
  | zero => exact ⟨actions, ordered, rfl⟩
  | succ more ih =>
    obtain ⟨next, hmoves⟩ := ordered.enabled (by omega)
    have hnext := ordered.move hmoves
    rw [if_neg (Action.turn_ne_submit steps)] at hnext
    have hlength := hmoves.length (Action.turn_ne_submit steps)
    obtain ⟨done, hdone, hkept⟩ := ih hnext (by omega)
    rw [List.range'_succ, List.map_cons, Machine.attemptAll_cons, Machine.attempt, hmoves.step, Option.getD_some,
      ← hlength]
    refine ⟨done, ?_, hkept⟩
    rwa [Nat.add_assoc, Nat.add_comm 1 more] at hdone

/-- **No call is stuck.** After every interleaving, some further steps of the calls
there are, without another submission, resolve all of them. -/
theorem settled (actions : List Action) : ∃ more : List Action, (∀ action ∈ more, action ≠ .submit) ∧
    (Queue.after (actions ++ more)).calls.length = (Queue.after actions).calls.length ∧
    ∀ entry ∈ (Queue.after (actions ++ more)).calls, entry.phase = .resolved := by
  obtain ⟨steps, ordered⟩ := ordered_after actions
  obtain ⟨more, hmore⟩ := Nat.exists_eq_add_of_le ordered.submitted
  obtain ⟨done, hdone, hlength⟩ := ordered.settle hmore.symm
  refine ⟨(List.range' steps more).map .turn, ?_, ?_⟩
  · intro action haction
    obtain ⟨index, -, rfl⟩ := List.mem_map.mp haction
    exact Action.turn_ne_submit index
  rw [Queue.after_append]
  refine ⟨hlength, fun entry hentry => ?_⟩
  obtain ⟨call, hcall⟩ := List.getElem?_of_mem hentry
  have hcalls := (List.getElem?_eq_some_iff.mp hcall).1
  rw [hlength] at hcalls
  rw [hdone.phase hcall, ← hmore]
  exact Phase.reached_eq_resolved.mpr (by omega)

end ClassicS7.Correlation
