import ClassicS7.Histories.Report

/-! Sessions: one configured request, its retries and reconnects.

The state is a lifecycle, a retry allowance, the reference of the active request,
a phase, and the write progress. `step` answers one event; `runEvents` reports a
history. -/
namespace ClassicS7.Sessions
open Histories

structure Config where
  write : Bool
  allow : Bool
  budget : Nat
  reference : UInt16
  locations : Array WriteLocation
  deriving Repr, DecidableEq

inductive Event where
  | begin | send | reconnectSetup | reconnected | disconnect
  | failure (kind : ClientErrorKind)
  | response (pdu : Bytes)
  deriving Repr, DecidableEq

/-- Typed phases of this single-wire model. -/
inductive Phase where
  | idle | ready | awaiting | reconnectCotp | reconnectSetup | failed | completed | closed
  deriving Repr, DecidableEq

def Phase.name : Phase → String
  | .idle => "idle" | .ready => "ready" | .awaiting => "awaiting"
  | .reconnectCotp => "reconnect-cotp" | .reconnectSetup => "reconnect-setup"
  | .failed => "failed" | .completed => "completed" | .closed => "closed"

def Phase.acceptsFailure : Phase → Bool
  | .awaiting | .reconnectCotp | .reconnectSetup => true
  | _ => false

structure State where
  lifecycle : Lifecycle.State := .connected
  remaining : Nat := 0
  active : Option UInt16 := none
  phase : Phase := .idle
  sends : Nat := 0
  progress : WriteProgress.State := {}
  deriving Repr, DecidableEq

def snapshot (state : State) : Json := .obj [
  ("lifecycle", .str (stateName state.lifecycle)),
  ("remaining", .num state.remaining), ("active_reference", .optional (state.active.map UInt16.toNat)),
  ("phase", .str state.phase.name), ("sends", .num state.sends),
  ("attempts", attemptsJson state.progress)]

def request (config : Config) : Except S7.EncodeError Bytes :=
  if config.write then S7.encodeAreaWriteMany config.reference
    (config.locations.map fun location => { range := location.range, payload := payload location })
  else S7.encodeAreaReadMany config.reference (config.locations.map (·.range))

def failure (config : Config) (state : State) (kind : ClientErrorKind) : State × Json :=
  match retryBudgetAfter state.remaining (state.lifecycle == .closed) kind
      (if config.write then .potentiallyMutating else .readOnly) config.allow with
  | some remaining =>
    ({ state with
       remaining, lifecycle := .disconnected, phase := .reconnectCotp,
       progress := if config.write && state.phase == .awaiting then state.progress.replay else state.progress },
     .obj [("status", .str "accept"), ("retry", .bool true)])
  | none =>
    ({ state with
       lifecycle := if state.lifecycle == .closed then .closed else .disconnected,
       active := none, phase := if state.lifecycle == .closed then .closed else .failed,
       progress := if config.write && kind == .plcRejected && state.phase == .awaiting
         then state.progress.globalReject else state.progress },
     .obj [("status", .str "accept"), ("retry", .bool false)])

def sentProgress (config : Config) (state : State) : Except DecodeError WriteProgress.State :=
  if config.write then state.progress.sent config.locations else .ok state.progress

def acknowledgedProgress (config : Config) (state : State) (results : Array S7.WriteItemResult) :
    Except DecodeError WriteProgress.State :=
  if config.write then state.progress.acknowledge results else .ok state.progress

def decodeResults (config : Config) (packet : Bytes) :
    Except DecodeError (Array S7.WriteItemResult) := do
  let response ← S7.decodeResponse packet
  if config.write then S7.decodeAreaWriteMany config.reference config.locations.size response
  else do
    discard <| S7.decodeAreaReadMany config.reference (config.locations.map (·.range)) response
    return #[]

def step (config : Config) (state : State) (event : Event) : State × Json := Id.run do
  match event with
  | .begin =>
      if state.lifecycle != .connected then return (state, rejected "not-connected")
      if state.active.isSome then return (state, rejected "already-active")
      let .ok _ := request config | return (state, rejected "request-codec")
      return ({ state with
        remaining := config.budget, active := some config.reference,
        phase := .ready, sends := 0, progress := {} }, accepted)
  | .send =>
      if state.lifecycle != .connected || state.active.isNone || state.phase != .ready then
        return (state, rejected "send-phase")
      let .ok progress := sentProgress config state
        | return (state, rejected "write-progress")
      return ({ state with sends := state.sends + 1, phase := .awaiting, progress }, accepted)
  | .failure kind =>
      if state.active.isNone || !state.phase.acceptsFailure then
        return (state, rejected "failure-phase")
      return failure config state kind
  | .reconnectSetup =>
      if state.active.isNone || state.phase != .reconnectCotp then
        return (state, rejected "reconnect-phase")
      return ({ state with phase := .reconnectSetup }, accepted)
  | .reconnected =>
      if state.active.isNone || state.phase != .reconnectSetup || state.lifecycle != .disconnected then
        return (state, rejected "reconnect-phase")
      return ({ state with lifecycle := .connected, phase := .ready }, accepted)
  | .response packet =>
      if state.lifecycle != .connected || state.active.isNone || state.phase != .awaiting then
        return (state, rejected "response-phase")
      match decodeResults config packet with
      | .error error =>
        let kind := match error with | .remoteFailure .. => ClientErrorKind.plcRejected | _ => .protocol
        let (next, _) := failure config state kind
        return (next, rejected "response-codec")
      | .ok results =>
        let .ok progress := acknowledgedProgress config state results
          | return (state, rejected "write-progress")
        return ({ state with active := none, phase := .completed, progress }, accepted)
  | .disconnect =>
      return ({ state with lifecycle := .closed, active := none, phase := .closed }, accepted)

def runEvents (config : Config) (events : Array Event) (initial : State := {}) : Array Json := Id.run do
  let mut state := initial
  let mut trace := #[]
  for event in events do
    let (next, result) := step config state event
    state := next
    trace := trace.push (report result (snapshot state))
  return trace

/-- The report of one event, as the machine's answer. -/
def answer (config : Config) (state : State) (event : Event) : State × Json :=
  ((step config state event).1, report (step config state event).2 (snapshot (step config state event).1))

/-- A reported history is the answers of the machine, in order. -/
theorem runEvents_eq_outputs (config : Config) (events : Array Event) (initial : State) :
    (runEvents config events initial).toList = Machine.outputs (answer config) initial events.toList :=
  Machine.toList_forIn_push (answer config) initial events

end ClassicS7.Sessions
