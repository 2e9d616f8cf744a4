import ClassicS7.Histories.Report

/-! Conversations: lifecycle, retry, write and read events in any order.

Wire exchanges use the classic S7 codecs: a send and a read must encode, an
acknowledgement and a read response are encoded and decoded again under what the
state expects. -/
namespace ClassicS7.Conversations
open Histories

inductive Event where
  | lifecycle (event : Lifecycle.Event)
  | retry (safety : RetrySafety) (allow : Bool) (kind : ClientErrorKind) (remaining : Nat)
  | send (reference : UInt16) (locations : Array WriteLocation)
  | acknowledge (reference : UInt16) (count : Nat) (codes : Array UInt8)
  | read (reference : UInt16) (range : S7.MemoryRange) (payload : Bytes)
  deriving Repr, DecidableEq

structure State where
  lifecycle : Lifecycle.State := .connected
  progress : WriteProgress.State := {}
  pendingReference : Option UInt16 := none
  deriving Repr, DecidableEq

def errorOfKind : ClientErrorKind → RuntimeError
  | .invalidInput => ClientError.invalidInput "corpus"
  | .protocol => ClientError.protocol "corpus"
  | .plcRejected => ClientError.plcRejected "corpus"
  | .timeout => ClientError.timeout "corpus"
  | .disconnected => ClientError.disconnected "corpus"
  | .lifecycle => ClientError.lifecycle "corpus"
  | .transport => .otherError 0 "corpus"
  | .other => .userError "corpus"

/-- Every kind is the kind of the error that stands for it. -/
theorem classify_errorOfKind (kind : ClientErrorKind) : classifyClientError (errorOfKind kind) = kind := by
  cases kind <;> rfl

def snapshot (state : State) : Json := .obj [
  ("lifecycle", .str (stateName state.lifecycle)), ("attempts", attemptsJson state.progress)]

def request (reference : UInt16) (locations : Array WriteLocation) : Except S7.EncodeError Bytes :=
  S7.encodeAreaWriteMany reference (locations.map fun location =>
    { range := location.range, payload := payload location })

def acknowledgement (reference : UInt16) (count : Nat) (codes : Array UInt8) :
    Except S7.EncodeError Bytes :=
  S7.encodeAckData reference [5, UInt8.ofNat count] codes.toList

def readResponse (reference : UInt16) (data : Bytes) : Except S7.EncodeError Bytes :=
  S7.encodeAckData reference [4, 1] ([255, 4] ++ uint16BE (UInt16.ofNat (data.length * 8)) ++ data)

def step (state : State) (event : Event) : State × Json := Id.run do
  match event with
  | .lifecycle event =>
      match Lifecycle.transition state.lifecycle event with
      | some next => return ({ state with lifecycle := next }, accepted)
      | none => return (state, rejected "lifecycle-transition")
  | .retry safety allow kind remaining =>
      let permitted := (retryBudgetAfter remaining (state.lifecycle == .closed)
        (classifyClientError (errorOfKind kind)) safety allow).isSome
      let next := if permitted && safety == .potentiallyMutating then
        { state with progress := state.progress.replay, pendingReference := none } else state
      return (next, .obj [("status", .str "accept"), ("permitted", .bool permitted)])
  | .send reference locations =>
      if state.lifecycle != .connected then return (state, rejected "not-connected")
      let .ok _ := request reference locations | return (state, rejected "request-codec")
      match state.progress.sent locations with
      | .ok next => return ({ state with progress := next, pendingReference := some reference }, accepted)
      | .error _ => return (state, rejected "write-progress")
  | .acknowledge reference count codes =>
      if state.lifecycle != .connected then return (state, rejected "not-connected")
      let decoded : Except DecodeError (Array S7.WriteItemResult) := do
        let .ok packet := acknowledgement reference count codes
          | throw (.invalidField 0 "corpus ACK encoding")
        let response ← S7.decodeResponse packet
        S7.decodeAreaWriteMany (state.pendingReference.getD reference) state.progress.pending.size response
      let .ok results := decoded | return (state, rejected "response-codec")
      match state.progress.acknowledge results with
      | .ok next => return ({ state with progress := next, pendingReference := none }, accepted)
      | .error _ => return (state, rejected "write-progress")
  | .read reference range data =>
      if state.lifecycle != .connected then return (state, rejected "not-connected")
      if !state.progress.pending.isEmpty then return (state, rejected "write-pending")
      let .ok _ := S7.encodeAreaReadMany reference #[range]
        | return (state, rejected "request-codec")
      let decoded : Except DecodeError (Array S7.ReadItemResult) := do
        let .ok packet := readResponse reference data
          | throw (.invalidField 0 "corpus read encoding")
        let response ← S7.decodeResponse packet
        S7.decodeAreaReadMany reference #[range] response
      match decoded with
      | .ok _ => return (state, .obj [("status", .str "accept"), ("payload", octets data)])
      | .error _ => return (state, rejected "response-codec")

/-- The reports of a history, folding `step` over its events. -/
def run (events : Array Event) : Array Json := Id.run do
  let mut state : State := {}
  let mut trace := #[]
  for event in events do
    let (next, result) := step state event
    state := next
    trace := trace.push (report result (snapshot state))
  return trace

/-- The report of one event, as the machine's answer. -/
def answer (state : State) (event : Event) : State × Json :=
  ((step state event).1, report (step state event).2 (snapshot (step state event).1))

/-- A reported history is the answers of the machine, in order. -/
theorem run_eq_outputs (events : Array Event) :
    (run events).toList = Machine.outputs answer {} events.toList :=
  Machine.toList_forIn_push answer {} events

end ClassicS7.Conversations
