/-! Client policy: the lifecycle, error kinds and retry decisions.

Three small decisions that live exchanges and their models share: which
lifecycle transitions are legal, which kind of failure an error is, and whether
a failed request may be sent again. -/
namespace ClassicS7

/-! ### Lifecycle -/

namespace Lifecycle

inductive State where
  | connected
  | disconnected
  | closed
  deriving Repr, DecidableEq

inductive Event where
  | transportClosed
  | reconnected
  | disconnect
  deriving Repr, DecidableEq

/-- The complete legal client lifecycle transition relation. -/
def transition : State → Event → Option State
  | .connected, .transportClosed => some .disconnected
  | .disconnected, .transportClosed => some .disconnected
  | .closed, .transportClosed => some .closed
  | .disconnected, .reconnected => some .connected
  | .connected, .disconnect => some .closed
  | .disconnected, .disconnect => some .closed
  | .closed, .disconnect => some .closed
  | _, _ => none

/-- No accepted event moves a closed client back to a live state. -/
theorem closed_is_terminal {event : Event} {next : State}
    (h : transition .closed event = some next) : next = .closed := by
  cases event with
  | transportClosed | disconnect => exact (Option.some.inj h).symm
  | reconnected => cases h

end Lifecycle

/-! ### Error kinds -/

/-- Stable categories for errors raised by the stateful client and transport. -/
inductive ClientErrorKind where
  | invalidInput
  | protocol
  | plcRejected
  | timeout
  | disconnected
  | lifecycle
  | transport
  | other
  deriving Repr, DecidableEq

/-- The errors of the runtime, which the client raises and the transport passes on. -/
inductive RuntimeError where
  | alreadyExists (filename : Option String) (osCode : UInt32) (details : String)
  | otherError (osCode : UInt32) (details : String)
  | resourceBusy (osCode : UInt32) (details : String)
  | resourceVanished (osCode : UInt32) (details : String)
  | unsupportedOperation (osCode : UInt32) (details : String)
  | hardwareFault (osCode : UInt32) (details : String)
  | unsatisfiedConstraints (osCode : UInt32) (details : String)
  | illegalOperation (osCode : UInt32) (details : String)
  | protocolError (osCode : UInt32) (details : String)
  | timeExpired (osCode : UInt32) (details : String)
  | interrupted (filename : String) (osCode : UInt32) (details : String)
  | noFileOrDirectory (filename : String) (osCode : UInt32) (details : String)
  | invalidArgument (filename : Option String) (osCode : UInt32) (details : String)
  | permissionDenied (filename : Option String) (osCode : UInt32) (details : String)
  | resourceExhausted (filename : Option String) (osCode : UInt32) (details : String)
  | inappropriateType (filename : Option String) (osCode : UInt32) (details : String)
  | noSuchThing (filename : Option String) (osCode : UInt32) (details : String)
  | unexpectedEof
  | userError (msg : String)
  deriving Repr, DecidableEq

def plcRejectedCode : UInt32 := 0xffffffff

/-- Classify both the client's errors and native socket errors without inspecting
rendered error messages. -/
def classifyClientError : RuntimeError → ClientErrorKind
  | .invalidArgument .. => .invalidInput
  | .protocolError code .. => if code == plcRejectedCode then .plcRejected else .protocol
  | .timeExpired .. => .timeout
  | .resourceVanished .. => .disconnected
  | .illegalOperation .. => .lifecycle
  | .resourceBusy .. | .resourceExhausted .. | .inappropriateType ..
  | .unsupportedOperation .. | .hardwareFault .. | .unsatisfiedConstraints ..
  | .interrupted .. | .noFileOrDirectory .. | .permissionDenied ..
  | .alreadyExists .. | .noSuchThing .. | .otherError .. => .transport
  | .unexpectedEof => .disconnected
  | .userError .. => .other

/-- Transport failures eligible for retry consideration. -/
def isRetryableClientErrorKind (kind : ClientErrorKind) : Bool :=
  match kind with
  | .timeout | .disconnected | .transport => true
  | _ => false

namespace ClientError

def invalidInput (details : String) : RuntimeError :=
  .invalidArgument none 0 details

def protocol (details : String) : RuntimeError :=
  .protocolError 0 details

def plcRejected (details : String) : RuntimeError :=
  .protocolError plcRejectedCode details

def timeout (details : String) : RuntimeError :=
  .timeExpired 0 details

def disconnected (details : String) : RuntimeError :=
  .resourceVanished 0 details

def lifecycle (details : String) : RuntimeError :=
  .illegalOperation 0 details

end ClientError

/-! ### Retries -/

/-- Replay safety belongs to the operation, not to the transport error. -/
inductive RetrySafety where
  | readOnly
  | potentiallyMutating
  deriving Repr, DecidableEq

def retryPermitted (safety : RetrySafety) (allowPotentiallyMutating : Bool) : Bool :=
  safety == .readOnly || allowPotentiallyMutating

/-- One retry decision. A successful decision consumes exactly one allowance. -/
def retryBudgetAfter (remaining : Nat) (closed : Bool) (kind : ClientErrorKind)
    (safety : RetrySafety) (allowPotentiallyMutating : Bool) : Option Nat :=
  if closed || remaining == 0 || !isRetryableClientErrorKind kind ||
      !retryPermitted safety allowPotentiallyMutating then none
  else some (remaining - 1)

/-- What a retry decision looks at. -/
def retryEligible (remaining : Nat) (closed : Bool) (kind : ClientErrorKind) (safety : RetrySafety)
    (allow : Bool) : Prop :=
  closed = false ∧ 0 < remaining ∧ isRetryableClientErrorKind kind = true ∧
    retryPermitted safety allow = true

instance (remaining : Nat) (closed : Bool) (kind : ClientErrorKind) (safety : RetrySafety) (allow : Bool) :
    Decidable (retryEligible remaining closed kind safety allow) :=
  inferInstanceAs (Decidable (_ ∧ _))

/-- A decision is made by its eligibility, and spends one allowance. -/
theorem retryBudgetAfter_eq (remaining : Nat) (closed : Bool) (kind : ClientErrorKind)
    (safety : RetrySafety) (allow : Bool) :
    retryBudgetAfter remaining closed kind safety allow =
      if retryEligible remaining closed kind safety allow then some (remaining - 1) else none := by
  have hguard : (closed || remaining == 0 || !isRetryableClientErrorKind kind ||
      !retryPermitted safety allow) = true ↔ ¬ retryEligible remaining closed kind safety allow := by
    simp only [retryEligible, Nat.pos_iff_ne_zero]
    cases closed <;> cases isRetryableClientErrorKind kind <;> cases retryPermitted safety allow <;> simp
  unfold retryBudgetAfter
  by_cases heligible : retryEligible remaining closed kind safety allow
  · rw [if_pos heligible, if_neg fun h => hguard.mp h heligible]
  · rw [if_neg heligible, if_pos (hguard.mpr heligible)]

end ClassicS7
