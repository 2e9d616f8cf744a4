import ClassicS7.Client.WriteProgress

/-! What the history models report.

A history is reported as one object per event, the result and a snapshot of the
state after it. The names and renderings of this module are the ones both history
models use. -/
namespace ClassicS7

/-- JSON values, with the fields of an object in the order they are written. -/
inductive Json where
  | null
  | bool (value : Bool)
  | num (value : Nat)
  | str (value : String)
  | arr (elements : List Json)
  | obj (fields : List (String × Json))

namespace Json

def optional : Option Nat → Json
  | none => .null
  | some value => .num value

end Json

namespace Histories

def kindName : ClientErrorKind → String
  | .invalidInput => "invalid-input"
  | .protocol => "protocol"
  | .plcRejected => "plc-rejected"
  | .timeout => "timeout"
  | .disconnected => "disconnected"
  | .lifecycle => "lifecycle"
  | .transport => "transport"
  | .other => "other"

def stateName : Lifecycle.State → String
  | .connected => "connected"
  | .disconnected => "disconnected"
  | .closed => "closed"

def octets (data : Bytes) : Json := .arr (data.map fun byte => .num byte.toNat)

def rangeJson (range : S7.MemoryRange) : Json := .obj [
  ("db_number", .num range.dbNumber.toNat), ("start", .num range.start), ("count", .num range.count)]

def locationJson (location : WriteLocation) : Json := .obj [
  ("range", rangeJson location.range), ("item_index", .optional location.itemIndex),
  ("chunk_byte_offset", .num location.chunkByteOffset)]

def outcomeName : WriteAttemptOutcome → String
  | .pending => "pending"
  | .replayedUnknown => "replayed-unknown"
  | .globalRejected => "global-rejected"
  | .itemResult .success => "success"
  | .itemResult (.failure code) => s!"failure:{code.toNat}"

def attemptsJson (progress : WriteProgress.State) : Json :=
  .arr (progress.trace.toList.map fun attempt => .obj [
    ("location", locationJson attempt.location), ("outcome", .str (outcomeName attempt.outcome))])

def accepted : Json := .obj [("status", .str "accept")]

def rejected (category : String) : Json := .obj [("status", .str "reject"), ("category", .str category)]

theorem rejected_inj {category category' : String} :
    rejected category = rejected category' ↔ category = category' := by
  simp [rejected]

theorem rejected_ne_accepted (category : String) : rejected category ≠ accepted := by
  simp [accepted, rejected]

def isAccepted : Json → Bool
  | .obj [("status", .str status)] => status == "accept"
  | _ => false

@[simp] theorem isAccepted_accepted : isAccepted accepted = true := rfl

@[simp] theorem isAccepted_rejected (category : String) : isAccepted (rejected category) = false := rfl

/-- The payload a modelled write sends, from its range alone. -/
def payload (location : WriteLocation) : Bytes :=
  (List.range location.range.count).map fun index =>
    UInt8.ofNat (location.range.start * 7 + index * 29)

/-- One event's report: its result, and the state after it. -/
def report (result snapshot : Json) : Json := .obj [("result", result), ("snapshot", snapshot)]

theorem report_inj {result result' snapshot : Json} :
    report result snapshot = report result' snapshot ↔ result = result' := by
  simp [report]

end Histories
end ClassicS7
