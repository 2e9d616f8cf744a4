import ClassicS7.Histories.Report

/-! Values and packets of the conformance oracles.

The oracles are a second implementation of the codecs, over checked integers and
byte strings. A check returns what it checked: `Bounded` integers and the
structures built from them carry their ranges, so what is past the checks of an
event needs none again. A failed check ends the run with the text of its error. -/
namespace ClassicS7.Oracle

/-- An integer that was checked against its maximum. -/
abbrev Bounded (maximum : Nat) := { value : Nat // value ≤ maximum }

def integer (value : Nat) (maximum : Nat) : Except String (Bounded maximum) :=
  if h : value ≤ maximum then .ok ⟨value, h⟩ else .error "invalid integer range"

/-- A byte string that was checked against the greatest length. -/
abbrev Octets := { data : Bytes // data.length ≤ 65535 }

def octet (byte : Nat) : Except String UInt8 := do
  let byte ← integer byte 255
  return UInt8.ofNat byte.val

/-- A list of numbers as bytes, if each is one. -/
def octets (value : List Nat) : Except String Octets :=
  if hlength : value.length ≤ 65535 then
    match hbytes : value.mapM octet with
    | .ok data => .ok ⟨data, by rwa [Checks.length_mapM hbytes]⟩
    | .error error => .error error
  else .error "invalid octet array"

/-! ### Ranges and locations -/

/-- A range as an event spells it. -/
structure RangeValue where
  dbNumber : Nat
  start : Nat
  count : Nat
  deriving Repr, DecidableEq

/-- A location as an event spells it. -/
structure LocationValue where
  range : RangeValue
  itemIndex : Option Nat := none
  chunkByteOffset : Nat := 0
  deriving Repr, DecidableEq

/-- A checked range; the oracles know data blocks only. -/
structure MemoryRange where
  dbNumber : Bounded 65535
  start : Bounded 0x1fffff
  count : Bounded 65535
  deriving Repr, DecidableEq

structure Location where
  range : MemoryRange
  itemIndex : Option (Bounded 0xffffffff)
  chunkByteOffset : Bounded 0xffffffff
  deriving Repr, DecidableEq

def memoryRange (value : RangeValue) : Except String MemoryRange := do
  let dbNumber ← integer value.dbNumber 65535
  let start ← integer value.start 0x1fffff
  let count ← integer value.count 65535
  return { dbNumber, start, count }

def location (value : LocationValue) : Except String Location := do
  let range ← memoryRange value.range
  let itemIndex ← match value.itemIndex with
    | some index => some <$> integer index 0xffffffff
    | none => pure none
  let chunkByteOffset ← integer value.chunkByteOffset 0xffffffff
  return { range, itemIndex, chunkByteOffset }

/-! ### Packets -/

def address (value : MemoryRange) : Bytes :=
  [0x12, 0x0a, 0x10, 0x02] ++ pack16 value.count ++ pack16 value.dbNumber ++ pack8 0x84 ++
    pack24 (value.start * 8)

/-- A packet of a kind; the callers keep the sections under 65536 bytes. -/
def packet (kind reference : Nat) (parameters data : Bytes) : Bytes :=
  pack8 0x32 ++ pack8 kind ++ pack16 0 ++ pack16 reference ++ pack16 parameters.length ++
    pack16 data.length ++ (if kind = 3 then [0, 0] else []) ++ parameters ++ data

def payload (value : MemoryRange) : Bytes :=
  (List.range value.count).map fun index => UInt8.ofNat ((value.start * 7 + index * 29) % 256)

/-- The data section of a write, item by item from an index on. -/
def writeData (width : Nat) : Nat → List MemoryRange → Bytes
  | _, [] => []
  | index, item :: rest =>
    let content := payload item
    [0, 4] ++ pack16 (content.length * 8) ++ content ++
      (if index + 1 < width ∧ content.length % 2 ≠ 0 then [0] else []) ++ writeData width (index + 1) rest

/-- An item for which there is no request. -/
def MemoryRange.refused (write : Bool) (item : MemoryRange) : Prop :=
  item.count.val = 0 ∨ item.start.val + item.count.val > 0x200000 ∨
    (write = true ∧ item.count.val * 8 > 65535)

instance (write : Bool) (item : MemoryRange) : Decidable (item.refused write) :=
  inferInstanceAs (Decidable (_ ∨ _))

def request (reference : Bounded 65535) (ranges : List MemoryRange) (write : Bool) : Option Bytes :=
  if ranges.isEmpty || ranges.length > 20 then none
  else if ranges.any fun item => item.refused write then none
  else
    let parameters := pack8 (if write then 5 else 4) ++ pack8 ranges.length ++ ranges.flatMap address
    let data := if write then writeData ranges.length 0 ranges else []
    if data.length > 65535 then none
    else some (packet 1 reference parameters data)

/-- The bytes an event names are the ones the oracle encodes. -/
def wire (value : Option (List Nat)) (expected : Option Bytes) : Except String Unit :=
  match expected, value with
  | none, none => .ok ()
  | none, some _ => .error "invalid request unexpectedly has wire bytes"
  | some _, none => .error "wire bytes differ from independent encoder"
  | some expected, some value => do
    let value ← octets value
    if value.val != expected then throw "wire bytes differ from independent encoder"

/-! ### Names -/

/-- The kinds that an event may name. -/
def kinds : List (String × ClientErrorKind) := [
  ("invalid-input", .invalidInput), ("protocol", .protocol), ("plc-rejected", .plcRejected), ("timeout", .timeout),
  ("disconnected", .disconnected), ("lifecycle", .lifecycle), ("transport", .transport), ("other", .other)]

def errorKind (name : String) : Except String ClientErrorKind :=
  match kinds.find? fun entry => entry.1 == name with
  | some entry => .ok entry.2
  | none => .error "unknown error kind"

def lifecycleText : Lifecycle.State → String
  | .connected => "connected"
  | .disconnected => "disconnected"
  | .closed => "closed"

/-! ### Retries -/

/-- A failure after which a request may be sent again. -/
def transient (kind : ClientErrorKind) : Bool :=
  [ClientErrorKind.timeout, .disconnected, .transport].contains kind

/-! ### Results -/

def accepted (values : List (String × Json)) : Json := .obj (("status", .str "accept") :: values)

def rejected (category : String) : Json := .obj [("status", .str "reject"), ("category", .str category)]

/-! ### Write attempts

Both history oracles keep the attempts with a known outcome, and the locations of
the one that is out. -/

inductive Outcome where
  | pending
  | replayedUnknown
  | globalRejected
  | success
  | failure (code : UInt8)
  deriving Repr, DecidableEq

def Outcome.text : Outcome → String
  | .pending => "pending"
  | .replayedUnknown => "replayed-unknown"
  | .globalRejected => "global-rejected"
  | .success => "success"
  | .failure code => s!"failure:{code.toNat}"

/-- The outcome a status byte of the PLC stands for. -/
def Outcome.ofCode (code : UInt8) : Outcome := if code = 255 then .success else .failure code

structure Attempt where
  location : Location
  outcome : Outcome
  deriving Repr, DecidableEq

structure Progress where
  history : List Attempt := []
  pending : List Location := []
  deriving Repr, DecidableEq

/-- The pending locations get their outcomes, one each. -/
def Progress.finish (progress : Progress) (outcomes : List Outcome) : Except String Progress :=
  if progress.pending.length = outcomes.length then
    .ok { history := progress.history ++ (progress.pending.zip outcomes).map fun (item, result) =>
            { location := item, outcome := result } }
  else .error "zip() arguments have different lengths"

/-- The pending locations all get one outcome. -/
def Progress.finishAll (progress : Progress) (outcome : Outcome) : Progress :=
  { history := progress.history ++ progress.pending.map fun item => { location := item, outcome } }

def Progress.attempts (progress : Progress) : List Attempt :=
  progress.history ++ progress.pending.map fun item => { location := item, outcome := .pending }

def MemoryRange.json (range : MemoryRange) : Json := .obj [
  ("db_number", .num range.dbNumber), ("start", .num range.start), ("count", .num range.count)]

def Location.json (location : Location) : Json := .obj [
  ("range", location.range.json), ("item_index", .optional (location.itemIndex.map Subtype.val)),
  ("chunk_byte_offset", .num location.chunkByteOffset)]

def Progress.json (progress : Progress) : Json :=
  .arr (progress.attempts.map fun attempt => .obj [
    ("location", attempt.location.json), ("outcome", .str attempt.outcome.text)])

end ClassicS7.Oracle
