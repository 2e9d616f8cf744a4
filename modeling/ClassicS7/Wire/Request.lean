import ClassicS7.Wire.Cursor

/-! Requests: memory addresses, and the job packets that read and write ranges.

A range is validated before its count and address are cut to their fixed-width
wire fields. A batch is one job: the addresses of its items in the parameters,
and for a write the item payloads, padded to even length between items, in the
data. -/
namespace ClassicS7.S7

def protocolId : UInt8 := 0x32
def jobType : UInt8 := 0x01
def ackType : UInt8 := 0x02
def ackDataType : UInt8 := 0x03
def readFunction : UInt8 := 0x04
def writeFunction : UInt8 := 0x05
def byteWordLength : UInt8 := 0x02
def counterWordLength : UInt8 := 0x1c
def timerWordLength : UInt8 := 0x1d
def byteTransportSize : UInt8 := 0x04
def octetTransportSize : UInt8 := 0x09
def jobHeaderSize : Nat := 10
def responseHeaderSize : Nat := 12
def maxSectionSize : Nat := 65535
def maxItemCount : Nat := 20

inductive EncodeError where
  | parametersTooLarge (size maximum : Nat)
  | dataTooLarge (size maximum : Nat)
  | invalidSize (size : Nat)
  | invalidPayloadSize (actual expected : Nat)
  | invalidDbNumber (dbNumber : UInt16)
  | misalignedAddress (start alignment : Nat)
  | addressTooLarge (start : Nat)
  /-- A transfer of counters or timers that needs more than one request. -/
  | counterTimerSpansRequests (count maximum : Nat)
  deriving Repr, DecidableEq

/-! ### Memory ranges -/

inductive Area where
  | processInputs
  | processOutputs
  | markers
  | dataBlocks
  | counters
  | timers
  deriving Repr, DecidableEq

def Area.code : Area → UInt8
  | .processInputs => 0x81
  | .processOutputs => 0x82
  | .markers => 0x83
  | .dataBlocks => 0x84
  | .counters => 0x1c
  | .timers => 0x1d

def Area.wordLength : Area → UInt8
  | .counters => counterWordLength
  | .timers => timerWordLength
  | _ => byteWordLength

def Area.elementSize : Area → Nat
  | .counters | .timers => 2
  | _ => 1

def Area.usesElementAddress : Area → Bool
  | .counters | .timers => true
  | _ => false

def Area.dataTransportSize : Area → UInt8
  | .counters | .timers => octetTransportSize
  | _ => byteTransportSize

/-- A memory-area range. `start` is a byte offset; timers and counters require
two-byte alignment, while `count` is the number of timer/counter elements. -/
structure MemoryRange where
  area : Area
  dbNumber : UInt16
  start : Nat
  count : Nat
  deriving Repr, DecidableEq

structure WriteItem where
  range : MemoryRange
  payload : Bytes
  deriving Repr, DecidableEq

def MemoryRange.wireAddress (range : MemoryRange) : Nat :=
  if range.area.usesElementAddress then range.start else range.start * 8

def MemoryRange.lastWireAddress (range : MemoryRange) : Nat :=
  if range.area.usesElementAddress then
    range.start + (range.count - 1) * range.area.elementSize
  else
    (range.start + range.count * range.area.elementSize - 1) * 8

/-- Every range condition needed before truncating counts and addresses to their
fixed-width wire fields. -/
def validateMemoryRange (range : MemoryRange) : Except EncodeError Unit := do
  if range.count = 0 ∨ range.count > maxSectionSize then
    throw (.invalidSize range.count)
  if range.area ≠ .dataBlocks ∧ range.dbNumber ≠ 0 then
    throw (.invalidDbNumber range.dbNumber)
  if range.area.usesElementAddress ∧ range.start % range.area.elementSize ≠ 0 then
    throw (.misalignedAddress range.start range.area.elementSize)
  if range.wireAddress > 0xffffff ∨ range.lastWireAddress > 0xffffff then
    throw (.addressTooLarge range.start)

def encodeMemoryAddress (range : MemoryRange) : Except EncodeError Bytes := do
  validateMemoryRange range
  let dbNumber := if range.area == .dataBlocks then range.dbNumber else 0
  return [0x12, 0x0a, 0x10, range.area.wordLength] ++
    uint16BE (UInt16.ofNat range.count) ++ uint16BE dbNumber ++
    [range.area.code] ++ uint24BE (UInt32.ofNat range.wireAddress)

/-! ### Jobs -/

structure Job where
  reference : UInt16
  parameters : Bytes
  data : Bytes := []
  deriving Repr, DecidableEq

/-- The common header and sections of an S7 job PDU. -/
def encodeJob (job : Job) : Except EncodeError Bytes := do
  if job.parameters.length > maxSectionSize then
    throw (.parametersTooLarge job.parameters.length maxSectionSize)
  if job.data.length > maxSectionSize then
    throw (.dataTooLarge job.data.length maxSectionSize)
  let header := [protocolId, jobType, 0, 0] ++
    uint16BE job.reference ++
    uint16BE (UInt16.ofNat job.parameters.length) ++
    uint16BE (UInt16.ofNat job.data.length)
  return header ++ job.parameters ++ job.data

def encodeReadAddresses : List MemoryRange → Except EncodeError Bytes
  | [] => .ok []
  | range :: rest => do
      let address ← encodeMemoryAddress range
      let tail ← encodeReadAddresses rest
      return address ++ tail

def encodeAreaReadMany (reference : UInt16) (ranges : Array MemoryRange) : Except EncodeError Bytes := do
  if ranges.isEmpty || ranges.size > maxItemCount then
    throw (.invalidSize ranges.size)
  let addresses ← encodeReadAddresses ranges.toList
  let parameters := [readFunction, UInt8.ofNat ranges.size] ++ addresses
  encodeJob { reference, parameters }

def encodeWriteSections : List WriteItem → Except EncodeError (Bytes × Bytes)
  | [] => .ok ([], [])
  | item :: rest => do
    let address ← encodeMemoryAddress item.range
    let expectedSize := item.range.count * item.range.area.elementSize
    if item.payload.length != expectedSize then
      throw (.invalidPayloadSize item.payload.length expectedSize)
    let dataLength := if item.range.area.dataTransportSize == octetTransportSize then
      item.payload.length
    else
      item.payload.length * 8
    if dataLength > maxSectionSize then
      throw (.invalidSize item.payload.length)
    let itemData := [0, item.range.area.dataTransportSize] ++
      uint16BE (UInt16.ofNat dataLength) ++ item.payload
    let padding := if !rest.isEmpty && item.payload.length % 2 != 0 then [0] else []
    let (parameters, data) ← encodeWriteSections rest
    return (address ++ parameters, itemData ++ padding ++ data)

def encodeAreaWriteMany (reference : UInt16) (items : Array WriteItem) : Except EncodeError Bytes := do
  if items.isEmpty || items.size > maxItemCount then
    throw (.invalidSize items.size)
  let (addresses, data) ← encodeWriteSections items.toList
  let parameters := [writeFunction, UInt8.ofNat items.size] ++ addresses
  encodeJob { reference, parameters, data }

/-- A write that encodes has some item, and no more than fit one request. -/
theorem size_of_encodeAreaWriteMany {reference : UInt16} {items : Array WriteItem} {packet : Bytes}
    (h : encodeAreaWriteMany reference items = .ok packet) : 0 < items.size ∧ items.size ≤ maxItemCount := by
  unfold encodeAreaWriteMany at h
  obtain ⟨hcount, -⟩ := Checks.guard_eq_ok.mp h
  simpa [Array.size_pos_iff, Nat.not_lt] using hcount

end ClassicS7.S7
