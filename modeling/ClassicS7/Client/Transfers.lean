import ClassicS7.Client.Exchange
import ClassicS7.Client.Planning
import ClassicS7.Wire.Values

/-! Transfers: reads and writes of memory, in as many requests as they take.

A transfer plans its requests from the PDU length and exchanges them one after the other;
only the first may be retried. Writes keep their progress: each request is recorded when
it is about to go out, and settled by its reply, by a replay, or not at all. -/
namespace ClassicS7
open Effect

/-- A failed write, with what is known of its requests. -/
structure WriteFailure where
  error : RuntimeError
  progress : WriteProgress
  deriving Repr, DecidableEq

section Programs
variable {W Socket α : Type} (network : Network W Socket) (config : ClientConfig)

/-- A failure of these kinds has been answered for; any other one ends the session. -/
def closeOnFailure (operation : Program (Live W Socket) α) : Program (Live W Socket) α :=
  tryCatch operation fun error => do
    if classifyClientError error != .invalidInput && classifyClientError error != .plcRejected then
      closeCurrent network config
    throw error

/-- Any failure ends the session. -/
def closeOnAnyFailure (operation : Program (Live W Socket) α) : Program (Live W Socket) α :=
  tryCatch operation fun error => do
    closeCurrent network config
    throw error

/-- Record the requests that are about to go out. -/
def recordSent (locations : Array WriteLocation) : Program (Live W Socket) Unit := do
  let progress ← Transport.orThrow ((← getSession).writeProgress.sent locations)
  modifySession fun session => { session with writeProgress := progress }

def recordReplay : Program (Live W Socket) Unit :=
  modifySession fun session => { session with writeProgress := session.writeProgress.replay }

def recordAcknowledged (results : Array S7.WriteItemResult) : Program (Live W Socket) Unit := do
  let progress ← Transport.orThrow ((← getSession).writeProgress.acknowledge results)
  modifySession fun session => { session with writeProgress := progress }

/-! ### Reading one range -/

def readAreaChunk (range : S7.MemoryRange) (deadline : Option Nat) (retries : Nat) :
    Program (Live W Socket) { data : Bytes // data.length = range.count * range.area.elementSize } := do
  let reference ← freshReference
  let request ← inputOrThrow (S7.encodeAreaRead reference range)
  let pduLength ← negotiatedPduLength
  if request.length > pduLength.toNat then
    throw (ClientError.invalidInput s!"request exceeds negotiated PDU length {pduLength}")
  let expectedSize := range.count * range.area.elementSize
  if expectedSize + 18 > pduLength.toNat then
    throw (ClientError.invalidInput s!"response would exceed negotiated PDU length {pduLength}")
  let response ← exchangeWithRetries network config reference request retries false deadline .readOnly
  match hdecode : S7.decodeAreaRead reference range.area expectedSize response with
  | .error (.remoteFailure _ message) => throw (ClientError.plcRejected message)
  | .error error => throw (ClientError.protocol (reprStr error))
  | .ok payload => return ⟨payload, S7.decodeAreaRead_size hdecode⟩

def readAreaChunks (area : S7.Area) (dbNumber : UInt16) (start : Nat) (deadline : Option Nat) :
    List Nat → Chunking.ReadAssembly area.elementSize → Nat →
    Program (Live W Socket) (Chunking.ReadAssembly area.elementSize)
  | [], result, _ => return result
  | count :: rest, result, retries => do
    let chunk ← readAreaChunk network config { area, dbNumber, start := result.nextStart start, count }
      deadline retries
    readAreaChunks area dbNumber start deadline rest (result.append chunk) 0

def readAreaChecked (area : S7.Area) (dbNumber : UInt16) (start count : Nat) (deadline : Option Nat)
    (retries : Nat) : Program (Live W Socket) Bytes := do
  if count = 0 then
    return []
  else do
    inputOrThrow (MultiValidation.range { area, dbNumber, start, count })
    let pduLength ← negotiatedPduLength
    let maxCount := MultiValidation.readMaximum pduLength.toNat area
    if maxCount = 0 then
      throw (ClientError.protocol s!"negotiated PDU length {pduLength} cannot hold a read item")
    else do
      inputOrThrow (MultiValidation.readFits pduLength.toNat { area, dbNumber, start, count })
      let assembled ← readAreaChunks network config area dbNumber start deadline
        (Chunking.counts count maxCount) (.empty area.elementSize) retries
      return assembled.data

def readArea (area : S7.Area) (dbNumber : UInt16) (start count : Nat) : Program (Live W Socket) Bytes :=
  closeOnFailure network config do
    let deadline ← receiveDeadline network config.transferReceiveTimeoutMs
    readAreaChecked network config area dbNumber start count deadline config.reconnectRetries

/-! ### Writing one range -/

def writeAreaChunk (range : S7.MemoryRange) (payload : Bytes) (deadline : Option Nat) (retries : Nat)
    (chunkByteOffset : Nat := 0) : Program (Live W Socket) Unit := do
  let reference ← freshReference
  let request ← inputOrThrow (S7.encodeAreaWrite reference range payload)
  let pduLength ← negotiatedPduLength
  if request.length > pduLength.toNat then
    throw (ClientError.invalidInput s!"request exceeds negotiated PDU length {pduLength}")
  checkReceiveDeadline network deadline
  if !(← isConnected) then
    throw (ClientError.disconnected "S7 client is disconnected")
  let response ← exchangeWithRetries network config reference request retries false deadline
    .potentiallyMutating recordReplay (recordSent #[{ range, chunkByteOffset }])
  decodeOrThrow (S7.decodeDbWrite reference response)
  recordAcknowledged #[.success]

def writeAreaChunks (area : S7.Area) (dbNumber : UInt16) (start : Nat) (payload : Bytes) (deadline : Option Nat) :
    (offset : Nat) → (chunks : List Nat) → offset + chunks.sum * area.elementSize = payload.length →
    (retries : Nat) → Program (Live W Socket) Unit
  | _, [], _, _ => pure ()
  | offset, count :: rest, hcoverage, retries => do
    let byteCount := count * area.elementSize
    have hsum : (count + rest.sum) * area.elementSize = byteCount + rest.sum * area.elementSize :=
      Nat.add_mul _ _ _
    have htail : offset + byteCount + rest.sum * area.elementSize = payload.length := by
      rw [← hcoverage, List.sum_cons, hsum, Nat.add_assoc]
    let chunk := Chunking.writeSlice payload offset count area.elementSize (by omega)
    writeAreaChunk network config { area, dbNumber, start := start + offset, count } chunk.val deadline retries
      offset
    writeAreaChunks area dbNumber start payload deadline (offset + byteCount) rest htail 0

def writeAreaChecked (area : S7.Area) (dbNumber : UInt16) (start : Nat) (payload : Bytes)
    (deadline : Option Nat) (retries : Nat) : Program (Live W Socket) Unit := do
  if payload.isEmpty then
    return
  else if haligned : payload.length % area.elementSize ≠ 0 then
    throw (ClientError.invalidInput
      s!"payload size {payload.length} is not aligned to {area.elementSize}-byte elements")
  else do
    let range : S7.MemoryRange := { area, dbNumber, start, count := payload.length / area.elementSize }
    inputOrThrow (MultiValidation.range range)
    let pduLength ← negotiatedPduLength
    let availableBytes := pduLength.toNat - 28
    let lengthLimitedBytes := if area.dataTransportSize == S7.octetTransportSize then
      S7.maxSectionSize
    else
      S7.maxSectionSize / 8
    let maxCount := min S7.maxSectionSize (min availableBytes lengthLimitedBytes / area.elementSize)
    if hmaximum : maxCount = 0 then
      throw (ClientError.protocol s!"negotiated PDU length {pduLength} cannot hold a write item")
    else do
      inputOrThrow (MultiValidation.writeFits pduLength.toNat range)
      writeAreaChunks network config area dbNumber start payload deadline 0
        (Chunking.counts (payload.length / area.elementSize) maxCount) (by
          rw [Chunking.counts_sum _ hmaximum, Nat.zero_add]
          exact Nat.div_mul_cancel (Nat.dvd_of_mod_eq_zero (Classical.not_not.mp haligned))) retries

/-- Progress is reported on success and on failure; earlier successful chunks are not
rolled back. -/
def writeAreaDetailed (area : S7.Area) (dbNumber : UInt16) (start : Nat) (payload : Bytes) :
    Program (Live W Socket) (Except WriteFailure WriteProgress) := do
  modifySession fun session => { session with writeProgress := {} }
  tryCatch (do
    let deadline ← receiveDeadline network config.transferReceiveTimeoutMs
    writeAreaChecked network config area dbNumber start payload deadline config.reconnectRetries
    return .ok (← takeWriteProgress)) fun error => do
      if classifyClientError error == .plcRejected then
        modifySession fun session => { session with writeProgress := session.writeProgress.globalReject }
      else if classifyClientError error != .invalidInput then
        closeCurrent network config
      return .error { error, progress := ← takeWriteProgress }

def writeArea (area : S7.Area) (dbNumber : UInt16) (start : Nat) (payload : Bytes) :
    Program (Live W Socket) Unit := do
  match ← writeAreaDetailed network config area dbNumber start payload with
  | .ok _ => pure ()
  | .error failure => throw failure.error

def dbRead (dbNumber : UInt16) (start size : Nat) : Program (Live W Socket) Bytes :=
  readArea network config .dataBlocks dbNumber start size

def dbWrite (dbNumber : UInt16) (start : Nat) (payload : Bytes) : Program (Live W Socket) Unit :=
  writeArea network config .dataBlocks dbNumber start payload

/-! ### Reading many ranges -/

def readMultiBatch (ranges : Array S7.MemoryRange) (deadline : Option Nat) (retries : Nat) :
    Program (Live W Socket) (Array S7.ReadItemResult) := do
  let reference ← freshReference
  let request ← inputOrThrow (S7.encodeAreaReadMany reference ranges)
  let pduLength ← negotiatedPduLength
  if request.length > pduLength.toNat then
    throw (ClientError.invalidInput s!"multi-read request exceeds negotiated PDU length {pduLength}")
  let response ← exchangeWithRetries network config reference request retries false deadline .readOnly
  decodeOrThrow (S7.decodeAreaReadMany reference ranges response)

def readMultiChunks (range : S7.MemoryRange) (deadline : Option Nat) :
    Nat → List Nat → Bytes → Nat → Program (Live W Socket) S7.ReadItemResult
  | _, [], payload, _ => return .success payload
  | offset, count :: rest, payload, retries => do
    let results ← readMultiBatch network config #[{ range with start := range.start + offset, count }] deadline
      retries
    match results[0]? with
    | some (S7.ReadItemResult.failure code) => return .failure code
    | some (S7.ReadItemResult.success fragment) =>
      readMultiChunks range deadline (offset + count * range.area.elementSize) rest (payload ++ fragment) 0
    | none => throw (ClientError.protocol "singleton multi-read omitted its result")

/-- A batch that is planned leaves less to do, and one that is empty is not exchanged. -/
theorem BatchPlan.length_remaining {α : Type} {costs : Batching.Costs α} {pduLength : Nat} {pending : List α}
    (plan : BatchPlan costs pduLength pending) (h : ¬ plan.selected.isEmpty = true) :
    plan.remaining.length < pending.length := by
  have hpartition := congrArg List.length plan.longest.partition
  rw [List.isEmpty_iff] at h
  have hpositive := List.length_pos_iff.mpr h
  rw [List.length_append] at hpartition
  omega

def readMultiLoop (deadline : Option Nat) (pending : List S7.MemoryRange) (results : Array S7.ReadItemResult)
    (retries : Nat) : Program (Live W Socket) (Array S7.ReadItemResult) := do
  match pending with
  | [] => return results
  | range :: rest =>
    let pduLength ← negotiatedPduLength
    let plan := planReadBatch pduLength.toNat (range :: rest)
    if _hbatch : plan.selected.isEmpty then
      let maximum := MultiValidation.readMaximum pduLength.toNat range.area
      if maximum = 0 then
        throw (ClientError.invalidInput "negotiated PDU cannot hold a multi-read item")
      else do
        let result ← readMultiChunks network config range deadline 0 (Chunking.counts range.count maximum) []
          retries
        readMultiLoop deadline rest (results.push result) 0
    else do
      let batchResults ← readMultiBatch network config plan.selected.toArray deadline retries
      readMultiLoop deadline plan.remaining (results ++ batchResults) 0
termination_by pending.length
decreasing_by
  · simp
  · exact plan.length_remaining _hbatch

def readMulti (ranges : Array S7.MemoryRange) : Program (Live W Socket) (Array S7.ReadItemResult) := do
  ranges.toList.forM fun range => inputOrThrow (MultiValidation.range range)
  let pduLength ← negotiatedPduLength
  ranges.toList.forM fun range => inputOrThrow (MultiValidation.readFits pduLength.toNat range)
  let deadline ← receiveDeadline network config.transferReceiveTimeoutMs
  closeOnAnyFailure network config
    (readMultiLoop network config deadline ranges.toList #[] config.reconnectRetries)

/-! ### Writing many items -/

def writeMultiBatch (items : Array S7.WriteItem) (deadline : Option Nat) (retries firstItemIndex : Nat)
    (chunkByteOffset : Nat := 0) : Program (Live W Socket) (Array S7.WriteItemResult) := do
  let reference ← freshReference
  let request ← inputOrThrow (S7.encodeAreaWriteMany reference items)
  let pduLength ← negotiatedPduLength
  if request.length > pduLength.toNat then
    throw (ClientError.invalidInput s!"multi-write request exceeds negotiated PDU length {pduLength}")
  checkReceiveDeadline network deadline
  if !(← isConnected) then
    throw (ClientError.disconnected "S7 client is disconnected")
  let locations : Array WriteLocation := items.mapIdx fun index item =>
    { range := item.range, itemIndex := some (firstItemIndex + index), chunkByteOffset }
  let response ← exchangeWithRetries network config reference request retries false deadline
    .potentiallyMutating recordReplay (recordSent locations)
  let results ← decodeOrThrow (S7.decodeAreaWriteMany reference items.size response)
  recordAcknowledged results
  return results

def writeMultiChunks (item : S7.WriteItem) (deadline : Option Nat) (itemIndex : Nat) :
    Nat → List Nat → Nat → Program (Live W Socket) S7.WriteItemResult
  | _, [], _ => return .success
  | offset, count :: rest, retries => do
    let byteCount := count * item.range.area.elementSize
    let chunk : S7.WriteItem := {
      range := { item.range with start := item.range.start + offset, count }
      payload := slice item.payload offset (offset + byteCount) }
    let results ← writeMultiBatch network config #[chunk] deadline retries itemIndex offset
    match results[0]? with
    | some (S7.WriteItemResult.failure code) => return .failure code
    | some S7.WriteItemResult.success => writeMultiChunks item deadline itemIndex (offset + byteCount) rest 0
    | none => throw (ClientError.protocol "singleton multi-write omitted its result")

def writeMultiLoop (deadline : Option Nat) (pending : List S7.WriteItem) (results : Array S7.WriteItemResult)
    (retries : Nat) : Program (Live W Socket) (Array S7.WriteItemResult) := do
  match pending with
  | [] => return results
  | item :: rest =>
    let pduLength ← negotiatedPduLength
    let plan := planWriteBatch pduLength.toNat (item :: rest)
    if _hbatch : plan.selected.isEmpty then
      let maximum := MultiValidation.writeMaximum pduLength.toNat item.range.area
      if maximum = 0 then
        throw (ClientError.invalidInput "negotiated PDU cannot hold a multi-write item")
      else do
        let result ← writeMultiChunks network config item deadline results.size 0
          (Chunking.counts item.range.count maximum) retries
        writeMultiLoop deadline rest (results.push result) 0
    else do
      let batchResults ← writeMultiBatch network config plan.selected.toArray deadline retries results.size
      writeMultiLoop deadline plan.remaining (results ++ batchResults) 0
termination_by pending.length
decreasing_by
  · simp
  · exact plan.length_remaining _hbatch

/-- A rejected item may follow acknowledged chunks of the same logical item. -/
def writeMultiDetailed (items : Array S7.WriteItem) :
    Program (Live W Socket) (Except WriteFailure (Array S7.WriteItemResult × WriteProgress)) := do
  modifySession fun session => { session with writeProgress := {} }
  tryCatch (do
    if items.isEmpty then
      return .ok (#[], {})
    else do
      let pduLength ← negotiatedPduLength
      inputOrThrow (MultiValidation.writes pduLength.toNat items)
      let deadline ← receiveDeadline network config.transferReceiveTimeoutMs
      let results ← writeMultiLoop network config deadline items.toList #[] config.reconnectRetries
      return .ok (results, ← takeWriteProgress)) fun error => do
        if classifyClientError error != .invalidInput then
          closeCurrent network config
        if classifyClientError error == .plcRejected then
          modifySession fun session => { session with writeProgress := session.writeProgress.globalReject }
        return .error { error, progress := ← takeWriteProgress }

def writeMulti (items : Array S7.WriteItem) : Program (Live W Socket) (Array S7.WriteItemResult) := do
  match ← writeMultiDetailed network config items with
  | .ok (results, _) => return results
  | .error failure => throw failure.error

/-! ### Bits -/

/-- One gate and receive budget for a compound operation. -/
def compound (operation : Option Nat → Program (Live W Socket) α) : Program (Live W Socket) α :=
  closeOnFailure network config do
    operation (← receiveDeadline network config.transferReceiveTimeoutMs)

def writeBitChecked (area : S7.Area) (dbNumber : UInt16) (byteOffset bitIndex : Nat) (enabled : Bool) :
    Program (Live W Socket) Unit :=
  if bitIndex > 7 then
    throw (ClientError.invalidInput s!"bit index must be between 0 and 7, got {bitIndex}")
  else
    compound network config fun deadline => do
      modifySession fun session => { session with writeProgress := {} }
      let current ← readAreaChecked network config area dbNumber byteOffset 1 deadline config.reconnectRetries
      let value ← Transport.orThrow (Value.getUInt8 current)
      let updated ← inputOrThrow (Value.setBit value bitIndex enabled)
      -- The write is not replayed after the read of this operation has completed.
      writeAreaChecked network config area dbNumber byteOffset [updated] deadline 0

def dbWriteBit (dbNumber : UInt16) (byteOffset bitIndex : Nat) (enabled : Bool) :
    Program (Live W Socket) Unit :=
  writeBitChecked network config .dataBlocks dbNumber byteOffset bitIndex enabled

/-- A bit of the process image, which the PLC may overwrite in its next cycle. -/
def forceBit (area : S7.Area) (byteOffset bit : Nat) (value : Bool) : Program (Live W Socket) Unit :=
  if area != .processInputs && area != .processOutputs then
    throw (ClientError.invalidInput "process-image bit override only supports input and output areas")
  else
    writeBitChecked network config area 0 byteOffset bit value

def cancelForceBit (area : S7.Area) (byteOffset bit : Nat) : Program (Live W Socket) Unit :=
  forceBit network config area byteOffset bit false

/-! ### Areas by their names -/

section Areas
variable (start size : Nat) (payload : Bytes)

def inputsRead : Program (Live W Socket) Bytes := readArea network config .processInputs 0 start size
def inputsWrite : Program (Live W Socket) Unit := writeArea network config .processInputs 0 start payload
def outputsRead : Program (Live W Socket) Bytes := readArea network config .processOutputs 0 start size
def outputsWrite : Program (Live W Socket) Unit := writeArea network config .processOutputs 0 start payload
def markersRead : Program (Live W Socket) Bytes := readArea network config .markers 0 start size
def markersWrite : Program (Live W Socket) Unit := writeArea network config .markers 0 start payload
def countersRead : Program (Live W Socket) Bytes := readArea network config .counters 0 start size
def countersWrite : Program (Live W Socket) Unit := writeArea network config .counters 0 start payload
def timersRead : Program (Live W Socket) Bytes := readArea network config .timers 0 start size
def timersWrite : Program (Live W Socket) Unit := writeArea network config .timers 0 start payload

end Areas

/-! ### Values in data blocks -/

/-- A value of so many bytes. -/
def dbReadValue (size : Nat) (get : Bytes → Except Value.Error α) (dbNumber : UInt16) (start : Nat) :
    Program (Live W Socket) α := do
  Transport.orThrow (get (← dbRead network config dbNumber start size))

section Values
variable (dbNumber : UInt16) (start : Nat)

def dbReadUInt8 : Program (Live W Socket) UInt8 := dbReadValue network config 1 Value.getUInt8 dbNumber start
def dbReadUInt16 : Program (Live W Socket) UInt16 := dbReadValue network config 2 Value.getUInt16 dbNumber start
def dbReadUInt32 : Program (Live W Socket) UInt32 := dbReadValue network config 4 Value.getUInt32 dbNumber start
def dbReadUInt64 : Program (Live W Socket) UInt64 := dbReadValue network config 8 Value.getUInt64 dbNumber start
def dbReadInt8 : Program (Live W Socket) Int8 := dbReadValue network config 1 Value.getInt8 dbNumber start
def dbReadInt16 : Program (Live W Socket) Int16 := dbReadValue network config 2 Value.getInt16 dbNumber start
def dbReadInt32 : Program (Live W Socket) Int32 := dbReadValue network config 4 Value.getInt32 dbNumber start
def dbReadInt64 : Program (Live W Socket) Int64 := dbReadValue network config 8 Value.getInt64 dbNumber start
def dbReadReal : Program (Live W Socket) Float32 := dbReadValue network config 4 Value.getReal dbNumber start
def dbReadLReal : Program (Live W Socket) Float := dbReadValue network config 8 Value.getLReal dbNumber start

def dbWriteUInt8 (value : UInt8) : Program (Live W Socket) Unit :=
  dbWrite network config dbNumber start (Value.putUInt8 value)

def dbWriteUInt16 (value : UInt16) : Program (Live W Socket) Unit :=
  dbWrite network config dbNumber start (Value.putUInt16 value)

def dbWriteUInt32 (value : UInt32) : Program (Live W Socket) Unit :=
  dbWrite network config dbNumber start (Value.putUInt32 value)

def dbWriteUInt64 (value : UInt64) : Program (Live W Socket) Unit :=
  dbWrite network config dbNumber start (Value.putUInt64 value)

def dbWriteInt8 (value : Int8) : Program (Live W Socket) Unit :=
  dbWrite network config dbNumber start (Value.putInt8 value)

def dbWriteInt16 (value : Int16) : Program (Live W Socket) Unit :=
  dbWrite network config dbNumber start (Value.putInt16 value)

def dbWriteInt32 (value : Int32) : Program (Live W Socket) Unit :=
  dbWrite network config dbNumber start (Value.putInt32 value)

def dbWriteInt64 (value : Int64) : Program (Live W Socket) Unit :=
  dbWrite network config dbNumber start (Value.putInt64 value)

def dbWriteReal (value : Float32) : Program (Live W Socket) Unit :=
  dbWrite network config dbNumber start (Value.putReal value)

def dbWriteLReal (value : Float) : Program (Live W Socket) Unit :=
  dbWrite network config dbNumber start (Value.putLReal value)

end Values

def dbReadBit (dbNumber : UInt16) (byteOffset bitIndex : Nat) : Program (Live W Socket) Bool := do
  if bitIndex > 7 then
    throw (ClientError.invalidInput s!"bit index must be between 0 and 7, got {bitIndex}")
  else
    Transport.orThrow (Value.getBit (← dbRead network config dbNumber byteOffset 1) 0 bitIndex)

/-- The header first, for the room that the string has, and then all of it. -/
def dbReadString (dbNumber : UInt16) (start : Nat) : Program (Live W Socket) String :=
  compound network config fun deadline => do
    let header ← readAreaChecked network config .dataBlocks dbNumber start 2 deadline config.reconnectRetries
    let maximum ← Transport.orThrow (Value.getUInt8 header)
    let current ← Transport.orThrow (Value.getUInt8 header 1)
    if maximum.toNat > Value.maxStringLength then
      throw (ClientError.protocol s!"invalid S7 STRING maximum length {maximum}")
    if current > maximum then
      throw (ClientError.protocol s!"invalid S7 STRING current length {current} exceeds {maximum}")
    let content ← readAreaChecked network config .dataBlocks dbNumber start (maximum.toNat + 2) deadline 0
    let contentMaximum ← Transport.orThrow (Value.getUInt8 content)
    if contentMaximum != maximum then
      throw (ClientError.protocol s!"S7 STRING capacity changed during read: {maximum} to {contentMaximum}")
    Transport.orThrow (Value.decodeString content)

def dbWriteString (dbNumber : UInt16) (start maximum : Nat) (value : String) : Program (Live W Socket) Unit := do
  dbWrite network config dbNumber start (← inputOrThrow (Value.encodeString maximum value))

def dbReadWString (dbNumber : UInt16) (start : Nat) : Program (Live W Socket) String :=
  compound network config fun deadline => do
    let header ← readAreaChecked network config .dataBlocks dbNumber start 4 deadline config.reconnectRetries
    let maximum ← Transport.orThrow (Value.getUInt16 header)
    let current ← Transport.orThrow (Value.getUInt16 header 2)
    if maximum.toNat > Value.maxWStringLength then
      throw (ClientError.protocol s!"invalid S7 WSTRING maximum length {maximum}")
    if current > maximum then
      throw (ClientError.protocol s!"invalid S7 WSTRING current length {current} exceeds {maximum}")
    let content ← readAreaChecked network config .dataBlocks dbNumber start (maximum.toNat * 2 + 4) deadline 0
    let contentMaximum ← Transport.orThrow (Value.getUInt16 content)
    if contentMaximum != maximum then
      throw (ClientError.protocol s!"S7 WSTRING capacity changed during read: {maximum} to {contentMaximum}")
    Transport.orThrow (Value.decodeWString content)

def dbWriteWString (dbNumber : UInt16) (start maximum : Nat) (value : String) : Program (Live W Socket) Unit := do
  dbWrite network config dbNumber start (← inputOrThrow (Value.encodeWString maximum value))

end Programs

end ClassicS7
