import ClassicS7.Client.Serving

/-! Overlapping operations: a client and a peer on one memory.

A plan is a list of reads, writes and bit updates of one data block. The client runs it
and keeps a model of the memory; the peer expects exactly its requests, cut by its own
arithmetic, and answers from a memory of its own. This module follows one item of a
transfer from the client to the peer and back. -/
namespace ClassicS7

/-! ### The peer -/

namespace Oracle.Overlap
open Dialogue

/-- The size of the memory, in bytes. -/
def memorySize : Nat := 2048

structure Operation where
  identifier : Nat
  kind : String
  start : Nat
  size : Nat
  argument : Nat := 0
  deriving Repr, DecidableEq

def Operation.token (operation : Operation) : String :=
  s!"{operation.identifier}:{operation.kind}:{operation.start}:{operation.size}:{operation.argument}"

def initialMemory : Bytes := (List.range memorySize).map fun index => UInt8.ofNat ((index * 29 + 113) % 256)

def payload (salt count : Nat) : Bytes :=
  (List.range count).map fun index => UInt8.ofNat ((salt * 17 + index * 43) % 256)

def updateBit (value bit enabled : Nat) : Nat :=
  let mask := 1 <<< bit
  if enabled ≠ 0 then value ||| mask else value &&& (255 ^^^ mask)

/-- The parameters of the request for one item. -/
def requestParameters (write : Bool) (start count : Nat) : Bytes :=
  [if write then 5 else 4, 1] ++ ([0x12, 0x0a, 0x10, 2] ++ pack16 count ++ pack16 1 ++ [0x84] ++ pack24 (start * 8))

def requestContent (write : Bool) (count : Nat) (data : Bytes) : Bytes :=
  if write then [0, 4] ++ pack16 (count * 8) ++ data else []

/-- The one request for an item, but for its reference, which is returned. -/
def checkRequest (request : Bytes) (write : Bool) (start count pdu : Nat) (data : Bytes := []) :
    Except String Nat := do
  if count > 65535 then throw "'H' format requires 0 <= number <= 65535"
  if start * 8 > 0xffffff then throw "int too big to convert"
  if write = true ∧ count * 8 > 65535 then throw "'H' format requires 0 <= number <= 65535"
  let content := requestContent write count data
  if content.length > 65535 then throw "'H' format requires 0 <= number <= 65535"
  let expected := packet 1 0 (requestParameters write start count) content
  if request.length > pdu ∨ request.take 4 ≠ expected.take 4 ∨ request.drop 6 ≠ expected.drop 6 then
    let writeText := if write then "True" else "False"
    throw s!"wire mismatch write={writeText} start={start} count={count}"
  return fromBytes (slice request 4 6)

/-- Answer the request for one item. -/
def readItem (memory : Bytes) (start size pdu : Nat) : Dialogue Unit := do
  let request ← Peer.request
  let reference ← Peer.orFail (checkRequest request false start size pdu)
  if size * 8 > 65535 then failed "'H' format requires 0 <= number <= 65535"
  else do
    let data := slice memory start (start + size)
    let packet ← Peer.orFail (Peer.ack reference [4, 1] ([0xff, 4] ++ pack16 (size * 8) ++ data))
    Peer.send ([2, 0xf0, 0x80] ++ packet)

/-- Answer the requests of a read, from an offset on. -/
def read (memory : Bytes) (start count pdu : Nat) (offset : Nat := 0) : Dialogue Unit :=
  if _hmore : offset < count then do
    let size := min (pdu - 18) (count - offset)
    readItem memory (start + offset) size pdu
    -- With a PDU that leaves no room for an item, no request has passed the check.
    if _hsize : size = 0 then failed "unreachable"
    else read memory start count pdu (offset + size)
  else finished ()
termination_by count - offset

/-- Put bytes in the place of a slice. -/
def assign (memory : Bytes) (start stop : Nat) (values : Bytes) : Bytes :=
  memory.take start ++ values ++ memory.drop stop

/-- Take the request that writes one item. What is observed is applied only after it has
been checked. -/
def writeItem (memory : Bytes) (start size : Nat) (data : Bytes) (pdu : Nat) : Dialogue Bytes := do
  let request ← Peer.request
  let reference ← Peer.orFail (checkRequest request true start size pdu data)
  let packet ← Peer.orFail (Peer.ack reference [5, 1] [0xff])
  Peer.send ([2, 0xf0, 0x80] ++ packet)
  return assign memory start (start + size) (request.drop (request.length - size))

/-- Take the requests of a write, from an offset on. -/
def write (memory : Bytes) (start : Nat) (data : Bytes) (pdu : Nat) (offset : Nat := 0) : Dialogue Bytes :=
  if _hmore : offset < data.length then do
    let size := min (pdu - 28) (data.length - offset)
    let memory ← writeItem memory (start + offset) size (slice data offset (offset + size)) pdu
    if _hsize : size = 0 then failed "unreachable"
    else write memory start data pdu (offset + size)
  else finished memory
termination_by data.length - offset

def serveOperation (pdu : Nat) (memory : Bytes) (operation : Operation) : Dialogue Bytes :=
  if operation.kind = "r" then do
    read memory operation.start operation.size pdu
    return memory
  else if operation.kind = "w" then
    write memory operation.start (payload operation.argument operation.size) pdu
  else if operation.kind = "b" then
    match memory[operation.start]? with
    | none => failed "bytearray index out of range"
    | some previous => do
      read memory operation.start 1 pdu
      let updated := updateBit previous.toNat operation.size operation.argument
      if updated > 255 then failed "bytes must be in range(0, 256)"
      else do
        let memory ← write memory operation.start [UInt8.ofNat updated] pdu
        read memory operation.start 1 pdu
        return memory
  else failed "unknown operation kind"

def serveOperations (pdu : Nat) : List Operation → Bytes → Dialogue Bytes
  | [], memory => finished memory
  | operation :: rest, memory => do serveOperations pdu rest (← serveOperation pdu memory operation)

/-- The whole conversation: the handshake, the plan, the final observation, the goodbye. -/
def serve (pdu : Nat) (operations : List Operation) : Dialogue Unit := do
  Peer.handshake pdu
  let memory ← serveOperations pdu operations initialMemory
  read memory 0 memorySize pdu
  Peer.closed

end Oracle.Overlap

/-! ### The client -/

namespace OverlapOperationTests
open Oracle.Overlap (Operation)

def initialMemory (size : Nat) : Bytes := (List.range size).map fun index => UInt8.ofNat (index * 29 + 113)

def payload (salt count : Nat) : Bytes := (List.range count).map fun index => UInt8.ofNat (salt * 17 + index * 43)

def replace (memory : Bytes) (start : Nat) (data : Bytes) : Bytes :=
  (List.range memory.length).map fun index =>
    if start ≤ index && index < start + data.length then data[index - start]! else memory[index]!

/-- A bit update by arithmetic, independent of the client's bit codec. -/
def updated (value size argument : Nat) : Nat :=
  let power := 2 ^ size
  let old := value / power % 2
  if argument == 1 then if old == 0 then value + power else value
  else if old == 1 then value - power else value

section Programs
variable {W Socket : Type} (network : Network W Socket) (config : ClientConfig)

def require (condition : Bool) (message : String) : Program W Unit :=
  if condition then pure () else throw (.userError s!"overlap operations: {message}")

/-- One operation of a plan, and the memory after it. -/
def runOperation (memorySize : Nat) (memory : Bytes) (operation : Operation) :
    Program (Live W Socket) Bytes := do
  let { kind, start, size, argument, .. } := operation
  let token := operation.token
  let count := if kind == "b" then 1 else size
  require (start + count ≤ memorySize) s!"{token}: range outside model"
  let memory ← if kind == "r" then do
      require ((← dbRead network config 1 start size) == slice memory start (start + size)) s!"{token}: model readback"
      pure memory
    else if kind == "w" then do
      let data := payload argument size
      dbWrite network config 1 start data
      pure (replace memory start data)
    else if kind == "b" then do
      require (size < 8 && argument < 2) s!"{token}: invalid bit parameters"
      let value := updated memory[start]!.toNat size argument
      dbWriteBit network config 1 start size (argument == 1)
      require ((← dbReadBit network config 1 start size) == (argument == 1)) s!"{token}: bit readback"
      pure (replace memory start [UInt8.ofNat value])
    else
      throw (.userError s!"unknown overlap operation {kind}")
  require (← isConnected) s!"{token}: session unexpectedly disconnected"
  return memory

def runOperations (memorySize : Nat) : List Operation → Bytes → Program (Live W Socket) Bytes
  | [], memory => return memory
  | operation :: rest, memory => do
    runOperations memorySize rest (← runOperation network config memorySize memory operation)

/-- The plan on a client that has connected. -/
def runPlan (pdu memorySize : Nat) (plan : List Operation) : Program (Live W Socket) Unit :=
  tryCatch (do
    require ((← negotiatedPduLength).toNat == pdu) "negotiated PDU"
    let memory ← runOperations network config memorySize plan (initialMemory memorySize)
    require ((← dbRead network config 1 0 memorySize) == memory) "final full-memory observation"
    disconnect network config) fun error => do
      tryCatch (disconnect network config) fun _ => pure ()
      throw error

def clientConfig (address : Transport.IPv4Addr) (port : UInt16) : ClientConfig where
  endpoint := .ipv4 address
  port
  connectTimeoutMs := some 1000
  operationTimeoutMs := some 1000
  transferReceiveTimeoutMs := some 3000
  reconnectRetries := 0

/-- Connect, and replay a plan against a model of the memory. -/
def runIntegration (address : Transport.IPv4Addr) (port : UInt16) (pdu memorySize : Nat) (plan : List Operation) :
    Program W Unit := do
  let session ← connect network (clientConfig address port)
  session.run (runPlan network (clientConfig address port) pdu memorySize plan)

end Programs

end OverlapOperationTests

/-! ### Requests and replies -/

namespace Oracle.Overlap
open Checks Effect

section Requests
variable (reference : UInt16) {start count pdu : Nat} {data : Bytes}

/-- A data block range inside the memory. -/
def range (start count : Nat) : S7.MemoryRange := { area := .dataBlocks, dbNumber := 1, start, count }

theorem encodeMemoryAddress_ok (hcount : 0 < count) (hinside : start + count ≤ memorySize) :
    S7.encodeMemoryAddress (range start count) =
      .ok ([0x12, 0x0a, 0x10, 2] ++ pack16 count ++ pack16 1 ++ [0x84] ++ pack24 (start * 8)) := by
  rw [memorySize] at hinside
  exact encodeMemoryAddress_dataBlock ⟨hcount, by omega⟩ (by omega)

theorem encodeAreaRead_ok (hcount : 0 < count) (hinside : start + count ≤ memorySize) :
    S7.encodeAreaRead reference (range start count) =
      .ok (packet 1 reference.toNat (requestParameters false start count) []) := by
  refine (bind_ok (encodeMemoryAddress_ok hcount hinside) _).trans ?_
  exact encodeJob_ok reference (show (14 : Nat) ≤ 65535 by decide) (Nat.zero_le _)

theorem encodeAreaWrite_ok (hcount : 0 < count) (hinside : start + count ≤ memorySize)
    (hdata : data.length = count) :
    S7.encodeAreaWrite reference (range start count) data =
      .ok (packet 1 reference.toNat (requestParameters true start count) (requestContent true count data)) := by
  rw [memorySize] at hinside
  refine (bind_ok (encodeMemoryAddress_ok hcount hinside) _).trans ?_
  refine (guard_ok ?_).trans ((guard_ok ?_).trans ?_)
  · simp [range, S7.Area.elementSize, hdata]
  · show ¬ data.length * 8 > 65535
    omega
  · show S7.encodeJob {
      reference
      parameters := _
      data := [0, 4] ++ uint16BE (UInt16.ofNat (data.length * 8)) ++ data } = _
    rw [uint16BE_ofNat _ (by omega), hdata]
    refine encodeJob_ok reference (show (14 : Nat) ≤ 65535 by decide) ?_
    simp only [List.length_append, List.length_cons, List.length_nil, pack16]
    omega

theorem length_request (start count : Nat) (data : Bytes) (write : Bool) :
    (packet 1 reference.toNat (requestParameters write start count) (requestContent write count data)).length =
      24 + (requestContent write count data).length := by
  simp only [packet, requestParameters, pack8, pack16, pack24, List.length_append, List.length_cons, List.length_nil,
    show ¬ (1 : Nat) = 3 by decide, if_false]

/-- The request that the client encodes passes the check, with its reference. -/
theorem checkRequest_packet (data : Bytes) (write : Bool) (hinside : start + count ≤ memorySize)
    (hwrite : write = true → count * 8 ≤ 65535) (hcontent : (requestContent write count data).length ≤ 65535)
    (hfits : 24 + (requestContent write count data).length ≤ pdu) :
    checkRequest (packet 1 reference.toNat (requestParameters write start count) (requestContent write count data))
      write start count pdu data = .ok reference.toNat := by
  rw [memorySize] at hinside
  have hreference : fromBytes (slice (packet 1 reference.toNat (requestParameters write start count)
      (requestContent write count data)) 4 6) = reference.toNat := by
    rw [fromBytes_slice_two _ 4 (by rw [length_request]; omega)]
    exact S7.word_uint16BE reference
  unfold checkRequest
  refine (guard_ok (by omega)).trans ((guard_ok (by omega)).trans ((guard_ok ?_).trans ?_))
  · exact fun h => absurd (hwrite h.1) (by omega)
  refine (guard_ok (Nat.not_lt.mpr hcontent)).trans ((guard_ok (not_or.mpr ⟨?_, not_or.mpr ⟨?_, ?_⟩⟩)).trans ?_)
  · rw [length_request]
    omega
  · exact not_not_intro rfl
  · exact not_not_intro rfl
  · exact congrArg Except.ok hreference

/-- The data of a reply to a read. -/
def readReply (count : Nat) (data : Bytes) : Bytes := [0xff, 4] ++ pack16 (count * 8) ++ data

/-- The reply to a read is read as the bytes of its item. -/
theorem decodeAreaRead_ok (start : Nat) (hbits : count * 8 ≤ 65535) (hdata : data.length = count) :
    S7.decodeAreaRead reference (range start count).area (count * (range start count).area.elementSize)
      ⟨S7.ackDataType, reference, [4, 1], readReply count data, 0, 0⟩ = .ok data := by
  have hword : wordAt (readReply count data) 2 = count * 8 := toNat_pack16 _ hbits
  have htransport : byteAt (readReply count data) 1 = 4 := rfl
  have hsize : S7.itemSize (readReply count data) 0 = count := by
    simp only [S7.itemSize, Nat.zero_add, htransport, hword, Nat.reduceEqDiff, if_false]
    omega
  have hlength : (readReply count data).length = 4 + count := by
    simp only [readReply, pack16, List.length_append, List.length_cons, List.length_nil, hdata]
  have one : S7.ReadOne (range start count) (readReply count data) :=
    ⟨by rw [hsize, hlength], rfl, .inr (by rw [hword]; omega), .inl rfl, hsize.trans (Nat.mul_one _).symm⟩
  have hparameters : S7.itemParameters ⟨S7.ackDataType, reference, [4, 1], readReply count data, 0, 0⟩ reference
      S7.readFunction 1 = .accepted () := S7.itemParameters_eq_accepted.mpr ⟨rfl, ⟨rfl, rfl⟩, rfl⟩
  refine S7.decodeAreaRead_eq_ok.mpr ((S7.decodeAreaReadMany_eq_ok (by simp) (by simp [S7.maxItemCount])).mpr
    ⟨hparameters, S7.readItems_one.mpr ⟨one, rfl⟩⟩)

/-- The reply to a write acknowledges its item. -/
theorem decodeDbWrite_ok :
    S7.decodeDbWrite reference ⟨S7.ackDataType, reference, [5, 1], [0xff], 0, 0⟩ = .ok () := by
  have hparameters : S7.itemParameters ⟨S7.ackDataType, reference, [5, 1], [0xff], 0, 0⟩ reference
      S7.writeFunction 1 = .accepted () := S7.itemParameters_eq_accepted.mpr ⟨rfl, ⟨rfl, rfl⟩, rfl⟩
  exact S7.decodeDbWrite_eq_ok.mpr ((S7.decodeAreaWriteMany_eq_ok (by decide) (by decide)).mpr
    ⟨hparameters, rfl, rfl⟩)

end Requests

/-! ### Items -/

section Items
variable {W Socket α : Type} {native : Transport.Native W Socket} {socket : Socket} {view : View W α}
  {start patience : Nat} {deadline : Option Nat} {config : ClientConfig} {pdu : UInt16} {live : Live W Socket}
  {memory : Bytes} {first count retries : Nat}

/-- The peer answers the request for an item with the bytes of its memory. -/
theorem readItem_answers {p : Dialogue α} (reference : UInt16) (hfits : count + 18 ≤ pdu.toNat)
    (hpdu : 240 ≤ pdu.toNat ∧ pdu.toNat ≤ 1021) (hinside : first + count ≤ memorySize)
    (hmemory : memory.length = memorySize) :
    ∃ answer, (readItem memory first count pdu.toNat >>= fun _ => p) = Peer.request >>= answer ∧
      Answers answer (packet 1 reference.toNat (requestParameters false first count) [])
        ⟨S7.ackDataType, reference, [4, 1], readReply count (slice memory first (first + count)), 0, 0⟩ pdu p := by
  have hcheck : checkRequest (packet 1 reference.toNat (requestParameters false first count) []) false first count
      pdu.toNat = .ok reference.toNat :=
    checkRequest_packet reference [] false hinside (fun h => by cases h) (Nat.zero_le _)
      (show 24 + 0 ≤ pdu.toNat by omega)
  have hrequest : (packet 1 reference.toNat (requestParameters false first count) []).length = 24 :=
    length_request reference first count [] false
  have hdata : (readReply count (slice memory first (first + count))).length = 4 + count := by
    simp only [readReply, pack16, List.length_append, List.length_cons, List.length_nil, length_slice]
    omega
  have hack : Peer.ack reference.toNat [4, 1] (readReply count (slice memory first (first + count))) =
      .ok (S7.ackDataBytes reference [4, 1] (readReply count (slice memory first (first + count)))) :=
    Peer.ack_eq_ok reference (by decide) (by omega)
  have hlength : (S7.ackDataBytes reference [4, 1] (readReply count (slice memory first (first + count)))).length =
      18 + count := by
    simp only [S7.ackDataBytes, List.length_append, length_uint16BE, List.length_cons, List.length_nil, hdata]
    omega
  refine ⟨_, bind_assoc _ _ _, by omega, _, ?_, S7.decodeResponse_ackDataBytes reference (by decide) ?_, ?_, ?_⟩
  · rw [hcheck]
    change ((if _ then _ else _) >>= fun _ => p) = _
    rw [if_neg (by omega)]
    change ((Peer.orFail (Peer.ack reference.toNat [4, 1] (readReply count _)) >>= _) >>= fun _ => p) = _
    rw [hack]
    rfl
  · rw [hdata, S7.maxSectionSize]
    omega
  · omega
  · omega

/-- The peer takes the request that writes an item, and its bytes. -/
theorem writeItem_answers {p : Bytes → Dialogue α} {data : Bytes} (memory : Bytes) (reference : UInt16)
    (hfits : count + 28 ≤ pdu.toNat) (hpdu : 240 ≤ pdu.toNat ∧ pdu.toNat ≤ 1021)
    (hinside : first + count ≤ memorySize) (hdata : data.length = count) :
    ∃ answer, (writeItem memory first count data pdu.toNat >>= p) = Peer.request >>= answer ∧
      Answers answer (packet 1 reference.toNat (requestParameters true first count) (requestContent true count data))
        ⟨S7.ackDataType, reference, [5, 1], [0xff], 0, 0⟩ pdu (p (assign memory first (first + count) data)) := by
  have hcontent : (requestContent true count data).length = 4 + count := by
    simp only [requestContent, pack16, if_true, List.length_append, List.length_cons, List.length_nil, hdata]
  have hcheck : checkRequest (packet 1 reference.toNat (requestParameters true first count)
      (requestContent true count data)) true first count pdu.toNat data = .ok reference.toNat :=
    checkRequest_packet reference data true hinside (fun _ => by omega) (by omega) (by omega)
  have hrequest : (packet 1 reference.toNat (requestParameters true first count)
      (requestContent true count data)).length = 24 + (4 + count) :=
    hcontent ▸ length_request reference first count data true
  have hobserved : (packet 1 reference.toNat (requestParameters true first count)
      (requestContent true count data)).drop (24 + (4 + count) - count) = data := by
    rw [show 24 + (4 + count) - count = 28 by omega]
    rfl
  have hack : Peer.ack reference.toNat [5, 1] [0xff] = .ok (S7.ackDataBytes reference [5, 1] [0xff]) :=
    Peer.ack_eq_ok reference (by decide) (by decide)
  have hlength : (S7.ackDataBytes reference [5, 1] [0xff]).length = 15 := rfl
  refine ⟨_, bind_assoc _ _ _, by omega, _, ?_, S7.decodeResponse_ackDataBytes reference (by decide) (by decide),
    by omega, by omega⟩
  rw [hcheck]
  change ((Peer.orFail (Peer.ack reference.toNat [5, 1] [0xff]) >>= _) >>= p) = _
  rw [hack, hrequest, hobserved]
  rfl

/-! ### One item, by client and peer -/

section Chunks
variable (link : Link native socket view start patience) (hample : Ample start patience deadline)
  (hoperation : Outlasts patience config.operationTimeoutMs) (hpdu : 240 ≤ pdu.toNat ∧ pdu.toNat ≤ 1021)
include link hample hoperation hpdu

theorem ends_readAreaChunk {p : Dialogue α} {item : S7.MemoryRange} (hitem : item = range first count)
    (hcount : 0 < count) (hfits : count + 18 ≤ pdu.toNat) (hinside : first + count ≤ memorySize)
    (hmemory : memory.length = memorySize)
    (talking : Talking socket view pdu (readItem memory first count pdu.toNat >>= fun _ => p) live) :
    Ends (readAreaChunk (Transport.network native) config item deadline retries) live
      (fun chunk live' => chunk.val = slice memory first (first + count) ∧ Talking socket view pdu p live')
      fun _ _ => False := by
  have hbits : count * 8 ≤ 65535 := by omega
  have hslice : (slice memory first (first + count)).length = count := by
    rw [length_slice]
    omega
  have hsize : ¬ count * 1 + 18 > pdu.toNat := by omega
  subst hitem
  unfold readAreaChunk
  refine ends_bind.mpr (ends_freshReference.mpr ?_)
  generalize live.session.nextReference = reference
  obtain ⟨answer, hpeer, answers⟩ := readItem_answers (p := p) reference hfits hpdu hinside hmemory
  have hlength : (packet 1 reference.toNat (requestParameters false first count) []).length = 24 :=
    length_request reference first count [] false
  have hdecode := decodeAreaRead_ok reference first hbits hslice
  rw [encodeAreaRead_ok reference hcount hinside]
  refine ends_bind.mpr (ends_pure.mpr (ends_bind.mpr (ends_negotiatedPduLength.mpr ?_)))
  dsimp only
  have hpduLength := talking.pduLength
  refine ends_guard.mpr ⟨fun h => ?_, fun _ => ends_guard.mpr ⟨fun h => ?_, fun _ => ?_⟩⟩
  · rw [hlength, hpduLength] at h
    omega
  · rw [hpduLength] at h
    exact absurd h hsize
  refine (link.exchangeRead hample hoperation (talking.numbered hpeer _) answers rfl).bind ?_
  rintro _ live₁ ⟨rfl, talking₁⟩
  split
  · next h => cases hdecode.symm.trans h
  · next h => cases hdecode.symm.trans h
  · next h =>
    cases hdecode.symm.trans h
    exact ⟨rfl, talking₁⟩

theorem ends_writeAreaChunk {p : Bytes → Dialogue α} {data : Bytes} {chunkByteOffset : Nat} {item : S7.MemoryRange}
    (hitem : item = range first count) (hcount : 0 < count) (hfits : count + 28 ≤ pdu.toNat)
    (hinside : first + count ≤ memorySize) (hdata : data.length = count)
    (talking : Talking socket view pdu (writeItem memory first count data pdu.toNat >>= p) live) :
    Ends (writeAreaChunk (Transport.network native) config item data deadline retries chunkByteOffset) live
      (fun _ live' => Talking socket view pdu (p (assign memory first (first + count) data)) live')
      fun _ _ => False := by
  have hpduLength := talking.pduLength
  have hconnected : (live.session.state == .connected) = true := by
    rw [talking.state]
    rfl
  subst hitem
  unfold writeAreaChunk
  refine ends_bind.mpr (ends_freshReference.mpr ?_)
  generalize live.session.nextReference = reference
  obtain ⟨answer, hpeer, answers⟩ := writeItem_answers (p := p) memory reference hfits hpdu hinside hdata
  have hcontent : (requestContent true count data).length = 4 + count := by
    simp only [requestContent, pack16, if_true, List.length_append, List.length_cons, List.length_nil, hdata]
  have hlength := length_request reference first count data true
  rw [encodeAreaWrite_ok reference hcount hinside hdata]
  refine ends_bind.mpr (ends_pure.mpr (ends_bind.mpr (ends_negotiatedPduLength.mpr ?_)))
  dsimp only
  refine ends_guard.mpr ⟨fun h => ?_, fun _ => ?_⟩
  · rw [hlength, hpduLength] at h
    omega
  have talking₀ := talking.numbered hpeer (Correlation.nextReference reference)
  refine (link.checks hample talking₀.peer).bind fun _ live₁ h₁ => ends_bind.mpr (ends_isConnected.mpr ?_)
  dsimp only at h₁
  rw [h₁.1, hconnected]
  have talking₁ := talking₀.carried h₁.1 h₁.2
  refine (link.exchangeWrite hample hoperation talking₁ answers rfl (by simp)).bind ?_
  rintro _ live₂ ⟨rfl, hacknowledge⟩
  rw [decodeDbWrite_ok reference]
  exact ends_bind.mpr (ends_pure.mpr (hacknowledge #[.success] rfl))

end Chunks

end Items

end Oracle.Overlap

end ClassicS7
