import ClassicS7.Client.Transfers
import ClassicS7.Wire.Assembly
import ClassicS7.Wire.Blocks

/-! Services beside memory: control, raw exchanges and USER_DATA.

Each service is one exchange, or, for segmented USER_DATA, one exchange for each fragment,
whose replies must belong to one data unit. A reply that does not decode ends the session
before a queued request can begin. -/
namespace ClassicS7
open Effect

section Programs
variable {W Socket α : Type} (network : Network W Socket) (config : ClientConfig)

/-- The caller supplies the reference that the request embeds. -/
def rawExchange (reference : UInt16) (request : Bytes) : Program (Live W Socket) Bytes := do
  let pduLength ← negotiatedPduLength
  if request.length > pduLength.toNat then
    throw (ClientError.invalidInput s!"raw request exceeds negotiated PDU length {pduLength}")
  let embeddedReference ← inputOrThrow (S7.decodePduReference request)
  if embeddedReference != reference then
    throw (ClientError.invalidInput
      s!"raw request embeds PDU reference {embeddedReference}, caller supplied {reference}")
  exchangeBytesWithRetries network config reference request config.reconnectRetries

def plcControl (function : UInt8) (encode : UInt16 → Except S7.EncodeError Bytes) :
    Program (Live W Socket) Unit := do
  let reference ← freshReference
  let request ← inputOrThrow (encode reference)
  closeOnFailure network config do
    let response ← exchangeWithRetries network config reference request config.reconnectRetries
    decodeOrThrow (S7.decodePlcControl reference function response)

/-! ### USER_DATA -/

def exchangeUserData (reference : UInt16) (group subfunction : UInt8) (request : Bytes)
    (safety : RetrySafety := .potentiallyMutating) : Program (Live W Socket) S7.UserDataResponse :=
  closeOnFailure network config do
    let response ← exchangeBytesWithRetries network config reference request config.reconnectRetries false none
      safety
    let decoded ← decodeOrThrow (S7.decodeUserDataResponse reference group subfunction response)
    let _ ← decodeOrThrow (S7.requireCompleteUserData decoded)
    return decoded

/-- Decode before the gate is released: a malformed reply ends the session first. -/
def readUserDataValue (reference : UInt16) (group subfunction : UInt8) (request : Bytes)
    (decode : Bytes → Except DecodeError α) : Program (Live W Socket) α :=
  closeOnFailure network config do
    let raw ← exchangeBytesWithRetries network config reference request config.reconnectRetries false none
      .readOnly
    let response ← decodeOrThrow (S7.decodeUserDataResponse reference group subfunction raw)
    let payload ← decodeOrThrow (S7.requireCompleteUserData response)
    decodeOrThrow (decode payload)

/-- What a segmented transfer has assembled, with the bounds of the client. -/
abbrev Assembly := UserDataAssembly.State (16 * 1024 * 1024) 256

/-- The payload of one fragment: the first one names the list. -/
def szlPayload (id index : UInt16) (isFirst : Bool) (response : S7.UserDataResponse) :
    Program (Live W Socket) Bytes := do
  if isFirst then
    let (actualId, actualIndex, firstPayload) ← Transport.orThrow (S7.decodeSzlFirst response)
    if actualId != id || actualIndex != index then
      throw (ClientError.protocol s!"PLC returned SZL {actualId}/{actualIndex}, expected {id}/{index}")
    return firstPayload
  else
    return response.payload

def readSzlFragments (id index : UInt16) (deadline : Option Nat) (state : Assembly) (sequence : UInt8)
    (dataUnitReference : Option UInt8) : Program (Live W Socket) Bytes := do
  let reference ← freshReference
  let request ← inputOrThrow (if state.count == 0 then S7.encodeReadSzl reference id index
    else S7.encodeReadSzlContinuation reference sequence)
  let raw ← exchangeBytesWithRetries network config reference request
    (if state.count == 0 then config.reconnectRetries else 0) false deadline .readOnly
  let response ← decodeOrThrow (S7.decodeUserDataResponse reference S7.szlGroup S7.readSzlSubfunction raw)
  let fragmentReference ← decodeOrThrow (S7.correlateUserDataFragment dataUnitReference response)
  let nextPayload ← szlPayload id index (state.count == 0) response
  match UserDataAssembly.accept state nextPayload response.hasMoreData with
  | .error error => throw (ClientError.protocol (reprStr error))
  | .ok step =>
    if _hmore : response.hasMoreData = true then
      readSzlFragments id index deadline step.after response.sequence (some fragmentReference)
    else
      return step.after.data
termination_by 256 - state.count
decreasing_by
  have hcount := step.count
  have hroom := step.continuationRoom _hmore
  omega

def readSzlValue (id index : UInt16) (decode : S7.Szl → Program (Live W Socket) α) :
    Program (Live W Socket) α := do
  let deadline ← receiveDeadline network config.transferReceiveTimeoutMs
  closeOnAnyFailure network config do
    let szl ← Transport.orThrow (S7.decodeSzl id index
      (← readSzlFragments network config id index deadline (UserDataAssembly.empty _ _) 0 none))
    decode szl

def readSzl (id : UInt16) (index : UInt16 := 0) : Program (Live W Socket) S7.Szl :=
  readSzlValue network config id index pure

def userDataFragments (group subfunction : UInt8) (firstRequest : UInt16 → Except S7.EncodeError Bytes)
    (deadline : Option Nat) (state : Assembly) (sequence : UInt8) (dataUnitReference : Option UInt8) :
    Program (Live W Socket) Bytes := do
  let reference ← freshReference
  let request ← inputOrThrow (if state.count == 0 then firstRequest reference
    else S7.encodeUserDataContinuation reference group subfunction sequence)
  let raw ← exchangeBytesWithRetries network config reference request
    (if state.count == 0 then config.reconnectRetries else 0) false deadline .readOnly
  let response ← decodeOrThrow (S7.decodeUserDataResponse reference group subfunction raw)
  let fragmentReference ← decodeOrThrow (S7.correlateUserDataFragment dataUnitReference response)
  match UserDataAssembly.accept state response.payload response.hasMoreData with
  | .error error => throw (ClientError.protocol (reprStr error))
  | .ok step =>
    if _hmore : response.hasMoreData = true then
      userDataFragments group subfunction firstRequest deadline step.after response.sequence
        (some fragmentReference)
    else
      return step.after.data
termination_by 256 - state.count
decreasing_by
  have hcount := step.count
  have hroom := step.continuationRoom _hmore
  omega

/-! ### System status lists -/

/-- The records of the list of lists: one word each. -/
def szlDirectory (szl : S7.Szl) : Program (Live W Socket) (Array UInt16) := do
  if szl.recordLength != 2 then
    throw (ClientError.protocol s!"SZL directory record length must be 2, got {szl.recordLength}")
  let mut cursor : Cursor := { data := szl.data }
  let mut result := #[]
  for _ in [0:szl.recordCount.toNat] do
    let (id, next) ← Transport.orThrow cursor.readUInt16BE
    cursor := next
    result := result.push id
  Transport.orThrow cursor.finish
  return result

def readSzlList : Program (Live W Socket) (Array UInt16) := readSzlValue network config 0 0 szlDirectory

def getOrderCode : Program (Live W Socket) S7.OrderCode :=
  readSzlValue network config 0x0011 0 fun szl => Transport.orThrow (S7.parseOrderCode szl)

def getCpuInfo : Program (Live W Socket) S7.CpuInfo :=
  readSzlValue network config 0x001c 0 fun szl => Transport.orThrow (S7.parseCpuInfo szl)

def getCpInfo : Program (Live W Socket) S7.CpInfo :=
  readSzlValue network config 0x0131 1 fun szl => Transport.orThrow (S7.parseCpInfo szl)

def getProtection : Program (Live W Socket) S7.Protection :=
  readSzlValue network config 0x0232 4 fun szl => Transport.orThrow (S7.parseProtection szl)

def getCpuState : Program (Live W Socket) S7.CpuState :=
  readSzlValue network config 0x0424 0 fun szl => Transport.orThrow (S7.parseCpuState szl)

def readForceTable : Program (Live W Socket) (Array S7.ForceEntry) :=
  readSzlValue network config 0x0025 0 fun szl => Transport.orThrow (S7.decodeForceTable szl)

/-! ### The clock, the password and control -/

def getPlcDateTime : Program (Live W Socket) S7.PlcDateTime := do
  let reference ← freshReference
  let request ← inputOrThrow (S7.encodeReadClock reference)
  readUserDataValue network config reference S7.clockGroup S7.readClockSubfunction request S7.decodePlcDateTime

def setPlcDateTime (value : S7.PlcDateTime) : Program (Live W Socket) Unit := do
  let reference ← freshReference
  let payload ← inputOrThrow (S7.encodePlcDateTime value)
  let request ← inputOrThrow (S7.encodeSetClock reference payload)
  discard (exchangeUserData network config reference S7.clockGroup S7.setClockSubfunction request)

def setSessionPassword (password : String) : Program (Live W Socket) Unit := do
  let reference ← freshReference
  let encoded ← inputOrThrow (S7.encodePassword password)
  let request ← inputOrThrow (S7.encodeSetPassword reference encoded)
  discard (exchangeUserData network config reference S7.securityGroup S7.enterPasswordSubfunction request)

def clearSessionPassword : Program (Live W Socket) Unit := do
  let reference ← freshReference
  let request ← inputOrThrow (S7.encodeClearPassword reference)
  discard (exchangeUserData network config reference S7.securityGroup S7.clearPasswordSubfunction request)

def plcHotStart : Program (Live W Socket) Unit := plcControl network config S7.startFunction S7.encodePlcHotStart
def plcColdStart : Program (Live W Socket) Unit := plcControl network config S7.startFunction S7.encodePlcColdStart
def plcStop : Program (Live W Socket) Unit := plcControl network config S7.stopFunction S7.encodePlcStop

/-! ### Blocks -/

def listBlocks : Program (Live W Socket) S7.BlockCounts := do
  let reference ← freshReference
  let request ← inputOrThrow (S7.encodeListBlocks reference)
  readUserDataValue network config reference S7.blocksInfoGroup S7.listBlocksSubfunction request S7.decodeBlockCounts

def listBlocksOfType (blockType : S7.BlockType) : Program (Live W Socket) (Array S7.BlockEntry) := do
  let deadline ← receiveDeadline network config.transferReceiveTimeoutMs
  closeOnAnyFailure network config do
    let payload ← userDataFragments network config S7.blocksInfoGroup S7.listBlocksOfTypeSubfunction
      (fun reference => S7.encodeListBlocksOfType reference blockType) deadline (UserDataAssembly.empty _ _) 0 none
    Transport.orThrow (S7.decodeBlockEntries payload)

def getBlockInfo (blockType : S7.BlockType) (number : Nat) : Program (Live W Socket) S7.BlockInfo := do
  inputOrThrow (S7.validateBlockInfoNumber number)
  let reference ← freshReference
  let request ← inputOrThrow (S7.encodeGetBlockInfo reference blockType number)
  readUserDataValue network config reference S7.blocksInfoGroup S7.blockInfoSubfunction request fun payload => do
    let info ← S7.decodeBlockInfo payload
    S7.correlateBlockInfo number info

def controlService (encode : UInt16 → Except S7.EncodeError Bytes) : Program (Live W Socket) Unit :=
  plcControl network config S7.startFunction encode

def deleteBlock (blockType : S7.BlockType) (number : Nat) : Program (Live W Socket) Unit :=
  controlService network config fun reference => S7.encodeDeleteBlock reference blockType number

def compress : Program (Live W Socket) Unit := controlService network config S7.encodeCompress
def copyRamToRom : Program (Live W Socket) Unit := controlService network config S7.encodeCopyRamToRom

end Programs

end ClassicS7
