import ClassicS7.Wire.Management

/-! Blocks: lists and information, upload and download.

An upload is asked for fragment by fragment. In a download the parts are exchanged: once it
has accepted the request, the PLC sends jobs that ask for the fragments, and the client
answers them. Block numbers are five decimal digits, sizes are six. -/
namespace ClassicS7.S7
open Checks

def blocksInfoGroup : UInt8 := 0x03
def listBlocksSubfunction : UInt8 := 0x01
def listBlocksOfTypeSubfunction : UInt8 := 0x02
def blockInfoSubfunction : UInt8 := 0x03
def startUploadFunction : UInt8 := 0x1d
def uploadFunction : UInt8 := 0x1e
def endUploadFunction : UInt8 := 0x1f
def requestDownloadFunction : UInt8 := 0x1a
def downloadFunction : UInt8 := 0x1b
def downloadEndedFunction : UInt8 := 0x1c

inductive BlockType where
  | organizationBlock
  | dataBlock
  | systemDataBlock
  | function
  | systemFunction
  | functionBlock
  | systemFunctionBlock
  deriving Repr, DecidableEq

def BlockType.code : BlockType → UInt8
  | .organizationBlock => 0x38
  | .dataBlock => 0x41
  | .systemDataBlock => 0x42
  | .function => 0x43
  | .systemFunction => 0x44
  | .functionBlock => 0x45
  | .systemFunctionBlock => 0x46

def BlockType.ofCode : UInt8 → Option BlockType
  | 0x38 => some .organizationBlock
  | 0x41 => some .dataBlock
  | 0x42 => some .systemDataBlock
  | 0x43 => some .function
  | 0x44 => some .systemFunction
  | 0x45 => some .functionBlock
  | 0x46 => some .systemFunctionBlock
  | _ => none

theorem BlockType.ofCode_eq_some {code : UInt8} {blockType : BlockType} :
    ofCode code = some blockType ↔ blockType.code = code := by
  constructor
  · intro h
    unfold ofCode at h
    split at h <;> cases h <;> rfl
  · rintro rfl
    cases blockType <;> rfl

/-! ### Decimal numbers -/

def decimalDigit (value divisor : Nat) : UInt8 := UInt8.ofNat ((value / divisor) % 10 + 0x30)

def decimal5 (value : Nat) : Except EncodeError Bytes := do
  if value > 99999 then
    throw (.invalidSize value)
  return [decimalDigit value 10000, decimalDigit value 1000, decimalDigit value 100, decimalDigit value 10,
    decimalDigit value 1]

def decimal6 (value : Nat) : Except EncodeError Bytes := do
  if value > 999999 then
    throw (.invalidSize value)
  return [decimalDigit value 100000, decimalDigit value 10000, decimalDigit value 1000, decimalDigit value 100,
    decimalDigit value 10, decimalDigit value 1]

def asciiNat (offset : Nat) (data : Bytes) : Except DecodeError Nat := do
  let mut value := 0
  let mut cursor : Cursor := { data }
  for index in [0:data.length] do
    let (byte, next) ← cursor.readUInt8
    cursor := next
    if byte < 0x30 || byte > 0x39 then
      throw (.invalidField (offset + index) "expected an ASCII decimal digit")
    value := value * 10 + byte.toNat - 0x30
  return value

/-! ### Lists and information -/

/-- A reply names a block by 16 bits, though the request has room for five digits. -/
def validateBlockInfoNumber (number : Nat) : Except EncodeError Unit := do
  if number > 65535 then
    throw (.invalidSize number)

structure BlockCounts where
  organizationBlocks : UInt16 := 0
  dataBlocks : UInt16 := 0
  systemDataBlocks : UInt16 := 0
  functions : UInt16 := 0
  systemFunctions : UInt16 := 0
  functionBlocks : UInt16 := 0
  systemFunctionBlocks : UInt16 := 0
  deriving Repr, DecidableEq

def encodeListBlocks (reference : UInt16) : Except EncodeError Bytes :=
  encodeUserDataHeader reference (userDataParameters blocksInfoGroup listBlocksSubfunction 0 false) [0x0a, 0, 0, 0]

def encodeListBlocksOfType (reference : UInt16) (blockType : BlockType) : Except EncodeError Bytes :=
  encodeUserDataHeader reference (userDataParameters blocksInfoGroup listBlocksOfTypeSubfunction 0 false)
    [0xff, octetTransportSize, 0, 2, 0x30, blockType.code]

def encodeUserDataContinuation (reference : UInt16) (group subfunction sequence : UInt8) :
    Except EncodeError Bytes :=
  encodeUserDataHeader reference (userDataParameters group subfunction sequence true) [0x0a, 0, 0, 0]

def encodeGetBlockInfo (reference : UInt16) (blockType : BlockType) (number : Nat) : Except EncodeError Bytes := do
  let numberBytes ← decimal5 number
  encodeUserDataHeader reference (userDataParameters blocksInfoGroup blockInfoSubfunction 0 false)
    ([0xff, octetTransportSize, 0, 8, 0x30, blockType.code] ++ numberBytes ++ [0x41])

def decodeBlockCounts (payload : Bytes) : Except DecodeError BlockCounts := do
  if payload.length != 28 then
    throw (.invalidField 0 s!"block-count response must contain 28 bytes, got {payload.length}")
  let mut cursor : Cursor := { data := payload }
  let mut result : BlockCounts := {}
  let mut seen : List UInt8 := []
  for _ in [0:7] do
    let (markerPrefix, next) ← cursor.readUInt8
    cursor := next
    if markerPrefix != 0x30 then
      throw (.invalidField (cursor.offset - 1) "invalid block-count prefix")
    let (typeCode, next) ← cursor.readUInt8
    cursor := next
    let (count, next) ← cursor.readUInt16BE
    cursor := next
    let some blockType := BlockType.ofCode typeCode
      | throw (.invalidField (cursor.offset - 3) s!"unknown block type {typeCode}")
    if seen.contains typeCode then
      throw (.invalidField (cursor.offset - 3) s!"duplicate block-count type {typeCode}")
    seen := typeCode :: seen
    result := match blockType with
      | .organizationBlock => { result with organizationBlocks := count }
      | .dataBlock => { result with dataBlocks := count }
      | .systemDataBlock => { result with systemDataBlocks := count }
      | .function => { result with functions := count }
      | .systemFunction => { result with systemFunctions := count }
      | .functionBlock => { result with functionBlocks := count }
      | .systemFunctionBlock => { result with systemFunctionBlocks := count }
  cursor.finish
  return result

structure BlockEntry where
  number : UInt16
  flags : UInt8
  language : UInt8
  deriving Repr, DecidableEq

def decodeBlockEntries (payload : Bytes) : Except DecodeError (Array BlockEntry) := do
  if payload.length % 4 != 0 then
    throw (.invalidField 0 "block-list payload is not aligned to four-byte entries")
  let mut cursor : Cursor := { data := payload }
  let mut result := #[]
  for _ in [0:payload.length / 4] do
    let (number, next) ← cursor.readUInt16BE
    cursor := next
    let (flags, next) ← cursor.readUInt8
    cursor := next
    let (language, next) ← cursor.readUInt8
    cursor := next
    result := result.push { number, flags, language }
  cursor.finish
  return result

structure BlockInfo where
  blockType : UInt8
  subBlockType : UInt8 := 0
  number : UInt16
  language : UInt8
  flags : UInt8
  mc7Size : UInt16
  loadSize : UInt32
  localDataSize : UInt16
  sbbSize : UInt16
  checksum : UInt16
  version : UInt8
  codeDateRaw : Bytes
  interfaceDateRaw : Bytes
  author : String
  family : String
  name : String
  deriving Repr, DecidableEq

/-- The reply must be about the block that was asked for. -/
def correlateBlockInfo (number : Nat) (info : BlockInfo) : Except DecodeError BlockInfo := do
  if info.number.toNat != number then
    throw (.invalidField 12 s!"block-info number mismatch: expected {number}, got {info.number}")
  return info

def fixedAscii (data : Bytes) (offset length : Nat) : Except DecodeError String := asciiField data offset length

def decodeBlockInfo (payload : Bytes) : Except DecodeError BlockInfo := do
  if payload.length < 78 then
    throw (.unexpectedEnd 0 78 payload.length)
  if payload.length > 78 then
    throw (.trailingBytes 78 (payload.length - 78))
  let byteAt (offset : Nat) := (Cursor.readUInt8 { data := payload, offset }).map Prod.fst
  let wordAt (offset : Nat) := (Cursor.readUInt16BE { data := payload, offset }).map Prod.fst
  let dwordAt (offset : Nat) := (Cursor.readUInt32BE { data := payload, offset }).map Prod.fst
  return {
    blockType := ← byteAt 1
    subBlockType := ← byteAt 11
    flags := ← byteAt 9
    language := ← byteAt 10
    number := ← wordAt 12
    loadSize := ← dwordAt 14
    sbbSize := ← wordAt 34
    localDataSize := ← wordAt 38
    mc7Size := ← wordAt 40
    codeDateRaw := slice payload 22 28
    interfaceDateRaw := slice payload 28 34
    author := ← fixedAscii payload 42 8
    family := ← fixedAscii payload 50 8
    name := ← fixedAscii payload 58 8
    version := ← byteAt 66
    checksum := ← wordAt 68
  }

structure ForceEntry where
  areaCode : UInt16
  byteOffset : UInt16
  bit : UInt8
  value : Bool
  deriving Repr, DecidableEq

def decodeForceTable (szl : Szl) : Except DecodeError (Array ForceEntry) := do
  validateSzlData szl
  if szl.id != 0x0025 then
    throw (.invalidField 0 s!"expected force-table SZL 0x0025, got {szl.id}")
  if szl.data.length % 8 != 0 then
    throw (.invalidField 0 "force-table data is not aligned to eight-byte entries")
  let mut cursor : Cursor := { data := szl.data }
  let mut result := #[]
  for _ in [0:szl.data.length / 8] do
    let (areaCode, next) ← cursor.readUInt16BE
    cursor := next
    let (byteOffset, next) ← cursor.readUInt16BE
    cursor := next
    let (bit, next) ← cursor.readUInt8
    cursor := next
    if bit > 7 then
      throw (.invalidField (cursor.offset - 1) "force-table bit index exceeds 7")
    let (value, next) ← cursor.readUInt8
    cursor := next
    let (_, next) ← cursor.readUInt16BE
    cursor := next
    result := result.push { areaCode, byteOffset, bit, value := value != 0 }
  cursor.finish
  return result

/-! ### Upload -/

def encodeStartUpload (reference : UInt16) (blockType : BlockType) (number : Nat) : Except EncodeError Bytes := do
  let numberBytes ← decimal5 number
  encodeJob { reference, parameters :=
    [startUploadFunction, 0, 0, 0, 0, 0, 0, 0, 9, 0x5f, 0x30, blockType.code] ++ numberBytes ++ [0x41] }

def encodeUpload (reference : UInt16) (uploadId : UInt8) : Except EncodeError Bytes :=
  encodeJob { reference, parameters := [uploadFunction, 0, 0, 0, 0, 0, 0, uploadId] }

def encodeEndUpload (reference : UInt16) (uploadId : UInt8) : Except EncodeError Bytes :=
  encodeJob { reference, parameters := [endUploadFunction, 0, 0, 0, 0, 0, 0, uploadId] }

structure StartUploadResponse where
  uploadId : UInt8
  loadSize : Option Nat
  deriving Repr, DecidableEq

/-- The form with eight bytes does not say how long the block is. -/
def decodeStartUpload (reference : UInt16) (response : Response) : Except DecodeError StartUploadResponse := do
  validateResponse response reference startUploadFunction
  if response.parameters.length != 8 && response.parameters.length != 16 then
    throw (.invalidField responseHeaderSize "start-upload response must contain 8 or 16 parameter bytes")
  if !response.data.isEmpty then
    throw (.invalidField responseHeaderSize "start-upload response must not contain data")
  let (uploadId, _) ← ({ data := response.parameters, offset := 7 } : Cursor).readUInt8
  let loadSize ← if response.parameters.length ≥ 16 then
    some <$> asciiNat (responseHeaderSize + 11) (slice response.parameters 11 16)
  else pure none
  return { uploadId, loadSize }

structure UploadFragment where
  isLast : Bool
  data : Bytes
  deriving Repr, DecidableEq

def decodeUploadFragment (reference : UInt16) (response : Response) : Except DecodeError UploadFragment := do
  validateResponse response reference uploadFunction
  if response.parameters.length != 2 then
    throw (.invalidField responseHeaderSize "upload response parameters must contain two bytes")
  let (endOfUpload, _) ← ({ data := response.parameters, offset := 1 } : Cursor).readUInt8
  if endOfUpload != 0 && endOfUpload != 1 then
    throw (.invalidField (responseHeaderSize + 1) "invalid upload continuation flag")
  let cursor : Cursor := { data := response.data }
  let (declaredLength, cursor) ← cursor.readUInt16BE
  let (marker, cursor) ← cursor.readUInt16BE
  if marker != 0x00fb then
    throw (.invalidField (responseHeaderSize + response.parameters.length + 2) "invalid upload data marker")
  if declaredLength.toNat + 4 != response.data.length then
    throw (.invalidField (responseHeaderSize + response.parameters.length)
      "upload data length does not match its section")
  let (data, cursor) ← cursor.readBytes declaredLength.toNat
  cursor.finish
  return { isLast := endOfUpload == 0, data }

def decodeEndUpload (reference : UInt16) (response : Response) : Except DecodeError Unit := do
  validateResponse response reference endUploadFunction
  if response.parameters.length != 1 || !response.data.isEmpty then
    throw (.invalidField responseHeaderSize "invalid end-upload response")

/-! ### Control of blocks -/

def encodeDeleteBlock (reference : UInt16) (blockType : BlockType) (number : Nat) : Except EncodeError Bytes := do
  let numberBytes ← decimal5 number
  encodeJob { reference, parameters :=
    [startFunction, 0, 0, 0, 0, 0, 0, 0xfd, 0, 10, 1, 0, 0x30, blockType.code] ++ numberBytes ++
      ([0x42, 5] ++ utf8 "_DELE") }

def encodeInsertBlock (reference : UInt16) (blockType : BlockType) (number : Nat) : Except EncodeError Bytes := do
  let numberBytes ← decimal5 number
  encodeJob { reference, parameters :=
    [startFunction, 0, 0, 0, 0, 0, 0, 0xfd, 0, 10, 1, 0, 0x30, blockType.code] ++ numberBytes ++
      ([0x50, 5] ++ utf8 "_INSE") }

def encodeCompress (reference : UInt16) : Except EncodeError Bytes :=
  encodeJob { reference, parameters := [startFunction, 0, 0, 0, 0, 0, 0, 0xfd, 0, 0, 5] ++ utf8 "_GARB" }

def encodeCopyRamToRom (reference : UInt16) : Except EncodeError Bytes :=
  encodeJob { reference, parameters := [startFunction, 0, 0, 0, 0, 0, 0, 0xfd, 0, 2, 0x45, 0x50, 5] ++ utf8 "_MODU" }

/-! ### Download -/

/-- Exactly one job: a packet that is cut short, or goes on, is rejected. -/
def decodeJob (pdu : Bytes) : Except DecodeError Job := do
  let cursor : Cursor := { data := pdu }
  let (actualProtocolId, cursor) ← cursor.readUInt8
  if actualProtocolId != protocolId then
    throw (.invalidField 0 s!"expected S7 protocol ID 0x32, got {actualProtocolId}")
  let (pduType, cursor) ← cursor.readUInt8
  if pduType != jobType then
    throw (.invalidField 1 s!"expected S7 job, got {pduType}")
  let (_, cursor) ← cursor.readUInt16BE
  let (reference, cursor) ← cursor.readUInt16BE
  let (parameterLength, cursor) ← cursor.readUInt16BE
  let (dataLength, cursor) ← cursor.readUInt16BE
  let expected := jobHeaderSize + parameterLength.toNat + dataLength.toNat
  if expected != pdu.length then
    throw (.invalidField 6 s!"S7 section lengths require {expected} bytes, got {pdu.length}")
  let (parameters, cursor) ← cursor.readBytes parameterLength.toNat
  let (data, cursor) ← cursor.readBytes dataLength.toNat
  cursor.finish
  return { reference, parameters, data }

abbrev JobPdu := Job

def decodeJobPdu (pdu : Bytes) : Except DecodeError JobPdu := decodeJob pdu

/-- What a job of the PLC must ask for: the function, of the block that is sent. -/
def validateDownloadServiceRequest (job : JobPdu) (function : UInt8) (blockType : BlockType) (number : Nat) :
    Except DecodeError Unit := do
  if number > 99999 then
    throw (.invalidField 0 s!"download block number {number} exceeds five digits")
  let numberBytes := [decimalDigit number 10000, decimalDigit number 1000, decimalDigit number 100,
    decimalDigit number 10, decimalDigit number 1]
  let expected := [function, 0, 0, 0, 0, 0, 0, 0, 9, 0x5f, 0x30, blockType.code] ++ numberBytes ++ [0x50]
  if job.parameters != expected then
    throw (.invalidField jobHeaderSize "invalid PLC download service parameters or block address")
  if !job.data.isEmpty then
    throw (.invalidField (jobHeaderSize + job.parameters.length)
      "PLC download service request must not contain data")

def encodeRequestDownload (reference : UInt16) (blockType : BlockType) (number loadSize mc7Size : Nat) :
    Except EncodeError Bytes := do
  let numberBytes ← decimal5 number
  let loadBytes ← decimal6 loadSize
  let mc7Bytes ← decimal6 mc7Size
  encodeJob { reference, parameters :=
    [requestDownloadFunction, 0, 1, 0, 0, 0, 0, 0, 9, 0x5f, 0x30, blockType.code] ++ numberBytes ++
      [0x50, 0x0d, 0x31] ++ loadBytes ++ mc7Bytes }

def decodeRequestDownloadAck (reference : UInt16) (response : Response) : Except DecodeError Unit := do
  validateResponse response reference requestDownloadFunction
  if response.parameters.length != 1 || !response.data.isEmpty then
    throw (.invalidField responseHeaderSize "invalid request-download acknowledgement")

def encodeDownloadFragmentResponse (reference : UInt16) (isLast : Bool) (payload : Bytes) : Except EncodeError Bytes :=
  encodeAckData reference [downloadFunction, if isLast then 0 else 1]
    (uint16BE (UInt16.ofNat payload.length) ++ [0, 0xfb] ++ payload)

def encodeDownloadEndedResponse (reference : UInt16) : Except EncodeError Bytes :=
  encodeAckData reference [downloadEndedFunction] []

end ClassicS7.S7
