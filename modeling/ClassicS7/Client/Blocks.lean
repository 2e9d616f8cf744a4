import ClassicS7.Client.Services
import ClassicS7.Wire.BlockTransfers

/-! Upload and download of blocks.

Each takes many exchanges under one deadline, and any failure ends the session. An upload
that fails in between still tells the PLC that it is over, as far as it can. In a download
the client answers: after its request it waits for the jobs of the PLC. -/
namespace ClassicS7
open Effect

section Programs
variable {W Socket α : Type} (network : Network W Socket) (config : ClientConfig)

/-! ### Upload -/

def uploadSafetyLimit : Nat := 64 * 1024 * 1024

def uploadFragments (uploadId : UInt8) (fragmentNumber : Nat) (state : Upload.State uploadSafetyLimit)
    (deadline : Option Nat) : Program (Live W Socket) (Upload.State uploadSafetyLimit) :=
  if _hlimit : fragmentNumber ≥ 65536 then
    throw (ClientError.protocol "block upload exceeded the 65536-fragment safety limit")
  else do
    let reference ← freshReference
    let request ← inputOrThrow (S7.encodeUpload reference uploadId)
    let response ← exchangeWithRetries network config reference request 0 false deadline
    let fragment ← decodeOrThrow (S7.decodeUploadFragment reference response)
    let accepted ← decodeOrThrow (Upload.accept state fragment)
    if fragment.isLast then
      return accepted.after
    else
      uploadFragments uploadId (fragmentNumber + 1) accepted.after deadline
termination_by 65536 - fragmentNumber

/-- The exchange that ends an upload, under the reference it is given. -/
def endUpload (endReference : UInt16) (uploadId : UInt8) (deadline : Option Nat) : Program (Live W Socket) Unit := do
  let endRequest ← inputOrThrow (S7.encodeEndUpload endReference uploadId)
  let endResponse ← exchangeWithRetries network config endReference endRequest 0 false deadline
  decodeOrThrow (S7.decodeEndUpload endReference endResponse)

def uploadBlockValue (blockType : S7.BlockType) (number : Nat) (decode : Bytes → Program (Live W Socket) α) :
    Program (Live W Socket) α :=
  closeOnAnyFailure network config do
    let deadline ← receiveDeadline network config.transferReceiveTimeoutMs
    let startReference ← freshReference
    let startRequest ← inputOrThrow (S7.encodeStartUpload startReference blockType number)
    let startResponse ← exchangeWithRetries network config startReference startRequest config.reconnectRetries false
      deadline
    let upload ← decodeOrThrow (S7.decodeStartUpload startReference startResponse)
    let transferred ← tryCatch (do
        let ready ← decodeOrThrow (Upload.start uploadSafetyLimit upload.loadSize)
        uploadFragments network config upload.uploadId 0 ready deadline) fun error => do
      let endReference ← freshReference
      tryCatch (endUpload network config endReference upload.uploadId deadline) fun _ => pure ()
      throw error
    let endReference ← freshReference
    endUpload network config endReference upload.uploadId deadline
    let completed ← decodeOrThrow (Upload.finish transferred)
    decode completed.assembly.data

def fullUpload (blockType : S7.BlockType) (number : Nat) : Program (Live W Socket) Bytes :=
  uploadBlockValue network config blockType number pure

/-- The code of a block, which its header of 36 bytes says the length of. -/
def upload (blockType : S7.BlockType) (number : Nat) : Program (Live W Socket) Bytes :=
  uploadBlockValue network config blockType number fun full => do
    if full.length < 36 then
      throw (ClientError.protocol "full block upload omitted its 36-byte compact header")
    let (mc7Size, _) ← Transport.orThrow ({ data := full, offset := 34 } : Cursor).readUInt16BE
    if full.length < 36 + mc7Size.toNat then
      throw (ClientError.protocol s!"block upload contains fewer than {mc7Size} MC7 bytes")
    return slice full 36 (36 + mc7Size.toNat)

/-! ### Download -/

def receiveServerJob (transferDeadline : Option Nat) : Program (Live W Socket) S7.JobPdu := do
  checkReceiveDeadline network transferDeadline
  match (← getSession).connection with
  | none => throw (ClientError.disconnected "S7 client is disconnected")
  | some connection =>
    let pduLength ← negotiatedPduLength
    let deadline := Transport.earlierReceiveDeadline
      (← receiveDeadline network config.operationTimeoutMs) transferDeadline
    Transport.orThrow (S7.decodeJobPdu
      (← onWorld (network.receiveDataUntil connection.socket deadline pduLength.toNat)))

def sendServerResponse (response : Bytes) : Program (Live W Socket) Unit := do
  match (← getSession).connection with
  | none => throw (ClientError.disconnected "S7 client is disconnected")
  | some connection => onWorld (network.sendData connection.socket response)

def serveDownloadFragments (blockType : S7.BlockType) (number : Nat) (blockData : Bytes)
    (state : Download.State blockData) (maxSlice fragmentNumber : Nat) (deadline : Option Nat) :
    Program (Live W Socket) (Download.State blockData) :=
  if _hlimit : fragmentNumber ≥ 65536 then
    throw (ClientError.protocol "block download exceeded the 65536-fragment safety limit")
  else do
    let job ← receiveServerJob network config deadline
    decodeOrThrow (S7.validateDownloadServiceRequest job S7.downloadFunction blockType number)
    match Download.nextFragment blockData state maxSlice with
    | none => throw (ClientError.protocol "unexpected PLC download fragment request")
    | some fragment =>
      let isLast := fragment.after.phase == .awaitingEnd
      let response ← inputOrThrow (S7.encodeDownloadFragmentResponse job.reference isLast fragment.chunk)
      checkReceiveDeadline network deadline
      sendServerResponse network response
      if isLast then
        return fragment.after
      else
        serveDownloadFragments blockType number blockData fragment.after maxSlice (fragmentNumber + 1) deadline
termination_by 65536 - fragmentNumber

/-- The whole of a block, as `fullUpload` returns it. The PLC asks for each fragment, and
then the client has the block inserted. -/
def downloadBlock (blockType : S7.BlockType) (number : Nat) (blockData : Bytes) : Program (Live W Socket) Unit :=
  closeOnAnyFailure network config do
    if blockData.length < 36 then
      throw (ClientError.invalidInput "download data must contain a 36-byte compact block header")
    let (mc7Size, _) ← Transport.orThrow ({ data := blockData, offset := 34 } : Cursor).readUInt16BE
    if 36 + mc7Size.toNat > blockData.length then
      throw (ClientError.invalidInput "compact block header declares more MC7 data than supplied")
    let deadline ← receiveDeadline network config.transferReceiveTimeoutMs
    let startReference ← freshReference
    let startRequest ← inputOrThrow (S7.encodeRequestDownload startReference blockType number blockData.length
      mc7Size.toNat)
    let startResponse ← exchangeWithRetries network config startReference startRequest config.reconnectRetries false
      deadline
    decodeOrThrow (S7.decodeRequestDownloadAck startReference startResponse)
    let pduLength ← negotiatedPduLength
    if pduLength.toNat ≤ 18 then
      throw (ClientError.protocol "negotiated PDU is too small for block download")
    match Download.acknowledge (Download.start blockData) with
    | none => throw (ClientError.lifecycle "download request acknowledgement was not accepted")
    | some ready =>
      let transferred ← serveDownloadFragments network config blockType number blockData ready (pduLength.toNat - 18) 0
        deadline
      let ended ← receiveServerJob network config deadline
      decodeOrThrow (S7.validateDownloadServiceRequest ended S7.downloadEndedFunction blockType number)
      match Download.finish blockData transferred with
      | none => throw (ClientError.protocol "PLC ended an incomplete block download")
      | some _ =>
        checkReceiveDeadline network deadline
        sendServerResponse network (← inputOrThrow (S7.encodeDownloadEndedResponse ended.reference))
        let insertReference ← freshReference
        let insertRequest ← inputOrThrow (S7.encodeInsertBlock insertReference blockType number)
        let insertResponse ← exchangeWithRetries network config insertReference insertRequest 0 false deadline
        decodeOrThrow (S7.decodePlcControl insertReference S7.startFunction insertResponse)

end Programs

end ClassicS7
