import ClassicS7.Client.Batches
import ClassicS7.Client.Serving

/-! Batches: a client and a peer that counts on its own.

The client writes many items of one size, and reads them back; the peer expects each
request to hold as many items as its own budget allows, in order and with nothing lost or
repeated, and rejects every seventh item. This module follows one batch from the client to
the peer and back. -/
namespace ClassicS7

/-! ### The peer -/

namespace Oracle.MultiBatching
open Dialogue

/-- The address of an item. -/
def itemSpec (itemSize index : Nat) : Bytes :=
  [0x12, 0x0a, 0x10, 2] ++ pack16 itemSize ++ pack16 1 ++ [0x84] ++ pack24 (index * 256 * 8)

/-- The data of an item, with its header. -/
def itemData (itemSize index : Nat) (code : UInt8) : Bytes :=
  [code, 4] ++ pack16 (itemSize * 8) ++ List.replicate itemSize (UInt8.ofNat index)

def failing (index : Nat) : Bool := index % 7 == 3

/-- The number of items that the next request should have. -/
def expected (function pduLength itemCount completed itemSize : Nat) : Nat :=
  if function = 5 then
    min (min 20 (itemCount - completed)) ((pduLength - 12) / (16 + itemSize + itemSize % 2))
  else
    min (min (min 20 (itemCount - completed)) ((pduLength - 12) / 12))
      ((pduLength - 14) / (4 + itemSize + itemSize % 2))

section Serve
variable (pduLength itemCount itemSize : Nat)

/-- What packing an item would refuse. -/
def checkItem (index : Nat) : Except String Unit := do
  if itemSize * 8 > 65535 then throw "'H' format requires 0 <= number <= 65535"
  if index > 255 then throw "bytes must be in range(0, 256)"

/-- Check one item of a request and answer it: where its data ends, and the response so far. -/
def serveItem (function completed count : Nat) (request : Bytes) (position dataOffset : Nat) (responseData : Bytes) :
    Except String (Nat × Bytes) := do
  let index := completed + position
  if itemSize > 65535 then throw "'H' format requires 0 <= number <= 65535"
  if index * 256 * 8 > 0xffffff then throw "int too big to convert"
  if slice request (12 + position * 12) (24 + position * 12) ≠ itemSpec itemSize index then
    throw "multi-batching item lost, repeated, or reordered"
  if function = 5 then
    checkItem itemSize index
    let size := 4 + itemSize
    if slice request dataOffset (dataOffset + size) ≠ itemData itemSize index 0 then
      throw "multi-batching write payload changed order"
    let dataOffset := dataOffset + size
    let status : Bytes := [if failing index then 5 else 0xff]
    if position + 1 < count ∧ itemSize % 2 ≠ 0 then
      if slice request dataOffset (dataOffset + 1) ≠ [0] then throw "multi-batching write padding mismatch"
      return (dataOffset + 1, responseData ++ status)
    else return (dataOffset, responseData ++ status)
  else if failing index then
    return (dataOffset, responseData ++ [5, 0, 0, 0])
  else
    checkItem itemSize index
    let padding : Bytes := if position + 1 < count ∧ itemSize % 2 ≠ 0 then [0] else []
    return (dataOffset, responseData ++ (itemData itemSize index 0xff ++ padding))

def serveItems (function completed count : Nat) (request : Bytes) : List Nat → Nat → Bytes → Except String (Nat × Bytes)
  | [], dataOffset, responseData => .ok (dataOffset, responseData)
  | position :: rest, dataOffset, responseData => do
    let (dataOffset, responseData) ←
      serveItem itemSize function completed count request position dataOffset responseData
    serveItems function completed count request rest dataOffset responseData

/-- Check a request for a batch: how many items it has, and the response. -/
def serveBatch (function completed : Nat) (request : Bytes) : Except String (Nat × Bytes) := do
  if request.length > pduLength ∨ request.take 2 ≠ [0x32, 1] then
    throw "multi-batching request exceeded negotiated PDU"
  if request.length < 10 then throw "unpack requires a buffer of 6 bytes"
  let parametersSize := wordAt request 6
  let dataSize := wordAt request 8
  if request.length ≠ 10 + parametersSize + dataSize then throw "multi-batching request length mismatch"
  if request.length < 11 then throw "index out of range"
  if byteAt request 10 ≠ function then throw "multi-batching request function/order mismatch"
  if function = 4 ∧ dataSize ≠ 0 then throw "multi-batching read request had unexpected data"
  if request.length < 12 then throw "index out of range"
  let count := byteAt request 11
  if count ≠ expected function pduLength itemCount completed itemSize ∨ parametersSize ≠ 2 + 12 * count then
    throw "multi-batching count did not match independent budget"
  let (dataOffset, responseData) ←
    serveItems itemSize function completed count request (List.range' 0 count) (10 + parametersSize) []
  if function = 5 ∧ dataOffset ≠ request.length then throw "multi-batching write request had trailing bytes"
  let response ← Peer.ack (wordAt request 4) [UInt8.ofNat function, UInt8.ofNat count] responseData
  if response.length > pduLength then throw "multi-batching peer response exceeded negotiated PDU"
  return (count, response)

/-- Answer the batches of one function, up to the last item. With a PDU that has no room for
an item the source answers empty requests as long as they come; it is followed for so many
`rounds`. -/
def serveBatches (function rounds : Nat) (completed batches : Nat := 0) : Dialogue Unit :=
  if completed < itemCount then
    match rounds with
    | 0 => failed "out of rounds"
    | rounds + 1 => do
      let request ← Peer.request
      let (count, response) ← Peer.orFail (serveBatch pduLength itemCount itemSize function completed request)
      Peer.send ([2, 0xf0, 0x80] ++ response)
      serveBatches function rounds (completed + count) (batches + 1)
  else if batches < 3 then failed "multi-batching fixture did not exercise multiple boundaries"
  else finished ()

/-- Answer a setup. -/
def answerSetup (setup : Bytes) : Dialogue Unit :=
  if setup.length < 11 then failed "index out of range"
  else if byteAt setup 10 ≠ 0xf0 then failed "expected multi-batching SETUP"
  else if pduLength > 65535 then failed "'H' format requires 0 <= number <= 65535"
  else do
    let response ← Peer.orFail (Peer.ack (fromBytes (slice setup 4 6)) ([0xf0, 0, 0, 1, 0, 1] ++ pack16 pduLength))
    Peer.send ([2, 0xf0, 0x80] ++ response)

/-- The client says goodbye. -/
def disconnected : Dialogue Unit := do
  let disconnected ← Peer.receive
  if disconnected.length < 2 ∨ byteAt disconnected 1 ≠ 0x80 then failed "multi-batching client did not disconnect"
  else finished ()

/-- The whole conversation: the handshake, the writes, the reads, the goodbye. -/
def serve (rounds : Nat) : Dialogue Unit := do
  let cr ← Peer.receive
  if cr.length < 6 then failed "index out of range"
  else do
    Peer.send ([0x11, 0xd0] ++ slice cr 4 6 ++ [0, 1, 0] ++ cr.drop 7)
    answerSetup pduLength (← Peer.request)
    serveBatches pduLength itemCount itemSize 5 rounds
    serveBatches pduLength itemCount itemSize 4 rounds
    disconnected

end Serve

end Oracle.MultiBatching

/-! ### The client -/

namespace MultiBatchingIntegration

def ranges (count size : Nat) : Array S7.MemoryRange :=
  (Array.range count).map fun index => { area := .dataBlocks, dbNumber := 1, start := index * 256, count := size }

def items (count size : Nat) : Array S7.WriteItem :=
  (ranges count size).mapIdx fun index range => { range, payload := List.replicate size (UInt8.ofNat index) }

def expectedWrite (index : Nat) : S7.WriteItemResult := if index % 7 == 3 then .failure 5 else .success

def expectedRead (size index : Nat) : S7.ReadItemResult :=
  if index % 7 == 3 then .failure 5 else .success (List.replicate size (UInt8.ofNat index))

section Programs
variable {W Socket : Type} (network : Network W Socket) (config : ClientConfig)

def require (condition : Bool) (message : String) : Program W Unit :=
  if condition then pure () else throw (.userError message)

/-- The transfers of a client that has connected. -/
def runTransfers (pdu count size : Nat) : Program (Live W Socket) Unit :=
  tryCatch (do
    require ((← negotiatedPduLength).toNat == pdu) "unexpected negotiated batch PDU"
    let written ← writeMulti network config (items count size)
    let read ← readMulti network config (ranges count size)
    require (written.size == count && read.size == count) "batching changed result count"
    (List.range count).forM fun index =>
      require (written[index]? == some (expectedWrite index) && read[index]? == some (expectedRead size index))
        s!"batching changed result order at {index}"
    disconnect network config) fun error => do
      tryCatch (disconnect network config) fun _ => pure ()
      throw error

def clientConfig (address : Transport.IPv4Addr) (port : UInt16) : ClientConfig where
  endpoint := .ipv4 address
  port
  connectTimeoutMs := some 1000
  operationTimeoutMs := some 1000

/-- Connect, write all items, and read them back. -/
def runMultiBatchingIntegration (address : Transport.IPv4Addr) (port : UInt16) (pdu count size : Nat) :
    Program W Unit := do
  let session ← connect network (clientConfig address port)
  session.run (runTransfers network (clientConfig address port) pdu count size)

end Programs

end MultiBatchingIntegration

/-! ### Requests and replies -/

namespace Oracle.MultiBatching
open Checks Effect

/-- The range of an item, on the client's side. -/
def range (itemSize index : Nat) : S7.MemoryRange :=
  { area := .dataBlocks, dbNumber := 1, start := index * 256, count := itemSize }

def item (itemSize index : Nat) : S7.WriteItem :=
  { range := range itemSize index, payload := List.replicate itemSize (UInt8.ofNat index) }

/-- A byte between two items of an odd size. -/
def padding (itemSize : Nat) (rest : List Nat) : Bytes := if rest ≠ [] ∧ itemSize % 2 ≠ 0 then [0] else []

/-- The data of a write, item by item. -/
def writeData (itemSize : Nat) : List Nat → Bytes
  | [] => []
  | index :: rest => itemData itemSize index 0 ++ padding itemSize rest ++ writeData itemSize rest

/-- The data of the response to a read, item by item. -/
def readReply (itemSize : Nat) : List Nat → Bytes
  | [] => []
  | index :: rest =>
    (if failing index then [5, 0, 0, 0] else itemData itemSize index 0xff ++ padding itemSize rest) ++
      readReply itemSize rest

def status (index : Nat) : UInt8 := if failing index then 5 else 0xff

/-- Items that are in their place in the data block, and that a PDU can hold. -/
structure Small (itemSize : Nat) (indices : List Nat) : Prop where
  size : 0 < itemSize ∧ itemSize ≤ 1021
  index : ∀ index ∈ indices, index ≤ 255

section Sections
variable {itemSize : Nat} {indices : List Nat}

theorem Small.tail {index : Nat} (small : Small itemSize (index :: indices)) : Small itemSize indices :=
  ⟨small.size, fun index h => small.index index (List.mem_cons_of_mem _ h)⟩

theorem Small.head {index : Nat} (small : Small itemSize (index :: indices)) : index ≤ 255 :=
  small.index index List.mem_cons_self

theorem length_itemData (itemSize index : Nat) (code : UInt8) :
    (itemData itemSize index code).length = 4 + itemSize := by
  simp only [itemData, pack16, List.length_append, List.length_cons, List.length_nil, List.length_replicate]

theorem length_itemSpec (itemSize index : Nat) : (itemSpec itemSize index).length = 12 := rfl

theorem length_specs (itemSize : Nat) (indices : List Nat) :
    (indices.flatMap (itemSpec itemSize)).length = 12 * indices.length := by
  induction indices with
  | nil => rfl
  | cons index rest ih =>
    rw [List.flatMap_cons, List.length_append, ih, length_itemSpec, List.length_cons]
    omega

theorem encodeMemoryAddress_ok {index : Nat} (hsize : 0 < itemSize ∧ itemSize ≤ 1021) (hindex : index ≤ 255) :
    S7.encodeMemoryAddress (range itemSize index) = .ok (itemSpec itemSize index) :=
  encodeMemoryAddress_dataBlock ⟨hsize.1, by omega⟩ (by omega)

theorem encodeReadAddresses_ok (small : Small itemSize indices) :
    S7.encodeReadAddresses (indices.map (range itemSize)) = .ok (indices.flatMap (itemSpec itemSize)) := by
  induction indices with
  | nil => rfl
  | cons index rest ih =>
    rw [List.map_cons, S7.encodeReadAddresses, bind_ok (encodeMemoryAddress_ok small.size small.head),
      bind_ok (ih small.tail), List.flatMap_cons]
    rfl

theorem encodeWriteSections_ok (small : Small itemSize indices) :
    S7.encodeWriteSections (indices.map (item itemSize)) =
      .ok (indices.flatMap (itemSpec itemSize), writeData itemSize indices) := by
  induction indices with
  | nil => rfl
  | cons index rest ih =>
    have hsize := small.size
    have hpayload : (item itemSize index).payload.length = itemSize := List.length_replicate
    rw [List.map_cons, S7.encodeWriteSections]
    refine (bind_ok (encodeMemoryAddress_ok hsize small.head) _).trans ((guard_ok ?_).trans ((guard_ok ?_).trans ?_))
    · rw [bne_iff_ne]
      exact not_not_intro (hpayload.trans (Nat.mul_one _).symm)
    · show ¬ (item itemSize index).payload.length * 8 > 65535
      rw [hpayload]
      omega
    · refine (bind_ok (ih small.tail) _).trans ?_
      have hpadding : (if !(rest.map (item itemSize)).isEmpty && (item itemSize index).payload.length % 2 != 0 then
          [(0 : UInt8)] else []) = padding itemSize rest := by
        rw [padding, hpayload]
        cases rest <;> simp
      have hbits : (if (item itemSize index).range.area.dataTransportSize == S7.octetTransportSize then
          (item itemSize index).payload.length else (item itemSize index).payload.length * 8) = itemSize * 8 :=
        congrArg (· * 8) hpayload
      dsimp only
      rw [hpadding, hbits, uint16BE_ofNat _ (by omega), List.flatMap_cons]
      rfl

end Sections

/-! ### What the peer makes of a request -/

section Requests
variable {itemSize completed count position left dataOffset : Nat} {request tail responseData : Bytes}

/-- Of the items that are left, the next one is padded where others follow it. -/
theorem padding_range' (itemSize start : Nat) (hcount : position + (left + 1) = count) :
    padding itemSize (List.range' start left) = if position + 1 < count ∧ itemSize % 2 ≠ 0 then [0] else [] := by
  have hmore : List.range' start left ≠ [] ↔ position + 1 < count := by
    rw [ne_eq, List.range'_eq_nil_iff]
    omega
  rw [padding]
  simp only [hmore]

theorem checkItem_ok {index : Nat} (hsize : 0 < itemSize ∧ itemSize ≤ 1021) (hindex : index ≤ 255) :
    checkItem itemSize index = .ok () := by
  unfold checkItem
  rw [guard_ok (by omega), if_neg (by omega)]
  rfl

/-- The peer finds each item of a read where it expects it. -/
theorem serveItems_read (small : Small itemSize (List.range' (completed + position) left))
    (hcount : position + left = count)
    (hspecs : request.drop (12 + position * 12) =
      (List.range' (completed + position) left).flatMap (itemSpec itemSize) ++ tail) :
    serveItems itemSize 4 completed count request (List.range' position left) dataOffset responseData =
      .ok (dataOffset, responseData ++ readReply itemSize (List.range' (completed + position) left)) := by
  induction left generalizing position responseData with
  | zero => simp [serveItems, readReply]
  | succ left ih =>
    have hsize := small.size
    rw [List.range'_succ] at small hspecs
    rw [List.flatMap_cons, List.append_assoc] at hspecs
    have hindex := small.head
    have hitem : serveItem itemSize 4 completed count request position dataOffset responseData =
        .ok (dataOffset, responseData ++ if failing (completed + position) then [5, 0, 0, 0]
          else itemData itemSize (completed + position) 0xff ++
            padding itemSize (List.range' (completed + position + 1) left)) := by
      unfold serveItem
      refine (guard_ok (by omega)).trans ((guard_ok (by omega)).trans ((guard_ok ?_).trans ?_))
      · exact not_not_intro (slice_of_drop hspecs (by rw [length_itemSpec]; omega))
      rw [if_neg (by decide), padding_range' itemSize _ hcount]
      by_cases hfailing : failing (completed + position) = true
      · rw [if_pos hfailing, if_pos hfailing]
        rfl
      · rw [if_neg hfailing, if_neg hfailing, checkItem_ok hsize hindex]
        rfl
    have hnext : request.drop (12 + (position + 1) * 12) = _ :=
      drop_of_drop hspecs (by rw [length_itemSpec]; omega)
    rw [List.range'_succ, List.range'_succ, serveItems, bind_ok hitem, readReply, ← List.append_assoc]
    exact ih small.tail (by omega) hnext

/-- The peer finds each item of a write, and its data, where it expects them. -/
theorem serveItems_write (small : Small itemSize (List.range' (completed + position) left))
    (hcount : position + left = count)
    (hspecs : request.drop (12 + position * 12) =
      (List.range' (completed + position) left).flatMap (itemSpec itemSize) ++ tail)
    (hdata : request.drop dataOffset = writeData itemSize (List.range' (completed + position) left))
    (hoffset : dataOffset ≤ request.length) :
    serveItems itemSize 5 completed count request (List.range' position left) dataOffset responseData =
      .ok (request.length, responseData ++ (List.range' (completed + position) left).map status) := by
  induction left generalizing position dataOffset responseData with
  | zero =>
    have hend : dataOffset = request.length := by
      have hrest := List.drop_eq_nil_iff.mp hdata
      omega
    simp [serveItems, hend]
  | succ left ih =>
    have hsize := small.size
    rw [List.range'_succ] at small hspecs hdata
    rw [List.flatMap_cons, List.append_assoc] at hspecs
    rw [writeData, List.append_assoc] at hdata
    have hindex := small.head
    let next := dataOffset + (4 + itemSize)
    have hafter : request.drop next = _ := drop_of_drop hdata (by rw [length_itemData])
    have hitem : serveItem itemSize 5 completed count request position dataOffset responseData =
        .ok (next + (padding itemSize (List.range' (completed + position + 1) left)).length,
          responseData ++ [status (completed + position)]) := by
      unfold serveItem
      refine (guard_ok (by omega)).trans ((guard_ok (by omega)).trans ((guard_ok ?_).trans ?_))
      · exact not_not_intro (slice_of_drop hspecs (by rw [length_itemSpec]; omega))
      rw [if_pos rfl]
      refine (bind_ok (checkItem_ok hsize hindex) _).trans ((guard_ok (not_not_intro ?_)).trans ?_)
      · exact slice_of_drop hdata (by rw [length_itemData])
      rw [padding_range' itemSize _ hcount] at hafter ⊢
      dsimp only
      by_cases hpadded : position + 1 < count ∧ itemSize % 2 ≠ 0
      · rw [if_pos hpadded] at hafter
        rw [if_pos hpadded, if_pos hpadded]
        exact guard_ok (not_not_intro (slice_of_drop hafter rfl))
      · rw [if_neg hpadded, if_neg hpadded]
        rfl
    have hnext : request.drop (12 + (position + 1) * 12) = _ :=
      drop_of_drop hspecs (by rw [length_itemSpec]; omega)
    have hrest : request.drop (next + (padding itemSize (List.range' (completed + position + 1) left)).length) = _ :=
      drop_of_drop hafter rfl
    have hwithin := congrArg List.length hdata
    simp only [List.length_drop, List.length_append, length_itemData] at hwithin
    rw [List.range'_succ, List.range'_succ, serveItems, bind_ok hitem, List.map_cons,
      List.append_cons responseData (status (completed + position)) (List.map status _)]
    exact ih small.tail (by omega) hnext hrest (by omega)

end Requests

/-! ### What the client makes of a response -/

section Responses
variable {itemSize : Nat} {indices : List Nat} {data tail : Bytes} {offset : Nat}

/-- The client reads the items of a response as the peer has answered them. -/
theorem readItems_readReply (small : Small itemSize indices) (hoffset : offset ≤ data.length)
    (hdata : data.drop offset = readReply itemSize indices) :
    S7.readItems (indices.map (range itemSize)) data offset =
      some (indices.map (MultiBatchingIntegration.expectedRead itemSize)) := by
  induction indices generalizing offset with
  | nil =>
    have hend : offset = data.length := by
      have hrest := List.drop_eq_nil_iff.mp hdata
      omega
    rw [List.map_nil, S7.readItems, if_pos hend]
    rfl
  | cons index rest ih =>
    have hsize := small.size
    have hindex := small.head
    have hlength := congrArg List.length hdata
    rw [List.map_cons, List.map_cons, S7.readItems]
    rw [readReply] at hdata hlength
    by_cases hfailing : failing index = true
    · rw [if_pos hfailing] at hdata hlength
      have hcode : byteAt data offset = 5 := byteAt_of_drop hdata 0 (by decide)
      have htransport : byteAt data (offset + 1) = 0 := byteAt_of_drop hdata 1 (by decide)
      have hword : wordAt data (offset + 2) = 0 := wordAt_of_drop hdata 2 (by decide)
      have hnone : S7.itemSize data offset = 0 := by
        rw [S7.itemSize, htransport, hword]
        rfl
      have hnext (final : Bool) : S7.itemNext final data offset = offset + 4 := by
        rw [S7.itemNext, hnone]
        simp
      have hresult : S7.itemResult data offset = MultiBatchingIntegration.expectedRead itemSize index := by
        rw [S7.itemResult, hcode, if_neg (by decide)]
        exact (if_pos hfailing).symm
      simp only [List.length_drop, List.length_append, List.length_cons, List.length_nil] at hlength
      have frame : S7.ReadItemFrame (range itemSize index) (rest.map (range itemSize)).isEmpty data offset :=
        ⟨by omega, .inr (by rw [hword]), by rw [hnext]; omega, fun h => by omega⟩
      have hafter : data.drop (offset + 4) = readReply itemSize rest := drop_of_drop hdata rfl
      rw [if_pos frame, hnext, hresult, ih small.tail (by omega) hafter]
      rfl
    · rw [if_neg hfailing, List.append_assoc] at hdata hlength
      have hitem := length_itemData itemSize index 0xff
      have hcode : byteAt data offset = 255 := byteAt_of_drop hdata 0 (by omega)
      have htransport : byteAt data (offset + 1) = 4 := byteAt_of_drop hdata 1 (by omega)
      have hword : wordAt data (offset + 2) = itemSize * 8 :=
        (wordAt_of_drop hdata 2 (by omega)).trans (toNat_pack16 _ (by omega))
      have hbytes : S7.itemSize data offset = itemSize := by
        rw [S7.itemSize, htransport, hword, if_neg (by decide)]
        omega
      have hpadding : (padding itemSize rest).length =
          if (rest.map (range itemSize)).isEmpty = false ∧ itemSize % 2 = 1 then 1 else 0 := by
        rw [padding]
        cases rest with
        | nil => simp
        | cons next rest =>
          by_cases hodd : itemSize % 2 = 1
          · simp [hodd]
          · simp [hodd]
      have hnext : S7.itemNext (rest.map (range itemSize)).isEmpty data offset =
          offset + (4 + itemSize) + (padding itemSize rest).length := by
        rw [S7.itemNext, hbytes, hpadding]
        omega
      have hheader : data.drop offset = ([0xff, 4] ++ pack16 (itemSize * 8)) ++
          (List.replicate itemSize (UInt8.ofNat index) ++ (padding itemSize rest ++ readReply itemSize rest)) := by
        rw [hdata, itemData, List.append_assoc]
      have hpayload : slice data (offset + 4) (offset + 4 + itemSize) = List.replicate itemSize (UInt8.ofNat index) :=
        slice_of_drop (drop_of_drop hheader rfl) (by rw [List.length_replicate])
      have hresult : S7.itemResult data offset = MultiBatchingIntegration.expectedRead itemSize index := by
        rw [S7.itemResult, if_pos hcode, hbytes, hpayload]
        exact (if_neg hfailing).symm
      simp only [List.length_drop, List.length_append, hitem] at hlength
      have frame : S7.ReadItemFrame (range itemSize index) (rest.map (range itemSize)).isEmpty data offset := by
        refine ⟨by omega, .inr (by rw [hword]; omega), by rw [hnext]; omega, fun _ => ⟨.inl htransport, ?_⟩⟩
        exact hbytes.trans (Nat.mul_one _).symm
      have hafter := drop_of_drop (drop_of_drop hdata (by rw [hitem])) rfl
      rw [if_pos frame, hnext, hresult, ih small.tail (by omega) hafter]
      rfl

/-- The client reads the statuses of a response as the peer has set them. -/
theorem ofReturnCode_status (index : Nat) :
    S7.WriteItemResult.ofReturnCode (status index) = MultiBatchingIntegration.expectedWrite index := by
  unfold status MultiBatchingIntegration.expectedWrite failing
  by_cases hfailing : (index % 7 == 3) = true
  · rw [if_pos hfailing, if_pos hfailing]
    rfl
  · rw [if_neg hfailing, if_neg hfailing]
    rfl

end Responses

end Oracle.MultiBatching

end ClassicS7
