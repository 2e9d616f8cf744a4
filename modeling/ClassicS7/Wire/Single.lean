import ClassicS7.Wire.Items

/-! Single-item packets.

Reads and writes of one range have packets and decoders of their own. The packets are
the ones of a batch of one, and the decoders return exactly where those of a batch of
one report success. They differ on an item that failed: a batch reports its code, and
a single item raises it as the remote's failure. -/
namespace ClassicS7.S7
open Checks Cursor

def encodeAreaRead (reference : UInt16) (range : MemoryRange) : Except EncodeError Bytes := do
  let address ← encodeMemoryAddress range
  encodeJob { reference, parameters := [readFunction, 1] ++ address }

def encodeAreaWrite (reference : UInt16) (range : MemoryRange) (payload : Bytes) :
    Except EncodeError Bytes := do
  let address ← encodeMemoryAddress range
  let expectedSize := range.count * range.area.elementSize
  if payload.length != expectedSize then
    throw (.invalidPayloadSize payload.length expectedSize)
  let dataLength := if range.area.dataTransportSize == octetTransportSize then
    payload.length
  else
    payload.length * 8
  if dataLength > maxSectionSize then
    throw (.invalidSize payload.length)
  let data := [0, range.area.dataTransportSize] ++ uint16BE (UInt16.ofNat dataLength) ++ payload
  encodeJob { reference, parameters := [writeFunction, 1] ++ address, data }

def decodeAreaRead (reference : UInt16) (area : Area) (expectedSize : Nat) (response : Response) :
    Except DecodeError Bytes := do
  validateResponse response reference readFunction
  if response.parameters.length != 2 then
    throw (.invalidField responseHeaderSize "expected one read response item")
  let parameterCursor : Cursor := { data := response.parameters, offset := 1 }
  let (itemCount, parameterCursor) ← parameterCursor.readUInt8
  parameterCursor.finish
  if itemCount != 1 then
    throw (.invalidField (responseHeaderSize + 1) "expected one read response item")
  if response.data.length < 4 then
    throw (.unexpectedEnd (responseHeaderSize + 2) 4 response.data.length)
  let cursor : Cursor := { data := response.data }
  let (returnCode, cursor) ← cursor.readUInt8
  if returnCode != 0xff then
    throw (.remoteFailure (responseHeaderSize + 2) s!"read item failed with code {returnCode}")
  let (transportSize, cursor) ← cursor.readUInt8
  let compatibleByteEncoding := area.usesElementAddress && transportSize == byteTransportSize
  if transportSize != area.dataTransportSize && !compatibleByteEncoding then
    throw (.invalidField (responseHeaderSize + 3) s!"unexpected read transport size {transportSize}")
  let (encodedLength, cursor) ← cursor.readUInt16BE
  let payloadSize ← if transportSize == octetTransportSize then
    pure encodedLength.toNat
  else if encodedLength.toNat % 8 != 0 then
    throw (.invalidField (responseHeaderSize + 4) "read response bit length is not byte aligned")
  else
    pure (encodedLength.toNat / 8)
  if payloadSize != expectedSize then
    throw (.invalidField (responseHeaderSize + 4) s!"expected {expectedSize} response bytes, got {payloadSize}")
  let (payload, cursor) ← cursor.readBytes payloadSize
  cursor.finish
  return payload

def decodeDbWrite (reference : UInt16) (response : Response) : Except DecodeError Unit := do
  validateResponse response reference writeFunction
  if response.parameters.length != 2 then
    throw (.invalidField responseHeaderSize "expected one write response item")
  let parameterCursor : Cursor := { data := response.parameters, offset := 1 }
  let (itemCount, parameterCursor) ← parameterCursor.readUInt8
  parameterCursor.finish
  if itemCount != 1 then
    throw (.invalidField (responseHeaderSize + 1) "expected one write response item")
  if response.data.length != 1 then
    throw (.invalidField (responseHeaderSize + 2) "write item was not acknowledged")
  let (returnCode, dataCursor) ← Cursor.readUInt8 { data := response.data }
  dataCursor.finish
  if returnCode != 0xff then
    throw (.remoteFailure (responseHeaderSize + 2) s!"write item failed with code {returnCode}")

/-! ### Packets -/

/-- A batch of one range is the packet of that range. -/
theorem encodeAreaReadMany_singleton (reference : UInt16) (range : MemoryRange) :
    encodeAreaReadMany reference #[range] = encodeAreaRead reference range := by
  have hcount : ¬ (#[range].isEmpty || decide (#[range].size > maxItemCount)) = true := by
    simp [maxItemCount]
  unfold encodeAreaReadMany encodeAreaRead
  refine (guard_ok hcount).trans ?_
  change ((encodeMemoryAddress range >>= fun address => pure (address ++ [])) >>= _) = _
  rw [bind_assoc]
  congr 1
  funext address
  change encodeJob { reference, parameters := [readFunction, 1] ++ (address ++ []) } = _
  rw [List.append_nil]

/-- A batch of one item is the packet of that item. -/
theorem encodeAreaWriteMany_singleton (reference : UInt16) (range : MemoryRange) (payload : Bytes) :
    encodeAreaWriteMany reference #[{ range, payload }] = encodeAreaWrite reference range payload := by
  have hcount : ¬ (#[({ range, payload } : WriteItem)].isEmpty ||
      decide (#[({ range, payload } : WriteItem)].size > maxItemCount)) = true := by
    simp [maxItemCount]
  unfold encodeAreaWriteMany encodeAreaWrite
  refine (guard_ok hcount).trans ?_
  change (encodeWriteSections [{ range, payload }] >>= _) = _
  rw [encodeWriteSections]
  cases encodeMemoryAddress range with
  | error error => rfl
  | ok address =>
    change ((if _ then _ else _) >>= _) = if _ then _ else _
    dsimp only
    by_cases hsize : (payload.length != range.count * range.area.elementSize) = true
    · rw [if_pos hsize, if_pos hsize]
      rfl
    rw [if_neg hsize, if_neg hsize]
    generalize (if (range.area.dataTransportSize == octetTransportSize) = true then payload.length
      else payload.length * 8) = dataLength
    by_cases hlength : dataLength > maxSectionSize
    · rw [if_pos hlength, if_pos hlength]
      rfl
    rw [if_neg hlength, if_neg hlength]
    change encodeJob { reference, parameters := [writeFunction, 1] ++ (address ++ []), data := _ ++ [] ++ [] } = _
    simp only [List.append_nil]

/-! ### Decoders -/

section Decoders
variable {response : Response} {reference : UInt16} {function : UInt8}

theorem validateResponse_eq_ok :
    validateResponse response reference function = .ok () ↔
      response.reference = reference ∧ (response.errorClass = 0 ∧ response.errorCode = 0) ∧
        0 < response.parameters.length ∧ byteAt response.parameters 0 = function.toNat := by
  constructor
  · intro h
    have href : response.reference = reference := Classical.byContradiction fun href => by
      obtain ⟨e, he, -⟩ := validateResponse_mismatch function href
      cases h.symm.trans he
    have hset : ¬ (response.errorClass ≠ 0 ∨ response.errorCode ≠ 0) := by
      intro hset
      obtain ⟨e, he, -⟩ := validateResponse_failed function href hset
      cases h.symm.trans he
    have hstatus : ¬ (response.errorClass != 0 || response.errorCode != 0) = true := by
      rwa [Bool.or_eq_true, bne_iff_ne, bne_iff_ne]
    rw [not_or, ne_eq, ne_eq, Classical.not_not, Classical.not_not] at hset
    exact ⟨href, hset, function_of_clears hstatus (h ▸ clears_ok ())⟩
  · rintro ⟨href, ⟨hclass, hcode⟩, hlength, hfirst⟩
    exact validateResponse_ok href (by simp [hclass, hcode]) hfirst hlength

/-- The parameters of a response to one item. -/
theorem parameters_one_iff :
    itemParameters response reference function 1 = .accepted () ↔
      validateResponse response reference function = .ok () ∧
        response.parameters.length = 2 ∧ byteAt response.parameters 1 = 1 := by
  rw [itemParameters_eq_accepted, validateResponse_eq_ok, pair_eq_iff]
  constructor
  · rintro ⟨href, hstatus, hlength, hfirst, hsecond⟩
    exact ⟨⟨href, hstatus, by omega, hfirst⟩, hlength, hsecond⟩
  · rintro ⟨⟨href, hstatus, -, hfirst⟩, hlength, hsecond⟩
    exact ⟨href, hstatus, hlength, hfirst, hsecond⟩

/-- The bytes of a successful single read item, by position. -/
structure ReadOne (range : MemoryRange) (data : Bytes) : Prop where
  extent : 4 + itemSize data 0 = data.length
  code : byteAt data 0 = 255
  aligned : byteAt data 1 = 9 ∨ wordAt data 2 % 8 = 0
  form : range.acceptsItem (byteAt data 1) (itemSize data 0)

/-- A data section of one successful item. -/
theorem readItems_one {range : MemoryRange} {data payload : Bytes} :
    readItems [range] data 0 = some [.success payload] ↔ ReadOne range data ∧ payload = data.drop 4 := by
  have hnext : itemNext true data 0 = 4 + itemSize data 0 := by simp [itemNext]
  rw [readItems]
  constructor
  · intro h
    split at h
    · rename_i frame
      rw [readItems, List.isEmpty_nil, hnext] at h
      split at h
      · rename_i hend
        have hcode : byteAt data 0 = 255 := Classical.byContradiction fun hcode => by
          simp [itemResult, hcode] at h
        refine ⟨⟨hend, hcode, frame.aligned, frame.form hcode⟩, ?_⟩
        rw [itemResult, if_pos hcode, slice_to_end _ _ _ (by omega)] at h
        simpa using h.symm
      · cases h
    · cases h
  · rintro ⟨one, rfl⟩
    have hextent := one.extent
    have frame : ReadItemFrame range ([] : List MemoryRange).isEmpty data 0 :=
      ⟨by omega, one.aligned, by rw [List.isEmpty_nil, hnext]; omega, fun _ => one.form⟩
    rw [if_pos frame, readItems, List.isEmpty_nil, hnext, if_pos hextent, itemResult, if_pos one.code,
      slice_to_end _ _ _ (by omega)]
    rfl

/-- The size an item of one range announces. -/
theorem payloadSize_bind_eq_ok {α : Type} {data : Bytes} {e : DecodeError} {f : Nat → Except DecodeError α} {a : α} :
    (if (UInt8.ofNat (byteAt data 1) == octetTransportSize) = true then
        f (UInt16.ofNat (wordAt data 2)).toNat
      else if ((UInt16.ofNat (wordAt data 2)).toNat % 8 != 0) = true then
        throw e >>= f
      else f ((UInt16.ofNat (wordAt data 2)).toNat / 8)) = .ok a ↔
      (byteAt data 1 = 9 ∨ wordAt data 2 % 8 = 0) ∧ f (itemSize data 0) = .ok a := by
  simp only [toNat_wordAt, transport_check, itemSize]
  by_cases htransport : byteAt data 1 = 9
  · simp [htransport]
  · by_cases hbits : wordAt data 2 % 8 = 0
    · simp [htransport, hbits]
    · simp [htransport, hbits, throw, throwThe, MonadExceptOf.throw, bind, Except.bind]

/-- A single read returns exactly where a batch of one reports success. -/
theorem decodeAreaRead_eq_ok {reference : UInt16} {range : MemoryRange} {response : Response} {payload : Bytes} :
    decodeAreaRead reference range.area (range.count * range.area.elementSize) response = .ok payload ↔
      decodeAreaReadMany reference #[range] response = .ok #[.success payload] := by
  rw [decodeAreaReadMany_eq_ok (by simp) (by simp [maxItemCount])]
  change _ ↔ itemParameters response reference readFunction 1 = .accepted () ∧
    readItems [range] response.data 0 = some [.success payload]
  rw [parameters_one_iff, readItems_one]
  unfold decodeAreaRead
  rw [bind_eq_ok]
  constructor
  · rintro ⟨_, hvalid, h⟩
    obtain ⟨hparameters, h⟩ := guard_eq_ok.mp h
    obtain ⟨-, h⟩ := readUInt8_bind_eq_ok.mp h
    obtain ⟨-, h⟩ := finish_bind_eq_ok.mp h
    obtain ⟨hcount, h⟩ := guard_eq_ok.mp h
    obtain ⟨-, h⟩ := guard_eq_ok.mp h
    obtain ⟨-, h⟩ := readUInt8_bind_eq_ok.mp h
    obtain ⟨hcode, h⟩ := guard_eq_ok.mp h
    obtain ⟨-, h⟩ := readUInt8_bind_eq_ok.mp h
    obtain ⟨htransport, h⟩ := guard_eq_ok.mp h
    obtain ⟨hheader, h⟩ := readUInt16BE_bind_eq_ok.mp h
    obtain ⟨haligned, h⟩ := payloadSize_bind_eq_ok.mp h
    obtain ⟨hsize, h⟩ := guard_eq_ok.mp h
    obtain ⟨-, h⟩ := (readBytes_bind_eq_ok hheader).mp h
    obtain ⟨hextent, h⟩ := finish_bind_eq_ok.mp h
    cases h
    have htransport := (transport_mismatch 1).mp htransport
    rw [bne_iff_ne, ne_eq, Classical.not_not] at hparameters hsize
    exact ⟨⟨hvalid, hparameters, (byte_check ..).mp hcount⟩,
      ⟨hextent, (byte_check ..).mp hcode, haligned, htransport, hsize⟩,
      slice_to_end _ _ _ (Nat.le_of_eq hextent.symm)⟩
  · rintro ⟨⟨hvalid, hparameters, hcount⟩, ⟨hextent, hcode, haligned, htransport, hsize⟩, rfl⟩
    refine ⟨(), hvalid, guard_eq_ok.mpr ⟨by simpa using hparameters, ?_⟩⟩
    refine readUInt8_bind_eq_ok.mpr ⟨by omega, finish_bind_eq_ok.mpr ⟨hparameters.symm, ?_⟩⟩
    refine guard_eq_ok.mpr ⟨(byte_check ..).mpr hcount, guard_eq_ok.mpr ⟨by omega, ?_⟩⟩
    refine readUInt8_bind_eq_ok.mpr ⟨by omega, guard_eq_ok.mpr ⟨(byte_check ..).mpr hcode, ?_⟩⟩
    refine readUInt8_bind_eq_ok.mpr ⟨by omega, guard_eq_ok.mpr ⟨(transport_mismatch 1).mpr htransport, ?_⟩⟩
    refine readUInt16BE_bind_eq_ok.mpr ⟨by omega, payloadSize_bind_eq_ok.mpr ⟨haligned, ?_⟩⟩
    refine guard_eq_ok.mpr ⟨by simpa using hsize, ?_⟩
    refine (readBytes_bind_eq_ok (by omega)).mpr ⟨by omega, finish_bind_eq_ok.mpr ⟨hextent, ?_⟩⟩
    exact congrArg Except.ok (slice_to_end _ _ _ (Nat.le_of_eq hextent.symm))

/-- A single read returns as many bytes as its range has. -/
theorem decodeAreaRead_size {reference : UInt16} {range : MemoryRange} {response : Response} {payload : Bytes}
    (h : decodeAreaRead reference range.area (range.count * range.area.elementSize) response = .ok payload) :
    payload.length = range.count * range.area.elementSize := by
  rw [decodeAreaRead_eq_ok, decodeAreaReadMany_eq_ok (by simp) (by simp [maxItemCount])] at h
  obtain ⟨one, rfl⟩ := readItems_one.mp h.2
  have hextent := one.extent
  rw [List.length_drop, ← one.form.2]
  omega

/-- A single write is acknowledged exactly where a batch of one reports success. -/
theorem decodeDbWrite_eq_ok {reference : UInt16} {response : Response} :
    decodeDbWrite reference response = .ok () ↔
      decodeAreaWriteMany reference 1 response = .ok #[.success] := by
  have hsuccess : response.data.length = 1 ∧ [WriteItemResult.success] = response.data.map .ofReturnCode ↔
      response.data.length = 1 ∧ byteAt response.data 0 = 255 := by
    refine and_congr_right fun hlength => ?_
    match hdata : response.data, hlength with
    | [code], _ =>
      have hcode : (code == 0xff) = true ↔ byteAt [code] 0 = 255 := by
        rw [beq_iff_eq, byte_eq_iff]
        rfl
      rw [← hcode, List.map_singleton, WriteItemResult.ofReturnCode]
      split <;> simp [*]
  rw [decodeAreaWriteMany_eq_ok (by decide) (by decide)]
  change _ ↔ itemParameters response reference writeFunction 1 = .accepted () ∧
    response.data.length = 1 ∧ [WriteItemResult.success] = response.data.map .ofReturnCode
  rw [hsuccess, parameters_one_iff]
  unfold decodeDbWrite
  rw [bind_eq_ok]
  constructor
  · rintro ⟨_, hvalid, h⟩
    obtain ⟨hparameters, h⟩ := guard_eq_ok.mp h
    obtain ⟨-, h⟩ := readUInt8_bind_eq_ok.mp h
    obtain ⟨-, h⟩ := finish_bind_eq_ok.mp h
    obtain ⟨hcount, h⟩ := guard_eq_ok.mp h
    obtain ⟨hlength, h⟩ := guard_eq_ok.mp h
    obtain ⟨-, h⟩ := readUInt8_bind_eq_ok.mp h
    obtain ⟨-, h⟩ := finish_bind_eq_ok.mp h
    rw [bne_iff_ne, ne_eq, Classical.not_not] at hparameters hlength
    refine ⟨⟨hvalid, hparameters, (byte_check ..).mp hcount⟩, hlength, ?_⟩
    refine (byte_check _ _ 0xff).mp fun hcode => ?_
    rw [if_pos hcode] at h
    cases h
  · rintro ⟨⟨hvalid, hparameters, hcount⟩, hlength, hcode⟩
    refine ⟨(), hvalid, guard_eq_ok.mpr ⟨by simpa using hparameters, ?_⟩⟩
    refine readUInt8_bind_eq_ok.mpr ⟨by omega, finish_bind_eq_ok.mpr ⟨hparameters.symm, ?_⟩⟩
    refine guard_eq_ok.mpr ⟨(byte_check ..).mpr hcount, guard_eq_ok.mpr ⟨by simpa using hlength, ?_⟩⟩
    refine readUInt8_bind_eq_ok.mpr ⟨by omega, finish_bind_eq_ok.mpr ⟨hlength.symm, ?_⟩⟩
    exact if_neg ((byte_check ..).mpr hcode)

/-- **A single item is a batch of one**: it is sent as the same packet, or refused for the
same reason, and a response is taken for it exactly when it is the batch's success. -/
theorem single_eq_batch (reference : UInt16) (range : MemoryRange) (response : Response) :
    encodeAreaRead reference range = encodeAreaReadMany reference #[range] ∧
      (∀ payload, encodeAreaWrite reference range payload =
        encodeAreaWriteMany reference #[{ range, payload }]) ∧
      (∀ payload, decodeAreaRead reference range.area (range.count * range.area.elementSize) response =
        .ok payload ↔ decodeAreaReadMany reference #[range] response = .ok #[.success payload]) ∧
      (decodeDbWrite reference response = .ok () ↔
        decodeAreaWriteMany reference 1 response = .ok #[.success]) :=
  ⟨(encodeAreaReadMany_singleton reference range).symm,
    fun payload => (encodeAreaWriteMany_singleton reference range payload).symm,
    fun _ => decodeAreaRead_eq_ok, decodeDbWrite_eq_ok⟩

end Decoders

end ClassicS7.S7
