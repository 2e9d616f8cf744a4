import ClassicS7.Wire.Request

/-! Responses: the common header of ACK and ACK_DATA packets.

`ResponseFrame` says by position what a packet must hold for `decodeResponse` to
accept it; `decodeResponse_frame` and `decodeResponse_rejects` say that it then
returns the two sections and the error bytes, and otherwise fails locally. -/
namespace ClassicS7.S7
open Checks Cursor

structure Response where
  pduType : UInt8
  reference : UInt16
  parameters : Bytes
  data : Bytes
  errorClass : UInt8
  errorCode : UInt8
  deriving Repr, DecidableEq

/-- A successful ACK_DATA response. -/
def encodeAckData (reference : UInt16) (parameters data : Bytes) : Except EncodeError Bytes := do
  if parameters.length > maxSectionSize then
    throw (.parametersTooLarge parameters.length maxSectionSize)
  if data.length > maxSectionSize then
    throw (.dataTooLarge data.length maxSectionSize)
  return [protocolId, ackDataType, 0, 0] ++ uint16BE reference ++
    uint16BE (UInt16.ofNat parameters.length) ++ uint16BE (UInt16.ofNat data.length) ++
    [0, 0] ++ parameters ++ data

def decodeResponse (pdu : Bytes) : Except DecodeError Response := do
  let cursor : Cursor := { data := pdu }
  let (actualProtocolId, cursor) ← cursor.readUInt8
  if actualProtocolId != protocolId then
    throw (.invalidField 0 s!"expected S7 protocol ID 0x32, got {actualProtocolId}")
  let (pduType, cursor) ← cursor.readUInt8
  if pduType != ackType && pduType != ackDataType then
    throw (.invalidField 1 s!"expected S7 ACK or ACK_DATA, got {pduType}")
  let (_, cursor) ← cursor.readUInt16BE
  let (reference, cursor) ← cursor.readUInt16BE
  let (parameterLength, cursor) ← cursor.readUInt16BE
  let (dataLength, cursor) ← cursor.readUInt16BE
  let (errorClass, cursor) ← cursor.readUInt8
  let (errorCode, cursor) ← cursor.readUInt8
  let expected := responseHeaderSize + parameterLength.toNat + dataLength.toNat
  if expected != pdu.length then
    throw (.invalidField 6 s!"S7 section lengths require {expected} bytes, got {pdu.length}")
  let (parameters, cursor) ← cursor.readBytes parameterLength.toNat
  let (data, cursor) ← cursor.readBytes dataLength.toNat
  cursor.finish
  return { pduType, reference, parameters, data, errorClass, errorCode }

/-! ### What the decoder accepts -/

/-- The bytes a response packet must have, by position. -/
structure ResponseFrame (pdu : Bytes) : Prop where
  extent : pdu.length = 12 + wordAt pdu 6 + wordAt pdu 8
  protocol : byteAt pdu 0 = 0x32
  kind : byteAt pdu 1 = 2 ∨ byteAt pdu 1 = 3

theorem responseFrame_iff (pdu : Bytes) :
    pdu.length = 12 + wordAt pdu 6 + wordAt pdu 8 ∧ byteAt pdu 0 = 0x32 ∧ (byteAt pdu 1 = 2 ∨ byteAt pdu 1 = 3) ↔
      ResponseFrame pdu :=
  ⟨fun ⟨h₁, h₂, h₃⟩ => ⟨h₁, h₂, h₃⟩, fun ⟨h₁, h₂, h₃⟩ => ⟨h₁, h₂, h₃⟩⟩

instance (pdu : Bytes) : Decidable (ResponseFrame pdu) := decidable_of_iff _ (responseFrame_iff pdu)

/-- What the decoder returns on a framed packet. -/
def framedResponse (pdu : Bytes) : Response :=
  { pduType := UInt8.ofNat (byteAt pdu 1)
    reference := UInt16.ofNat (wordAt pdu 4)
    parameters := slice pdu 12 (12 + wordAt pdu 6)
    data := pdu.drop (12 + wordAt pdu 6)
    errorClass := UInt8.ofNat (byteAt pdu 10)
    errorCode := UInt8.ofNat (byteAt pdu 11) }

theorem toNat_byteAt (pdu : Bytes) (i : Nat) : (UInt8.ofNat (byteAt pdu i)).toNat = byteAt pdu i := by
  rw [UInt8.toNat_ofNat', Nat.mod_eq_of_lt (byteAt_lt pdu i)]

theorem toNat_wordAt (pdu : Bytes) (i : Nat) : (UInt16.ofNat (wordAt pdu i)).toNat = wordAt pdu i := by
  rw [UInt16.toNat_ofNat', Nat.mod_eq_of_lt (wordAt_lt pdu i)]

/-- A check of one byte against a constant passes exactly when the numbers agree. -/
theorem byte_check (pdu : Bytes) (i : Nat) (b : UInt8) :
    ¬ (UInt8.ofNat (byteAt pdu i) != b) = true ↔ byteAt pdu i = b.toNat := by
  rw [bne_iff_ne, ne_eq, Classical.not_not, byte_eq_iff, toNat_byteAt]

theorem word_check (pdu : Bytes) (i : Nat) (w : UInt16) :
    ¬ (UInt16.ofNat (wordAt pdu i) != w) = true ↔ wordAt pdu i = w.toNat := by
  rw [bne_iff_ne, ne_eq, Classical.not_not, ← UInt16.toNat_inj, toNat_wordAt]

theorem kind_check (pdu : Bytes) (i : Nat) (a b : UInt8) :
    ¬ (UInt8.ofNat (byteAt pdu i) != a && UInt8.ofNat (byteAt pdu i) != b) = true ↔
      byteAt pdu i = a.toNat ∨ byteAt pdu i = b.toNat := by
  rw [Bool.and_eq_true, Classical.not_and_iff_not_or_not, byte_check, byte_check]

/-- A decoder that got past its local checks had a framed packet. -/
theorem responseFrame_of_clears {pdu : Bytes} (h : Clears DecodeError.Local (decodeResponse pdu)) :
    ResponseFrame pdu := by
  obtain ⟨-, h⟩ := clears_readUInt8 h
  obtain ⟨hprotocol, h⟩ := h.guard (by simp)
  obtain ⟨-, h⟩ := clears_readUInt8 h
  obtain ⟨hkind, h⟩ := h.guard (by simp)
  obtain ⟨-, h⟩ := clears_readUInt16BE h
  obtain ⟨-, h⟩ := clears_readUInt16BE h
  obtain ⟨-, h⟩ := clears_readUInt16BE h
  obtain ⟨-, h⟩ := clears_readUInt16BE h
  obtain ⟨-, h⟩ := clears_readUInt8 h
  obtain ⟨-, h⟩ := clears_readUInt8 h
  obtain ⟨hextent, -⟩ := h.guard (by simp)
  simp only [toNat_wordAt, bne_iff_ne, ne_eq, Classical.not_not] at hextent
  exact ⟨hextent.symm, (byte_check ..).mp hprotocol, (kind_check ..).mp hkind⟩

/-- A framed packet decodes to its sections and error bytes. -/
theorem decodeResponse_frame {pdu : Bytes} (frame : ResponseFrame pdu) :
    decodeResponse pdu = .ok (framedResponse pdu) := by
  have hlen := frame.extent
  refine (bind_ok (readUInt8_at (by omega)) _).trans ?_
  refine (guard_ok ((byte_check ..).mpr frame.protocol)).trans ?_
  refine (bind_ok (readUInt8_at (by omega)) _).trans ?_
  refine (guard_ok ((kind_check ..).mpr frame.kind)).trans ?_
  refine (bind_ok (readUInt16BE_at (by omega)) _).trans ?_
  refine (bind_ok (readUInt16BE_at (by omega)) _).trans ?_
  refine (bind_ok (readUInt16BE_at (by omega)) _).trans ?_
  refine (bind_ok (readUInt16BE_at (by omega)) _).trans ?_
  refine (bind_ok (readUInt8_at (by omega)) _).trans ?_
  refine (bind_ok (readUInt8_at (by omega)) _).trans ?_
  refine (guard_ok ?_).trans ?_
  · simp only [toNat_wordAt, bne_iff_ne, ne_eq, Classical.not_not]
    exact hlen.symm
  simp only [toNat_wordAt, Nat.reduceAdd]
  refine (bind_ok (readBytes_at (by omega)) _).trans ?_
  refine (bind_ok (readBytes_at (by omega)) _).trans ?_
  refine (bind_ok (finish_at hlen.symm) _).trans ?_
  rw [slice_to_end pdu _ (12 + wordAt pdu 6 + wordAt pdu 8) (by omega)]
  rfl

theorem decodeResponse_rejects {pdu : Bytes} (h : ¬ ResponseFrame pdu) :
    ∃ e, decodeResponse pdu = .error e ∧ e.Local :=
  soft_of_not_clears fun hclears => h (responseFrame_of_clears hclears)

/-- The accepted packets are the framed ones. -/
theorem decodeResponse_eq_ok {pdu : Bytes} {response : Response} :
    decodeResponse pdu = .ok response ↔ ResponseFrame pdu ∧ response = framedResponse pdu := by
  constructor
  · intro h
    have frame : ResponseFrame pdu := responseFrame_of_clears (h ▸ clears_ok _)
    rw [decodeResponse_frame frame] at h
    exact ⟨frame, (Except.ok.inj h).symm⟩
  · rintro ⟨frame, rfl⟩
    exact decodeResponse_frame frame

/-! ### Round trip -/

section RoundTrip
variable (reference : UInt16) {parameters data : Bytes}

/-- The bytes of a successful acknowledgement. -/
def ackDataBytes (parameters data : Bytes) : Bytes :=
  [protocolId, ackDataType, 0, 0] ++ uint16BE reference ++ uint16BE (UInt16.ofNat parameters.length) ++
    uint16BE (UInt16.ofNat data.length) ++ [0, 0] ++ parameters ++ data

theorem encodeAckData_ok (hparameters : parameters.length ≤ maxSectionSize)
    (hdata : data.length ≤ maxSectionSize) :
    encodeAckData reference parameters data = .ok (ackDataBytes reference parameters data) := by
  unfold encodeAckData
  exact (guard_ok (Nat.not_lt.mpr hparameters)).trans (guard_ok (Nat.not_lt.mpr hdata))

theorem encodeAckData_error (hparameters : parameters.length ≤ maxSectionSize)
    (hdata : maxSectionSize < data.length) : ∃ e, encodeAckData reference parameters data = .error e := by
  unfold encodeAckData
  exact ⟨_, (guard_ok (Nat.not_lt.mpr hparameters)).trans (guard_error hdata)⟩

/-- The two bytes of a word are the word. -/
theorem word_uint16BE (value : UInt16) :
    (UInt8.ofNat (value.toNat / 256)).toNat * 256 + (UInt8.ofNat value.toNat).toNat = value.toNat := by
  have hbound := value.toNat_lt
  rw [UInt8.toNat_ofNat', UInt8.toNat_ofNat']
  omega

theorem toNat_sectionSize {size : Nat} (h : size ≤ maxSectionSize) : (UInt16.ofNat size).toNat = size := by
  simp only [maxSectionSize] at h
  rw [UInt16.toNat_ofNat', Nat.mod_eq_of_lt (by omega)]

/-- The header of an acknowledgement, read back. -/
theorem ackDataBytes_header (hparameters : parameters.length ≤ maxSectionSize)
    (hdata : data.length ≤ maxSectionSize) :
    let pdu := ackDataBytes reference parameters data
    wordAt pdu 4 = reference.toNat ∧ wordAt pdu 6 = parameters.length ∧ wordAt pdu 8 = data.length :=
  ⟨word_uint16BE reference, (word_uint16BE _).trans (toNat_sectionSize hparameters),
    (word_uint16BE _).trans (toNat_sectionSize hdata)⟩

/-- An encoded acknowledgement decodes to its sections, with a clear status. -/
theorem decodeResponse_ackDataBytes (hparameters : parameters.length ≤ maxSectionSize)
    (hdata : data.length ≤ maxSectionSize) :
    decodeResponse (ackDataBytes reference parameters data) =
      .ok ⟨ackDataType, reference, parameters, data, 0, 0⟩ := by
  obtain ⟨href, hparameterSize, hdataSize⟩ := ackDataBytes_header reference hparameters hdata
  have hlength : (ackDataBytes reference parameters data).length = 12 + parameters.length + data.length := by
    simp only [ackDataBytes, List.length_append, length_uint16BE, List.length_cons, List.length_nil]
  have hsections : (ackDataBytes reference parameters data).drop 12 = parameters ++ data := rfl
  have frame : ResponseFrame (ackDataBytes reference parameters data) :=
    ⟨by rw [hlength, hparameterSize, hdataSize], rfl, .inr rfl⟩
  rw [decodeResponse_frame frame, framedResponse, href, hparameterSize, slice, ← List.drop_drop, hsections,
    UInt16.ofNat_toNat, Nat.add_sub_cancel_left, List.take_left, List.drop_left]
  rfl

end RoundTrip

end ClassicS7.S7
