import ClassicS7.Wire.Items

/-! Setup and correlation.

A session starts with one exchange that negotiates the PDU length, which may not be
smaller than every header and batch of the protocol needs. After that a received PDU
belongs to the request whose reference it carries, which `decodePduReference` reads
from any kind of PDU. -/
namespace ClassicS7.S7
open Checks Cursor

def setupCommunicationFunction : UInt8 := 0xf0

structure SetupCommunication where
  maxAmqCaller : UInt16 := 1
  maxAmqCallee : UInt16 := 1
  pduLength : UInt16 := 480
  deriving Repr, DecidableEq

def SetupCommunication.parameters (setup : SetupCommunication) : Bytes :=
  [setupCommunicationFunction, 0] ++ uint16BE setup.maxAmqCaller ++ uint16BE setup.maxAmqCallee ++
    uint16BE setup.pduLength

def encodeSetupCommunication (reference : UInt16) (setup : SetupCommunication := {}) : Except EncodeError Bytes :=
  encodeJob { reference, parameters := setup.parameters }

/-- The protocol minimum that all headers and batches need. -/
def validateSetupPduLength (pduLength : UInt16) : Except DecodeError Unit := do
  if pduLength < 240 then
    throw (.invalidField (responseHeaderSize + 6) s!"negotiated PDU length is too small: {pduLength}")

def decodeSetupCommunication (reference : UInt16) (response : Response) :
    Except DecodeError SetupCommunication := do
  validateResponse response reference setupCommunicationFunction
  if response.parameters.length != 8 then
    throw (.invalidField responseHeaderSize "setup-communication parameters must be eight bytes")
  let cursor : Cursor := { data := response.parameters, offset := 2 }
  let (maxAmqCaller, cursor) ← cursor.readUInt16BE
  let (maxAmqCallee, cursor) ← cursor.readUInt16BE
  let (pduLength, cursor) ← cursor.readUInt16BE
  cursor.finish
  validateSetupPduLength pduLength
  return { maxAmqCaller, maxAmqCallee, pduLength }

/-- The reference in the header prefix of any PDU. -/
def decodePduReference (pdu : Bytes) : Except DecodeError UInt16 := do
  let cursor : Cursor := { data := pdu }
  let (actualProtocolId, cursor) ← cursor.readUInt8
  if actualProtocolId != protocolId then
    throw (.invalidField 0 s!"expected S7 protocol ID 0x32, got {actualProtocolId}")
  let (_, cursor) ← cursor.readUInt8
  let (_, cursor) ← cursor.readUInt16BE
  let (reference, _) ← cursor.readUInt16BE
  return reference

/-! ### What they accept -/

/-- An accepted setup has at least the protocol minimum. -/
theorem pduLength_of_decodeSetupCommunication {reference : UInt16} {response : Response} {setup : SetupCommunication}
    (h : decodeSetupCommunication reference response = .ok setup) : 240 ≤ setup.pduLength.toNat := by
  obtain ⟨_, -, h⟩ := bind_eq_ok.mp h
  obtain ⟨-, h⟩ := guard_eq_ok.mp h
  obtain ⟨_, -, h⟩ := bind_eq_ok.mp h
  obtain ⟨_, -, h⟩ := bind_eq_ok.mp h
  obtain ⟨pduLength, -, h⟩ := bind_eq_ok.mp h
  obtain ⟨_, -, h⟩ := bind_eq_ok.mp h
  obtain ⟨_, hminimum, h⟩ := bind_eq_ok.mp h
  cases h
  unfold validateSetupPduLength at hminimum
  split at hminimum
  · cases hminimum
  · rename_i hlength
    rw [UInt16.lt_iff_toNat_lt] at hlength
    exact Nat.not_lt.mp hlength

/-- What answers a setup is read as it was written, if its PDU length is usable. -/
theorem decodeSetupCommunication_parameters (reference : UInt16) (setup : SetupCommunication) (data : Bytes)
    (h : 240 ≤ setup.pduLength.toNat) :
    decodeSetupCommunication reference ⟨ackDataType, reference, setup.parameters, data, 0, 0⟩ = .ok setup := by
  have hcaller : wordAt setup.parameters 2 = setup.maxAmqCaller.toNat := word_uint16BE _
  have hcallee : wordAt setup.parameters 4 = setup.maxAmqCallee.toNat := word_uint16BE _
  have hlength : wordAt setup.parameters 6 = setup.pduLength.toNat := word_uint16BE _
  have hsize : setup.parameters.length = 8 := rfl
  have hvalid : validateResponse ⟨ackDataType, reference, setup.parameters, data, 0, 0⟩ reference
      setupCommunicationFunction = .ok () :=
    validateResponse_ok rfl (by simp) rfl (hsize.symm ▸ by decide : 0 < setup.parameters.length)
  unfold decodeSetupCommunication
  refine (bind_ok hvalid _).trans ((guard_ok (by simp [hsize])).trans ?_)
  dsimp only
  refine (bind_ok (readUInt16BE_at (by omega)) _).trans ?_
  refine (bind_ok (readUInt16BE_at (by omega)) _).trans ?_
  refine (bind_ok (readUInt16BE_at (by omega)) _).trans ?_
  refine (bind_ok (finish_at hsize.symm) _).trans ?_
  simp only [Nat.reduceAdd, hcaller, hcallee, hlength, UInt16.ofNat_toNat]
  have hminimum : ¬ setup.pduLength < 240 := by
    rw [UInt16.lt_iff_toNat_lt]
    exact Nat.not_lt.mpr h
  exact (bind_ok (if_neg hminimum) _).trans rfl

/-- The reference is read from any packet of the protocol that is long enough to have one. -/
theorem decodePduReference_eq_ok {pdu : Bytes} {reference : UInt16} :
    decodePduReference pdu = .ok reference ↔
      6 ≤ pdu.length ∧ byteAt pdu 0 = 0x32 ∧ UInt16.ofNat (wordAt pdu 4) = reference := by
  unfold decodePduReference
  constructor
  · intro h
    obtain ⟨-, h⟩ := readUInt8_bind_eq_ok.mp h
    obtain ⟨hprotocol, h⟩ := guard_eq_ok.mp h
    obtain ⟨-, h⟩ := readUInt8_bind_eq_ok.mp h
    obtain ⟨-, h⟩ := readUInt16BE_bind_eq_ok.mp h
    obtain ⟨hlength, h⟩ := readUInt16BE_bind_eq_ok.mp h
    exact ⟨hlength, (byte_check ..).mp hprotocol, Except.ok.inj h⟩
  · rintro ⟨hlength, hprotocol, rfl⟩
    refine readUInt8_bind_eq_ok.mpr ⟨by omega, guard_eq_ok.mpr ⟨(byte_check ..).mpr hprotocol, ?_⟩⟩
    refine readUInt8_bind_eq_ok.mpr ⟨by omega, readUInt16BE_bind_eq_ok.mpr ⟨by omega, ?_⟩⟩
    exact readUInt16BE_bind_eq_ok.mpr ⟨hlength, rfl⟩

/-- An accepted response carries the reference by which it was matched. -/
theorem decodePduReference_of_decodeResponse {pdu : Bytes} {response : Response}
    (h : decodeResponse pdu = .ok response) : decodePduReference pdu = .ok response.reference := by
  obtain ⟨frame, rfl⟩ := decodeResponse_eq_ok.mp h
  have hlength := frame.extent
  exact decodePduReference_eq_ok.mpr ⟨by omega, frame.protocol, rfl⟩

end ClassicS7.S7
