import ClassicS7.Wire.Response

/-! Frames on the transport: TPKT packets and COTP data units.

A payload travels as one or more COTP data units, each in a TPKT packet of its own.
`TPKT.decode_eq_ok` and `COTP.decodeData_eq_ok` say exactly what the decoders
accept: a packet of its declared length, whose reserved byte may be anything, and
exactly the encodings of data units. -/
namespace ClassicS7

/-! ### TPKT packets -/

namespace TPKT
open Checks Cursor

def version : UInt8 := 3
def headerSize : Nat := 4
def minFrameSize : Nat := 7
def maxFrameSize : Nat := 65535

structure Frame where
  payload : Bytes
  deriving Repr, DecidableEq

inductive EncodeError where
  | frameTooSmall (size minimum : Nat)
  | frameTooLarge (size maximum : Nat)
  deriving Repr, DecidableEq

def encode (frame : Frame) : Except EncodeError Bytes :=
  let length := headerSize + frame.payload.length
  if minFrameSize ≤ length then
    if length ≤ maxFrameSize then
      let header := [version, 0] ++ uint16BE (UInt16.ofNat length)
      .ok (header ++ frame.payload)
    else
      .error (.frameTooLarge length maxFrameSize)
  else
    .error (.frameTooSmall length minFrameSize)

/-- Decode exactly one packet. Trailing or truncated data is rejected. -/
def decode (data : Bytes) : Except DecodeError Frame := do
  let cursor : Cursor := { data }
  let (actualVersion, cursor) ← cursor.readUInt8
  if actualVersion != version then
    throw (.invalidField 0 s!"unsupported TPKT version {actualVersion}")
  let (_, cursor) ← cursor.readUInt8
  let (length, cursor) ← cursor.readUInt16BE
  let declaredLength := length.toNat
  if declaredLength < minFrameSize then
    throw (.invalidField 2 s!"invalid TPKT length {declaredLength}")
  if declaredLength != data.length then
    throw (.invalidField 2 s!"declared length {declaredLength} does not match {data.length} bytes")
  let (payload, cursor) ← cursor.readBytes (declaredLength - headerSize)
  cursor.finish
  return { payload }

/-- The bytes a packet must have, by position. -/
structure Framed (data : Bytes) : Prop where
  version : byteAt data 0 = 3
  extent : data.length = wordAt data 2
  smallest : 7 ≤ data.length

theorem framed_of_clears {data : Bytes} (h : Clears DecodeError.Local (decode data)) : Framed data := by
  obtain ⟨-, h⟩ := clears_readUInt8 h
  obtain ⟨hversion, h⟩ := h.guard (by simp)
  obtain ⟨-, h⟩ := clears_readUInt8 h
  obtain ⟨-, h⟩ := clears_readUInt16BE h
  obtain ⟨hsmallest, h⟩ := h.guard (by simp)
  obtain ⟨hextent, -⟩ := h.guard (by simp)
  simp only [S7.toNat_wordAt, bne_iff_ne, ne_eq, Classical.not_not, minFrameSize] at hextent hsmallest
  exact ⟨(S7.byte_check ..).mp hversion, hextent.symm, by omega⟩

theorem decode_framed {data : Bytes} (framed : Framed data) : decode data = .ok { payload := data.drop 4 } := by
  have hextent := framed.extent
  have hsmallest := framed.smallest
  refine (bind_ok (readUInt8_at (by omega)) _).trans ?_
  refine (guard_ok ((S7.byte_check ..).mpr framed.version)).trans ?_
  refine (bind_ok (readUInt8_at (by omega)) _).trans ?_
  refine (bind_ok (readUInt16BE_at (by omega)) _).trans ?_
  simp only [S7.toNat_wordAt, Nat.reduceAdd]
  refine (guard_ok (by simp only [minFrameSize]; omega)).trans ?_
  refine (guard_ok (by simpa using hextent.symm)).trans ?_
  refine (bind_ok (readBytes_at (by simp only [headerSize]; omega)) _).trans ?_
  refine (bind_ok (finish_at (by simp only [headerSize]; omega)) _).trans ?_
  rw [slice_to_end _ _ _ (by simp only [headerSize]; omega)]
  rfl

/-- The decoder accepts exactly the framed packets, whatever their reserved byte. -/
theorem decode_eq_ok {data : Bytes} {frame : Frame} :
    decode data = .ok frame ↔ Framed data ∧ frame.payload = data.drop 4 := by
  constructor
  · intro h
    have framed := framed_of_clears (h ▸ clears_ok frame)
    rw [decode_framed framed] at h
    cases h
    exact ⟨framed, rfl⟩
  · rintro ⟨framed, hpayload⟩
    rw [decode_framed framed, ← hpayload]

/-- The packet of a payload that fits. -/
def packet (payload : Bytes) : Bytes := [version, 0] ++ uint16BE (UInt16.ofNat (4 + payload.length)) ++ payload

theorem encode_eq_ok {frame : Frame} {data : Bytes} :
    encode frame = .ok data ↔
      3 ≤ frame.payload.length ∧ frame.payload.length ≤ 65531 ∧ data = packet frame.payload := by
  have hmin : minFrameSize ≤ headerSize + frame.payload.length ↔ 3 ≤ frame.payload.length := by
    simp only [minFrameSize, headerSize]
    omega
  have hmax : headerSize + frame.payload.length ≤ maxFrameSize ↔ frame.payload.length ≤ 65531 := by
    simp only [maxFrameSize, headerSize]
    omega
  by_cases hsmallest : 3 ≤ frame.payload.length
  · by_cases hlargest : frame.payload.length ≤ 65531
    · have hencode : encode frame = .ok (packet frame.payload) :=
        (if_pos (hmin.mpr hsmallest)).trans (if_pos (hmax.mpr hlargest))
      rw [hencode, Except.ok.injEq]
      exact ⟨fun h => ⟨hsmallest, hlargest, h.symm⟩, fun h => h.2.2.symm⟩
    · have hencode : encode frame = .error (.frameTooLarge (headerSize + frame.payload.length) maxFrameSize) :=
        (if_pos (hmin.mpr hsmallest)).trans (if_neg (mt hmax.mp hlargest))
      rw [hencode]
      exact iff_of_false (fun h => by cases h) fun h => hlargest h.2.1
  · have hencode : encode frame = .error (.frameTooSmall (headerSize + frame.payload.length) minFrameSize) :=
      if_neg (mt hmin.mp hsmallest)
    rw [hencode]
    exact iff_of_false (fun h => by cases h) fun h => hsmallest h.1

theorem framed_packet {payload : Bytes} (hsmallest : 3 ≤ payload.length) (hlargest : payload.length ≤ 65531) :
    Framed (packet payload) := by
  have hlength : (packet payload).length = 4 + payload.length := by
    simp only [packet, List.length_append, length_uint16BE, List.length_cons, List.length_nil]
  have hword : wordAt (packet payload) 2 = 4 + payload.length :=
    (S7.word_uint16BE _).trans (S7.toNat_sectionSize (by rw [S7.maxSectionSize]; omega))
  exact ⟨rfl, by rw [hlength, hword], by omega⟩

end TPKT

/-! ### COTP data units -/

namespace COTP
open Checks Cursor

def dataCode : UInt8 := 0xf0

structure Data where
  payload : Bytes
  endOfTransmission : Bool := true
  deriving Repr, DecidableEq

def encodeData (pdu : Data) : Bytes :=
  [2, dataCode, if pdu.endOfTransmission then 0x80 else 0x00] ++ pdu.payload

def decodeData (data : Bytes) : Except DecodeError Data := do
  let cursor : Cursor := { data }
  let (headerLength, cursor) ← cursor.readUInt8
  if headerLength != 2 then
    throw (.invalidField 0 s!"expected COTP data header length 2, got {headerLength}")
  let (code, cursor) ← cursor.readUInt8
  if code != dataCode then
    throw (.invalidField 1 s!"expected COTP data TPDU 0xf0, got {code}")
  let (flags, cursor) ← cursor.readUInt8
  if flags &&& 0x7f != 0 then
    throw (.invalidField 2 s!"COTP class 0 TPDU number must be zero, got {flags &&& 0x7f}")
  let (payload, cursor) ← cursor.readBytes cursor.remaining
  cursor.finish
  return { payload, endOfTransmission := flags &&& 0x80 != 0 }

/-- Accumulated payload from one or more data units. -/
structure Reassembly where
  payload : Bytes := []
  segments : Nat := 0
  deriving Repr, DecidableEq

namespace Reassembly

/-- Append one segment and report whether it completes the payload. -/
def push (state : Reassembly) (segment : Data) : Reassembly × Bool :=
  ({ payload := state.payload ++ segment.payload, segments := state.segments + 1 }, segment.endOfTransmission)

/-- Enforce a cumulative budget before the payload is appended. -/
def pushBounded (state : Reassembly) (segment : Data) (maximum : Nat) : Except DecodeError (Reassembly × Bool) :=
  if state.payload.length + segment.payload.length ≤ maximum then
    .ok (state.push segment)
  else
    .error (.invalidField 0 s!"COTP reassembly exceeds payload limit {maximum}")

/-- Bound work as well as payload bytes, also for empty data units. -/
def pushResourceBounded (state : Reassembly) (segment : Data) (maximum maxSegments : Nat) :
    Except DecodeError (Reassembly × Bool) :=
  if state.segments < maxSegments then
    state.pushBounded segment maximum
  else
    .error (.invalidField 0 s!"COTP reassembly exceeds segment limit {maxSegments}")

theorem pushResourceBounded_eq_ok {state next : Reassembly} {segment : Data} {maximum maxSegments : Nat}
    {complete : Bool} :
    state.pushResourceBounded segment maximum maxSegments = .ok (next, complete) ↔
      state.segments < maxSegments ∧ state.payload.length + segment.payload.length ≤ maximum ∧
        next = (state.push segment).1 ∧ complete = segment.endOfTransmission := by
  unfold pushResourceBounded pushBounded
  split
  · split
    · rw [Except.ok.injEq, push, Prod.mk.injEq]
      exact ⟨fun h => ⟨‹_›, ‹_›, h.1.symm, h.2.symm⟩, fun h => ⟨h.2.2.1.symm, h.2.2.2.symm⟩⟩
    · exact iff_of_false (fun h => by cases h) fun h => absurd h.2.1 ‹_›
  · exact iff_of_false (fun h => by cases h) fun h => absurd h.1 ‹_›

end Reassembly

/-- A flags byte without a unit number only says whether the unit is the last. -/
theorem flags_cases (flags : UInt8) (h : flags &&& 0x7f = 0) :
    (if flags &&& 0x80 != 0 then 0x80 else 0x00 : UInt8) = flags := by
  have hall : ∀ n : Fin 256, UInt8.ofNat n &&& 0x7f = 0 →
      (if UInt8.ofNat n &&& 0x80 != 0 then 0x80 else 0x00 : UInt8) = UInt8.ofNat n := by
    decide +kernel
  have hflags := hall ⟨flags.toNat, flags.toNat_lt⟩
  rw [UInt8.ofNat_toNat] at hflags
  exact hflags h

/-- The bytes a data unit must have, by position. -/
structure DataFrame (data : Bytes) : Prop where
  extent : 3 ≤ data.length
  header : byteAt data 0 = 2
  code : byteAt data 1 = 0xf0
  number : UInt8.ofNat (byteAt data 2) &&& 0x7f = 0

theorem dataFrame_of_clears {data : Bytes} (h : Clears DecodeError.Local (decodeData data)) : DataFrame data := by
  obtain ⟨-, h⟩ := clears_readUInt8 h
  obtain ⟨hheader, h⟩ := h.guard (by simp)
  obtain ⟨-, h⟩ := clears_readUInt8 h
  obtain ⟨hcode, h⟩ := h.guard (by simp)
  obtain ⟨hextent, h⟩ := clears_readUInt8 h
  obtain ⟨hnumber, -⟩ := h.guard (by simp)
  exact ⟨hextent, (S7.byte_check ..).mp hheader, (S7.byte_check ..).mp hcode, by simpa using hnumber⟩

theorem decodeData_frame {data : Bytes} (frame : DataFrame data) :
    decodeData data = .ok {
      payload := data.drop 3, endOfTransmission := UInt8.ofNat (byteAt data 2) &&& 0x80 != 0 } := by
  have hextent := frame.extent
  refine (bind_ok (readUInt8_at (by omega)) _).trans ?_
  refine (guard_ok ((S7.byte_check ..).mpr frame.header)).trans ?_
  refine (bind_ok (readUInt8_at (by omega)) _).trans ?_
  refine (guard_ok ((S7.byte_check ..).mpr frame.code)).trans ?_
  refine (bind_ok (readUInt8_at (by omega)) _).trans ?_
  refine (guard_ok (by simpa using frame.number)).trans ?_
  simp only [Nat.reduceAdd, remaining]
  refine (bind_ok (readBytes_at (by omega)) _).trans ?_
  refine (bind_ok (finish_at (by omega)) _).trans ?_
  rw [slice_to_end _ _ _ (by omega)]
  rfl

/-- A framed data unit is the encoding of its parts. -/
theorem encodeData_frame {data : Bytes} (frame : DataFrame data) :
    encodeData {
      payload := data.drop 3, endOfTransmission := UInt8.ofNat (byteAt data 2) &&& 0x80 != 0 } = data := by
  obtain ⟨extent, header, code, number⟩ := frame
  match data with
  | [] | [_] | [_, _] => simp at extent
  | first :: second :: flags :: payload =>
    have hfirst : first = 2 := UInt8.toNat_inj.mp header
    have hsecond : second = 0xf0 := UInt8.toNat_inj.mp code
    have hflags : UInt8.ofNat (byteAt (first :: second :: flags :: payload) 2) = flags :=
      UInt8.ofNat_toNat
    rw [hflags] at number ⊢
    rw [encodeData, flags_cases flags number, hfirst, hsecond]
    rfl

@[simp] theorem length_encodeData (pdu : Data) : (encodeData pdu).length = 3 + pdu.payload.length := by
  simp only [encodeData, List.length_append, List.length_cons, List.length_nil]

theorem flags_encodeData (pdu : Data) :
    UInt8.ofNat (byteAt (encodeData pdu) 2) = if pdu.endOfTransmission then 0x80 else 0x00 := UInt8.ofNat_toNat

theorem dataFrame_encodeData (pdu : Data) : DataFrame (encodeData pdu) where
  extent := by simp
  header := rfl
  code := rfl
  number := by
    rw [flags_encodeData]
    cases pdu.endOfTransmission <;> rfl

/-- The decoder accepts exactly the encodings of data units. -/
theorem decodeData_eq_ok {data : Bytes} {pdu : Data} : decodeData data = .ok pdu ↔ data = encodeData pdu := by
  constructor
  · intro h
    have frame := dataFrame_of_clears (h ▸ clears_ok pdu)
    rw [decodeData_frame frame] at h
    cases h
    exact (encodeData_frame frame).symm
  · rintro rfl
    have hlast : ((if pdu.endOfTransmission then 0x80 else 0x00 : UInt8) &&& 0x80 != 0) = pdu.endOfTransmission := by
      cases pdu.endOfTransmission <;> decide
    rw [decodeData_frame (dataFrame_encodeData pdu), flags_encodeData, hlast]
    rfl

end COTP

end ClassicS7
