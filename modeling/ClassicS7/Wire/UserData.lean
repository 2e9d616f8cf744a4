import ClassicS7.Wire.Response

/-! USER_DATA responses.

The decoder checks the header, the twelve parameter bytes and one data item, in
that order. `UserDataFrame` collects, by position, everything it checks before
the error word; what it does on a framed packet is `userDataItem`, a plain case
analysis on the bytes from the error word on (`decodeUserDataResponse_frame`).
Any other packet fails locally (`decodeUserDataResponse_rejects`). -/
namespace ClassicS7.S7
open Checks Cursor

def userDataType : UInt8 := 0x07
def userDataResponseMethod : UInt8 := 0x12
def userDataResponseType : UInt8 := 0x80
def securityGroup : UInt8 := 0x05
def clockGroup : UInt8 := 0x07
def setClockSubfunction : UInt8 := 0x02
def enterPasswordSubfunction : UInt8 := 0x01
def clearPasswordSubfunction : UInt8 := 0x02

structure UserDataResponse where
  reference : UInt16
  group : UInt8
  subfunction : UInt8
  sequence : UInt8
  dataUnitReference : UInt8
  hasMoreData : Bool
  error : UInt16
  returnCode : UInt8
  transportSize : UInt8
  payload : Bytes
  deriving Repr, DecidableEq

/-- Native Snap7 emits an empty null-data acknowledgement for these three
mutating services. -/
def supportsNullUserDataAcknowledgement (group subfunction : UInt8) : Bool :=
  (group == clockGroup && subfunction == setClockSubfunction) ||
  (group == securityGroup &&
    (subfunction == enterPasswordSubfunction || subfunction == clearPasswordSubfunction))

/-- Fixed single-response services must not expose an incomplete fragment. -/
def requireCompleteUserData (response : UserDataResponse) : Except DecodeError Bytes :=
  if response.hasMoreData then
    .error (.invalidField 19 "unexpected USER_DATA continuation for single-response service")
  else .ok response.payload

def decodeUserDataResponse (expectedReference : UInt16) (expectedGroup expectedSubfunction : UInt8)
    (pdu : Bytes) : Except DecodeError UserDataResponse := do
  let cursor : Cursor := { data := pdu }
  let (actualProtocolId, cursor) ← cursor.readUInt8
  if actualProtocolId != protocolId then
    throw (.invalidField 0 s!"expected S7 protocol ID 0x32, got {actualProtocolId}")
  let (pduType, cursor) ← cursor.readUInt8
  if pduType != userDataType then
    throw (.invalidField 1 s!"expected S7 USER_DATA response, got {pduType}")
  let (_, cursor) ← cursor.readUInt16BE
  let (reference, cursor) ← cursor.readUInt16BE
  if reference != expectedReference then
    throw (.invalidField 4 s!"expected PDU reference {expectedReference}, got {reference}")
  let (parameterLength, cursor) ← cursor.readUInt16BE
  let (dataLength, cursor) ← cursor.readUInt16BE
  let expectedSize := jobHeaderSize + parameterLength.toNat + dataLength.toNat
  if pdu.length != expectedSize then
    throw (.invalidField 6 s!"S7 section lengths require {expectedSize} bytes, got {pdu.length}")
  if parameterLength != 12 then
    throw (.invalidField jobHeaderSize
      s!"USER_DATA response parameters must be 12 bytes, got {parameterLength}")
  let (parameters, cursor) ← cursor.readBytes parameterLength.toNat
  let (data, cursor) ← cursor.readBytes dataLength.toNat
  cursor.finish
  let parameterCursor : Cursor := { data := parameters }
  let (head, parameterCursor) ← parameterCursor.readBytes 3
  if head != [0, 1, 0x12] then
    throw (.invalidField jobHeaderSize "invalid USER_DATA parameter header")
  let (parameterDataLength, parameterCursor) ← parameterCursor.readUInt8
  if parameterDataLength != 8 then
    throw (.invalidField (jobHeaderSize + 3) "invalid USER_DATA response parameter length")
  let (method, parameterCursor) ← parameterCursor.readUInt8
  if method != userDataResponseMethod then
    throw (.invalidField (jobHeaderSize + 4) "invalid USER_DATA response method")
  let (typeGroup, parameterCursor) ← parameterCursor.readUInt8
  if UInt8.land typeGroup 0xf0 != userDataResponseType || UInt8.land typeGroup 0x0f != expectedGroup then
    throw (.invalidField (jobHeaderSize + 5) "unexpected USER_DATA type or function group")
  let (subfunction, parameterCursor) ← parameterCursor.readUInt8
  if subfunction != expectedSubfunction then
    throw (.invalidField (jobHeaderSize + 6) "unexpected USER_DATA subfunction")
  let (sequence, parameterCursor) ← parameterCursor.readUInt8
  let (dataUnitReference, parameterCursor) ← parameterCursor.readUInt8
  let (lastDataUnit, parameterCursor) ← parameterCursor.readUInt8
  if lastDataUnit != 0 && lastDataUnit != 1 then
    throw (.invalidField (jobHeaderSize + 9) "invalid USER_DATA continuation flag")
  let (error, parameterCursor) ← parameterCursor.readUInt16BE
  parameterCursor.finish
  if error != 0 then
    throw (.remoteFailure (jobHeaderSize + 10) s!"USER_DATA request failed with code {error}")
  if data.length < 4 then
    throw (.unexpectedEnd (jobHeaderSize + parameterLength.toNat) 4 data.length)
  let dataCursor : Cursor := { data }
  let (returnCode, dataCursor) ← dataCursor.readUInt8
  let (transportSize, dataCursor) ← dataCursor.readUInt8
  let (payloadLength, dataCursor) ← dataCursor.readUInt16BE
  let nullAcknowledgement := returnCode == 0x0a &&
    supportsNullUserDataAcknowledgement expectedGroup expectedSubfunction
  if returnCode != 0xff && !nullAcknowledgement then
    throw (.remoteFailure (jobHeaderSize + parameterLength.toNat)
      s!"USER_DATA item failed with code {returnCode}")
  if nullAcknowledgement then
    if transportSize != 0 || payloadLength != 0 || lastDataUnit != 0 then
      throw (.invalidField (jobHeaderSize + parameterLength.toNat)
        "USER_DATA null acknowledgement must be complete with zero transport size and payload length")
  else if transportSize != octetTransportSize then
    throw (.invalidField (jobHeaderSize + parameterLength.toNat + 1)
      s!"expected USER_DATA octet transport size {octetTransportSize}, got {transportSize}")
  let (payload, dataCursor) ← dataCursor.readBytes payloadLength.toNat
  dataCursor.finish
  return {
    reference := reference
    group := expectedGroup
    subfunction := subfunction
    sequence := sequence
    dataUnitReference := dataUnitReference
    hasMoreData := lastDataUnit != 0
    error := error
    returnCode := returnCode
    transportSize := transportSize
    payload := payload
  }

/-! ### What the decoder checks before the error word -/

/-- The bytes a USER_DATA response must have up to its continuation flag. -/
structure UserDataFrame (pdu : Bytes) (reference group subfunction : Nat) : Prop where
  extent : pdu.length = 22 + wordAt pdu 8
  protocol : byteAt pdu 0 = 0x32
  kind : byteAt pdu 1 = 7
  reference : wordAt pdu 4 = reference
  parameters : wordAt pdu 6 = 12
  head : byteAt pdu 10 = 0 ∧ byteAt pdu 11 = 1 ∧ byteAt pdu 12 = 0x12
  width : byteAt pdu 13 = 8
  method : byteAt pdu 14 = 0x12
  typeGroup : byteAt pdu 15 = 128 + group
  subfunction : byteAt pdu 16 = subfunction
  flag : byteAt pdu 19 = 0 ∨ byteAt pdu 19 = 1

theorem userDataFrame_iff (pdu : Bytes) (reference group subfunction : Nat) :
    pdu.length = 22 + wordAt pdu 8 ∧ byteAt pdu 0 = 0x32 ∧ byteAt pdu 1 = 7 ∧ wordAt pdu 4 = reference ∧
      wordAt pdu 6 = 12 ∧ (byteAt pdu 10 = 0 ∧ byteAt pdu 11 = 1 ∧ byteAt pdu 12 = 0x12) ∧
      byteAt pdu 13 = 8 ∧ byteAt pdu 14 = 0x12 ∧ byteAt pdu 15 = 128 + group ∧
      byteAt pdu 16 = subfunction ∧ (byteAt pdu 19 = 0 ∨ byteAt pdu 19 = 1) ↔
    UserDataFrame pdu reference group subfunction :=
  ⟨fun ⟨h₁, h₂, h₃, h₄, h₅, h₆, h₇, h₈, h₉, h₁₀, h₁₁⟩ => ⟨h₁, h₂, h₃, h₄, h₅, h₆, h₇, h₈, h₉, h₁₀, h₁₁⟩,
    fun ⟨h₁, h₂, h₃, h₄, h₅, h₆, h₇, h₈, h₉, h₁₀, h₁₁⟩ => ⟨h₁, h₂, h₃, h₄, h₅, h₆, h₇, h₈, h₉, h₁₀, h₁₁⟩⟩

instance (pdu : Bytes) (reference group subfunction : Nat) :
    Decidable (UserDataFrame pdu reference group subfunction) :=
  decidable_of_iff _ (userDataFrame_iff pdu reference group subfunction)

/-- The high and low half of a byte, as masks cut them. -/
theorem land_halves : ∀ x : UInt8, (UInt8.land x 0xf0).toNat = x.toNat / 16 * 16 ∧
    (UInt8.land x 0x0f).toNat = x.toNat % 16 := by
  have key : ∀ n : Fin 256, (UInt8.land (UInt8.ofNat n) 0xf0).toNat = n.val / 16 * 16 ∧
      (UInt8.land (UInt8.ofNat n) 0x0f).toNat = n.val % 16 := by decide +kernel
  intro x
  have h := key ⟨x.toNat, x.toNat_lt⟩
  rwa [UInt8.ofNat_toNat] at h

/-- The two mask checks pin the type/group byte. -/
theorem typeGroup_check (pdu : Bytes) (i : Nat) (group : UInt8) (hgroup : group.toNat < 16) :
    ¬ (UInt8.land (UInt8.ofNat (byteAt pdu i)) 0xf0 != userDataResponseType ||
        UInt8.land (UInt8.ofNat (byteAt pdu i)) 0x0f != group) = true ↔
      byteAt pdu i = 128 + group.toNat := by
  have htype : userDataResponseType.toNat = 128 := rfl
  have hlt := byteAt_lt pdu i
  obtain ⟨hhigh, hlow⟩ := land_halves (UInt8.ofNat (byteAt pdu i))
  rw [toNat_byteAt] at hhigh hlow
  rw [Bool.or_eq_true, not_or, bne_iff_ne, bne_iff_ne, ne_eq, ne_eq, Classical.not_not,
    Classical.not_not, byte_eq_iff, byte_eq_iff, hhigh, hlow, htype]
  omega

/-- The three-byte parameter header, compared as a slice. -/
theorem head_check (pdu : Bytes) (h : 22 ≤ pdu.length) :
    ¬ (slice (slice pdu 10 22) 0 3 != [0, 1, 0x12]) = true ↔
      byteAt pdu 10 = 0 ∧ byteAt pdu 11 = 1 ∧ byteAt pdu 12 = 0x12 := by
  rw [bne_iff_ne, ne_eq, Classical.not_not, slice_slice]
  rw [slice_eq_cons _ _ _ _ _ (by omega) (by omega), slice_eq_cons _ _ _ _ _ (by omega) (by omega),
    slice_eq_cons _ _ _ _ _ (by omega) (by omega), slice_eq_nil _ _ _ (by omega), and_true]
  rfl

theorem size_check (pdu : Bytes) (n : Nat) :
    ¬ (pdu.length != n) = true ↔ pdu.length = n := by
  rw [bne_iff_ne, ne_eq, Classical.not_not]

section Frame
variable {pdu : Bytes} {reference : UInt16} {group subfunction : UInt8}

/-- A decoder that got past its local checks, or to the remote's verdict, had a
framed packet. -/
theorem userDataFrame_of_clears (hgroup : group.toNat < 16)
    (h : Clears DecodeError.Local (decodeUserDataResponse reference group subfunction pdu)) :
    UserDataFrame pdu reference.toNat group.toNat subfunction.toNat := by
  obtain ⟨-, h⟩ := clears_readUInt8 h
  obtain ⟨hprotocol, h⟩ := h.guard (by simp)
  obtain ⟨-, h⟩ := clears_readUInt8 h
  obtain ⟨hkind, h⟩ := h.guard (by simp)
  obtain ⟨-, h⟩ := clears_readUInt16BE h
  obtain ⟨-, h⟩ := clears_readUInt16BE h
  obtain ⟨hreference, h⟩ := h.guard (by simp)
  obtain ⟨-, h⟩ := clears_readUInt16BE h
  obtain ⟨-, h⟩ := clears_readUInt16BE h
  obtain ⟨hextent, h⟩ := h.guard (by simp)
  obtain ⟨hparameters, h⟩ := h.guard (by simp)
  simp only [toNat_wordAt, Nat.reduceAdd] at h hextent hparameters
  rw [size_check] at hextent
  rw [word_check, show (12 : UInt16).toNat = 12 from rfl] at hparameters
  rw [hparameters] at h hextent
  simp only [jobHeaderSize, Nat.reduceAdd] at hextent
  obtain ⟨-, h⟩ := clears_readBytes (by omega) h
  obtain ⟨-, h⟩ := clears_readBytes (by omega) h
  obtain ⟨-, h⟩ := clears_finish h
  obtain ⟨-, h⟩ := clears_readBytes (Nat.zero_le _) h
  obtain ⟨hhead, h⟩ := h.guard (by simp)
  obtain ⟨-, h⟩ := clears_readUInt8 h
  obtain ⟨hwidth, h⟩ := h.guard (by simp)
  obtain ⟨-, h⟩ := clears_readUInt8 h
  obtain ⟨hmethod, h⟩ := h.guard (by simp)
  obtain ⟨-, h⟩ := clears_readUInt8 h
  obtain ⟨htypeGroup, h⟩ := h.guard (by simp)
  obtain ⟨-, h⟩ := clears_readUInt8 h
  obtain ⟨hsubfunction, h⟩ := h.guard (by simp)
  obtain ⟨-, h⟩ := clears_readUInt8 h
  obtain ⟨-, h⟩ := clears_readUInt8 h
  obtain ⟨-, h⟩ := clears_readUInt8 h
  obtain ⟨hflag, -⟩ := h.guard (by simp)
  rw [byteAt_slice _ _ _ _ (by decide)] at hwidth hmethod htypeGroup hsubfunction hflag
  exact {
    extent := hextent
    protocol := (byte_check ..).mp hprotocol
    kind := (byte_check ..).mp hkind
    reference := (word_check ..).mp hreference
    parameters := hparameters
    head := (head_check pdu (by omega)).mp hhead
    width := (byte_check ..).mp hwidth
    method := (byte_check ..).mp hmethod
    typeGroup := (typeGroup_check _ _ _ hgroup).mp htypeGroup
    subfunction := (byte_check ..).mp hsubfunction
    flag := (kind_check ..).mp hflag }

theorem decodeUserDataResponse_rejects (hgroup : group.toNat < 16)
    (h : ¬ UserDataFrame pdu reference.toNat group.toNat subfunction.toNat) :
    ∃ e, decodeUserDataResponse reference group subfunction pdu = .error e ∧ e.Local :=
  soft_of_not_clears fun hclears => h (userDataFrame_of_clears hgroup hclears)

end Frame

/-! ### What it does with the rest -/

/-- The item is a null acknowledgement the service may send. -/
def NullAcknowledgement (pdu : Bytes) (group subfunction : UInt8) : Prop :=
  byteAt pdu 22 = 10 ∧ supportsNullUserDataAcknowledgement group subfunction = true

instance (pdu : Bytes) (group subfunction : UInt8) : Decidable (NullAcknowledgement pdu group subfunction) :=
  inferInstanceAs (Decidable (_ ∧ _))

/-- The item header fits its return code: all zero and final under a null
acknowledgement, octets otherwise. -/
def ItemForm (pdu : Bytes) (group subfunction : UInt8) : Prop :=
  if NullAcknowledgement pdu group subfunction then
    byteAt pdu 23 = 0 ∧ wordAt pdu 24 = 0 ∧ byteAt pdu 19 = 0
  else byteAt pdu 23 = 9

instance (pdu : Bytes) (group subfunction : UInt8) : Decidable (ItemForm pdu group subfunction) := by
  unfold ItemForm
  infer_instance

/-- The response a packet spells, by position. -/
def framedUserData (pdu : Bytes) (group : UInt8) : UserDataResponse :=
  { reference := UInt16.ofNat (wordAt pdu 4)
    group
    subfunction := UInt8.ofNat (byteAt pdu 16)
    sequence := UInt8.ofNat (byteAt pdu 17)
    dataUnitReference := UInt8.ofNat (byteAt pdu 18)
    hasMoreData := byteAt pdu 19 != 0
    error := UInt16.ofNat (wordAt pdu 20)
    returnCode := UInt8.ofNat (byteAt pdu 22)
    transportSize := UInt8.ofNat (byteAt pdu 23)
    payload := pdu.drop 26 }

/-- From the error word on, by position. -/
def userDataItem (pdu : Bytes) (group subfunction : UInt8) : Verdict UserDataResponse :=
  if wordAt pdu 20 ≠ 0 then .refused
  else if pdu.length < 26 then .malformed
  else if byteAt pdu 22 ≠ 255 ∧ ¬ NullAcknowledgement pdu group subfunction then .refused
  else if ¬ ItemForm pdu group subfunction then .malformed
  else if pdu.length ≠ 26 + wordAt pdu 24 then .malformed
  else .accepted (framedUserData pdu group)

theorem flag_value (pdu : Bytes) (i : Nat) :
    (UInt8.ofNat (byteAt pdu i) != 0) = (byteAt pdu i != 0) := by
  rw [Bool.eq_iff_iff, bne_iff_ne, bne_iff_ne, ne_eq, ne_eq, byte_eq_iff, toNat_byteAt]
  rfl

theorem word_value (pdu : Bytes) (i : Nat) :
    (UInt16.ofNat (wordAt pdu i) != 0) = (wordAt pdu i != 0) := by
  rw [Bool.eq_iff_iff, bne_iff_ne, bne_iff_ne, ne_eq, ne_eq, ← UInt16.toNat_inj, toNat_wordAt]
  rfl

theorem null_value (pdu : Bytes) (group subfunction : UInt8) :
    (UInt8.ofNat (byteAt pdu 22) == 0x0a && supportsNullUserDataAcknowledgement group subfunction) =
      decide (NullAcknowledgement pdu group subfunction) := by
  rw [Bool.eq_iff_iff, Bool.and_eq_true, beq_iff_eq, byte_eq_iff, toNat_byteAt, decide_eq_true_iff]
  rfl

section Item
variable {pdu : Bytes} {reference : UInt16} {group subfunction : UInt8}

/-- The checks of the item header, whatever the texts of their errors, before a rest
that has its verdict by position. -/
theorem verdict_itemForm {refused nullForm octetForm : DecodeError} (hrefused : refused.isRemote = true)
    (hnullForm : nullForm.Local) (hoctetForm : octetForm.Local) (rest : Except DecodeError UserDataResponse) :
    verdict (do
      if UInt8.ofNat (byteAt pdu 22) != 0xff && !decide (NullAcknowledgement pdu group subfunction) then
        throw refused
      if decide (NullAcknowledgement pdu group subfunction) then
        if byteAt pdu 23 != 0 || wordAt pdu 24 != 0 || byteAt pdu 19 != 0 then
          throw nullForm
      else if UInt8.ofNat (byteAt pdu 23) != octetTransportSize then
        throw octetForm
      rest) =
      if byteAt pdu 22 ≠ 255 ∧ ¬ NullAcknowledgement pdu group subfunction then .refused
      else if ¬ ItemForm pdu group subfunction then .malformed
      else verdict rest := by
  have hmalformed : ∀ {e : DecodeError}, e.Local →
      (if e.isRemote = true then .refused else .malformed : Verdict UserDataResponse) = .malformed :=
    fun he => if_neg (ne_true_of_eq_false he)
  by_cases hnull : NullAcknowledgement pdu group subfunction
  · refine Eq.trans ?_ (if_neg fun h => h.2 hnull).symm
    refine (verdict_guard_ok (by simp [hnull])).trans ?_
    refine (congrArg verdict (if_pos (decide_eq_true hnull))).trans ?_
    by_cases hform : byteAt pdu 23 = 0 ∧ wordAt pdu 24 = 0 ∧ byteAt pdu 19 = 0
    · have hitem : ItemForm pdu group subfunction := by rwa [ItemForm, if_pos hnull]
      refine Eq.trans (verdict_guard_ok ?_) (if_neg (not_not_intro hitem)).symm
      simp [hform.1, hform.2.1, hform.2.2]
    · have hitem : ¬ ItemForm pdu group subfunction := by rwa [ItemForm, if_pos hnull]
      refine ((verdict_guard_error ?_).trans (hmalformed hnullForm)).trans (if_pos hitem).symm
      simp only [Bool.or_eq_true, bne_iff_ne, ne_eq]
      omega
  · by_cases hcode : byteAt pdu 22 = 255
    · refine Eq.trans ?_ (if_neg fun h => h.1 hcode).symm
      refine (verdict_guard_ok ?_).trans ?_
      · rw [Bool.and_eq_true]
        exact fun h => (byte_check ..).mpr hcode h.1
      refine (congrArg verdict (if_neg (by simp [hnull]))).trans ?_
      by_cases hform : byteAt pdu 23 = 9
      · have hitem : ItemForm pdu group subfunction := by rwa [ItemForm, if_neg hnull]
        exact (verdict_guard_ok ((byte_check ..).mpr hform)).trans (if_neg (not_not_intro hitem)).symm
      · have hitem : ¬ ItemForm pdu group subfunction := by rwa [ItemForm, if_neg hnull]
        refine ((verdict_guard_error ?_).trans (hmalformed hoctetForm)).trans (if_pos hitem).symm
        exact Classical.not_not.mp fun h => hform ((byte_check ..).mp h)
    · refine ((verdict_guard_error ?_).trans (if_pos hrefused)).trans (if_pos ⟨hcode, hnull⟩).symm
      rw [Bool.and_eq_true]
      exact ⟨Classical.not_not.mp fun h => hcode ((byte_check ..).mp h), by simp [hnull]⟩

/-- The payload and the end of the data, of a packet as long as its sections. -/
theorem verdict_payload (hextent : pdu.length = 22 + wordAt pdu 8) (hlong : 26 ≤ pdu.length) :
    verdict (readBytes ⟨slice pdu 22 (22 + wordAt pdu 8), 4⟩ (wordAt pdu 24) >>= fun read =>
        read.2.finish >>= fun _ => pure { framedUserData pdu group with payload := read.1 }) =
      if pdu.length ≠ 26 + wordAt pdu 24 then .malformed else .accepted (framedUserData pdu group) := by
  have hrest : slice pdu 22 (22 + wordAt pdu 8) = pdu.drop 22 := slice_to_end pdu 22 _ (by omega)
  have hlength : (pdu.drop 22).length = pdu.length - 22 := List.length_drop
  have hheader : 4 ≤ (pdu.drop 22).length := by omega
  rw [hrest]
  refine (verdict_readRest _ (fun payload => { framedUserData pdu group with payload }) hheader).trans ?_
  rw [List.drop_drop]
  by_cases hall : pdu.length = 26 + wordAt pdu 24
  · rw [if_pos (by omega), if_neg (not_not_intro hall)]
    rfl
  · rw [if_neg (by omega), if_pos hall]

/-- On a framed packet the decoder is the case analysis of the item. -/
theorem decodeUserDataResponse_frame (hgroup : group.toNat < 16)
    (frame : UserDataFrame pdu reference.toNat group.toNat subfunction.toNat) :
    verdict (decodeUserDataResponse reference group subfunction pdu) =
      userDataItem pdu group subfunction := by
  have hextent := frame.extent
  have hparameters := frame.parameters
  -- the header
  refine (verdict_bind_ok (readUInt8_at (by omega)) _).trans ?_
  refine (verdict_guard_ok ((byte_check ..).mpr frame.protocol)).trans ?_
  refine (verdict_bind_ok (readUInt8_at (by omega)) _).trans ?_
  refine (verdict_guard_ok ((byte_check ..).mpr frame.kind)).trans ?_
  refine (verdict_bind_ok (readUInt16BE_at (by omega)) _).trans ?_
  refine (verdict_bind_ok (readUInt16BE_at (by omega)) _).trans ?_
  refine (verdict_guard_ok ((word_check ..).mpr frame.reference)).trans ?_
  refine (verdict_bind_ok (readUInt16BE_at (by omega)) _).trans ?_
  refine (verdict_bind_ok (readUInt16BE_at (by omega)) _).trans ?_
  simp -zeta only [toNat_wordAt, Nat.reduceAdd]
  refine (verdict_guard_ok ((size_check ..).mpr (by rw [hextent, hparameters]; rfl))).trans ?_
  refine (verdict_guard_ok ((word_check ..).mpr hparameters)).trans ?_
  rw [hparameters]
  refine (verdict_bind_ok (readBytes_at (by omega)) _).trans ?_
  refine (verdict_bind_ok (readBytes_at (by omega)) _).trans ?_
  refine (verdict_bind_ok (finish_at (by omega)) _).trans ?_
  -- the parameters
  have hroom : ∀ n, n ≤ 12 → n ≤ (slice pdu 10 22).length := by
    intro n hn
    rw [length_slice]
    omega
  have hbyte : ∀ i, i < 12 → byteAt (slice pdu 10 22) i = byteAt pdu (10 + i) :=
    fun i hi => byteAt_slice _ _ _ _ (by omega)
  have hword : wordAt (slice pdu 10 22) 10 = wordAt pdu 20 := wordAt_slice _ _ _ _ (by decide)
  refine (verdict_bind_ok (readBytes_at (hroom _ (by decide))) _).trans ?_
  refine (verdict_guard_ok ((head_check pdu (by omega)).mpr frame.head)).trans ?_
  refine (verdict_bind_ok (readUInt8_at (hroom _ (by decide))) _).trans ?_
  refine (verdict_guard_ok ((byte_check ..).mpr ((hbyte _ (by decide)).trans frame.width))).trans ?_
  refine (verdict_bind_ok (readUInt8_at (hroom _ (by decide))) _).trans ?_
  refine (verdict_guard_ok ((byte_check ..).mpr ((hbyte _ (by decide)).trans frame.method))).trans ?_
  refine (verdict_bind_ok (readUInt8_at (hroom _ (by decide))) _).trans ?_
  refine (verdict_guard_ok ((typeGroup_check _ _ _ hgroup).mpr
    ((hbyte _ (by decide)).trans frame.typeGroup))).trans ?_
  refine (verdict_bind_ok (readUInt8_at (hroom _ (by decide))) _).trans ?_
  refine (verdict_guard_ok ((byte_check ..).mpr ((hbyte _ (by decide)).trans frame.subfunction))).trans ?_
  refine (verdict_bind_ok (readUInt8_at (hroom _ (by decide))) _).trans ?_
  refine (verdict_bind_ok (readUInt8_at (hroom _ (by decide))) _).trans ?_
  refine (verdict_bind_ok (readUInt8_at (hroom _ (by decide))) _).trans ?_
  refine (verdict_guard_ok ((kind_check ..).mpr (by rw [hbyte _ (by decide)]; exact frame.flag))).trans ?_
  refine (verdict_bind_ok (readUInt16BE_at (hroom _ (by decide))) _).trans ?_
  refine (verdict_bind_ok (finish_at ?_) _).trans ?_
  · simp only [length_slice, Nat.reduceAdd]
    omega
  -- the error word, and the item
  unfold userDataItem
  by_cases herror : wordAt pdu 20 = 0
  · refine (verdict_guard_ok ?_).trans ?_
    · rw [word_check]
      exact hword.trans herror
    rw [if_neg (not_not_intro herror)]
    by_cases hshort : pdu.length < 26
    · refine (verdict_guard_error ?_).trans (if_pos hshort).symm
      simp only [length_slice]
      omega
    · have hbyte' : ∀ i, i < 4 → byteAt (slice pdu 22 (22 + wordAt pdu 8)) i = byteAt pdu (22 + i) :=
        fun i hi => byteAt_slice _ _ _ _ (by omega)
      have hlength : wordAt (slice pdu 22 (22 + wordAt pdu 8)) 2 = wordAt pdu 24 :=
        wordAt_slice _ _ _ _ (by omega)
      have hroom' : ∀ n, n ≤ 4 → n ≤ (slice pdu 22 (22 + wordAt pdu 8)).length := by
        intro n hn
        rw [length_slice]
        omega
      rw [if_neg hshort, ← verdict_payload hextent (Nat.le_of_not_lt hshort)]
      refine (verdict_guard_ok (Nat.not_lt.mpr (hroom' 4 (by decide)))).trans ?_
      refine (verdict_bind_ok (readUInt8_at (hroom' _ (by decide))) _).trans ?_
      refine (verdict_bind_ok (readUInt8_at (hroom' _ (by decide))) _).trans ?_
      refine (verdict_bind_ok (readUInt16BE_at (hroom' _ (by decide))) _).trans ?_
      simp -zeta only [Nat.reduceAdd, Nat.zero_add, hword, hlength,
        hbyte 6 (by decide), hbyte 7 (by decide), hbyte 8 (by decide), hbyte 9 (by decide),
        hbyte' 0 (by decide), hbyte' 1 (by decide), flag_value, word_value, toNat_wordAt, null_value]
      refine verdict_itemForm ?_ ?_ ?_ _
      all_goals rfl
  · refine (verdict_guard_error ?_).trans (if_pos herror).symm
    rw [bne_iff_ne, ne_eq, ← UInt16.toNat_inj, toNat_wordAt]
    exact fun h => herror (hword.symm.trans h)

/-- The decoder on any packet: its frame, then its item. -/
theorem verdict_decodeUserDataResponse (hgroup : group.toNat < 16) :
    verdict (decodeUserDataResponse reference group subfunction pdu) =
      if UserDataFrame pdu reference.toNat group.toNat subfunction.toNat then
        userDataItem pdu group subfunction
      else .malformed := by
  by_cases frame : UserDataFrame pdu reference.toNat group.toNat subfunction.toNat
  · rw [if_pos frame, decodeUserDataResponse_frame hgroup frame]
  · rw [if_neg frame]
    exact verdict_local (decodeUserDataResponse_rejects hgroup frame)

end Item

/-! ### What the decoder accepts -/

theorem itemForm_of_null {pdu : Bytes} {group subfunction : UInt8}
    (h : NullAcknowledgement pdu group subfunction) :
    ItemForm pdu group subfunction ↔ byteAt pdu 23 = 0 ∧ wordAt pdu 24 = 0 ∧ byteAt pdu 19 = 0 := by
  rw [ItemForm, if_pos h]

theorem itemForm_of_not_null {pdu : Bytes} {group subfunction : UInt8}
    (h : ¬ NullAcknowledgement pdu group subfunction) :
    ItemForm pdu group subfunction ↔ byteAt pdu 23 = 9 := by
  rw [ItemForm, if_neg h]

/-- A complete item of octets. -/
structure OctetItem (pdu : Bytes) : Prop where
  code : byteAt pdu 22 = 255
  transport : byteAt pdu 23 = 9
  extent : pdu.length = 26 + wordAt pdu 24

/-- An empty, final null acknowledgement of a service that has one. -/
structure NullItem (pdu : Bytes) (group subfunction : UInt8) : Prop where
  code : NullAcknowledgement pdu group subfunction
  transport : byteAt pdu 23 = 0
  size : wordAt pdu 24 = 0
  flag : byteAt pdu 19 = 0
  extent : pdu.length = 26

theorem OctetItem.not_null {pdu : Bytes} (h : OctetItem pdu) (group subfunction : UInt8) :
    ¬ NullAcknowledgement pdu group subfunction := by
  intro hnull
  have hten := hnull.1
  have hcode := h.code
  omega

theorem userDataItem_of_octets {pdu : Bytes} (group subfunction : UInt8) (herror : wordAt pdu 20 = 0)
    (h : OctetItem pdu) : userDataItem pdu group subfunction = .accepted (framedUserData pdu group) := by
  have hextent := h.extent
  unfold userDataItem
  rw [if_neg (not_not_intro herror), if_neg (by omega), if_neg fun hrefused => hrefused.1 h.code,
    if_neg (not_not_intro ((itemForm_of_not_null (h.not_null _ _)).mpr h.transport)),
    if_neg (not_not_intro hextent)]

theorem userDataItem_of_null {pdu : Bytes} {group subfunction : UInt8} (herror : wordAt pdu 20 = 0)
    (h : NullItem pdu group subfunction) :
    userDataItem pdu group subfunction = .accepted (framedUserData pdu group) := by
  have hextent := h.extent
  have hsize := h.size
  unfold userDataItem
  rw [if_neg (not_not_intro herror), if_neg (by omega), if_neg fun hrefused => hrefused.2 h.code,
    if_neg (not_not_intro ((itemForm_of_null h.code).mpr ⟨h.transport, h.size, h.flag⟩)),
    if_neg (by omega)]

/-- The accepted items are error-free, and octets or a null acknowledgement. -/
theorem userDataItem_eq_accepted {pdu : Bytes} {group subfunction : UInt8} {response : UserDataResponse} :
    userDataItem pdu group subfunction = .accepted response ↔
      wordAt pdu 20 = 0 ∧ (OctetItem pdu ∨ NullItem pdu group subfunction) ∧
        response = framedUserData pdu group := by
  constructor
  · intro h
    unfold userDataItem at h
    split at h
    · cases h
    split at h
    · cases h
    split at h
    · cases h
    rename_i herror _ hrefused
    split at h
    · cases h
    rename_i hform
    split at h
    · cases h
    rename_i hextent
    cases h
    rw [Classical.not_not] at herror hform hextent
    refine ⟨herror, ?_, rfl⟩
    by_cases hnull : NullAcknowledgement pdu group subfunction
    · obtain ⟨htransport, hsize, hflag⟩ := (itemForm_of_null hnull).mp hform
      exact .inr ⟨hnull, htransport, hsize, hflag, by omega⟩
    · have hcode : byteAt pdu 22 = 255 := Classical.byContradiction fun h => hrefused ⟨h, hnull⟩
      exact .inl ⟨hcode, (itemForm_of_not_null hnull).mp hform, hextent⟩
  · rintro ⟨herror, hitem | hitem, rfl⟩
    · exact userDataItem_of_octets group subfunction herror hitem
    · exact userDataItem_of_null herror hitem

end ClassicS7.S7
