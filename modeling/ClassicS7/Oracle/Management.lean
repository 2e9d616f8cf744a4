import ClassicS7.Oracle.UserData

/-! The management oracle: USER_DATA responses.

A second decoder of the same packets, by slices and unpacked fields. A rejection
carries its category: `plc-rejected` where the packet is a valid refusal of the
PLC, `protocol` where it is no valid response. -/
namespace ClassicS7.Oracle.Management
open Checks S7 UserData

/-- What an accepted packet is reported with. -/
structure Reply where
  payload : Bytes
  sequence : Nat
  dataUnitReference : Nat
  hasMoreData : Bool
  returnCode : Nat
  transportSize : Nat
  deriving Repr, DecidableEq

def decode (pdu : Bytes) (reference group subfunction : Nat) : Except String Reply := do
  if pdu.length < 10 then throw "protocol"
  let parameterSize := wordAt pdu 6
  let dataSize := wordAt pdu 8
  if byteAt pdu 0 ≠ 0x32 ∨ byteAt pdu 1 ≠ 7 ∨ wordAt pdu 4 ≠ reference ∨ parameterSize ≠ 12 ∨
      pdu.length ≠ 10 + parameterSize + dataSize then
    throw "protocol"
  let parameters := slice pdu 10 22
  if slice parameters 0 5 ≠ [0, 1, 0x12, 8, 0x12] ∨ byteAt parameters 5 >>> 4 ≠ 8 ∨
      byteAt parameters 5 &&& 15 ≠ group ∨ byteAt parameters 6 ≠ subfunction ∨
      ¬ (byteAt parameters 9 = 0 ∨ byteAt parameters 9 = 1) then
    throw "protocol"
  if fromBytes (slice parameters 10 12) ≠ 0 then throw "plc-rejected"
  let data := pdu.drop 22
  if data.length < 4 then throw "protocol"
  let code := byteAt data 0
  let transport := byteAt data 1
  let length := wordAt data 2
  let nullAck := code == 10 && [(7, 2), (5, 1), (5, 2)].contains (group, subfunction)
  if code ≠ 255 ∧ ¬ nullAck = true then throw "plc-rejected"
  if nullAck = true then
    if transport ≠ 0 ∨ length ≠ 0 ∨ byteAt parameters 9 ≠ 0 then throw "protocol"
  else if transport ≠ 9 then throw "protocol"
  if data.length ≠ 4 + length then throw "protocol"
  return {
    payload := data.drop 4
    sequence := byteAt parameters 7
    dataUnitReference := byteAt parameters 8
    hasMoreData := byteAt parameters 9 != 0
    returnCode := code
    transportSize := transport
  }

/-! ### Header and parameters -/

section Frame
variable {pdu : Bytes} {reference group subfunction : Nat}

/-- What gets past the oracle's form checks is a framed packet. -/
theorem frame_of_clears (hgroup : group < 16)
    (h : Clears (· = "protocol") (decode pdu reference group subfunction)) :
    UserDataFrame pdu reference group subfunction := by
  unfold decode at h
  obtain ⟨hshort, h⟩ := h.guard rfl
  obtain ⟨hheader, h⟩ := h.guard rfl
  obtain ⟨hparameters, -⟩ := h.guard rfl
  simp only [not_or, ne_eq, Classical.not_not] at hheader hparameters
  obtain ⟨hprotocol, hkind, hreference, hsize, hextent⟩ := hheader
  obtain ⟨hhead, hhigh, hlow, hsubfunction, hflag⟩ := hparameters
  rw [parameterHead_iff pdu (by omega)] at hhead
  rw [parameterByte _ _ (by decide)] at hhigh hlow hsubfunction hflag
  exact {
    extent := by omega
    protocol := hprotocol
    kind := hkind
    reference := hreference
    parameters := hsize
    head := hhead.1
    width := hhead.2.1
    method := hhead.2.2
    typeGroup := (halves_iff _ _ hgroup).mp ⟨hhigh, hlow⟩
    subfunction := hsubfunction
    flag := Classical.byContradiction fun h => hflag (not_or.mp h) }

end Frame

/-! ### The item -/

/-- The fields of the client's response that the oracle reports. -/
def Reply.ofResponse (response : UserDataResponse) : Reply :=
  { payload := response.payload
    sequence := response.sequence.toNat
    dataUnitReference := response.dataUnitReference.toNat
    hasMoreData := response.hasMoreData
    returnCode := response.returnCode.toNat
    transportSize := response.transportSize.toNat }

/-- The client's verdict in the oracle's words. -/
def ofVerdict : Verdict UserDataResponse → Except String Reply
  | .accepted response => .ok (.ofResponse response)
  | .refused => .error "plc-rejected"
  | .malformed => .error "protocol"

theorem supportsNull_iff (group subfunction : UInt8) :
    [(7, 2), (5, 1), (5, 2)].contains (group.toNat, subfunction.toNat) =
      supportsNullUserDataAcknowledgement group subfunction := by
  rw [Bool.eq_iff_iff]
  simp [supportsNullUserDataAcknowledgement, byte_eq_iff, clockGroup, setClockSubfunction, securityGroup,
    enterPasswordSubfunction, clearPasswordSubfunction]
  omega

/-- What the oracle reports of a framed packet. -/
def itemReply (pdu : Bytes) : Reply :=
  { payload := (pdu.drop 22).drop 4
    sequence := byteAt pdu 17
    dataUnitReference := byteAt pdu 18
    hasMoreData := byteAt pdu 19 != 0
    returnCode := byteAt pdu 22
    transportSize := byteAt pdu 23 }

theorem itemReply_eq (pdu : Bytes) (group : UInt8) :
    itemReply pdu = .ofResponse (framedUserData pdu group) := by
  simp only [itemReply, Reply.ofResponse, framedUserData, List.drop_drop, toNat_byteAt]

theorem null_iff (pdu : Bytes) (group subfunction : UInt8) :
    (byteAt pdu 22 == 10 && supportsNullUserDataAcknowledgement group subfunction) = true ↔
      NullAcknowledgement pdu group subfunction := by
  rw [Bool.and_eq_true, beq_iff_eq]
  rfl

/-- The last check of both, and their reports past it. -/
theorem reply_extent (pdu : Bytes) (group : UInt8) (hlong : ¬ pdu.length < 26) :
    (if (pdu.drop 22).length ≠ 4 + wordAt pdu 24 then
        throw "protocol" >>= fun (_ : PUnit) => pure (itemReply pdu)
      else pure (itemReply pdu) : Except String Reply) =
        ofVerdict (if pdu.length ≠ 26 + wordAt pdu 24 then .malformed
          else .accepted (framedUserData pdu group)) := by
  have hlength : (pdu.drop 22).length = pdu.length - 22 := List.length_drop
  by_cases hall : pdu.length ≠ 26 + wordAt pdu 24
  · rw [if_pos hall, if_pos (by omega)]
    rfl
  · rw [if_neg hall, if_neg (by omega), itemReply_eq pdu group]
    rfl

/-- On a framed packet both decoders are the same case analysis of the item. -/
theorem decode_frame {pdu : Bytes} {reference : UInt16} {group subfunction : UInt8}
    (hgroup : group.toNat < 16)
    (frame : UserDataFrame pdu reference.toNat group.toNat subfunction.toNat) :
    decode pdu reference.toNat group.toNat subfunction.toNat =
      ofVerdict (userDataItem pdu group subfunction) := by
  have hextent := frame.extent
  unfold decode
  refine (guard_ok (by omega)).trans ?_
  refine (guard_ok ?_).trans ?_
  · simp only [not_or, ne_eq, Classical.not_not]
    exact ⟨frame.protocol, frame.kind, frame.reference, frame.parameters, by rw [frame.parameters]; omega⟩
  refine (guard_ok ?_).trans ?_
  · simp only [not_or, ne_eq, Classical.not_not]
    have hhalves := (halves_iff _ _ hgroup).mpr frame.typeGroup
    rw [parameterHead_iff pdu (by omega), parameterByte _ _ (by decide), parameterByte _ _ (by decide),
      parameterByte _ _ (by decide)]
    exact ⟨⟨frame.head, frame.width, frame.method⟩, hhalves.1, hhalves.2, frame.subfunction,
      fun h => frame.flag.elim h.1 h.2⟩
  rw [errorWord pdu (by omega)]
  by_cases herror : wordAt pdu 20 ≠ 0
  · refine (guard_error herror).trans ?_
    rw [userDataItem, if_pos herror]
    rfl
  refine (guard_ok herror).trans (Eq.trans ?_ (congrArg ofVerdict (if_neg herror)).symm)
  by_cases hshort : pdu.length < 26
  · refine (guard_error ?_).trans ?_
    · rw [List.length_drop]
      omega
    · rw [if_pos hshort]
      rfl
  refine (guard_ok ?_).trans (Eq.trans ?_ (congrArg ofVerdict (if_neg hshort)).symm)
  · rw [List.length_drop]
    omega
  simp -zeta only [byteAt_drop, wordAt_drop, supportsNull_iff, parameterByte pdu 7 (by decide),
    parameterByte pdu 8 (by decide), parameterByte pdu 9 (by decide), Nat.reduceAdd]
  have hnull := null_iff pdu group subfunction
  by_cases hrefused : byteAt pdu 22 ≠ 255 ∧ ¬ NullAcknowledgement pdu group subfunction
  · refine (guard_error (by rwa [hnull])).trans ?_
    rw [if_pos hrefused]
    rfl
  refine (guard_ok (by rwa [hnull])).trans (Eq.trans ?_ (congrArg ofVerdict (if_neg hrefused)).symm)
  have hrest := reply_extent pdu group hshort
  by_cases hform : ItemForm pdu group subfunction
  · refine Eq.trans ?_ (congrArg ofVerdict (if_neg (not_not_intro hform))).symm
    unfold ItemForm at hform
    by_cases hack : NullAcknowledgement pdu group subfunction
    · rw [if_pos hack] at hform
      refine (if_pos (hnull.mpr hack)).trans ((guard_ok (by omega)).trans hrest)
    · rw [if_neg hack] at hform
      exact (if_neg (mt hnull.mp hack)).trans ((guard_ok (not_not_intro hform)).trans hrest)
  · refine Eq.trans ?_ (congrArg ofVerdict (if_pos hform)).symm
    unfold ItemForm at hform
    by_cases hack : NullAcknowledgement pdu group subfunction
    · rw [if_pos hack] at hform
      exact (if_pos (hnull.mpr hack)).trans (guard_error (by omega))
    · rw [if_neg hack] at hform
      exact (if_neg (mt hnull.mp hack)).trans (guard_error hform)

/-- **The management oracle is the client's USER_DATA decoder**: it accepts the
same packets with the same fields, and where it rejects, it says `plc-rejected`
exactly where the client's error is the remote's. -/
theorem decode_eq_decodeUserDataResponse (pdu : Bytes) (reference : UInt16) (group subfunction : UInt8)
    (hgroup : group.toNat < 16) :
    decode pdu reference.toNat group.toNat subfunction.toNat =
      match decodeUserDataResponse reference group subfunction pdu with
      | .ok response => .ok {
          payload := response.payload
          sequence := response.sequence.toNat
          dataUnitReference := response.dataUnitReference.toNat
          hasMoreData := response.hasMoreData
          returnCode := response.returnCode.toNat
          transportSize := response.transportSize.toNat }
      | .error error => .error (if error.isRemote then "plc-rejected" else "protocol") := by
  have hverdict : decode pdu reference.toNat group.toNat subfunction.toNat =
      ofVerdict (verdict (decodeUserDataResponse reference group subfunction pdu)) := by
    rw [verdict_decodeUserDataResponse hgroup]
    by_cases frame : UserDataFrame pdu reference.toNat group.toNat subfunction.toNat
    · rw [if_pos frame, decode_frame hgroup frame]
    · rw [if_neg frame]
      obtain ⟨category, hcategory, rfl⟩ := soft_of_not_clears fun h => frame (frame_of_clears hgroup h)
      exact hcategory
  rw [hverdict]
  cases decodeUserDataResponse reference group subfunction pdu with
  | ok response => rfl
  | error error =>
    simp only [verdict]
    cases error.isRemote <;> rfl

/-- A null acknowledgement of a clock setting, which both sides accept. -/
theorem decode_eq_decodeUserDataResponse_sample :
    (decode [0x32, 7, 0, 0, 0, 1, 0, 12, 0, 4, 0, 1, 0x12, 8, 0x12, 0x87, 2, 0, 0, 0, 0, 0, 10, 0, 0, 0]
      (1 : UInt16).toNat (7 : UInt8).toNat (2 : UInt8).toNat).toOption =
      some { payload := [], sequence := 0, dataUnitReference := 0, hasMoreData := false, returnCode := 10,
             transportSize := 0 } :=
  (congrArg Except.toOption (decode_eq_decodeUserDataResponse _ 1 7 2 (by decide))).trans (by decide +kernel)

end ClassicS7.Oracle.Management
