import ClassicS7.Oracle.UserData

/-! The operation oracle: single-response USER_DATA.

`decodeUserdata` is the oracle's decoder and `userDataResult` the client's chain
for services with one response. The oracle does not look at the transport size
and knows no null acknowledgements, so the two differ exactly on the packets of
`Divergent`. -/
namespace ClassicS7.Oracle.Operation
open Checks S7 UserData

/-- A rejection carries its category. -/
def decodeUserdata (pdu : Bytes) (reference group subfunction : Nat) : Except String Bytes := do
  if pdu.length < 10 ∨ slice pdu 0 2 ≠ [0x32, 0x07] then throw "pdu-validation"
  let actualReference := wordAt pdu 4
  let parameterSize := wordAt pdu 6
  let dataSize := wordAt pdu 8
  if actualReference ≠ reference ∨ parameterSize ≠ 12 ∨ pdu.length ≠ 10 + parameterSize + dataSize then
    throw "pdu-validation"
  let parameters := slice pdu 10 22
  let data := pdu.drop 22
  if slice parameters 0 5 ≠ [0, 1, 0x12, 8, 0x12] ∨ byteAt parameters 5 ≠ 0x80 ||| group ∨
      byteAt parameters 6 ≠ subfunction ∨ ¬ (byteAt parameters 9 = 0 ∨ byteAt parameters 9 = 1) ∨
      parameters.drop 10 ≠ [0, 0] ∨ data.length < 4 ∨ byteAt data 0 ≠ 255 ∨
      data.length ≠ 4 + fromBytes (slice data 2 4) then
    throw "pdu-validation"
  if byteAt parameters 9 ≠ 0 then throw "incomplete-single-response"
  return data.drop 4

/-- The client's chain for a service with one response. -/
def userDataResult (reference : UInt16) (group subfunction : UInt8) (pdu : Bytes) : Except String Bytes :=
  match decodeUserDataResponse reference group subfunction pdu with
  | .error _ => .error "pdu-validation"
  | .ok response =>
    match requireCompleteUserData response with
    | .error _ => .error "incomplete-single-response"
    | .ok payload => .ok payload

/-! ### What the oracle accepts -/

/-- Everything the oracle checks but the continuation flag. -/
structure Accepted (pdu : Bytes) (reference group subfunction : Nat) : Prop where
  frame : UserDataFrame pdu reference group subfunction
  error : wordAt pdu 20 = 0
  code : byteAt pdu 22 = 255
  extent : pdu.length = 26 + wordAt pdu 24

section Oracle
variable {pdu : Bytes} {reference group subfunction : Nat}

theorem accepted_of_clears (hgroup : group < 16)
    (h : Clears (· = "pdu-validation") (decodeUserdata pdu reference group subfunction)) :
    Accepted pdu reference group subfunction := by
  unfold decodeUserdata at h
  obtain ⟨hhead, h⟩ := h.guard rfl
  obtain ⟨hsections, h⟩ := h.guard rfl
  obtain ⟨hform, -⟩ := h.guard rfl
  simp only [not_or, ne_eq, Classical.not_not, Nat.not_lt] at hhead hsections hform
  obtain ⟨hshort, hhead⟩ := hhead
  obtain ⟨hreference, hsize, hextent⟩ := hsections
  obtain ⟨hparameters, htypeGroup, hsubfunction, hflag, herror, hroom, hcode, hpayload⟩ := hform
  rw [List.length_drop] at hroom hpayload
  rw [slice_eq_cons _ _ _ _ _ (by omega) (by omega), slice_eq_cons _ _ _ _ _ (by omega) (by omega)] at hhead
  rw [parameterHead_iff pdu (by omega)] at hparameters
  rw [parameterByte _ _ (by decide)] at htypeGroup hsubfunction hflag
  rw [typeGroup_eq group hgroup] at htypeGroup
  rw [errorBytes_iff pdu (by omega)] at herror
  rw [byteAt_drop] at hcode
  rw [payloadWord pdu (by omega)] at hpayload
  exact {
    frame := {
      extent := by omega
      protocol := hhead.1
      kind := hhead.2.1
      reference := hreference
      parameters := hsize
      head := hparameters.1
      width := hparameters.2.1
      method := hparameters.2.2
      typeGroup := htypeGroup
      subfunction := hsubfunction
      flag := Classical.byContradiction fun h => hflag (not_or.mp h) }
    error := herror
    code := hcode
    extent := by omega }

/-- The oracle on a packet that passes its checks. -/
theorem decodeUserdata_accepted (hgroup : group < 16) (h : Accepted pdu reference group subfunction) :
    decodeUserdata pdu reference group subfunction =
      if byteAt pdu 19 ≠ 0 then .error "incomplete-single-response" else .ok (pdu.drop 26) := by
  obtain ⟨frame, herror, hcode, hextent⟩ := h
  have hsections := frame.extent
  unfold decodeUserdata
  refine (guard_ok ?_).trans ((guard_ok ?_).trans ((guard_ok ?_).trans ?_))
  · simp only [not_or, ne_eq, Classical.not_not, Nat.not_lt]
    rw [slice_eq_cons _ _ _ _ _ (by omega) (by omega), slice_eq_cons _ _ _ _ _ (by omega) (by omega)]
    exact ⟨by omega, frame.protocol, frame.kind, slice_of_le _ _ _ (by omega)⟩
  · simp only [not_or, ne_eq, Classical.not_not]
    exact ⟨frame.reference, frame.parameters, by rw [frame.parameters]; omega⟩
  · simp only [not_or, ne_eq, Classical.not_not, Nat.not_lt]
    rw [parameterHead_iff pdu (by omega), parameterByte _ _ (by decide), parameterByte _ _ (by decide),
      parameterByte _ _ (by decide), typeGroup_eq group hgroup, errorBytes_iff pdu (by omega),
      payloadWord pdu (by omega), List.length_drop, byteAt_drop]
    exact ⟨⟨frame.head, frame.width, frame.method⟩, frame.typeGroup, frame.subfunction,
      fun h => frame.flag.elim h.1 h.2, herror, by omega, hcode, by omega⟩
  · rw [parameterByte _ _ (by decide), List.drop_drop]
    rfl

theorem decodeUserdata_rejected (hgroup : group < 16) (h : ¬ Accepted pdu reference group subfunction) :
    decodeUserdata pdu reference group subfunction = .error "pdu-validation" := by
  obtain ⟨category, hcategory, rfl⟩ := soft_of_not_clears fun hclears => h (accepted_of_clears hgroup hclears)
  exact hcategory

end Oracle

/-! ### What the client accepts -/

/-- The client's chain by the verdict of its decoder. -/
def single : Verdict UserDataResponse → Except String Bytes
  | .accepted response =>
    if response.hasMoreData then .error "incomplete-single-response" else .ok response.payload
  | .refused | .malformed => .error "pdu-validation"

theorem userDataResult_eq_single (reference : UInt16) (group subfunction : UInt8) (pdu : Bytes) :
    userDataResult reference group subfunction pdu =
      single (verdict (decodeUserDataResponse reference group subfunction pdu)) := by
  unfold userDataResult
  cases decodeUserDataResponse reference group subfunction pdu with
  | error error => cases h : error.isRemote <;> simp [verdict, h, single]
  | ok response =>
    rw [verdict_ok]
    simp only [single, requireCompleteUserData]
    cases response.hasMoreData <;> rfl

theorem single_not_accepted {v : Verdict UserDataResponse} (h : ∀ response, v ≠ .accepted response) :
    single v = .error "pdu-validation" := by
  cases v with
  | accepted response => exact absurd rfl (h response)
  | refused | malformed => rfl

/-! ### Where they differ -/

/-- A framed, error-free packet whose item the oracle takes although its transport
size is not octets, or refuses although it is a null acknowledgement. -/
def Divergent (pdu : Bytes) (reference : UInt16) (group subfunction : UInt8) : Prop :=
  UserDataFrame pdu reference.toNat group.toNat subfunction.toNat ∧ wordAt pdu 20 = 0 ∧
    ((byteAt pdu 22 = 255 ∧ byteAt pdu 23 ≠ 9 ∧ pdu.length = 26 + wordAt pdu 24) ∨
      (NullAcknowledgement pdu group subfunction ∧ byteAt pdu 23 = 0 ∧ wordAt pdu 24 = 0 ∧
        byteAt pdu 19 = 0 ∧ pdu.length = 26))

instance (pdu : Bytes) (reference : UInt16) (group subfunction : UInt8) :
    Decidable (Divergent pdu reference group subfunction) :=
  inferInstanceAs (Decidable (_ ∧ _))

section Difference
variable {pdu : Bytes} {reference : UInt16} {group subfunction : UInt8}

/-- What the oracle accepts, it accepts with the client exactly for octets. -/
theorem eq_iff_of_accepted (hgroup : group.toNat < 16)
    (h : Accepted pdu reference.toNat group.toNat subfunction.toNat) :
    decodeUserdata pdu reference.toNat group.toNat subfunction.toNat =
      single (userDataItem pdu group subfunction) ↔ byteAt pdu 23 = 9 := by
  rw [decodeUserdata_accepted hgroup h]
  by_cases htransport : byteAt pdu 23 = 9
  · rw [userDataItem_of_octets group subfunction h.error ⟨h.code, htransport, h.extent⟩]
    refine iff_of_true ?_ htransport
    simp only [single, framedUserData, bne_iff_ne]
  · have hrejected : ∀ response, userDataItem pdu group subfunction ≠ .accepted response := by
      intro response hresponse
      obtain ⟨-, hitem | hitem, -⟩ := userDataItem_eq_accepted.mp hresponse
      · exact htransport hitem.transport
      · have hten := hitem.code.1
        have hcode := h.code
        omega
    rw [single_not_accepted hrejected]
    refine iff_of_false ?_ htransport
    split <;> simp

/-- What the oracle rejects, it rejects with the client unless it is a null acknowledgement. -/
theorem eq_iff_of_rejected (hgroup : group.toNat < 16) (herror : wordAt pdu 20 = 0)
    (frame : UserDataFrame pdu reference.toNat group.toNat subfunction.toNat)
    (h : ¬ Accepted pdu reference.toNat group.toNat subfunction.toNat) :
    decodeUserdata pdu reference.toNat group.toNat subfunction.toNat =
      single (userDataItem pdu group subfunction) ↔ ¬ NullItem pdu group subfunction := by
  rw [decodeUserdata_rejected hgroup h]
  by_cases hnull : NullItem pdu group subfunction
  · rw [userDataItem_of_null herror hnull]
    refine iff_of_false ?_ (not_not_intro hnull)
    simp [single, framedUserData, hnull.flag]
  · refine iff_of_true (single_not_accepted ?_).symm hnull
    intro response hresponse
    obtain ⟨-, hitem | hitem, -⟩ := userDataItem_eq_accepted.mp hresponse
    · exact h ⟨frame, herror, hitem.code, hitem.extent⟩
    · exact hnull hitem

end Difference

/-- **The operation oracle gives the client's verdict exactly off the divergent
packets**: accepted with the same payload, incomplete, or not decoded. -/
theorem decodeUserdata_eq_iff (pdu : Bytes) (reference : UInt16) (group subfunction : UInt8)
    (hgroup : group.toNat < 16) :
    decodeUserdata pdu reference.toNat group.toNat subfunction.toNat =
        userDataResult reference group subfunction pdu ↔
      ¬ Divergent pdu reference group subfunction := by
  rw [userDataResult_eq_single, verdict_decodeUserDataResponse hgroup]
  by_cases hbase : UserDataFrame pdu reference.toNat group.toNat subfunction.toNat ∧ wordAt pdu 20 = 0
  · obtain ⟨frame, herror⟩ := hbase
    rw [if_pos frame]
    by_cases haccepted : Accepted pdu reference.toNat group.toNat subfunction.toNat
    · rw [eq_iff_of_accepted hgroup haccepted]
      constructor
      · rintro htransport ⟨-, -, hoctets | hnull⟩
        · exact hoctets.2.1 htransport
        · omega
      · exact fun h => Classical.byContradiction fun htransport =>
          h ⟨frame, herror, .inl ⟨haccepted.code, htransport, haccepted.extent⟩⟩
    · rw [eq_iff_of_rejected hgroup herror frame haccepted]
      refine not_congr ⟨fun h => ?_, ?_⟩
      · exact ⟨frame, herror, .inr ⟨h.code, h.transport, h.size, h.flag, h.extent⟩⟩
      · rintro ⟨-, -, hoctets | ⟨hcode, htransport, hsize, hflag, hextent⟩⟩
        · exact absurd ⟨frame, herror, hoctets.1, hoctets.2.2⟩ haccepted
        · exact ⟨hcode, htransport, hsize, hflag, hextent⟩
  · -- neither side looks at the item
    rw [decodeUserdata_rejected hgroup fun h => hbase ⟨h.frame, h.error⟩]
    refine iff_of_true (single_not_accepted ?_).symm fun h => hbase ⟨h.1, h.2.1⟩
    intro response hresponse
    split at hresponse
    · rename_i frame
      exact hbase ⟨frame, (userDataItem_eq_accepted.mp hresponse).1⟩
    · cases hresponse

/-- A complete response of octets is no divergent packet, and both accept it. -/
theorem decodeUserdata_eq_iff_sample :
    decodeUserdata [0x32, 7, 0, 0, 0, 1, 0, 12, 0, 5, 0, 1, 0x12, 8, 0x12, 0x87, 1, 0, 0, 0, 0, 0, 255, 9, 0, 1, 0xaa]
        (1 : UInt16).toNat (7 : UInt8).toNat (1 : UInt8).toNat =
      userDataResult 1 7 1
        [0x32, 7, 0, 0, 0, 1, 0, 12, 0, 5, 0, 1, 0x12, 8, 0x12, 0x87, 1, 0, 0, 0, 0, 0, 255, 9, 0, 1, 0xaa] :=
  (decodeUserdata_eq_iff _ 1 7 1 (by decide)).mpr (by decide +kernel)

/-- A response whose transport size counts bits. -/
def bitResponse : Bytes :=
  [0x32, 7, 0, 0, 0, 1, 0, 12, 0, 5, 0, 1, 0x12, 8, 0x12, 0x87, 1, 0, 0, 0, 0, 0, 255, 4, 0, 1, 0xaa]

/-- The oracle accepts it as bytes, and the client does not decode it. -/
theorem decodeUserdata_ne_userDataResult :
    decodeUserdata bitResponse 1 7 1 = .ok [0xaa] ∧
      decodeUserdata bitResponse 1 7 1 ≠ userDataResult 1 7 1 bitResponse := by
  refine ⟨toOption_eq_some.mp (by decide +kernel), fun h => ?_⟩
  exact absurd (congrArg Except.toOption h) (by decide +kernel)

end ClassicS7.Oracle.Operation
