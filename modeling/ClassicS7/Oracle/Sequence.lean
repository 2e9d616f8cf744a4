import ClassicS7.Oracle.UserData
import ClassicS7.Oracle.Correspondence
import ClassicS7.Wire.Assembly

/-! The sequence oracle: multi-item responses and USER_DATA conversations.

Both walk their input with running offsets and counters. A multi-item response is
compared with the client's decoders item by item, a conversation with the client's
assembly reply by reply. -/
namespace ClassicS7.Oracle.Sequence
open Checks S7 UserData

/-! ### Sections -/

/-- The parameter and data section of a packet of a kind. -/
def sections (packet : Bytes) (kind reference : Nat) : Except String (Bytes × Bytes) := do
  let headerSize := if kind = 3 then 12 else 10
  if packet.length < headerSize ∨ slice packet 0 4 ≠ [0x32, UInt8.ofNat kind, 0, 0] then
    throw "invalid S7 header"
  let actualReference := wordAt packet 4
  let parameterSize := wordAt packet 6
  let dataSize := wordAt packet 8
  if actualReference ≠ reference ∨ packet.length ≠ headerSize + parameterSize + dataSize then
    throw "reference or section length mismatch"
  if kind = 3 ∧ slice packet 10 12 ≠ [0, 0] then throw "global PLC error"
  return (slice packet headerSize (headerSize + parameterSize), packet.drop (headerSize + parameterSize))

/-- What the oracle checks of a packet's header. -/
structure Header (packet : Bytes) (kind reference size : Nat) : Prop where
  protocol : byteAt packet 0 = 0x32
  kind : byteAt packet 1 = kind
  reserved : wordAt packet 2 = 0
  reference : wordAt packet 4 = reference
  extent : packet.length = size + wordAt packet 6 + wordAt packet 8

theorem header_iff (packet : Bytes) (kind : UInt8) (h : 4 ≤ packet.length) :
    slice packet 0 4 = [0x32, kind, 0, 0] ↔
      byteAt packet 0 = 0x32 ∧ byteAt packet 1 = kind.toNat ∧ wordAt packet 2 = 0 := by
  have hzero : (0 : UInt8).toNat = 0 := rfl
  have hprotocol : (0x32 : UInt8).toNat = 0x32 := rfl
  rw [slice_eq_cons _ _ _ _ _ (by omega) (by omega), slice_eq_cons _ _ _ _ _ (by omega) (by omega),
    slice_eq_cons _ _ _ _ _ (by omega) (by omega), slice_eq_cons _ _ _ _ _ (by omega) (by omega),
    slice_eq_nil _ _ _ (by omega), and_true, hzero, hprotocol, wordAt]
  simp only [Nat.reduceAdd]
  omega

/-- The sections of a packet of a kind, whose header has the kind's size. -/
theorem sections_eq_ok {packet : Bytes} (kind : UInt8) {reference size : Nat} {result : Bytes × Bytes}
    (hsize : (if kind.toNat = 3 then 12 else 10) = size) :
    sections packet kind.toNat reference = .ok result ↔
      Header packet kind.toNat reference size ∧ (kind.toNat = 3 → slice packet 10 12 = [0, 0]) ∧
        result = (slice packet size (size + wordAt packet 6), packet.drop (size + wordAt packet 6)) := by
  have hten : 10 ≤ size := by split at hsize <;> omega
  unfold sections
  rw [hsize, UInt8.ofNat_toNat]
  constructor
  · intro h
    obtain ⟨hhead, h⟩ := guard_eq_ok.mp h
    obtain ⟨hsections, h⟩ := guard_eq_ok.mp h
    obtain ⟨hstatus, h⟩ := guard_eq_ok.mp h
    cases h
    simp only [not_or, Nat.not_lt, ne_eq, Classical.not_not, not_and] at hhead hsections hstatus
    obtain ⟨hprotocol, hkind, hreserved⟩ := (header_iff packet kind (by omega)).mp hhead.2
    exact ⟨⟨hprotocol, hkind, hreserved, hsections.1, hsections.2⟩, hstatus, rfl⟩
  · rintro ⟨header, hstatus, rfl⟩
    have hextent := header.extent
    refine (guard_ok ?_).trans ((guard_ok ?_).trans ((guard_ok fun h => h.2 (hstatus h.1)).trans rfl))
    · simp only [not_or, Nat.not_lt, ne_eq, Classical.not_not]
      exact ⟨by omega, (header_iff packet kind (by omega)).mpr ⟨header.protocol, header.kind, header.reserved⟩⟩
    · simp only [not_or, ne_eq, Classical.not_not]
      exact ⟨header.reference, hextent⟩

/-! ### Multi-item responses -/

/-- The report of one item; a write has no payload. -/
inductive Item where
  | success (payload : Option Bytes)
  | failure (code : UInt8)
  deriving Repr, DecidableEq

/-- One status byte, and where the next one is. -/
def writeStatus (data : Bytes) (offset : Nat) : Except String (Item × Nat) := do
  if offset ≥ data.length then throw "missing write status"
  let code := UInt8.ofNat (byteAt data offset)
  return (if code = 255 then .success none else .failure code, offset + 1)

/-- One read item, and where the next one is. -/
def readStatus (width index : Nat) (item : RangeValue) (data : Bytes) (offset : Nat) :
    Except String (Item × Nat) := do
  if offset + 4 > data.length then throw "truncated read header"
  let code := UInt8.ofNat (byteAt data offset)
  let transport := byteAt data (offset + 1)
  let length := wordAt data (offset + 2)
  let offset := offset + 4
  if ¬ transport = 9 ∧ length % 8 ≠ 0 then throw "unaligned bit length"
  let size := if transport = 9 then length else length / 8
  if offset + size > data.length then throw "truncated read payload"
  let payload := slice data offset (offset + size)
  let offset := offset + size
  if index + 1 < width ∧ size % 2 ≠ 0 ∧ offset ≥ data.length then throw "missing inter-item padding"
  let offset := if index + 1 < width ∧ size % 2 ≠ 0 then offset + 1 else offset
  if code = 255 ∧ (transport ≠ 4 ∨ size ≠ item.count) then
    throw "successful read transport/length differs"
  return (if code = 255 then .success (some payload) else .failure code, offset)

/-- The items from an index and an offset on, up to the end of the data. -/
def decodeItems (write : Bool) (width : Nat) (data : Bytes) :
    Nat → Nat → List RangeValue → Except String (List Item)
  | _, offset, [] => if offset ≠ data.length then .error "trailing response bytes" else .ok []
  | index, offset, item :: rest => do
    let (result, offset) ←
      if write then writeStatus data offset else readStatus width index item data offset
    let results ← decodeItems write width data (index + 1) offset rest
    return result :: results

/-- The items of a response, or the first error. -/
def decodeMulti (write : Bool) (reference : Nat) (ranges : List RangeValue) (pdu : Bytes) :
    Except String (List Item) := do
  let (parameters, data) ← sections pdu 3 reference
  if parameters ≠ [if write then 5 else 4, UInt8.ofNat ranges.length] then
    throw "response item count/function differs"
  decodeItems write ranges.length data 0 0 ranges

/-! ### Items against the client's -/

def Item.ofRead : ReadItemResult → Item
  | .success payload => .success (some payload)
  | .failure code => .failure code

def Item.ofWrite : WriteItemResult → Item
  | .success => .success none
  | .failure code => .failure code

/-- The client's decoders for a multi-item response. -/
def multiResult (write : Bool) (reference : UInt16) (ranges : Array S7.MemoryRange) (pdu : Bytes) :
    Except DecodeError (List Item) := do
  let response ← decodeResponse pdu
  if write then
    let results ← decodeAreaWriteMany reference ranges.size response
    return results.toList.map Item.ofWrite
  else
    let results ← decodeAreaReadMany reference ranges response
    return results.toList.map Item.ofRead

theorem ofWrite_ofReturnCode (code : UInt8) :
    Item.ofWrite (.ofReturnCode code) = if code = 255 then .success none else .failure code := by
  unfold WriteItemResult.ofReturnCode
  by_cases h : code = 255
  · rw [if_pos (beq_iff_eq.mpr h), if_pos h, Item.ofWrite]
  · rw [if_neg (mt beq_iff_eq.mp h), if_neg h, Item.ofWrite]

theorem ofNat_byteAt_eq_255 (data : Bytes) (i : Nat) :
    UInt8.ofNat (byteAt data i) = 255 ↔ byteAt data i = 255 := by
  rw [byte_eq_iff, toNat_byteAt]
  rfl

section Items
variable {data : Bytes} {offset : Nat}

/-- One read item is the client's, padding included. -/
theorem readStatus_eq_ok (width index : Nat) (item : RangeValue) (final : Bool)
    (hfinal : final = false ↔ index + 1 < width) {result : Item × Nat} :
    readStatus width index item data offset = .ok result ↔
      ReadItemFrame item.model final data offset ∧
        result = (.ofRead (itemResult data offset), itemNext final data offset) := by
  have hresult : (if UInt8.ofNat (byteAt data offset) = 255 then
      Item.success (some (slice data (offset + 4) (offset + 4 + itemSize data offset)))
      else .failure (UInt8.ofNat (byteAt data offset))) = .ofRead (itemResult data offset) := by
    simp only [itemResult, ofNat_byteAt_eq_255]
    split <;> rfl
  rw [readItemFrame_iff_checks rfl hfinal, ← hresult, ← nextOffset_eq hfinal, ← ofNat_byteAt_eq_255]
  unfold readStatus
  constructor
  · intro h
    obtain ⟨hheader, h⟩ := guard_eq_ok.mp h
    obtain ⟨haligned, h⟩ := guard_eq_ok.mp h
    obtain ⟨hpayload, h⟩ := guard_eq_ok.mp h
    obtain ⟨hpadding, h⟩ := guard_eq_ok.mp h
    obtain ⟨hform, h⟩ := guard_eq_ok.mp h
    exact ⟨⟨hheader, haligned, hpayload, hpadding, hform⟩, (Except.ok.inj h).symm⟩
  · rintro ⟨⟨hheader, haligned, hpayload, hpadding, hform⟩, rfl⟩
    refine (guard_ok hheader).trans ((guard_ok haligned).trans ((guard_ok hpayload).trans ?_))
    exact (guard_ok hpadding).trans ((guard_ok hform).trans rfl)

/-- Read items are the client's, at every position of the list. -/
theorem decodeItems_read (width : Nat) (ranges : List RangeValue) (index offset : Nat)
    (hwidth : index + ranges.length = width) :
    (decodeItems false width data index offset ranges).toOption =
      (readItems (ranges.map RangeValue.model) data offset).map (List.map Item.ofRead) := by
  induction ranges generalizing index offset with
  | nil =>
    rw [List.map_nil, readItems, decodeItems]
    by_cases hend : offset = data.length
    · rw [if_pos hend, if_neg (not_not_intro hend)]
      rfl
    · rw [if_neg hend, if_pos hend]
      rfl
  | cons item rest ih =>
    rw [List.length_cons] at hwidth
    have hfinal := isEmpty_rest_iff RangeValue.model rest hwidth
    have hstatus : ∀ result, readStatus width index item data offset = .ok result ↔ _ :=
      fun _ => readStatus_eq_ok width index item _ hfinal
    rw [List.map_cons, readItems, decodeItems]
    by_cases frame : ReadItemFrame item.model (rest.map RangeValue.model).isEmpty data offset
    · refine (congrArg Except.toOption (bind_ok ((hstatus _).mpr ⟨frame, rfl⟩) _)).trans ?_
      rw [if_pos frame, toOption_bind, ih (index + 1) _ (by omega)]
      cases readItems (rest.map RangeValue.model) data
        (itemNext (rest.map RangeValue.model).isEmpty data offset) <;> rfl
    · rw [if_neg frame]
      cases hread : readStatus width index item data offset with
      | error e => rfl
      | ok result => exact absurd ((hstatus result).mp hread).1 frame

/-- Write items are the client's status bytes. -/
theorem decodeItems_write (width : Nat) (ranges : List RangeValue) (index offset : Nat)
    (hoffset : offset ≤ data.length) :
    (decodeItems true width data index offset ranges).toOption =
      if data.length = offset + ranges.length then
        some ((data.drop offset).map fun code => .ofWrite (.ofReturnCode code))
      else none := by
  induction ranges generalizing index offset with
  | nil =>
    rw [decodeItems]
    by_cases hend : offset = data.length
    · rw [if_neg (not_not_intro hend), List.length_nil, Nat.add_zero, if_pos hend.symm, hend, List.drop_length]
      rfl
    · rw [if_pos hend, List.length_nil, Nat.add_zero, if_neg fun h => hend h.symm]
      rfl
  | cons item rest ih =>
    rw [decodeItems, List.length_cons]
    by_cases hroom : offset < data.length
    · have hstatus : writeStatus data offset =
          .ok (.ofWrite (.ofReturnCode data[offset]), offset + 1) := by
        unfold writeStatus
        refine (guard_ok (Nat.not_le.mpr hroom)).trans ?_
        rw [ofNat_byteAt data offset hroom, ofWrite_ofReturnCode]
        rfl
      refine (congrArg Except.toOption (bind_ok hstatus _)).trans ?_
      rw [toOption_bind, ih (index + 1) (offset + 1) hroom, List.drop_eq_getElem_cons hroom,
        show offset + 1 + rest.length = offset + (rest.length + 1) by omega]
      by_cases hlength : data.length = offset + (rest.length + 1)
      · rw [if_pos hlength, if_pos hlength]
        rfl
      · rw [if_neg hlength, if_neg hlength]
        rfl
    · have hstatus : writeStatus data offset = .error "missing write status" := by
        unfold writeStatus
        exact guard_error (Nat.le_of_not_lt hroom)
      refine Eq.trans ?_ (if_neg (by omega)).symm
      exact congrArg Except.toOption (bind_error hstatus _)

end Items

/-- An acknowledgement with data, a clear status and the expected parameters, as
both sides check it. -/
theorem parameters_iff (reference : UInt16) (function : UInt8) (count : Nat) (pdu : Bytes) :
    (Header pdu 3 reference.toNat 12 ∧ slice pdu 10 12 = [0, 0] ∧
        slice pdu 12 (12 + wordAt pdu 6) = [function, UInt8.ofNat count]) ↔
      byteAt pdu 1 = 3 ∧ wordAt pdu 2 = 0 ∧ ResponseFrame pdu ∧
        itemParameters (framedResponse pdu) reference function count = .accepted () := by
  have hstatus : 12 ≤ pdu.length → (slice pdu 10 12 = [0, 0] ↔
      (framedResponse pdu).errorClass = 0 ∧ (framedResponse pdu).errorCode = 0) := by
    intro h
    rw [slice_eq_cons _ _ _ _ _ (by omega) (by omega), slice_eq_cons _ _ _ _ _ (by omega) (by omega),
      slice_eq_nil _ _ _ (by omega), and_true, byte_eq_iff, byte_eq_iff]
    simp only [framedResponse, toNat_byteAt]
  have hreference : (framedResponse pdu).reference = reference ↔ wordAt pdu 4 = reference.toNat := by
    rw [← UInt16.toNat_inj]
    simp only [framedResponse, toNat_wordAt]
  rw [itemParameters_eq_accepted, hreference]
  constructor
  · rintro ⟨header, hclear, hparameters⟩
    have hextent := header.extent
    exact ⟨header.kind, header.reserved, ⟨hextent, header.protocol, .inr header.kind⟩, header.reference,
      (hstatus (by omega)).mp hclear, hparameters⟩
  · rintro ⟨hkind, hreserved, frame, href, hclear, hparameters⟩
    have hextent := frame.extent
    exact ⟨⟨frame.protocol, hkind, hreserved, href, hextent⟩, (hstatus (by omega)).mpr hclear, hparameters⟩

theorem decodeMulti_eq_ok {write : Bool} {reference : Nat} {ranges : List RangeValue} {pdu : Bytes}
    {items : List Item} :
    decodeMulti write reference ranges pdu = .ok items ↔
      (Header pdu 3 reference 12 ∧ slice pdu 10 12 = [0, 0] ∧
        slice pdu 12 (12 + wordAt pdu 6) = [if write then 5 else 4, UInt8.ofNat ranges.length]) ∧
      decodeItems write ranges.length (framedResponse pdu).data 0 0 ranges = .ok items := by
  unfold decodeMulti
  constructor
  · intro h
    obtain ⟨result, hsections, h⟩ := bind_eq_ok.mp h
    obtain ⟨header, hstatus, rfl⟩ := (sections_eq_ok 3 rfl).mp hsections
    obtain ⟨hparameters, h⟩ := guard_eq_ok.mp h
    exact ⟨⟨header, hstatus rfl, Classical.not_not.mp hparameters⟩, h⟩
  · rintro ⟨⟨header, hstatus, hparameters⟩, h⟩
    refine (bind_ok ((sections_eq_ok 3 rfl).mpr ⟨header, fun _ => hstatus, rfl⟩) _).trans ?_
    exact (guard_ok (not_not_intro hparameters)).trans h

section Client
variable {reference : UInt16} {ranges : List RangeValue} {pdu : Bytes} {items : List Item}

/-- The client's write chain: frame and parameters, then the items as the oracle walks them. -/
theorem multiResult_write (hpositive : 0 < ranges.length) (hcount : ranges.length ≤ 20) :
    multiResult true reference (ranges.map RangeValue.model).toArray pdu = .ok items ↔
      (ResponseFrame pdu ∧
        itemParameters (framedResponse pdu) reference writeFunction ranges.length = .accepted ()) ∧
      decodeItems true ranges.length (framedResponse pdu).data 0 0 ranges = .ok items := by
  have hsize : (ranges.map RangeValue.model).toArray.size = ranges.length := by simp
  have hdecode : ∀ results, decodeAreaWriteMany reference ranges.length (framedResponse pdu) = .ok results ↔ _ :=
    fun _ => decodeAreaWriteMany_eq_ok hpositive hcount
  rw [← toOption_eq_some (x := decodeItems ..), decodeItems_write _ _ _ _ (Nat.zero_le _), Nat.zero_add]
  unfold multiResult
  constructor
  · intro h
    obtain ⟨response, hresponse, h⟩ := bind_eq_ok.mp h
    obtain ⟨frame, rfl⟩ := decodeResponse_eq_ok.mp hresponse
    obtain ⟨results, hresults, h⟩ := bind_eq_ok.mp h
    rw [hsize] at hresults
    obtain ⟨hparameters, hlength, hmap⟩ := (hdecode results).mp hresults
    cases h
    rw [if_pos hlength, hmap, List.map_map]
    exact ⟨⟨frame, hparameters⟩, rfl⟩
  · rintro ⟨⟨frame, hparameters⟩, h⟩
    split at h
    · rename_i hlength
      cases h
      have hresults := (hdecode ((framedResponse pdu).data.map .ofReturnCode).toArray).mpr
        ⟨hparameters, hlength, rfl⟩
      rw [← hsize] at hresults
      refine (bind_ok (decodeResponse_frame frame) _).trans ((bind_ok hresults _).trans ?_)
      simp [Function.comp_def, pure, Except.pure]
    · cases h

/-- The client's read chain, likewise. -/
theorem multiResult_read (hpositive : 0 < ranges.length) (hcount : ranges.length ≤ 20) :
    multiResult false reference (ranges.map RangeValue.model).toArray pdu = .ok items ↔
      (ResponseFrame pdu ∧
        itemParameters (framedResponse pdu) reference readFunction ranges.length = .accepted ()) ∧
      decodeItems false ranges.length (framedResponse pdu).data 0 0 ranges = .ok items := by
  have hsize : (ranges.map RangeValue.model).toArray.size = ranges.length := by simp
  have hdecode : ∀ results, decodeAreaReadMany reference (ranges.map RangeValue.model).toArray
      (framedResponse pdu) = .ok results ↔ _ :=
    fun _ => decodeAreaReadMany_eq_ok (hsize ▸ hpositive) (hsize ▸ hcount)
  rw [hsize] at hdecode
  rw [← toOption_eq_some (x := decodeItems ..), decodeItems_read _ _ _ _ (Nat.zero_add _)]
  unfold multiResult
  constructor
  · intro h
    obtain ⟨response, hresponse, h⟩ := bind_eq_ok.mp h
    obtain ⟨frame, rfl⟩ := decodeResponse_eq_ok.mp hresponse
    obtain ⟨results, hresults, h⟩ := bind_eq_ok.mp h
    obtain ⟨hparameters, hitems⟩ := (hdecode results).mp hresults
    cases h
    exact ⟨⟨frame, hparameters⟩, congrArg _ hitems⟩
  · rintro ⟨⟨frame, hparameters⟩, h⟩
    obtain ⟨results, hresults, rfl⟩ := Option.map_eq_some_iff.mp h
    have hresults := (hdecode results.toArray).mpr ⟨hparameters, hresults⟩
    exact (bind_ok (decodeResponse_frame frame) _).trans ((bind_ok hresults _).trans rfl)

end Client

/-- The oracle accepts what the client accepts, among acknowledgements with data
whose reserved word is zero, with the same items. -/
theorem decodeMulti_eq_ok_iff (write : Bool) (reference : UInt16) (ranges : List RangeValue) (pdu : Bytes)
    (items : List Item) (hpositive : 0 < ranges.length) (hcount : ranges.length ≤ 20) :
    decodeMulti write reference.toNat ranges pdu = .ok items ↔
      byteAt pdu 1 = 3 ∧ wordAt pdu 2 = 0 ∧
        multiResult write reference (ranges.map RangeValue.model).toArray pdu = .ok items := by
  rw [decodeMulti_eq_ok]
  cases write with
  | true =>
    rw [multiResult_write hpositive hcount, ← and_assoc, ← and_assoc, ← and_assoc]
    refine and_congr_left fun _ => ?_
    rw [and_assoc, and_assoc]
    exact parameters_iff reference writeFunction ranges.length pdu
  | false =>
    rw [multiResult_read hpositive hcount, ← and_assoc, ← and_assoc, ← and_assoc]
    refine and_congr_left fun _ => ?_
    rw [and_assoc, and_assoc]
    exact parameters_iff reference readFunction ranges.length pdu

/-! ### Conversations -/

/-- The payload of one reply, and whether more follow. -/
def fragment (reference group subfunction : Nat) (raw : Bytes) : Except String (Bytes × Bool) := do
  let (parameters, data) ← sections raw 7 reference
  if parameters.length ≠ 12 ∨ slice parameters 0 5 ≠ [0, 1, 0x12, 8, 0x12] ∨
      byteAt parameters 5 ≠ 0x80 ||| group ∨ byteAt parameters 6 ≠ subfunction ∨
      ¬ (byteAt parameters 9 = 0 ∨ byteAt parameters 9 = 1) ∨ parameters.drop 10 ≠ [0, 0] then
    throw "invalid USERDATA parameters"
  if data.length < 4 ∨ slice data 0 2 ≠ [0xff, 0x09] ∨ data.length ≠ 4 + fromBytes (slice data 2 4) then
    throw "invalid USERDATA payload extent"
  return (data.drop 4, byteAt parameters 9 == 1)

/-- The replies from a count on, with what was accumulated before. -/
def collect (reference group subfunction maximumBytes maximumFragments : Nat) :
    Nat → Bytes → Bool → List Bytes → Except String Bytes
  | _, accumulated, complete, [] =>
    if complete = false then .error "incomplete conversation" else .ok accumulated
  | count, accumulated, complete, raw :: rest => do
    if complete = true ∨ count > maximumFragments then
      throw "fragment after completion or fragment overflow"
    let (chunk, more) ← fragment reference group subfunction raw
    if more = true ∧ count = maximumFragments then throw "continuation exhausts fragment bound"
    if accumulated.length + chunk.length > maximumBytes then throw "accumulated byte overflow"
    collect reference group subfunction maximumBytes maximumFragments (count + 1) (accumulated ++ chunk)
      (!more) rest

def decodeConversation (reference group subfunction maximumBytes maximumFragments : Nat)
    (replies : List Bytes) : Except String Bytes :=
  collect reference group subfunction maximumBytes maximumFragments 1 [] false replies

/-! ### Conversations against the client's -/

section Conversation
variable {group subfunction : UInt8}

theorem userDataHeaderSize : (if (7 : UInt8).toNat = 3 then 12 else 10) = 10 := rfl

/-- The oracle's fragments are error-free items of octets, with a reserved word of zero. -/
theorem fragment_eq_ok {raw : Bytes} {reference group subfunction : Nat} (hgroup : group < 16)
    {result : Bytes × Bool} :
    fragment reference group subfunction raw = .ok result ↔
      UserDataFrame raw reference group subfunction ∧ wordAt raw 2 = 0 ∧ wordAt raw 20 = 0 ∧
        OctetItem raw ∧ result = (raw.drop 26, byteAt raw 19 == 1) := by
  unfold fragment
  constructor
  · intro h
    obtain ⟨split, hsections, h⟩ := bind_eq_ok.mp h
    obtain ⟨header, -, rfl⟩ := (sections_eq_ok 7 userDataHeaderSize).mp hsections
    have hextent := header.extent
    obtain ⟨hform, h⟩ := guard_eq_ok.mp h
    obtain ⟨hitem, h⟩ := guard_eq_ok.mp h
    cases h
    simp only [not_or, ne_eq, Classical.not_not, Nat.not_lt] at hform hitem
    obtain ⟨hlength, hparameters, htypeGroup, hsubfunction, hflag, herror⟩ := hform
    obtain ⟨hroom, hhead, hpayload⟩ := hitem
    have hsize : wordAt raw 6 = 12 := by
      rw [length_slice] at hlength
      omega
    rw [hsize] at hparameters htypeGroup hsubfunction hflag herror hroom hhead hpayload
    rw [List.length_drop] at hroom hpayload
    rw [parameterHead_iff raw (by omega)] at hparameters
    rw [parameterByte _ _ (by decide)] at htypeGroup hsubfunction hflag
    rw [typeGroup_eq group hgroup] at htypeGroup
    rw [errorBytes_iff raw (by omega)] at herror
    rw [itemHead_iff raw (by omega)] at hhead
    rw [payloadWord raw (by omega)] at hpayload
    refine ⟨⟨by omega, header.protocol, header.kind, header.reference, hsize, hparameters.1, hparameters.2.1,
      hparameters.2.2, htypeGroup, hsubfunction, Classical.byContradiction fun h => hflag (not_or.mp h)⟩,
      header.reserved, herror, ⟨hhead.1, hhead.2, by omega⟩, ?_⟩
    simp only [hsize, List.drop_drop, parameterByte raw 9 (by decide)]
  · rintro ⟨frame, hreserved, herror, ⟨hcode, htransport, hlength⟩, rfl⟩
    have hextent := frame.extent
    have hsize := frame.parameters
    have header : Header raw 7 reference 10 :=
      ⟨frame.protocol, frame.kind, hreserved, frame.reference, by omega⟩
    refine (bind_ok ((sections_eq_ok 7 userDataHeaderSize).mpr ⟨header, nofun, rfl⟩) _).trans ?_
    rw [hsize]
    refine (guard_ok ?_).trans ((guard_ok ?_).trans ?_)
    · simp only [not_or, ne_eq, Classical.not_not]
      rw [length_slice, parameterHead_iff raw (by omega), parameterByte _ _ (by decide),
        parameterByte _ _ (by decide), parameterByte _ _ (by decide), typeGroup_eq group hgroup,
        errorBytes_iff raw (by omega)]
      exact ⟨by omega, ⟨frame.head, frame.width, frame.method⟩, frame.typeGroup, frame.subfunction,
        fun h => frame.flag.elim h.1 h.2, herror⟩
    · simp only [not_or, ne_eq, Classical.not_not, Nat.not_lt]
      rw [List.length_drop, itemHead_iff raw (by omega), payloadWord raw (by omega)]
      exact ⟨by omega, ⟨hcode, htransport⟩, by omega⟩
    · rw [parameterByte raw 9 (by decide), List.drop_drop]
      rfl

/-- Without null acknowledgements the client takes the error-free items of octets. -/
theorem decodeUserDataResponse_octets {reference : UInt16} (hgroup : group.toNat < 16)
    (hservice : supportsNullUserDataAcknowledgement group subfunction = false) {raw : Bytes}
    {response : UserDataResponse} :
    decodeUserDataResponse reference group subfunction raw = .ok response ↔
      UserDataFrame raw reference.toNat group.toNat subfunction.toNat ∧ wordAt raw 20 = 0 ∧
        OctetItem raw ∧ response = framedUserData raw group := by
  have hnull : ¬ NullItem raw group subfunction := by
    intro h
    rw [h.code.2] at hservice
    cases hservice
  rw [← verdict_eq_accepted, verdict_decodeUserDataResponse hgroup]
  by_cases frame : UserDataFrame raw reference.toNat group.toNat subfunction.toNat
  · rw [if_pos frame, userDataItem_eq_accepted, or_iff_left hnull, and_iff_right frame]
  · rw [if_neg frame]
    exact iff_of_false (fun h => by cases h) fun h => frame h.1

/-- The client's fragments are the same then. -/
theorem fragment_toOption (reference : UInt16) (hgroup : group.toNat < 16)
    (hservice : supportsNullUserDataAcknowledgement group subfunction = false) {raw : Bytes}
    (hreserved : wordAt raw 2 = 0) :
    (fragment reference.toNat group.toNat subfunction.toNat raw).toOption =
      (decodeUserDataResponse reference group subfunction raw).toOption.map fun response =>
        (response.payload, response.hasMoreData) := by
  have hclient : ∀ response, decodeUserDataResponse reference group subfunction raw = .ok response ↔ _ :=
    fun _ => decodeUserDataResponse_octets hgroup hservice
  by_cases hboth : UserDataFrame raw reference.toNat group.toNat subfunction.toNat ∧
      wordAt raw 20 = 0 ∧ OctetItem raw
  · obtain ⟨frame, herror, hitem⟩ := hboth
    rw [toOption_eq_some.mpr ((fragment_eq_ok hgroup).mpr ⟨frame, hreserved, herror, hitem, rfl⟩),
      toOption_eq_some.mpr ((hclient _).mpr ⟨frame, herror, hitem, rfl⟩)]
    have hflag : (byteAt raw 19 == 1) = (byteAt raw 19 != 0) := by
      obtain h | h := frame.flag <;> rw [h] <;> rfl
    rw [hflag]
    rfl
  · have hfragment : (fragment reference.toNat group.toNat subfunction.toNat raw).toOption = none := by
      cases h : fragment reference.toNat group.toNat subfunction.toNat raw with
      | error e => rfl
      | ok result =>
        obtain ⟨frame, -, herror, hitem, -⟩ := (fragment_eq_ok hgroup).mp h
        exact absurd ⟨frame, herror, hitem⟩ hboth
    have hdecode : (decodeUserDataResponse reference group subfunction raw).toOption = none := by
      cases h : decodeUserDataResponse reference group subfunction raw with
      | error e => rfl
      | ok response =>
        obtain ⟨frame, herror, hitem, -⟩ := (hclient response).mp h
        exact absurd ⟨frame, herror, hitem⟩ hboth
    rw [hfragment, hdecode]
    rfl

/-- A fragment is collected exactly when the assembly has room for it. -/
theorem collect_cons {reference group subfunction maximum fragments : Nat} {raw payload : Bytes} {more : Bool}
    (hfragment : fragment reference group subfunction raw = .ok (payload, more))
    (state : UserDataAssembly.State maximum fragments) (rest : List Bytes) :
    (collect reference group subfunction maximum fragments (state.count + 1) state.data state.complete
      (raw :: rest)).toOption =
      if UserDataAssembly.Room state payload more then
        (collect reference group subfunction maximum fragments (state.count + 1 + 1) (state.data ++ payload)
          (!more) rest).toOption
      else none := by
  by_cases hroom : UserDataAssembly.Room state payload more
  · rw [collect]
    obtain ⟨hcomplete, hcount, hlast, hsize⟩ := hroom
    have hopen : ¬ (state.complete = true ∨ state.count + 1 > fragments) :=
      not_or.mpr ⟨Bool.eq_false_iff.mp hcomplete, Nat.not_lt.mpr hcount⟩
    refine Eq.trans (congrArg Except.toOption ?_) (if_pos ⟨hcomplete, hcount, hlast, hsize⟩).symm
    refine (guard_ok hopen).trans ?_
    refine (bind_ok hfragment _).trans ?_
    exact (guard_ok hlast).trans (guard_ok (Nat.not_lt.mpr hsize))
  · refine Eq.trans (toOption_eq_none.mpr ?_) (if_neg hroom).symm
    cases h : collect reference group subfunction maximum fragments (state.count + 1) state.data state.complete
      (raw :: rest) with
    | error e => exact ⟨e, rfl⟩
    | ok bytes =>
      rw [collect] at h
      obtain ⟨hopen, h⟩ := guard_eq_ok.mp h
      rw [bind_ok hfragment] at h
      obtain ⟨hlast, h⟩ := guard_eq_ok.mp h
      obtain ⟨hsize, h⟩ := guard_eq_ok.mp h
      obtain ⟨hcomplete, hcount⟩ := not_or.mp hopen
      exact absurd ⟨Bool.eq_false_iff.mpr hcomplete, Nat.le_of_not_lt hcount, hlast,
        Nat.le_of_not_lt hsize⟩ hroom

/-- From any state, the oracle's loop is the client's assembly. The induction is on
the replies; the state carries what the oracle keeps in three variables. -/
theorem collect_toOption (reference : UInt16) (hgroup : group.toNat < 16)
    (hservice : supportsNullUserDataAcknowledgement group subfunction = false) {maximum fragments : Nat}
    (replies : List Bytes) (hreserved : ∀ raw ∈ replies, wordAt raw 2 = 0)
    (state : UserDataAssembly.State maximum fragments) :
    (collect reference.toNat group.toNat subfunction.toNat maximum fragments (state.count + 1) state.data
      state.complete replies).toOption =
      (UserDataAssembly.assemble reference group subfunction replies state).toOption.bind fun state =>
        if state.complete then some state.data else none := by
  induction replies generalizing state with
  | nil =>
    rw [collect, UserDataAssembly.assemble]
    cases hcomplete : state.complete <;> simp [hcomplete, Except.toOption]
  | cons raw rest ih =>
    have hfragment := fragment_toOption reference hgroup hservice
      (hreserved raw List.mem_cons_self)
    rw [UserDataAssembly.assemble, toOption_bind]
    cases hdecode : decodeUserDataResponse reference group subfunction raw with
    | error e =>
      rw [hdecode] at hfragment
      rw [collect, toOption_guard, toOption_bind, hfragment]
      split <;> rfl
    | ok response =>
      rw [hdecode] at hfragment
      rw [collect_cons (toOption_eq_some.mp hfragment)]
      simp only [Except.toOption, Option.bind_some]
      by_cases hroom : UserDataAssembly.Room state response.payload response.hasMoreData
      · obtain ⟨step, hstep⟩ := (UserDataAssembly.accept_isOk_iff ..).mpr hroom
        have hrest := ih (fun raw h => hreserved raw (List.mem_cons_of_mem _ h)) step.after
        rw [step.order, step.count, step.completion] at hrest
        rw [if_pos hroom, bind_ok hstep]
        exact hrest
      · rw [if_neg hroom]
        cases haccept : UserDataAssembly.accept state response.payload response.hasMoreData with
        | error e => rfl
        | ok step => exact absurd ((UserDataAssembly.accept_isOk_iff ..).mp ⟨step, haccept⟩) hroom

/-- A conversation is accepted with the bytes of the client's complete assembly. -/
theorem decodeConversation_eq_ok_iff (reference : UInt16) (hgroup : group.toNat < 16)
    (hservice : supportsNullUserDataAcknowledgement group subfunction = false) (maximum fragments : Nat)
    (replies : List Bytes) (hreserved : ∀ raw ∈ replies, wordAt raw 2 = 0) (payload : Bytes) :
    decodeConversation reference.toNat group.toNat subfunction.toNat maximum fragments replies = .ok payload ↔
      UserDataAssembly.conversation reference group subfunction maximum fragments replies = .ok payload := by
  have hcollect := collect_toOption reference hgroup hservice replies hreserved
    (UserDataAssembly.empty maximum fragments)
  rw [← toOption_eq_some, ← toOption_eq_some, decodeConversation, UserDataAssembly.conversation, toOption_bind]
  refine Eq.to_iff (congrArg (· = some payload) (hcollect.trans (congrArg _ (funext fun state => ?_))))
  cases hcomplete : state.complete <;> rfl

end Conversation

/-! ### The oracle and the client -/

/-- The oracle accepts no multi-item response that the client's decoders refuse, and
refuses none they accept among acknowledgements with data with a reserved word of
zero. The conversations of the two are the same. -/
theorem sequence_decoders_agree :
    (∀ (write : Bool) (reference : UInt16) (ranges : List RangeValue) (pdu : Bytes) (items : List Item),
      0 < ranges.length → ranges.length ≤ 20 →
        (decodeMulti write reference.toNat ranges pdu = .ok items →
          multiResult write reference (ranges.map RangeValue.model).toArray pdu = .ok items) ∧
        (byteAt pdu 1 = 3 → wordAt pdu 2 = 0 →
          multiResult write reference (ranges.map RangeValue.model).toArray pdu = .ok items →
          decodeMulti write reference.toNat ranges pdu = .ok items)) ∧
    (∀ (reference : UInt16) (group subfunction : UInt8) (maximum fragments : Nat) (replies : List Bytes)
      (payload : Bytes), group.toNat < 16 → supportsNullUserDataAcknowledgement group subfunction = false →
        (∀ raw ∈ replies, wordAt raw 2 = 0) →
        (decodeConversation reference.toNat group.toNat subfunction.toNat maximum fragments replies = .ok payload ↔
          UserDataAssembly.conversation reference group subfunction maximum fragments replies = .ok payload)) := by
  constructor
  · intro write reference ranges pdu items hpositive hcount
    have hiff := decodeMulti_eq_ok_iff write reference ranges pdu items hpositive hcount
    exact ⟨fun h => (hiff.mp h).2.2, fun hkind hreserved h => hiff.mpr ⟨hkind, hreserved, h⟩⟩
  · intro reference group subfunction maximum fragments replies payload hgroup hservice hreserved
    exact decodeConversation_eq_ok_iff reference hgroup hservice maximum fragments replies hreserved payload

/-- One padded read of two items, and a directory listing in two fragments. -/
theorem sequence_decoders_agree_sample :
    multiResult false 1 #[⟨.dataBlocks, 1, 0, 1⟩, ⟨.dataBlocks, 2, 4, 2⟩]
      [0x32, 3, 0, 0, 0, 1, 0, 2, 0, 12, 0, 0, 4, 2, 255, 4, 0, 8, 0xaa, 0, 255, 4, 0, 16, 1, 2] =
      .ok [.success (some [0xaa]), .success (some [1, 2])] ∧
    UserDataAssembly.conversation 1 4 1 4 2
      [[0x32, 7, 0, 0, 0, 1, 0, 12, 0, 6, 0, 1, 0x12, 8, 0x12, 0x84, 1, 0, 0, 1, 0, 0, 255, 9, 0, 2, 7, 8],
       [0x32, 7, 0, 0, 0, 1, 0, 12, 0, 5, 0, 1, 0x12, 8, 0x12, 0x84, 1, 0, 0, 0, 0, 0, 255, 9, 0, 1, 9]] =
      .ok [7, 8, 9] :=
  ⟨((sequence_decoders_agree.1 false 1 [⟨1, 0, 1⟩, ⟨2, 4, 2⟩] _ _ (by decide) (by decide)).1
      (toOption_eq_some.mp (by decide +kernel))),
    (sequence_decoders_agree.2 1 4 1 4 2 _ _ (by decide) (by decide) (by decide)).mp
      (toOption_eq_some.mp (by decide +kernel))⟩

end ClassicS7.Oracle.Sequence
