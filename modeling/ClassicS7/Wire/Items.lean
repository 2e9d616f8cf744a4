import ClassicS7.Wire.Response

/-! Multi-item responses.

After the common header, a multi-item response names its function and item
count, and its data section is walked item by item. Each decoder of this module
has a byte-level form: `itemParameters` for the parameter section, the data section
itself for status bytes (`verdict_decodeWriteItems`), and for read items `readItems`,
which takes them by position (`verdict_decodeReadItems`). -/
namespace ClassicS7.S7
open Checks Cursor

inductive ReadItemResult where
  | success (payload : Bytes)
  | failure (returnCode : UInt8)
  deriving Repr, DecidableEq

inductive WriteItemResult where
  | success
  | failure (returnCode : UInt8)
  deriving Repr, DecidableEq

def validateResponse (response : Response) (reference : UInt16) (function : UInt8) :
    Except DecodeError Unit := do
  if response.reference != reference then
    throw (.invalidField 4 s!"expected PDU reference {reference}, got {response.reference}")
  if response.errorClass != 0 || response.errorCode != 0 then
    throw (.remoteFailure 10 s!"PLC error {response.errorClass}:{response.errorCode}")
  let (actualFunction, _) ← ({ data := response.parameters } : Cursor).readUInt8
  if actualFunction != function then
    throw (.invalidField responseHeaderSize "unexpected S7 response function")

def validateItemParameters (response : Response) (reference : UInt16)
    (function : UInt8) (expectedCount : Nat) : Except DecodeError Unit := do
  validateResponse response reference function
  if response.parameters.length != 2 then
    throw (.invalidField responseHeaderSize "expected two-byte item response parameters")
  let cursor : Cursor := { data := response.parameters, offset := 1 }
  let (actualCount, cursor) ← cursor.readUInt8
  cursor.finish
  if actualCount.toNat != expectedCount then
    throw (.invalidField (responseHeaderSize + 1)
      s!"expected {expectedCount} response items, got {actualCount}")

def responsePayloadSize (transportSize : UInt8) (encodedLength : UInt16)
    (offset : Nat) : Except DecodeError Nat := do
  if transportSize == octetTransportSize then
    return encodedLength.toNat
  if encodedLength.toNat % 8 != 0 then
    throw (.invalidField offset "response bit length is not byte aligned")
  return encodedLength.toNat / 8

def decodeReadItems : List MemoryRange → Cursor → Except DecodeError (List ReadItemResult × Cursor)
  | [], cursor => pure ([], cursor)
  | range :: rest, cursor => do
      let itemOffset := responseHeaderSize + 2 + cursor.offset
      let (returnCode, cursor) ← cursor.readUInt8
      let (transportSize, cursor) ← cursor.readUInt8
      let (encodedLength, cursor) ← cursor.readUInt16BE
      let payloadSize ← responsePayloadSize transportSize encodedLength (itemOffset + 2)
      let (payload, cursor) ← cursor.readBytes payloadSize
      let cursor ← if !rest.isEmpty && payloadSize % 2 != 0 then
        let (_, cursor) ← cursor.readUInt8
        pure cursor
      else
        pure cursor
      let result ← if returnCode == 0xff then
        let compatibleByteEncoding := range.area.usesElementAddress && transportSize == byteTransportSize
        if transportSize != range.area.dataTransportSize && !compatibleByteEncoding then
          throw (.invalidField (itemOffset + 1) s!"unexpected read transport size {transportSize}")
        let expectedSize := range.count * range.area.elementSize
        if payloadSize != expectedSize then
          throw (.invalidField (itemOffset + 2)
            s!"expected {expectedSize} response bytes, got {payloadSize}")
        pure (.success payload)
      else
        pure (.failure returnCode)
      let (results, cursor) ← decodeReadItems rest cursor
      return (result :: results, cursor)

def decodeAreaReadMany (reference : UInt16) (ranges : Array MemoryRange)
    (response : Response) : Except DecodeError (Array ReadItemResult) := do
  if ranges.isEmpty || ranges.size > maxItemCount then
    throw (.invalidField responseHeaderSize s!"invalid expected item count {ranges.size}")
  validateItemParameters response reference readFunction ranges.size
  let (results, cursor) ← decodeReadItems ranges.toList { data := response.data }
  cursor.finish
  return results.toArray

def decodeWriteItems : Nat → Cursor → Except DecodeError (List WriteItemResult × Cursor)
  | 0, cursor => pure ([], cursor)
  | count + 1, cursor => do
      let (returnCode, cursor) ← cursor.readUInt8
      let result := if returnCode == 0xff then WriteItemResult.success else .failure returnCode
      let (results, cursor) ← decodeWriteItems count cursor
      return (result :: results, cursor)

def decodeAreaWriteMany (reference : UInt16) (expectedCount : Nat)
    (response : Response) : Except DecodeError (Array WriteItemResult) := do
  if expectedCount == 0 || expectedCount > maxItemCount then
    throw (.invalidField responseHeaderSize s!"invalid expected item count {expectedCount}")
  validateItemParameters response reference writeFunction expectedCount
  let (results, cursor) ← decodeWriteItems expectedCount { data := response.data }
  cursor.finish
  return results.toArray

/-! ### The parameter section -/

/-- The mapping of one status byte. -/
def WriteItemResult.ofReturnCode (code : UInt8) : WriteItemResult :=
  if code == 0xff then .success else .failure code

/-- The parameter check, as one case analysis. -/
def itemParameters (response : Response) (reference : UInt16) (function : UInt8) (count : Nat) :
    Verdict Unit :=
  if response.reference ≠ reference then .malformed
  else if response.errorClass ≠ 0 ∨ response.errorCode ≠ 0 then .refused
  else if response.parameters = [function, UInt8.ofNat count] then .accepted ()
  else .malformed

/-- A section of two bytes, by position. -/
theorem pair_eq_iff (data : Bytes) (a b : UInt8) :
    data = [a, b] ↔ data.length = 2 ∧ byteAt data 0 = a.toNat ∧ byteAt data 1 = b.toNat := by
  constructor
  · rintro rfl
    exact ⟨rfl, rfl, rfl⟩
  · rintro ⟨hlength, ha, hb⟩
    match data, hlength with
    | [x, y], _ =>
      rw [List.cons.injEq, List.cons.injEq, byte_eq_iff, byte_eq_iff]
      exact ⟨ha, hb, rfl⟩

section Parameters
variable {response : Response} {reference : UInt16} {function : UInt8} {count : Nat}

/-- Past the reference and the status, only the first parameter byte decides. -/
theorem function_of_clears (hstatus : ¬ (response.errorClass != 0 || response.errorCode != 0) = true)
    (h : Clears DecodeError.Local (validateResponse response reference function)) :
    0 < response.parameters.length ∧ byteAt response.parameters 0 = function.toNat := by
  unfold validateResponse at h
  obtain ⟨-, h⟩ := h.guard (by simp)
  obtain ⟨hpositive, h⟩ := clears_readUInt8 (h.pass hstatus)
  exact ⟨hpositive, (byte_check ..).mp (h.last (by simp))⟩

/-- A response to another request is malformed for this one. -/
theorem validateResponse_mismatch (function : UInt8) (href : response.reference ≠ reference) :
    ∃ e, validateResponse response reference function = .error e ∧ e.isRemote = false := by
  unfold validateResponse
  exact ⟨_, guard_error (bne_iff_ne.mpr href), rfl⟩

/-- A set status is the remote's verdict, whatever the parameters are. -/
theorem validateResponse_failed (function : UInt8) (href : response.reference = reference)
    (hset : response.errorClass ≠ 0 ∨ response.errorCode ≠ 0) :
    ∃ e, validateResponse response reference function = .error e ∧ e.isRemote = true := by
  unfold validateResponse
  refine ⟨_, (guard_ok ?_).trans (guard_error ?_), rfl⟩
  · rw [bne_iff_ne]
    exact not_not_intro href
  · rwa [Bool.or_eq_true, bne_iff_ne, bne_iff_ne]

theorem validateResponse_ok (href : response.reference = reference)
    (hstatus : ¬ (response.errorClass != 0 || response.errorCode != 0) = true)
    (hfirst : byteAt response.parameters 0 = function.toNat) (hlength : 0 < response.parameters.length) :
    validateResponse response reference function = .ok () := by
  unfold validateResponse
  refine (guard_ok ?_).trans ((guard_ok hstatus).trans ?_)
  · rw [bne_iff_ne]
    exact not_not_intro href
  · exact (bind_ok (readUInt8_at hlength) _).trans (if_neg ((byte_check ..).mpr hfirst))

/-- With reference and status in order, a parameter check that clears had its two bytes. -/
theorem parameters_of_clears (href : response.reference = reference) (hcount : count < 256)
    (hstatus : ¬ (response.errorClass != 0 || response.errorCode != 0) = true)
    (h : Clears DecodeError.Local (validateItemParameters response reference function count)) :
    response.parameters = [function, UInt8.ofNat count] := by
  obtain ⟨hpositive, hfirst⟩ := function_of_clears hstatus h.left
  obtain ⟨hlength, h⟩ := (h.right (validateResponse_ok href hstatus hfirst hpositive)).guard (by simp)
  obtain ⟨-, h⟩ := clears_readUInt8 h
  obtain ⟨-, h⟩ := clears_finish h
  have hsecond := h.last (by simp)
  rw [toNat_byteAt, bne_iff_ne, ne_eq, Classical.not_not] at hsecond
  rw [bne_iff_ne, ne_eq, Classical.not_not] at hlength
  refine (pair_eq_iff ..).mpr ⟨hlength, hfirst, hsecond.trans ?_⟩
  rw [UInt8.toNat_ofNat', Nat.mod_eq_of_lt hcount]

theorem validateItemParameters_ok (href : response.reference = reference) (hcount : count < 256)
    (hstatus : ¬ (response.errorClass != 0 || response.errorCode != 0) = true)
    (hparameters : response.parameters = [function, UInt8.ofNat count]) :
    validateItemParameters response reference function count = .ok () := by
  have hbytes := (pair_eq_iff ..).mp hparameters
  refine (bind_ok (validateResponse_ok href hstatus hbytes.2.1 (by omega)) _).trans ?_
  refine (guard_ok ?_).trans ?_
  · rw [bne_iff_ne]
    exact not_not_intro hbytes.1
  refine (bind_ok (readUInt8_at (by omega)) _).trans ((bind_ok (finish_at (by omega)) _).trans (if_neg ?_))
  rw [toNat_byteAt, bne_iff_ne]
  refine not_not_intro (hbytes.2.2.trans ?_)
  rw [UInt8.toNat_ofNat', Nat.mod_eq_of_lt hcount]

/-- The parameter check accepts exactly the two bytes it expects, after the
reference and the remote's status. -/
theorem verdict_validateItemParameters (hcount : count < 256) :
    verdict (validateItemParameters response reference function count) =
      itemParameters response reference function count := by
  unfold itemParameters
  by_cases href : response.reference = reference
  · rw [if_neg (not_not_intro href)]
    by_cases hset : response.errorClass ≠ 0 ∨ response.errorCode ≠ 0
    · obtain ⟨e, he, hremote⟩ := validateResponse_failed function href hset
      rw [if_pos hset]
      refine (congrArg verdict (bind_error he _)).trans ?_
      simp [verdict, hremote]
    · have hstatus : ¬ (response.errorClass != 0 || response.errorCode != 0) = true := by
        rwa [Bool.or_eq_true, bne_iff_ne, bne_iff_ne]
      rw [if_neg hset]
      by_cases hparameters : response.parameters = [function, UInt8.ofNat count]
      · rw [if_pos hparameters, validateItemParameters_ok href hcount hstatus hparameters]
        rfl
      · rw [if_neg hparameters]
        exact verdict_local (soft_of_not_clears fun h =>
          hparameters (parameters_of_clears href hcount hstatus h))
  · obtain ⟨e, he, hlocal⟩ := validateResponse_mismatch function href
    rw [if_pos href]
    exact verdict_local ⟨e, bind_error he _, hlocal⟩

theorem itemParameters_eq_accepted :
    itemParameters response reference function count = .accepted () ↔
      response.reference = reference ∧ (response.errorClass = 0 ∧ response.errorCode = 0) ∧
        response.parameters = [function, UInt8.ofNat count] := by
  unfold itemParameters
  constructor
  · intro h
    split at h
    · cases h
    split at h
    · cases h
    split at h
    · rename_i href hstatus hparameters
      rw [Classical.not_not] at href
      rw [not_or, ne_eq, ne_eq, Classical.not_not, Classical.not_not] at hstatus
      exact ⟨href, hstatus, hparameters⟩
    · cases h
  · rintro ⟨href, ⟨hclass, hcode⟩, hparameters⟩
    rw [if_neg (not_not_intro href), if_neg fun h => h.elim (absurd hclass) (absurd hcode),
      if_pos hparameters]

end Parameters

/-! ### Read items -/

/-- A transport size and payload size that fit a successful item of the range. -/
def MemoryRange.acceptsItem (range : MemoryRange) (transport size : Nat) : Prop :=
  (transport = range.area.dataTransportSize.toNat ∨
    (range.area.usesElementAddress = true ∧ transport = byteTransportSize.toNat)) ∧
  size = range.count * range.area.elementSize

instance (range : MemoryRange) (transport size : Nat) : Decidable (range.acceptsItem transport size) :=
  inferInstanceAs (Decidable (_ ∧ _))

/-- The payload size an item header announces, in bytes. -/
def itemSize (data : Bytes) (offset : Nat) : Nat :=
  if byteAt data (offset + 1) = 9 then wordAt data (offset + 2) else wordAt data (offset + 2) / 8

/-- Where the next item starts: after the payload, and after its padding unless
this item is the last. -/
def itemNext (final : Bool) (data : Bytes) (offset : Nat) : Nat :=
  offset + 4 + itemSize data offset + if final = false ∧ itemSize data offset % 2 = 1 then 1 else 0

/-- The bytes a read item must have, by position. -/
structure ReadItemFrame (range : MemoryRange) (final : Bool) (data : Bytes) (offset : Nat) : Prop where
  header : offset + 4 ≤ data.length
  aligned : byteAt data (offset + 1) = 9 ∨ wordAt data (offset + 2) % 8 = 0
  extent : itemNext final data offset ≤ data.length
  form : byteAt data offset = 255 → range.acceptsItem (byteAt data (offset + 1)) (itemSize data offset)

theorem readItemFrame_iff (range : MemoryRange) (final : Bool) (data : Bytes) (offset : Nat) :
    offset + 4 ≤ data.length ∧ (byteAt data (offset + 1) = 9 ∨ wordAt data (offset + 2) % 8 = 0) ∧
      itemNext final data offset ≤ data.length ∧
      (byteAt data offset = 255 → range.acceptsItem (byteAt data (offset + 1)) (itemSize data offset)) ↔
    ReadItemFrame range final data offset :=
  ⟨fun ⟨h₁, h₂, h₃, h₄⟩ => ⟨h₁, h₂, h₃, h₄⟩, fun ⟨h₁, h₂, h₃, h₄⟩ => ⟨h₁, h₂, h₃, h₄⟩⟩

instance (range : MemoryRange) (final : Bool) (data : Bytes) (offset : Nat) :
    Decidable (ReadItemFrame range final data offset) :=
  decidable_of_iff _ (readItemFrame_iff range final data offset)

/-- What the decoder returns for a framed item. -/
def itemResult (data : Bytes) (offset : Nat) : ReadItemResult :=
  if byteAt data offset = 255 then
    .success (slice data (offset + 4) (offset + 4 + itemSize data offset))
  else .failure (UInt8.ofNat (byteAt data offset))

/-- The items of a data section from an offset on, up to its end. -/
def readItems : List MemoryRange → Bytes → Nat → Option (List ReadItemResult)
  | [], data, offset => if offset = data.length then some [] else none
  | range :: rest, data, offset =>
    if ReadItemFrame range rest.isEmpty data offset then
      (readItems rest data (itemNext rest.isEmpty data offset)).map (itemResult data offset :: ·)
    else none

section ReadItems
variable {range : MemoryRange} {rest : List MemoryRange} {data : Bytes} {offset : Nat}

theorem transport_check (data : Bytes) (i : Nat) :
    (UInt8.ofNat (byteAt data i) == octetTransportSize) = true ↔ byteAt data i = 9 := by
  rw [beq_iff_eq, byte_eq_iff, toNat_byteAt]
  rfl

theorem responsePayloadSize_ok (at_ : Nat)
    (haligned : byteAt data (offset + 1) = 9 ∨ wordAt data (offset + 2) % 8 = 0) :
    responsePayloadSize (UInt8.ofNat (byteAt data (offset + 1)))
      (UInt16.ofNat (wordAt data (offset + 2))) at_ = .ok (itemSize data offset) := by
  unfold responsePayloadSize itemSize
  by_cases htransport : byteAt data (offset + 1) = 9
  · rw [if_pos ((transport_check ..).mpr htransport), if_pos htransport, toNat_wordAt]
    rfl
  · rw [if_neg fun h => htransport ((transport_check ..).mp h), if_neg htransport, toNat_wordAt]
    exact if_neg (by simpa [htransport] using haligned)

theorem clears_responsePayloadSize {α : Type} {at_ : Nat} {f : Nat → Except DecodeError α}
    (h : Clears DecodeError.Local (responsePayloadSize (UInt8.ofNat (byteAt data (offset + 1)))
      (UInt16.ofNat (wordAt data (offset + 2))) at_ >>= f)) :
    (byteAt data (offset + 1) = 9 ∨ wordAt data (offset + 2) % 8 = 0) ∧
      Clears DecodeError.Local (f (itemSize data offset)) := by
  have haligned : byteAt data (offset + 1) = 9 ∨ wordAt data (offset + 2) % 8 = 0 := by
    by_cases htransport : byteAt data (offset + 1) = 9
    · exact .inl htransport
    · have hsize := h.left
      unfold responsePayloadSize at hsize
      obtain ⟨hbits, -⟩ := (hsize.neg fun h => htransport ((transport_check ..).mp h)).guard (by simp)
      rw [toNat_wordAt, bne_iff_ne, ne_eq, Classical.not_not] at hbits
      exact .inr hbits
  exact ⟨haligned, h.right (responsePayloadSize_ok at_ haligned)⟩

theorem transport_mismatch (i : Nat) :
    ¬ (UInt8.ofNat (byteAt data i) != range.area.dataTransportSize &&
        !(range.area.usesElementAddress && UInt8.ofNat (byteAt data i) == byteTransportSize)) = true ↔
      byteAt data i = range.area.dataTransportSize.toNat ∨
        (range.area.usesElementAddress = true ∧ byteAt data i = byteTransportSize.toNat) := by
  simp only [Bool.and_eq_true, Classical.not_and_iff_not_or_not, byte_check, Bool.not_eq_true',
    Bool.not_eq_false, beq_iff_eq, byte_eq_iff, toNat_byteAt]

theorem code_check (data : Bytes) (i : Nat) :
    (UInt8.ofNat (byteAt data i) == 0xff) = true ↔ byteAt data i = 255 := by
  rw [beq_iff_eq, byte_eq_iff, toNat_byteAt]
  rfl

/-- An item decoder that clears had a framed item. -/
theorem readItemFrame_of_clears
    (h : Clears DecodeError.Local (decodeReadItems (range :: rest) ⟨data, offset⟩)) :
    ReadItemFrame range rest.isEmpty data offset := by
  rw [decodeReadItems] at h
  obtain ⟨-, h⟩ := clears_readUInt8 h
  obtain ⟨-, h⟩ := clears_readUInt8 h
  obtain ⟨hheader, h⟩ := clears_readUInt16BE h
  obtain ⟨haligned, h⟩ := clears_responsePayloadSize h
  obtain ⟨hpayload, h⟩ := clears_readBytes hheader h
  by_cases hpad : (!rest.isEmpty && itemSize data offset % 2 != 0) = true
  · obtain ⟨hbyte, h⟩ := clears_readUInt8 (h.pos hpad)
    refine ⟨hheader, haligned, ?_, fun hcode => ?_⟩
    · simp only [itemNext]
      split <;> omega
    · have h := h.pos ((code_check ..).mpr hcode)
      obtain ⟨htransport, h⟩ := h.guard (by simp)
      obtain ⟨hsize, -⟩ := h.guard (by simp)
      exact ⟨(transport_mismatch _).mp htransport, by simpa using hsize⟩
  · have h := h.neg hpad
    refine ⟨hheader, haligned, ?_, fun hcode => ?_⟩
    · simp only [itemNext]
      rw [if_neg (by simpa using hpad)]
      omega
    · have h := h.pos ((code_check ..).mpr hcode)
      obtain ⟨htransport, h⟩ := h.guard (by simp)
      obtain ⟨hsize, -⟩ := h.guard (by simp)
      exact ⟨(transport_mismatch _).mp htransport, by simpa using hsize⟩

theorem padding_check (final : Bool) (size : Nat) :
    (!final && size % 2 != 0) = true ↔ final = false ∧ size % 2 = 1 := by
  rw [Bool.and_eq_true, Bool.not_eq_true', bne_iff_ne, Nat.mod_two_ne_zero]

/-- The last step of an item: with a fitting form, the checks of a successful
item pass and the rest goes on with its result. -/
theorem decode_itemResult {α : Type} {e₁ e₂ : DecodeError} (k : ReadItemResult → Except DecodeError α)
    (hform : byteAt data offset = 255 →
      range.acceptsItem (byteAt data (offset + 1)) (itemSize data offset)) :
    (if (UInt8.ofNat (byteAt data offset) == 0xff) = true then
      let matching := fun (_ : PUnit) =>
        pure (ReadItemResult.success (slice data (offset + 4) (offset + 4 + itemSize data offset))) >>= k
      let sized := fun (_ : PUnit) =>
        if (itemSize data offset != range.count * range.area.elementSize) = true then
          throw e₂ >>= matching
        else matching ⟨⟩
      if (UInt8.ofNat (byteAt data (offset + 1)) != range.area.dataTransportSize &&
          !(range.area.usesElementAddress &&
            UInt8.ofNat (byteAt data (offset + 1)) == byteTransportSize)) = true then
        throw e₁ >>= sized
      else sized ⟨⟩
    else pure (ReadItemResult.failure (UInt8.ofNat (byteAt data offset))) >>= k) =
      k (itemResult data offset) := by
  unfold itemResult
  by_cases hcode : byteAt data offset = 255
  · obtain ⟨htransport, hsize⟩ := hform hcode
    rw [if_pos ((code_check ..).mpr hcode), if_pos hcode]
    refine (guard_ok ((transport_mismatch _).mpr htransport)).trans ?_
    exact (guard_ok (by simpa using hsize)).trans rfl
  · rw [if_neg fun h => hcode ((code_check ..).mp h), if_neg hcode]
    rfl

/-- A framed item decodes to its result, and the rest from the next item on. -/
theorem decodeReadItems_frame (frame : ReadItemFrame range rest.isEmpty data offset) :
    decodeReadItems (range :: rest) ⟨data, offset⟩ =
      (decodeReadItems rest ⟨data, itemNext rest.isEmpty data offset⟩ >>= fun items =>
        pure (itemResult data offset :: items.1, items.2)) := by
  obtain ⟨hheader, haligned, hextent, hform⟩ := frame
  rw [decodeReadItems]
  refine (bind_ok (readUInt8_at (by omega)) _).trans ?_
  refine (bind_ok (readUInt8_at (by omega)) _).trans ?_
  refine (bind_ok (readUInt16BE_at (by omega)) _).trans ?_
  refine (bind_ok (responsePayloadSize_ok _ haligned) _).trans ?_
  unfold itemNext at hextent ⊢
  refine (bind_ok (readBytes_at (by omega)) _).trans ?_
  by_cases hpad : rest.isEmpty = false ∧ itemSize data offset % 2 = 1
  · rw [if_pos hpad] at hextent ⊢
    refine (if_pos ((padding_check ..).mpr hpad)).trans ?_
    refine (bind_ok (readUInt8_at (by omega)) _).trans ?_
    exact decode_itemResult _ hform
  · rw [if_neg hpad]
    refine (if_neg fun h => hpad ((padding_check ..).mp h)).trans ?_
    exact decode_itemResult _ hform

/-- A data section is accepted when its items are, up to its end. -/
theorem verdict_decodeReadItems {α : Type} (ranges : List MemoryRange) (data : Bytes) (offset : Nat)
    (g : List ReadItemResult → α) :
    verdict (decodeReadItems ranges ⟨data, offset⟩ >>= fun items =>
        items.2.finish >>= fun _ => pure (g items.1)) =
      .ofOption ((readItems ranges data offset).map g) := by
  induction ranges generalizing offset g with
  | nil =>
    rw [readItems]
    by_cases hend : offset = data.length
    · rw [if_pos hend]
      exact verdict_bind_ok (finish_at hend) _
    · rw [if_neg hend]
      exact verdict_local ⟨_, bind_error (if_neg hend) _, rfl⟩
  | cons range rest ih =>
    rw [readItems]
    by_cases frame : ReadItemFrame range rest.isEmpty data offset
    · rw [decodeReadItems_frame frame, if_pos frame, bind_assoc]
      refine (ih _ fun results => g (itemResult data offset :: results)).trans ?_
      cases readItems rest data (itemNext rest.isEmpty data offset) <;> rfl
    · rw [if_neg frame]
      refine verdict_local (soft_of_not_clears fun h => frame (readItemFrame_of_clears h.left))

end ReadItems

/-- Multi-item read responses: the parameter check, then the items. -/
theorem verdict_decodeAreaReadMany (reference : UInt16) (ranges : Array MemoryRange) (response : Response)
    (hpositive : 0 < ranges.size) (hcount : ranges.size ≤ maxItemCount) :
    verdict (decodeAreaReadMany reference ranges response) =
      (itemParameters response reference readFunction ranges.size).bind fun _ =>
        .ofOption ((readItems ranges.toList response.data 0).map List.toArray) := by
  have hsize : ¬ (ranges.isEmpty || decide (ranges.size > maxItemCount)) = true := by
    simp only [Bool.or_eq_true, decide_eq_true_eq, Array.isEmpty_iff_size_eq_zero]
    omega
  have hbound : ranges.size < 256 := by
    simp only [maxItemCount] at hcount
    omega
  unfold decodeAreaReadMany
  refine (verdict_guard_ok hsize).trans ?_
  rw [verdict_bind, verdict_validateItemParameters hbound]
  congr 1
  funext _
  exact verdict_decodeReadItems ranges.toList response.data 0 List.toArray

theorem decodeAreaReadMany_eq_ok {reference : UInt16} {ranges : Array MemoryRange} {response : Response}
    {results : Array ReadItemResult} (hpositive : 0 < ranges.size) (hcount : ranges.size ≤ maxItemCount) :
    decodeAreaReadMany reference ranges response = .ok results ↔
      itemParameters response reference readFunction ranges.size = .accepted () ∧
        readItems ranges.toList response.data 0 = some results.toList := by
  rw [← verdict_eq_accepted, verdict_decodeAreaReadMany reference ranges response hpositive hcount]
  cases itemParameters response reference readFunction ranges.size with
  | accepted _ =>
    cases readItems ranges.toList response.data 0 with
    | none => simp [Verdict.bind, Verdict.ofOption]
    | some items => simp [Verdict.bind, Verdict.ofOption, ← Array.toList_inj]
  | refused | malformed => simp [Verdict.bind]

/-! ### Write items -/

/-- Write statuses are one byte each, for exactly the expected items. -/
theorem verdict_decodeWriteItems {α : Type} (count : Nat) (data : Bytes) (offset : Nat)
    (hoffset : offset ≤ data.length) (g : List WriteItemResult → α) :
    verdict (decodeWriteItems count ⟨data, offset⟩ >>= fun items =>
        items.2.finish >>= fun _ => pure (g items.1)) =
      if data.length = offset + count then
        .accepted (g ((data.drop offset).map WriteItemResult.ofReturnCode))
      else .malformed := by
  induction count generalizing offset g with
  | zero =>
    by_cases hend : offset = data.length
    · rw [if_pos (by omega), hend, List.drop_length]
      exact verdict_bind_ok (finish_at rfl) _
    · rw [if_neg (by omega)]
      exact verdict_local ⟨_, bind_error (if_neg hend) _, rfl⟩
  | succ count ih =>
    by_cases hroom : offset < data.length
    · have hstep : decodeWriteItems (count + 1) ⟨data, offset⟩ =
          (decodeWriteItems count ⟨data, offset + 1⟩ >>= fun items =>
            pure (WriteItemResult.ofReturnCode data[offset] :: items.1, items.2)) := by
        rw [decodeWriteItems]
        refine (bind_ok (readUInt8_at hroom) _).trans ?_
        rw [ofNat_byteAt data offset hroom]
        rfl
      rw [hstep, bind_assoc, List.drop_eq_getElem_cons hroom]
      refine (ih (offset + 1) hroom fun results =>
        g (WriteItemResult.ofReturnCode data[offset] :: results)).trans ?_
      rw [Nat.add_right_comm, Nat.add_assoc]
      rfl
    · rw [if_neg (by omega), decodeWriteItems]
      have hread : readUInt8 ⟨data, offset⟩ = .error (.unexpectedEnd offset 1 _) := dif_neg hroom
      exact verdict_local ⟨_, bind_error (bind_error hread _) _, rfl⟩

/-- Multi-item write responses: the parameter check, then one status per item. -/
theorem verdict_decodeAreaWriteMany (reference : UInt16) (count : Nat) (response : Response)
    (hpositive : 0 < count) (hcount : count ≤ maxItemCount) :
    verdict (decodeAreaWriteMany reference count response) =
      (itemParameters response reference writeFunction count).bind fun _ =>
        if response.data.length = count then
          .accepted (response.data.map WriteItemResult.ofReturnCode).toArray
        else .malformed := by
  have hsize : ¬ (count == 0 || decide (count > maxItemCount)) = true := by
    simp only [Bool.or_eq_true, decide_eq_true_eq, beq_iff_eq]
    omega
  have hbound : count < 256 := by
    simp only [maxItemCount] at hcount
    omega
  unfold decodeAreaWriteMany
  refine (verdict_guard_ok hsize).trans ?_
  rw [verdict_bind, verdict_validateItemParameters hbound]
  congr 1
  funext _
  refine (verdict_decodeWriteItems count response.data 0 (Nat.zero_le _) List.toArray).trans ?_
  rw [Nat.zero_add, List.drop_zero]

theorem decodeAreaWriteMany_eq_ok {reference : UInt16} {count : Nat} {response : Response}
    {results : Array WriteItemResult} (hpositive : 0 < count) (hcount : count ≤ maxItemCount) :
    decodeAreaWriteMany reference count response = .ok results ↔
      itemParameters response reference writeFunction count = .accepted () ∧
        response.data.length = count ∧ results.toList = response.data.map WriteItemResult.ofReturnCode := by
  rw [← verdict_eq_accepted, verdict_decodeAreaWriteMany reference count response hpositive hcount]
  cases itemParameters response reference writeFunction count with
  | accepted _ =>
    by_cases hlength : response.data.length = count
    · simp [Verdict.bind, hlength, ← Array.toList_inj, eq_comm]
    · simp [Verdict.bind, hlength]
  | refused | malformed => simp [Verdict.bind]

end ClassicS7.S7
