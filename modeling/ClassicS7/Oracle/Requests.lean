import ClassicS7.Oracle.Sequence

/-! The sequence oracle: requests.

`checkRequest` cuts a job packet into its sections and compares each address, and for
a write each payload header, with the ranges of the case. Cutting a packet undoes
building it (`sections_eq_ok_iff_packet`), so a read that passes is the one packet of
its ranges; of a write the check leaves the payloads and the padding open. -/
namespace ClassicS7.Oracle.Sequence
open Checks

/-! ### The check -/

/-- The address of each range, at its place among the parameters. -/
def checkAddresses (parameters : Bytes) : Nat → List MemoryRange → Except String Unit
  | _, [] => .ok ()
  | index, item :: rest => do
    if slice parameters (2 + index * 12) (14 + index * 12) ≠ address item then
      throw "request range/address differs"
    checkAddresses parameters (index + 1) rest

/-- The payload headers of a write from an index and an offset on. -/
def checkPayloads (width : Nat) (data : Bytes) : Nat → Nat → List MemoryRange → Except String Unit
  | _, offset, [] => if offset ≠ data.length then .error "write payload extent differs" else .ok ()
  | index, offset, item :: rest => do
    let size := item.count.val
    if size * 8 > 65535 then throw "'H' format requires 0 <= number <= 65535"
    if slice data offset (offset + 4) ≠ [0, 4] ++ pack16 (size * 8) then
      throw "write payload header differs"
    let offset := offset + (4 + size)
    let offset := if index + 1 < width ∧ size % 2 ≠ 0 then offset + 1 else offset
    checkPayloads width data (index + 1) offset rest

def checkRequest (write : Bool) (reference : Nat) (ranges : List MemoryRange) (pdu : Bytes) :
    Except String Unit := do
  let (parameters, data) ← sections pdu 1 reference
  if ranges.length > 255 then throw "bytes must be in range(0, 256)"
  if slice parameters 0 2 ≠ [if write then 5 else 4, UInt8.ofNat ranges.length] ∨
      parameters.length ≠ 2 + 12 * ranges.length then
    throw "bad request item count/function"
  checkAddresses parameters 0 ranges
  if write then checkPayloads ranges.length data 0 0 ranges
  else if data ≠ [] then throw "read request contains data"

/-! ### Packets and their sections -/

section Packet
variable {reference : Nat} {parameters data pdu : Bytes}

theorem length_packet : (packet 1 reference parameters data).length = 10 + parameters.length + data.length := by
  simp [packet, pack8, pack16]
  omega

/-- The header of a job, read back. -/
theorem packet_header (hreference : reference ≤ 65535) (hparameters : parameters.length ≤ 65535)
    (hdata : data.length ≤ 65535) : Header (packet 1 reference parameters data) 1 reference 10 := by
  have hsize : wordAt (packet 1 reference parameters data) 6 = parameters.length := toNat_pack16 _ hparameters
  have hrest : wordAt (packet 1 reference parameters data) 8 = data.length := toNat_pack16 _ hdata
  exact ⟨rfl, rfl, toNat_pack16 0 (by decide), toNat_pack16 _ hreference, by rw [length_packet, hsize, hrest]⟩

/-- A job with the header of its sections is the packet built from them. -/
theorem packet_of_header (header : Header pdu 1 reference 10) :
    pdu = packet 1 reference (slice pdu 10 (10 + wordAt pdu 6)) (pdu.drop (10 + wordAt pdu 6)) := by
  have hextent := header.extent
  have hparameters := wordAt_lt pdu 6
  have hdata := wordAt_lt pdu 8
  have hreference := wordAt_lt pdu 4
  rw [header.reference] at hreference
  have hhead : slice pdu 0 4 = [0x32, 1, 0, 0] :=
    (header_iff pdu 1 (by omega)).mpr ⟨header.protocol, header.kind, header.reserved⟩
  have href : slice pdu 4 6 = pack16 reference :=
    (slice_eq_pack16 pdu 4 _ (by omega) (by omega)).mpr header.reference
  have hsize : slice pdu 6 8 = pack16 (wordAt pdu 6) :=
    (slice_eq_pack16 pdu 6 _ (by omega) (by omega)).mpr rfl
  have hrest : slice pdu 8 10 = pack16 (wordAt pdu 8) :=
    (slice_eq_pack16 pdu 8 _ (by omega) (by omega)).mpr rfl
  have hlength : (slice pdu 10 (10 + wordAt pdu 6)).length = wordAt pdu 6 := by
    rw [length_slice]
    omega
  have hlength' : (pdu.drop (10 + wordAt pdu 6)).length = wordAt pdu 8 := by
    rw [List.length_drop]
    omega
  calc pdu = slice pdu 0 10 ++ pdu.drop 10 := (slice_append_drop pdu 0 10 (by decide)).symm
    _ = (slice pdu 0 4 ++ slice pdu 4 6 ++ slice pdu 6 8 ++ slice pdu 8 10) ++
        (slice pdu 10 (10 + wordAt pdu 6) ++ pdu.drop (10 + wordAt pdu 6)) := by
      rw [slice_append pdu 0 4 6 (by decide) (by decide), slice_append pdu 0 6 8 (by decide) (by decide),
        slice_append pdu 0 8 10 (by decide) (by decide), slice_append_drop pdu 10 _ (by omega)]
    _ = _ := by
      rw [hhead, href, hsize, hrest, packet, hlength, hlength']
      simp [pack8, pack16]

/-- Cutting a job into its sections undoes building it. -/
theorem sections_eq_ok_iff_packet (hreference : reference ≤ 65535) :
    sections pdu 1 reference = .ok (parameters, data) ↔
      pdu = packet 1 reference parameters data ∧ parameters.length ≤ 65535 ∧ data.length ≤ 65535 := by
  have hsections : ∀ result, sections pdu 1 reference = .ok result ↔ Header pdu 1 reference 10 ∧ _ ∧ _ :=
    fun _ => sections_eq_ok 1 rfl
  rw [hsections]
  constructor
  · rintro ⟨header, -, hresult⟩
    cases hresult
    have hparameters := wordAt_lt pdu 6
    have hdata := wordAt_lt pdu 8
    have hextent := header.extent
    refine ⟨packet_of_header header, ?_, ?_⟩
    · rw [length_slice]
      omega
    · rw [List.length_drop]
      omega
  · rintro ⟨rfl, hparameters, hdata⟩
    have hsize : wordAt (packet 1 reference parameters data) 6 = parameters.length := toNat_pack16 _ hparameters
    have hbody : (packet 1 reference parameters data).drop 10 = parameters ++ data := rfl
    refine ⟨packet_header hreference hparameters hdata, fun h => absurd h (by decide), ?_⟩
    rw [hsize, slice, ← List.drop_drop, hbody, Nat.add_sub_cancel_left, List.take_left, List.drop_left]

end Packet

/-! ### Addresses -/

/-- The addresses are the parameters past the item count. -/
theorem checkAddresses_eq_ok (items : List MemoryRange) {parameters : Bytes} {index : Nat}
    (hlength : parameters.length = 2 + 12 * (index + items.length)) :
    checkAddresses parameters index items = .ok () ↔
      parameters.drop (2 + index * 12) = items.flatMap address := by
  induction items generalizing index with
  | nil =>
    rw [List.length_nil] at hlength
    rw [checkAddresses, List.flatMap_nil, List.drop_of_length_le (by omega)]
    exact iff_of_true rfl rfl
  | cons item rest ih =>
    rw [List.length_cons] at hlength
    have hsplit : slice parameters (2 + index * 12) (14 + index * 12) ++ parameters.drop (14 + index * 12) =
        parameters.drop (2 + index * 12) :=
      slice_append_drop _ _ _ (by omega)
    have hslice : (slice parameters (2 + index * 12) (14 + index * 12)).length = (address item).length := by
      rw [length_slice, length_address]
      omega
    rw [checkAddresses, List.flatMap_cons, ← hsplit, List.append_eq_append_iff_of_size_eq_left hslice]
    have hlast : parameters.length = 2 + 12 * (index + 1 + rest.length) := by omega
    have hrest := ih hlast
    rw [show 2 + (index + 1) * 12 = 14 + index * 12 by omega] at hrest
    rw [← hrest]
    exact guard_eq_ok.trans (and_congr_left fun _ => Classical.not_not)

/-! ### Payload headers -/

/-- A range with what is written to it. -/
structure Write where
  range : MemoryRange
  payload : Bytes

def Write.model (write : Write) : S7.WriteItem := { range := write.range.model, payload := write.payload }

/-- The padding after an item, by index. -/
def padding (width index size : Nat) : Bytes := if index + 1 < width ∧ size % 2 ≠ 0 then [0] else []

theorem encodeMemoryAddress_eq_ok {item : MemoryRange} {encoded : Bytes}
    (h : S7.encodeMemoryAddress item.model = .ok encoded) : encoded = address item := by
  have hmodel := encodeMemoryAddress_model item
  rw [h] at hmodel
  split at hmodel
  · cases hmodel
  · exact Option.some.inj hmodel

/-- What the encoder makes of the first item of a write, and of the rest. -/
theorem encodeWriteSections_cons_eq_ok {write : Write} {rest : List Write} {sections : Bytes × Bytes}
    {width index : Nat} (hwidth : index + (rest.length + 1) = width)
    (h : S7.encodeWriteSections ((write :: rest).map Write.model) = .ok sections) :
    ∃ tail, S7.encodeWriteSections (rest.map Write.model) = .ok tail ∧
      write.payload.length = write.range.count ∧ write.range.count.val * 8 ≤ 65535 ∧
      sections = (address write.range ++ tail.1, [0, 4] ++ pack16 (write.range.count * 8) ++ write.payload ++
        padding width index write.range.count ++ tail.2) := by
  rw [List.map_cons, S7.encodeWriteSections] at h
  obtain ⟨encoded, haddress, h⟩ := bind_eq_ok.mp h
  obtain ⟨hsize, h⟩ := guard_eq_ok.mp h
  obtain ⟨hbits, h⟩ := guard_eq_ok.mp h
  obtain ⟨tail, htail, h⟩ := bind_eq_ok.mp h
  have hlength : write.payload.length = write.range.count := by
    rw [bne_iff_ne, ne_eq, Classical.not_not] at hsize
    exact hsize.trans (Nat.mul_one _)
  have hbound : write.payload.length * 8 ≤ 65535 := Nat.le_of_not_lt hbits
  refine ⟨tail, htail, hlength, by omega, ?_⟩
  have hpadding : (!(rest.map Write.model).isEmpty && write.payload.length % 2 != 0) = true ↔
      index + 1 < width ∧ write.range.count.val % 2 ≠ 0 := by
    rw [Bool.and_eq_true, Bool.not_eq_true', bne_iff_ne, hlength]
    exact and_congr_left fun _ => isEmpty_rest_iff Write.model rest hwidth
  cases h
  rw [encodeMemoryAddress_eq_ok haddress, padding, ← hlength, ← uint16BE_ofNat _ hbound]
  simp only [← hlength] at hpadding
  simp only [← hpadding]
  rfl

/-- The data section of an encoded write passes, wherever it starts. The induction is
on the items; what is before them is what the offset has passed. -/
theorem checkPayloads_of_encode (writes : List Write) {sections : Bytes × Bytes}
    (h : S7.encodeWriteSections (writes.map Write.model) = .ok sections) (before : Bytes)
    {width index : Nat} (hwidth : index + writes.length = width) :
    sections.1 = (writes.map (·.range)).flatMap address ∧
      checkPayloads width (before ++ sections.2) index before.length (writes.map (·.range)) = .ok () := by
  induction writes generalizing sections before index with
  | nil =>
    cases h
    refine ⟨rfl, ?_⟩
    rw [List.map_nil, checkPayloads, List.append_nil]
    exact if_neg (not_not_intro rfl)
  | cons write rest ih =>
    rw [List.length_cons] at hwidth
    obtain ⟨tail, htail, hlength, hbits, rfl⟩ := encodeWriteSections_cons_eq_ok hwidth h
    let item : Bytes := [0, 4] ++ pack16 (write.range.count * 8) ++ write.payload ++
      padding width index write.range.count
    have hlast : index + 1 + rest.length = width := by omega
    obtain ⟨haddresses, hrest⟩ := ih htail (before ++ item) hlast
    refine ⟨by rw [haddresses, List.map_cons, List.flatMap_cons], ?_⟩
    have hheader : slice (before ++ (item ++ tail.2)) before.length (before.length + 4) =
        [0, 4] ++ pack16 (write.range.count * 8) := by
      rw [slice, List.drop_left, Nat.add_sub_cancel_left]
      rfl
    have hoffset : (before ++ item).length =
        if index + 1 < width ∧ write.range.count.val % 2 ≠ 0 then before.length + (4 + write.range.count) + 1
        else before.length + (4 + write.range.count) := by
      have hitem : item.length = 4 + write.range.count + (padding width index write.range.count).length := by
        simp [item, pack16, hlength]
        omega
      rw [List.length_append, hitem, padding]
      split <;> simp
      omega
    rw [List.map_cons, checkPayloads]
    refine (guard_ok (Nat.not_lt.mpr hbits)).trans ((guard_ok (not_not_intro hheader)).trans ?_)
    rw [hoffset, List.append_assoc] at hrest
    exact hrest

/-! ### Requests of the client -/

section Request
variable {ranges : List MemoryRange} {data pdu encoded : Bytes}

/-- The parameter section of a request for some ranges. -/
def requestParameters (write : Bool) (ranges : List MemoryRange) : Bytes :=
  pack8 (if write then 5 else 4) ++ pack8 ranges.length ++ ranges.flatMap address

theorem length_requestParameters (write : Bool) :
    (requestParameters write ranges).length = 2 + 12 * ranges.length := by
  rw [requestParameters, List.length_append, length_addresses]
  rfl

/-- Of a packet with the parameters of its ranges, the check looks at the data. -/
theorem checkRequest_packet (write : Bool) (reference : Bounded 65535) (hcount : ranges.length ≤ 255)
    (hdata : data.length ≤ 65535) :
    checkRequest write reference ranges (packet 1 reference (requestParameters write ranges) data) =
      if write then checkPayloads ranges.length data 0 0 ranges
      else if data ≠ [] then .error "read request contains data" else .ok () := by
  have hwidth : (requestParameters write ranges).length = 2 + 12 * ranges.length := length_requestParameters write
  have hcut := (sections_eq_ok_iff_packet reference.property).mpr ⟨rfl, by rw [hwidth]; omega, hdata⟩
  have haddresses : checkAddresses (requestParameters write ranges) 0 ranges = .ok () :=
    (checkAddresses_eq_ok ranges (by rw [hwidth, Nat.zero_add])).mpr rfl
  have hfunction : slice (requestParameters write ranges) 0 2 =
      [if write then 5 else 4, UInt8.ofNat ranges.length] := by
    cases write <;> rfl
  unfold checkRequest
  refine (bind_ok hcut _).trans ((guard_ok (Nat.not_lt.mpr hcount)).trans ((guard_ok ?_).trans ?_))
  · exact not_or.mpr ⟨not_not_intro hfunction, not_not_intro hwidth⟩
  · exact bind_ok haddresses _

/-- What passes the check of a read: the packet of its ranges, and nothing else. -/
theorem checkRequest_read (reference : Bounded 65535) (hcount : ranges.length ≤ 255) :
    checkRequest false reference ranges pdu = .ok () ↔
      pdu = packet 1 reference (requestParameters false ranges) [] := by
  constructor
  · intro h
    unfold checkRequest at h
    obtain ⟨⟨parameters, data⟩, hcut, h⟩ := bind_eq_ok.mp h
    obtain ⟨-, h⟩ := guard_eq_ok.mp h
    obtain ⟨hfunction, h⟩ := guard_eq_ok.mp h
    obtain ⟨⟨⟩, haddresses, h⟩ := bind_eq_ok.mp h
    simp only [not_or, ne_eq, Classical.not_not] at hfunction
    have hlength : parameters.length = 2 + 12 * (0 + ranges.length) := by rw [hfunction.2, Nat.zero_add]
    have hdrop : parameters.drop 2 = ranges.flatMap address :=
      (checkAddresses_eq_ok ranges hlength).mp haddresses
    have hdata : data = [] := Classical.not_not.mp fun hdata => by
      rw [if_neg Bool.false_ne_true, if_pos hdata] at h
      cases h
    obtain ⟨rfl, -, -⟩ := (sections_eq_ok_iff_packet reference.property).mp hcut
    rw [hdata]
    refine congrArg (packet 1 reference · []) ?_
    calc parameters = slice parameters 0 2 ++ parameters.drop 2 :=
          (slice_append_drop parameters 0 2 (by decide)).symm
      _ = requestParameters false ranges := by
        rw [hfunction.1, hdrop]
        rfl
  · rintro rfl
    exact (checkRequest_packet false reference hcount (Nat.zero_le _)).trans rfl

/-- A read request passes exactly when it is the one the client encodes. -/
theorem checkRequest_read_iff (reference : Bounded 65535)
    (h : S7.encodeAreaReadMany (UInt16.ofNat reference) (ranges.map MemoryRange.model).toArray = .ok encoded) :
    checkRequest false reference ranges pdu = .ok () ↔ pdu = encoded := by
  have hrequest : request reference ranges false = some encoded :=
    (request_read reference ranges).symm.trans (toOption_eq_some.mpr h)
  obtain ⟨-, hcount⟩ := length_of_request hrequest
  rw [checkRequest_read reference (by omega)]
  unfold request at hrequest
  split at hrequest
  · cases hrequest
  split at hrequest
  · cases hrequest
  · rw [← Option.some.inj hrequest]
    rfl

/-- Two data blocks, the first payload of an odd size. -/
def sampleWrites : List Write := [
  ⟨⟨⟨1, by decide⟩, ⟨0, by decide⟩, ⟨1, by decide⟩⟩, [9]⟩,
  ⟨⟨⟨2, by decide⟩, ⟨4, by decide⟩, ⟨2, by decide⟩⟩, [5, 6]⟩]

theorem checkRequest_read_iff_sample :
    checkRequest false 7 (sampleWrites.map (·.range))
      [0x32, 1, 0, 0, 0, 7, 0, 26, 0, 0, 4, 2, 0x12, 10, 0x10, 2, 0, 1, 0, 1, 0x84, 0, 0, 0,
        0x12, 10, 0x10, 2, 0, 2, 0, 2, 0x84, 0, 0, 32] = .ok () :=
  (checkRequest_read_iff ⟨7, by decide⟩ (toOption_eq_some.mp (by decide +kernel))).mpr rfl

/-- A write request that the client encodes passes, whatever it writes. -/
theorem checkRequest_write (reference : Bounded 65535) {writes : List Write}
    (h : S7.encodeAreaWriteMany (UInt16.ofNat reference) (writes.map Write.model).toArray = .ok encoded) :
    checkRequest true reference (writes.map (·.range)) encoded = .ok () := by
  unfold S7.encodeAreaWriteMany at h
  obtain ⟨hcount, h⟩ := guard_eq_ok.mp h
  obtain ⟨sections, hencoded, h⟩ := bind_eq_ok.mp h
  have hlength : writes.length ≤ 20 := by simp_all [S7.maxItemCount]
  have hranges : (writes.map (·.range)).length = writes.length := List.length_map _
  obtain ⟨haddresses, hpayloads⟩ := checkPayloads_of_encode writes hencoded [] (Nat.zero_add _)
  have hparameters : [S7.writeFunction, UInt8.ofNat (writes.map Write.model).toArray.size] ++ sections.1 =
      requestParameters true (writes.map (·.range)) := by
    rw [haddresses, List.size_toArray, List.length_map, requestParameters, hranges]
    rfl
  have hjob : (S7.encodeJob ⟨UInt16.ofNat reference, requestParameters true (writes.map (·.range)),
      sections.2⟩).toOption = some encoded := by
    rw [← hparameters]
    exact congrArg Except.toOption h
  have hwidth : (requestParameters true (writes.map (·.range))).length ≤ 65535 := by
    rw [length_requestParameters, hranges]
    omega
  rw [encodeJob_model reference _ _ hwidth, Option.ite_none_left_eq_some] at hjob
  obtain ⟨hdata, hpacket⟩ := hjob
  have hchecks := checkRequest_packet true reference (by rw [hranges]; omega) (Nat.le_of_not_lt hdata)
  rw [← Option.some.inj hpacket, hchecks, if_pos rfl, hranges]
  exact hpayloads

theorem checkRequest_write_sample :
    checkRequest true 7 (sampleWrites.map (·.range))
      [0x32, 1, 0, 0, 0, 7, 0, 26, 0, 12, 5, 2, 0x12, 10, 0x10, 2, 0, 1, 0, 1, 0x84, 0, 0, 0,
        0x12, 10, 0x10, 2, 0, 2, 0, 2, 0x84, 0, 0, 32, 0, 4, 0, 8, 9, 0, 0, 4, 0, 16, 5, 6] = .ok () :=
  checkRequest_write ⟨7, by decide⟩ (toOption_eq_some.mp (by decide +kernel))

end Request

end ClassicS7.Oracle.Sequence
