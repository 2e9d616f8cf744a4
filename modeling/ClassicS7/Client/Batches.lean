import ClassicS7.Client.Planning

/-! Planned batches go out.

A plan counts bytes without building a packet. The counts are those of the encoders: a
batch that was planned from valid ranges always encodes, its request has the bytes that
were counted for it, and they fit the PDU. Where all items have one size, the number of
items in a batch is the one that the peer of the batching scenario computes on its own. -/
namespace ClassicS7
open Checks

/-! ### One item -/

namespace S7

/-- What a range must be to have an address. -/
structure MemoryRange.Addressable (range : MemoryRange) : Prop where
  count : range.count ≠ 0 ∧ range.count ≤ maxSectionSize
  dbNumber : ¬ (range.area ≠ .dataBlocks ∧ range.dbNumber ≠ 0)
  aligned : ¬ (range.area.usesElementAddress = true ∧ range.start % range.area.elementSize ≠ 0)
  address : range.wireAddress ≤ 0xffffff ∧ range.lastWireAddress ≤ 0xffffff

theorem validateMemoryRange_eq_ok {range : MemoryRange} :
    validateMemoryRange range = .ok () ↔ range.Addressable := by
  unfold validateMemoryRange
  constructor
  · intro h
    obtain ⟨hcount, h⟩ := guard_eq_ok.mp h
    obtain ⟨hnumber, h⟩ := guard_eq_ok.mp h
    obtain ⟨haligned, h⟩ := guard_eq_ok.mp h
    have haddress : ¬ (range.wireAddress > 0xffffff ∨ range.lastWireAddress > 0xffffff) := by
      intro hlarge
      rw [if_pos hlarge] at h
      cases h
    exact ⟨by omega, hnumber, haligned, by omega⟩
  · rintro ⟨hcount, hnumber, haligned, haddress⟩
    rw [guard_ok (by omega), guard_ok hnumber, guard_ok haligned, if_neg (by omega)]
    rfl

theorem encodeMemoryAddress_ok {range : MemoryRange} (addressable : range.Addressable) :
    ∃ address, encodeMemoryAddress range = .ok address ∧ address.length = 12 := by
  unfold encodeMemoryAddress
  rw [bind_ok (validateMemoryRange_eq_ok.mpr addressable)]
  exact ⟨_, rfl, rfl⟩

theorem encodeJob_ok (job : Job) (hparameters : job.parameters.length ≤ maxSectionSize)
    (hdata : job.data.length ≤ maxSectionSize) :
    ∃ packet, encodeJob job = .ok packet ∧ packet.length = 10 + job.parameters.length + job.data.length := by
  unfold encodeJob
  rw [guard_ok (Nat.not_lt.mpr hparameters), guard_ok (Nat.not_lt.mpr hdata)]
  refine ⟨_, rfl, ?_⟩
  simp only [List.length_append, length_uint16BE, List.length_cons, List.length_nil]

/-! ### Sections -/

theorem encodeReadAddresses_ok (ranges : List MemoryRange) (haddressable : ∀ range ∈ ranges, range.Addressable) :
    ∃ addresses, encodeReadAddresses ranges = .ok addresses ∧ addresses.length = 12 * ranges.length := by
  induction ranges with
  | nil => exact ⟨[], rfl, rfl⟩
  | cons range rest ih =>
    obtain ⟨hfirst, hrest⟩ := List.forall_mem_cons.mp haddressable
    obtain ⟨address, haddress, hlength⟩ := encodeMemoryAddress_ok hfirst
    obtain ⟨tail, htail, hlength'⟩ := ih hrest
    refine ⟨address ++ tail, ?_, ?_⟩
    · rw [encodeReadAddresses, bind_ok haddress, bind_ok htail]
      rfl
    · rw [List.length_append, List.length_cons, hlength, hlength']
      omega

/-- An item that its data section can hold. -/
structure WriteItem.Writable (item : WriteItem) : Prop where
  addressable : item.range.Addressable
  payload : item.payload.length = item.range.count * item.range.area.elementSize
  representable : MultiValidation.readLengthRepresentable item.range = true

/-- The padding that a section of its own would have, and the last one goes without. -/
def lastPadding (items : List WriteItem) : Nat := (items.getLast?.map (·.payload.length % 2)).getD 0

theorem WriteItem.Writable.length {item : WriteItem} (writable : item.Writable) :
    ¬ (if item.range.area.dataTransportSize == octetTransportSize then item.payload.length
      else item.payload.length * 8) > maxSectionSize := by
  have hfits := writable.representable
  simp only [MultiValidation.readLengthRepresentable, MultiValidation.lengthLimit, decide_eq_true_eq,
    ← writable.payload, maxSectionSize] at hfits ⊢
  by_cases hoctet : (item.range.area.dataTransportSize == octetTransportSize) = true
  · rw [if_pos hoctet] at hfits ⊢
    omega
  · rw [if_neg hoctet] at hfits ⊢
    omega

theorem encodeWriteSections_ok (items : List WriteItem) (hwritable : ∀ item ∈ items, item.Writable) :
    ∃ sections, encodeWriteSections items = .ok sections ∧ sections.1.length = 12 * items.length ∧
      12 * items.length + sections.2.length + lastPadding items = (items.map writeRequestContribution).sum := by
  induction items with
  | nil => exact ⟨([], []), rfl, rfl, rfl⟩
  | cons item rest ih =>
    obtain ⟨hfirst, hrest⟩ := List.forall_mem_cons.mp hwritable
    obtain ⟨address, haddress, hlength⟩ := encodeMemoryAddress_ok hfirst.addressable
    obtain ⟨⟨parameters, data⟩, hsections, hparameters, hdata⟩ := ih hrest
    dsimp only at hparameters hdata
    rw [encodeWriteSections, bind_ok haddress]
    dsimp only
    rw [guard_ok (by simp [hfirst.payload]), guard_ok hfirst.length, bind_ok hsections]
    refine ⟨_, rfl, ?_, ?_⟩
    · rw [List.length_append, List.length_cons, hlength, hparameters]
      omega
    · have hpadding : (if !rest.isEmpty && item.payload.length % 2 != 0 then [(0 : UInt8)] else []).length +
          lastPadding (item :: rest) = item.payload.length % 2 + lastPadding rest := by
        cases rest with
        | nil => exact Nat.zero_add _
        | cons next rest =>
          rw [show lastPadding (item :: next :: rest) = lastPadding (next :: rest) by
            rw [lastPadding, List.getLast?_cons_cons, lastPadding]]
          by_cases hodd : item.payload.length % 2 = 0
          · simp [hodd]
          · simp [Nat.mod_two_ne_zero.mp hodd]
      simp only [List.length_append, length_uint16BE, List.length_cons, List.length_nil, List.map_cons, List.sum_cons,
        writeRequestContribution, ← hdata]
      omega

end S7

/-! ### Batches -/

/-- A batch that has some items, and not too many, passes the check of its size. -/
theorem S7.itemCount_ok {α : Type} {items : Array α} (hcount : 0 < items.size ∧ items.size ≤ S7.maxItemCount) :
    ¬ (items.isEmpty || decide (items.size > S7.maxItemCount)) = true := by
  simp only [Bool.or_eq_true, decide_eq_true_eq, Array.isEmpty_iff_size_eq_zero]
  omega

namespace MultiValidation

theorem addressable_of_range {value : S7.MemoryRange} (h : range value = .ok ())
    (hcount : value.count ≤ S7.maxSectionSize) : value.Addressable := by
  unfold range at h
  obtain ⟨⟨⟩, hone, h⟩ := bind_eq_ok.mp h
  obtain ⟨hpositive, h⟩ := guard_eq_ok.mp h
  have one := S7.validateMemoryRange_eq_ok.mp hone
  have hlast : ¬ value.lastWireAddress > 0xffffff := by
    intro hlarge
    rw [if_pos hlarge] at h
    cases h
  exact ⟨⟨hpositive, hcount⟩, one.dbNumber, one.aligned, one.address.1, Nat.not_lt.mp hlast⟩

/-- A range that is in a data block passes. -/
theorem range_dataBlocks {dbNumber : UInt16} {start count : Nat} (hcount : 0 < count)
    (hinside : start + count ≤ 0x200000) : range ⟨.dataBlocks, dbNumber, start, count⟩ = .ok () := by
  have hlast (count : Nat) : (S7.MemoryRange.mk .dataBlocks dbNumber start count).lastWireAddress =
      (start + count * 1 - 1) * 8 := rfl
  have hwire (count : Nat) : (S7.MemoryRange.mk .dataBlocks dbNumber start count).wireAddress = start * 8 := rfl
  have hone : S7.validateMemoryRange ⟨.dataBlocks, dbNumber, start, 1⟩ = .ok () := by
    refine S7.validateMemoryRange_eq_ok.mpr ⟨⟨Nat.one_ne_zero, show 1 ≤ S7.maxSectionSize by decide⟩, fun h => h.1 rfl,
      fun h => ?_, ?_⟩
    · cases h.1
    · rw [hwire, hlast]
      omega
  refine (bind_ok hone _).trans ((guard_ok (Nat.ne_of_gt hcount)).trans (if_neg ?_))
  rw [hlast]
  omega

theorem count_of_representable {value : S7.MemoryRange} (h : readLengthRepresentable value = true) :
    value.count ≤ S7.maxSectionSize := by
  have hlimit : lengthLimit value.area ≤ S7.maxSectionSize := by
    unfold lengthLimit
    split <;> decide
  calc value.count ≤ value.count * value.area.elementSize := Nat.le_mul_of_pos_right _ (elementSize_pos _)
    _ ≤ lengthLimit value.area := decide_eq_true_eq.mp h
    _ ≤ S7.maxSectionSize := hlimit

end MultiValidation

/-- A response with a success for each item is no longer than was planned for. -/
theorem length_of_readItems {data : Bytes} (ranges : List S7.MemoryRange) {offset : Nat}
    {results : List S7.ReadItemResult} (h : S7.readItems ranges data offset = some results)
    (hsuccess : ∀ result ∈ results, ∃ payload, result = .success payload) :
    data.length ≤ offset + (ranges.map readResponseContribution).sum := by
  induction ranges generalizing offset results with
  | nil =>
    rw [S7.readItems] at h
    split at h
    · omega
    · cases h
  | cons range rest ih =>
    rw [S7.readItems] at h
    split at h
    · next frame =>
      obtain ⟨tail, htail, rfl⟩ := Option.map_eq_some_iff.mp h
      obtain ⟨⟨payload, hpayload⟩, hrest⟩ := List.forall_mem_cons.mp hsuccess
      have hcode : byteAt data offset = 255 := by
        refine Classical.byContradiction fun hfailed => ?_
        rw [S7.itemResult, if_neg hfailed] at hpayload
        cases hpayload
      have hsize : S7.itemSize data offset = range.count * range.area.elementSize := (frame.form hcode).2
      have hlength := ih htail hrest
      have hnext : S7.itemNext rest.isEmpty data offset ≤ offset + readResponseContribution range := by
        simp only [S7.itemNext, readResponseContribution, ← hsize]
        split <;> omega
      rw [List.map_cons, List.sum_cons]
      omega
    · cases h

section Plans
variable (pduLength reference : UInt16)

/-- A batch of a read that was planned encodes, with the bytes that were counted, and what
answers it with a success for each item fits too. -/
theorem planReadBatch_encodes {pending : List S7.MemoryRange}
    (hvalid : ∀ range ∈ pending, MultiValidation.range range = .ok ())
    (hsome : (planReadBatch pduLength.toNat pending).selected ≠ []) :
    (planReadBatch pduLength.toNat pending).selected.length ≤ 20 ∧
      ∃ packet, S7.encodeAreaReadMany reference (planReadBatch pduLength.toNat pending).selected.toArray = .ok packet ∧
      packet.length = 12 + 12 * (planReadBatch pduLength.toNat pending).selected.length ∧
      packet.length ≤ pduLength.toNat ∧
      ∀ response results, S7.decodeAreaReadMany reference (planReadBatch pduLength.toNat pending).selected.toArray
          response = .ok results → (∀ result ∈ results, ∃ payload, result = .success payload) →
        14 + response.data.length ≤ pduLength.toNat := by
  generalize planReadBatch pduLength.toNat pending = plan at *
  obtain ⟨selected, remaining, longest⟩ := plan
  dsimp only at hsome ⊢
  obtain ⟨hcount, hrequest, hresponse⟩ := longest.within hsome
  have haddressable : ∀ range ∈ selected, range.Addressable := by
    intro range hrange
    have hadmissible : range.count > 0 ∧ MultiValidation.readLengthRepresentable range = true := by
      simpa [readCosts] using longest.admissible range hrange
    have hpending : range ∈ pending := longest.partition ▸ List.mem_append_left remaining hrange
    exact MultiValidation.addressable_of_range (hvalid range hpending)
      (MultiValidation.count_of_representable hadmissible.2)
  have hcosts : (selected.map readCosts.request).sum = selected.length * 12 := Batching.sum_map_const fun _ _ => rfl
  have hpositive : 0 < selected.length := List.length_pos_iff.mpr hsome
  rw [S7.maxItemCount] at hcount
  obtain ⟨addresses, haddresses, hlength⟩ := S7.encodeReadAddresses_ok selected haddressable
  let job : S7.Job := { reference, parameters := [S7.readFunction, UInt8.ofNat selected.toArray.size] ++ addresses }
  have hparameters : job.parameters.length = 2 + 12 * selected.length := by
    rw [List.length_append, hlength]
    rfl
  obtain ⟨packet, hpacket, hsize⟩ := S7.encodeJob_ok job (by rw [S7.maxSectionSize]; omega) (Nat.zero_le _)
  have hencode : S7.encodeAreaReadMany reference selected.toArray = .ok packet := by
    unfold S7.encodeAreaReadMany
    rw [guard_ok (S7.itemCount_ok ⟨hpositive, show selected.length ≤ 20 by omega⟩), bind_ok haddresses]
    exact hpacket
  rw [hparameters] at hsize
  have hdata : job.data.length = 0 := rfl
  refine ⟨by omega, packet, hencode, by omega, by omega, fun response results hresults hsuccess => ?_⟩
  have hitems := ((S7.decodeAreaReadMany_eq_ok (by simpa using hpositive)
    (by simp [S7.maxItemCount]; omega)).mp hresults).2
  rw [List.toList_toArray] at hitems
  have hbounded := length_of_readItems selected hitems (by simpa using hsuccess)
  have hresponses : (selected.map readCosts.response).sum = (selected.map readResponseContribution).sum := rfl
  omega

theorem planReadBatch_encodes_sample :
    ∃ packet, S7.encodeAreaReadMany 7
        (planReadBatch 240 [⟨.dataBlocks, 1, 0, 150⟩, ⟨.markers, 0, 8, 50⟩, ⟨.dataBlocks, 2, 0, 40⟩]).selected.toArray =
        .ok packet ∧ packet.length = 36 :=
  (@planReadBatch_encodes 240 7 [⟨.dataBlocks, 1, 0, 150⟩, ⟨.markers, 0, 8, 50⟩, ⟨.dataBlocks, 2, 0, 40⟩]
    (by simpa using ⟨rfl, rfl, rfl⟩) (by decide)).2.imp fun _ h => ⟨h.1, h.2.1⟩

/-- A batch of a write that was planned encodes, with the bytes that were counted but for the
last padding, and the answer to it fits too. -/
theorem planWriteBatch_encodes {pending : List S7.WriteItem}
    (hvalid : ∀ item ∈ pending, MultiValidation.range item.range = .ok ())
    (hsome : (planWriteBatch pduLength.toNat pending).selected ≠ []) :
    ∃ packet, S7.encodeAreaWriteMany reference (planWriteBatch pduLength.toNat pending).selected.toArray = .ok packet ∧
      packet.length + S7.lastPadding (planWriteBatch pduLength.toNat pending).selected =
        12 + ((planWriteBatch pduLength.toNat pending).selected.map writeRequestContribution).sum ∧
      packet.length ≤ pduLength.toNat ∧
      14 + (planWriteBatch pduLength.toNat pending).selected.length ≤ pduLength.toNat := by
  generalize planWriteBatch pduLength.toNat pending = plan at *
  obtain ⟨selected, remaining, longest⟩ := plan
  dsimp only at hsome ⊢
  obtain ⟨hcount, hrequest, hresponse⟩ := longest.within hsome
  have hwritable : ∀ item ∈ selected, item.Writable := by
    intro item hitem
    have hadmissible : (item.range.count > 0 ∧
        item.payload.length = item.range.count * item.range.area.elementSize) ∧
        MultiValidation.readLengthRepresentable item.range = true := by
      simpa [writeCosts] using longest.admissible item hitem
    have hpending : item ∈ pending := longest.partition ▸ List.mem_append_left remaining hitem
    exact ⟨MultiValidation.addressable_of_range (hvalid item hpending)
      (MultiValidation.count_of_representable hadmissible.2), hadmissible.1.2, hadmissible.2⟩
  have hrequests : (selected.map writeCosts.request).sum = (selected.map writeRequestContribution).sum := rfl
  have hresponses : (selected.map writeCosts.response).sum = selected.length * 1 :=
    Batching.sum_map_const fun _ _ => rfl
  have hpositive : 0 < selected.length := List.length_pos_iff.mpr hsome
  have hpdu : pduLength.toNat < 65536 := pduLength.toNat_lt
  rw [S7.maxItemCount] at hcount
  obtain ⟨⟨addresses, data⟩, hsections, hlength, htotal⟩ := S7.encodeWriteSections_ok selected hwritable
  dsimp only at hlength htotal
  let job : S7.Job :=
    { reference, parameters := [S7.writeFunction, UInt8.ofNat selected.toArray.size] ++ addresses, data }
  have hparameters : job.parameters.length = 2 + 12 * selected.length := by
    rw [List.length_append, hlength]
    rfl
  have hdata : job.data.length = data.length := rfl
  obtain ⟨packet, hpacket, hsize⟩ := S7.encodeJob_ok job (by rw [S7.maxSectionSize]; omega)
    (by rw [S7.maxSectionSize]; omega)
  have hencode : S7.encodeAreaWriteMany reference selected.toArray = .ok packet := by
    unfold S7.encodeAreaWriteMany
    rw [guard_ok (S7.itemCount_ok ⟨hpositive, show selected.length ≤ 20 by omega⟩), bind_ok hsections]
    exact hpacket
  rw [hparameters] at hsize
  exact ⟨packet, hencode, by omega, by omega, by omega⟩

theorem planWriteBatch_encodes_sample :
    ∃ packet, S7.encodeAreaWriteMany 7
        (planWriteBatch 240 [⟨⟨.dataBlocks, 1, 0, 3⟩, [1, 2, 3]⟩, ⟨⟨.markers, 0, 8, 1⟩, [4]⟩]).selected.toArray =
        .ok packet ∧ packet.length + 1 = 50 :=
  (@planWriteBatch_encodes 240 7 [⟨⟨.dataBlocks, 1, 0, 3⟩, [1, 2, 3]⟩, ⟨⟨.markers, 0, 8, 1⟩, [4]⟩]
    (by simpa using ⟨rfl, rfl⟩) (by decide)).imp fun _ h => ⟨h.1, h.2.1⟩

end Plans

end ClassicS7
