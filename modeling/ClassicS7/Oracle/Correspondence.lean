import ClassicS7.Histories.Conversations
import ClassicS7.Histories.Sessions
import ClassicS7.Oracle.Wire

/-! What the oracles' values, requests and attempts stand for.

Checked values stand for the client's own (`MemoryRange.model`, `Location.model`);
on them the oracle's `request` and the client's encoders return the same bytes and
refuse the same batches (`request_read`, `request_write`). The attempts an oracle
keeps stand for the client's write progress, and each operation of one is the
operation of the other (`model_finishAll`, `model_finish`). -/
namespace ClassicS7.Oracle
open Checks

/-! ### What the values stand for -/

def RangeValue.model (value : RangeValue) : S7.MemoryRange :=
  { area := .dataBlocks, dbNumber := UInt16.ofNat value.dbNumber, start := value.start, count := value.count }

def LocationValue.model (value : LocationValue) : WriteLocation :=
  { range := value.range.model, itemIndex := value.itemIndex, chunkByteOffset := value.chunkByteOffset }

def MemoryRange.model (range : MemoryRange) : S7.MemoryRange :=
  { area := .dataBlocks, dbNumber := UInt16.ofNat range.dbNumber, start := range.start, count := range.count }

def Location.model (location : Location) : WriteLocation :=
  { range := location.range.model
    itemIndex := location.itemIndex.map Subtype.val
    chunkByteOffset := location.chunkByteOffset }

/-- A checked integer is the integer. -/
theorem integer_eq_ok {value maximum : Nat} {result : Bounded maximum} :
    integer value maximum = .ok result ↔ result.val = value := by
  unfold integer
  split
  · rw [Except.ok.injEq, Subtype.ext_iff]
    exact eq_comm
  · rename_i h
    refine iff_of_false (fun h => by cases h) ?_
    rintro rfl
    exact h result.property

@[simp] theorem toNat_word (value : Bounded 65535) : (UInt16.ofNat value.val).toNat = value.val := by
  have hbound := value.property
  rw [UInt16.toNat_ofNat', Nat.mod_eq_of_lt (by omega)]

theorem memoryRange_model {value : RangeValue} {range : MemoryRange} (h : memoryRange value = .ok range) :
    range.model = value.model := by
  obtain ⟨dbNumber, hdb, h⟩ := bind_eq_ok.mp h
  obtain ⟨start, hstart, h⟩ := bind_eq_ok.mp h
  obtain ⟨count, hcount, h⟩ := bind_eq_ok.mp h
  cases h
  rw [MemoryRange.model, RangeValue.model, integer_eq_ok.mp hdb, integer_eq_ok.mp hstart,
    integer_eq_ok.mp hcount]

theorem location_model {value : LocationValue} {result : Location} (h : location value = .ok result) :
    result.model = value.model := by
  obtain ⟨range, hrange, h⟩ := bind_eq_ok.mp h
  cases hindex : value.itemIndex with
  | none =>
    rw [hindex] at h
    obtain ⟨itemIndex, hitem, h⟩ := bind_eq_ok.mp h
    obtain ⟨offset, hoffset, h⟩ := bind_eq_ok.mp h
    cases hitem
    cases h
    rw [Location.model, LocationValue.model, memoryRange_model hrange, integer_eq_ok.mp hoffset, hindex]
    rfl
  | some index =>
    rw [hindex] at h
    obtain ⟨itemIndex, hitem, h⟩ := bind_eq_ok.mp h
    obtain ⟨offset, hoffset, h⟩ := bind_eq_ok.mp h
    obtain ⟨checked, hchecked, hitem⟩ := bind_eq_ok.mp hitem
    cases hitem
    cases h
    rw [Location.model, LocationValue.model, memoryRange_model hrange, integer_eq_ok.mp hoffset, hindex,
      Option.map_some, integer_eq_ok.mp hchecked]

/-- A list of checked locations stands for the list of their values. -/
theorem locations_model {values : List LocationValue} {results : List Location}
    (h : values.mapM location = .ok results) : results.map Location.model = values.map LocationValue.model := by
  induction values generalizing results with
  | nil =>
    cases h
    rfl
  | cons value rest ih =>
    rw [List.mapM_cons] at h
    obtain ⟨result, hresult, h⟩ := bind_eq_ok.mp h
    obtain ⟨results, hresults, h⟩ := bind_eq_ok.mp h
    cases h
    rw [List.map_cons, List.map_cons, location_model hresult, ih hresults]

/-! ### Encoders -/

/-- A data-block range passes the client's checks unless the oracle refuses it. -/
theorem validateMemoryRange_model (item : MemoryRange) :
    (S7.validateMemoryRange item.model).toOption = if item.refused false then none else some () := by
  have hbound := item.count.property
  unfold S7.validateMemoryRange
  by_cases hzero : item.count.val = 0
  · have hrefused : item.refused false := .inl hzero
    rw [if_pos hrefused]
    exact congrArg Except.toOption (guard_error (.inl hzero))
  · refine (congrArg Except.toOption (guard_ok ?_)).trans ?_
    · simp only [MemoryRange.model, S7.maxSectionSize]
      omega
    refine (congrArg Except.toOption (guard_ok fun h => h.1 rfl)).trans ?_
    refine (congrArg Except.toOption (guard_ok fun h => Bool.false_ne_true h.1)).trans ?_
    by_cases hrefused : item.refused false
    · rw [if_pos hrefused]
      refine congrArg Except.toOption (if_pos (.inr ?_))
      simp only [MemoryRange.refused, Bool.false_eq_true, false_and, or_false] at hrefused
      simp only [S7.MemoryRange.lastWireAddress, MemoryRange.model, S7.Area.usesElementAddress,
        S7.Area.elementSize, Bool.false_eq_true, if_false]
      omega
    · rw [if_neg hrefused]
      refine congrArg Except.toOption (if_neg ?_)
      simp only [MemoryRange.refused, Bool.false_eq_true, false_and, or_false] at hrefused
      simp only [S7.MemoryRange.lastWireAddress, S7.MemoryRange.wireAddress, MemoryRange.model,
        S7.Area.usesElementAddress, S7.Area.elementSize, Bool.false_eq_true, if_false]
      omega

theorem uint16BE_ofNat (n : Nat) (h : n ≤ 65535) : uint16BE (UInt16.ofNat n) = pack16 n := by
  have hvalue : (UInt16.ofNat n).toNat = n := by
    rw [UInt16.toNat_ofNat', Nat.mod_eq_of_lt (by omega)]
  simp only [uint16BE, pack16, hvalue]

theorem uint24BE_ofNat (n : Nat) (h : n ≤ 0xffffff) : uint24BE (UInt32.ofNat n) = pack24 n := by
  have hvalue : (UInt32.ofNat n).toNat = n := by
    rw [UInt32.toNat_ofNat', Nat.mod_eq_of_lt (by omega)]
  simp only [uint24BE, pack24, hvalue]

theorem encodeMemoryAddress_model (item : MemoryRange) :
    (S7.encodeMemoryAddress item.model).toOption =
      if item.refused false then none else some (address item) := by
  have hstart := item.start.property
  unfold S7.encodeMemoryAddress
  rw [toOption_bind, validateMemoryRange_model]
  by_cases hrefused : item.refused false
  · rw [if_pos hrefused, if_pos hrefused]
    rfl
  · rw [if_neg hrefused, if_neg hrefused]
    refine congrArg some ?_
    have hcount := uint16BE_ofNat item.count item.count.property
    have hdb := uint16BE_ofNat item.dbNumber item.dbNumber.property
    have haddress := uint24BE_ofNat (item.start * 8) (by omega)
    rw [address, ← hcount, ← hdb, ← haddress]
    rfl

/-- The address of a range in the data block of the peers. -/
theorem encodeMemoryAddress_dataBlock {start count : Nat} (hcount : 0 < count ∧ count ≤ 65535)
    (hinside : start + count ≤ 0x200000) :
    S7.encodeMemoryAddress ⟨.dataBlocks, 1, start, count⟩ =
      .ok ([0x12, 0x0a, 0x10, 2] ++ pack16 count ++ pack16 1 ++ [0x84] ++ pack24 (start * 8)) := by
  let item : MemoryRange := ⟨⟨1, by decide⟩, ⟨start, by omega⟩, ⟨count, hcount.2⟩⟩
  have haccepted : ¬ item.refused false := by
    simp only [MemoryRange.refused, item, Bool.false_eq_true, false_and, or_false]
    omega
  have haddress := encodeMemoryAddress_model item
  rw [if_neg haccepted] at haddress
  exact toOption_eq_some.mp haddress

theorem encodeReadAddresses_model (items : List MemoryRange) :
    (S7.encodeReadAddresses (items.map MemoryRange.model)).toOption =
      if ∃ item ∈ items, item.refused false then none else some (items.flatMap address) := by
  induction items with
  | nil => rfl
  | cons item rest ih =>
    rw [List.map_cons, S7.encodeReadAddresses, toOption_bind, encodeMemoryAddress_model]
    by_cases hitem : item.refused false
    · rw [if_pos hitem, if_pos ⟨item, List.mem_cons_self, hitem⟩]
      rfl
    · rw [if_neg hitem, Option.bind_some, toOption_bind, ih]
      by_cases hrest : ∃ item ∈ rest, item.refused false
      · rw [if_pos hrest, if_pos (by simpa [hitem] using hrest)]
        rfl
      · rw [if_neg hrest, if_neg (by simpa [hitem] using hrest)]
        rfl

/-- The last index of a walk is the one with nothing after it. -/
theorem isEmpty_rest_iff {α β : Type} {index width : Nat} (f : α → β) (rest : List α)
    (hwidth : index + (rest.length + 1) = width) : (rest.map f).isEmpty = false ↔ index + 1 < width := by
  cases rest with
  | nil => simp_all
  | cons => simp_all; omega

/-- The client's write item of a range: its own payload. -/
def writeItem (item : MemoryRange) : S7.WriteItem := { range := item.model, payload := payload item }

@[simp] theorem length_payload (item : MemoryRange) : (payload item).length = item.count.val := by
  simp [payload]

/-- The client's padding, between items, is the oracle's, by index. -/
theorem padding_eq (rest : List MemoryRange) (size width index : Nat)
    (hwidth : index + (rest.length + 1) = width) :
    (if (!(rest.map writeItem).isEmpty && size % 2 != 0) = true then ([0] : Bytes) else []) =
      if index + 1 < width ∧ size % 2 ≠ 0 then [0] else [] := by
  have hcondition : (!(rest.map writeItem).isEmpty && size % 2 != 0) = true ↔
      index + 1 < width ∧ size % 2 ≠ 0 := by
    rw [Bool.and_eq_true, Bool.not_eq_true', bne_iff_ne]
    exact and_congr_left fun _ => isEmpty_rest_iff writeItem rest hwidth
  simp only [hcondition]

/-- One item of a write, when it is not refused. -/
theorem encodeWriteSections_cons (item : MemoryRange) (rest : List MemoryRange) (width index : Nat)
    (hwidth : index + (rest.length + 1) = width) (hitem : ¬ item.refused true) :
    (S7.encodeWriteSections ((item :: rest).map writeItem)).toOption =
      (S7.encodeWriteSections (rest.map writeItem)).toOption.map fun sections =>
        (address item ++ sections.1, [0, 4] ++ pack16 ((payload item).length * 8) ++ payload item ++
          (if index + 1 < width ∧ (payload item).length % 2 ≠ 0 then [0] else []) ++ sections.2) := by
  have hrange : ¬ item.refused false :=
    fun h => hitem (h.imp_right fun h => h.imp_right fun h => absurd h.1 Bool.false_ne_true)
  have hlength : (payload item).length * 8 ≤ 65535 := by
    rw [length_payload]
    exact Nat.le_of_not_lt fun h => hitem (.inr (.inr ⟨rfl, h⟩))
  rw [List.map_cons, S7.encodeWriteSections, toOption_bind]
  refine (congrArg (Option.bind · _) ((encodeMemoryAddress_model item).trans (if_neg hrange))).trans ?_
  refine (congrArg Except.toOption (guard_ok ?_)).trans ?_
  · rw [bne_iff_ne]
    exact not_not_intro ((length_payload item).trans (Nat.mul_one _).symm)
  refine (congrArg Except.toOption (guard_ok (Nat.not_lt.mpr hlength))).trans ?_
  rw [toOption_bind, Option.map_eq_bind]
  congr 1
  funext sections
  rw [← padding_eq rest _ width index hwidth, ← uint16BE_ofNat _ hlength]
  rfl

theorem encodeWriteSections_refused (item : MemoryRange) (rest : List MemoryRange)
    (hitem : item.refused true) :
    (S7.encodeWriteSections ((item :: rest).map writeItem)).toOption = none := by
  rw [List.map_cons, S7.encodeWriteSections, toOption_bind]
  refine (congrArg (Option.bind · _) (encodeMemoryAddress_model item)).trans ?_
  by_cases hrange : item.refused false
  · rw [if_pos hrange]
    rfl
  · have hlength : (payload item).length * 8 > 65535 := by
      rw [length_payload]
      simp only [MemoryRange.refused, Bool.false_eq_true, false_and, or_false, true_and] at hrange hitem
      omega
    rw [if_neg hrange, Option.bind_some]
    refine (congrArg Except.toOption (guard_ok ?_)).trans (congrArg Except.toOption (guard_error hlength))
    rw [bne_iff_ne]
    exact not_not_intro ((length_payload item).trans (Nat.mul_one _).symm)

theorem encodeWriteSections_model (items : List MemoryRange) (width index : Nat)
    (hwidth : index + items.length = width) :
    (S7.encodeWriteSections (items.map writeItem)).toOption =
      if ∃ item ∈ items, item.refused true then none
      else some (items.flatMap address, writeData width index items) := by
  induction items generalizing index with
  | nil => rfl
  | cons item rest ih =>
    rw [List.length_cons] at hwidth
    by_cases hitem : item.refused true
    · rw [encodeWriteSections_refused item rest hitem, if_pos ⟨item, List.mem_cons_self, hitem⟩]
    · have hcons : (∃ other ∈ item :: rest, other.refused true) ↔ ∃ other ∈ rest, other.refused true := by
        simp [hitem]
      rw [encodeWriteSections_cons item rest width index hwidth hitem, ih (index + 1) (by omega)]
      by_cases hrest : ∃ other ∈ rest, other.refused true
      · refine Eq.trans ?_ (if_pos (hcons.mpr hrest)).symm
        rw [if_pos hrest]
        rfl
      · refine Eq.trans ?_ (if_neg fun h => hrest (hcons.mp h)).symm
        rw [if_neg hrest, Option.map_some, writeData, List.flatMap_cons]

theorem encodeJob_model (reference : Bounded 65535) (parameters data : Bytes)
    (hparameters : parameters.length ≤ 65535) :
    (S7.encodeJob ⟨UInt16.ofNat reference, parameters, data⟩).toOption =
      if data.length > 65535 then none else some (packet 1 reference parameters data) := by
  unfold S7.encodeJob
  refine (congrArg Except.toOption (guard_ok (Nat.not_lt.mpr hparameters))).trans ?_
  refine toOption_guard.trans ?_
  by_cases hdata : data.length > 65535
  · rw [if_pos hdata]
    exact if_pos hdata
  · rw [if_neg hdata]
    refine (if_neg hdata).trans (congrArg some ?_)
    rw [uint16BE_ofNat _ reference.property, uint16BE_ofNat _ hparameters,
      uint16BE_ofNat _ (Nat.le_of_not_lt hdata)]
    rfl

/-- A job with sections that fit is the packet of them. -/
theorem encodeJob_ok (reference : UInt16) {parameters data : Bytes} (hparameters : parameters.length ≤ 65535)
    (hdata : data.length ≤ 65535) :
    S7.encodeJob { reference, parameters, data } = .ok (packet 1 reference.toNat parameters data) := by
  have hreference := reference.toNat_lt
  have hjob := encodeJob_model ⟨reference.toNat, by omega⟩ parameters data hparameters
  rw [if_neg (Nat.not_lt.mpr hdata), UInt16.ofNat_toNat] at hjob
  exact toOption_eq_some.mp hjob

theorem length_address (item : MemoryRange) : (address item).length = 12 := rfl

theorem length_addresses (items : List MemoryRange) :
    (items.flatMap address).length = 12 * items.length := by
  induction items with
  | nil => rfl
  | cons item rest ih =>
    rw [List.flatMap_cons, List.length_append, ih, length_address, List.length_cons]
    omega

theorem any_refused (items : List MemoryRange) (write : Bool) :
    (items.any fun item => item.refused write) = true ↔ ∃ item ∈ items, item.refused write := by
  simp

/-- Reading: the same bytes, for the same batches. -/
theorem request_read (reference : Bounded 65535) (items : List MemoryRange) :
    (S7.encodeAreaReadMany (UInt16.ofNat reference) (items.map MemoryRange.model).toArray).toOption =
      request reference items false := by
  unfold S7.encodeAreaReadMany request
  refine toOption_guard.trans ?_
  by_cases hcount : (items.isEmpty || decide (items.length > 20)) = true
  · rw [if_pos hcount, if_pos (by simpa [S7.maxItemCount] using hcount)]
  · rw [if_neg hcount, if_neg (by simpa [S7.maxItemCount] using hcount), toOption_bind]
    have hlength : items.length ≤ 20 := by simp_all
    refine (congrArg (Option.bind · _) (encodeReadAddresses_model items)).trans ?_
    by_cases hrefused : ∃ item ∈ items, item.refused false
    · rw [if_pos hrefused, if_pos ((any_refused items false).mpr hrefused)]
      rfl
    · rw [if_neg hrefused, if_neg fun h => hrefused ((any_refused items false).mp h), Option.bind_some]
      refine (encodeJob_model reference _ [] ?_).trans ?_
      · rw [List.length_append, length_addresses]
        show 2 + 12 * items.length ≤ 65535
        omega
      · simp [pack8, S7.readFunction]

/-- Writing: the same bytes, for the same batches. -/
theorem request_write (reference : Bounded 65535) (items : List MemoryRange) :
    (S7.encodeAreaWriteMany (UInt16.ofNat reference) (items.map writeItem).toArray).toOption =
      request reference items true := by
  unfold S7.encodeAreaWriteMany request
  refine toOption_guard.trans ?_
  by_cases hcount : (items.isEmpty || decide (items.length > 20)) = true
  · rw [if_pos hcount, if_pos (by simpa [S7.maxItemCount] using hcount)]
  · rw [if_neg hcount, if_neg (by simpa [S7.maxItemCount] using hcount), toOption_bind]
    have hlength : items.length ≤ 20 := by simp_all
    refine (congrArg (Option.bind · _)
      (encodeWriteSections_model items items.length 0 (Nat.zero_add _))).trans ?_
    by_cases hrefused : ∃ item ∈ items, item.refused true
    · rw [if_pos hrefused, if_pos ((any_refused items true).mpr hrefused)]
      rfl
    · rw [if_neg hrefused, if_neg fun h => hrefused ((any_refused items true).mp h), Option.bind_some]
      refine (encodeJob_model reference _ _ ?_).trans ?_
      · rw [List.length_append, length_addresses]
        show 2 + 12 * items.length ≤ 65535
        omega
      · simp [pack8, S7.writeFunction]

/-! ### Read items

The oracles walk the data section of a read with an offset and an index, the client
with a cursor and what is left of the list. -/

section Items
variable {data : Bytes} {offset width index : Nat} {final : Bool}

/-- A data-block item is accepted as bytes of its count. -/
theorem acceptsItem_dataBlocks {range : S7.MemoryRange} (harea : range.area = .dataBlocks)
    (transport size : Nat) : range.acceptsItem transport size ↔ transport = 4 ∧ size = range.count := by
  simp [S7.MemoryRange.acceptsItem, harea, S7.Area.dataTransportSize, S7.Area.usesElementAddress,
    S7.Area.elementSize, S7.byteTransportSize]

/-- The oracles' next offset: past the padding, between items of odd size. -/
theorem nextOffset_eq (hfinal : final = false ↔ index + 1 < width) :
    (if index + 1 < width ∧ S7.itemSize data offset % 2 ≠ 0 then offset + 4 + S7.itemSize data offset + 1
      else offset + 4 + S7.itemSize data offset) = S7.itemNext final data offset := by
  have hodd : index + 1 < width ∧ S7.itemSize data offset % 2 ≠ 0 ↔
      final = false ∧ S7.itemSize data offset % 2 = 1 :=
    and_congr hfinal.symm (by omega)
  simp only [S7.itemNext, hodd]
  split <;> rfl

/-- The checks of an oracle on one item, all passed, are the client's frame. -/
theorem readItemFrame_iff_checks {range : S7.MemoryRange} (harea : range.area = .dataBlocks)
    (hfinal : final = false ↔ index + 1 < width) :
    S7.ReadItemFrame range final data offset ↔
      ¬ offset + 4 > data.length ∧ ¬ (¬ byteAt data (offset + 1) = 9 ∧ wordAt data (offset + 2) % 8 ≠ 0) ∧
      ¬ offset + 4 + S7.itemSize data offset > data.length ∧
      ¬ (index + 1 < width ∧ S7.itemSize data offset % 2 ≠ 0 ∧
        offset + 4 + S7.itemSize data offset ≥ data.length) ∧
      ¬ (byteAt data offset = 255 ∧ (byteAt data (offset + 1) ≠ 4 ∨ S7.itemSize data offset ≠ range.count)) := by
  constructor
  · rintro ⟨hheader, haligned, hextent, hform⟩
    have hpayload : offset + 4 + S7.itemSize data offset ≤ data.length := by
      unfold S7.itemNext at hextent
      omega
    refine ⟨by omega, by omega, by omega, ?_, ?_⟩
    · rintro ⟨hindex, hodd, hend⟩
      rw [← nextOffset_eq hfinal, if_pos ⟨hindex, hodd⟩] at hextent
      omega
    · rintro ⟨hcode, hmismatch⟩
      obtain ⟨htransport, hsize⟩ := (acceptsItem_dataBlocks harea ..).mp (hform hcode)
      exact hmismatch.elim (absurd htransport) (absurd hsize)
  · rintro ⟨hheader, haligned, hpayload, hpadding, hform⟩
    refine ⟨by omega, by omega, ?_, fun hcode => ?_⟩
    · rw [← nextOffset_eq hfinal]
      split
      · rename_i hpadded
        exact Nat.succ_le_of_lt (Nat.lt_of_not_le fun hend => hpadding ⟨hpadded.1, hpadded.2, hend⟩)
      · exact Nat.le_of_not_lt hpayload
    · rw [acceptsItem_dataBlocks harea]
      simp only [not_and, not_or, ne_eq, Classical.not_not] at hform
      exact hform hcode

end Items

theorem payload_model (location : Location) : Histories.payload location.model = payload location.range := by
  refine List.map_congr_left fun index _ => ?_
  exact UInt8.toNat_inj.mp (by simp [Location.model, MemoryRange.model])

/-- The model writes the oracle's payloads. -/
theorem writeItems_model (locations : List Location) :
    (locations.map Location.model).toArray.map (fun location =>
      ({ range := location.range, payload := Histories.payload location } : S7.WriteItem)) =
        ((locations.map (·.range)).map writeItem).toArray := by
  simp only [List.map_toArray, List.map_map, Function.comp_def, payload_model]
  rfl

/-- A request has one to twenty items. -/
theorem length_of_request {reference : Bounded 65535} {items : List MemoryRange} {write : Bool}
    {encoded : Bytes} (h : request reference items write = some encoded) : 0 < items.length ∧ items.length ≤ 20 := by
  unfold request at h
  split at h
  · cases h
  · rename_i hcount
    simp only [Bool.or_eq_true, List.isEmpty_iff, decide_eq_true_eq, not_or, Nat.not_lt] at hcount
    exact ⟨List.length_pos_iff.mpr hcount.1, hcount.2⟩

/-- A read of one item is encoded unless the item is refused. -/
theorem request_single (reference : Bounded 65535) (item : MemoryRange) :
    request reference [item] false = none ↔ item.refused false := by
  unfold request
  simp

/-! ### Names -/

theorem lifecycleText_eq (state : Lifecycle.State) : lifecycleText state = Histories.stateName state := by
  cases state <;> rfl

/-- The oracles and the client name the kinds alike. -/
theorem errorKind_eq_ok {name : String} {kind : ClientErrorKind} :
    errorKind name = .ok kind ↔ Histories.kindName kind = name := by
  constructor
  · intro h
    unfold errorKind at h
    split at h
    · rename_i entry hfound
      cases h
      have hname : entry.1 = name := by simpa using List.find?_some hfound
      have hmem := List.mem_of_find?_eq_some hfound
      simp only [kinds, List.mem_cons, List.not_mem_nil, or_false] at hmem
      rcases hmem with rfl | rfl | rfl | rfl | rfl | rfl | rfl | rfl <;> exact hname
    · cases h
  · rintro rfl
    cases kind <;> rfl

/-! ### Retries -/

theorem transient_eq (kind : ClientErrorKind) : transient kind = isRetryableClientErrorKind kind := by
  cases kind <;> rfl

/-- The oracles' retry condition is the client's. -/
theorem retryEligible_iff (remaining : Nat) (lifecycle : Lifecycle.State) (kind : ClientErrorKind)
    (safety : RetrySafety) (allow : Bool) :
    retryEligible remaining (lifecycle == .closed) kind safety allow ↔
      lifecycle ≠ .closed ∧ remaining > 0 ∧ transient kind = true ∧ (safety = .readOnly ∨ allow = true) := by
  rw [retryEligible, transient_eq, retryPermitted, beq_eq_false_iff_ne, Bool.or_eq_true, beq_iff_eq]

/-! ### Attempts -/

def Outcome.model : Outcome → WriteAttemptOutcome
  | .pending => .pending
  | .replayedUnknown => .replayedUnknown
  | .globalRejected => .globalRejected
  | .success => .itemResult .success
  | .failure code => .itemResult (.failure code)

def Attempt.model (attempt : Attempt) : WriteAttempt :=
  { location := attempt.location.model, outcome := attempt.outcome.model }

def Progress.model (progress : Progress) : WriteProgress.State :=
  { history := (progress.history.map Attempt.model).reverse
    pending := (progress.pending.map Location.model).toArray }

theorem model_ofCode (code : UInt8) :
    (Outcome.ofCode code).model = .itemResult (S7.WriteItemResult.ofReturnCode code) := by
  unfold Outcome.ofCode S7.WriteItemResult.ofReturnCode
  by_cases h : code = 255
  · rw [if_pos h, if_pos (beq_iff_eq.mpr h)]
    rfl
  · rw [if_neg h, if_neg (mt beq_iff_eq.mp h)]
    rfl

theorem outcomeName_model (outcome : Outcome) : Histories.outcomeName outcome.model = outcome.text := by
  cases outcome <;> rfl

theorem locationJson_model (location : Location) :
    Histories.locationJson location.model = location.json := by
  simp only [Histories.locationJson, Histories.rangeJson, Location.model, MemoryRange.model, toNat_word]
  rfl

/-- The attempts are reported alike. -/
theorem attemptsJson_model (progress : Progress) :
    Histories.attemptsJson progress.model = progress.json := by
  have htrace : progress.model.trace.toList = progress.attempts.map Attempt.model := by
    simp [WriteProgress.State.trace, Progress.model, Progress.attempts, Attempt.model, Outcome.model,
      Function.comp_def]
  rw [Histories.attemptsJson, htrace, Progress.json, List.map_map]
  congr 2
  funext attempt
  simp only [Function.comp_apply, Attempt.model, locationJson_model, outcomeName_model]

/-- A batch is sent, on both sides, when none is pending. -/
theorem model_sent (progress : Progress) {locations : List Location} (h : locations ≠ []) :
    (progress.model.sent (locations.map Location.model).toArray).toOption =
      if progress.pending = [] then some ({ progress with pending := locations } : Progress).model else none := by
  have hguard : (!progress.model.pending.isEmpty || (locations.map Location.model).toArray.isEmpty) = true ↔
      progress.pending ≠ [] := by
    simp [Progress.model, h]
  unfold WriteProgress.State.sent
  by_cases hpending : progress.pending = []
  · rw [if_pos hpending, if_neg (mt hguard.mp (not_not_intro hpending))]
    rfl
  · rw [if_neg hpending, if_pos (hguard.mpr hpending)]
    rfl

theorem model_finishAll (progress : Progress) (outcome : Outcome) :
    (progress.finishAll outcome).model = progress.model.finish outcome.model := by
  simp [Progress.finishAll, Progress.model, WriteProgress.State.finish, Attempt.model, Function.comp_def]

/-- Status bytes for all that is pending: accepted on both sides, with the same
attempts. -/
theorem model_finish (progress : Progress) (codes : List UInt8)
    (hlength : codes.length = progress.pending.length) :
    ∃ next, progress.finish (codes.map Outcome.ofCode) = .ok next ∧ next.pending = [] ∧
      progress.model.acknowledge (codes.map S7.WriteItemResult.ofReturnCode).toArray = .ok next.model := by
  unfold Progress.finish WriteProgress.State.acknowledge
  refine ⟨_, if_pos (by simp [hlength]), rfl, ?_⟩
  rw [if_neg (by simp [Progress.model, hlength])]
  simp [Progress.model, Attempt.model, List.zip_map, List.map_zip_eq_zipWith, List.zipWith_map_right,
    model_ofCode]

end ClassicS7.Oracle
