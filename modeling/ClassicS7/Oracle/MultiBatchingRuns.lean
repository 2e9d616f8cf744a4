import ClassicS7.Oracle.MultiBatching
import ClassicS7.Oracle.Requests

/-! Runs over many batches.

The plan of the client and the budget of the peer cut what is pending alike, so each
request is the one that the peer expects, and each result is the one that it gives. -/
namespace ClassicS7.Oracle.MultiBatching
open Effect MultiBatchingIntegration
open Checks (bind_ok guard_ok)

/-! ### Budgets -/

/-- What the scenario is run with: items that fit a request each, in three batches or more. -/
structure Fixture (pduLength itemCount itemSize : Nat) : Prop where
  pdu : 240 ≤ pduLength ∧ pduLength ≤ 1021
  size : 0 < itemSize ∧ 28 + itemSize + itemSize % 2 ≤ pduLength
  count : 41 ≤ itemCount ∧ itemCount ≤ 256

section Budgets
variable {pduLength itemCount itemSize completed : Nat} (fixture : Fixture pduLength itemCount itemSize)
include fixture

theorem Fixture.small {count : Nat} (hcount : completed + count ≤ itemCount) :
    Small itemSize (List.range' completed count) := by
  have hpdu := fixture.pdu
  have hsize := fixture.size
  have htotal := fixture.count
  refine ⟨by omega, fun index hindex => ?_⟩
  rw [List.mem_range'_1] at hindex
  omega

/-- A batch is not empty before the last item, and ends with it at the latest. -/
theorem Fixture.expected_bounds (function : Nat) (hmore : completed < itemCount) :
    0 < expected function pduLength itemCount completed itemSize ∧
      expected function pduLength itemCount completed itemSize ≤ 20 ∧
      completed + expected function pduLength itemCount completed itemSize ≤ itemCount := by
  have hpdu := fixture.pdu
  have hsize := fixture.size
  have hwrite : 1 ≤ (pduLength - 12) / (16 + itemSize + itemSize % 2) :=
    (Nat.le_div_iff_mul_le (by omega)).mpr (by omega)
  have hread : 1 ≤ (pduLength - 14) / (4 + itemSize + itemSize % 2) :=
    (Nat.le_div_iff_mul_le (by omega)).mpr (by omega)
  have haddress : 1 ≤ (pduLength - 12) / 12 := by omega
  unfold expected
  generalize (pduLength - 12) / (16 + itemSize + itemSize % 2) = first at hwrite ⊢
  generalize (pduLength - 14) / (4 + itemSize + itemSize % 2) = second at hread ⊢
  generalize (pduLength - 12) / 12 = third at haddress ⊢
  split <;> omega

/-- The room that the items of a read take. -/
theorem Fixture.read_fits (completed : Nat) : 12 + expected 4 pduLength itemCount completed itemSize * 12 ≤ pduLength ∧
    14 + expected 4 pduLength itemCount completed itemSize * (4 + itemSize + itemSize % 2) ≤ pduLength := by
  have hpdu := fixture.pdu
  have hsize := fixture.size
  have hfirst : expected 4 pduLength itemCount completed itemSize ≤ (pduLength - 12) / 12 := by
    rw [expected, if_neg (by decide)]
    omega
  have hsecond : expected 4 pduLength itemCount completed itemSize ≤
      (pduLength - 14) / (4 + itemSize + itemSize % 2) := by
    rw [expected, if_neg (by decide)]
    exact Nat.min_le_right _ _
  have hrequest := (Nat.le_div_iff_mul_le (by decide)).mp hfirst
  have hresponse := (Nat.le_div_iff_mul_le (by omega)).mp hsecond
  omega

/-- The room that the items of a write take. -/
theorem Fixture.write_fits (completed : Nat) :
    12 + expected 5 pduLength itemCount completed itemSize * (16 + itemSize + itemSize % 2) ≤ pduLength := by
  have hpdu := fixture.pdu
  have hfirst : expected 5 pduLength itemCount completed itemSize ≤
      (pduLength - 12) / (16 + itemSize + itemSize % 2) := by
    rw [expected, if_pos rfl]
    exact Nat.min_le_right _ _
  have hrequest := (Nat.le_div_iff_mul_le (by omega)).mp hfirst
  omega

end Budgets

/-! ### Plans -/

section Plans
variable {pduLength itemCount itemSize completed : Nat} (fixture : Fixture pduLength itemCount itemSize)

/-- A prefix of what is pending, by its length. -/
theorem split_range' {α : Type} {f : Nat → α} {taken rest : List α} {start total count : Nat}
    (h : taken ++ rest = (List.range' start total).map f) (hcount : taken.length = count) :
    taken = (List.range' start count).map f ∧ rest = (List.range' (start + count) (total - count)).map f := by
  have htotal : count ≤ total := by
    have hlength := congrArg List.length h
    rw [List.length_append, List.length_map, List.length_range'] at hlength
    omega
  have hsplit : List.range' start total = List.range' start count ++ List.range' (start + count) (total - count) := by
    rw [List.range'_append_1, Nat.add_sub_cancel' htotal]
  rw [hsplit, List.map_append] at h
  exact List.append_inj h (by rw [hcount, List.length_map, List.length_range'])

/-- What is pending, by how far the batches have come: something before the last item, and
nothing after it. -/
theorem pending_cases {α : Type} {f : Nat → α} {pending : List α} (hcompleted : completed ≤ itemCount)
    (hpending : pending = (List.range' completed (itemCount - completed)).map f) :
    pending = [] ∧ completed = itemCount ∨ (∃ first rest, pending = first :: rest) ∧ completed < itemCount := by
  obtain hlast | hmore := Nat.eq_or_lt_of_le hcompleted
  · rw [hlast, Nat.sub_self] at hpending
    exact .inl ⟨hpending, hlast⟩
  · rw [show itemCount - completed = itemCount - completed - 1 + 1 by omega, List.range'_succ] at hpending
    exact .inr ⟨⟨_, _, hpending⟩, hmore⟩

/-- What a batch adds to the results. -/
theorem append_batch {β : Type} (f : Nat → β) (completed count : Nat) :
    ((List.range' 0 completed).map f).toArray ++ ((List.range' completed count).map f).toArray =
      ((List.range' 0 (completed + count)).map f).toArray := by
  have happend : List.range' 0 completed ++ List.range' (0 + completed) count = List.range' 0 (completed + count) :=
    List.range'_append_1
  rw [Nat.zero_add] at happend
  rw [List.append_toArray, ← List.map_append, happend]

include fixture

/-- **The batch that the client plans is as long as the peer expects.** -/
theorem planReadBatch_length :
    (planReadBatch pduLength ((List.range' completed (itemCount - completed)).map (range itemSize))).selected.length =
      expected 4 pduLength itemCount completed itemSize := by
  have hpdu := fixture.pdu
  have hsize := fixture.size
  have huniform : ∀ value ∈ (List.range' completed (itemCount - completed)).map (range itemSize),
      readCosts.admissible value = true ∧ readCosts.request value = 12 ∧
        readCosts.response value = 4 + itemSize + itemSize % 2 := by
    intro value hvalue
    obtain ⟨index, -, rfl⟩ := List.mem_map.mp hvalue
    have hlimit : MultiValidation.lengthLimit .dataBlocks = 8191 := rfl
    refine ⟨?_, rfl, ?_⟩
    · simp only [readCosts, range, MultiValidation.readLengthRepresentable, S7.Area.elementSize, hlimit,
        Bool.and_eq_true, decide_eq_true_eq]
      omega
    · simp only [readCosts, readResponseContribution, range, S7.Area.elementSize, Nat.mul_one]
  rw [Batching.length_take_uniform (BatchPlan.longest _) huniform (by decide) (by omega), List.length_map,
    List.length_range', expected, if_neg (by decide), S7.maxItemCount]
  omega

theorem planWriteBatch_length :
    (planWriteBatch pduLength ((List.range' completed (itemCount - completed)).map (item itemSize))).selected.length =
      expected 5 pduLength itemCount completed itemSize := by
  have hpdu := fixture.pdu
  have hsize := fixture.size
  have huniform : ∀ value ∈ (List.range' completed (itemCount - completed)).map (item itemSize),
      writeCosts.admissible value = true ∧ writeCosts.request value = 16 + itemSize + itemSize % 2 ∧
        writeCosts.response value = 1 := by
    intro value hvalue
    obtain ⟨index, -, rfl⟩ := List.mem_map.mp hvalue
    have hlimit : MultiValidation.lengthLimit .dataBlocks = 8191 := rfl
    refine ⟨?_, ?_, rfl⟩
    · simp only [writeCosts, item, range, MultiValidation.readLengthRepresentable, S7.Area.elementSize, hlimit,
        List.length_replicate, Nat.mul_one, beq_self_eq_true, Bool.and_eq_true, decide_eq_true_eq, and_true]
      omega
    · simp only [writeCosts, writeRequestContribution, item, List.length_replicate]
  rw [Batching.length_take_uniform (BatchPlan.longest _) huniform (by omega) (by decide), List.length_map,
    List.length_range', expected, if_pos rfl, S7.maxItemCount]
  omega

theorem planReadBatch_eq {pending : List S7.MemoryRange}
    (hpending : pending = (List.range' completed (itemCount - completed)).map (range itemSize)) :
    (planReadBatch pduLength pending).selected =
        (List.range' completed (expected 4 pduLength itemCount completed itemSize)).map (range itemSize) ∧
      (planReadBatch pduLength pending).remaining =
        (List.range' (completed + expected 4 pduLength itemCount completed itemSize)
          (itemCount - (completed + expected 4 pduLength itemCount completed itemSize))).map (range itemSize) := by
  subst hpending
  rw [← Nat.sub_sub]
  exact split_range' (BatchPlan.longest _).partition (planReadBatch_length fixture)

theorem planWriteBatch_eq {pending : List S7.WriteItem}
    (hpending : pending = (List.range' completed (itemCount - completed)).map (item itemSize)) :
    (planWriteBatch pduLength pending).selected =
        (List.range' completed (expected 5 pduLength itemCount completed itemSize)).map (item itemSize) ∧
      (planWriteBatch pduLength pending).remaining =
        (List.range' (completed + expected 5 pduLength itemCount completed itemSize)
          (itemCount - (completed + expected 5 pduLength itemCount completed itemSize))).map (item itemSize) := by
  subst hpending
  rw [← Nat.sub_sub]
  exact split_range' (BatchPlan.longest _).partition (planWriteBatch_length fixture)

end Plans

/-! ### A batch of the peer -/

section Batches
variable {itemSize itemCount completed : Nat} {pdu reference : UInt16} {content responseData request : Bytes}

/-- The parameters of the request for a batch, and of its response. -/
def batchParameters (function itemSize : Nat) (indices : List Nat) : Bytes :=
  [UInt8.ofNat function, UInt8.ofNat indices.length] ++ indices.flatMap (itemSpec itemSize)

def batchRequest (reference : UInt16) (function itemSize : Nat) (indices : List Nat) (content : Bytes) : Bytes :=
  packet 1 reference.toNat (batchParameters function itemSize indices) content

theorem length_batchParameters (function itemSize : Nat) (indices : List Nat) :
    (batchParameters function itemSize indices).length = 2 + 12 * indices.length := by
  rw [batchParameters, List.length_append, length_specs]
  rfl

theorem length_batchRequest (function : Nat) (indices : List Nat) :
    (batchRequest reference function itemSize indices content).length = 12 + 12 * indices.length + content.length := by
  rw [batchRequest, Sequence.length_packet, length_batchParameters]
  omega

theorem batchRequest_drop (function : Nat) (indices : List Nat) :
    (batchRequest reference function itemSize indices content).drop 12 =
      indices.flatMap (itemSpec itemSize) ++ content := rfl

theorem length_ackDataBytes (parameters : Bytes) :
    (S7.ackDataBytes reference parameters responseData).length = 12 + parameters.length + responseData.length := by
  simp only [S7.ackDataBytes, List.length_append, length_uint16BE, List.length_cons, List.length_nil]

/-- What the peer checks of a batch, once its items are found. -/
theorem serveBatch_ok {function dataOffset : Nat} (fixture : Fixture pdu.toNat itemCount itemSize)
    (hfunction : function = 4 ∧ content = [] ∨ function = 5) (hmore : completed < itemCount)
    (hrequest : request = batchRequest reference function itemSize
      (List.range' completed (expected function pdu.toNat itemCount completed itemSize)) content)
    (hfits : request.length ≤ pdu.toNat)
    (hitems : serveItems itemSize function completed (expected function pdu.toNat itemCount completed itemSize) request
      (List.range' 0 (expected function pdu.toNat itemCount completed itemSize))
      (12 + 12 * expected function pdu.toNat itemCount completed itemSize) [] = .ok (dataOffset, responseData))
    (hend : function = 5 → dataOffset = request.length) (hresponse : 14 + responseData.length ≤ pdu.toNat) :
    serveBatch pdu.toNat itemCount itemSize function completed request =
      .ok (expected function pdu.toNat itemCount completed itemSize, S7.ackDataBytes reference
        [UInt8.ofNat function, UInt8.ofNat (expected function pdu.toNat itemCount completed itemSize)] responseData) := by
  have hpdu := fixture.pdu
  obtain ⟨hpositive, hmost, -⟩ := fixture.expected_bounds function hmore
  generalize hcount : expected function pdu.toNat itemCount completed itemSize = count at *
  have hlength : request.length = 12 + 12 * count + content.length := by
    rw [hrequest, length_batchRequest, List.length_range']
  have hparameters : (batchParameters function itemSize (List.range' completed count)).length = 2 + 12 * count := by
    rw [length_batchParameters, List.length_range']
  have hreference := reference.toNat_lt
  have header : Sequence.Header request 1 reference.toNat 10 := by
    rw [hrequest]
    exact Sequence.packet_header (by omega) (by omega) (by omega)
  have hsize : wordAt request 6 = 2 + 12 * count := by
    rw [hrequest, ← hparameters]
    exact toNat_pack16 _ (by omega)
  have hdata : wordAt request 8 = content.length := by
    rw [hrequest]
    exact toNat_pack16 _ (by omega)
  have hkind : byteAt request 10 = function := by
    rw [hrequest]
    obtain ⟨rfl, -⟩ | rfl := hfunction <;> rfl
  have hwidth : byteAt request 11 = count := by
    rw [hrequest]
    show (UInt8.ofNat (List.range' completed count).length).toNat = count
    rw [List.length_range', UInt8.toNat_ofNat', Nat.mod_eq_of_lt (by omega)]
  have htake : request.take 2 = [0x32, 1] := by
    rw [hrequest]
    rfl
  have hack : Peer.ack (wordAt request 4) [UInt8.ofNat function, UInt8.ofNat count] responseData =
      .ok (S7.ackDataBytes reference [UInt8.ofNat function, UInt8.ofNat count] responseData) := by
    rw [header.reference]
    exact Peer.ack_eq_ok reference (show 2 ≤ 65535 by decide) (by omega)
  unfold serveBatch
  refine (guard_ok (not_or.mpr ⟨by omega, not_not_intro htake⟩)).trans ((guard_ok (by omega)).trans ?_)
  refine (guard_ok (not_not_intro header.extent)).trans ((guard_ok (by omega)).trans ?_)
  refine (guard_ok (not_not_intro hkind)).trans ((guard_ok ?_).trans ((guard_ok (by omega)).trans ?_))
  · rintro ⟨rfl, hnonempty⟩
    obtain ⟨-, rfl⟩ | hwrite := hfunction
    · exact hnonempty hdata
    · cases hwrite
  refine (guard_ok (not_or.mpr ⟨not_not_intro (hwidth.trans hcount.symm), ?_⟩)).trans ?_
  · rw [hsize, hwidth]
    exact not_not_intro rfl
  rw [hwidth, hsize, show 10 + (2 + 12 * count) = 12 + 12 * count by omega]
  refine (bind_ok hitems _).trans ((guard_ok fun h => h.2 (hend h.1)).trans ((bind_ok hack _).trans ?_))
  refine (guard_ok ?_).trans rfl
  rw [length_ackDataBytes]
  show ¬ 12 + 2 + responseData.length > pdu.toNat
  omega

theorem length_padding (itemSize : Nat) (rest : List Nat) : (padding itemSize rest).length ≤ itemSize % 2 := by
  unfold padding
  split
  · rw [List.length_singleton]
    omega
  · exact Nat.zero_le _

theorem length_writeData (itemSize : Nat) (indices : List Nat) :
    (writeData itemSize indices).length ≤ indices.length * (4 + itemSize + itemSize % 2) := by
  induction indices with
  | nil => exact Nat.zero_le _
  | cons index rest ih =>
    have hpadding := length_padding itemSize rest
    rw [writeData, List.length_append, List.length_append, length_itemData, List.length_cons, Nat.succ_mul]
    omega

theorem length_readReply (itemSize : Nat) (indices : List Nat) :
    (readReply itemSize indices).length ≤ indices.length * (4 + itemSize + itemSize % 2) := by
  induction indices with
  | nil => exact Nat.zero_le _
  | cons index rest ih =>
    have hpadding := length_padding itemSize rest
    rw [readReply, List.length_append, List.length_cons, Nat.succ_mul]
    split
    · show 4 + _ ≤ _
      omega
    · rw [List.length_append, length_itemData]
      omega

/-- The room of the items of a write is that of their addresses and their data. -/
theorem write_room (itemSize count : Nat) : count * (16 + itemSize + itemSize % 2) =
    12 * count + count * (4 + itemSize + itemSize % 2) := by
  rw [Nat.mul_comm 12, ← Nat.mul_add]
  congr 1
  omega

/-- The peer takes the planned batch of a read, and answers each of its items. -/
theorem serveBatch_read (reference : UInt16) (fixture : Fixture pdu.toNat itemCount itemSize)
    (hmore : completed < itemCount) {indices : List Nat}
    (hindices : indices = List.range' completed (expected 4 pdu.toNat itemCount completed itemSize)) :
    serveBatch pdu.toNat itemCount itemSize 4 completed (batchRequest reference 4 itemSize indices []) =
      .ok (indices.length, S7.ackDataBytes reference [4, UInt8.ofNat indices.length] (readReply itemSize indices)) := by
  obtain ⟨hrequest, hresponse⟩ := fixture.read_fits completed
  obtain ⟨-, -, hlast⟩ := fixture.expected_bounds 4 hmore
  have hreply := length_readReply itemSize indices
  subst hindices
  rw [List.length_range'] at hreply ⊢
  refine serveBatch_ok fixture (.inl ⟨rfl, rfl⟩) hmore rfl ?_ (serveItems_read (fixture.small hlast) (Nat.zero_add _)
    (batchRequest_drop 4 _)) (fun h => by cases h) ?_
  · rw [length_batchRequest, List.length_range', List.length_nil]
    omega
  · show 14 + (readReply itemSize _).length ≤ pdu.toNat
    omega

/-- The peer takes the planned batch of a write, and sets a status for each of its items. -/
theorem serveBatch_write (reference : UInt16) (fixture : Fixture pdu.toNat itemCount itemSize)
    (hmore : completed < itemCount) {indices : List Nat}
    (hindices : indices = List.range' completed (expected 5 pdu.toNat itemCount completed itemSize)) :
    serveBatch pdu.toNat itemCount itemSize 5 completed
        (batchRequest reference 5 itemSize indices (writeData itemSize indices)) =
      .ok (indices.length, S7.ackDataBytes reference [5, UInt8.ofNat indices.length] (indices.map status)) := by
  have hpdu := fixture.pdu
  have hfits := fixture.write_fits completed
  obtain ⟨-, hmost, hlast⟩ := fixture.expected_bounds 5 hmore
  have hdata := length_writeData itemSize indices
  have hlength : (batchRequest reference 5 itemSize indices (writeData itemSize indices)).length =
      12 + 12 * indices.length + (writeData itemSize indices).length := length_batchRequest 5 indices
  have hrest : (batchRequest reference 5 itemSize indices (writeData itemSize indices)).drop
      (12 + 12 * indices.length) = writeData itemSize indices :=
    drop_of_drop (batchRequest_drop 5 _) (by rw [length_specs])
  subst hindices
  rw [List.length_range'] at hdata hlength hrest ⊢
  have hsplit := write_room itemSize (expected 5 pdu.toNat itemCount completed itemSize)
  refine serveBatch_ok fixture (.inr rfl) hmore rfl ?_ (serveItems_write (fixture.small hlast) (Nat.zero_add _)
    (batchRequest_drop 5 _) hrest ?_) (fun _ => rfl) ?_
  · omega
  · omega
  · show 14 + (List.map status _).length ≤ pdu.toNat
    rw [List.length_map, List.length_range']
    omega

/-- After the last item, the batches that there were are enough. -/
theorem serveBatches_done {function batches : Nat} (rounds : Nat) (fixture : Fixture pdu.toNat itemCount itemSize)
    (hbatches : itemCount ≤ 20 * batches) :
    serveBatches pdu.toNat itemCount itemSize function rounds itemCount batches = .finished () := by
  have hcount := fixture.count
  rw [serveBatches.eq_def, if_neg (Nat.lt_irrefl _), if_neg (by omega)]

/-- The peer answers a batch, and goes on with the next one. -/
theorem serveBatches_answers {α : Type} (p : Dialogue α) {function count : Nat} (rounds batches : Nat)
    {parameters : Bytes} (hmore : completed < itemCount)
    (hbatch : serveBatch pdu.toNat itemCount itemSize function completed request =
      .ok (count, S7.ackDataBytes reference parameters responseData))
    (hpdu : pdu.toNat ≤ 1021) (hrequest : request.length ≤ pdu.toNat)
    (hresponse : 12 + parameters.length + responseData.length ≤ pdu.toNat) :
    ∃ answer, (serveBatches pdu.toNat itemCount itemSize function (rounds + 1) completed batches >>= fun _ => p) =
        Peer.request >>= answer ∧
      Answers answer request ⟨S7.ackDataType, reference, parameters, responseData, 0, 0⟩ pdu
        (serveBatches pdu.toNat itemCount itemSize function rounds (completed + count) (batches + 1) >>= fun _ => p) := by
  have hlength : (S7.ackDataBytes reference parameters responseData).length = _ := length_ackDataBytes parameters
  rw [serveBatches, if_pos hmore]
  refine ⟨_, bind_assoc _ _ _, by omega, _, ?_, S7.decodeResponse_ackDataBytes reference ?_ ?_, by omega, by omega⟩
  · rw [hbatch]
    show ((Peer.send _ >>= fun _ => serveBatches _ _ _ _ _ _ _) >>= fun _ => p) = _
    rw [bind_assoc]
  · rw [S7.maxSectionSize]
    omega
  · rw [S7.maxSectionSize]
    omega

end Batches

/-! ### A batch of the client -/

section Encoders
variable {itemSize : Nat} {indices : List Nat} (reference : UInt16)

theorem encodeAreaReadMany_ok (small : Small itemSize indices) (hcount : 0 < indices.length ∧ indices.length ≤ 20) :
    S7.encodeAreaReadMany reference (indices.map (range itemSize)).toArray =
      .ok (batchRequest reference 4 itemSize indices []) := by
  have hsize : (indices.map (range itemSize)).toArray.size = indices.length := by simp
  have hparameters : (batchParameters 4 itemSize indices).length ≤ 65535 := by
    rw [length_batchParameters]
    omega
  unfold S7.encodeAreaReadMany
  refine (guard_ok (S7.itemCount_ok (hsize ▸ hcount))).trans ((bind_ok (encodeReadAddresses_ok small) _).trans ?_)
  rw [hsize]
  exact encodeJob_ok reference hparameters (Nat.zero_le _)

theorem encodeAreaWriteMany_ok (small : Small itemSize indices) (hcount : 0 < indices.length ∧ indices.length ≤ 20)
    (hdata : (writeData itemSize indices).length ≤ 65535) :
    S7.encodeAreaWriteMany reference (indices.map (item itemSize)).toArray =
      .ok (batchRequest reference 5 itemSize indices (writeData itemSize indices)) := by
  have hsize : (indices.map (item itemSize)).toArray.size = indices.length := by simp
  have hparameters : (batchParameters 5 itemSize indices).length ≤ 65535 := by
    rw [length_batchParameters]
    omega
  unfold S7.encodeAreaWriteMany
  refine (guard_ok (S7.itemCount_ok (hsize ▸ hcount))).trans ((bind_ok (encodeWriteSections_ok small) _).trans ?_)
  dsimp only
  rw [hsize]
  exact encodeJob_ok reference hparameters hdata

theorem decodeAreaReadMany_ok (small : Small itemSize indices) (hcount : 0 < indices.length ∧ indices.length ≤ 20) :
    S7.decodeAreaReadMany reference (indices.map (range itemSize)).toArray
        ⟨S7.ackDataType, reference, [4, UInt8.ofNat indices.length], readReply itemSize indices, 0, 0⟩ =
      .ok (indices.map (expectedRead itemSize)).toArray := by
  have hsize : (indices.map (range itemSize)).toArray.size = indices.length := by simp
  refine (S7.decodeAreaReadMany_eq_ok (by omega) (by rw [S7.maxItemCount]; omega)).mpr ⟨?_, ?_⟩
  · rw [hsize]
    exact S7.itemParameters_eq_accepted.mpr ⟨rfl, ⟨rfl, rfl⟩, rfl⟩
  · rw [List.toList_toArray]
    exact readItems_readReply small (Nat.zero_le _) rfl

theorem decodeAreaWriteMany_ok (hcount : 0 < indices.length ∧ indices.length ≤ 20) :
    S7.decodeAreaWriteMany reference (indices.map (item itemSize)).toArray.size
        ⟨S7.ackDataType, reference, [5, UInt8.ofNat indices.length], indices.map status, 0, 0⟩ =
      .ok (indices.map expectedWrite).toArray := by
  have hsize : (indices.map (item itemSize)).toArray.size = indices.length := by simp
  rw [hsize]
  refine (S7.decodeAreaWriteMany_eq_ok hcount.1 hcount.2).mpr ⟨?_, List.length_map _, ?_⟩
  · exact S7.itemParameters_eq_accepted.mpr ⟨rfl, ⟨rfl, rfl⟩, rfl⟩
  · rw [List.toList_toArray, List.map_map]
    exact List.map_congr_left fun index _ => (ofReturnCode_status index).symm

end Encoders

section Transfers
variable {W Socket α : Type} {native : Transport.Native W Socket} {socket : Socket} {view : View W α}
  {start patience : Nat} {deadline : Option Nat} {config : ClientConfig} {pdu : UInt16} {live : Live W Socket}
  {itemCount itemSize completed batches retries rounds : Nat} {p : Dialogue α}
  (link : Link native socket view start patience) (hample : Ample start patience deadline)
  (hoperation : Outlasts patience config.operationTimeoutMs) (fixture : Fixture pdu.toNat itemCount itemSize)
include link hample hoperation fixture

theorem ends_readMultiBatch (hmore : completed < itemCount) {indices : List Nat}
    (hindices : indices = List.range' completed (expected 4 pdu.toNat itemCount completed itemSize))
    (talking : Talking socket view pdu
      (serveBatches pdu.toNat itemCount itemSize 4 (rounds + 1) completed batches >>= fun _ => p) live) :
    Ends (readMultiBatch (Transport.network native) config (indices.map (range itemSize)).toArray deadline retries) live
      (fun results live' => results = (indices.map (expectedRead itemSize)).toArray ∧
        Talking socket view pdu (serveBatches pdu.toNat itemCount itemSize 4 rounds
          (completed + expected 4 pdu.toNat itemCount completed itemSize) (batches + 1) >>= fun _ => p) live')
      fun _ _ => False := by
  have hpdu := fixture.pdu
  have hbounds := fixture.expected_bounds 4 hmore
  have hfits := fixture.read_fits completed
  have small : Small itemSize indices := hindices ▸ fixture.small hbounds.2.2
  have hcount : indices.length = expected 4 pdu.toNat itemCount completed itemSize := by
    rw [hindices, List.length_range']
  have hreply := length_readReply itemSize indices
  rw [hcount] at hreply
  have hwithin : 0 < indices.length ∧ indices.length ≤ 20 := by omega
  unfold readMultiBatch
  refine ends_bind.mpr (ends_freshReference.mpr ?_)
  generalize live.session.nextReference = reference
  have hlength : (batchRequest reference 4 itemSize indices []).length = 12 + 12 * indices.length :=
    length_batchRequest 4 indices
  have hbatch := serveBatch_read reference fixture hmore hindices
  obtain ⟨answer, hpeer, answers⟩ := serveBatches_answers p rounds batches hmore hbatch
    hpdu.2 (by omega) (show 12 + 2 + _ ≤ pdu.toNat by omega)
  rw [encodeAreaReadMany_ok reference small hwithin]
  refine ends_bind.mpr (ends_pure.mpr (ends_bind.mpr (ends_negotiatedPduLength.mpr ?_)))
  dsimp only
  have hpduLength := talking.pduLength
  refine ends_guard.mpr ⟨fun h => ?_, fun _ => ?_⟩
  · rw [hlength, hpduLength] at h
    omega
  refine (link.exchangeRead hample hoperation (talking.numbered hpeer _) answers rfl).bind ?_
  rintro _ live₁ ⟨rfl, talking₁⟩
  rw [decodeAreaReadMany_ok reference small hwithin]
  exact ⟨rfl, hcount ▸ talking₁⟩

theorem ends_writeMultiBatch (hmore : completed < itemCount) {indices : List Nat} (firstItemIndex : Nat)
    (hindices : indices = List.range' completed (expected 5 pdu.toNat itemCount completed itemSize))
    (talking : Talking socket view pdu
      (serveBatches pdu.toNat itemCount itemSize 5 (rounds + 1) completed batches >>= fun _ => p) live) :
    Ends (writeMultiBatch (Transport.network native) config (indices.map (item itemSize)).toArray deadline retries
        firstItemIndex) live
      (fun results live' => results = (indices.map expectedWrite).toArray ∧
        Talking socket view pdu (serveBatches pdu.toNat itemCount itemSize 5 rounds
          (completed + expected 5 pdu.toNat itemCount completed itemSize) (batches + 1) >>= fun _ => p) live')
      fun _ _ => False := by
  have hpdu := fixture.pdu
  have hbounds := fixture.expected_bounds 5 hmore
  have hfits := fixture.write_fits completed
  have small : Small itemSize indices := hindices ▸ fixture.small hbounds.2.2
  have hcount : indices.length = expected 5 pdu.toNat itemCount completed itemSize := by
    rw [hindices, List.length_range']
  have hdata := length_writeData itemSize indices
  rw [← hcount, write_room] at hfits
  have hwithin : 0 < indices.length ∧ indices.length ≤ 20 := by omega
  have hconnected : (live.session.state == .connected) = true := by
    rw [talking.state]
    rfl
  unfold writeMultiBatch
  refine ends_bind.mpr (ends_freshReference.mpr ?_)
  generalize live.session.nextReference = reference
  have hlength : (batchRequest reference 5 itemSize indices (writeData itemSize indices)).length =
      12 + 12 * indices.length + (writeData itemSize indices).length := length_batchRequest 5 indices
  have hbatch := serveBatch_write reference fixture hmore hindices
  obtain ⟨answer, hpeer, answers⟩ := serveBatches_answers p rounds batches hmore hbatch
    hpdu.2 (by omega) (by rw [List.length_map]; show 12 + 2 + _ ≤ pdu.toNat; omega)
  rw [encodeAreaWriteMany_ok reference small hwithin (by omega)]
  refine ends_bind.mpr (ends_pure.mpr (ends_bind.mpr (ends_negotiatedPduLength.mpr ?_)))
  dsimp only
  have hpduLength := talking.pduLength
  refine ends_guard.mpr ⟨fun h => ?_, fun _ => ?_⟩
  · rw [hlength, hpduLength] at h
    omega
  have talking₀ := talking.numbered hpeer (Correlation.nextReference reference)
  refine (link.checks hample talking₀.peer).bind fun _ live₁ h₁ => ends_bind.mpr (ends_isConnected.mpr ?_)
  dsimp only at h₁
  rw [h₁.1, hconnected]
  have talking₁ := talking₀.carried h₁.1 h₁.2
  generalize hlocations : (indices.map (item itemSize)).toArray.mapIdx _ = locations
  have hwidth : locations.size = indices.length := by simp [← hlocations]
  have hsome : locations ≠ #[] := by
    intro hnone
    rw [hnone] at hwidth
    exact absurd hwithin.1 (by rw [← hwidth]; decide)
  refine (link.exchangeWrite hample hoperation talking₁ answers rfl hsome).bind ?_
  rintro _ live₂ ⟨rfl, hacknowledge⟩
  rw [decodeAreaWriteMany_ok reference hwithin]
  refine ends_bind.mpr (ends_pure.mpr ((hacknowledge _ ?_).bind fun _ live₃ talking₃ => ?_))
  · simp [hwidth]
  · exact ⟨rfl, hcount ▸ talking₃⟩

/-- The client and the peer go through what is left of a read together. -/
theorem ends_readMultiLoop (hcompleted : completed ≤ itemCount) (hbatches : completed ≤ 20 * batches)
    (hrounds : itemCount ≤ completed + rounds)
    {pending : List S7.MemoryRange}
    (hpending : pending = (List.range' completed (itemCount - completed)).map (range itemSize))
    {results : Array S7.ReadItemResult}
    (hresults : results = ((List.range' 0 completed).map (expectedRead itemSize)).toArray)
    (talking : Talking socket view pdu
      (serveBatches pdu.toNat itemCount itemSize 4 rounds completed batches >>= fun _ => p) live) :
    Ends (readMultiLoop (Transport.network native) config deadline pending results retries) live
      (fun results live' => results = ((List.range' 0 itemCount).map (expectedRead itemSize)).toArray ∧
        Talking socket view pdu p live') fun _ _ => False := by
  induction hleft : itemCount - completed using Nat.strongRecOn
    generalizing completed batches rounds pending results retries live with
  | ind left ih =>
    have hplan := planReadBatch_eq fixture hpending
    obtain ⟨rfl, rfl⟩ | ⟨⟨first, rest, rfl⟩, hmore⟩ := pending_cases hcompleted hpending
    · rw [serveBatches_done rounds fixture hbatches] at talking
      rw [readMultiLoop]
      exact ⟨hresults, talking⟩
    · obtain ⟨hpositive, hmost, hlast⟩ := fixture.expected_bounds 4 hmore
      obtain ⟨hselected, hremaining⟩ := hplan
      obtain ⟨rounds, rfl⟩ : ∃ further, rounds = further + 1 := ⟨rounds - 1, by omega⟩
      rw [readMultiLoop]
      refine ends_bind.mpr (ends_negotiatedPduLength.mpr ?_)
      rw [talking.pduLength]
      refine ends_dite.mpr ⟨fun hempty => ?_, fun _ => ?_⟩
      · rw [hselected, List.isEmpty_iff, List.map_eq_nil_iff, List.range'_eq_nil_iff] at hempty
        omega
      · rw [hselected]
        refine (ends_readMultiBatch link hample hoperation fixture hmore rfl talking).bind ?_
        rintro _ live₁ ⟨rfl, talking₁⟩
        refine ih _ ?_ hlast ?_ ?_ hremaining ?_ talking₁ rfl
        · omega
        · omega
        · omega
        · rw [hresults, append_batch]

/-- The client and the peer go through what is left of a write together. -/
theorem ends_writeMultiLoop (hcompleted : completed ≤ itemCount) (hbatches : completed ≤ 20 * batches)
    (hrounds : itemCount ≤ completed + rounds)
    {pending : List S7.WriteItem}
    (hpending : pending = (List.range' completed (itemCount - completed)).map (item itemSize))
    {results : Array S7.WriteItemResult} (hresults : results = ((List.range' 0 completed).map expectedWrite).toArray)
    (talking : Talking socket view pdu
      (serveBatches pdu.toNat itemCount itemSize 5 rounds completed batches >>= fun _ => p) live) :
    Ends (writeMultiLoop (Transport.network native) config deadline pending results retries) live
      (fun results live' => results = ((List.range' 0 itemCount).map expectedWrite).toArray ∧
        Talking socket view pdu p live') fun _ _ => False := by
  induction hleft : itemCount - completed using Nat.strongRecOn
    generalizing completed batches rounds pending results retries live with
  | ind left ih =>
    have hplan := planWriteBatch_eq fixture hpending
    obtain ⟨rfl, rfl⟩ | ⟨⟨first, rest, rfl⟩, hmore⟩ := pending_cases hcompleted hpending
    · rw [serveBatches_done rounds fixture hbatches] at talking
      rw [writeMultiLoop]
      exact ⟨hresults, talking⟩
    · obtain ⟨hpositive, hmost, hlast⟩ := fixture.expected_bounds 5 hmore
      obtain ⟨hselected, hremaining⟩ := hplan
      obtain ⟨rounds, rfl⟩ : ∃ further, rounds = further + 1 := ⟨rounds - 1, by omega⟩
      rw [writeMultiLoop]
      refine ends_bind.mpr (ends_negotiatedPduLength.mpr ?_)
      rw [talking.pduLength]
      refine ends_dite.mpr ⟨fun hempty => ?_, fun _ => ?_⟩
      · rw [hselected, List.isEmpty_iff, List.map_eq_nil_iff, List.range'_eq_nil_iff] at hempty
        omega
      · rw [hselected]
        refine (ends_writeMultiBatch link hample hoperation fixture hmore _ rfl talking).bind ?_
        rintro _ live₁ ⟨rfl, talking₁⟩
        refine ih _ ?_ hlast ?_ ?_ hremaining ?_ talking₁ rfl
        · omega
        · omega
        · omega
        · rw [hresults, append_batch]

end Transfers

/-! ### The whole conversation -/

section Calls
variable {W Socket α : Type} {native : Transport.Native W Socket} {socket : Socket} {view : View W α}
  {start patience : Nat} {config : ClientConfig} {pdu : UInt16} {live : Live W Socket}
  {itemCount itemSize rounds : Nat} {p : Dialogue α}

theorem require_true {W : Type} {condition : Bool} (h : condition = true) (message : String) :
    (require condition message : Program W Unit) = pure () := if_pos h

theorem ranges_eq (count size : Nat) : ranges count size = ((List.range' 0 count).map (range size)).toArray := by
  refine Array.toList_inj.mp ?_
  rw [ranges, Array.toList_map, Array.toList_range, List.range_eq_range']
  rfl

theorem items_eq (count size : Nat) : items count size = ((List.range' 0 count).map (item size)).toArray := by
  refine Array.ext (by simp [items, ranges]) fun index h h' => ?_
  simp [items, ranges, item, range]

section Checks
variable {pduLength : Nat} (fixture : Fixture pduLength itemCount itemSize)
include fixture

/-- The checks of the client pass every item. -/
theorem range_ok {index : Nat} (hindex : index < itemCount) :
    MultiValidation.range (range itemSize index) = .ok () := by
  have hpdu := fixture.pdu
  have hsize := fixture.size
  have hcount := fixture.count
  exact MultiValidation.range_dataBlocks hsize.1 (by omega)

theorem write_ok {index : Nat} (hindex : index < itemCount) :
    MultiValidation.write pduLength (item itemSize index) = .ok () := by
  have hpdu := fixture.pdu
  have hlimit : MultiValidation.lengthLimit .dataBlocks = 8191 := rfl
  have hmaximum : ¬ MultiValidation.writeMaximum pduLength (item itemSize index).range.area = 0 := by
    show ¬ MultiValidation.writeMaximum pduLength .dataBlocks = 0
    rw [MultiValidation.writeMaximum, hlimit, show (S7.Area.dataBlocks).elementSize = 1 from rfl, S7.maxSectionSize]
    omega
  have hpayload : (item itemSize index).payload.length = (item itemSize index).range.count * 1 := by
    rw [Nat.mul_one]
    exact List.length_replicate
  unfold MultiValidation.write
  have hfits : MultiValidation.writeFits pduLength (item itemSize index).range = .ok () := rfl
  refine (bind_ok (range_ok fixture hindex) _).trans ((bind_ok hfits _).trans ?_)
  refine (guard_ok ?_).trans (if_neg hmaximum)
  rw [bne_iff_ne]
  exact not_not_intro hpayload

end Checks

variable (link : Link native socket view start patience) (hoperation : Outlasts patience config.operationTimeoutMs)
  (htransfer : Outlasts patience config.transferReceiveTimeoutMs) (fixture : Fixture pdu.toNat itemCount itemSize)
include link hoperation htransfer fixture

theorem ends_readMulti (hrounds : itemCount ≤ rounds)
    (talking : Talking socket view pdu (serveBatches pdu.toNat itemCount itemSize 4 rounds >>= fun _ => p) live) :
    Ends (readMulti (Transport.network native) config (ranges itemCount itemSize)) live
      (fun results live' => results = ((List.range' 0 itemCount).map (expectedRead itemSize)).toArray ∧
        Talking socket view pdu p live') fun _ _ => False := by
  have hranges : ∀ value ∈ (List.range' 0 itemCount).map (range itemSize),
      (inputOrThrow (MultiValidation.range value) : Program (Live W Socket) Unit) = pure () := by
    intro value hvalue
    obtain ⟨index, hindex, rfl⟩ := List.mem_map.mp hvalue
    rw [List.mem_range'_1] at hindex
    rw [range_ok fixture (by omega)]
    rfl
  have hfits (pduLength : UInt16) : ∀ value ∈ (List.range' 0 itemCount).map (range itemSize),
      (inputOrThrow (MultiValidation.readFits pduLength.toNat value) : Program (Live W Socket) Unit) = pure () := by
    intro value hvalue
    obtain ⟨index, -, rfl⟩ := List.mem_map.mp hvalue
    rfl
  unfold readMulti
  rw [ranges_eq, List.toList_toArray, forM_pure _ hranges, pure_bind]
  refine ends_bind.mpr (ends_negotiatedPduLength.mpr ?_)
  rw [forM_pure _ (hfits _), pure_bind]
  refine (link.budgets htransfer talking.peer).bind fun deadline live₁ h₁ => Ends.unhandled ?_
  refine ends_readMultiLoop link h₁.2.1 hoperation fixture (Nat.zero_le _) (Nat.zero_le _) (by omega) rfl rfl
    (talking.carried h₁.1 h₁.2.2)

theorem ends_writeMulti (hrounds : itemCount ≤ rounds)
    (talking : Talking socket view pdu (serveBatches pdu.toNat itemCount itemSize 5 rounds >>= fun _ => p) live) :
    Ends (writeMulti (Transport.network native) config (items itemCount itemSize)) live
      (fun results live' => results = ((List.range' 0 itemCount).map expectedWrite).toArray ∧
        Talking socket view pdu p live') fun _ _ => False := by
  have hcount := fixture.count
  have hwrites : MultiValidation.writes live.session.currentPduLength.toNat (items itemCount itemSize) = .ok () := by
    rw [talking.pduLength, MultiValidation.writes, items_eq, List.toList_toArray]
    refine forM_pure _ fun value hvalue => ?_
    obtain ⟨index, hindex, rfl⟩ := List.mem_map.mp hvalue
    rw [List.mem_range'_1] at hindex
    exact write_ok fixture (by omega)
  have hsome : ¬ (items itemCount itemSize).isEmpty = true := by
    simp [items, ranges]
    omega
  unfold writeMulti writeMultiDetailed
  refine ends_bind.mpr (ends_bind.mpr (ends_modifySession.mpr (Ends.unhandled ?_)))
  rw [if_neg hsome]
  refine ends_bind.mpr (ends_negotiatedPduLength.mpr ?_)
  rw [hwrites]
  refine ends_bind.mpr (ends_pure.mpr ?_)
  refine (link.budgets htransfer talking.restarted.peer).bind fun deadline live₁ h₁ => ?_
  rw [items_eq, List.toList_toArray]
  refine (ends_writeMultiLoop link h₁.2.1 hoperation fixture (Nat.zero_le _) (Nat.zero_le _) (by omega) rfl rfl
    (talking.restarted.carried h₁.1 h₁.2.2)).bind ?_
  rintro _ live₂ ⟨rfl, talking₂⟩
  exact ⟨rfl, talking₂.restarted⟩

/-- A connected client finds no fault with the results, and leaves the peer at its end. -/
theorem ends_runTransfers {peer : Dialogue α} {last : Dialogue.Served α} (parts : Parts peer last)
    (hrounds : itemCount ≤ rounds)
    (talking : Talking socket view pdu (serveBatches pdu.toNat itemCount itemSize 5 rounds >>= fun _ =>
      serveBatches pdu.toNat itemCount itemSize 4 rounds >>= fun _ => peer) live) :
    Ends (runTransfers (Transport.network native) config pdu.toNat itemCount itemSize) live
      (fun _ live' => view.At live'.world last) fun _ _ => False := by
  refine Ends.unhandled (ends_bind.mpr (ends_negotiatedPduLength.mpr ?_))
  rw [require_true (by rw [talking.pduLength]; exact beq_self_eq_true _), pure_bind]
  refine (ends_writeMulti link hoperation htransfer fixture hrounds talking).bind ?_
  rintro _ live₁ ⟨rfl, talking₁⟩
  refine (ends_readMulti link hoperation htransfer fixture hrounds talking₁).bind ?_
  rintro _ live₂ ⟨rfl, talking₂⟩
  rw [require_true (by simp), pure_bind, forM_pure, pure_bind]
  · exact (link.disconnect hoperation parts talking₂).mono (fun _ _ h => h.2) fun _ _ h => h
  · intro index hindex
    rw [List.mem_range] at hindex
    refine require_true ?_ _
    simp [hindex]

end Calls

/-- A setup of the client is granted its PDU length. -/
theorem answerSetup_eq_send {pdu : UInt16} {setup : Bytes} (hsetup : S7.encodeSetupCommunication 1 = .ok setup) :
    answerSetup pdu.toNat setup =
      Peer.send ([2, 0xf0, 0x80] ++ S7.ackDataBytes 1 (S7.SetupCommunication.parameters ⟨1, 1, pdu⟩) []) := by
  have hpdu := pdu.toNat_lt
  have hack : Peer.ack 1 (S7.SetupCommunication.parameters ⟨1, 1, pdu⟩) =
      .ok (S7.ackDataBytes 1 (S7.SetupCommunication.parameters ⟨1, 1, pdu⟩) []) :=
    Peer.ack_eq_ok 1 (by simp [S7.SetupCommunication.parameters]) (Nat.zero_le _)
  obtain rfl : setup = [0x32, 1, 0, 0, 0, 1, 0, 8, 0, 0, 0xf0, 0, 0, 1, 0, 1, 1, 0xe0] := (Except.ok.inj hsetup).symm
  have hreference :
      fromBytes (slice ([0x32, 1, 0, 0, 0, 1, 0, 8, 0, 0, 0xf0, 0, 0, 1, 0, 1, 1, 0xe0] : Bytes) 4 6) = 1 := rfl
  have hparameters : [0xf0, 0, 0, 1, 0, 1] ++ pack16 pdu.toNat = S7.SetupCommunication.parameters ⟨1, 1, pdu⟩ := by
    have hcalls : uint16BE 1 = [0, 1] := rfl
    rw [S7.SetupCommunication.parameters, hcalls]
    rfl
  unfold answerSetup
  rw [if_neg (by decide), if_neg (by decide), if_neg (by omega), hreference, hparameters, hack]
  rfl

/-- The peer greets the client, and goes on with the writes. -/
theorem greets_serve (pdu : UInt16) (itemCount itemSize rounds : Nat) :
    Greets (serve pdu.toNat itemCount itemSize rounds) pdu
      (serveBatches pdu.toNat itemCount itemSize 5 rounds >>= fun _ =>
        serveBatches pdu.toNat itemCount itemSize 4 rounds >>= fun _ => disconnected) := by
  have hconfirm : [0x11, 0xd0] ++ slice (COTP.encodeConnectionRequest {}) 4 6 ++ [0, 1, 0] ++
      (COTP.encodeConnectionRequest {}).drop 7 = Link.confirmation := rfl
  refine ⟨_, fun setup => answerSetup pdu.toNat setup >>= fun _ =>
    serveBatches pdu.toNat itemCount itemSize 5 rounds >>= fun _ =>
    serveBatches pdu.toNat itemCount itemSize 4 rounds >>= fun _ => disconnected, rfl, ?_, fun setup hsetup => ?_⟩
  · show (if _ then _ else _) = _
    rw [if_neg (by decide), hconfirm]
  · exact congrArg (· >>= _) (answerSetup_eq_send hsetup)

/-- The peer takes the client's goodbye as its last packet. -/
theorem parts_disconnected : Parts disconnected ⟨.finished (), [], [], some .closed⟩ := by
  have hgoodbye : Link.goodbye = TPKT.packet [6, 0x80, 0, 1, 0, 1, 0] ++ [] := rfl
  rw [Parts, Dialogue.accept_alone, Dialogue.resume_shutdown, hgoodbye, disconnected]
  refine (Peer.resume_receive _ [] [] _ (by decide)).trans ?_
  rw [if_neg (by decide)]
  rfl

/-- Timely enough for every timeout of the configuration. -/
theorem outlasts_timeouts {patience : Nat} (hpatience : patience ≤ 1000) (address : Transport.IPv4Addr)
    (port : UInt16) :
    Outlasts patience (clientConfig address port).connectTimeoutMs ∧
      Outlasts patience (clientConfig address port).operationTimeoutMs ∧
      Outlasts patience (clientConfig address port).transferReceiveTimeoutMs := by
  have hmaximum : Transport.maximumTimeoutMs = 0xffffffff := rfl
  exact ⟨.some (by omega) (by omega), .some (by omega) (by omega), .some (by omega) (by omega)⟩

end ClassicS7.Oracle.MultiBatching
