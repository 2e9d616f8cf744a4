import ClassicS7.Client.Batches
import ClassicS7.Oracle.Overlap

/-! Runs of overlapping operations.

The loops of the client and of the peer go through the items of a transfer together, cut
by the same sizes; each operation of a plan leaves the client's model of the memory equal
to the memory of the peer, and so does the whole plan. -/
namespace ClassicS7.Oracle.Overlap
open Effect

/-! ### The memory -/

theorem length_assign {memory values : Bytes} {start stop : Nat} (hstop : stop = start + values.length)
    (hinside : stop ≤ memory.length) : (assign memory start stop values).length = memory.length := by
  simp only [assign, List.length_append, List.length_take, List.length_drop]
  omega

theorem slice_assign {memory values : Bytes} {start stop : Nat} (hstart : start ≤ memory.length)
    (hstop : stop = start + values.length) : slice (assign memory start stop values) start stop = values := by
  have hfront : (memory.take start).length = start := by
    rw [List.length_take, Nat.min_eq_left hstart]
  rw [slice, assign, List.append_assoc, List.drop_left' hfront, hstop, Nat.add_sub_cancel_left, List.take_left' rfl]

@[simp] theorem assign_nil (memory : Bytes) (start : Nat) : assign memory start start [] = memory := by
  rw [assign, List.append_nil, List.take_append_drop]

/-- Two pieces that follow each other are one. -/
theorem assign_assign {memory first second : Bytes} {start middle stop : Nat} (hmiddle : middle = start + first.length)
    (hstart : start ≤ memory.length) (hstop : middle ≤ stop) :
    assign (assign memory start middle first) middle stop second = assign memory start stop (first ++ second) := by
  have hlength : (memory.take start ++ first).length = middle := by
    rw [List.length_append, List.length_take, Nat.min_eq_left hstart, hmiddle]
  simp only [assign]
  rw [List.take_left' hlength, ← hlength, List.drop_append, hlength,
    List.drop_of_length_le (by rw [hlength]; exact hstop), List.nil_append, List.drop_drop,
    Nat.add_sub_cancel' hstop]
  simp only [List.append_assoc]

/-- The data of two pieces that follow each other. -/
theorem assign_step {memory data : Bytes} {start offset size : Nat} (hstart : start + data.length ≤ memory.length)
    (hsize : offset + size ≤ data.length) :
    assign (assign memory (start + offset) (start + offset + size) (slice data offset (offset + size)))
        (start + (offset + size)) (start + data.length) (data.drop (offset + size)) =
      assign memory (start + offset) (start + data.length) (data.drop offset) := by
  rw [← Nat.add_assoc, assign_assign _ (by omega) (by omega), slice_append_drop data _ _ (Nat.le_add_right _ _)]
  rw [length_slice]
  omega

/-! ### The loops of the peer -/

theorem read_done {memory : Bytes} {start count pdu offset : Nat} (h : count ≤ offset) :
    read memory start count pdu offset = .finished () := by
  rw [read, dif_neg (Nat.not_lt.mpr h)]

theorem read_step {memory : Bytes} {start count pdu offset : Nat} (h : offset < count) (hpdu : 18 < pdu) :
    read memory start count pdu offset =
      readItem memory (start + offset) (min (pdu - 18) (count - offset)) pdu >>= fun _ =>
        read memory start count pdu (offset + min (pdu - 18) (count - offset)) := by
  rw [read, dif_pos h]
  refine bind_congr fun _ => ?_
  rw [dif_neg (by omega)]

theorem write_done {memory data : Bytes} {start pdu offset : Nat} (h : data.length ≤ offset) :
    write memory start data pdu offset = .finished memory := by
  rw [write, dif_neg (Nat.not_lt.mpr h)]

theorem write_step {memory data : Bytes} {start pdu offset : Nat} (h : offset < data.length) (hpdu : 28 < pdu) :
    write memory start data pdu offset =
      writeItem memory (start + offset) (min (pdu - 28) (data.length - offset))
        (slice data offset (offset + min (pdu - 28) (data.length - offset))) pdu >>= fun memory =>
          write memory start data pdu (offset + min (pdu - 28) (data.length - offset)) := by
  rw [write, dif_pos h]
  refine bind_congr fun memory => ?_
  rw [dif_neg (by omega)]

/-! ### The limits of the client -/

section Limits
variable {pdu : Nat} {first count : Nat}

/-- The maximum of a read, in bytes, is what the PDU has room for. -/
theorem readMaximum_dataBlocks (hpdu : 240 ≤ pdu ∧ pdu ≤ 1021) :
    MultiValidation.readMaximum pdu .dataBlocks = pdu - 18 := by
  have hlimit : MultiValidation.lengthLimit .dataBlocks = 8191 := rfl
  have hsize : (S7.Area.dataBlocks).elementSize = 1 := rfl
  rw [MultiValidation.readMaximum, if_neg (by omega), hlimit, hsize, S7.maxSectionSize]
  omega

/-- A range inside the memory passes the checks of the client. -/
theorem range_ok (hcount : 0 < count) (hinside : first + count ≤ memorySize) :
    MultiValidation.range (range first count) = .ok () := by
  rw [memorySize] at hinside
  exact MultiValidation.range_dataBlocks hcount (by omega)

end Limits

/-! ### Bits -/

/-- The two models of a bit update agree on every byte. -/
theorem updateBit_byte : ∀ (value : Fin 256) (size : Fin 8) (argument : Fin 2),
    updateBit value size argument ≤ 255 ∧
      OverlapOperationTests.updated value size argument = updateBit value size argument := by
  decide +kernel

theorem updated_eq_updateBit (value : UInt8) {size argument : Nat} (hsize : size < 8) (hargument : argument < 2) :
    updateBit value.toNat size argument ≤ 255 ∧
      OverlapOperationTests.updated value.toNat size argument = updateBit value.toNat size argument :=
  updateBit_byte ⟨value.toNat, value.toNat_lt⟩ ⟨size, hsize⟩ ⟨argument, hargument⟩

/-- The codec of the client updates a bit as the peer does. -/
theorem setBit_eq_updateBit (value : UInt8) {size argument : Nat} (hsize : size < 8) (hargument : argument < 2) :
    Value.setBit value size (argument == 1) = .ok (UInt8.ofNat (updateBit value.toNat size argument)) := by
  have hmasks : ∀ index : Fin 8, UInt8.shiftLeft 1 (UInt8.ofNat index.val) = UInt8.ofNat (1 <<< index.val) ∧
      (UInt8.shiftLeft 1 (UInt8.ofNat index.val)).complement = UInt8.ofNat (255 ^^^ 1 <<< index.val) := by decide
  obtain ⟨hmask, hcomplement⟩ := hmasks ⟨size, hsize⟩
  dsimp only at hmask hcomplement
  unfold Value.setBit
  rw [Checks.guard_ok (Nat.not_le.mpr hsize)]
  dsimp only
  rw [hcomplement, hmask]
  refine congrArg Except.ok ?_
  obtain rfl | rfl : argument = 0 ∨ argument = 1 := by omega
  · show value &&& UInt8.ofNat (255 ^^^ 1 <<< size) = UInt8.ofNat (value.toNat &&& (255 ^^^ 1 <<< size))
    rw [UInt8.ofNat_and, UInt8.ofNat_toNat]
  · show value ||| UInt8.ofNat (1 <<< size) = UInt8.ofNat (value.toNat ||| 1 <<< size)
    rw [UInt8.ofNat_or, UInt8.ofNat_toNat]

/-! ### Transfers, by client and peer -/

section Transfers
variable {W Socket α : Type} {native : Transport.Native W Socket} {socket : Socket} {view : View W α}
  {start patience : Nat} {deadline : Option Nat} {config : ClientConfig} {pdu : UInt16} {live : Live W Socket}
  {memory : Bytes} {first count retries : Nat}
  (link : Link native socket view start patience) (hample : Ample start patience deadline)
  (hoperation : Outlasts patience config.operationTimeoutMs) (hpdu : 240 ≤ pdu.toNat ∧ pdu.toNat ≤ 1021)
include link hample hoperation hpdu

/-- The client and the peer cut what is left of a read alike. -/
theorem ends_readAreaChunks {p : Dialogue α} (hinside : first + count ≤ memorySize)
    (hmemory : memory.length = memorySize) (offset : Nat) (hoffset : offset ≤ count)
    (result : Chunking.ReadAssembly (S7.Area.dataBlocks).elementSize)
    (hresult : result.data = slice memory first (first + offset))
    (talking : Talking socket view pdu (read memory first count pdu.toNat offset >>= fun _ => p) live) :
    Ends (readAreaChunks (Transport.network native) config .dataBlocks 1 first deadline
        (Chunking.counts (count - offset) (pdu.toNat - 18)) result retries) live
      (fun result live' => result.data = slice memory first (first + count) ∧ Talking socket view pdu p live')
      fun _ _ => False := by
  induction hleft : count - offset using Nat.strongRecOn generalizing offset result live retries with
  | ind left ih =>
    subst hleft
    by_cases hmore : offset < count
    · rw [Chunking.counts_step (by omega) (by omega)]
      rw [read_step hmore (by omega), bind_assoc] at talking
      let size := min (pdu.toNat - 18) (count - offset)
      have hnext : result.nextStart first = first + offset := by
        rw [Chunking.ReadAssembly.nextStart, hresult, length_slice]
        omega
      refine Ends.bind (ends_readAreaChunk link hample hoperation hpdu (by rw [hnext]; rfl) (by omega) (by omega)
        (by omega) hmemory talking) fun chunk live₁ h₁ => ?_
      have hpieces : (result.append chunk).data = slice memory first (first + (offset + size)) := by
        show result.data ++ chunk.val = _
        rw [hresult, h₁.1, slice_append memory _ _ _ (by omega) (by omega), Nat.add_assoc]
      rw [Nat.sub_sub]
      exact ih (count - (offset + size)) (by omega) (offset + size) (by omega) _ hpieces h₁.2 rfl
    · obtain rfl : offset = count := by omega
      rw [Nat.sub_self, Chunking.counts_zero]
      rw [read_done (Nat.le_refl _)] at talking
      exact ⟨hresult, talking⟩

theorem ends_readAreaChecked {p : Dialogue α} (hinside : first + count ≤ memorySize)
    (hmemory : memory.length = memorySize)
    (talking : Talking socket view pdu (read memory first count pdu.toNat >>= fun _ => p) live) :
    Ends (readAreaChecked (Transport.network native) config .dataBlocks 1 first count deadline retries) live
      (fun data live' => data = slice memory first (first + count) ∧ Talking socket view pdu p live')
      fun _ _ => False := by
  unfold readAreaChecked
  by_cases hempty : count = 0
  · rw [if_pos hempty]
    rw [read_done (Nat.le_of_eq hempty)] at talking
    exact ⟨(slice_of_le memory _ _ (by omega)).symm, talking⟩
  rw [if_neg hempty]
  have hrange : MultiValidation.range ⟨.dataBlocks, 1, first, count⟩ = .ok () :=
    range_ok (Nat.pos_of_ne_zero hempty) hinside
  rw [hrange]
  refine ends_bind.mpr (ends_pure.mpr (ends_bind.mpr (ends_negotiatedPduLength.mpr ?_)))
  dsimp only
  rw [talking.pduLength, readMaximum_dataBlocks hpdu, if_neg (by omega)]
  refine ends_bind.mpr (ends_pure.mpr ?_)
  have hnone : (Chunking.ReadAssembly.empty (S7.Area.dataBlocks).elementSize).data = slice memory first (first + 0) :=
    (slice_of_le memory _ _ (Nat.le_refl _)).symm
  exact (ends_readAreaChunks link hample hoperation hpdu hinside hmemory 0 (Nat.zero_le _) _ hnone talking).bind
    fun _ _ h => h

theorem ends_writeAreaChunks {p : Bytes → Dialogue α} {data : Bytes} (hinside : first + data.length ≤ memorySize)
    (hmemory : memory.length = memorySize) (offset : Nat) (hoffset : offset ≤ data.length) (chunks : List Nat)
    (hchunks : chunks = Chunking.counts (data.length - offset) (pdu.toNat - 28))
    (hcoverage : offset + chunks.sum * (S7.Area.dataBlocks).elementSize = data.length)
    (talking : Talking socket view pdu (write memory first data pdu.toNat offset >>= p) live) :
    Ends (writeAreaChunks (Transport.network native) config .dataBlocks 1 first data deadline offset chunks hcoverage
        retries) live
      (fun _ live' => Talking socket view pdu
        (p (assign memory (first + offset) (first + data.length) (data.drop offset))) live')
      fun _ _ => False := by
  have hroom : 0 < pdu.toNat - 28 := by omega
  induction chunks generalizing offset memory retries live with
  | nil =>
    obtain rfl : offset = data.length := by
      rw [List.sum_nil, Nat.zero_mul] at hcoverage
      exact hcoverage
    rw [write_done (Nat.le_refl _)] at talking
    rw [List.drop_length, assign_nil]
    exact talking
  | cons size rest ih =>
    have hmore : offset < data.length := by
      refine Classical.byContradiction fun h => ?_
      rw [Nat.sub_eq_zero_of_le (Nat.not_lt.mp h), Chunking.counts_zero] at hchunks
      cases hchunks
    rw [Chunking.counts_step (by omega) hroom] at hchunks
    obtain ⟨rfl, rfl⟩ := List.cons.inj hchunks
    rw [write_step hmore (by omega), bind_assoc] at talking
    generalize hsize : min (pdu.toNat - 28) (data.length - offset) = size at *
    have hbytes : size * (S7.Area.dataBlocks).elementSize = size := Nat.mul_one size
    have hslice : (slice data offset (offset + size)).length = size := by
      rw [length_slice]
      omega
    have hitem : Ends (writeAreaChunk (Transport.network native) config (range (first + offset) size)
        (slice data offset (offset + size * (S7.Area.dataBlocks).elementSize)) deadline retries offset) live
        (fun _ live' => Talking socket view pdu (write (assign memory (first + offset) (first + offset + size)
          (slice data offset (offset + size))) first data pdu.toNat (offset + size) >>= p) live')
        fun _ _ => False := by
      rw [hbytes]
      exact ends_writeAreaChunk link hample hoperation hpdu rfl (by omega) (by omega) (by omega) hslice talking
    refine hitem.bind fun _ live₁ talking₁ => ?_
    rw [← hbytes] at talking₁
    have hlength : (assign memory (first + offset) (first + offset + size)
        (slice data offset (offset + size))).length = memorySize := by
      rw [length_assign (by rw [hslice]) (by omega), hmemory]
    refine (ih ?_ _ (by omega) (by rw [hbytes, Nat.sub_sub]) _ talking₁).mono
      (fun _ live₂ talking₂ => ?_) fun _ _ h => h
    · rw [hbytes]
      exact hlength
    · rw [hbytes, assign_step (by omega) (by omega)] at talking₂
      exact talking₂

theorem ends_writeAreaChecked {p : Bytes → Dialogue α} {data : Bytes} (hinside : first + data.length ≤ memorySize)
    (hmemory : memory.length = memorySize)
    (talking : Talking socket view pdu (write memory first data pdu.toNat >>= p) live) :
    Ends (writeAreaChecked (Transport.network native) config .dataBlocks 1 first data deadline retries) live
      (fun _ live' => Talking socket view pdu (p (assign memory first (first + data.length) data)) live')
      fun _ _ => False := by
  unfold writeAreaChecked
  by_cases hempty : data = []
  · subst hempty
    rw [write_done (Nat.zero_le _)] at talking
    rw [if_pos List.isEmpty_nil]
    show Talking socket view pdu (p (assign memory first first [])) live
    rw [assign_nil]
    exact talking
  have haligned : ¬ data.length % (S7.Area.dataBlocks).elementSize ≠ 0 := not_not_intro (Nat.mod_one _)
  have hcount : data.length / (S7.Area.dataBlocks).elementSize = data.length := Nat.div_one _
  have hrange :
      MultiValidation.range ⟨.dataBlocks, 1, first, data.length / (S7.Area.dataBlocks).elementSize⟩ = .ok () := by
    rw [hcount]
    exact range_ok (List.length_pos_iff.mpr hempty) hinside
  have hmaximum : min S7.maxSectionSize (min (pdu.toNat - 28) (if (S7.Area.dataBlocks).dataTransportSize ==
      S7.octetTransportSize then S7.maxSectionSize else S7.maxSectionSize / 8) / (S7.Area.dataBlocks).elementSize) =
      pdu.toNat - 28 := by
    rw [S7.maxSectionSize, show (S7.Area.dataBlocks).elementSize = 1 from rfl, if_neg (by decide), Nat.div_one]
    omega
  rw [if_neg (by simpa using hempty), dif_neg haligned]
  dsimp only
  rw [hrange]
  refine ends_bind.mpr (ends_pure.mpr (ends_bind.mpr (ends_negotiatedPduLength.mpr ?_)))
  refine ends_dite.mpr ⟨fun h => ?_, fun _ => ends_bind.mpr (ends_pure.mpr ?_)⟩
  · rw [talking.pduLength, hmaximum] at h
    omega
  refine (ends_writeAreaChunks link hample hoperation hpdu hinside hmemory 0 (Nat.zero_le _) _ ?_ _ talking).mono
    (fun _ _ talking₁ => ?_) fun _ _ h => h
  · rw [talking.pduLength, hmaximum, hcount, Nat.sub_zero]
  · rw [List.drop_zero, Nat.add_zero] at talking₁
    exact talking₁

end Transfers

/-! ### Calls, by client and peer -/

section Calls
variable {W Socket α : Type} {native : Transport.Native W Socket} {socket : Socket} {view : View W α}
  {start patience : Nat} {config : ClientConfig} {pdu : UInt16} {live : Live W Socket} {memory : Bytes}
  {first count : Nat}
  (link : Link native socket view start patience) (hoperation : Outlasts patience config.operationTimeoutMs)
  (htransfer : Outlasts patience config.transferReceiveTimeoutMs) (hpdu : 240 ≤ pdu.toNat ∧ pdu.toNat ≤ 1021)
include link hoperation htransfer hpdu

/-- A client that reads gets the bytes of the peer's memory. -/
theorem ends_dbRead {p : Dialogue α} (hinside : first + count ≤ memorySize) (hmemory : memory.length = memorySize)
    (talking : Talking socket view pdu (read memory first count pdu.toNat >>= fun _ => p) live) :
    Ends (dbRead (Transport.network native) config 1 first count) live
      (fun data live' => data = slice memory first (first + count) ∧ Talking socket view pdu p live')
      fun _ _ => False := by
  refine Ends.unhandled ((link.budgets htransfer talking.peer).bind fun deadline live₁ h₁ => ?_)
  exact ends_readAreaChecked link h₁.2.1 hoperation hpdu hinside hmemory
    (talking.carried h₁.1 h₁.2.2)

/-- A client that writes leaves its bytes in the peer's memory. -/
theorem ends_dbWrite {p : Bytes → Dialogue α} {data : Bytes} (hinside : first + data.length ≤ memorySize)
    (hmemory : memory.length = memorySize)
    (talking : Talking socket view pdu (write memory first data pdu.toNat >>= p) live) :
    Ends (dbWrite (Transport.network native) config 1 first data) live
      (fun _ live' => Talking socket view pdu (p (assign memory first (first + data.length) data)) live')
      fun _ _ => False := by
  unfold dbWrite writeArea writeAreaDetailed
  refine ends_bind.mpr (ends_bind.mpr (ends_modifySession.mpr (Ends.unhandled ?_)))
  refine (link.budgets htransfer talking.restarted.peer).bind fun deadline live₁ h₁ => ?_
  refine (ends_writeAreaChecked link h₁.2.1 hoperation hpdu hinside hmemory
    (talking.restarted.carried h₁.1 h₁.2.2)).bind fun _ live₂ talking₂ => ?_
  exact talking₂.restarted

/-- A client that updates a bit updates it in the peer's memory. -/
theorem ends_dbWriteBit {p : Bytes → Dialogue α} {previous : UInt8} {size argument : Nat} (hsize : size < 8)
    (hargument : argument < 2) (hinside : first + 1 ≤ memorySize) (hmemory : memory.length = memorySize)
    (hprevious : memory[first]? = some previous)
    (talking : Talking socket view pdu (read memory first 1 pdu.toNat >>= fun _ =>
      write memory first [UInt8.ofNat (updateBit previous.toNat size argument)] pdu.toNat >>= p) live) :
    Ends (dbWriteBit (Transport.network native) config 1 first size (argument == 1)) live
      (fun _ live' => Talking socket view pdu (p (assign memory first (first + 1)
        [UInt8.ofNat (updateBit previous.toNat size argument)])) live') fun _ _ => False := by
  obtain ⟨hfirst, rfl⟩ := List.getElem?_eq_some_iff.mp hprevious
  have hslice : slice memory first (first + 1) = [memory[first]] := by
    rw [slice_cons memory first (first + 1) (Nat.lt_succ_self _) hfirst, slice_of_le memory _ _ (Nat.le_refl _)]
  have hbyte : Value.getUInt8 [memory[first]] = .ok memory[first] := rfl
  unfold dbWriteBit writeBitChecked
  rw [if_neg (by omega)]
  refine Ends.unhandled ((link.budgets htransfer talking.peer).bind fun deadline live₁ h₁ => ?_)
  have talking₁ := talking.carried h₁.1 h₁.2.2
  refine ends_bind.mpr (ends_modifySession.mpr ?_)
  refine (ends_readAreaChecked link h₁.2.1 hoperation hpdu hinside hmemory (talking₁.restarted)).bind
    fun current live₂ h₂ => ?_
  rw [h₂.1, hslice, hbyte]
  refine ends_bind.mpr (ends_pure.mpr ?_)
  rw [setBit_eq_updateBit _ hsize hargument]
  refine ends_bind.mpr (ends_pure.mpr ?_)
  exact ends_writeAreaChecked link h₁.2.1 hoperation hpdu hinside hmemory h₂.2

theorem ends_dbReadBit {p : Dialogue α} {value updated : UInt8} {bitIndex : Nat} {enabled : Bool}
    (hinside : first + 1 ≤ memorySize) (hmemory : memory.length = memorySize)
    (hset : Value.setBit value bitIndex enabled = .ok updated) (hupdated : slice memory first (first + 1) = [updated])
    (talking : Talking socket view pdu (read memory first 1 pdu.toNat >>= fun _ => p) live) :
    Ends (dbReadBit (Transport.network native) config 1 first bitIndex) live
      (fun bit live' => bit = enabled ∧ Talking socket view pdu p live') fun _ _ => False := by
  have hindex := Value.bitIndex_of_setBit hset
  unfold dbReadBit
  rw [if_neg (by omega)]
  refine (ends_dbRead link hoperation htransfer hpdu hinside hmemory talking).bind fun data live₁ h₁ => ?_
  rw [h₁.1, hupdated, Value.getBit_setBit hset]
  exact ⟨rfl, h₁.2⟩

end Calls

/-! ### Operations, by client and peer -/

/-- An operation that stays inside the memory, with bit parameters in range. -/
def Operation.Inside (operation : Operation) : Prop :=
  ((operation.kind = "r" ∨ operation.kind = "w") ∧ operation.start + operation.size ≤ memorySize) ∨
    operation.kind = "b" ∧ operation.start + 1 ≤ memorySize ∧ operation.size < 8 ∧ operation.argument < 2

instance (operation : Operation) : Decidable operation.Inside := inferInstanceAs (Decidable (_ ∨ _))

/-- What an operation makes of the memory. -/
def Operation.after (memory : Bytes) (operation : Operation) : Bytes :=
  if operation.kind = "w" then
    assign memory operation.start (operation.start + operation.size) (payload operation.argument operation.size)
  else if operation.kind = "b" then
    assign memory operation.start (operation.start + 1)
      [UInt8.ofNat (updateBit (byteAt memory operation.start) operation.size operation.argument)]
  else memory

theorem length_payload (salt count : Nat) : (payload salt count).length = count := by
  rw [payload, List.length_map, List.length_range]

theorem payload_eq (salt count : Nat) : OverlapOperationTests.payload salt count = payload salt count :=
  List.map_congr_left fun _ _ => UInt8.ofNat_mod_size.symm

theorem initialMemory_eq : OverlapOperationTests.initialMemory memorySize = initialMemory :=
  List.map_congr_left fun _ _ => UInt8.ofNat_mod_size.symm

theorem length_initialMemory : initialMemory.length = memorySize := by
  rw [initialMemory, List.length_map, List.length_range]

theorem length_after {memory : Bytes} {operation : Operation} (hinside : operation.Inside)
    (hmemory : memory.length = memorySize) : (operation.after memory).length = memorySize := by
  unfold Operation.after
  obtain ⟨hkind, hrange⟩ | ⟨hkind, hrange, -⟩ := hinside
  · split
    · rw [length_assign (by rw [length_payload]) (by omega), hmemory]
    · obtain hread | hwrite := hkind
      · rw [if_neg (by rw [hread]; decide), hmemory]
      · contradiction
  · rw [if_neg (by rw [hkind]; decide), if_pos hkind,
      length_assign (by rw [List.length_singleton]) (by omega), hmemory]

/-- Inside the memory, the client replaces what the peer assigns. -/
theorem replace_eq_assign {memory data : Bytes} {start : Nat} (hinside : start + data.length ≤ memory.length) :
    OverlapOperationTests.replace memory start data = assign memory start (start + data.length) data := by
  refine List.ext_getElem ?_ fun index h h' => ?_
  · rw [length_assign rfl hinside, OverlapOperationTests.replace, List.length_map, List.length_range]
  rw [length_assign rfl hinside] at h'
  have hfront : (memory.take start).length = start := by
    rw [List.length_take]
    omega
  simp only [OverlapOperationTests.replace, assign, List.getElem_map, List.getElem_range, Bool.and_eq_true,
    decide_eq_true_eq, List.getElem_append, List.length_append, List.getElem_take, List.getElem_drop, hfront]
  by_cases hbefore : index < start
  · rw [if_neg (by omega), dif_pos (by omega), dif_pos hbefore, getElem!_pos memory index h']
  by_cases hwithin : index < start + data.length
  · rw [if_pos (by omega), dif_pos hwithin, dif_neg hbefore, getElem!_pos data _ (by omega)]
  · have hindex : start + data.length + (index - (start + data.length)) = index := by omega
    rw [if_neg (by omega), dif_neg hwithin, getElem!_pos memory index h']
    simp only [hindex]

theorem require_true {W : Type} {condition : Bool} (h : condition = true) (message : String) :
    (OverlapOperationTests.require condition message : Program W Unit) = pure () := if_pos h

/-- A client that is still connected returns the memory. -/
theorem ends_still_connected {W Socket α : Type} {socket : Socket} {view : View W α} {pdu : UInt16}
    {p : Dialogue α} {live : Live W Socket} {memory : Bytes} {message : String} {ok : Bytes → Live W Socket → Prop}
    (talking : Talking socket view pdu p live) (h : ok memory live) :
    Ends (isConnected >>= fun connected => OverlapOperationTests.require connected message >>= fun _ =>
      (pure memory : Program (Live W Socket) Bytes)) live ok fun _ _ => False := by
  refine ends_bind.mpr (ends_isConnected.mpr ?_)
  rw [require_true (by rw [talking.state]; rfl)]
  exact h

theorem length_foldl_after {memory : Bytes} (plan : List Operation) (hinside : ∀ operation ∈ plan, operation.Inside)
    (hmemory : memory.length = memorySize) : (plan.foldl Operation.after memory).length = memorySize := by
  induction plan generalizing memory with
  | nil => exact hmemory
  | cons operation rest ih =>
    obtain ⟨hfirst, hrest⟩ := List.forall_mem_cons.mp hinside
    exact ih hrest (length_after hfirst hmemory)

section Plans
variable {W Socket α : Type} {native : Transport.Native W Socket} {socket : Socket} {view : View W α}
  {start patience : Nat} {config : ClientConfig} {pdu : UInt16} {live : Live W Socket} {memory : Bytes}
  (link : Link native socket view start patience) (hoperation : Outlasts patience config.operationTimeoutMs)
  (htransfer : Outlasts patience config.transferReceiveTimeoutMs) (hpdu : 240 ≤ pdu.toNat ∧ pdu.toNat ≤ 1021)
include link hoperation htransfer hpdu

/-- After an operation, the memory of the client's model is the memory of the peer. -/
theorem ends_runOperation {p : Bytes → Dialogue α} {operation : Operation} (hinside : operation.Inside)
    (hmemory : memory.length = memorySize)
    (talking : Talking socket view pdu (serveOperation pdu.toNat memory operation >>= p) live) :
    Ends (OverlapOperationTests.runOperation (Transport.network native) config memorySize memory operation) live
      (fun memory' live' => memory' = operation.after memory ∧
        Talking socket view pdu (p (operation.after memory)) live') fun _ _ => False := by
  obtain ⟨identifier, kind, first, size, argument⟩ := operation
  obtain ⟨rfl | rfl, hrange⟩ | ⟨rfl, hrange, hsize, hargument⟩ := hinside
  · have hpeer : serveOperation pdu.toNat memory ⟨identifier, "r", first, size, argument⟩ >>= p =
        read memory first size pdu.toNat >>= fun _ => p memory := by
      rw [serveOperation, if_pos rfl, bind_assoc]
      rfl
    rw [hpeer] at talking
    unfold OverlapOperationTests.runOperation
    dsimp only
    rw [if_neg (by decide), require_true (decide_eq_true hrange), pure_bind, if_pos (by decide)]
    refine (ends_dbRead link hoperation htransfer hpdu hrange hmemory talking).bind ?_
    rintro _ live₁ ⟨rfl, talking₁⟩
    rw [require_true (beq_self_eq_true _), pure_bind, pure_bind]
    exact ends_still_connected talking₁ ⟨rfl, talking₁⟩
  · have hpeer : serveOperation pdu.toNat memory ⟨identifier, "w", first, size, argument⟩ >>= p =
        write memory first (payload argument size) pdu.toNat >>= p := rfl
    have hdata : (payload argument size).length = size := length_payload argument size
    rw [hpeer] at talking
    unfold OverlapOperationTests.runOperation
    dsimp only at hrange ⊢
    rw [if_neg (by decide), require_true (decide_eq_true hrange), pure_bind, if_neg (by decide), if_pos (by decide),
      payload_eq, replace_eq_assign (by omega)]
    rw [← hdata] at hrange
    refine (ends_dbWrite link hoperation htransfer hpdu hrange hmemory talking).bind fun _ live₁ talking₁ => ?_
    rw [hdata] at talking₁ ⊢
    rw [pure_bind]
    exact ends_still_connected talking₁ ⟨rfl, talking₁⟩
  · dsimp only at hrange hsize hargument
    have hfirst : first < memory.length := by omega
    have hprevious : memory[first]? = some memory[first] := List.getElem?_eq_getElem hfirst
    have hbyte : byteAt memory first = memory[first].toNat := byteAt_eq_getElem memory first hfirst
    obtain ⟨hupdated, hmodel⟩ := updated_eq_updateBit memory[first] hsize hargument
    let bits : Bytes := [UInt8.ofNat (updateBit memory[first].toNat size argument)]
    have hpeer : serveOperation pdu.toNat memory ⟨identifier, "b", first, size, argument⟩ >>= p =
        read memory first 1 pdu.toNat >>= fun _ => write memory first bits pdu.toNat >>= fun memory =>
          read memory first 1 pdu.toNat >>= fun _ => p memory := by
      rw [serveOperation, if_neg (show ¬ "b" = "r" by decide), if_neg (show ¬ "b" = "w" by decide), if_pos rfl]
      dsimp only
      rw [hprevious]
      dsimp only
      rw [if_neg (Nat.not_lt.mpr hupdated), bind_assoc]
      refine bind_congr fun _ => (bind_assoc _ _ _).trans (bind_congr fun _ => ?_)
      exact bind_assoc _ _ _
    have hlength : (assign memory first (first + 1) bits).length = memorySize := by
      rw [length_assign (show first + 1 = first + bits.length from rfl) hfirst, hmemory]
    have hbits : slice (assign memory first (first + 1) bits) first (first + 1) = bits :=
      slice_assign (Nat.le_of_lt hfirst) rfl
    have hafter : Operation.after memory ⟨identifier, "b", first, size, argument⟩ =
        assign memory first (first + 1) bits := by
      rw [Operation.after, if_neg (show ¬ "b" = "w" by decide), if_pos rfl, hbyte]
    rw [hpeer] at talking
    rw [hafter]
    unfold OverlapOperationTests.runOperation
    dsimp only
    rw [if_pos (by decide), require_true (decide_eq_true hrange), pure_bind, if_neg (by decide), if_neg (by decide),
      if_pos (by decide), require_true (by simp [hsize, hargument]), pure_bind, getElem!_pos memory first hfirst,
      hmodel, replace_eq_assign hfirst]
    refine (ends_dbWriteBit link hoperation htransfer hpdu hsize hargument hrange hmemory hprevious talking).bind
      fun _ live₁ talking₁ => ?_
    refine (ends_dbReadBit link hoperation htransfer hpdu hrange hlength (setBit_eq_updateBit _ hsize hargument) hbits
      talking₁).bind ?_
    rintro _ live₂ ⟨rfl, talking₂⟩
    rw [require_true (beq_self_eq_true _), pure_bind, pure_bind]
    exact ends_still_connected talking₂ ⟨rfl, talking₂⟩

/-- After a plan, they are equal too: the induction is on the operations that are left. -/
theorem ends_runOperations {p : Bytes → Dialogue α} (plan : List Operation)
    (hinside : ∀ operation ∈ plan, operation.Inside) (hmemory : memory.length = memorySize)
    (talking : Talking socket view pdu (serveOperations pdu.toNat plan memory >>= p) live) :
    Ends (OverlapOperationTests.runOperations (Transport.network native) config memorySize plan memory) live
      (fun memory' live' => memory' = plan.foldl Operation.after memory ∧
        Talking socket view pdu (p (plan.foldl Operation.after memory)) live') fun _ _ => False := by
  induction plan generalizing memory live with
  | nil => exact ⟨rfl, talking⟩
  | cons operation rest ih =>
    obtain ⟨hfirst, hrest⟩ := List.forall_mem_cons.mp hinside
    rw [serveOperations, bind_assoc] at talking
    refine (ends_runOperation link hoperation htransfer hpdu hfirst hmemory talking).bind ?_
    rintro _ live₁ ⟨rfl, talking₁⟩
    exact ih hrest (length_after hfirst hmemory) talking₁

/-- A connected client finds no fault with a plan, and leaves the peer at its end. -/
theorem ends_runPlan {p : Dialogue α} (plan : List Operation) (hinside : ∀ operation ∈ plan, operation.Inside)
    (talking : Talking socket view pdu (serveOperations pdu.toNat plan initialMemory >>= fun memory =>
      read memory 0 memorySize pdu.toNat >>= fun _ => Peer.closed >>= fun _ => p) live) :
    Ends (OverlapOperationTests.runPlan (Transport.network native) config pdu.toNat memorySize plan) live
      (fun _ live' => view.At live'.world (p.resume [] [] (some .closed))) fun _ _ => False := by
  have hlength : (plan.foldl Operation.after initialMemory).length = memorySize :=
    length_foldl_after plan hinside length_initialMemory
  refine Ends.unhandled (ends_bind.mpr (ends_negotiatedPduLength.mpr ?_))
  rw [require_true (by rw [talking.pduLength]; exact beq_self_eq_true _), pure_bind, initialMemory_eq]
  refine (ends_runOperations link hoperation htransfer hpdu plan hinside length_initialMemory talking).bind ?_
  rintro _ live₁ ⟨rfl, talking₁⟩
  refine (ends_dbRead link hoperation htransfer hpdu (by omega) hlength talking₁).bind ?_
  rintro _ live₂ ⟨rfl, talking₂⟩
  have hwhole : slice (plan.foldl Operation.after initialMemory) 0 (0 + memorySize) =
      plan.foldl Operation.after initialMemory := by
    rw [Nat.zero_add, slice_to_end _ _ _ (Nat.le_of_eq hlength)]
    rfl
  rw [hwhole, require_true (beq_self_eq_true _), pure_bind]
  exact (link.disconnect hoperation (parts_closed p) talking₂).mono (fun _ _ h => h.2) fun _ _ h => h

end Plans

/-! ### The whole conversation -/

/-- Timely enough for every timeout of the test's configuration. -/
theorem outlasts_timeouts {patience : Nat} (hpatience : patience ≤ 1000) (address : Transport.IPv4Addr)
    (port : UInt16) :
    Outlasts patience (OverlapOperationTests.clientConfig address port).connectTimeoutMs ∧
      Outlasts patience (OverlapOperationTests.clientConfig address port).operationTimeoutMs ∧
      Outlasts patience (OverlapOperationTests.clientConfig address port).transferReceiveTimeoutMs := by
  have hmaximum : Transport.maximumTimeoutMs = 0xffffffff := rfl
  exact ⟨.some (by omega) (by omega), .some (by omega) (by omega), .some (by omega) (by omega)⟩

/-- A write over two requests, a bit in it, and reads that cover both. -/
def samplePlan : List Operation := [⟨1, "w", 40, 300, 5⟩, ⟨2, "b", 251, 3, 1⟩, ⟨3, "r", 38, 305, 0⟩]

end ClassicS7.Oracle.Overlap
