import ClassicS7.Library.Batching
import ClassicS7.Wire.Single

/-! Planning transfers.

A transfer of one range is cut into chunks that fit the negotiated PDU; a transfer of many
ranges is cut into batches, each as long a prefix of what is pending as fits one request
and its response. The plans cover what was asked for exactly and in order, and the limits
they keep are those of the packets. -/
namespace ClassicS7

/-! ### Chunks -/

namespace Chunking

/-- An element count as full chunks and at most one remainder. -/
def counts (total maximum : Nat) : List Nat :=
  if maximum = 0 then
    []
  else
    List.replicate (total / maximum) maximum ++ if total % maximum = 0 then [] else [total % maximum]

/-- What a chunked read has assembled, with the number of elements it stands for. -/
structure ReadAssembly (elementSize : Nat) where
  consumed : Nat
  data : Bytes
  size_eq : data.length = consumed * elementSize

namespace ReadAssembly
variable {elementSize : Nat}

def empty (elementSize : Nat) : ReadAssembly elementSize := ⟨0, [], by simp⟩

def nextStart (state : ReadAssembly elementSize) (start : Nat) : Nat := start + state.data.length

def append (state : ReadAssembly elementSize) {count : Nat}
    (chunk : { data : Bytes // data.length = count * elementSize }) : ReadAssembly elementSize :=
  ⟨state.consumed + count, state.data ++ chunk.val, by
    rw [List.length_append, state.size_eq, chunk.property, Nat.add_mul]⟩

end ReadAssembly

/-- A bounded write slice cannot silently be cut short at the end of the payload. -/
def writeSlice (payload : Bytes) (offset count elementSize : Nat)
    (hbound : offset + count * elementSize ≤ payload.length) :
    { data : Bytes // data.length = count * elementSize } :=
  ⟨slice payload offset (offset + count * elementSize), by
    rw [length_slice, Nat.min_eq_left hbound, Nat.add_sub_cancel_left]⟩

theorem counts_sum (total : Nat) {maximum : Nat} (hmaximum : maximum ≠ 0) :
    (counts total maximum).sum = total := by
  have hdivision := Nat.div_add_mod total maximum
  rw [Nat.mul_comm] at hdivision
  rw [counts, if_neg hmaximum, List.sum_append, List.sum_replicate_nat]
  split
  · rw [List.sum_nil]
    omega
  · rw [List.sum_singleton]
    exact hdivision

/-- A transfer that fits one request is one chunk. -/
theorem counts_single {total maximum : Nat} (hpositive : 0 < total) (hfits : total ≤ maximum) :
    counts total maximum = [total] := by
  have hmaximum : maximum ≠ 0 := by omega
  rw [counts, if_neg hmaximum]
  obtain rfl | hlt := Nat.eq_or_lt_of_le hfits
  · simp [Nat.div_self hpositive]
  · simp [Nat.div_eq_of_lt hlt, Nat.mod_eq_of_lt hlt, Nat.pos_iff_ne_zero.mp hpositive]

theorem counts_zero (maximum : Nat) : counts 0 maximum = [] := by
  by_cases hmaximum : maximum = 0 <;> simp [counts, hmaximum]

/-- The plan takes as much as fits, and then goes on with what is left. -/
theorem counts_step {total maximum : Nat} (hpositive : 0 < total) (hmaximum : 0 < maximum) :
    counts total maximum = min maximum total :: counts (total - min maximum total) maximum := by
  by_cases hfits : total ≤ maximum
  · rw [counts_single hpositive hfits, Nat.min_eq_right hfits, Nat.sub_self, counts_zero]
  · have hle : maximum ≤ total := by omega
    have hnonzero : maximum ≠ 0 := by omega
    rw [Nat.min_eq_left hle]
    simp only [counts, if_neg hnonzero]
    rw [Nat.div_eq_sub_div hmaximum hle, Nat.mod_eq_sub_mod hle, List.replicate_succ, List.cons_append]

theorem counts_bounds {total maximum chunk : Nat} (hchunk : chunk ∈ counts total maximum) :
    0 < chunk ∧ chunk ≤ maximum := by
  rw [counts] at hchunk
  split at hchunk
  · simp at hchunk
  · rename_i hmaximum
    have hrest := Nat.mod_lt total (Nat.pos_of_ne_zero hmaximum)
    rw [List.mem_append, List.mem_replicate] at hchunk
    obtain ⟨-, rfl⟩ | hchunk := hchunk
    · exact ⟨Nat.pos_of_ne_zero hmaximum, Nat.le_refl _⟩
    · split at hchunk
      · simp at hchunk
      · rw [List.mem_singleton] at hchunk
        omega

end Chunking

/-! ### Limits of one request -/

theorem elementSize_pos (area : S7.Area) : 0 < area.elementSize := by cases area <;> decide

namespace MultiValidation

/-- A logical range, without the limit on the count of one packet. -/
def range (value : S7.MemoryRange) : Except S7.EncodeError Unit := do
  S7.validateMemoryRange { value with count := 1 }
  if value.count = 0 then
    throw (.invalidSize value.count)
  if value.lastWireAddress > 0xffffff then
    throw (.addressTooLarge value.start)

/-- The largest data length, which is counted in bits or in bytes. -/
def lengthLimit (area : S7.Area) : Nat :=
  if area.dataTransportSize == S7.octetTransportSize then S7.maxSectionSize else S7.maxSectionSize / 8

def readMaximum (pduLength : Nat) (area : S7.Area) : Nat :=
  if pduLength < 24 then 0 else
    min S7.maxSectionSize (min (pduLength - 18) (lengthLimit area) / area.elementSize)

/-- The length field of a successful read has two bytes. -/
def readLengthRepresentable (range : S7.MemoryRange) : Bool :=
  range.count * range.area.elementSize ≤ lengthLimit range.area

/-- Addresses of these areas are numbers, and the step between chunks is not settled. -/
def singleRequestOnly (area : S7.Area) : Bool :=
  area == .counters || area == .timers

def readFits (pduLength : Nat) (range : S7.MemoryRange) : Except S7.EncodeError Unit :=
  if singleRequestOnly range.area && readMaximum pduLength range.area < range.count then
    throw (.counterTimerSpansRequests range.count (readMaximum pduLength range.area))
  else
    pure ()

def writeMaximum (pduLength : Nat) (area : S7.Area) : Nat :=
  min S7.maxSectionSize (min (pduLength - 28) (lengthLimit area) / area.elementSize)

def writeFits (pduLength : Nat) (range : S7.MemoryRange) : Except S7.EncodeError Unit :=
  if singleRequestOnly range.area && writeMaximum pduLength range.area < range.count then
    throw (.counterTimerSpansRequests range.count (writeMaximum pduLength range.area))
  else
    pure ()

def write (pduLength : Nat) (item : S7.WriteItem) : Except S7.EncodeError Unit := do
  range item.range
  writeFits pduLength item.range
  let expected := item.range.count * item.range.area.elementSize
  if item.payload.length != expected then
    throw (.invalidSize item.payload.length)
  if writeMaximum pduLength item.range.area = 0 then
    throw (.invalidSize pduLength)

/-- Every logical write is validated before any packet is sent. -/
def writes (pduLength : Nat) (items : Array S7.WriteItem) : Except S7.EncodeError Unit :=
  items.toList.forM (write pduLength)

end MultiValidation

/-! ### Batches -/

def readResponseContribution (range : S7.MemoryRange) : Nat :=
  let size := range.count * range.area.elementSize
  4 + size + size % 2

/-- What a range adds to a read: an address to the request, an item to the response. -/
def readCosts : Batching.Costs S7.MemoryRange where
  admissible range := range.count > 0 && MultiValidation.readLengthRepresentable range
  request _ := 12
  response := readResponseContribution

def takeReadBatch (pduLength : Nat) : List S7.MemoryRange → Nat → Nat → Nat → List S7.MemoryRange →
    List S7.MemoryRange × List S7.MemoryRange :=
  Batching.take readCosts S7.maxItemCount pduLength

def writeRequestContribution (item : S7.WriteItem) : Nat :=
  12 + 4 + item.payload.length + item.payload.length % 2

/-- What an item adds to a write: its address and data to the request, a status to the response. -/
def writeCosts : Batching.Costs S7.WriteItem where
  admissible item := item.range.count > 0 &&
    item.payload.length == item.range.count * item.range.area.elementSize &&
    MultiValidation.readLengthRepresentable item.range
  request := writeRequestContribution
  response _ := 1

def takeWriteBatch (pduLength : Nat) : List S7.WriteItem → Nat → Nat → Nat → List S7.WriteItem →
    List S7.WriteItem × List S7.WriteItem :=
  Batching.take writeCosts S7.maxItemCount pduLength

/-- A plan for the next batch: what is selected, what remains, and that it is the longest
prefix that fits. -/
structure BatchPlan {α : Type} (costs : Batching.Costs α) (pduLength : Nat) (pending : List α) where
  selected : List α
  remaining : List α
  longest : Batching.Longest costs S7.maxItemCount pduLength 0 12 14 pending selected remaining

/-- The fixed parts of a request have 12 bytes, those of a response 14. -/
def planReadBatch (pduLength : Nat) (pending : List S7.MemoryRange) : BatchPlan readCosts pduLength pending where
  selected := (takeReadBatch pduLength pending 0 12 14 []).1
  remaining := (takeReadBatch pduLength pending 0 12 14 []).2
  longest := Batching.longest_take readCosts S7.maxItemCount pduLength pending 0 12 14

def planWriteBatch (pduLength : Nat) (pending : List S7.WriteItem) : BatchPlan writeCosts pduLength pending where
  selected := (takeWriteBatch pduLength pending 0 12 14 []).1
  remaining := (takeWriteBatch pduLength pending 0 12 14 []).2
  longest := Batching.longest_take writeCosts S7.maxItemCount pduLength pending 0 12 14

end ClassicS7
