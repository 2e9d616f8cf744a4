import ClassicS7.Wire.UserData

/-! USER_DATA packets as the oracles cut them.

The oracles slice the twelve parameter bytes and the data section out of a packet
and compare slices; these lemmas say which bytes of the packet each comparison is
about. -/
namespace ClassicS7.Oracle.UserData

/-- The first five parameter bytes, compared as a slice. -/
theorem parameterHead_iff (pdu : Bytes) (h : 22 ≤ pdu.length) :
    slice (slice pdu 10 22) 0 5 = [0, 1, 0x12, 8, 0x12] ↔
      (byteAt pdu 10 = 0 ∧ byteAt pdu 11 = 1 ∧ byteAt pdu 12 = 0x12) ∧ byteAt pdu 13 = 8 ∧
        byteAt pdu 14 = 0x12 := by
  rw [slice_slice]
  rw [slice_eq_cons _ _ _ _ _ (by omega) (by omega), slice_eq_cons _ _ _ _ _ (by omega) (by omega),
    slice_eq_cons _ _ _ _ _ (by omega) (by omega), slice_eq_cons _ _ _ _ _ (by omega) (by omega),
    slice_eq_cons _ _ _ _ _ (by omega) (by omega), slice_eq_nil _ _ _ (by omega), and_true]
  simp only [and_assoc]
  rfl

/-- A byte by its halves. -/
theorem halves_iff (n group : Nat) (hgroup : group < 16) :
    n >>> 4 = 8 ∧ n &&& 15 = group ↔ n = 128 + group := by
  rw [Nat.shiftRight_eq_div_pow, show (15 : Nat) = 2 ^ 4 - 1 from rfl, Nat.and_two_pow_sub_one_eq_mod]
  omega

theorem parameterByte (pdu : Bytes) (i : Nat) (h : i < 12) :
    byteAt (slice pdu 10 22) i = byteAt pdu (10 + i) :=
  byteAt_slice pdu 10 22 i (by omega)

theorem errorWord (pdu : Bytes) (h : 22 ≤ pdu.length) :
    fromBytes (slice (slice pdu 10 22) 10 12) = wordAt pdu 20 := by
  rw [slice_slice]
  exact fromBytes_slice_two pdu 20 h

/-- The type/group byte, as the oracles build it. -/
theorem typeGroup_eq (group : Nat) (hgroup : group < 16) : 0x80 ||| group = 128 + group :=
  (Nat.two_pow_add_eq_or_of_lt (i := 7) (by omega) 1).symm

/-- The two error bytes, compared as a slice. -/
theorem errorBytes_iff (pdu : Bytes) (h : 22 ≤ pdu.length) :
    (slice pdu 10 22).drop 10 = [0, 0] ↔ wordAt pdu 20 = 0 := by
  have hslice : (slice pdu 10 22).drop 10 = slice pdu 20 22 := by
    rw [slice, List.drop_take, List.drop_drop, slice]
  have hzero : (0 : UInt8).toNat = 0 := rfl
  rw [hslice, slice_eq_cons _ _ _ _ _ (by omega) (by omega),
    slice_eq_cons _ _ _ _ _ (by omega) (by omega), slice_eq_nil _ _ _ (by omega), and_true, hzero,
    wordAt]
  omega

/-- The head of a data item, compared as a slice. -/
theorem itemHead_iff (pdu : Bytes) (h : 24 ≤ pdu.length) :
    slice (pdu.drop 22) 0 2 = [0xff, 0x09] ↔ byteAt pdu 22 = 255 ∧ byteAt pdu 23 = 9 := by
  rw [slice_drop, slice_eq_cons _ _ _ _ _ (by omega) (by omega),
    slice_eq_cons _ _ _ _ _ (by omega) (by omega), slice_eq_nil _ _ _ (by omega), and_true]
  rfl

/-- The payload size, as the oracles read it. -/
theorem payloadWord (pdu : Bytes) (h : 26 ≤ pdu.length) :
    fromBytes (slice (pdu.drop 22) 2 4) = wordAt pdu 24 := by
  rw [slice_drop]
  exact fromBytes_slice_two pdu 24 (by omega)

end ClassicS7.Oracle.UserData
