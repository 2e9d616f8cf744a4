/-! Positions and slices of byte strings.

A packet is read by position: one byte, a big-endian word, or the bytes between
two offsets. Both styles of reader, the one that advances a cursor and the one
that cuts slices, come down to these three, and `slice_eq_cons` unrolls a slice
of known width into its bytes, so that comparisons of slices become linear
arithmetic on positions. -/
namespace ClassicS7

abbrev Bytes := List UInt8

/-- The byte at a position, zero past the end. -/
def byteAt (data : Bytes) (i : Nat) : Nat := (data.getD i 0).toNat

/-- The big-endian word at a position. -/
def wordAt (data : Bytes) (i : Nat) : Nat := byteAt data i * 256 + byteAt data (i + 1)

/-- The bytes from `start` up to `stop`, cut short at the end of the data. -/
def slice {α : Type} (data : List α) (start stop : Nat) : List α := (data.drop start).take (stop - start)

/-- The number a big-endian byte string spells. -/
def fromBytes (data : Bytes) : Nat := data.foldl (fun n byte => n * 256 + byte.toNat) 0

/-- A number as one byte; the callers keep it in range. -/
def pack8 (n : Nat) : Bytes := [UInt8.ofNat n]

/-- A number as a big-endian word; the callers keep it in range. -/
def pack16 (n : Nat) : Bytes := [UInt8.ofNat (n / 256), UInt8.ofNat n]

/-- A number as three big-endian bytes; the callers keep it in range. -/
def pack24 (n : Nat) : Bytes := [UInt8.ofNat (n / 65536), UInt8.ofNat (n / 256), UInt8.ofNat n]

/-! ### Bytes and words -/

/-- A text as its bytes. -/
def utf8 (text : String) : Bytes := text.toUTF8.data.toList

theorem byteAt_lt (data : Bytes) (i : Nat) : byteAt data i < 256 := UInt8.toNat_lt _

theorem wordAt_lt (data : Bytes) (i : Nat) : wordAt data i < 65536 := by
  have high := byteAt_lt data i
  have low := byteAt_lt data (i + 1)
  simp only [wordAt]
  omega

theorem byteAt_eq_getElem (data : Bytes) (i : Nat) (h : i < data.length) :
    byteAt data i = data[i].toNat := by
  simp [byteAt, List.getD, List.getElem?_eq_getElem h]

theorem byteAt_drop (data : Bytes) (k i : Nat) : byteAt (data.drop k) i = byteAt data (k + i) := by
  simp [byteAt, List.getD]

theorem byteAt_slice (data : Bytes) (a b i : Nat) (h : a + i < b) :
    byteAt (slice data a b) i = byteAt data (a + i) := by
  have hi : i < b - a := by omega
  simp [byteAt, slice, List.getD, hi]

theorem wordAt_drop (data : Bytes) (k i : Nat) : wordAt (data.drop k) i = wordAt data (k + i) := by
  simp only [wordAt, byteAt_drop, Nat.add_assoc]

theorem wordAt_slice (data : Bytes) (a b i : Nat) (h : a + i + 1 < b) :
    wordAt (slice data a b) i = wordAt data (a + i) := by
  simp only [wordAt]
  rw [byteAt_slice _ _ _ _ (by omega), byteAt_slice _ _ _ _ (by omega), Nat.add_assoc]

theorem byteAt_append_left (data rest : Bytes) (i : Nat) (h : i < data.length) :
    byteAt (data ++ rest) i = byteAt data i := by
  simp [byteAt, List.getD, List.getElem?_append_left h]

theorem wordAt_append_left (data rest : Bytes) (i : Nat) (h : i + 1 < data.length) :
    wordAt (data ++ rest) i = wordAt data i := by
  rw [wordAt, wordAt, byteAt_append_left _ _ _ (by omega), byteAt_append_left _ _ _ h]

/-- Two bytes are equal when the numbers they stand for are. -/
theorem byte_eq_iff (a b : UInt8) : a = b ↔ a.toNat = b.toNat := UInt8.toNat_inj.symm

theorem ofNat_byteAt (data : Bytes) (i : Nat) (h : i < data.length) :
    UInt8.ofNat (byteAt data i) = data[i] := by
  rw [byteAt_eq_getElem data i h, UInt8.ofNat_toNat]

/-! ### Slices -/

@[simp] theorem length_slice {α : Type} (data : List α) (a b : Nat) :
    (slice data a b).length = min b data.length - a := by
  simp only [slice, List.length_take, List.length_drop]
  omega

theorem slice_slice {α : Type} (data : List α) (a b c d : Nat) :
    slice (slice data a b) c d = slice data (a + c) (min b (a + d)) := by
  simp only [slice, List.drop_take, List.drop_drop, List.take_take]
  congr 1
  omega

theorem slice_drop {α : Type} (data : List α) (k a b : Nat) :
    slice (data.drop k) a b = slice data (k + a) (k + b) := by
  simp only [slice, List.drop_drop]
  congr 1
  omega

/-- Everything from an offset on. -/
theorem slice_to_end {α : Type} (data : List α) (a b : Nat) (h : data.length ≤ b) :
    slice data a b = data.drop a := by
  simp only [slice]
  exact List.take_of_length_le (by simp only [List.length_drop]; omega)

theorem slice_append {α : Type} (data : List α) (a b c : Nat) (hab : a ≤ b) (hbc : b ≤ c) :
    slice data a b ++ slice data b c = slice data a c := by
  have hsplit : c - a = (b - a) + (c - b) := by omega
  simp only [slice, hsplit, List.take_add, List.drop_drop]
  congr 3
  omega

/-- A slice, and everything after it. -/
theorem slice_append_drop {α : Type} (data : List α) (a b : Nat) (hab : a ≤ b) :
    slice data a b ++ data.drop b = data.drop a := by
  rw [slice, show data.drop b = (data.drop a).drop (b - a) by rw [List.drop_drop]; congr 1; omega,
    List.take_append_drop]

theorem slice_of_le {α : Type} (data : List α) (a b : Nat) (h : b ≤ a) : slice data a b = [] := by
  simp [slice, Nat.sub_eq_zero_of_le h]

theorem slice_of_drop {α : Type} {data front rest : List α} {start stop : Nat} (h : data.drop start = front ++ rest)
    (hstop : stop = start + front.length) : slice data start stop = front := by
  rw [slice, h, hstop, Nat.add_sub_cancel_left, List.take_left]

theorem drop_of_drop {α : Type} {data front rest : List α} {start stop : Nat} (h : data.drop start = front ++ rest)
    (hstop : stop = start + front.length) : data.drop stop = rest := by
  rw [hstop, ← List.drop_drop, h, List.drop_left]

theorem byteAt_of_drop {data front rest : Bytes} {offset : Nat} (h : data.drop offset = front ++ rest) (i : Nat)
    (hi : i < front.length) : byteAt data (offset + i) = byteAt front i := by
  rw [← byteAt_drop, h, byteAt_append_left _ _ _ hi]

theorem wordAt_of_drop {data front rest : Bytes} {offset : Nat} (h : data.drop offset = front ++ rest) (i : Nat)
    (hi : i + 1 < front.length) : wordAt data (offset + i) = wordAt front i := by
  rw [← wordAt_drop, h, wordAt_append_left _ _ _ hi]

theorem slice_cons {α : Type} (data : List α) (a b : Nat) (hab : a < b) (h : a < data.length) :
    slice data a b = data[a] :: slice data (a + 1) b := by
  simp only [slice]
  rw [List.drop_eq_getElem_cons h, show b - a = (b - (a + 1)) + 1 by omega, List.take_succ_cons]

/-- One byte of a comparison between a slice and a literal. -/
theorem slice_eq_cons (data : Bytes) (a b : Nat) (byte : UInt8) (rest : Bytes) (hab : a < b)
    (h : a < data.length) :
    slice data a b = byte :: rest ↔ byteAt data a = byte.toNat ∧ slice data (a + 1) b = rest := by
  rw [slice_cons data a b hab h, List.cons.injEq, byte_eq_iff, byteAt_eq_getElem data a h]

theorem slice_eq_nil (data : Bytes) (a b : Nat) (h : b ≤ a) : slice data a b = [] ↔ True :=
  iff_true_intro (slice_of_le data a b h)

/-- A word of a comparison between a slice and a packed literal. -/
theorem slice_eq_pack16 (data : Bytes) (a n : Nat) (h : a + 2 ≤ data.length) (hn : n ≤ 65535) :
    slice data a (a + 2) = pack16 n ↔ wordAt data a = n := by
  have hlow := byteAt_lt data (a + 1)
  rw [pack16, slice_eq_cons _ _ _ _ _ (by omega) (by omega), slice_eq_cons _ _ _ _ _ (by omega) (by omega),
    slice_eq_nil _ _ _ (by omega), and_true, UInt8.toNat_ofNat', UInt8.toNat_ofNat', wordAt]
  have hhigh := byteAt_lt data a
  omega

/-- A packed word is read back. -/
theorem toNat_pack16 (n : Nat) (h : n ≤ 65535) :
    (UInt8.ofNat (n / 256)).toNat * 256 + (UInt8.ofNat n).toNat = n := by
  rw [UInt8.toNat_ofNat', UInt8.toNat_ofNat']
  omega

/-- Two big-endian bytes spell the word at their position. -/
theorem fromBytes_slice_two (data : Bytes) (a : Nat) (h : a + 2 ≤ data.length) :
    fromBytes (slice data a (a + 2)) = wordAt data a := by
  rw [slice_cons data a _ (by omega) (by omega), slice_cons data (a + 1) _ (by omega) (by omega),
    slice_of_le _ _ _ (by omega)]
  simp only [fromBytes, List.foldl_cons, List.foldl_nil, Nat.zero_mul, Nat.zero_add, wordAt,
    byteAt_eq_getElem data a (by omega), byteAt_eq_getElem data (a + 1) (by omega)]

end ClassicS7
