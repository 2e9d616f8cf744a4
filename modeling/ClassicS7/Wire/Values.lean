import ClassicS7.Wire.Response

/-! Values in data blocks.

Integers of each width, floating point numbers by their bits, single bits, and strings whose
header says how much room they have and how much of it they use. A number of the right size
always decodes; a bit that was set, and a string that could be encoded, are read back. -/
namespace ClassicS7.Value
open Checks

inductive Error where
  | decode (error : DecodeError)
  | invalidBitIndex (index : Nat)
  | invalidMaximumLength (maximum limit : Nat)
  | valueTooLong (actual maximum : Nat)
  | invalidCharacter (codePoint : Nat)
  | invalidStringHeader (current maximum : Nat)
  | invalidUtf16 (offset : Nat) (message : String)
  deriving Repr, DecidableEq

def maxStringLength : Nat := 254
def maxWStringLength : Nat := 16382

def fromDecode {α : Type} (result : Except DecodeError α) : Except Error α := result.mapError .decode

def cursorAt (data : Bytes) (offset : Nat) : Cursor := { data, offset }

/-! ### Numbers -/

def getUInt8 (data : Bytes) (offset : Nat := 0) : Except Error UInt8 := do
  let (value, _) ← fromDecode (cursorAt data offset).readUInt8
  return value

def getUInt16 (data : Bytes) (offset : Nat := 0) : Except Error UInt16 := do
  let (value, _) ← fromDecode (cursorAt data offset).readUInt16BE
  return value

def getUInt32 (data : Bytes) (offset : Nat := 0) : Except Error UInt32 := do
  let (value, _) ← fromDecode (cursorAt data offset).readUInt32BE
  return value

def getUInt64 (data : Bytes) (offset : Nat := 0) : Except Error UInt64 := do
  let (value, _) ← fromDecode (cursorAt data offset).readUInt64BE
  return value

def getInt8 (data : Bytes) (offset : Nat := 0) : Except Error Int8 := UInt8.toInt8 <$> getUInt8 data offset
def getInt16 (data : Bytes) (offset : Nat := 0) : Except Error Int16 := UInt16.toInt16 <$> getUInt16 data offset
def getInt32 (data : Bytes) (offset : Nat := 0) : Except Error Int32 := UInt32.toInt32 <$> getUInt32 data offset
def getInt64 (data : Bytes) (offset : Nat := 0) : Except Error Int64 := UInt64.toInt64 <$> getUInt64 data offset
def getReal (data : Bytes) (offset : Nat := 0) : Except Error Float32 := Float32.ofBits <$> getUInt32 data offset
def getLReal (data : Bytes) (offset : Nat := 0) : Except Error Float := Float.ofBits <$> getUInt64 data offset

def putUInt8 (value : UInt8) : Bytes := [value]
def putUInt16 (value : UInt16) : Bytes := uint16BE value
def putUInt32 (value : UInt32) : Bytes := uint32BE value
def putUInt64 (value : UInt64) : Bytes := uint64BE value
def putInt8 (value : Int8) : Bytes := putUInt8 value.toUInt8
def putInt16 (value : Int16) : Bytes := putUInt16 value.toUInt16
def putInt32 (value : Int32) : Bytes := putUInt32 value.toUInt32
def putInt64 (value : Int64) : Bytes := putUInt64 value.toUInt64
def putReal (value : Float32) : Bytes := putUInt32 value.toBits
def putLReal (value : Float) : Bytes := putUInt64 value.toBits

/-- A decoder that never fails on data of a size. -/
def Total {α : Type} (size : Nat) (get : Bytes → Except Error α) : Prop :=
  ∀ data, data.length = size → ∃ value, get data = .ok value

theorem Total.map {α β : Type} {size : Nat} {get : Bytes → Except Error α} (h : Total size get) (f : α → β) :
    Total size fun data => f <$> get data := by
  intro data hlength
  obtain ⟨value, hvalue⟩ := h data hlength
  exact ⟨f value, congrArg (f <$> ·) hvalue⟩

/-- A read that has its bytes left is total. -/
theorem total_read {α : Type} {size : Nat} {read : Cursor → Except DecodeError (α × Cursor)}
    (h : ∀ data : Bytes, data.length = size → ∃ result, read ⟨data, 0⟩ = .ok result) :
    Total size fun data => do
      let (value, _) ← fromDecode (read (cursorAt data 0))
      return value := by
  intro data hlength
  obtain ⟨result, hresult⟩ := h data hlength
  exact ⟨result.1, bind_ok (congrArg fromDecode hresult) _⟩

theorem total_getUInt8 : Total 1 getUInt8 :=
  total_read fun _ h => ⟨_, Cursor.readUInt8_at (by omega)⟩

theorem total_getUInt16 : Total 2 getUInt16 :=
  total_read fun _ h => ⟨_, Cursor.readUInt16BE_at (by omega)⟩

theorem total_getUInt32 : Total 4 getUInt32 :=
  total_read fun _ h => ⟨_, Cursor.readUInt32BE_at (by omega)⟩

theorem total_getUInt64 : Total 8 getUInt64 :=
  total_read fun _ h => ⟨_, Cursor.readUInt64BE_at (by omega)⟩

/-! ### Bits -/

def getBit (data : Bytes) (byteOffset bitIndex : Nat) : Except Error Bool := do
  if bitIndex ≥ 8 then
    throw (.invalidBitIndex bitIndex)
  let value ← getUInt8 data byteOffset
  let mask := UInt8.shiftLeft 1 (UInt8.ofNat bitIndex)
  return UInt8.land value mask != 0

def setBit (value : UInt8) (bitIndex : Nat) (enabled : Bool) : Except Error UInt8 := do
  if bitIndex ≥ 8 then
    throw (.invalidBitIndex bitIndex)
  let mask := UInt8.shiftLeft 1 (UInt8.ofNat bitIndex)
  return if enabled then UInt8.lor value mask else UInt8.land value mask.complement

theorem total_getBit {bitIndex : Nat} (h : bitIndex < 8) : Total 1 fun data => getBit data 0 bitIndex := by
  intro data hlength
  obtain ⟨value, hvalue⟩ := total_getUInt8 data hlength
  unfold getBit
  exact ⟨_, (guard_ok (Nat.not_le.mpr h)).trans (bind_ok hvalue _)⟩

/-- What a mask has set, the mask finds set. -/
theorem or_and_self (value mask : UInt8) : (value ||| mask) &&& mask = mask := by
  refine UInt8.toBitVec_inj.mp (BitVec.eq_of_getLsbD_eq fun i hi => ?_)
  simp only [UInt8.toBitVec_and, UInt8.toBitVec_or, BitVec.getLsbD_and, BitVec.getLsbD_or]
  cases mask.toBitVec.getLsbD i <;> simp

/-- What a mask has cleared, the mask finds clear. -/
theorem and_not_and_self (value mask : UInt8) : (value &&& ~~~mask) &&& mask = 0 := by
  refine UInt8.toBitVec_inj.mp (BitVec.eq_of_getLsbD_eq fun i hi => ?_)
  simp only [UInt8.toBitVec_and, UInt8.toBitVec_not, BitVec.getLsbD_and, BitVec.getLsbD_not]
  cases mask.toBitVec.getLsbD i <;> simp

theorem bitIndex_of_setBit {value updated : UInt8} {bitIndex : Nat} {enabled : Bool}
    (h : setBit value bitIndex enabled = .ok updated) : bitIndex < 8 := by
  unfold setBit at h
  exact Nat.not_le.mp (guard_eq_ok.mp h).1

/-- A bit that has been set is read back. -/
theorem getBit_setBit {value updated : UInt8} {bitIndex : Nat} {enabled : Bool}
    (h : setBit value bitIndex enabled = .ok updated) : getBit [updated] 0 bitIndex = .ok enabled := by
  unfold setBit at h
  obtain ⟨hindex, h⟩ := guard_eq_ok.mp h
  have hbyte : getUInt8 [updated] 0 = .ok updated := rfl
  have hmasks : ∀ index : Fin 8, UInt8.shiftLeft 1 (UInt8.ofNat index.val) ≠ 0 := by decide
  have hmask := hmasks ⟨bitIndex, Nat.lt_of_not_le hindex⟩
  unfold getBit
  rw [guard_ok hindex, bind_ok hbyte, ← Except.ok.inj h]
  refine congrArg Except.ok ?_
  cases enabled with
  | true => exact bne_iff_ne.mpr fun h => hmask ((or_and_self value _).symm.trans h)
  | false => exact bne_eq_false_iff_eq.mpr (and_not_and_self value _)

/-! ### Strings of single bytes -/

def zeros (count : Nat) : Bytes := List.replicate count 0

def encodeLatin1 : List Char → Except Error (List UInt8)
  | [] => pure []
  | character :: rest => do
    let codePoint := character.toNat
    if codePoint > 0xff then
      throw (.invalidCharacter codePoint)
    return UInt8.ofNat codePoint :: (← encodeLatin1 rest)

def encodeString (maximum : Nat) (value : String) : Except Error Bytes := do
  if maximum > maxStringLength then
    throw (.invalidMaximumLength maximum maxStringLength)
  let encoded ← encodeLatin1 value.toList
  if encoded.length > maximum then
    throw (.valueTooLong encoded.length maximum)
  return [UInt8.ofNat maximum, UInt8.ofNat encoded.length] ++ encoded ++ zeros (maximum - encoded.length)

def decodeString (data : Bytes) (offset : Nat := 0) : Except Error String := do
  let cursor := cursorAt data offset
  let (maximum, cursor) ← fromDecode cursor.readUInt8
  let (current, cursor) ← fromDecode cursor.readUInt8
  if maximum.toNat > maxStringLength then
    throw (.invalidMaximumLength maximum.toNat maxStringLength)
  if current > maximum then
    throw (.invalidStringHeader current.toNat maximum.toNat)
  let (content, _) ← fromDecode (cursor.readBytes maximum.toNat)
  return String.ofList ((slice content 0 current.toNat).map fun byte => Char.ofNat byte.toNat)

theorem decode_encodeLatin1 {characters : List Char} {encoded : List UInt8}
    (h : encodeLatin1 characters = .ok encoded) :
    encoded.map (fun byte => Char.ofNat byte.toNat) = characters := by
  induction characters generalizing encoded with
  | nil =>
    cases h
    rfl
  | cons character rest ih =>
    unfold encodeLatin1 at h
    obtain ⟨hcode, h⟩ := guard_eq_ok.mp h
    obtain ⟨later, hlater, h⟩ := bind_eq_ok.mp h
    cases h
    have hbyte : (UInt8.ofNat character.toNat).toNat = character.toNat := Nat.mod_eq_of_lt (by omega)
    rw [List.map_cons, ih hlater, hbyte, Char.ofNat_toNat]

/-- A header in order is followed by as many bytes as it says are room. -/
theorem decodeString_header {maximum current : UInt8} {content : Bytes} (hmaximum : maximum.toNat ≤ maxStringLength)
    (hcurrent : current ≤ maximum) (hroom : content.length = maximum.toNat) :
    decodeString (maximum :: current :: content) =
      .ok (String.ofList ((content.take current.toNat).map fun byte => Char.ofNat byte.toNat)) := by
  have hfirst : fromDecode (Cursor.readUInt8 ⟨maximum :: current :: content, 0⟩) =
      .ok (maximum, ⟨maximum :: current :: content, 1⟩) := rfl
  have hsecond : fromDecode (Cursor.readUInt8 ⟨maximum :: current :: content, 1⟩) =
      .ok (current, ⟨maximum :: current :: content, 2⟩) := rfl
  have hcontent : Cursor.readBytes ⟨maximum :: current :: content, 2⟩ maximum.toNat =
      .ok (content, ⟨maximum :: current :: content, 2 + maximum.toNat⟩) := by
    have hdrop : (maximum :: current :: content).drop 2 = content ++ [] := by simp
    rw [Cursor.readBytes_at (by simp; omega), slice_of_drop hdrop (by omega)]
  unfold decodeString
  refine (bind_ok hfirst _).trans ((bind_ok hsecond _).trans ?_)
  refine (guard_ok (Nat.not_lt.mpr hmaximum)).trans ((guard_ok (UInt8.not_lt.mpr hcurrent)).trans ?_)
  exact bind_ok (congrArg fromDecode hcontent) _

/-- A string that could be encoded is read back from what was written. -/
theorem decodeString_encodeString {maximum : Nat} {value : String} {data : Bytes}
    (h : encodeString maximum value = .ok data) : decodeString data = .ok value := by
  unfold encodeString at h
  obtain ⟨hmaximum, h⟩ := guard_eq_ok.mp h
  obtain ⟨encoded, hencoded, h⟩ := bind_eq_ok.mp h
  obtain ⟨hlength, h⟩ := guard_eq_ok.mp h
  cases h
  have hsmall : maximum ≤ 254 := Nat.le_of_not_lt hmaximum
  have hmaximum' : (UInt8.ofNat maximum).toNat = maximum := Nat.mod_eq_of_lt (by omega)
  have hlength' : (UInt8.ofNat encoded.length).toNat = encoded.length := Nat.mod_eq_of_lt (by omega)
  have hdata : [UInt8.ofNat maximum, UInt8.ofNat encoded.length] ++ encoded ++ zeros (maximum - encoded.length) =
      UInt8.ofNat maximum :: UInt8.ofNat encoded.length :: (encoded ++ zeros (maximum - encoded.length)) := by simp
  rw [hdata]
  refine (decodeString_header ?_ ?_ ?_).trans (congrArg Except.ok ?_)
  · rw [hmaximum']
    exact hsmall
  · rw [UInt8.le_iff_toNat_le, hmaximum', hlength']
    exact Nat.le_of_not_lt hlength
  · simp only [List.length_append, zeros, List.length_replicate, hmaximum']
    omega
  · rw [hlength', List.take_left, decode_encodeLatin1 hencoded, String.ofList_toList]

/-! ### Strings of UTF-16 units -/

def encodeUtf16Char (character : Char) : List UInt16 :=
  let codePoint := character.toNat
  if codePoint < 0x10000 then
    [UInt16.ofNat codePoint]
  else
    let scalar := codePoint - 0x10000
    [UInt16.ofNat (0xd800 + scalar / 0x400), UInt16.ofNat (0xdc00 + scalar % 0x400)]

def encodeUtf16 : List Char → List UInt16
  | [] => []
  | character :: rest => encodeUtf16Char character ++ encodeUtf16 rest

def encodeUtf16Units : List UInt16 → Bytes
  | [] => []
  | unit :: rest => uint16BE unit ++ encodeUtf16Units rest

def decodeUtf16Units : List UInt16 → Nat → Except Error (List Char)
  | [], _ => pure []
  | unit :: rest, offset =>
    let value := unit.toNat
    if value ≥ 0xd800 && value ≤ 0xdbff then
      match rest with
      | low :: tail => do
        let lowValue := low.toNat
        if lowValue < 0xdc00 || lowValue > 0xdfff then
          throw (.invalidUtf16 offset "high surrogate is not followed by a low surrogate")
        let codePoint := 0x10000 + (value - 0xd800) * 0x400 + (lowValue - 0xdc00)
        return Char.ofNat codePoint :: (← decodeUtf16Units tail (offset + 2))
      | [] => throw (.invalidUtf16 offset "trailing high surrogate")
    else if value ≥ 0xdc00 && value ≤ 0xdfff then
      throw (.invalidUtf16 offset "unpaired low surrogate")
    else do
      return Char.ofNat value :: (← decodeUtf16Units rest (offset + 1))

def readUtf16Units : Nat → Cursor → Except Error (List UInt16)
  | 0, _ => pure []
  | count + 1, cursor => do
    let (unit, cursor) ← fromDecode cursor.readUInt16BE
    return unit :: (← readUtf16Units count cursor)

def encodeWString (maximum : Nat) (value : String) : Except Error Bytes := do
  if maximum > maxWStringLength then
    throw (.invalidMaximumLength maximum maxWStringLength)
  let units := encodeUtf16 value.toList
  if units.length > maximum then
    throw (.valueTooLong units.length maximum)
  return uint16BE (UInt16.ofNat maximum) ++ uint16BE (UInt16.ofNat units.length) ++
    encodeUtf16Units units ++ zeros ((maximum - units.length) * 2)

def decodeWString (data : Bytes) (offset : Nat := 0) : Except Error String := do
  let cursor := cursorAt data offset
  let (maximum, cursor) ← fromDecode cursor.readUInt16BE
  let (current, cursor) ← fromDecode cursor.readUInt16BE
  if maximum.toNat > maxWStringLength then
    throw (.invalidMaximumLength maximum.toNat maxWStringLength)
  if current > maximum then
    throw (.invalidStringHeader current.toNat maximum.toNat)
  let units ← readUtf16Units current.toNat cursor
  let _ ← fromDecode (cursor.readBytes (maximum.toNat * 2))
  return String.ofList (← decodeUtf16Units units 0)

/-- The units of a character decode to it, whatever follows them. -/
theorem decodeUtf16Units_char (character : Char) (rest : List UInt16) (offset : Nat) :
    decodeUtf16Units (encodeUtf16Char character ++ rest) offset =
      (decodeUtf16Units rest (offset + (encodeUtf16Char character).length) >>= fun later =>
        .ok (character :: later)) := by
  have hvalid : character.toNat < 0xd800 ∨ 0xdfff < character.toNat ∧ character.toNat < 0x110000 := character.valid
  by_cases hplane : character.toNat < 0x10000
  · have hunit : (UInt16.ofNat character.toNat).toNat = character.toNat := by
      rw [UInt16.toNat_ofNat', Nat.mod_eq_of_lt hplane]
    have hhigh : ¬ (0xd800 ≤ character.toNat ∧ character.toNat ≤ 0xdbff) := by omega
    have hlow : ¬ (0xdc00 ≤ character.toNat ∧ character.toNat ≤ 0xdfff) := by omega
    rw [encodeUtf16Char, if_pos hplane, List.singleton_append, decodeUtf16Units.eq_def]
    simp only [hunit, ge_iff_le, Bool.and_eq_true, decide_eq_true_eq, if_neg hhigh, if_neg hlow, Char.ofNat_toNat]
    rfl
  · have hhigh : (UInt16.ofNat (0xd800 + (character.toNat - 0x10000) / 0x400)).toNat =
        0xd800 + (character.toNat - 0x10000) / 0x400 := by
      rw [UInt16.toNat_ofNat', Nat.mod_eq_of_lt (by omega)]
    have hlow : (UInt16.ofNat (0xdc00 + (character.toNat - 0x10000) % 0x400)).toNat =
        0xdc00 + (character.toNat - 0x10000) % 0x400 := by
      rw [UInt16.toNat_ofNat', Nat.mod_eq_of_lt (by omega)]
    have hfirst : 0xd800 ≤ 0xd800 + (character.toNat - 0x10000) / 0x400 ∧
        0xd800 + (character.toNat - 0x10000) / 0x400 ≤ 0xdbff := by omega
    have hsecond : ¬ (0xdc00 + (character.toNat - 0x10000) % 0x400 < 0xdc00 ∨
        0xdfff < 0xdc00 + (character.toNat - 0x10000) % 0x400) := by omega
    have hpoint : 0x10000 + (0xd800 + (character.toNat - 0x10000) / 0x400 - 0xd800) * 0x400 +
        (0xdc00 + (character.toNat - 0x10000) % 0x400 - 0xdc00) = character.toNat := by omega
    rw [encodeUtf16Char, if_neg hplane, List.cons_append, List.singleton_append, decodeUtf16Units.eq_def]
    simp only [hhigh, hlow, ge_iff_le, gt_iff_lt, Bool.and_eq_true, Bool.or_eq_true, decide_eq_true_eq, if_pos hfirst,
      if_neg hsecond, hpoint, Char.ofNat_toNat]
    rfl

theorem decodeUtf16Units_encodeUtf16 (characters : List Char) (offset : Nat) :
    decodeUtf16Units (encodeUtf16 characters) offset = .ok characters := by
  induction characters generalizing offset with
  | nil => rfl
  | cons character rest ih =>
    rw [encodeUtf16, decodeUtf16Units_char]
    exact bind_ok (ih _) _

theorem length_encodeUtf16Units (units : List UInt16) : (encodeUtf16Units units).length = 2 * units.length := by
  induction units with
  | nil => rfl
  | cons unit rest ih =>
    rw [encodeUtf16Units, List.length_append, ih, length_uint16BE, List.length_cons]
    omega

theorem readUInt16BE_of_drop {data rest : Bytes} {offset : Nat} {value : UInt16}
    (h : data.drop offset = uint16BE value ++ rest) :
    Cursor.readUInt16BE ⟨data, offset⟩ = .ok (value, ⟨data, offset + 2⟩) := by
  have hlength := congrArg List.length h
  rw [List.length_drop, List.length_append, length_uint16BE] at hlength
  have hword : wordAt data offset = value.toNat :=
    (wordAt_of_drop h 0 (by simp)).trans (S7.word_uint16BE value)
  rw [Cursor.readUInt16BE_at (by omega), hword, UInt16.ofNat_toNat]

/-- Units that lie from an offset on are read there. -/
theorem readUtf16Units_of_drop {data rest : Bytes} {offset : Nat} {units : List UInt16}
    (h : data.drop offset = encodeUtf16Units units ++ rest) :
    readUtf16Units units.length ⟨data, offset⟩ = .ok units := by
  induction units generalizing offset with
  | nil => rfl
  | cons unit later ih =>
    rw [encodeUtf16Units, List.append_assoc] at h
    have hlater := ih (drop_of_drop h rfl)
    exact (bind_ok (congrArg fromDecode (readUInt16BE_of_drop h)) _).trans (bind_ok hlater _)

/-- A header in order is followed by the units it says are used, and by the room for the others. -/
theorem decodeWString_header {maximum current : UInt16} {units : List UInt16} {room : Bytes}
    (hmaximum : maximum.toNat ≤ maxWStringLength) (hcurrent : current ≤ maximum) (hunits : units.length = current.toNat)
    (hroom : (encodeUtf16Units units ++ room).length = maximum.toNat * 2) :
    decodeWString (uint16BE maximum ++ (uint16BE current ++ (encodeUtf16Units units ++ room))) =
      String.ofList <$> decodeUtf16Units units 0 := by
  generalize hdata : uint16BE maximum ++ (uint16BE current ++ (encodeUtf16Units units ++ room)) = data
  have hstart : data.drop 0 = uint16BE maximum ++ (uint16BE current ++ (encodeUtf16Units units ++ room)) := hdata.symm
  have hnext : data.drop 2 = uint16BE current ++ (encodeUtf16Units units ++ room) := drop_of_drop hstart rfl
  have hcontent : data.drop 4 = encodeUtf16Units units ++ room := drop_of_drop hnext rfl
  have hlength : data.length = 4 + maximum.toNat * 2 := by
    rw [← hdata, List.length_append, List.length_append, hroom, length_uint16BE, length_uint16BE]
    omega
  unfold decodeWString
  refine (bind_ok (congrArg fromDecode (readUInt16BE_of_drop hstart)) _).trans ?_
  refine (bind_ok (congrArg fromDecode (readUInt16BE_of_drop hnext)) _).trans ?_
  refine (guard_ok (Nat.not_lt.mpr hmaximum)).trans ((guard_ok (UInt16.not_lt.mpr hcurrent)).trans ?_)
  refine (bind_ok (hunits ▸ readUtf16Units_of_drop hcontent) _).trans ?_
  refine (bind_ok (congrArg fromDecode (Cursor.readBytes_at (by omega))) _).trans ?_
  cases decodeUtf16Units units 0 <;> rfl

/-- The same of strings of UTF-16 units, with characters of one unit and of two. -/
theorem decodeWString_encodeWString {maximum : Nat} {value : String} {data : Bytes}
    (h : encodeWString maximum value = .ok data) : decodeWString data = .ok value := by
  unfold encodeWString at h
  obtain ⟨hmaximum, h⟩ := guard_eq_ok.mp h
  obtain ⟨hlength, h⟩ := guard_eq_ok.mp h
  obtain rfl := Except.ok.inj h
  have hsmall : maximum ≤ 16382 := Nat.le_of_not_lt hmaximum
  have hfits : (encodeUtf16 value.toList).length ≤ maximum := Nat.le_of_not_lt hlength
  have hmaximum' : (UInt16.ofNat maximum).toNat = maximum := by
    rw [UInt16.toNat_ofNat', Nat.mod_eq_of_lt (by omega)]
  have hlength' : (UInt16.ofNat (encodeUtf16 value.toList).length).toNat = (encodeUtf16 value.toList).length := by
    rw [UInt16.toNat_ofNat', Nat.mod_eq_of_lt (by omega)]
  rw [List.append_assoc, List.append_assoc]
  refine (decodeWString_header ?_ ?_ hlength'.symm ?_).trans ?_
  · rw [hmaximum']
    exact hsmall
  · rw [UInt16.le_iff_toNat_le, hmaximum', hlength']
    exact hfits
  · rw [List.length_append, length_encodeUtf16Units, zeros, List.length_replicate, hmaximum']
    omega
  · rw [decodeUtf16Units_encodeUtf16]
    exact congrArg Except.ok String.ofList_toList

end ClassicS7.Value
