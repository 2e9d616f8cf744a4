import ClassicS7.Wire.Items
import ClassicS7.Wire.UserData

/-! Management services: system status lists, the clock, the session password and control.

A system status list is a sequence of records of one length, and the typed readers take
their fields from fixed places in it. The clock is a ten-byte date in binary-coded decimals,
and a date that the calendar admits is read back as it was written. -/
namespace ClassicS7.S7
open Checks

def userDataRequestMethod : UInt8 := 0x11
def userDataRequestType : UInt8 := 0x40
def szlGroup : UInt8 := 0x04
def readSzlSubfunction : UInt8 := 0x01
def readClockSubfunction : UInt8 := 0x01
def startFunction : UInt8 := 0x28
def stopFunction : UInt8 := 0x29

/-- Fragments share a data-unit reference; the sequence byte is the PLC's own token. -/
def correlateUserDataFragment (expected : Option UInt8) (response : UserDataResponse) :
    Except DecodeError UInt8 := do
  if let some previous := expected then
    if response.dataUnitReference != previous then
      throw (.invalidField 18
        s!"USER_DATA data-unit reference changed from {previous} to {response.dataUnitReference}")
  return response.dataUnitReference

/-! ### Requests -/

def encodeUserDataHeader (reference : UInt16) (parameters data : Bytes) : Except EncodeError Bytes := do
  if parameters.length > maxSectionSize then
    throw (.parametersTooLarge parameters.length maxSectionSize)
  if data.length > maxSectionSize then
    throw (.dataTooLarge data.length maxSectionSize)
  return [protocolId, userDataType, 0, 0] ++ uint16BE reference ++
    uint16BE (UInt16.ofNat parameters.length) ++ uint16BE (UInt16.ofNat data.length) ++ parameters ++ data

def userDataParameters (group subfunction sequence : UInt8) (continuation : Bool) : Bytes :=
  if continuation then
    [0, 1, 0x12, 0x08, userDataResponseMethod, UInt8.lor userDataRequestType group, subfunction, sequence,
      0, 0, 0, 0]
  else
    [0, 1, 0x12, 0x04, userDataRequestMethod, UInt8.lor userDataRequestType group, subfunction, sequence]

def encodeReadSzl (reference id index : UInt16) : Except EncodeError Bytes :=
  encodeUserDataHeader reference (userDataParameters szlGroup readSzlSubfunction 0 false)
    ([0xff, octetTransportSize] ++ uint16BE 4 ++ uint16BE id ++ uint16BE index)

def encodeReadSzlContinuation (reference : UInt16) (sequence : UInt8) : Except EncodeError Bytes :=
  encodeUserDataHeader reference (userDataParameters szlGroup readSzlSubfunction sequence true) [0x0a, 0, 0, 0]

def encodeReadClock (reference : UInt16) : Except EncodeError Bytes :=
  encodeUserDataHeader reference (userDataParameters clockGroup readClockSubfunction 0 false) [0x0a, 0, 0, 0]

def encodeSetClock (reference : UInt16) (payload : Bytes) : Except EncodeError Bytes := do
  if payload.length != 10 then
    throw (.invalidPayloadSize payload.length 10)
  encodeUserDataHeader reference (userDataParameters clockGroup setClockSubfunction 0 false)
    ([0xff, octetTransportSize] ++ uint16BE 10 ++ payload)

def encodeSetPassword (reference : UInt16) (encodedPassword : Bytes) : Except EncodeError Bytes := do
  if encodedPassword.length != 8 then
    throw (.invalidPayloadSize encodedPassword.length 8)
  encodeUserDataHeader reference (userDataParameters securityGroup enterPasswordSubfunction 0 false)
    ([0xff, octetTransportSize] ++ uint16BE 8 ++ encodedPassword)

def encodeClearPassword (reference : UInt16) : Except EncodeError Bytes :=
  encodeUserDataHeader reference (userDataParameters securityGroup clearPasswordSubfunction 0 false) [0x0a, 0, 0, 0]

def encodePlcStop (reference : UInt16) : Except EncodeError Bytes :=
  encodeJob { reference, parameters := [stopFunction, 0, 0, 0, 0, 0, 9] ++ utf8 "P_PROGRAM" }

def encodePlcHotStart (reference : UInt16) : Except EncodeError Bytes :=
  encodeJob { reference, parameters := [startFunction, 0, 0, 0, 0, 0, 0, 0xfd, 0, 0, 9] ++ utf8 "P_PROGRAM" }

def encodePlcColdStart (reference : UInt16) : Except EncodeError Bytes :=
  encodeJob { reference, parameters :=
    [startFunction, 0, 0, 0, 0, 0, 0, 0xfd, 0, 2, 0x43, 0x20, 9] ++ utf8 "P_PROGRAM" }

def decodePlcControl (reference : UInt16) (function : UInt8) (response : Response) : Except DecodeError Unit := do
  validateResponse response reference function
  if response.parameters.length != 1 && response.parameters.length != 2 then
    throw (.invalidField responseHeaderSize "PLC control response must have one or two parameter bytes")
  if !response.data.isEmpty then
    throw (.invalidField (responseHeaderSize + response.parameters.length)
      "PLC control response must not contain data")

/-! ### System status lists -/

structure Szl where
  id : UInt16
  index : UInt16
  recordLength : UInt16
  recordCount : UInt16
  data : Bytes
  deriving Repr, DecidableEq

def decodeSzlFirst (response : UserDataResponse) : Except DecodeError (UInt16 × UInt16 × Bytes) := do
  let cursor : Cursor := { data := response.payload }
  let (id, cursor) ← cursor.readUInt16BE
  let (index, cursor) ← cursor.readUInt16BE
  let (payload, cursor) ← cursor.readBytes cursor.remaining
  cursor.finish
  return (id, index, payload)

def decodeSzl (id index : UInt16) (payload : Bytes) : Except DecodeError Szl := do
  let cursor : Cursor := { data := payload }
  let (recordLength, cursor) ← cursor.readUInt16BE
  let (recordCount, cursor) ← cursor.readUInt16BE
  let (data, cursor) ← cursor.readBytes cursor.remaining
  cursor.finish
  let expectedDataSize := recordLength.toNat * recordCount.toNat
  if data.length != expectedDataSize then
    throw (.invalidField 4 s!"SZL header describes {expectedDataSize} data bytes, got {data.length}")
  return { id, index, recordLength, recordCount, data }

/-- The typed readers also take lists that no decoder has checked. -/
def validateSzlData (szl : Szl) : Except DecodeError Unit := do
  let expectedSize := szl.recordLength.toNat * szl.recordCount.toNat
  if szl.data.length != expectedSize then
    throw (.invalidField 0 s!"SZL records require {expectedSize} data bytes, got {szl.data.length}")

/-- A text of fixed length, without the zeros and blanks at its end. -/
def asciiField (data : Bytes) (offset length : Nat) : Except DecodeError String := do
  let (field, _) ← ({ data, offset } : Cursor).readBytes length
  let trimmed := field.reverse.dropWhile fun byte => byte == 0 || byte == 0x20
  return String.ofList (trimmed.reverse.map fun byte => Char.ofNat byte.toNat)

structure OrderCode where
  code : String
  versionMajor : UInt8
  versionMinor : UInt8
  versionPatch : UInt8
  deriving Repr, DecidableEq

def parseOrderCode (szl : Szl) : Except DecodeError OrderCode := do
  validateSzlData szl
  if szl.id != 0x0011 then
    throw (.invalidField 0 s!"expected SZL 0x0011, got {szl.id}")
  if szl.recordLength < 26 || szl.recordCount == 0 then
    throw (.invalidField 0 "order-code SZL has no compatible records")
  let first := slice szl.data 0 szl.recordLength.toNat
  let code ← asciiField first 2 20
  let versionOffset := szl.data.length - 3
  let cursor : Cursor := { data := szl.data, offset := versionOffset }
  let (versionMajor, cursor) ← cursor.readUInt8
  let (versionMinor, cursor) ← cursor.readUInt8
  let (versionPatch, _) ← cursor.readUInt8
  return { code, versionMajor, versionMinor, versionPatch }

structure CpuInfo where
  moduleTypeName : String
  serialNumber : String
  asName : String
  copyright : String
  moduleName : String
  deriving Repr, DecidableEq

def parseCpuInfo (szl : Szl) : Except DecodeError CpuInfo := do
  validateSzlData szl
  if szl.id != 0x001c then
    throw (.invalidField 0 s!"expected SZL 0x001c, got {szl.id}")
  return {
    moduleTypeName := ← asciiField szl.data 172 32
    serialNumber := ← asciiField szl.data 138 24
    asName := ← asciiField szl.data 2 24
    copyright := ← asciiField szl.data 104 26
    moduleName := ← asciiField szl.data 36 24
  }

structure CpInfo where
  maxPduLength : UInt16
  maxConnections : UInt16
  maxMpiRate : UInt32
  maxBusRate : UInt32
  deriving Repr, DecidableEq

def parseCpInfo (szl : Szl) : Except DecodeError CpInfo := do
  validateSzlData szl
  if szl.id != 0x0131 then
    throw (.invalidField 0 s!"expected SZL 0x0131, got {szl.id}")
  let cursor : Cursor := { data := szl.data, offset := 2 }
  let (maxPduLength, cursor) ← cursor.readUInt16BE
  let (maxConnections, cursor) ← cursor.readUInt16BE
  let (maxMpiRate, cursor) ← cursor.readUInt32BE
  let (maxBusRate, _) ← cursor.readUInt32BE
  return { maxPduLength, maxConnections, maxMpiRate, maxBusRate }

structure Protection where
  selectorPosition : UInt16
  passwordLevel : UInt16
  validProtectionLevel : UInt16
  modeSelector : UInt16
  startupSelector : UInt16
  deriving Repr, DecidableEq

def parseProtection (szl : Szl) : Except DecodeError Protection := do
  validateSzlData szl
  if szl.id != 0x0232 then
    throw (.invalidField 0 s!"expected SZL 0x0232, got {szl.id}")
  let cursor : Cursor := { data := szl.data, offset := 2 }
  let (selectorPosition, cursor) ← cursor.readUInt16BE
  let (passwordLevel, cursor) ← cursor.readUInt16BE
  let (validProtectionLevel, cursor) ← cursor.readUInt16BE
  let (modeSelector, cursor) ← cursor.readUInt16BE
  let (startupSelector, _) ← cursor.readUInt16BE
  return { selectorPosition, passwordLevel, validProtectionLevel, modeSelector, startupSelector }

inductive CpuState where
  | unknown
  | stopped
  | running
  deriving Repr, DecidableEq

def parseCpuState (szl : Szl) : Except DecodeError CpuState := do
  validateSzlData szl
  if szl.id != 0x0424 then
    throw (.invalidField 0 s!"expected SZL 0x0424, got {szl.id}")
  let (status, _) ← ({ data := szl.data, offset := 3 } : Cursor).readUInt8
  return match status with
    | 0x08 => .running
    | 0x04 => .stopped
    | _ => .unknown

/-! ### The clock -/

structure PlcDateTime where
  year : Nat
  month : Nat
  day : Nat
  hour : Nat
  minute : Nat
  second : Nat
  millisecond : Nat := 0
  weekday : Nat
  deriving Repr, DecidableEq

def bcdEncode (value : Nat) : UInt8 := UInt8.ofNat ((value / 10) * 16 + value % 10)

def bcdDecode (offset : Nat) (value : UInt8) : Except DecodeError Nat := do
  let high := value.toNat / 16
  let low := value.toNat % 16
  if high > 9 || low > 9 then
    throw (.invalidField offset s!"invalid BCD byte {value}")
  return high * 10 + low

def isLeapYear (year : Nat) : Bool :=
  year % 400 == 0 || (year % 4 == 0 && year % 100 != 0)

def daysInMonth (year month : Nat) : Nat :=
  match month with
  | 2 => if isLeapYear year then 29 else 28
  | 4 | 6 | 9 | 11 => 30
  | 1 | 3 | 5 | 7 | 8 | 10 | 12 => 31
  | _ => 0

def PlcDateTime.validate (value : PlcDateTime) : Except DecodeError Unit := do
  if value.year < 1990 || value.year > 2089 then
    throw (.invalidField 0 "S7 DATE_AND_TIME year must be between 1990 and 2089")
  if value.month < 1 || value.month > 12 then
    throw (.invalidField 2 "month must be between 1 and 12")
  if value.day < 1 || value.day > daysInMonth value.year value.month then
    throw (.invalidField 3 "day is invalid for the selected month")
  if value.hour > 23 || value.minute > 59 || value.second > 59 then
    throw (.invalidField 4 "time of day is out of range")
  if value.millisecond > 999 then
    throw (.invalidField 7 "millisecond must be between 0 and 999")
  if value.weekday < 1 || value.weekday > 7 then
    throw (.invalidField 9 "weekday must be between 1 and 7")

def encodePlcDateTime (value : PlcDateTime) : Except DecodeError Bytes := do
  value.validate
  let milliseconds := value.millisecond
  return [0, 0x19, bcdEncode (value.year % 100), bcdEncode value.month, bcdEncode value.day, bcdEncode value.hour,
    bcdEncode value.minute, bcdEncode value.second, bcdEncode (milliseconds / 10),
    UInt8.ofNat ((milliseconds % 10) * 16 + value.weekday)]

def decodePlcDateTime (payload : Bytes) : Except DecodeError PlcDateTime := do
  if payload.length != 10 then
    throw (.invalidField 0 s!"clock payload must contain 10 bytes, got {payload.length}")
  let cursor : Cursor := { data := payload }
  let (_, cursor) ← cursor.readUInt8
  let (_, cursor) ← cursor.readUInt8
  let (yearByte, cursor) ← cursor.readUInt8
  let (monthByte, cursor) ← cursor.readUInt8
  let (dayByte, cursor) ← cursor.readUInt8
  let (hourByte, cursor) ← cursor.readUInt8
  let (minuteByte, cursor) ← cursor.readUInt8
  let (secondByte, cursor) ← cursor.readUInt8
  let (millisecondHigh, cursor) ← cursor.readUInt8
  let (millisecondLowAndWeekday, cursor) ← cursor.readUInt8
  cursor.finish
  if millisecondLowAndWeekday.toNat / 16 > 9 then
    throw (.invalidField 9 "invalid BCD millisecond digit")
  let yearLow ← bcdDecode 2 yearByte
  let value : PlcDateTime := {
    year := if yearLow < 90 then 2000 + yearLow else 1900 + yearLow
    month := ← bcdDecode 3 monthByte
    day := ← bcdDecode 4 dayByte
    hour := ← bcdDecode 5 hourByte
    minute := ← bcdDecode 6 minuteByte
    second := ← bcdDecode 7 secondByte
    millisecond := (← bcdDecode 8 millisecondHigh) * 10 + millisecondLowAndWeekday.toNat / 16
    weekday := millisecondLowAndWeekday.toNat % 16
  }
  value.validate
  return value

theorem bcdDecode_bcdEncode {value : Nat} (offset : Nat) (h : value < 100) :
    bcdDecode offset (bcdEncode value) = .ok value := by
  have hbyte : (bcdEncode value).toNat = value / 10 * 16 + value % 10 := Nat.mod_eq_of_lt (by omega)
  unfold bcdDecode
  rw [hbyte]
  refine (guard_ok ?_).trans (congrArg Except.ok ?_)
  · simp only [Bool.or_eq_true, decide_eq_true_eq]
    omega
  · omega

/-- A date on the calendar of the clock. -/
structure PlcDateTime.Valid (value : PlcDateTime) : Prop where
  year : 1990 ≤ value.year ∧ value.year ≤ 2089
  month : 1 ≤ value.month ∧ value.month ≤ 12
  day : 1 ≤ value.day ∧ value.day ≤ daysInMonth value.year value.month
  hour : value.hour ≤ 23
  minute : value.minute ≤ 59
  second : value.second ≤ 59
  millisecond : value.millisecond ≤ 999
  weekday : 1 ≤ value.weekday ∧ value.weekday ≤ 7

theorem PlcDateTime.validate_eq_ok {value : PlcDateTime} : value.validate = .ok () ↔ value.Valid := by
  constructor
  · intro h
    unfold validate at h
    obtain ⟨hyear, h⟩ := guard_eq_ok.mp h
    obtain ⟨hmonth, h⟩ := guard_eq_ok.mp h
    obtain ⟨hday, h⟩ := guard_eq_ok.mp h
    obtain ⟨htime, h⟩ := guard_eq_ok.mp h
    obtain ⟨hmillisecond, h⟩ := guard_eq_ok.mp h
    obtain ⟨hweekday, -⟩ := guard_eq_ok.mp h
    simp only [Bool.or_eq_true, decide_eq_true_eq] at hyear hmonth hday htime hmillisecond hweekday
    constructor <;> omega
  · intro h
    obtain ⟨hyear, hmonth, hday, hhour, hminute, hsecond, hmillisecond, hweekday⟩ := h
    unfold validate
    refine (guard_ok ?_).trans ((guard_ok ?_).trans ((guard_ok ?_).trans ((guard_ok ?_).trans
      ((guard_ok ?_).trans (if_neg ?_)))))
    all_goals
      simp only [gt_iff_lt, Bool.or_eq_true, decide_eq_true_eq]
      omega

theorem daysInMonth_le (year month : Nat) : daysInMonth year month ≤ 31 := by
  unfold daysInMonth
  split
  · split <;> omega
  all_goals omega

/-- What is decoded of ten bytes, of which the first two are ignored. -/
theorem decodePlcDateTime_bytes (first second : UInt8) (year month day hour minute seconds high low : UInt8) :
    decodePlcDateTime [first, second, year, month, day, hour, minute, seconds, high, low] = do
      if low.toNat / 16 > 9 then
        throw (.invalidField 9 "invalid BCD millisecond digit")
      let yearLow ← bcdDecode 2 year
      let value : PlcDateTime := {
        year := if yearLow < 90 then 2000 + yearLow else 1900 + yearLow
        month := ← bcdDecode 3 month
        day := ← bcdDecode 4 day
        hour := ← bcdDecode 5 hour
        minute := ← bcdDecode 6 minute
        second := ← bcdDecode 7 seconds
        millisecond := (← bcdDecode 8 high) * 10 + low.toNat / 16
        weekday := low.toNat % 16
      }
      value.validate
      return value := rfl

/-- A date that could be encoded is read back. -/
theorem decodePlcDateTime_encodePlcDateTime {value : PlcDateTime} {payload : Bytes}
    (h : encodePlcDateTime value = .ok payload) : decodePlcDateTime payload = .ok value := by
  obtain ⟨_, hvalidate, h⟩ := bind_eq_ok.mp h
  cases h
  have hdays := daysInMonth_le value.year value.month
  obtain ⟨hyear, hmonth, hday, hhour, hminute, hsecond, hmillisecond, hweekday⟩ :=
    PlcDateTime.validate_eq_ok.mp hvalidate
  have hlast : (UInt8.ofNat (value.millisecond % 10 * 16 + value.weekday)).toNat =
      value.millisecond % 10 * 16 + value.weekday := Nat.mod_eq_of_lt (by omega)
  have hyear' : (if value.year % 100 < 90 then 2000 + value.year % 100 else 1900 + value.year % 100) = value.year := by
    split <;> omega
  have hmillisecond' : value.millisecond / 10 * 10 + (value.millisecond % 10 * 16 + value.weekday) / 16 =
      value.millisecond := by omega
  have hweekday' : (value.millisecond % 10 * 16 + value.weekday) % 16 = value.weekday := by omega
  rw [decodePlcDateTime_bytes, hlast]
  refine (guard_ok (by omega)).trans ?_
  refine (bind_ok (bcdDecode_bcdEncode 2 (by omega)) _).trans ?_
  refine (bind_ok (bcdDecode_bcdEncode 3 (by omega)) _).trans ?_
  refine (bind_ok (bcdDecode_bcdEncode 4 (by omega)) _).trans ?_
  refine (bind_ok (bcdDecode_bcdEncode 5 (by omega)) _).trans ?_
  refine (bind_ok (bcdDecode_bcdEncode 6 (by omega)) _).trans ?_
  refine (bind_ok (bcdDecode_bcdEncode 7 (by omega)) _).trans ?_
  refine (bind_ok (bcdDecode_bcdEncode 8 (by omega)) _).trans ?_
  simp only [hyear', hmillisecond', hweekday']
  exact bind_ok hvalidate _

/-! ### The session password -/

def encodePassword (password : String) : Except DecodeError Bytes := do
  let chars := password.toList
  if chars.isEmpty || chars.length > 8 then
    throw (.invalidField 0 "S7 session password must contain between 1 and 8 ASCII characters")
  let mut raw : Bytes := List.replicate 8 0x20
  for (character, index) in chars.zipIdx do
    if character.toNat > 0x7f then
      throw (.invalidField index "S7 session password must be ASCII")
    raw := raw.set index (UInt8.ofNat character.toNat)
  let mut encoded : Bytes := []
  for index in [0:8] do
    let prior := if index < 2 then 0 else encoded.getD (index - 2) 0
    encoded := encoded ++ [UInt8.xor (UInt8.xor (raw.getD index 0) 0x55) prior]
  return encoded

end ClassicS7.S7
