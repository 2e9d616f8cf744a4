import Mathlib.Algebra.Ring.Nat
import ClassicS7.Wire.Frames

/-! Opening a COTP connection.

The request proposes references, a class and a largest data unit; the confirmation
names the request and may lower the size in its variable part, a list of coded
parameters of which the last with a code counts. `decodeParameters_eq_ok` says
that the variable part is read as written, and `Negotiates` what a confirmation must
say for the negotiation to end, which it then does with a standard size no larger
than the one asked for. -/
namespace ClassicS7.COTP
open Checks Cursor

def connectionRequestCode : UInt8 := 0xe0
def connectionConfirmCode : UInt8 := 0xd0
def disconnectRequestCode : UInt8 := 0x80
def pduSizeParameter : UInt8 := 0xc0
def callingTsapParameter : UInt8 := 0xc1
def calledTsapParameter : UInt8 := 0xc2

structure ConnectionRequest where
  destinationReference : UInt16 := 0
  sourceReference : UInt16 := 1
  classOption : UInt8 := 0
  callingTsap : UInt16 := 0x0100
  calledTsap : UInt16 := 0x0102
  tpduSizeExponent : UInt8 := 0x0a
  deriving Repr, DecidableEq

def encodeConnectionRequest (request : ConnectionRequest) : Bytes :=
  let fixed := [
    17, connectionRequestCode,
    UInt8.ofNat (request.destinationReference.toNat / 256), UInt8.ofNat request.destinationReference.toNat,
    UInt8.ofNat (request.sourceReference.toNat / 256), UInt8.ofNat request.sourceReference.toNat,
    request.classOption]
  let calling := [callingTsapParameter, 2] ++ uint16BE request.callingTsap
  let called := [calledTsapParameter, 2] ++ uint16BE request.calledTsap
  let size := [pduSizeParameter, 1, request.tpduSizeExponent]
  fixed ++ calling ++ called ++ size

@[simp] theorem length_encodeConnectionRequest (request : ConnectionRequest) :
    (encodeConnectionRequest request).length = 18 := rfl

structure DisconnectRequest where
  destinationReference : UInt16
  sourceReference : UInt16 := 1
  reason : UInt8 := 0
  deriving Repr, DecidableEq

def encodeDisconnectRequest (request : DisconnectRequest) : Bytes :=
  [6, disconnectRequestCode] ++ uint16BE request.destinationReference ++
    uint16BE request.sourceReference ++ [request.reason]

@[simp] theorem length_encodeDisconnectRequest (request : DisconnectRequest) :
    (encodeDisconnectRequest request).length = 7 := rfl

/-! ### The variable part -/

/-- One code, length and value of a variable part. -/
structure Parameter where
  code : UInt8
  value : Bytes
  deriving Repr, DecidableEq

def decodeParametersWithFuel : Nat → Cursor → Except DecodeError (List Parameter)
  | 0, cursor =>
    if cursor.remaining = 0 then
      .ok []
    else
      .error (.invalidField cursor.offset "COTP parameter decoder exhausted its input bound")
  | fuel + 1, cursor => do
    if cursor.remaining = 0 then
      return []
    let (code, cursor) ← cursor.readUInt8
    let (length, cursor) ← cursor.readUInt8
    let (value, cursor) ← cursor.readBytes length.toNat
    return { code, value } :: (← decodeParametersWithFuel fuel cursor)

/-- Decode a complete variable part. Unknown codes remain for the caller's policy. -/
def decodeParameters (data : Bytes) : Except DecodeError (List Parameter) :=
  decodeParametersWithFuel data.length { data }

/-- The bytes of one parameter. -/
def Parameter.encode (parameter : Parameter) : Bytes :=
  [parameter.code, UInt8.ofNat parameter.value.length] ++ parameter.value

def encodeParameters (parameters : List Parameter) : Bytes := parameters.flatMap Parameter.encode

/-- The last value with a code, as duplicates are resolved. -/
def findLastParameter (parameters : List Parameter) (code : UInt8) : Option Bytes :=
  parameters.foldl (fun found parameter => if parameter.code == code then some parameter.value else found) none

/-- It is the value of the last parameter with the code. -/
theorem findLastParameter_eq_find (parameters : List Parameter) (code : UInt8) :
    findLastParameter parameters code =
      (parameters.reverse.find? fun parameter => parameter.code == code).map (·.value) := by
  rw [findLastParameter, ← List.foldr_reverse]
  induction parameters.reverse with
  | nil => rfl
  | cons parameter rest ih =>
    rw [List.foldr_cons, ih, List.find?_cons]
    cases parameter.code == code <;> rfl

/-- One parameter read, and the rest of the walk. -/
theorem decodeParametersWithFuel_succ {fuel : Nat} {data : Bytes} {offset : Nat} {parameters : List Parameter}
    (hoffset : offset < data.length) :
    decodeParametersWithFuel (fuel + 1) ⟨data, offset⟩ = .ok parameters ↔
      offset + 2 + byteAt data (offset + 1) ≤ data.length ∧ offset + 2 ≤ data.length ∧ ∃ rest,
        decodeParametersWithFuel fuel ⟨data, offset + 2 + byteAt data (offset + 1)⟩ = .ok rest ∧
        parameters = {
          code := UInt8.ofNat (byteAt data offset)
          value := slice data (offset + 2) (offset + 2 + byteAt data (offset + 1)) } :: rest := by
  have hremaining : ¬ ({ data, offset } : Cursor).remaining = 0 := by
    simp only [remaining]
    omega
  rw [decodeParametersWithFuel, if_neg hremaining, bind_ok (readUInt8_at hoffset)]
  constructor
  · intro h
    obtain ⟨length, hlength, h⟩ := bind_eq_ok.mp h
    have htwo := readUInt8_ok hlength
    rw [readUInt8_at htwo] at hlength
    cases hlength
    simp only [S7.toNat_byteAt] at h
    obtain ⟨value, hvalue, h⟩ := bind_eq_ok.mp h
    have hcount := readBytes_ok (by omega) hvalue
    rw [readBytes_at hcount] at hvalue
    cases hvalue
    obtain ⟨rest, hrest, h⟩ := bind_eq_ok.mp h
    cases h
    exact ⟨hcount, htwo, rest, hrest, rfl⟩
  · rintro ⟨hcount, htwo, rest, hrest, rfl⟩
    refine (bind_ok (readUInt8_at htwo) _).trans ?_
    simp only [S7.toNat_byteAt]
    refine (bind_ok (readBytes_at hcount) _).trans ?_
    exact (bind_ok hrest _).trans rfl

theorem encodeParameters_cons (parameter : Parameter) (rest : List Parameter) :
    encodeParameters (parameter :: rest) = parameter.encode ++ encodeParameters rest := List.flatMap_cons

/-- At the end of the data there is nothing to read, whatever the fuel. -/
theorem decodeParametersWithFuel_end {fuel : Nat} {data : Bytes} {offset : Nat} (hend : offset = data.length) :
    decodeParametersWithFuel fuel ⟨data, offset⟩ = .ok [] := by
  have hremaining : ({ data, offset } : Cursor).remaining = 0 := by
    simp only [remaining]
    omega
  cases fuel with
  | zero => exact if_pos hremaining
  | succ fuel => exact if_pos hremaining

/-- A walk from an offset reads the rest of the data as parameters. -/
theorem decodeParametersWithFuel_eq_ok {fuel : Nat} {data : Bytes} {offset : Nat} {parameters : List Parameter}
    (hoffset : offset ≤ data.length) (hfuel : data.length - offset ≤ fuel) :
    decodeParametersWithFuel fuel ⟨data, offset⟩ = .ok parameters ↔
      encodeParameters parameters = data.drop offset ∧ ∀ parameter ∈ parameters, parameter.value.length < 256 := by
  induction fuel generalizing offset parameters with
  | zero =>
    rw [decodeParametersWithFuel_end (by omega), List.drop_eq_nil_of_le (by omega), Except.ok.injEq]
    cases parameters with
    | nil => exact iff_of_true rfl ⟨rfl, fun _ h => by cases h⟩
    | cons parameter rest => exact iff_of_false (fun h => by cases h) fun h => by cases h.1
  | succ fuel ih =>
    by_cases hend : offset = data.length
    · rw [decodeParametersWithFuel_end hend, List.drop_eq_nil_of_le (by omega), Except.ok.injEq]
      cases parameters with
      | nil => exact iff_of_true rfl ⟨rfl, fun _ h => by cases h⟩
      | cons parameter rest => exact iff_of_false (fun h => by cases h) fun h => by cases h.1
    have hlt : offset < data.length := by omega
    rw [decodeParametersWithFuel_succ hlt]
    constructor
    · rintro ⟨hcount, htwo, rest, hrest, rfl⟩
      obtain ⟨hencode, hlengths⟩ := (ih hcount (by omega)).mp hrest
      have hbyte := byteAt_lt data (offset + 1)
      refine ⟨?_, List.forall_mem_cons.mpr ⟨?_, hlengths⟩⟩
      · have hlength : (slice data (offset + 2) (offset + 2 + byteAt data (offset + 1))).length =
            byteAt data (offset + 1) := by
          rw [length_slice]
          omega
        rw [encodeParameters_cons, Parameter.encode, hencode, List.append_assoc, slice_append_drop _ _ _ (by omega),
          hlength, ofNat_byteAt data offset hlt, ofNat_byteAt data (offset + 1) (by omega)]
        rw [List.drop_eq_getElem_cons hlt, List.drop_eq_getElem_cons (by omega : offset + 1 < data.length)]
        rfl
      · simp only [length_slice]
        omega
    · rintro ⟨hencode, hlengths⟩
      cases parameters with
      | nil =>
        rw [List.drop_eq_getElem_cons hlt] at hencode
        cases hencode
      | cons parameter rest =>
        obtain ⟨hlength, hlengths⟩ := List.forall_mem_cons.mp hlengths
        rw [encodeParameters_cons, Parameter.encode] at hencode
        have hsize := congrArg List.length hencode
        simp only [List.length_append, List.length_cons, List.length_nil, List.length_drop] at hsize
        have hcode : UInt8.ofNat (byteAt data offset) = parameter.code := by
          rw [show byteAt data offset = byteAt (data.drop offset) 0 from (byteAt_drop data offset 0).symm, ← hencode]
          exact UInt8.ofNat_toNat
        have hcount : byteAt data (offset + 1) = parameter.value.length := by
          rw [← byteAt_drop data offset 1, ← hencode]
          exact Nat.mod_eq_of_lt hlength
        have hrest : data.drop (offset + 2) = parameter.value ++ encodeParameters rest := by
          rw [← List.drop_drop, ← hencode]
          rfl
        rw [hcount, hcode]
        refine ⟨by omega, by omega, rest, ?_, ?_⟩
        · refine (ih (by omega) (by omega)).mpr ⟨?_, hlengths⟩
          rw [← List.drop_drop, hrest, List.drop_left]
        · rw [slice, hrest, Nat.add_sub_cancel_left, List.take_left]

/-- The variable part is read exactly as it was written. -/
theorem decodeParameters_eq_ok {data : Bytes} {parameters : List Parameter} :
    decodeParameters data = .ok parameters ↔
      encodeParameters parameters = data ∧ ∀ parameter ∈ parameters, parameter.value.length < 256 :=
  decodeParametersWithFuel_eq_ok (Nat.zero_le _) (Nat.sub_le _ _)

/-! ### The confirmation -/

structure ConnectionConfirm where
  destinationReference : UInt16
  sourceReference : UInt16
  classOption : UInt8
  parameters : Bytes
  deriving Repr, DecidableEq

def decodeConnectionConfirm (data : Bytes) : Except DecodeError ConnectionConfirm := do
  let cursor : Cursor := { data }
  let (headerLength, cursor) ← cursor.readUInt8
  if headerLength.toNat + 1 != data.length then
    throw (.invalidField 0 "COTP header length does not match packet size")
  let (code, cursor) ← cursor.readUInt8
  if code != connectionConfirmCode then
    throw (.invalidField 1 s!"expected connection confirmation 0xd0, got {code}")
  let (destinationReference, cursor) ← cursor.readUInt16BE
  let (sourceReference, cursor) ← cursor.readUInt16BE
  let (classOption, cursor) ← cursor.readUInt8
  let (parameters, cursor) ← cursor.readBytes cursor.remaining
  cursor.finish
  return { destinationReference, sourceReference, classOption, parameters }

/-- The standard size codes that the transport supports. -/
def validateTpduSizeExponent (exponent : UInt8) (offset : Nat) : Except DecodeError Unit := do
  if exponent.toNat < 7 ∨ 13 < exponent.toNat then
    throw (.invalidField offset s!"invalid COTP TPDU size exponent {exponent}")

/-- The confirmation belongs to the request and accepts its class and size. -/
def validateConnectionConfirm (request : ConnectionRequest) (confirmation : ConnectionConfirm) :
    Except DecodeError Unit := do
  if confirmation.destinationReference != request.sourceReference then
    throw (.invalidField 2
      s!"expected COTP destination reference {request.sourceReference}, got {confirmation.destinationReference}")
  if confirmation.classOption != request.classOption then
    throw (.invalidField 6 s!"expected COTP class option {request.classOption}, got {confirmation.classOption}")
  validateTpduSizeExponent request.tpduSizeExponent 7
  let parameters ← decodeParameters confirmation.parameters
  match findLastParameter parameters pduSizeParameter with
  | none => pure ()
  | some value =>
    if value.length != 1 then
      throw (.invalidField 7 "COTP TPDU size parameter must contain one byte")
    let exponent := value[0]!
    validateTpduSizeExponent exponent 9
    if exponent > request.tpduSizeExponent then
      throw (.invalidField 9
        s!"COTP TPDU size exponent {exponent} exceeds requested {request.tpduSizeExponent}")

/-- The selected size code, after full validation. An omitted parameter retains the
requested size. -/
def negotiatedTpduSizeExponent (request : ConnectionRequest) (confirmation : ConnectionConfirm) :
    Except DecodeError UInt8 := do
  validateConnectionConfirm request confirmation
  let parameters ← decodeParameters confirmation.parameters
  match findLastParameter parameters pduSizeParameter with
  | none => pure request.tpduSizeExponent
  | some value => pure value[0]!

def tpduSize (exponent : UInt8) : Nat := 2 ^ exponent.toNat

/-- One unsegmented data unit can contain the payload and its three-byte header. -/
def validateDataPayloadBudget (exponent : UInt8) (payloadSize : Nat) : Except DecodeError Unit := do
  validateTpduSizeExponent exponent 0
  if tpduSize exponent < 3 + payloadSize then
    throw (.invalidField 0 s!"COTP TPDU size {tpduSize exponent} cannot contain {payloadSize} payload bytes")

/-! ### What a negotiation ends with -/

/-- The code is one of the standard sizes. -/
def Standard (exponent : UInt8) : Prop := 7 ≤ exponent.toNat ∧ exponent.toNat ≤ 13

theorem validateTpduSizeExponent_eq_ok {exponent : UInt8} {offset : Nat} :
    validateTpduSizeExponent exponent offset = .ok () ↔ Standard exponent := by
  unfold validateTpduSizeExponent Standard
  split
  · exact iff_of_false (fun h => by cases h) (by omega)
  · exact iff_of_true rfl (by omega)

/-- What the size parameter of a confirmation selects, which may be left out. -/
inductive Selects (request : ConnectionRequest) : Option Bytes → UInt8 → Prop where
  | omitted : Selects request none request.tpduSizeExponent
  | stated {exponent : UInt8} (standard : Standard exponent) (le : exponent ≤ request.tpduSizeExponent) :
      Selects request (some [exponent]) exponent

/-- The variable part `data` is written from the parameters, one after the other. -/
structure Carries (data : Bytes) (parameters : List Parameter) : Prop where
  encoded : encodeParameters parameters = data
  lengths : ∀ parameter ∈ parameters, parameter.value.length < 256

/-- What a confirmation must say for a negotiation to end with a size code. Of the
parameters it carries, the last one with the code of the size counts. -/
structure Negotiates (request : ConnectionRequest) (confirmation : ConnectionConfirm) (exponent : UInt8) : Prop where
  destination : confirmation.destinationReference = request.sourceReference
  class_eq : confirmation.classOption = request.classOption
  requested : Standard request.tpduSizeExponent
  selects : ∃ parameters, Carries confirmation.parameters parameters ∧
    Selects request ((parameters.reverse.find? (·.code == 0xc0)).map (·.value)) exponent

/-- The variable part decodes to the parameters it carries. -/
theorem decodeParameters_iff_carries {data : Bytes} {parameters : List Parameter} :
    decodeParameters data = .ok parameters ↔ Carries data parameters :=
  decodeParameters_eq_ok.trans ⟨fun h => ⟨h.1, h.2⟩, fun h => ⟨h.1, h.2⟩⟩

/-- The size parameter of the policy is the last one with its code. -/
theorem findLastParameter_size (parameters : List Parameter) :
    (parameters.reverse.find? (·.code == 0xc0)).map (·.value) = findLastParameter parameters pduSizeParameter :=
  (findLastParameter_eq_find parameters pduSizeParameter).symm

/-- A negotiated size is a standard one, and no larger than the one asked for. -/
theorem Negotiates.bounds {request : ConnectionRequest} {confirmation : ConnectionConfirm} {exponent : UInt8}
    (h : Negotiates request confirmation exponent) : Standard exponent ∧ exponent ≤ request.tpduSizeExponent := by
  obtain ⟨parameters, -, hselects⟩ := h.selects
  cases hvalue : (parameters.reverse.find? (·.code == 0xc0)).map (·.value) with
  | none =>
    rw [hvalue] at hselects
    cases hselects
    exact ⟨h.requested, UInt8.le_refl _⟩
  | some value =>
    rw [hvalue] at hselects
    cases hselects with
    | stated standard le => exact ⟨standard, le⟩

theorem validateDataPayloadBudget_eq_ok {exponent : UInt8} {payloadSize : Nat} :
    validateDataPayloadBudget exponent payloadSize = .ok () ↔
      Standard exponent ∧ 3 + payloadSize ≤ tpduSize exponent := by
  unfold validateDataPayloadBudget
  rw [bind_eq_ok]
  constructor
  · rintro ⟨_, hstandard, h⟩
    split at h
    · cases h
    · exact ⟨validateTpduSizeExponent_eq_ok.mp hstandard, by omega⟩
  · rintro ⟨hstandard, hfits⟩
    exact ⟨(), validateTpduSizeExponent_eq_ok.mpr hstandard, if_neg (by omega)⟩

end ClassicS7.COTP
