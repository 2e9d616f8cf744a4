import ClassicS7.Library.Bytes
import ClassicS7.Library.Checks

/-! Cursors into packet data.

Reads advance by returning a new cursor and report where they failed. Each has
one specification: it succeeds exactly when enough bytes remain, with the bytes
at its offset (`readUInt8_at`, `readUInt16BE_at`, `readBytes_at`), and fails
otherwise with an error that is not the remote's verdict. -/
namespace ClassicS7

/-- A decoding failure with the byte offset at which it was detected. -/
inductive DecodeError where
  | unexpectedEnd (offset needed available : Nat)
  | invalidField (offset : Nat) (message : String)
  /-- A syntactically valid response in which the remote PLC reports failure. -/
  | remoteFailure (offset : Nat) (message : String)
  | trailingBytes (offset count : Nat)
  deriving Repr, DecidableEq

/-- The error is the remote's verdict on a valid packet. -/
def DecodeError.isRemote : DecodeError → Bool
  | .remoteFailure .. => true
  | _ => false

/-- The error only says that the packet is not of the expected form. -/
def DecodeError.Local (e : DecodeError) : Prop := e.isRemote = false

@[simp] theorem DecodeError.local_unexpectedEnd (a b c : Nat) : (unexpectedEnd a b c).Local := rfl
@[simp] theorem DecodeError.local_invalidField (a : Nat) (m : String) : (invalidField a m).Local := rfl
@[simp] theorem DecodeError.local_trailingBytes (a b : Nat) : (trailingBytes a b).Local := rfl

/-- What a decoder says of a packet, without the text of its error. -/
inductive Verdict (α : Type) where
  | accepted (value : α)
  /-- The packet is valid and carries the remote's failure. -/
  | refused
  | malformed
  deriving Repr, DecidableEq

def verdict {α : Type} : Except DecodeError α → Verdict α
  | .ok value => .accepted value
  | .error e => if e.isRemote then .refused else .malformed

@[simp] theorem verdict_ok {α : Type} (a : α) : verdict (.ok a) = .accepted a := rfl

theorem verdict_local {α : Type} {x : Except DecodeError α} (h : ∃ e, x = .error e ∧ e.Local) :
    verdict x = .malformed := by
  obtain ⟨e, rfl, he⟩ := h
  have he' : e.isRemote = false := he
  simp [verdict, he']

theorem verdict_eq_accepted {α : Type} {x : Except DecodeError α} {a : α} :
    verdict x = .accepted a ↔ x = .ok a := by
  cases x with
  | error e => cases h : e.isRemote <;> simp [verdict, h]
  | ok b => simp

theorem verdict_eq_refused {α : Type} {x : Except DecodeError α} :
    verdict x = .refused ↔ ∃ e, x = .error e ∧ e.isRemote = true := by
  cases x with
  | error e => cases h : e.isRemote <;> simp [verdict, h]
  | ok b => simp

theorem verdict_eq_malformed {α : Type} {x : Except DecodeError α} :
    verdict x = .malformed ↔ ∃ e, x = .error e ∧ e.isRemote = false := by
  cases x with
  | error e => cases h : e.isRemote <;> simp [verdict, h]
  | ok b => simp

/-- A second stage, which runs on what the first accepted. -/
def Verdict.bind {α β : Type} : Verdict α → (α → Verdict β) → Verdict β
  | .accepted a, f => f a
  | .refused, _ => .refused
  | .malformed, _ => .malformed

theorem Verdict.bind_eq_accepted {α β : Type} {v : Verdict α} {f : α → Verdict β} {b : β} :
    v.bind f = .accepted b ↔ ∃ a, v = .accepted a ∧ f a = .accepted b := by
  cases v <;> simp [bind]

theorem Verdict.bind_assoc {α β γ : Type} (v : Verdict α) (f : α → Verdict β) (g : β → Verdict γ) :
    (v.bind f).bind g = v.bind fun a => (f a).bind g := by
  cases v <;> rfl

/-- A form that a packet has or not, without a verdict of the remote. -/
def Verdict.ofOption {α : Type} : Option α → Verdict α
  | some a => .accepted a
  | none => .malformed

theorem verdict_bind {α β : Type} (x : Except DecodeError α) (f : α → Except DecodeError β) :
    verdict (x >>= f) = (verdict x).bind fun a => verdict (f a) := by
  cases x with
  | error e => cases h : e.isRemote <;> simp [verdict, Verdict.bind, h, bind, Except.bind]
  | ok a => rfl

/-- The verdict on a chain whose first step returned is that on the rest. -/
theorem verdict_bind_ok {α β : Type} {x : Except DecodeError α} {a : α} (h : x = .ok a)
    (f : α → Except DecodeError β) : verdict (x >>= f) = verdict (f a) :=
  congrArg verdict (Checks.bind_ok h f)

theorem verdict_guard_ok {α : Type} {c : Prop} [Decidable c] {e : DecodeError} {k : PUnit → Except DecodeError α}
    (h : ¬ c) : verdict (if c then throw e >>= k else k ⟨⟩) = verdict (k ⟨⟩) :=
  congrArg verdict (Checks.guard_ok h)

/-- A check that fails decides the verdict on the chain. -/
theorem verdict_guard_error {α : Type} {c : Prop} [Decidable c] {e : DecodeError}
    {k : PUnit → Except DecodeError α} (h : c) :
    verdict (if c then throw e >>= k else k ⟨⟩) = if e.isRemote then .refused else .malformed :=
  congrArg verdict (Checks.guard_error h)

/-- A decoder whose result is not used only checks. -/
theorem verdict_discard {α β : Type} (x : Except DecodeError α) (b : β) :
    verdict (do discard x; return b) = (verdict x).bind fun _ => .accepted b := by
  cases x with
  | error e =>
    have hdiscard : discard (.error e : Except DecodeError α) = .error e := rfl
    rw [hdiscard, verdict_bind]
    cases h : e.isRemote <;> simp [verdict, Verdict.bind, h]
  | ok a => rfl

/-- A cursor into immutable packet data. Reads advance by returning a new cursor. -/
structure Cursor where
  data : Bytes
  offset : Nat := 0
  deriving Repr, DecidableEq

namespace Cursor
open Checks

def remaining (cursor : Cursor) : Nat :=
  cursor.data.length - cursor.offset

def readUInt8 (cursor : Cursor) : Except DecodeError (UInt8 × Cursor) :=
  if h : cursor.offset < cursor.data.length then
    let value := cursor.data[cursor.offset]
    .ok (value, { cursor with offset := cursor.offset + 1 })
  else
    .error (.unexpectedEnd cursor.offset 1 cursor.remaining)

def readUInt16BE (cursor : Cursor) : Except DecodeError (UInt16 × Cursor) := do
  let (high, cursor) ← cursor.readUInt8
  let (low, cursor) ← cursor.readUInt8
  return (UInt16.ofNat (high.toNat * 256 + low.toNat), cursor)

def readUInt32BE (cursor : Cursor) : Except DecodeError (UInt32 × Cursor) := do
  let (high, cursor) ← cursor.readUInt16BE
  let (low, cursor) ← cursor.readUInt16BE
  return (UInt32.ofNat (high.toNat * 65536 + low.toNat), cursor)

def readUInt64BE (cursor : Cursor) : Except DecodeError (UInt64 × Cursor) := do
  let (high, cursor) ← cursor.readUInt32BE
  let (low, cursor) ← cursor.readUInt32BE
  return (UInt64.ofNat (high.toNat * 4294967296 + low.toNat), cursor)

def readBytes (cursor : Cursor) (count : Nat) : Except DecodeError (Bytes × Cursor) :=
  if count ≤ cursor.remaining then
    let next := cursor.offset + count
    .ok (slice cursor.data cursor.offset next, { cursor with offset := next })
  else
    .error (.unexpectedEnd cursor.offset count cursor.remaining)

def finish (cursor : Cursor) : Except DecodeError Unit :=
  if cursor.offset = cursor.data.length then
    .ok ()
  else
    .error (.trailingBytes cursor.offset cursor.remaining)

/-! ### A read with enough bytes left -/

variable {data : Bytes} {offset : Nat}

theorem readUInt8_at (h : offset < data.length) :
    readUInt8 ⟨data, offset⟩ = .ok (UInt8.ofNat (byteAt data offset), ⟨data, offset + 1⟩) := by
  rw [ofNat_byteAt data offset h]
  exact dif_pos h

theorem readUInt16BE_at (h : offset + 2 ≤ data.length) :
    readUInt16BE ⟨data, offset⟩ = .ok (UInt16.ofNat (wordAt data offset), ⟨data, offset + 2⟩) := by
  refine (bind_ok (readUInt8_at (by omega)) _).trans
    ((bind_ok (readUInt8_at (by omega)) _).trans (congrArg Except.ok ?_))
  simp only [UInt8.toNat_ofNat', wordAt]
  rw [Nat.mod_eq_of_lt (byteAt_lt _ _), Nat.mod_eq_of_lt (byteAt_lt _ _)]

theorem readUInt32BE_at (h : offset + 4 ≤ data.length) :
    readUInt32BE ⟨data, offset⟩ =
      .ok (UInt32.ofNat (wordAt data offset * 65536 + wordAt data (offset + 2)), ⟨data, offset + 4⟩) := by
  refine (bind_ok (readUInt16BE_at (by omega)) _).trans
    ((bind_ok (readUInt16BE_at (by omega)) _).trans (congrArg Except.ok ?_))
  simp only [UInt16.toNat_ofNat']
  rw [Nat.mod_eq_of_lt (wordAt_lt _ _), Nat.mod_eq_of_lt (wordAt_lt _ _)]

theorem readUInt64BE_at (h : offset + 8 ≤ data.length) :
    readUInt64BE ⟨data, offset⟩ =
      .ok (UInt64.ofNat ((wordAt data offset * 65536 + wordAt data (offset + 2)) * 4294967296 +
        (wordAt data (offset + 4) * 65536 + wordAt data (offset + 6))), ⟨data, offset + 8⟩) := by
  refine (bind_ok (readUInt32BE_at (by omega)) _).trans
    ((bind_ok (readUInt32BE_at (by omega)) _).trans (congrArg Except.ok ?_))
  have hword (i : Nat) : wordAt data i * 65536 + wordAt data (i + 2) < 4294967296 := by
    have hhigh := wordAt_lt data i
    have hlow := wordAt_lt data (i + 2)
    omega
  simp only [UInt32.toNat_ofNat']
  rw [Nat.mod_eq_of_lt (hword _), Nat.mod_eq_of_lt (hword _)]

theorem readBytes_at {count : Nat} (h : offset + count ≤ data.length) :
    readBytes ⟨data, offset⟩ count =
      .ok (slice data offset (offset + count), ⟨data, offset + count⟩) := by
  have hcount : count ≤ data.length - offset := by omega
  exact if_pos hcount

theorem finish_at (h : offset = data.length) : finish ⟨data, offset⟩ = .ok () := if_pos h

/-! ### Reads only fail locally -/

theorem failsLocal_readUInt8 (cursor : Cursor) : FailsSoft DecodeError.Local cursor.readUInt8 := by
  unfold readUInt8
  split
  · exact failsSoft_ok _
  · exact failsSoft_error rfl

theorem failsLocal_readUInt16BE (cursor : Cursor) :
    FailsSoft DecodeError.Local cursor.readUInt16BE :=
  .bind (failsLocal_readUInt8 cursor) fun _ _ => .bind (failsLocal_readUInt8 _) fun _ _ => failsSoft_ok _

theorem failsLocal_readBytes (cursor : Cursor) (count : Nat) :
    FailsSoft DecodeError.Local (cursor.readBytes count) := by
  unfold readBytes
  split
  · exact failsSoft_ok _
  · exact failsSoft_error rfl

theorem failsLocal_finish (cursor : Cursor) : FailsSoft DecodeError.Local cursor.finish := by
  unfold finish
  split
  · exact failsSoft_ok _
  · exact failsSoft_error rfl

/-! ### What a read that returned had -/

theorem readUInt8_ok {result : UInt8 × Cursor} (h : readUInt8 ⟨data, offset⟩ = .ok result) :
    offset < data.length := by
  unfold readUInt8 at h
  split at h
  · assumption
  · cases h

theorem readUInt16BE_ok {result : UInt16 × Cursor} (h : readUInt16BE ⟨data, offset⟩ = .ok result) :
    offset + 2 ≤ data.length := by
  obtain ⟨first, hfirst, h⟩ := bind_eq_ok.mp h
  have hlt := readUInt8_ok hfirst
  rw [readUInt8_at hlt] at hfirst
  cases hfirst
  obtain ⟨second, hsecond, -⟩ := bind_eq_ok.mp h
  exact readUInt8_ok hsecond

theorem readBytes_ok {count : Nat} {result : Bytes × Cursor} (hle : offset ≤ data.length)
    (h : readBytes ⟨data, offset⟩ count = .ok result) : offset + count ≤ data.length := by
  unfold readBytes remaining at h
  split at h
  · dsimp only at *
    omega
  · cases h

theorem finish_ok (h : finish ⟨data, offset⟩ = .ok ()) : offset = data.length := by
  unfold finish at h
  split at h
  · assumption
  · cases h

/-! ### Walking a decoder from the front

Each step of a decoder that clears its local checks had its bytes, and the rest
of the decoder clears on them. -/

section Walk
variable {α : Type}

theorem clears_readUInt8 {f : UInt8 × Cursor → Except DecodeError α}
    (h : Clears DecodeError.Local (readUInt8 ⟨data, offset⟩ >>= f)) :
    offset < data.length ∧
      Clears DecodeError.Local (f (UInt8.ofNat (byteAt data offset), ⟨data, offset + 1⟩)) := by
  obtain ⟨_, hr, h⟩ := h.bind (failsLocal_readUInt8 _)
  have hlt := readUInt8_ok hr
  rw [readUInt8_at hlt] at hr
  cases hr
  exact ⟨hlt, h⟩

theorem clears_readUInt16BE {f : UInt16 × Cursor → Except DecodeError α}
    (h : Clears DecodeError.Local (readUInt16BE ⟨data, offset⟩ >>= f)) :
    offset + 2 ≤ data.length ∧
      Clears DecodeError.Local (f (UInt16.ofNat (wordAt data offset), ⟨data, offset + 2⟩)) := by
  obtain ⟨_, hr, h⟩ := h.bind (failsLocal_readUInt16BE _)
  have hle := readUInt16BE_ok hr
  rw [readUInt16BE_at hle] at hr
  cases hr
  exact ⟨hle, h⟩

theorem clears_readBytes {count : Nat} {f : Bytes × Cursor → Except DecodeError α}
    (hle : offset ≤ data.length)
    (h : Clears DecodeError.Local (readBytes ⟨data, offset⟩ count >>= f)) :
    offset + count ≤ data.length ∧
      Clears DecodeError.Local (f (slice data offset (offset + count), ⟨data, offset + count⟩)) := by
  obtain ⟨_, hr, h⟩ := h.bind (failsLocal_readBytes _ _)
  have hcount := readBytes_ok hle hr
  rw [readBytes_at hcount] at hr
  cases hr
  exact ⟨hcount, h⟩

theorem clears_finish {f : Unit → Except DecodeError α}
    (h : Clears DecodeError.Local (finish ⟨data, offset⟩ >>= f)) :
    offset = data.length ∧ Clears DecodeError.Local (f ()) := by
  obtain ⟨_, hr, h⟩ := h.bind (failsLocal_finish _)
  exact ⟨finish_ok hr, h⟩

/-! A decoder that returned is inverted the same way. -/

theorem readUInt8_bind_eq_ok {f : UInt8 × Cursor → Except DecodeError α} {a : α} :
    (readUInt8 ⟨data, offset⟩ >>= f) = .ok a ↔
      offset < data.length ∧ f (UInt8.ofNat (byteAt data offset), ⟨data, offset + 1⟩) = .ok a := by
  constructor
  · intro h
    obtain ⟨_, hr, h⟩ := bind_eq_ok.mp h
    have hlt := readUInt8_ok hr
    rw [readUInt8_at hlt] at hr
    cases hr
    exact ⟨hlt, h⟩
  · rintro ⟨hlt, h⟩
    exact (bind_ok (readUInt8_at hlt) _).trans h

theorem readUInt16BE_bind_eq_ok {f : UInt16 × Cursor → Except DecodeError α} {a : α} :
    (readUInt16BE ⟨data, offset⟩ >>= f) = .ok a ↔
      offset + 2 ≤ data.length ∧ f (UInt16.ofNat (wordAt data offset), ⟨data, offset + 2⟩) = .ok a := by
  constructor
  · intro h
    obtain ⟨_, hr, h⟩ := bind_eq_ok.mp h
    have hle := readUInt16BE_ok hr
    rw [readUInt16BE_at hle] at hr
    cases hr
    exact ⟨hle, h⟩
  · rintro ⟨hle, h⟩
    exact (bind_ok (readUInt16BE_at hle) _).trans h

theorem readBytes_bind_eq_ok {count : Nat} {f : Bytes × Cursor → Except DecodeError α} {a : α}
    (hle : offset ≤ data.length) :
    (readBytes ⟨data, offset⟩ count >>= f) = .ok a ↔
      offset + count ≤ data.length ∧
        f (slice data offset (offset + count), ⟨data, offset + count⟩) = .ok a := by
  constructor
  · intro h
    obtain ⟨_, hr, h⟩ := bind_eq_ok.mp h
    have hcount := readBytes_ok hle hr
    rw [readBytes_at hcount] at hr
    cases hr
    exact ⟨hcount, h⟩
  · rintro ⟨hcount, h⟩
    exact (bind_ok (readBytes_at hcount) _).trans h

theorem finish_bind_eq_ok {f : Unit → Except DecodeError α} {a : α} :
    (finish ⟨data, offset⟩ >>= f) = .ok a ↔ offset = data.length ∧ f () = .ok a := by
  constructor
  · intro h
    obtain ⟨_, hr, h⟩ := bind_eq_ok.mp h
    exact ⟨finish_ok hr, h⟩
  · rintro ⟨hend, h⟩
    exact (bind_ok (finish_at hend) _).trans h

end Walk

/-- Reading a counted payload and then finishing accepts exactly the data whose
rest has the counted length. -/
theorem verdict_readRest {α : Type} (count : Nat) (result : Bytes → α) (hle : offset ≤ data.length) :
    verdict (readBytes ⟨data, offset⟩ count >>= fun read =>
        read.2.finish >>= fun _ => pure (result read.1)) =
      if data.length = offset + count then .accepted (result (data.drop offset)) else .malformed := by
  by_cases hcount : offset + count ≤ data.length
  · rw [bind_ok (readBytes_at hcount)]
    by_cases hall : data.length = offset + count
    · rw [bind_ok (finish_at hall.symm), if_pos hall, slice_to_end _ _ _ (by omega)]
      rfl
    · rw [if_neg hall]
      refine verdict_local ⟨.trailingBytes (offset + count) _, bind_error (if_neg ?_) _, rfl⟩
      exact fun h => hall h.symm
  · have hremaining : ¬ count ≤ data.length - offset := by omega
    rw [if_neg (by omega)]
    exact verdict_local ⟨_, bind_error (if_neg hremaining) _, rfl⟩

end Cursor

/-! ### Fixed-width encodings -/

def uint16BE (value : UInt16) : Bytes :=
  let n := value.toNat
  [UInt8.ofNat (n / 256), UInt8.ofNat n]

@[simp] theorem length_uint16BE (value : UInt16) : (uint16BE value).length = 2 := rfl

def uint24BE (value : UInt32) : Bytes :=
  let n := value.toNat
  [UInt8.ofNat (n / 65536), UInt8.ofNat (n / 256), UInt8.ofNat n]

def uint32BE (value : UInt32) : Bytes :=
  let n := value.toNat
  [UInt8.ofNat (n / 16777216), UInt8.ofNat (n / 65536), UInt8.ofNat (n / 256), UInt8.ofNat n]

def uint64BE (value : UInt64) : Bytes :=
  let n := value.toNat
  [UInt8.ofNat (n / 72057594037927936), UInt8.ofNat (n / 281474976710656),
    UInt8.ofNat (n / 1099511627776), UInt8.ofNat (n / 4294967296),
    UInt8.ofNat (n / 16777216), UInt8.ofNat (n / 65536), UInt8.ofNat (n / 256), UInt8.ofNat n]

end ClassicS7
