import ClassicS7.Wire.Blocks

/-! The two machines of a block transfer.

An upload takes fragments until one says that it is the last, and keeps within the length
that was declared, or, where none was, within a limit. A download gives out the block in
slices, from its start to its end, and is over only when all of it has been asked for. -/
namespace ClassicS7

/-! ### Upload -/

namespace Upload
open Checks

/-- What has been received, with its bound. -/
structure Assembly (maximum : Nat) where
  data : Bytes
  bounded : data.length ≤ maximum

def Assembly.empty (maximum : Nat) : Assembly maximum := ⟨[], Nat.zero_le _⟩

def Assembly.append {maximum : Nat} (state : Assembly maximum) (chunk : Bytes) :
    Except DecodeError (Assembly maximum) :=
  if hbound : state.data.length + chunk.length ≤ maximum then
    .ok ⟨state.data ++ chunk, by simpa using hbound⟩
  else
    .error (.invalidField 0 s!"block upload exceeds its {maximum}-byte safety limit")

inductive Phase where
  | receiving
  | awaitingEnd
  | complete
  deriving Repr, DecidableEq

structure State (maximum : Nat) where
  phase : Phase
  expected : Option Nat
  assembly : Assembly maximum

def start (maximum : Nat) (expected : Option Nat) : Except DecodeError (State maximum) := do
  if let some size := expected then
    if size > maximum then
      throw (.invalidField 0 "declared upload length exceeds the safety limit")
  return { phase := .receiving, expected, assembly := .empty maximum }

variable {maximum : Nat}

theorem Assembly.append_eq_ok {state after : Assembly maximum} {chunk : Bytes} :
    state.append chunk = .ok after ↔ after.data = state.data ++ chunk := by
  unfold append
  split
  · rw [Except.ok.injEq]
    constructor
    · rintro rfl
      rfl
    · obtain ⟨data, bounded⟩ := after
      rintro rfl
      rfl
  · rename_i hbound
    constructor
    · intro h
      cases h
    · intro h
      have hlength := after.bounded
      rw [h, List.length_append] at hlength
      exact absurd hlength hbound

/-- An accepted fragment goes behind what has been received before. -/
structure Step (state : State maximum) (fragment : S7.UploadFragment) where
  after : State maximum
  data_eq : after.assembly.data = state.assembly.data ++ fragment.data
  phase_eq : after.phase = if fragment.isLast then .awaitingEnd else .receiving
  progress : fragment.isLast = false → state.assembly.data.length < after.assembly.data.length

def accept (state : State maximum) (fragment : S7.UploadFragment) : Except DecodeError (Step state fragment) := do
  if state.phase != .receiving then
    throw (.invalidField 0 "upload fragment received after the final fragment")
  if hnoProgress : fragment.isLast = false ∧ fragment.data.length = 0 then
    throw (.invalidField 0 "upload continuation fragment made no progress")
  else
    let nextSize := state.assembly.data.length + fragment.data.length
    if let some expected := state.expected then
      if nextSize > expected then
        throw (.invalidField 0 "upload fragment exceeds the declared block length")
      if fragment.isLast && nextSize != expected then
        throw (.invalidField 0 "final upload fragment does not match the declared block length")
      if !fragment.isLast && nextSize == expected then
        throw (.invalidField 0 "upload continuation reached the declared block length")
    match happend : state.assembly.append fragment.data with
    | .error error => throw error
    | .ok assembly =>
      return {
        after := {
          assembly
          expected := state.expected
          phase := if fragment.isLast then .awaitingEnd else .receiving
        }
        data_eq := Assembly.append_eq_ok.mp happend
        phase_eq := rfl
        progress := fun hmore => by
          have hdata := Assembly.append_eq_ok.mp happend
          have hnonempty : fragment.data.length ≠ 0 := fun hzero => hnoProgress ⟨hmore, hzero⟩
          simp only [hdata, List.length_append]
          omega
      }

/-- A transfer is complete once its end has been acknowledged. -/
def finish (state : State maximum) : Except DecodeError (State maximum) :=
  match state.phase with
  | .awaitingEnd =>
    if let some expected := state.expected then
      if state.assembly.data.length != expected then
        .error (.invalidField 0 "completed upload does not match the declared block length")
      else .ok { state with phase := .complete }
    else .ok { state with phase := .complete }
  | _ => .error (.invalidField 0 "upload cannot complete before the final fragment")

end Upload

/-! ### Download -/

namespace Download

inductive Phase where
  | awaitingAck
  | awaitingFragment
  | awaitingEnd
  | complete
  deriving Repr, DecidableEq

/-- The block up to the offset has been sent. -/
structure State (payload : Bytes) where
  phase : Phase
  offset : Nat
  offset_le : offset ≤ payload.length

def start (payload : Bytes) : State payload :=
  { phase := .awaitingAck, offset := 0, offset_le := Nat.zero_le _ }

def acknowledge {payload : Bytes} (state : State payload) : Option (State payload) :=
  match state.phase with
  | .awaitingAck => some { state with phase := .awaitingFragment }
  | _ => none

/-- The next slice of the block. -/
structure Fragment (payload : Bytes) (before : State payload) (maximum : Nat) where
  chunk : Bytes
  after : State payload
  chunk_eq : chunk = slice payload before.offset after.offset
  after_eq : after.offset = min payload.length (before.offset + maximum)
  phase_eq : after.phase = if after.offset == payload.length then .awaitingEnd else .awaitingFragment
  progress : before.offset < after.offset
  bounded : chunk.length ≤ maximum

def nextFragment (payload : Bytes) (state : State payload) (maximum : Nat) :
    Option (Fragment payload state maximum) :=
  if _hphase : state.phase = .awaitingFragment then
    if hmax : 0 < maximum then
      if hremaining : state.offset < payload.length then
        let nextOffset := min payload.length (state.offset + maximum)
        let chunk := slice payload state.offset nextOffset
        let after : State payload := {
          phase := if nextOffset == payload.length then .awaitingEnd else .awaitingFragment
          offset := nextOffset
          offset_le := Nat.min_le_left _ _
        }
        some {
          chunk
          after
          chunk_eq := rfl
          after_eq := rfl
          phase_eq := rfl
          progress := by
            dsimp only [after, nextOffset]
            omega
          bounded := by
            dsimp only [chunk, nextOffset]
            rw [length_slice]
            omega
        }
      else none
    else none
  else none

def finish (payload : Bytes) (state : State payload) : Option (State payload) :=
  if state.phase == .awaitingEnd && state.offset == payload.length then
    some { state with phase := .complete }
  else none

/-- What has been sent, and then one slice, is what has been sent after it. -/
theorem Fragment.take_after {payload : Bytes} {before : State payload} {maximum : Nat}
    (fragment : Fragment payload before maximum) :
    payload.take fragment.after.offset = payload.take before.offset ++ fragment.chunk := by
  have hbefore : payload.take before.offset = slice payload 0 before.offset := by simp [slice]
  have hafter : payload.take fragment.after.offset = slice payload 0 fragment.after.offset := by simp [slice]
  rw [hbefore, hafter, fragment.chunk_eq]
  exact (slice_append payload 0 _ _ (Nat.zero_le _) (Nat.le_of_lt fragment.progress)).symm

/-- The slice that ends the block is the last one. -/
theorem Fragment.last_iff {payload : Bytes} {before : State payload} {maximum : Nat}
    (fragment : Fragment payload before maximum) :
    fragment.after.phase = .awaitingEnd ↔ fragment.after.offset = payload.length := by
  rw [fragment.phase_eq]
  by_cases h : fragment.after.offset = payload.length <;> simp [h]

end Download

end ClassicS7
