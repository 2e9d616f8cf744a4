import ClassicS7.Wire.UserData

/-! Assembling USER_DATA fragments.

The state carries its bounds as fields, and a step carries what it did. `assemble`
decodes the replies of a conversation in order and accepts each as a fragment. -/
namespace ClassicS7.UserDataAssembly

/-- Byte and fragment bounds are checked before accumulating payloads. Empty
fragments are legal: metadata-only continuations still consume a slot. -/
structure State (maximum fragments : Nat) where
  data : Bytes
  count : Nat
  complete : Bool
  bounded : data.length ≤ maximum
  countBounded : count ≤ fragments

def empty (maximum fragments : Nat) : State maximum fragments :=
  ⟨[], 0, false, Nat.zero_le _, Nat.zero_le _⟩

structure Step {maximum fragments : Nat} (before : State maximum fragments) (chunk : Bytes)
    (more : Bool) where
  after : State maximum fragments
  order : after.data = before.data ++ chunk
  count : after.count = before.count + 1
  completion : after.complete = !more
  continuationRoom : more = true → after.count < fragments

variable {maximum fragments : Nat}

def accept (state : State maximum fragments) (chunk : Bytes) (more : Bool) :
    Except DecodeError (Step state chunk more) :=
  if state.complete then
    .error (.invalidField 0 "USER_DATA fragment received after completion")
  else if hcount : state.count + 1 ≤ fragments then
    if hlast : more = true ∧ state.count + 1 = fragments then
      .error (.invalidField 0 s!"USER_DATA response exceeded the {fragments}-fragment safety limit")
    else if hsize : state.data.length + chunk.length ≤ maximum then
      .ok {
        after := ⟨state.data ++ chunk, state.count + 1, !more, by simpa using hsize, hcount⟩
        order := rfl
        count := rfl
        completion := rfl
        continuationRoom := fun hmore => Nat.lt_of_le_of_ne hcount fun heq => hlast ⟨hmore, heq⟩
      }
    else .error (.invalidField 0 s!"USER_DATA response exceeded the {maximum}-byte safety limit")
  else .error (.invalidField 0 s!"USER_DATA response exceeded the {fragments}-fragment safety limit")

/-- A fragment is accepted exactly when there is room for it. -/
def Room (state : State maximum fragments) (chunk : Bytes) (more : Bool) : Prop :=
  state.complete = false ∧ state.count + 1 ≤ fragments ∧ ¬ (more = true ∧ state.count + 1 = fragments) ∧
    state.data.length + chunk.length ≤ maximum

instance (state : State maximum fragments) (chunk : Bytes) (more : Bool) :
    Decidable (Room state chunk more) :=
  inferInstanceAs (Decidable (_ ∧ _))

theorem accept_isOk_iff (state : State maximum fragments) (chunk : Bytes) (more : Bool) :
    (∃ step, accept state chunk more = .ok step) ↔ Room state chunk more := by
  unfold accept Room
  by_cases hcomplete : state.complete = true
  · rw [if_pos hcomplete]
    exact iff_of_false (fun ⟨_, h⟩ => by cases h) (by simp [hcomplete])
  rw [if_neg hcomplete]
  by_cases hcount : state.count + 1 ≤ fragments
  · rw [dif_pos hcount]
    by_cases hlast : more = true ∧ state.count + 1 = fragments
    · rw [dif_pos hlast]
      exact iff_of_false (fun ⟨_, h⟩ => by cases h) fun h => h.2.2.1 hlast
    rw [dif_neg hlast]
    by_cases hsize : state.data.length + chunk.length ≤ maximum
    · rw [dif_pos hsize]
      exact iff_of_true ⟨_, rfl⟩ ⟨Bool.eq_false_iff.mpr hcomplete, hcount, hlast, hsize⟩
    · rw [dif_neg hsize]
      exact iff_of_false (fun ⟨_, h⟩ => by cases h) fun h => hsize h.2.2.2
  · rw [dif_neg hcount]
    exact iff_of_false (fun ⟨_, h⟩ => by cases h) fun h => hcount h.2.1

/-- Two states with the same contents are the same. -/
theorem State.ext {a b : State maximum fragments} (hdata : a.data = b.data) (hcount : a.count = b.count)
    (hcomplete : a.complete = b.complete) : a = b := by
  cases a
  cases b
  cases hdata
  cases hcount
  cases hcomplete
  rfl

/-! ### Conversations -/

/-- The replies of a conversation, decoded and accepted in order. -/
def assemble (reference : UInt16) (group subfunction : UInt8) :
    List Bytes → State maximum fragments → Except DecodeError (State maximum fragments)
  | [], state => .ok state
  | reply :: rest, state => do
    let decoded ← S7.decodeUserDataResponse reference group subfunction reply
    let step ← accept state decoded.payload decoded.hasMoreData
    assemble reference group subfunction rest step.after

/-- The payload of a complete conversation. -/
def conversation (reference : UInt16) (group subfunction : UInt8) (maximum fragments : Nat)
    (replies : List Bytes) : Except DecodeError Bytes := do
  let state ← assemble reference group subfunction replies (empty maximum fragments)
  if !state.complete then throw (.invalidField 0 "incomplete USER_DATA conversation")
  return state.data

end ClassicS7.UserDataAssembly
