import ClassicS7.Library.Deletion

/-! Counterexample minimisation.

The fuzzer shrinks a failing event list by deleting windows: one sweep tries the
windows of a width from the left and starts over after each deletion, and the
width is halved from one sweep to the next. Whatever the predicate, a sweep ends
where no aligned window of its width can be deleted (`sweep_minimal`); the last
sweep has width one. -/
namespace ClassicS7.Oracle
open Deletion

variable {α : Type}

/-- The inner loop, from a result and an index. -/
def sweep (fails : List α → Bool) (width : Nat) (hwidth : 0 < width) (result : List α) (index : Nat) :
    List α :=
  if _hindex : index < result.length then
    let candidate := result.take index ++ result.drop (index + width)
    if !candidate.isEmpty && fails candidate then
      sweep fails width hwidth candidate 0  -- Revisit earlier deletions after a later simplification.
    else
      sweep fails width hwidth result (index + width)
  else result
termination_by (result.length, result.length - index)
decreasing_by
  · exact Prod.Lex.left _ _ (length_without_lt result hwidth _hindex)
  · exact Prod.Lex.right _ (by omega)

/-- The outer loop, from a result and a width. -/
def narrow (fails : List α → Bool) (result : List α) (width : Nat) : List α :=
  if hwidth : 0 < width then
    narrow fails (sweep fails width hwidth result 0) (width / 2)
  else result
termination_by width

/-- Deletion minimization; preserves the exact seed/config/remaining bytes. -/
def minimize (events : List α) (fails : List α → Bool) : List α :=
  narrow fails events (max 1 (events.length / 2))

/-! ### What the loops keep -/

section Loops
variable {fails : List α → Bool} {width : Nat}

/-- What every deletion keeps: a failing, non-empty part of the events, in order. -/
structure Shrunk (fails : List α → Bool) (events result : List α) : Prop where
  nonempty : result ≠ []
  sublist : result.Sublist events
  failing : fails result = true

theorem applies_iff (result : List α) (index : Nat) :
    (!(without result index width).isEmpty && fails (without result index width)) = true ↔
      Applies fails result index width := by
  rw [Bool.and_eq_true, Bool.not_eq_true', List.isEmpty_eq_false_iff, Applies]

/-- A deletion that applies leaves a failing part of the events. -/
theorem Shrunk.delete {events result : List α} (h : Shrunk fails events result) {index : Nat}
    (happlies : Applies fails result index width) : Shrunk fails events (without result index width) where
  nonempty := happlies.1
  sublist := (without_sublist result index width).trans h.sublist
  failing := happlies.2

theorem sweep_shrunk (hwidth : 0 < width) {events result : List α} (h : Shrunk fails events result)
    (index : Nat) : Shrunk fails events (sweep fails width hwidth result index) := by
  fun_induction sweep fails width hwidth result index with
  | case1 result index hindex candidate happlies ih => exact ih (h.delete ((applies_iff ..).mp happlies))
  | case2 result index hindex candidate hrefused ih => exact ih h
  | case3 result index hindex => exact h

/-- A sweep ends where no window of its width can be deleted. The windows before
the index have been refused on the current result; a deletion starts over. -/
theorem sweep_minimal (hwidth : 0 < width) {result : List α} {index : Nat} (hindex : width ∣ index)
    (hbelow : MinimalBelow fails width index result) :
    Minimal fails width (sweep fails width hwidth result index) := by
  fun_induction sweep fails width hwidth result index with
  | case1 result index _ candidate happlies ih =>
    exact ih (Nat.dvd_zero width) (minimalBelow_zero fails width _)
  | case2 result index _ candidate hrefused ih =>
    exact ih (Nat.dvd_add hindex (Nat.dvd_refl width))
      (hbelow.extend hindex fun h => hrefused ((applies_iff ..).mpr h))
  | case3 result index hend => exact fun j hj => hbelow j (Nat.lt_of_lt_of_le hj (Nat.le_of_not_lt hend))

theorem narrow_shrunk {events result : List α} (h : Shrunk fails events result) (width : Nat) :
    Shrunk fails events (narrow fails result width) := by
  fun_induction narrow fails result width with
  | case1 result width hwidth ih => exact ih (sweep_shrunk hwidth h 0)
  | case2 result width hwidth => exact h

/-- Halving reaches width one, and nothing happens after that sweep. -/
theorem narrow_minimal (hwidth : 0 < width) (result : List α) :
    Minimal fails 1 (narrow fails result width) := by
  fun_induction narrow fails result width with
  | case1 result width hpositive ih =>
    by_cases hlast : 0 < width / 2
    · exact ih hlast
    · have hone : width = 1 := by omega
      subst hone
      rw [narrow, dif_neg hlast]
      exact sweep_minimal _ (Nat.dvd_zero 1) (minimalBelow_zero fails 1 result)
  | case2 result width hzero => exact absurd hwidth hzero

end Loops

/-- **Minimisation is sound and 1-minimal**, for every predicate that holds of the
events it starts from. -/
theorem minimize_sound (fails : List α → Bool) (events : List α) (hevents : events ≠ [])
    (hfails : fails events = true) :
    minimize events fails ≠ [] ∧ (minimize events fails).Sublist events ∧
      fails (minimize events fails) = true ∧
      ∀ index, index < (minimize events fails).length →
        (minimize events fails).eraseIdx index = [] ∨
          fails ((minimize events fails).eraseIdx index) = false := by
  have hshrunk : Shrunk fails events (minimize events fails) :=
    narrow_shrunk ⟨hevents, List.Sublist.refl events, hfails⟩ _
  have hminimal : Minimal fails 1 (minimize events fails) := narrow_minimal (by omega) events
  exact ⟨hshrunk.nonempty, hshrunk.sublist, hshrunk.failing, fun _ => minimal_one hminimal⟩

/-- A predicate that is not monotone: the middle event can be spared only with the first. -/
def nonmonotonic (events : List String) : Bool :=
  [["begin", "send", "disconnect"], ["begin", "disconnect"], ["disconnect"]].contains events

theorem minimize_sound_nonmonotonic :
    minimize ["begin", "send", "disconnect"] nonmonotonic ≠ [] ∧
      (minimize ["begin", "send", "disconnect"] nonmonotonic).Sublist ["begin", "send", "disconnect"] ∧
      nonmonotonic (minimize ["begin", "send", "disconnect"] nonmonotonic) = true ∧
      ∀ index, index < (minimize ["begin", "send", "disconnect"] nonmonotonic).length →
        (minimize ["begin", "send", "disconnect"] nonmonotonic).eraseIdx index = [] ∨
          nonmonotonic ((minimize ["begin", "send", "disconnect"] nonmonotonic).eraseIdx index) = false :=
  minimize_sound nonmonotonic ["begin", "send", "disconnect"] (by decide) (by decide)

end ClassicS7.Oracle
