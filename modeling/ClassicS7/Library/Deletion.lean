/-! Deleting windows from a list.

A window is the `width` entries from an index on. A deletion applies where
something is left and a predicate holds of what is left; a list is `Minimal` at
a width when no deletion of an aligned window of that width applies. At width
one that is every single entry (`minimal_one`). -/
namespace ClassicS7.Deletion

variable {α : Type}

/-- The list without `width` entries from `index` on. -/
def without (xs : List α) (index width : Nat) : List α := xs.take index ++ xs.drop (index + width)

/-- The deletion leaves something, and the predicate holds of it. -/
def Applies (fails : List α → Bool) (xs : List α) (index width : Nat) : Prop :=
  without xs index width ≠ [] ∧ fails (without xs index width) = true

instance (fails : List α → Bool) (xs : List α) (index width : Nat) :
    Decidable (Applies fails xs index width) :=
  inferInstanceAs (Decidable (_ ∧ _))

/-- No aligned window below a bound can be deleted. -/
def MinimalBelow (fails : List α → Bool) (width bound : Nat) (xs : List α) : Prop :=
  ∀ index, index < bound → width ∣ index → ¬ Applies fails xs index width

/-- No aligned window can be deleted. -/
def Minimal (fails : List α → Bool) (width : Nat) (xs : List α) : Prop :=
  MinimalBelow fails width xs.length xs

theorem without_sublist (xs : List α) (index width : Nat) : (without xs index width).Sublist xs := by
  calc without xs index width
      = xs.take index ++ (xs.drop index).drop width := by rw [without, List.drop_drop]
    _ |>.Sublist (xs.take index ++ xs.drop index) := (List.Sublist.refl _).append (List.drop_sublist _ _)
    _ = xs := List.take_append_drop _ _

theorem length_without_lt (xs : List α) {index width : Nat} (hwidth : 0 < width)
    (hindex : index < xs.length) : (without xs index width).length < xs.length := by
  simp only [without, List.length_append, List.length_take, List.length_drop]
  omega

theorem without_one (xs : List α) (index : Nat) : without xs index 1 = xs.eraseIdx index :=
  (List.eraseIdx_eq_take_drop_succ xs index).symm

/-- A window that was refused extends the refused ones by its whole width. -/
theorem MinimalBelow.extend {fails : List α → Bool} {width index : Nat} {xs : List α}
    (h : MinimalBelow fails width index xs) (hindex : width ∣ index)
    (hrefused : ¬ Applies fails xs index width) : MinimalBelow fails width (index + width) xs := by
  intro j hj hdvd
  by_cases hlt : j < index
  · exact h j hlt hdvd
  · -- the only multiple of the width in the last window is its start
    obtain ⟨m, rfl⟩ := hindex
    obtain ⟨k, rfl⟩ := hdvd
    have hk : k = m := by
      have hlower : m ≤ k := Nat.le_of_mul_le_mul_left (Nat.le_of_not_lt hlt) (Nat.pos_of_ne_zero (by
        rintro rfl
        simp at hj))
      have hupper : k < m + 1 := Nat.lt_of_mul_lt_mul_left (a := width) (by rwa [Nat.mul_succ])
      omega
    rwa [hk]

theorem minimalBelow_zero (fails : List α → Bool) (width : Nat) (xs : List α) :
    MinimalBelow fails width 0 xs := fun _ h => absurd h (Nat.not_lt_zero _)

/-- At width one, deleting any single entry empties the list or makes the
predicate fail. -/
theorem minimal_one {fails : List α → Bool} {xs : List α} (h : Minimal fails 1 xs) {index : Nat}
    (hindex : index < xs.length) : xs.eraseIdx index = [] ∨ fails (xs.eraseIdx index) = false := by
  have hrefused := h index hindex (Nat.one_dvd index)
  rw [Applies, without_one, Classical.not_and_iff_not_or_not, Classical.not_not] at hrefused
  exact hrefused.imp_right Bool.eq_false_iff.mpr

end ClassicS7.Deletion
