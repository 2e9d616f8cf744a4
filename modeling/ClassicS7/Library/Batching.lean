import Mathlib.Algebra.Ring.Nat

/-! Batches under budgets.

Items are taken from the front of what is pending as long as each is admissible, their
number stays within a limit, and two running costs stay within a budget. What is taken is
the longest such prefix (`take_spec`); when all items cost the same its length is a
formula (`length_take_uniform`). -/
namespace ClassicS7.Batching

variable {α : Type}

/-- What an item must be, and what it adds to the two costs. -/
structure Costs (α : Type) where
  admissible : α → Bool
  request : α → Nat
  response : α → Nat

/-- Take items while they fit, after `count` that are `selected`. -/
def take (costs : Costs α) (limit budget : Nat) : List α → Nat → Nat → Nat → List α → List α × List α
  | [], _, _, _, selected => (selected.reverse, [])
  | item :: rest, count, request, response, selected =>
    if costs.admissible item && count < limit && request + costs.request item ≤ budget &&
        response + costs.response item ≤ budget then
      take costs limit budget rest (count + 1) (request + costs.request item) (response + costs.response item)
        (item :: selected)
    else
      (selected.reverse, item :: rest)

/-- One more item would fit. -/
def Costs.Fits (costs : Costs α) (limit budget count request response : Nat) (item : α) : Prop :=
  costs.admissible item = true ∧ count < limit ∧ request + costs.request item ≤ budget ∧
    response + costs.response item ≤ budget

section Spec
variable {costs : Costs α} {limit budget : Nat}

theorem fits_iff {count request response : Nat} {item : α} :
    (costs.admissible item && count < limit && request + costs.request item ≤ budget &&
        response + costs.response item ≤ budget) = true ↔
      costs.Fits limit budget count request response item := by
  simp only [Costs.Fits, Bool.and_eq_true, decide_eq_true_eq, and_assoc]

/-- What was taken: a prefix that fits, which the next item would not prolong. -/
structure Longest (costs : Costs α) (limit budget count request response : Nat) (pending taken rest : List α) :
    Prop where
  partition : taken ++ rest = pending
  admissible : ∀ item ∈ taken, costs.admissible item = true
  within : taken ≠ [] → count + taken.length ≤ limit ∧ request + (taken.map costs.request).sum ≤ budget ∧
    response + (taken.map costs.response).sum ≤ budget
  maximal : ∀ item ∈ rest.head?, ¬ costs.Fits limit budget (count + taken.length)
    (request + (taken.map costs.request).sum) (response + (taken.map costs.response).sum) item

theorem take_spec (costs : Costs α) (limit budget : Nat) (pending : List α) (count request response : Nat)
    (selected : List α) :
    ∃ taken rest, take costs limit budget pending count request response selected =
      (selected.reverse ++ taken, rest) ∧ Longest costs limit budget count request response pending taken rest := by
  induction pending generalizing count request response selected with
  | nil =>
    exact ⟨[], [], by simp [take], rfl, by simp, by simp, by simp⟩
  | cons item pending ih =>
    rw [take]
    split
    · rename_i hfits
      rw [fits_iff] at hfits
      obtain ⟨hadmissible, hlimit, hrequest, hresponse⟩ := hfits
      obtain ⟨taken, rest, htake, longest⟩ :=
        ih (count + 1) (request + costs.request item) (response + costs.response item) (item :: selected)
      refine ⟨item :: taken, rest, ?_, ?_, ?_, ?_, ?_⟩
      · rw [htake, List.reverse_cons, List.append_assoc]
        rfl
      · rw [List.cons_append, longest.partition]
      · rintro other (_ | ⟨_, hother⟩)
        · exact hadmissible
        · exact longest.admissible other hother
      · intro _
        simp only [List.length_cons, List.map_cons, List.sum_cons]
        by_cases hnil : taken = []
        · subst hnil
          simp
          omega
        · have hwithin := longest.within hnil
          omega
      · simp only [List.length_cons, List.map_cons, List.sum_cons]
        intro other hother
        have hmaximal := longest.maximal other hother
        simp only [Costs.Fits] at hmaximal ⊢
        simp only [Nat.add_assoc, Nat.add_comm 1] at hmaximal ⊢
        exact hmaximal
    · rename_i hfits
      rw [fits_iff] at hfits
      refine ⟨[], item :: pending, by simp, rfl, by simp, by simp, ?_⟩
      simp only [List.head?_cons, Option.mem_some_iff, forall_eq']
      exact hfits

/-- The two halves of a take that starts with nothing selected. -/
theorem longest_take (costs : Costs α) (limit budget : Nat) (pending : List α) (count request response : Nat) :
    Longest costs limit budget count request response pending
      (take costs limit budget pending count request response []).1
      (take costs limit budget pending count request response []).2 := by
  obtain ⟨taken, rest, htake, longest⟩ := take_spec costs limit budget pending count request response []
  rw [htake]
  exact longest

theorem sum_map_const {f : α → Nat} {cost : Nat} {items : List α} (h : ∀ item ∈ items, f item = cost) :
    (items.map f).sum = items.length * cost := by
  rw [List.map_congr_left h, List.map_const', List.sum_replicate_nat]

/-- Where every item is admissible and costs the same, the batch is as long as the tightest
of the limits. -/
theorem length_take_uniform {pending taken rest : List α} {count request response first second : Nat}
    (longest : Longest costs limit budget count request response pending taken rest)
    (huniform : ∀ item ∈ pending, costs.admissible item = true ∧ costs.request item = first ∧
      costs.response item = second) (hfirst : 0 < first) (hsecond : 0 < second) :
    taken.length = min pending.length (min (limit - count)
      (min ((budget - request) / first) ((budget - response) / second))) := by
  have htaken : ∀ item ∈ taken, item ∈ pending := fun item h => longest.partition ▸ List.mem_append_left rest h
  have hrequests : (taken.map costs.request).sum = taken.length * first :=
    sum_map_const fun item h => (huniform item (htaken item h)).2.1
  have hresponses : (taken.map costs.response).sum = taken.length * second :=
    sum_map_const fun item h => (huniform item (htaken item h)).2.2
  have hlength : taken.length + rest.length = pending.length := by rw [← longest.partition, List.length_append]
  rw [Nat.eq_iff_le_and_ge]
  constructor
  · obtain hnil | hnil := Decidable.em (taken = [])
    · simp [hnil]
    · have hwithin := longest.within hnil
      rw [hrequests, hresponses] at hwithin
      simp only [Nat.le_min, Nat.le_div_iff_mul_le hfirst, Nat.le_div_iff_mul_le hsecond]
      omega
  · refine Nat.le_of_not_lt fun hshort => ?_
    simp only [Nat.lt_min] at hshort
    obtain ⟨hpending, hlimit, hfirst', hsecond'⟩ := hshort
    have hroom := (Nat.le_div_iff_mul_le hfirst).mp (Nat.succ_le_of_lt hfirst')
    have hroom' := (Nat.le_div_iff_mul_le hsecond).mp (Nat.succ_le_of_lt hsecond')
    rw [Nat.succ_mul] at hroom hroom'
    cases rest with
    | nil => simp only [List.length_nil] at hlength; omega
    | cons item rest =>
      have hitem := huniform item (longest.partition ▸ List.mem_append_right taken List.mem_cons_self)
      refine longest.maximal item (by simp) ⟨hitem.1, by omega, ?_, ?_⟩
      · rw [hrequests, hitem.2.1]
        omega
      · rw [hresponses, hitem.2.2]
        omega

end Spec

end ClassicS7.Batching
