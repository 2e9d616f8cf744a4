import ClassicS7.Library.Machine

/-! Ledgers: batches of entries that are settled later.

At most one batch is open at a time. Recording opens one, settling closes all of
it, with one outcome for each entry or one for all. Reading the ledger gives each
entry with its outcome, if it has one. `account` says what a ledger should hold
from the operations alone: each recorded batch, in order, under the first later
operation that settles; `entries_attemptAll` is that a ledger holds just that. -/
namespace ClassicS7

structure Ledger (α β : Type) where
  closed : List (α × β) := []
  opened : List α := []

namespace Ledger
open Machine
variable {α β : Type}

inductive Op (α β : Type) where
  | record (batch : List α)
  /-- One outcome for each open entry. -/
  | settle (outcomes : List β)
  /-- One outcome for whatever is open. -/
  | settleAll (outcome : β)

def record (ledger : Ledger α β) (batch : List α) : Option (Ledger α β) :=
  if ledger.opened = [] ∧ batch ≠ [] then some { ledger with opened := batch } else none

def settle (ledger : Ledger α β) (outcomes : List β) : Option (Ledger α β) :=
  if outcomes.length = ledger.opened.length then
    some { closed := ledger.closed ++ ledger.opened.zip outcomes }
  else none

def settleAll (ledger : Ledger α β) (outcome : β) : Ledger α β :=
  { closed := ledger.closed ++ ledger.opened.map (·, outcome) }

def apply (ledger : Ledger α β) : Op α β → Option (Ledger α β)
  | .record batch => ledger.record batch
  | .settle outcomes => ledger.settle outcomes
  | .settleAll outcome => some (ledger.settleAll outcome)

/-- Each entry in the order of recording, with its outcome once it has one. -/
def entries (ledger : Ledger α β) : List (α × Option β) :=
  ledger.closed.map (fun entry => (entry.1, some entry.2)) ++ ledger.opened.map (·, none)

/-! ### What an operation that applied did -/

theorem record_eq_some {ledger next : Ledger α β} {batch : List α} :
    ledger.record batch = some next ↔
      ledger.opened = [] ∧ batch ≠ [] ∧ next = { ledger with opened := batch } := by
  rw [record, Option.ite_none_right_eq_some, and_assoc, Option.some.injEq, eq_comm (a := next)]

theorem settle_eq_some {ledger next : Ledger α β} {outcomes : List β} :
    ledger.settle outcomes = some next ↔
      outcomes.length = ledger.opened.length ∧
        next = { closed := ledger.closed ++ ledger.opened.zip outcomes } := by
  rw [settle, Option.ite_none_right_eq_some, Option.some.injEq, eq_comm (a := next)]

/-! ### The account of a sequence of operations -/

def Op.settles : Op α β → Bool
  | .record _ => false
  | .settle _ | .settleAll _ => true

/-- What a settling operation gives the entries of a batch. -/
def Op.close (batch : List α) : Op α β → List (α × Option β)
  | .record _ => batch.map (·, none)
  | .settle outcomes => (batch.zip outcomes).map fun entry => (entry.1, some entry.2)
  | .settleAll outcome => batch.map (·, some outcome)

/-- A batch under the operations that follow it: settled by the first that
settles, open if there is none. -/
def resolve (batch : List α) (later : List (Op α β)) : List (α × Option β) :=
  match later.find? Op.settles with
  | some op => op.close batch
  | none => batch.map (·, none)

/-- The recorded batches in order, each under the operations that follow it. -/
def account : List (Op α β) → List (α × Option β)
  | [] => []
  | .record batch :: later => resolve batch later ++ account later
  | _ :: later => account later

/-- The batch an operation records, if it records one. -/
def Op.batch : Op α β → List α
  | .record batch => batch
  | .settle _ | .settleAll _ => []

/-- The recorded batches, in order. -/
def recorded (ops : List (Op α β)) : List α := ops.flatMap Op.batch

@[simp] theorem resolve_nil (later : List (Op α β)) : resolve ([] : List α) later = [] := by
  unfold resolve
  split
  · rename_i op _
    cases op <;> rfl
  · rfl

theorem resolve_of_settles (batch : List α) {op : Op α β} (later : List (Op α β))
    (h : op.settles = true) : resolve batch (op :: later) = op.close batch := by
  rw [resolve, List.find?_cons_of_pos h]

/-- From any ledger: the closed entries stay, the open batch is resolved by what
follows, and the rest is accounted for by itself. The induction is on the
operations; the open batch is what carries over from one to the next. -/
theorem entries_attemptAll_from (ledger : Ledger α β) (ops : List (Op α β)) :
    (attemptAll apply ledger ops).entries =
      ledger.closed.map (fun entry => (entry.1, some entry.2)) ++
        resolve ledger.opened (effective apply ledger ops) ++ account (effective apply ledger ops) := by
  induction ops generalizing ledger with
  | nil => simp [attemptAll, effective, account, resolve, entries]
  | cons op ops ih =>
    rw [attemptAll_cons, effective, attempt]
    cases happly : ledger.apply op with
    | none => exact ih ledger
    | some next =>
      rw [Option.getD_some, ih next]
      cases op with
      | record batch =>
        obtain ⟨hopen, -, rfl⟩ := record_eq_some.mp happly
        simp only [hopen, resolve_nil, account, List.append_nil, List.append_assoc]
      | settle outcomes =>
        obtain ⟨-, rfl⟩ := settle_eq_some.mp happly
        simp [resolve_of_settles _ _ (show (Op.settle outcomes : Op α β).settles = true from rfl),
          account, Op.close]
      | settleAll outcome =>
        cases happly
        simp [resolve_of_settles _ _ (show (Op.settleAll outcome : Op α β).settles = true from rfl),
          account, Op.close, settleAll, Function.comp_def]

/-- A ledger holds the account of the operations that applied to it. -/
theorem entries_attemptAll (ops : List (Op α β)) :
    (attemptAll apply ({} : Ledger α β) ops).entries = account (effective apply {} ops) := by
  rw [entries_attemptAll_from]
  simp

/-- No entry is lost, added or moved but for what is recorded. -/
theorem map_fst_entries_apply {ledger next : Ledger α β} {op : Op α β} (h : ledger.apply op = some next) :
    next.entries.map Prod.fst = ledger.entries.map Prod.fst ++ op.batch := by
  cases op with
  | record batch =>
    obtain ⟨hopen, -, rfl⟩ := record_eq_some.mp h
    simp [entries, hopen, Op.batch, Function.comp_def]
  | settle outcomes =>
    obtain ⟨hlength, rfl⟩ := settle_eq_some.mp h
    simp [entries, Op.batch, Function.comp_def, List.map_fst_zip (Nat.le_of_eq hlength.symm)]
  | settleAll outcome =>
    cases h
    simp [entries, Op.batch, Function.comp_def, settleAll]

theorem map_fst_entries_attemptAll_from (ledger : Ledger α β) (ops : List (Op α β)) :
    (attemptAll apply ledger ops).entries.map Prod.fst =
      ledger.entries.map Prod.fst ++ recorded (effective apply ledger ops) := by
  induction ops generalizing ledger with
  | nil => simp [attemptAll, effective, recorded]
  | cons op ops ih =>
    rw [attemptAll_cons, effective, attempt]
    cases happly : ledger.apply op with
    | none => exact ih ledger
    | some next =>
      rw [Option.getD_some, ih next, map_fst_entries_apply happly, List.append_assoc]
      rfl

theorem map_fst_entries_attemptAll (ops : List (Op α β)) :
    (attemptAll apply ({} : Ledger α β) ops).entries.map Prod.fst = recorded (effective apply {} ops) := by
  rw [map_fst_entries_attemptAll_from]
  rfl

end Ledger
end ClassicS7
