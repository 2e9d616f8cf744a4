import ClassicS7.Oracle.Correspondence

/-! The conversation oracle: lifecycle, retry, write and read events in any order.

An event names the bytes of its requests and responses, which the oracle checks
against its own encoders before its step. The model encodes and decodes instead.
The two keep the same state (`steps`), and answer alike except on the steps that
`Divergent` names: an empty acknowledgement with nothing pending, and a read whose
range ends past the address space. -/
namespace ClassicS7.Oracle.Conversation
open Checks

/-! ### Events -/

/-- An event as the corpus spells it. -/
inductive EventValue where
  | lifecycle (event : String)
  | retry (safety : String) (allowPotentiallyMutating : Bool) (errorKind : String) (remaining : Nat)
  | send (reference : Nat) (locations : List LocationValue) (requestPdu : Option (List Nat))
  | acknowledge (reference count : Nat) (codes : List Nat) (responsePdu : Option (List Nat))
  | read (reference : Nat) (range : RangeValue) (payload : List Nat)
      (requestPdu responsePdu : Option (List Nat))
  deriving Repr, DecidableEq

/-- A payload that fits the bit length of a read response. -/
abbrev Content := { data : Bytes // data.length * 8 ≤ 65535 }

/-- A checked event. -/
inductive Event where
  | lifecycle (event : Lifecycle.Event)
  | retry (safety : RetrySafety) (allow : Bool) (kind : ClientErrorKind) (remaining : Bounded 0xffffffff)
  | send (reference : Bounded 65535) (locations : List Location)
  | acknowledge (reference : Bounded 65535) (count : Bounded 255) (codes : Octets)
  | read (reference : Bounded 65535) (range : MemoryRange) (content : Content)
  deriving Repr, DecidableEq

def lifecycleEvent (name : String) : Except String Lifecycle.Event :=
  if name = "disconnect" then .ok .disconnect
  else if name = "transport-closed" then .ok .transportClosed
  else if name = "reconnected" then .ok .reconnected
  else .error "unknown lifecycle event"

def retrySafety (name : String) : Except String RetrySafety :=
  if name = "read-only" then .ok .readOnly
  else if name = "potentially-mutating" then .ok .potentiallyMutating
  else .error "invalid retry policy"

/-- The checks of an event; none of them looks at the state. -/
def event : EventValue → Except String Event
  | .lifecycle name => do return .lifecycle (← lifecycleEvent name)
  | .retry safety allow kind remaining => do
    let safety ← retrySafety safety
    let kind ← errorKind kind
    let remaining ← integer remaining 0xffffffff
    return .retry safety allow kind remaining
  | .send reference locations requestPdu => do
    let reference ← integer reference 65535
    if locations.length > 20 then throw "invalid locations"
    let locations ← locations.mapM location
    wire requestPdu (request reference (locations.map (·.range)) true)
    return .send reference locations
  | .acknowledge reference count codes responsePdu => do
    let reference ← integer reference 65535
    let count ← integer count 255
    let codes ← octets codes
    wire responsePdu (some (packet 3 reference (pack8 5 ++ pack8 count) codes))
    return .acknowledge reference count codes
  | .read reference range payload requestPdu responsePdu => do
    let reference ← integer reference 65535
    let item ← memoryRange range
    let content ← octets payload
    wire requestPdu (request reference [item] false)
    if hsize : content.val.length * 8 ≤ 65535 then
      wire responsePdu (some (packet 3 reference [4, 1]
        ([0xff, 4] ++ pack16 (content.val.length * 8) ++ content.val)))
      return .read reference item ⟨content, hsize⟩
    else throw "oversized read response"

/-! ### Steps -/

structure State where
  lifecycle : Lifecycle.State := .connected
  progress : Progress := {}
  pendingReference : Option (Bounded 65535) := none
  deriving Repr, DecidableEq

def State.snapshot (state : State) : Json := .obj [
  ("lifecycle", .str (lifecycleText state.lifecycle)), ("attempts", state.progress.json)]

/-- Whether a retry event is permitted. -/
def State.permits (state : State) (safety : RetrySafety) (allow : Bool) (kind : ClientErrorKind)
    (remaining : Nat) : Prop :=
  state.lifecycle ≠ .closed ∧ remaining > 0 ∧ transient kind = true ∧ (safety = .readOnly ∨ allow = true)

instance (state : State) (safety : RetrySafety) (allow : Bool) (kind : ClientErrorKind) (remaining : Nat) :
    Decidable (state.permits safety allow kind remaining) :=
  inferInstanceAs (Decidable (_ ∧ _))

def step (state : State) : Event → Except String (State × Json)
  | .lifecycle .disconnect => .ok ({ state with lifecycle := .closed }, accepted [])
  | .lifecycle .transportClosed =>
    .ok (if state.lifecycle ≠ .closed then { state with lifecycle := .disconnected } else state, accepted [])
  | .lifecycle .reconnected =>
    if state.lifecycle = .disconnected then .ok ({ state with lifecycle := .connected }, accepted [])
    else .ok (state, rejected "lifecycle-transition")
  | .retry safety allow kind remaining =>
    .ok (if state.permits safety allow kind remaining ∧ safety = .potentiallyMutating then
        { state with progress := state.progress.finishAll .replayedUnknown, pendingReference := none }
      else state,
      accepted [("permitted", .bool (state.permits safety allow kind remaining))])
  | .send reference locations =>
    if state.lifecycle ≠ .connected then .ok (state, rejected "not-connected")
    else if request reference (locations.map (·.range)) true = none then .ok (state, rejected "request-codec")
    else if state.progress.pending ≠ [] then .ok (state, rejected "write-progress")
    else .ok ({ state with
      progress := { state.progress with pending := locations }, pendingReference := some reference }, accepted [])
  | .acknowledge reference count codes =>
    if state.lifecycle ≠ .connected then .ok (state, rejected "not-connected")
    else if (state.pendingReference ≠ none ∧ some reference ≠ state.pendingReference) ∨
        count.val ≠ state.progress.pending.length ∨ codes.val.length ≠ state.progress.pending.length then
      .ok (state, rejected "response-codec")
    else do
      let progress ← state.progress.finish (codes.val.map Outcome.ofCode)
      return ({ state with progress, pendingReference := none }, accepted [])
  | .read _ item content =>
    if state.lifecycle ≠ .connected then .ok (state, rejected "not-connected")
    else if state.progress.pending ≠ [] then .ok (state, rejected "write-pending")
    else if item.count.val = 0 then .ok (state, rejected "request-codec")
    else if content.val.length ≠ item.count then .ok (state, rejected "response-codec")
    else .ok (state, accepted [("payload", .arr (content.val.map fun byte => .num byte.toNat))])

/-- The report of one event. -/
def answer (state : State) (event : Event) : Except String (State × Json) := do
  let (next, outcome) ← step state event
  return (next, .obj [("result", outcome), ("snapshot", next.snapshot)])

def trace (events : List EventValue) : Except String (List Json) := do
  if events.length > 1024 then throw "invalid event array"
  Machine.trace (fun state value => event value >>= answer state) {} events

/-! ### What events and states stand for -/

def Event.model : Event → Conversations.Event
  | .lifecycle event => .lifecycle event
  | .retry safety allow kind remaining => .retry safety allow kind remaining
  | .send reference locations => .send (UInt16.ofNat reference) (locations.map Location.model).toArray
  | .acknowledge reference count codes => .acknowledge (UInt16.ofNat reference) count codes.val.toArray
  | .read reference range content => .read (UInt16.ofNat reference) range.model content

def State.model (state : State) : Conversations.State :=
  { lifecycle := state.lifecycle
    progress := state.progress.model
    pendingReference := state.pendingReference.map fun reference => UInt16.ofNat reference.val }

/-- The steps on which the answers differ: an empty acknowledgement with nothing
pending, and a read that ends past the address space. -/
def Divergent (state : Conversations.State) : Conversations.Event → Prop
  | .acknowledge _ count codes =>
    state.lifecycle = .connected ∧ state.progress.pending = #[] ∧ count = 0 ∧ codes = #[]
  | .read _ range _ =>
    state.lifecycle = .connected ∧ state.progress.pending = #[] ∧ range.count ≠ 0 ∧
      range.start + range.count > 0x200000
  | _ => False

/-- What holds between events: nothing is pending without the reference of its request,
and what is pending fitted one request. -/
structure Inv (state : State) : Prop where
  reference : state.progress.pending = [] → state.pendingReference = none
  width : state.progress.pending.length ≤ 20

theorem inv_initial : Inv {} := ⟨fun _ => rfl, Nat.zero_le _⟩

/-- A step of the oracle returned and kept the invariant. The model's step leads to the
same state, with the same answer unless it is a divergent one. -/
def Steps (state : State) (event : Event) : Prop :=
  ∃ next result, step state event = .ok (next, result) ∧ Inv next ∧
    (Conversations.step state.model event.model).1 = next.model ∧
    ((Conversations.step state.model event.model).2 = result ↔ ¬ Divergent state.model event.model)

/-- Most steps are the model's, state and answer. -/
theorem Steps.of_eq {state next : State} {event : Event} {result : Json}
    (hstep : step state event = .ok (next, result)) (inv : Inv next)
    (hmodel : Conversations.step state.model event.model = (next.model, result))
    (hagree : ¬ Divergent state.model event.model) : Steps state event :=
  ⟨next, result, hstep, inv, congrArg Prod.fst hmodel, iff_of_true (congrArg Prod.snd hmodel) hagree⟩

theorem steps_lifecycle {state : State} (inv : Inv state) (event : Lifecycle.Event) :
    Steps state (.lifecycle event) := by
  obtain ⟨lifecycle, progress, pendingReference⟩ := state
  cases event with
  | disconnect | transportClosed | reconnected =>
    cases lifecycle <;> exact .of_eq rfl ⟨inv.reference, inv.width⟩ rfl id

/-- What is pending is replayed alike. -/
theorem replayed_model (state : State) :
    ({ state.model with progress := state.model.progress.replay, pendingReference := none } : Conversations.State) =
      ({ state with progress := state.progress.finishAll .replayedUnknown, pendingReference := none } :
        State).model := by
  simp only [State.model, model_finishAll]
  rfl

theorem steps_retry {state : State} (inv : Inv state) (safety : RetrySafety) (allow : Bool)
    (kind : ClientErrorKind) (remaining : Bounded 0xffffffff) :
    Steps state (.retry safety allow kind remaining) := by
  have hpermitted : (retryBudgetAfter remaining.val (state.model.lifecycle == .closed)
      (classifyClientError (Conversations.errorOfKind kind)) safety allow).isSome =
        decide (state.permits safety allow kind remaining) := by
    have heligible := retryEligible_iff remaining.val state.lifecycle kind safety allow
    rw [Conversations.classify_errorOfKind, retryBudgetAfter_eq]
    by_cases h : state.permits safety allow kind remaining
    · exact (congrArg Option.isSome (if_pos (heligible.mpr h))).trans (decide_eq_true h).symm
    · exact (congrArg Option.isSome (if_neg (mt heligible.mp h))).trans (decide_eq_false h).symm
  refine .of_eq rfl ?_ ?_ id
  · split
    · exact ⟨fun _ => rfl, Nat.zero_le _⟩
    · exact inv
  · simp only [Conversations.step, Event.model, hpermitted]
    refine Prod.ext ?_ rfl
    rw [apply_ite State.model, ← replayed_model]
    simp only [Bool.and_eq_true, decide_eq_true_eq, beq_iff_eq]
    rfl

theorem request_model (reference : Bounded 65535) (locations : List Location) :
    (Conversations.request (UInt16.ofNat reference) (locations.map Location.model).toArray).toOption =
      request reference (locations.map (·.range)) true := by
  unfold Conversations.request
  rw [writeItems_model, request_write]

theorem steps_send {state : State} (inv : Inv state) (reference : Bounded 65535) (locations : List Location) :
    Steps state (.send reference locations) := by
  have hrequest := request_model reference locations
  by_cases hconnected : state.lifecycle = .connected
  · have hopen : (state.model.lifecycle != .connected) = false := bne_eq_false_iff_eq.mpr hconnected
    cases hencoded : request reference (locations.map (·.range)) true with
    | none =>
      rw [hencoded] at hrequest
      obtain ⟨e, he⟩ := toOption_eq_none.mp hrequest
      refine .of_eq ((if_neg (not_not_intro hconnected)).trans (if_pos hencoded)) inv ?_ id
      simp only [Conversations.step, Event.model, hopen, he]
      rfl
    | some packet =>
      have hpacket : Conversations.request (UInt16.ofNat reference) (locations.map Location.model).toArray =
          .ok packet :=
        toOption_eq_some.mp (hrequest.trans hencoded)
      have hsome : request reference (locations.map (·.range)) true ≠ none := by
        rw [hencoded]
        exact Option.some_ne_none packet
      obtain ⟨hpositive, hcount⟩ := length_of_request hencoded
      rw [List.length_map] at hpositive hcount
      have hsent := model_sent state.progress (List.ne_nil_of_length_pos hpositive)
      by_cases hpending : state.progress.pending = []
      · rw [if_pos hpending] at hsent
        refine .of_eq ((if_neg (not_not_intro hconnected)).trans ((if_neg hsome).trans
          (if_neg (not_not_intro hpending)))) ?_ ?_ id
        · exact ⟨fun h => absurd h (List.ne_nil_of_length_pos hpositive), hcount⟩
        · have hnext : state.model.progress.sent (locations.map Location.model).toArray = .ok _ :=
            toOption_eq_some.mp hsent
          simp only [Conversations.step, Event.model, hopen, hpacket, hnext]
          rfl
      · rw [if_neg hpending] at hsent
        obtain ⟨e, he⟩ := toOption_eq_none.mp hsent
        refine .of_eq ((if_neg (not_not_intro hconnected)).trans ((if_neg hsome).trans (if_pos hpending)))
          inv ?_ id
        have hnext : state.model.progress.sent (locations.map Location.model).toArray = .error e := he
        simp only [Conversations.step, Event.model, hopen, hpacket, hnext]
        rfl
  · have hclosed : (state.model.lifecycle != .connected) = true := bne_iff_ne.mpr hconnected
    refine .of_eq (if_pos hconnected) inv ?_ id
    simp only [Conversations.step, Event.model, hclosed]
    rfl

/-- The model's acknowledgement is encoded and decoded again: what is left is the
check against what is pending. -/
theorem acknowledgement_decoded (reference : UInt16) (count : Bounded 255) (codes : Octets) :
    ∃ packet, Conversations.acknowledgement reference count codes.val.toArray = .ok packet ∧
      S7.decodeResponse packet = .ok ⟨S7.ackDataType, reference, [5, UInt8.ofNat count], codes, 0, 0⟩ := by
  have hparameters : ([5, UInt8.ofNat count] : Bytes).length ≤ S7.maxSectionSize :=
    show 2 ≤ 65535 by decide
  exact ⟨_, S7.encodeAckData_ok reference hparameters codes.property,
    S7.decodeResponse_ackDataBytes reference hparameters codes.property⟩

theorem word_inj {a b : Bounded 65535} : UInt16.ofNat a.val = UInt16.ofNat b.val ↔ a = b := by
  rw [← UInt16.toNat_inj, toNat_word, toNat_word, Subtype.ext_iff]

/-- What the model's decoder accepts, for something pending: the reference of its
request, and a status byte for each item. -/
theorem acknowledgement_eq_ok {reference : Bounded 65535} {pending : Option (Bounded 65535)}
    {count : Bounded 255} {codes : Octets} {width : Nat} (hpositive : 0 < width) (hwidth : width ≤ 20)
    {results : Array S7.WriteItemResult} :
    S7.decodeAreaWriteMany
        ((pending.map fun reference => UInt16.ofNat reference.val).getD (UInt16.ofNat reference)) width
        ⟨S7.ackDataType, UInt16.ofNat reference, [5, UInt8.ofNat count], codes, 0, 0⟩ = .ok results ↔
      ¬ ((pending ≠ none ∧ some reference ≠ pending) ∨ count.val ≠ width ∨ codes.val.length ≠ width) ∧
        results = (codes.val.map S7.WriteItemResult.ofReturnCode).toArray := by
  have hreference : UInt16.ofNat reference.val =
      (pending.map fun reference => UInt16.ofNat reference.val).getD (UInt16.ofNat reference) ↔
        ¬ (pending ≠ none ∧ some reference ≠ pending) := by
    cases pending with
    | none => simp
    | some expected => simp [word_inj]
  have hcount : ([5, UInt8.ofNat count] : Bytes) = [S7.writeFunction, UInt8.ofNat width] ↔ count.val = width := by
    have hbound := count.property
    rw [S7.writeFunction, List.cons_inj_right, List.cons.injEq, byte_eq_iff, UInt8.toNat_ofNat', UInt8.toNat_ofNat',
      Nat.mod_eq_of_lt (by omega), Nat.mod_eq_of_lt (by omega)]
    exact and_iff_left rfl
  rw [S7.decodeAreaWriteMany_eq_ok hpositive hwidth, S7.itemParameters_eq_accepted]
  simp only [hreference, hcount]
  constructor
  · rintro ⟨⟨href, -, hnumber⟩, hlength, hresults⟩
    exact ⟨fun h => h.elim href (·.elim (absurd hnumber) (absurd hlength)), Array.toList_inj.mp hresults⟩
  · rintro ⟨h, rfl⟩
    obtain ⟨href, h⟩ := not_or.mp h
    obtain ⟨hnumber, hlength⟩ := not_or.mp h
    exact ⟨⟨href, ⟨trivial, trivial⟩, Classical.not_not.mp hnumber⟩, Classical.not_not.mp hlength, rfl⟩

section Acknowledgement
variable {state : State} {reference : Bounded 65535} {count : Bounded 255} {codes : Octets}

/-- What the model makes of an acknowledgement: the statuses of what is pending. -/
def acknowledged (state : State) (reference : Bounded 65535) (count : Bounded 255) (codes : Octets) :
    Except DecodeError (Array S7.WriteItemResult) :=
  S7.decodeAreaWriteMany (state.model.pendingReference.getD (UInt16.ofNat reference))
    state.progress.pending.length ⟨S7.ackDataType, UInt16.ofNat reference, [5, UInt8.ofNat count], codes, 0, 0⟩

/-- A connected model's step on an acknowledgement it cannot decode. -/
theorem step_acknowledge_error (hconnected : state.lifecycle = .connected) {e : DecodeError}
    (he : acknowledged state reference count codes = .error e) :
    Conversations.step state.model (Event.acknowledge reference count codes).model =
      (state.model, Histories.rejected "response-codec") := by
  have hopen : (state.model.lifecycle != .connected) = false := bne_eq_false_iff_eq.mpr hconnected
  have hsize : state.model.progress.pending.size = state.progress.pending.length := by
    simp [State.model, Progress.model]
  obtain ⟨packet, hpacket, hdecode⟩ := acknowledgement_decoded (UInt16.ofNat reference) count codes
  simp only [Conversations.step, Event.model, hopen, hpacket, hdecode, hsize, Bind.bind, Except.bind]
  rw [show S7.decodeAreaWriteMany _ _ _ = .error e from he]
  rfl

/-- A connected model's step on an acknowledgement of what is pending. -/
theorem step_acknowledge_ok (hconnected : state.lifecycle = .connected) {results : Array S7.WriteItemResult}
    {next : WriteProgress.State} (hresults : acknowledged state reference count codes = .ok results)
    (hnext : state.progress.model.acknowledge results = .ok next) :
    Conversations.step state.model (Event.acknowledge reference count codes).model =
      ({ state.model with progress := next, pendingReference := none }, Histories.accepted) := by
  have hopen : (state.model.lifecycle != .connected) = false := bne_eq_false_iff_eq.mpr hconnected
  have hsize : state.model.progress.pending.size = state.progress.pending.length := by
    simp [State.model, Progress.model]
  obtain ⟨packet, hpacket, hdecode⟩ := acknowledgement_decoded (UInt16.ofNat reference) count codes
  simp only [Conversations.step, Event.model, hopen, hpacket, hdecode, hsize, Bind.bind, Except.bind]
  have hprogress : state.model.progress.acknowledge results = .ok next := hnext
  simp only [show S7.decodeAreaWriteMany _ _ _ = .ok results from hresults, hprogress]
  rfl

/-- An acknowledgement that the oracle refuses. -/
def Refused (state : State) (reference : Bounded 65535) (count : Bounded 255) (codes : Octets) : Prop :=
  (state.pendingReference ≠ none ∧ some reference ≠ state.pendingReference) ∨
    count.val ≠ state.progress.pending.length ∨ codes.val.length ≠ state.progress.pending.length

/-- With nothing pending there is nothing to finish. -/
theorem finish_nil {progress : Progress} (h : progress.pending = []) : progress.finish [] = .ok progress := by
  obtain ⟨history, pending⟩ := progress
  cases h
  simp [Progress.finish]

/-- With nothing pending the model has no use for an acknowledgement; the oracle takes
an empty one. -/
theorem steps_acknowledge_idle (inv : Inv state) (hconnected : state.lifecycle = .connected)
    (hpending : state.progress.pending = []) : Steps state (.acknowledge reference count codes) := by
  have herror : ∃ e, acknowledged state reference count codes = .error e := by
    unfold acknowledged S7.decodeAreaWriteMany
    rw [hpending]
    exact ⟨_, guard_error rfl⟩
  obtain ⟨e, he⟩ := herror
  have hmodel := step_acknowledge_error hconnected he
  have hrefused : Refused state reference count codes ↔ ¬ (count.val = 0 ∧ codes.val = []) := by
    rw [Refused, inv.reference hpending, hpending, List.length_nil, Classical.not_and_iff_not_or_not,
      or_iff_right fun h => h.1 rfl, ← List.length_eq_zero_iff]
  have hdivergent : Divergent state.model (Event.acknowledge reference count codes).model ↔
      ¬ Refused state reference count codes := by
    rw [hrefused, Classical.not_not]
    simp [Divergent, Event.model, State.model, Progress.model, hconnected, hpending]
  by_cases h : Refused state reference count codes
  · exact .of_eq ((if_neg (not_not_intro hconnected)).trans (if_pos h)) inv hmodel fun hd => hdivergent.mp hd h
  · obtain ⟨-, hcodes⟩ := Classical.not_not.mp (mt hrefused.mpr h)
    have hfinish : state.progress.finish (codes.val.map Outcome.ofCode) = .ok state.progress := by
      rw [hcodes]
      exact finish_nil hpending
    refine ⟨{ state with pendingReference := none }, accepted [], ?_, ⟨fun _ => rfl, inv.width⟩, ?_, ?_⟩
    · exact (if_neg (not_not_intro hconnected)).trans ((if_neg h).trans (bind_ok hfinish _))
    · rw [hmodel, State.model, inv.reference hpending]
      rfl
    · rw [hmodel]
      exact iff_of_false (by simp [Histories.rejected, accepted]) (not_not_intro (hdivergent.mpr h))

/-- What is pending is acknowledged alike. -/
theorem steps_acknowledge_pending (inv : Inv state) (hconnected : state.lifecycle = .connected)
    (hpending : state.progress.pending ≠ []) : Steps state (.acknowledge reference count codes) := by
  have hresults : ∀ results, acknowledged state reference count codes = .ok results ↔
      ¬ Refused state reference count codes ∧
        results = (codes.val.map S7.WriteItemResult.ofReturnCode).toArray :=
    fun _ => acknowledgement_eq_ok (List.length_pos_iff.mpr hpending) inv.width
  have hagree : ¬ Divergent state.model (Event.acknowledge reference count codes).model := by
    rintro ⟨-, hempty, -⟩
    simp [State.model, Progress.model, hpending] at hempty
  by_cases h : Refused state reference count codes
  · cases hdecode : acknowledged state reference count codes with
    | error e =>
      exact .of_eq ((if_neg (not_not_intro hconnected)).trans (if_pos h)) inv
        (step_acknowledge_error hconnected hdecode) hagree
    | ok results => exact absurd h ((hresults results).mp hdecode).1
  · obtain ⟨-, hlength⟩ := not_or.mp h
    obtain ⟨progress, hfinish, hdone, hack⟩ := model_finish state.progress codes
      (Classical.byContradiction fun hlength' => hlength (.inr hlength'))
    refine .of_eq ((if_neg (not_not_intro hconnected)).trans ((if_neg h).trans (bind_ok hfinish _))) ?_
      (step_acknowledge_ok hconnected ((hresults _).mpr ⟨h, rfl⟩) hack) hagree
    exact ⟨fun _ => rfl, by simp [hdone]⟩

end Acknowledgement

theorem steps_acknowledge {state : State} (inv : Inv state) (reference : Bounded 65535) (count : Bounded 255)
    (codes : Octets) : Steps state (.acknowledge reference count codes) := by
  by_cases hconnected : state.lifecycle = .connected
  · by_cases hpending : state.progress.pending = []
    · exact steps_acknowledge_idle inv hconnected hpending
    · exact steps_acknowledge_pending inv hconnected hpending
  · have hclosed : (state.model.lifecycle != .connected) = true := bne_iff_ne.mpr hconnected
    refine .of_eq (if_pos hconnected) inv ?_ fun h => hconnected h.1
    simp only [Conversations.step, Event.model, hclosed]
    rfl

section Read
variable {state : State} {reference : Bounded 65535} {range : MemoryRange} {content : Content}

/-- The data section of a read response with a payload. -/
def readData (content : Content) : Bytes :=
  [255, 4] ++ uint16BE (UInt16.ofNat (content.val.length * 8)) ++ content.val

theorem length_readData (content : Content) : (readData content).length = 4 + content.val.length := by
  simp only [readData, List.length_append, length_uint16BE, List.length_cons, List.length_nil]

theorem itemSize_readData (content : Content) : S7.itemSize (readData content) 0 = content.val.length := by
  have hword : wordAt (readData content) 2 = content.val.length * 8 :=
    (S7.word_uint16BE _).trans (S7.toNat_sectionSize content.property)
  have htransport : byteAt (readData content) 1 ≠ 9 := show (4 : UInt8).toNat ≠ 9 by decide
  rw [S7.itemSize, if_neg htransport, Nat.zero_add, hword, Nat.mul_div_cancel _ (by decide)]

/-- The model's read response is encoded and decoded again. -/
theorem readResponse_decoded (reference : UInt16) (content : Content) :
    ∃ packet, Conversations.readResponse reference content = .ok packet ∧
      S7.decodeResponse packet = .ok ⟨S7.ackDataType, reference, [4, 1], readData content, 0, 0⟩ := by
  have hbound := content.property
  have hparameters : ([4, 1] : Bytes).length ≤ S7.maxSectionSize := show 2 ≤ 65535 by decide
  have hdata : (readData content).length ≤ S7.maxSectionSize := by
    rw [length_readData, S7.maxSectionSize]
    omega
  exact ⟨_, S7.encodeAckData_ok reference hparameters hdata,
    S7.decodeResponse_ackDataBytes reference hparameters hdata⟩

/-- A read response answers a range of its length. -/
theorem readItemFrame_readData (range : MemoryRange) (content : Content) :
    S7.ReadItemFrame range.model true (readData content) 0 ↔ content.val.length = range.count := by
  have hword : wordAt (readData content) 2 = content.val.length * 8 :=
    (S7.word_uint16BE _).trans (S7.toNat_sectionSize content.property)
  constructor
  · intro frame
    have hsize := ((acceptsItem_dataBlocks rfl ..).mp (frame.form rfl)).2
    rwa [itemSize_readData] at hsize
  · intro hlength
    refine ⟨?_, .inr ?_, ?_, fun _ => (acceptsItem_dataBlocks rfl ..).mpr ⟨rfl, ?_⟩⟩
    · rw [length_readData]
      omega
    · rw [Nat.zero_add, hword, Nat.mul_mod_left]
    · rw [S7.itemNext, if_neg (by simp), itemSize_readData, length_readData]
      omega
    · rw [itemSize_readData]
      exact hlength

/-- The model's decoder takes a read response exactly when it has the counted length. -/
theorem decodeAreaReadMany_readData (reference : UInt16) (range : MemoryRange) (content : Content) :
    (∃ results, S7.decodeAreaReadMany reference #[range.model]
      ⟨S7.ackDataType, reference, [4, 1], readData content, 0, 0⟩ = .ok results) ↔
      content.val.length = range.count := by
  have hitems : S7.readItems [range.model] (readData content) 0 =
      if content.val.length = range.count then some [S7.itemResult (readData content) 0] else none := by
    have hend : S7.itemNext true (readData content) 0 = (readData content).length := by
      rw [S7.itemNext, if_neg (by simp), itemSize_readData, length_readData]
      omega
    rw [S7.readItems, List.isEmpty_nil]
    by_cases hlength : content.val.length = range.count
    · rw [if_pos hlength, if_pos ((readItemFrame_readData range content).mpr hlength), S7.readItems]
      exact congrArg (Option.map _) (if_pos hend)
    · rw [if_neg hlength, if_neg (mt (readItemFrame_readData range content).mp hlength)]
  have hparameters : S7.itemParameters ⟨S7.ackDataType, reference, [4, 1], readData content, 0, 0⟩ reference
      S7.readFunction 1 = .accepted () :=
    S7.itemParameters_eq_accepted.mpr ⟨rfl, ⟨rfl, rfl⟩, rfl⟩
  have hpositive : 0 < #[range.model].size := Nat.one_pos
  have hcount : #[range.model].size ≤ S7.maxItemCount := show 1 ≤ 20 by decide
  constructor
  · rintro ⟨results, hresults⟩
    have hsome := ((S7.decodeAreaReadMany_eq_ok hpositive hcount).mp hresults).2
    rw [hitems] at hsome
    split at hsome
    · assumption
    · cases hsome
  · intro hlength
    rw [if_pos hlength] at hitems
    exact ⟨#[_], (S7.decodeAreaReadMany_eq_ok hpositive hcount).mpr ⟨hparameters, hitems⟩⟩

section Model
variable (hconnected : state.lifecycle = .connected) (hpending : state.progress.pending = [])
include hconnected hpending

/-- An idle model's step on a read it cannot encode. -/
theorem step_read_refused (hrefused : range.refused false) :
    Conversations.step state.model (Event.read reference range content).model =
      (state.model, Histories.rejected "request-codec") := by
  have hopen : (state.model.lifecycle != .connected) = false := bne_eq_false_iff_eq.mpr hconnected
  have hidle : (!state.model.progress.pending.isEmpty) = false := by
    simp [State.model, Progress.model, hpending]
  obtain ⟨e, he⟩ := toOption_eq_none.mp
    ((request_read reference [range]).trans ((request_single reference range).mpr hrefused))
  have herror : S7.encodeAreaReadMany (UInt16.ofNat reference) #[range.model] = .error e := he
  simp only [Conversations.step, Event.model, hopen, hidle, herror]
  rfl

/-- An idle model's step on a read it can encode: the response is decoded. -/
theorem step_read_encoded (hrefused : ¬ range.refused false) :
    Conversations.step state.model (Event.read reference range content).model =
      match S7.decodeAreaReadMany (UInt16.ofNat reference) #[range.model]
          ⟨S7.ackDataType, UInt16.ofNat reference, [4, 1], readData content, 0, 0⟩ with
      | .ok _ => (state.model, .obj [("status", .str "accept"), ("payload", Histories.octets content)])
      | .error _ => (state.model, Histories.rejected "response-codec") := by
  have hopen : (state.model.lifecycle != .connected) = false := bne_eq_false_iff_eq.mpr hconnected
  have hidle : (!state.model.progress.pending.isEmpty) = false := by
    simp [State.model, Progress.model, hpending]
  obtain ⟨encoded, hencoded⟩ := Option.ne_none_iff_exists'.mp (mt (request_single reference range).mp hrefused)
  have hok : S7.encodeAreaReadMany (UInt16.ofNat reference) #[range.model] = .ok encoded :=
    toOption_eq_some.mp ((request_read reference [range]).trans hencoded)
  obtain ⟨packet, hpacket, hdecode⟩ := readResponse_decoded (UInt16.ofNat reference) content
  simp only [Conversations.step, Event.model, hopen, hidle, hok, hpacket, hdecode, Bind.bind, Except.bind]
  cases S7.decodeAreaReadMany (UInt16.ofNat reference) #[range.model]
    ⟨S7.ackDataType, UInt16.ofNat reference, [4, 1], readData content, 0, 0⟩ <;> rfl

/-- An idle model's step on a read response, by its length. -/
theorem step_read_length (hrefused : ¬ range.refused false) :
    Conversations.step state.model (Event.read reference range content).model =
      (state.model, if content.val.length = range.count then
        .obj [("status", .str "accept"), ("payload", Histories.octets content)]
      else Histories.rejected "response-codec") := by
  have hiff := decodeAreaReadMany_readData (UInt16.ofNat reference) range content
  rw [step_read_encoded hconnected hpending hrefused]
  cases hdecode : S7.decodeAreaReadMany (UInt16.ofNat reference) #[range.model]
    ⟨S7.ackDataType, UInt16.ofNat reference, [4, 1], readData content, 0, 0⟩ with
  | ok results => rw [if_pos (hiff.mp ⟨results, hdecode⟩)]
  | error e =>
    rw [if_neg fun hlength => ?_]
    obtain ⟨results, hresults⟩ := hiff.mpr hlength
    cases hdecode.symm.trans hresults

end Model

/-- An idle oracle does not look at the end of a range. -/
theorem steps_read_idle (inv : Inv state) (hconnected : state.lifecycle = .connected)
    (hpending : state.progress.pending = []) : Steps state (.read reference range content) := by
  have hidle : state.model.progress.pending = #[] := by
    simp [State.model, Progress.model, hpending]
  have hstep : step state (.read reference range content) =
      if range.count.val = 0 then .ok (state, rejected "request-codec")
      else if content.val.length ≠ range.count then .ok (state, rejected "response-codec")
      else .ok (state, accepted [("payload", .arr (content.val.map fun byte => .num byte.toNat))]) :=
    (if_neg (not_not_intro hconnected)).trans (if_neg (not_not_intro hpending))
  have hdivergent : Divergent state.model (Event.read reference range content).model ↔
      range.count.val ≠ 0 ∧ range.start.val + range.count.val > 0x200000 :=
    ⟨fun h => h.2.2, fun h => ⟨hconnected, hidle, h⟩⟩
  have hrefused : range.refused false ↔
      range.count.val = 0 ∨ range.start.val + range.count.val > 0x200000 := by
    simp [MemoryRange.refused]
  by_cases hzero : range.count.val = 0
  · exact .of_eq (hstep.trans (if_pos hzero)) inv
      (step_read_refused hconnected hpending (hrefused.mpr (.inl hzero))) fun hd => (hdivergent.mp hd).1 hzero
  by_cases hend : range.start.val + range.count.val > 0x200000
  · have hmodel : Conversations.step state.model (Event.read reference range content).model =
        (state.model, Histories.rejected "request-codec") :=
      step_read_refused hconnected hpending (hrefused.mpr (.inr hend))
    have hdiverges := hdivergent.mpr ⟨hzero, hend⟩
    rw [if_neg hzero] at hstep
    by_cases hlength : content.val.length = range.count
    · refine ⟨_, _, hstep.trans (if_neg (not_not_intro hlength)), inv, congrArg Prod.fst hmodel, ?_⟩
      rw [hmodel]
      exact iff_of_false (by simp [Histories.rejected, accepted]) (not_not_intro hdiverges)
    · refine ⟨_, _, hstep.trans (if_pos hlength), inv, congrArg Prod.fst hmodel, ?_⟩
      rw [hmodel]
      exact iff_of_false (by simp [Histories.rejected, rejected]) (not_not_intro hdiverges)
  · have hmodel : Conversations.step state.model (Event.read reference range content).model = _ :=
      step_read_length hconnected hpending fun h => (hrefused.mp h).elim hzero hend
    have hagree : ¬ Divergent state.model (Event.read reference range content).model :=
      fun hd => hend (hdivergent.mp hd).2
    rw [if_neg hzero] at hstep
    by_cases hlength : content.val.length = range.count
    · rw [if_pos hlength] at hmodel
      exact .of_eq (hstep.trans (if_neg (not_not_intro hlength))) inv hmodel hagree
    · rw [if_neg hlength] at hmodel
      exact .of_eq (hstep.trans (if_pos hlength)) inv hmodel hagree

end Read

theorem steps_read {state : State} (inv : Inv state) (reference : Bounded 65535) (range : MemoryRange)
    (content : Content) : Steps state (.read reference range content) := by
  by_cases hconnected : state.lifecycle = .connected
  · by_cases hpending : state.progress.pending = []
    · exact steps_read_idle inv hconnected hpending
    · have hopen : (state.model.lifecycle != .connected) = false := bne_eq_false_iff_eq.mpr hconnected
      have hbusy : (!state.model.progress.pending.isEmpty) = true := by
        simp [State.model, Progress.model, hpending]
      refine .of_eq ((if_neg (not_not_intro hconnected)).trans (if_pos hpending)) inv ?_ ?_
      · simp only [Conversations.step, Event.model, hopen, hbusy]
        rfl
      · rintro ⟨-, hempty, -⟩
        simp [State.model, Progress.model, hpending] at hempty
  · have hclosed : (state.model.lifecycle != .connected) = true := bne_iff_ne.mpr hconnected
    refine .of_eq (if_pos hconnected) inv ?_ fun h => hconnected h.1
    simp only [Conversations.step, Event.model, hclosed]
    rfl

/-- Every step of the oracle leads where the model's does, and the two answer alike
but for the divergent steps. -/
theorem steps {state : State} (inv : Inv state) (event : Event) : Steps state event := by
  cases event with
  | lifecycle event => exact steps_lifecycle inv event
  | retry safety allow kind remaining => exact steps_retry inv safety allow kind remaining
  | send reference locations => exact steps_send inv reference locations
  | acknowledge reference count codes => exact steps_acknowledge inv reference count codes
  | read reference range content => exact steps_read inv reference range content

/-! ### Traces against the model's reports -/

theorem snapshot_model (state : State) : Conversations.snapshot state.model = state.snapshot := by
  rw [Conversations.snapshot, State.snapshot, ← attemptsJson_model, lifecycleText_eq]
  rfl

/-- The model follows the oracle step by step. -/
theorem lockstep : Machine.Lockstep answer Conversations.answer Inv State.model Event.model
    fun state event => ¬ Divergent state event where
  invariant := by
    intro state event next report inv h
    obtain ⟨next', result, hstep, hinv, -⟩ := steps inv event
    cases (bind_ok hstep _).symm.trans h
    exact hinv
  state := by
    intro state event next report inv h
    obtain ⟨next', result, hstep, -, hstate, -⟩ := steps inv event
    cases (bind_ok hstep _).symm.trans h
    exact hstate
  answer := by
    intro state event next report inv h
    obtain ⟨next', result, hstep, -, hstate, hagree⟩ := steps inv event
    cases (bind_ok hstep _).symm.trans h
    rw [← hagree, Conversations.answer, hstate, snapshot_model]
    exact Histories.report_inj

/-- A trace checks its events and then takes the oracle's steps. -/
theorem trace_eq (values : List EventValue) :
    trace values =
      if values.length ≤ 1024 then values.mapM event >>= Machine.trace answer {}
      else .error "invalid event array" := by
  have hprogress : ∀ state event, Inv state →
      ∃ next report, answer state event = .ok (next, report) ∧ Inv next := by
    intro state event inv
    obtain ⟨next, result, hstep, hinv, -⟩ := steps inv event
    exact ⟨next, _, bind_ok hstep _, hinv⟩
  unfold trace
  by_cases hlength : values.length ≤ 1024
  · rw [if_pos hlength, ← Machine.trace_checked hprogress inv_initial]
    exact guard_ok (Nat.not_lt.mpr hlength)
  · rw [if_neg hlength]
    exact guard_error (Nat.lt_of_not_le hlength)

/-- A trace of checked events is the model's report exactly when no step diverges. -/
theorem run_eq_iff_along {values : List EventValue} {events : List Event} {out : List Json}
    (hevents : values.mapM event = .ok events) (htrace : trace values = .ok out) :
    (Conversations.run (events.map Event.model).toArray).toList = out ↔
      Machine.Along Conversations.answer (fun state event => ¬ Divergent state event) {}
        (events.map Event.model) := by
  rw [trace_eq] at htrace
  split at htrace
  · rw [bind_ok hevents] at htrace
    rw [Conversations.run_eq_outputs]
    exact lockstep.outputs_eq_iff inv_initial htrace
  · cases htrace

/-- The oracle's trace is the model's report of the same events exactly when no step
of the model on them is a divergent one. -/
theorem trace_eq_run_iff {values : List EventValue} {out : List Json} (htrace : trace values = .ok out) :
    ∃ events, values.mapM event = .ok events ∧
      ((Conversations.run (events.map Event.model).toArray).toList = out ↔
        Machine.Along Conversations.answer (fun state event => ¬ Divergent state event) {}
          (events.map Event.model)) := by
  have hchecked := htrace
  rw [trace_eq] at hchecked
  split at hchecked
  · obtain ⟨events, hevents, -⟩ := bind_eq_ok.mp hchecked
    exact ⟨events, hevents, run_eq_iff_along hevents htrace⟩
  · cases hchecked

/-- A write of one byte, acknowledged, and the end of the connection. -/
def sampleEvents : List EventValue := [
  .send 1 [{ range := { dbNumber := 1, start := 0, count := 1 } }]
    (some [0x32, 1, 0, 0, 0, 1, 0, 14, 0, 5, 5, 1, 0x12, 0x0a, 0x10, 2, 0, 1, 0, 1, 0x84, 0, 0, 0, 0, 4, 0, 8, 0]),
  .acknowledge 1 1 [255] (some [0x32, 3, 0, 0, 0, 1, 0, 2, 0, 1, 0, 0, 5, 1, 255]),
  .lifecycle "disconnect"]

theorem trace_eq_run_iff_sample :
    ∃ out, trace sampleEvents = .ok out ∧ ∃ events, sampleEvents.mapM event = .ok events ∧
      ((Conversations.run (events.map Event.model).toArray).toList = out ↔
        Machine.Along Conversations.answer (fun state event => ¬ Divergent state event) {}
          (events.map Event.model)) := by
  obtain ⟨out, hout⟩ := Option.isSome_iff_exists.mp
    (show (trace sampleEvents).toOption.isSome = true by decide +kernel)
  exact ⟨out, toOption_eq_some.mp hout, trace_eq_run_iff (toOption_eq_some.mp hout)⟩

/-! ### Where the two differ -/

/-- An acknowledgement of no items, with nothing pending. -/
def idleAcknowledge : List EventValue :=
  [.acknowledge 1 0 [] (some [0x32, 3, 0, 0, 0, 1, 0, 2, 0, 0, 0, 0, 5, 0])]

/-- A read of the last byte of the address space and the one after it. -/
def readPastEnd : List EventValue :=
  [.read 1 { dbNumber := 1, start := 0x1fffff, count := 2 } [7, 8] none
    (some [0x32, 3, 0, 0, 0, 1, 0, 2, 0, 6, 0, 0, 4, 1, 255, 4, 0, 16, 7, 8])]

/-- A history of one divergent event is traced, and reported differently. -/
theorem run_ne_of_divergent {values : List EventValue} {event : Event}
    (hevents : values.mapM Conversation.event = .ok [event]) (hdivergent : Divergent {} event.model)
    (htrace : (trace values).toOption.isSome = true) :
    ∃ events out, values.mapM Conversation.event = .ok events ∧ trace values = .ok out ∧
      (Conversations.run (events.map Event.model).toArray).toList ≠ out := by
  obtain ⟨out, hout⟩ := Option.isSome_iff_exists.mp htrace
  refine ⟨[event], out, hevents, toOption_eq_some.mp hout, fun hrun => ?_⟩
  exact ((run_eq_iff_along hevents (toOption_eq_some.mp hout)).mp hrun).1 hdivergent

theorem readPastEnd_events : readPastEnd.mapM event = .ok [.read ⟨1, by decide⟩
    ⟨⟨1, by decide⟩, ⟨0x1fffff, by decide⟩, ⟨2, by decide⟩⟩ ⟨[7, 8], by decide⟩] :=
  toOption_eq_some.mp (by decide +kernel)

theorem idleAcknowledge_events :
    idleAcknowledge.mapM event = .ok [.acknowledge ⟨1, by decide⟩ ⟨0, by decide⟩ ⟨[], by decide⟩] :=
  toOption_eq_some.mp (by decide +kernel)

/-- The oracle traces both, and the model reports neither as the oracle does. -/
theorem trace_ne_run :
    (∃ events out, readPastEnd.mapM event = .ok events ∧ trace readPastEnd = .ok out ∧
      (Conversations.run (events.map Event.model).toArray).toList ≠ out) ∧
    (∃ events out, idleAcknowledge.mapM event = .ok events ∧ trace idleAcknowledge = .ok out ∧
      (Conversations.run (events.map Event.model).toArray).toList ≠ out) :=
  ⟨run_ne_of_divergent readPastEnd_events ⟨rfl, rfl, by decide, by decide⟩ (by decide +kernel),
    run_ne_of_divergent idleAcknowledge_events ⟨rfl, rfl, rfl, rfl⟩ (by decide +kernel)⟩

end ClassicS7.Oracle.Conversation
