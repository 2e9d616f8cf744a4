import ClassicS7.Oracle.Correspondence

/-! The session oracle: one configured request, its retries and reconnects.

The oracle checks a configuration and each event, and then takes its own steps. Past
the checks it never fails: its state stands for the model's (`State.model`), and
under an invariant that fixes what is pending while a response is awaited, each of
its steps is the model's (`steps`). A trace is therefore the model's report of
the same events. -/
namespace ClassicS7.Oracle.Session
open Checks

/-! ### Configurations and events -/

/-- A configuration as the corpus spells it. -/
structure ConfigValue where
  write : Bool
  safety : String
  allowPotentiallyMutating : Bool
  budget : Nat
  reference : Nat
  locations : List LocationValue
  requestPdu : Option (List Nat)
  deriving Repr, DecidableEq

/-- A checked configuration; there is a request for it. -/
structure Config where
  write : Bool
  allowPotentiallyMutating : Bool
  budget : Bounded 16
  reference : Bounded 65535
  locations : List Location
  encodes : (request reference (locations.map (·.range)) write).isSome

def configuration (value : ConfigValue) : Except String Config := do
  if value.safety ≠ (if value.write then "potentially-mutating" else "read-only") then
    throw "safety contradicts operation"
  let budget ← integer value.budget 16
  let reference ← integer value.reference 65535
  if ¬ (1 ≤ value.locations.length ∧ value.locations.length ≤ 20) then throw "invalid locations"
  let locations ← value.locations.mapM location
  match h : request reference (locations.map (·.range)) value.write with
  | none => throw "invalid configured wire request"
  | some encoded =>
    wire value.requestPdu (some encoded)
    return {
      write := value.write
      allowPotentiallyMutating := value.allowPotentiallyMutating
      budget, reference, locations
      encodes := Option.isSome_of_eq_some h
    }

/-- An event as the corpus spells it. -/
inductive EventValue where
  | begin | send | reconnectSetup | reconnected | disconnect
  | failure (errorKind : String)
  | response (responsePdu : List Nat)
  deriving Repr, DecidableEq

/-- The event of a model history that a value stands for, if it is well formed. -/
def event : EventValue → Except String Sessions.Event
  | .begin => .ok .begin
  | .send => .ok .send
  | .reconnectSetup => .ok .reconnectSetup
  | .reconnected => .ok .reconnected
  | .disconnect => .ok .disconnect
  | .failure kind => do return .failure (← errorKind kind)
  | .response pdu => do return .response (← octets pdu).val

/-! ### Responses -/

/-- The checks of one read item, and where the next one is. -/
def itemEnd (width index : Nat) (item : MemoryRange) (data : Bytes) (offset : Nat) :
    Except ClientErrorKind Nat := do
  if offset + 4 > data.length then throw .protocol
  let code := byteAt data offset
  let transport := byteAt data (offset + 1)
  let length := wordAt data (offset + 2)
  let offset := offset + 4
  if ¬ transport = 9 ∧ length % 8 ≠ 0 then throw .protocol
  let size := if transport = 9 then length else length / 8
  if offset + size > data.length then throw .protocol
  let offset := offset + size
  if index + 1 < width ∧ size % 2 ≠ 0 ∧ offset = data.length then throw .protocol
  let offset := if index + 1 < width ∧ size % 2 ≠ 0 then offset + 1 else offset
  if code = 255 ∧ (transport ≠ 4 ∨ size ≠ item.count) then throw .protocol
  return offset

/-- The read items from an index and an offset on, up to the end of the data. -/
def checkItems (width : Nat) (data : Bytes) :
    Nat → Nat → List MemoryRange → Except ClientErrorKind (List Outcome)
  | _, offset, [] => if offset = data.length then .ok [] else .error .protocol
  | index, offset, item :: rest => do
    let offset ← itemEnd width index item data offset
    checkItems width data (index + 1) offset rest

/-- The outcomes a response reports, none for a read, or the kind of its error. -/
def response (config : Config) (pdu : Bytes) : Except ClientErrorKind (List Outcome) := do
  if pdu.length < 12 then throw .protocol
  let parameterSize := wordAt pdu 6
  let dataSize := wordAt pdu 8
  if byteAt pdu 0 ≠ 0x32 ∨ ¬ (byteAt pdu 1 = 2 ∨ byteAt pdu 1 = 3) ∨
      pdu.length ≠ 12 + parameterSize + dataSize then
    throw .protocol
  if wordAt pdu 4 ≠ config.reference then throw .protocol
  if byteAt pdu 10 ≠ 0 ∨ byteAt pdu 11 ≠ 0 then throw .plcRejected
  let width := config.locations.length
  if slice pdu 12 (12 + parameterSize) ≠ [if config.write then 5 else 4, UInt8.ofNat width] then
    throw .protocol
  let data := pdu.drop (12 + parameterSize)
  if config.write then
    if data.length ≠ width then .error .protocol else .ok (data.map Outcome.ofCode)
  else checkItems width data 0 0 (config.locations.map (·.range))

/-! ### Steps -/

structure State where
  lifecycle : Lifecycle.State := .connected
  phase : Sessions.Phase := .idle
  remaining : Nat := 0
  sends : Nat := 0
  active : Option (Bounded 65535) := none
  progress : Progress := {}
  deriving Repr, DecidableEq

def phaseText : Sessions.Phase → String
  | .idle => "idle"
  | .ready => "ready"
  | .awaiting => "awaiting"
  | .reconnectCotp => "reconnect-cotp"
  | .reconnectSetup => "reconnect-setup"
  | .failed => "failed"
  | .completed => "completed"
  | .closed => "closed"

def State.snapshot (state : State) : Json := .obj [
  ("lifecycle", .str (lifecycleText state.lifecycle)), ("remaining", .num state.remaining),
  ("active_reference", .optional (state.active.map Subtype.val)), ("phase", .str (phaseText state.phase)),
  ("sends", .num state.sends), ("attempts", state.progress.json)]

/-- The failure of an active request: retried while the policy permits it. -/
def fail (config : Config) (state : State) (kind : ClientErrorKind) : State × Json :=
  if state.lifecycle ≠ .closed ∧ state.remaining > 0 ∧ transient kind = true ∧
      (config.write = false ∨ config.allowPotentiallyMutating = true) then
    ({ state with
       remaining := state.remaining - 1, lifecycle := .disconnected, phase := .reconnectCotp,
       progress := if config.write = true ∧ state.phase = .awaiting then
         state.progress.finishAll .replayedUnknown else state.progress },
     accepted [("retry", .bool true)])
  else
    ({ state with
       lifecycle := .disconnected, phase := .failed, active := none,
       progress := if config.write = true ∧ kind = .plcRejected ∧ state.phase = .awaiting then
         state.progress.finishAll .globalRejected else state.progress },
     accepted [("retry", .bool false)])

def step (config : Config) (state : State) : Sessions.Event → Except String (State × Json)
  | .begin =>
    if state.lifecycle ≠ .connected then .ok (state, rejected "not-connected")
    else if state.active ≠ none then .ok (state, rejected "already-active")
    else .ok ({ state with
      remaining := config.budget, active := some config.reference, phase := .ready, sends := 0,
      progress := {} }, accepted [])
  | .send =>
    if state.lifecycle ≠ .connected ∨ state.active = none ∨ state.phase ≠ .ready then
      .ok (state, rejected "send-phase")
    else if config.write = true ∧ state.progress.pending ≠ [] then .ok (state, rejected "write-progress")
    else .ok ({ state with
      sends := state.sends + 1, phase := .awaiting,
      progress := if config.write then { state.progress with pending := config.locations }
        else state.progress }, accepted [])
  | .failure kind =>
    if state.active ≠ none ∧
        (state.phase = .awaiting ∨ state.phase = .reconnectCotp ∨ state.phase = .reconnectSetup) then
      .ok (fail config state kind)
    else .ok (state, rejected "failure-phase")
  | .reconnectSetup =>
    if state.active = none ∨ state.phase ≠ .reconnectCotp then .ok (state, rejected "reconnect-phase")
    else .ok ({ state with phase := .reconnectSetup }, accepted [])
  | .reconnected =>
    if state.active = none ∨ state.phase ≠ .reconnectSetup ∨ state.lifecycle ≠ .disconnected then
      .ok (state, rejected "reconnect-phase")
    else .ok ({ state with lifecycle := .connected, phase := .ready }, accepted [])
  | .response pdu =>
    if state.lifecycle ≠ .connected ∨ state.active = none ∨ state.phase ≠ .awaiting then
      .ok (state, rejected "response-phase")
    else
      match response config pdu with
      | .error kind => .ok ((fail config state kind).1, rejected "response-codec")
      | .ok results => do
        let progress ← if config.write then state.progress.finish results else .ok state.progress
        return ({ state with active := none, phase := .completed, progress }, accepted [])
  | .disconnect => .ok ({ state with lifecycle := .closed, active := none, phase := .closed }, accepted [])

/-- The report of one event. -/
def answer (config : Config) (state : State) (event : Sessions.Event) : Except String (State × Json) := do
  let (next, outcome) ← step config state event
  return (next, .obj [("result", outcome), ("snapshot", next.snapshot)])

def trace (value : ConfigValue) (events : List EventValue) : Except String (List Json) := do
  let config ← configuration value
  if ¬ (1 ≤ events.length ∧ events.length ≤ 1024) then throw "invalid event array"
  Machine.trace (fun state value => event value >>= answer config state) {} events

/-! ### Responses against the client's -/

section Items
variable {width index offset : Nat} {item : MemoryRange} {data : Bytes}

theorem itemEnd_eq_ok {final : Bool} (hfinal : final = false ↔ index + 1 < width) {next : Nat} :
    itemEnd width index item data offset = .ok next ↔
      S7.ReadItemFrame item.model final data offset ∧ next = S7.itemNext final data offset := by
  rw [readItemFrame_iff_checks rfl hfinal, ← nextOffset_eq hfinal]
  unfold itemEnd
  constructor
  · intro h
    obtain ⟨hheader, h⟩ := guard_eq_ok.mp h
    obtain ⟨haligned, h⟩ := guard_eq_ok.mp h
    obtain ⟨hpayload, h⟩ := guard_eq_ok.mp h
    obtain ⟨hpadding, h⟩ := guard_eq_ok.mp h
    obtain ⟨hform, h⟩ := guard_eq_ok.mp h
    refine ⟨⟨hheader, haligned, hpayload, fun hend => ?_, hform⟩, (Except.ok.inj h).symm⟩
    exact hpadding ⟨hend.1, hend.2.1, Nat.le_antisymm (Nat.le_of_not_lt hpayload) hend.2.2⟩
  · rintro ⟨⟨hheader, haligned, hpayload, hpadding, hform⟩, rfl⟩
    refine (guard_ok hheader).trans ((guard_ok haligned).trans ((guard_ok hpayload).trans ?_))
    refine (guard_ok fun hend => hpadding ⟨hend.1, hend.2.1, Nat.le_of_eq hend.2.2.symm⟩).trans ?_
    exact (guard_ok hform).trans rfl

/-- A bad item is a protocol error, whichever check it fails. -/
theorem failsSoft_itemEnd : FailsSoft (· = .protocol) (itemEnd width index item data offset) := by
  unfold itemEnd
  refine .guard rfl fun _ => .guard rfl fun _ => .guard rfl fun _ => ?_
  exact .guard rfl fun _ => .guard rfl fun _ => failsSoft_ok _

/-- The items pass exactly when the client decodes them. -/
theorem checkItems_eq (items : List MemoryRange) (hwidth : index + items.length = width) :
    checkItems width data index offset items =
      if (S7.readItems (items.map MemoryRange.model) data offset).isSome then .ok [] else .error .protocol := by
  induction items generalizing index offset with
  | nil =>
    rw [checkItems, List.map_nil, S7.readItems]
    by_cases hend : offset = data.length
    · rw [if_pos hend, if_pos hend]
      rfl
    · rw [if_neg hend, if_neg hend]
      rfl
  | cons item rest ih =>
    rw [List.length_cons] at hwidth
    have hitem : ∀ next, itemEnd width index item data offset = .ok next ↔ _ :=
      fun _ => itemEnd_eq_ok (isEmpty_rest_iff MemoryRange.model rest hwidth)
    rw [checkItems, List.map_cons, S7.readItems]
    by_cases frame : S7.ReadItemFrame item.model (rest.map MemoryRange.model).isEmpty data offset
    · rw [bind_ok ((hitem _).mpr ⟨frame, rfl⟩), ih (by omega), if_pos frame, Option.isSome_map]
    · rw [if_neg frame]
      cases hend : itemEnd width index item data offset with
      | error kind => exact congrArg Except.error (failsSoft_itemEnd kind hend)
      | ok next => exact absurd ((hitem next).mp hend).1 frame

end Items

/-! ### What configurations and states stand for -/

def Config.model (config : Config) : Sessions.Config :=
  { write := config.write
    allow := config.allowPotentiallyMutating
    budget := config.budget
    reference := UInt16.ofNat config.reference
    locations := (config.locations.map Location.model).toArray }

/-- The configuration of the model that a value spells. -/
def ConfigValue.model (value : ConfigValue) : Sessions.Config :=
  { write := value.write
    allow := value.allowPotentiallyMutating
    budget := value.budget
    reference := UInt16.ofNat value.reference
    locations := (value.locations.map LocationValue.model).toArray }

theorem configuration_model {value : ConfigValue} {config : Config} (h : configuration value = .ok config) :
    config.model = value.model := by
  unfold configuration at h
  obtain ⟨-, h⟩ := guard_eq_ok.mp h
  obtain ⟨budget, hbudget, h⟩ := bind_eq_ok.mp h
  obtain ⟨reference, hreference, h⟩ := bind_eq_ok.mp h
  obtain ⟨-, h⟩ := guard_eq_ok.mp h
  obtain ⟨locations, hlocations, h⟩ := bind_eq_ok.mp h
  split at h
  · cases h
  · obtain ⟨-, -, h⟩ := bind_eq_ok.mp h
    cases h
    rw [Config.model, ConfigValue.model, locations_model hlocations, integer_eq_ok.mp hbudget,
      integer_eq_ok.mp hreference]

def State.model (state : State) : Sessions.State :=
  { lifecycle := state.lifecycle
    remaining := state.remaining
    active := state.active.map fun reference => UInt16.ofNat reference.val
    phase := state.phase
    sends := state.sends
    progress := state.progress.model }

/-- A configuration has one to twenty locations, as its request does. -/
theorem Config.width (config : Config) : 0 < config.locations.length ∧ config.locations.length ≤ 20 := by
  obtain ⟨packet, hpacket⟩ := Option.isSome_iff_exists.mp config.encodes
  have hlength := length_of_request hpacket
  rwa [List.length_map] at hlength

/-- The client encodes the request of a configuration. -/
theorem request_model (config : Config) : ∃ packet, Sessions.request config.model = .ok packet := by
  have hencodes := config.encodes
  obtain ⟨packet, hpacket⟩ := Option.isSome_iff_exists.mp hencodes
  refine ⟨packet, toOption_eq_some.mp ?_⟩
  unfold Sessions.request
  cases hwrite : config.write with
  | true =>
    rw [hwrite, ← request_write, ← writeItems_model] at hpacket
    exact (congrArg Except.toOption (if_pos hwrite)).trans hpacket
  | false =>
    have hranges : config.model.locations.map (·.range) =
        ((config.locations.map (·.range)).map MemoryRange.model).toArray := by
      simp only [Config.model, List.map_toArray, List.map_map]
      rfl
    rw [hwrite, ← request_read] at hpacket
    rw [if_neg (show ¬ config.model.write = true by simp [Config.model, hwrite]), hranges]
    exact hpacket

/-! ### Decoding a response -/

/-- The status bytes of a data section that answers the configured request, none for
a read. -/
def dataCodes (config : Config) (data : Bytes) : Verdict Bytes :=
  if config.write then
    if data.length = config.locations.length then .accepted data else .malformed
  else if (S7.readItems (config.locations.map (·.range.model)) data 0).isSome then .accepted []
  else .malformed

/-- The status bytes of a response: what both sides decode it to. -/
def codes (config : Config) (pdu : Bytes) : Verdict Bytes :=
  if S7.ResponseFrame pdu then
    (S7.itemParameters (S7.framedResponse pdu) (UInt16.ofNat config.reference)
      (if config.write then 5 else 4) config.locations.length).bind fun _ =>
        dataCodes config (S7.framedResponse pdu).data
  else .malformed

/-- The outcomes of status bytes, or the kind of error a verdict is. -/
def ofVerdict : Verdict Bytes → Except ClientErrorKind (List Outcome)
  | .accepted codes => .ok (codes.map Outcome.ofCode)
  | .refused => .error .plcRejected
  | .malformed => .error .protocol

theorem reference_eq_iff (pdu : Bytes) (reference : Bounded 65535) :
    (S7.framedResponse pdu).reference = UInt16.ofNat reference ↔ wordAt pdu 4 = reference := by
  have hword : (S7.framedResponse pdu).reference.toNat = wordAt pdu 4 := S7.toNat_wordAt ..
  rw [← UInt16.toNat_inj, toNat_word, hword]

/-- The status of a framed response is clear when its bytes are zero. -/
theorem status_iff (pdu : Bytes) :
    (S7.framedResponse pdu).errorClass ≠ 0 ∨ (S7.framedResponse pdu).errorCode ≠ 0 ↔
      byteAt pdu 10 ≠ 0 ∨ byteAt pdu 11 ≠ 0 := by
  rw [ne_eq, ne_eq, byte_eq_iff, byte_eq_iff]
  simp only [S7.framedResponse, S7.toNat_byteAt]
  rfl

/-- Past the header, the oracle's checks are the ones of the parameters and the items. -/
theorem response_sections (config : Config) (pdu : Bytes) (frame : S7.ResponseFrame pdu) :
    response config pdu =
      if wordAt pdu 4 ≠ config.reference then .error .protocol
      else if byteAt pdu 10 ≠ 0 ∨ byteAt pdu 11 ≠ 0 then .error .plcRejected
      else if (S7.framedResponse pdu).parameters ≠
          [if config.write then 5 else 4, UInt8.ofNat config.locations.length] then .error .protocol
      else if config.write then
        if (S7.framedResponse pdu).data.length ≠ config.locations.length then .error .protocol
        else .ok ((S7.framedResponse pdu).data.map Outcome.ofCode)
      else checkItems config.locations.length (S7.framedResponse pdu).data 0 0 (config.locations.map (·.range)) := by
  have hextent := frame.extent
  have hform : ¬ (byteAt pdu 0 ≠ 0x32 ∨ ¬ (byteAt pdu 1 = 2 ∨ byteAt pdu 1 = 3) ∨
      pdu.length ≠ 12 + wordAt pdu 6 + wordAt pdu 8) :=
    fun h => h.elim (absurd frame.protocol) (·.elim (absurd frame.kind) (absurd hextent))
  unfold response
  exact (guard_ok (by omega)).trans ((guard_ok hform).trans rfl)

theorem response_unframed (config : Config) {pdu : Bytes} (h : ¬ S7.ResponseFrame pdu) :
    response config pdu = .error .protocol := by
  unfold response
  by_cases hshort : pdu.length < 12
  · exact guard_error hshort
  · refine (guard_ok hshort).trans (guard_error ?_)
    refine Classical.byContradiction fun hform => h ?_
    simp only [not_or, ne_eq, Classical.not_not] at hform
    exact ⟨hform.2.2, hform.1, Classical.byContradiction fun hkind => hform.2.1 (not_or.mp hkind)⟩

theorem response_data (config : Config) (data : Bytes) :
    (if config.write then
      if data.length ≠ config.locations.length then .error .protocol else .ok (data.map Outcome.ofCode)
    else checkItems config.locations.length data 0 0 (config.locations.map (·.range))) =
      ofVerdict (dataCodes config data) := by
  unfold dataCodes
  cases config.write with
  | true =>
    rw [if_pos rfl, if_pos rfl, ite_not]
    split <;> rfl
  | false =>
    rw [if_neg Bool.false_ne_true, if_neg Bool.false_ne_true, checkItems_eq _ (by simp), List.map_map]
    show (if (S7.readItems (config.locations.map (·.range.model)) data 0).isSome then _ else _) = _
    split <;> rfl

/-- The oracle decodes a response to its status bytes. -/
theorem response_eq (config : Config) (pdu : Bytes) : response config pdu = ofVerdict (codes config pdu) := by
  unfold codes
  by_cases frame : S7.ResponseFrame pdu
  · rw [response_sections config pdu frame, if_pos frame]
    simp only [S7.itemParameters, ne_eq, reference_eq_iff]
    by_cases href : wordAt pdu 4 = config.reference
    · rw [if_neg (not_not_intro href), if_neg (not_not_intro href)]
      by_cases hstatus : byteAt pdu 10 ≠ 0 ∨ byteAt pdu 11 ≠ 0
      · rw [if_pos hstatus, if_pos ((status_iff pdu).mpr hstatus)]
        rfl
      rw [if_neg hstatus, if_neg (mt (status_iff pdu).mp hstatus)]
      by_cases hparameters : (S7.framedResponse pdu).parameters =
          [if config.write then 5 else 4, UInt8.ofNat config.locations.length]
      · rw [if_neg (not_not_intro hparameters), if_pos hparameters]
        exact response_data config (S7.framedResponse pdu).data
      · rw [if_pos hparameters, if_neg hparameters]
        rfl
    · rw [if_pos href, if_pos href]
      rfl
  · rw [response_unframed config frame, if_neg frame]
    rfl

/-- The client does, too. -/
theorem verdict_decodeResults (config : Config) (pdu : Bytes) :
    verdict (Sessions.decodeResults config.model pdu) =
      (codes config pdu).bind fun codes => .accepted (codes.map S7.WriteItemResult.ofReturnCode).toArray := by
  obtain ⟨hpositive, hcount⟩ := config.width
  have hsize : config.model.locations.size = config.locations.length := by simp [Config.model]
  unfold Sessions.decodeResults codes
  rw [verdict_bind]
  by_cases frame : S7.ResponseFrame pdu
  · rw [S7.decodeResponse_frame frame, if_pos frame]
    show verdict (if config.write = true then _ else _) = _
    cases hwrite : config.write with
    | true =>
      rw [if_pos rfl, hsize]
      refine (S7.verdict_decodeAreaWriteMany _ _ _ hpositive hcount).trans ?_
      refine Eq.trans ?_ (Verdict.bind_assoc ..).symm
      refine congrArg (Verdict.bind _) (funext fun _ => ?_)
      rw [dataCodes, if_pos hwrite]
      by_cases hlength : (S7.framedResponse pdu).data.length = config.locations.length
      · simp [hlength, Verdict.bind]
      · simp [hlength, Verdict.bind]
    | false =>
      have hranges : (config.model.locations.map (·.range)).size = config.locations.length := by
        rw [Array.size_map, hsize]
      rw [if_neg Bool.false_ne_true, verdict_discard,
        S7.verdict_decodeAreaReadMany _ _ _ (by rwa [hranges]) (by rwa [hranges]), hranges]
      refine (Verdict.bind_assoc ..).trans (Eq.trans ?_ (Verdict.bind_assoc ..).symm)
      refine congrArg (Verdict.bind _) (funext fun _ => ?_)
      have hlist : (config.model.locations.map (·.range)).toList = config.locations.map (·.range.model) := by
        simp only [Config.model, List.map_toArray, List.map_map]
        rfl
      rw [hlist, dataCodes, hwrite, if_neg Bool.false_ne_true]
      cases S7.readItems (config.locations.map (·.range.model)) (S7.framedResponse pdu).data 0 <;> rfl
  · rw [if_neg frame, verdict_local (S7.decodeResponse_rejects frame)]
    rfl

/-- The kind of a failure that the model takes an error for. -/
def kindOf : DecodeError → ClientErrorKind
  | .remoteFailure .. => .plcRejected
  | _ => .protocol

theorem kindOf_eq (error : DecodeError) :
    kindOf error = if error.isRemote then .plcRejected else .protocol := by
  cases error <;> rfl

/-- As many status bytes as locations, for a write. -/
theorem length_codes {config : Config} {pdu received : Bytes} (h : codes config pdu = .accepted received)
    (hwrite : config.write = true) : received.length = config.locations.length := by
  unfold codes dataCodes at h
  split at h
  · obtain ⟨_, -, h⟩ := Verdict.bind_eq_accepted.mp h
    split at h
    · rename_i hlength
      cases h
      exact hlength
    · cases h
  · cases h

/-- What the client makes of a response: results for the outcomes of the oracle, or an
error of the kind the oracle reports. -/
theorem decodeResults_of_response (config : Config) (pdu : Bytes) :
    match response config pdu with
    | .ok outcomes => ∃ codes : Bytes, outcomes = codes.map Outcome.ofCode ∧
        (config.write = true → codes.length = config.locations.length) ∧
        Sessions.decodeResults config.model pdu = .ok (codes.map S7.WriteItemResult.ofReturnCode).toArray
    | .error kind => ∃ error, Sessions.decodeResults config.model pdu = .error error ∧ kindOf error = kind := by
  have hclient := verdict_decodeResults config pdu
  rw [response_eq]
  cases hcodes : codes config pdu with
  | accepted received =>
    rw [hcodes] at hclient
    exact ⟨received, rfl, length_codes hcodes, verdict_eq_accepted.mp hclient⟩
  | refused =>
    rw [hcodes] at hclient
    obtain ⟨error, herror, hremote⟩ := verdict_eq_refused.mp hclient
    exact ⟨error, herror, by rw [kindOf_eq, if_pos hremote]⟩
  | malformed =>
    rw [hcodes] at hclient
    obtain ⟨error, herror, hlocal⟩ := verdict_eq_malformed.mp hclient
    exact ⟨error, herror, by rw [kindOf_eq, hlocal, if_neg Bool.false_ne_true]⟩

/-! ### Steps against the model's -/

/-- What holds between events. A closed session has no active request, and a write
waits for a response with all its locations pending. -/
structure Inv (config : Config) (state : State) : Prop where
  closed : state.lifecycle = .closed → state.active = none
  awaiting : config.write = true → state.phase = .awaiting → state.progress.pending = config.locations

/-- Outside the awaiting phase nothing is asked of what is pending. -/
theorem Inv.of_phase {config : Config} {state : State}
    (hclosed : state.lifecycle = .closed → state.active = none) (hphase : state.phase ≠ .awaiting) :
    Inv config state :=
  ⟨hclosed, fun _ h => absurd h hphase⟩

theorem inv_initial (config : Config) : Inv config {} := .of_phase (fun _ => rfl) (by decide)

/-- What is awaited is replayed alike. -/
theorem replayed_model (config : Config) (state : State) :
    (if config.write = true ∧ state.phase = .awaiting then state.progress.finishAll .replayedUnknown
      else state.progress).model =
      if config.write && state.phase == .awaiting then state.progress.model.replay else state.progress.model := by
  rw [apply_ite Progress.model, model_finishAll]
  simp only [Bool.and_eq_true, beq_iff_eq]
  rfl

/-- What is awaited is rejected alike, when the remote refuses it. -/
theorem rejected_model (config : Config) (state : State) (kind : ClientErrorKind) :
    (if config.write = true ∧ kind = .plcRejected ∧ state.phase = .awaiting then
      state.progress.finishAll .globalRejected else state.progress).model =
      if config.write && kind == .plcRejected && state.phase == .awaiting then state.progress.model.globalReject
      else state.progress.model := by
  rw [apply_ite Progress.model, model_finishAll]
  simp only [Bool.and_eq_true, beq_iff_eq, and_assoc]
  rfl

/-- A failure of an active request is the model's. -/
theorem fail_model (config : Config) (state : State) (kind : ClientErrorKind)
    (hopen : state.lifecycle ≠ .closed) :
    Sessions.failure config.model state.model kind =
      ((fail config state kind).1.model, (fail config state kind).2) := by
  have hpermitted := retryEligible_iff state.remaining state.lifecycle kind
    (if config.write then .potentiallyMutating else .readOnly) config.allowPotentiallyMutating
  have hsafety : (if config.write then RetrySafety.potentiallyMutating else .readOnly) = .readOnly ↔
      config.write = false := by
    cases config.write <;> simp
  have hclosed : (state.lifecycle == .closed) = false := beq_eq_false_iff_ne.mpr hopen
  rw [hsafety] at hpermitted
  have hbudget : retryBudgetAfter state.model.remaining (state.model.lifecycle == .closed) kind
      (if config.model.write then .potentiallyMutating else .readOnly) config.model.allow =
        if state.lifecycle ≠ .closed ∧ state.remaining > 0 ∧ transient kind = true ∧
          (config.write = false ∨ config.allowPotentiallyMutating = true)
        then some (state.remaining - 1) else none :=
    (retryBudgetAfter_eq ..).trans (ite_congr (propext hpermitted) (fun _ => rfl) fun _ => rfl)
  unfold Sessions.failure fail
  rw [hbudget]
  by_cases heligible : state.lifecycle ≠ .closed ∧ state.remaining > 0 ∧ transient kind = true ∧
      (config.write = false ∨ config.allowPotentiallyMutating = true)
  · simp only [if_pos heligible, State.model, replayed_model]
    rfl
  · simp only [if_neg heligible, State.model, rejected_model, hclosed, Bool.false_eq_true, if_false]
    rfl

theorem fail_inv (config : Config) (state : State) (kind : ClientErrorKind) :
    Inv config (fail config state kind).1 := by
  unfold fail
  split
  · exact .of_phase (fun h => by cases h) (by simp)
  · exact .of_phase (fun _ => rfl) (by simp)

/-- A step of the oracle returned, kept the invariant, and was the model's. -/
def Steps (config : Config) (state : State) (event : Sessions.Event) : Prop :=
  ∃ next result, step config state event = .ok (next, result) ∧ Inv config next ∧
    Sessions.step config.model state.model event = (next.model, result)

theorem active_model (state : State) : state.model.active.isNone = true ↔ state.active = none := by
  simp [State.model]

/-- The model's guard on a connected session with a request in a phase. -/
theorem guard_model (state : State) (phase : Sessions.Phase) :
    (state.model.lifecycle != .connected || state.model.active.isNone || state.model.phase != phase) = true ↔
      state.lifecycle ≠ .connected ∨ state.active = none ∨ state.phase ≠ phase := by
  rw [Bool.or_eq_true, Bool.or_eq_true, bne_iff_ne, bne_iff_ne, active_model, or_assoc]
  rfl

/-- The model's guard on a request in a phase. -/
theorem phase_model (state : State) (phase : Sessions.Phase) :
    (state.model.active.isNone || state.model.phase != phase) = true ↔
      state.active = none ∨ state.phase ≠ phase := by
  rw [Bool.or_eq_true, bne_iff_ne, active_model]
  rfl

theorem steps_begin (config : Config) {state : State} (inv : Inv config state) : Steps config state .begin := by
  obtain ⟨packet, hpacket⟩ := request_model config
  by_cases hconnected : state.lifecycle = .connected
  · by_cases hactive : state.active = none
    · refine ⟨_, _, (if_neg (not_not_intro hconnected)).trans (if_neg (not_not_intro hactive)), ?_, ?_⟩
      · exact .of_phase (fun h => absurd (hconnected.symm.trans h) (by decide)) (by simp)
      · simp [Sessions.step, State.model, hconnected, hactive, hpacket]
        exact ⟨⟨rfl, rfl, rfl⟩, rfl⟩
    · have hsome : state.active.isSome = true := Option.isSome_iff_ne_none.mpr hactive
      refine ⟨_, _, (if_neg (not_not_intro hconnected)).trans (if_pos hactive), inv, ?_⟩
      simp [Sessions.step, State.model, hconnected, hsome]
      rfl
  · refine ⟨_, _, if_pos hconnected, inv, ?_⟩
    simp [Sessions.step, State.model, hconnected]
    rfl

theorem steps_send (config : Config) {state : State} (inv : Inv config state) : Steps config state .send := by
  have hguard := guard_model state .ready
  have hsent := model_sent state.progress (List.ne_nil_of_length_pos config.width.1)
  by_cases hready : state.lifecycle ≠ .connected ∨ state.active = none ∨ state.phase ≠ .ready
  · refine ⟨_, _, if_pos hready, inv, ?_⟩
    simp only [Sessions.step, hguard.mpr hready]
    rfl
  · have hpass := eq_false_of_ne_true (mt hguard.mp hready)
    by_cases hpending : config.write = true ∧ state.progress.pending ≠ []
    · rw [if_neg hpending.2] at hsent
      obtain ⟨e, he⟩ := toOption_eq_none.mp hsent
      have herror : Sessions.sentProgress config.model state.model = .error e :=
        (if_pos hpending.1).trans he
      refine ⟨_, _, (if_neg hready).trans (if_pos hpending), inv, ?_⟩
      simp only [Sessions.step, hpass, herror]
      rfl
    · have hok : Sessions.sentProgress config.model state.model = .ok
          (if config.write then { state.progress with pending := config.locations } else state.progress).model := by
        cases hwrite : config.write with
        | true =>
          have hempty : state.progress.pending = [] :=
            Classical.byContradiction fun h => hpending ⟨hwrite, h⟩
          rw [if_pos hempty] at hsent
          exact (if_pos hwrite).trans (toOption_eq_some.mp hsent)
        | false => exact if_neg (by simp [Config.model, hwrite])
      refine ⟨_, _, (if_neg hready).trans (if_neg hpending), ⟨inv.closed, fun hwrite _ => ?_⟩, ?_⟩
      · exact congrArg Progress.pending (if_pos hwrite)
      · simp only [Sessions.step, hpass, hok]
        rfl

theorem steps_failure (config : Config) {state : State} (inv : Inv config state) (kind : ClientErrorKind) :
    Steps config state (.failure kind) := by
  have hguard : (state.model.active.isNone || !state.model.phase.acceptsFailure) = true ↔
      ¬ (state.active ≠ none ∧
        (state.phase = .awaiting ∨ state.phase = .reconnectCotp ∨ state.phase = .reconnectSetup)) := by
    have haccepts : state.phase.acceptsFailure = true ↔
        state.phase = .awaiting ∨ state.phase = .reconnectCotp ∨ state.phase = .reconnectSetup := by
      cases state.phase <;> simp [Sessions.Phase.acceptsFailure]
    rw [Bool.or_eq_true, active_model, Bool.not_eq_true', ← haccepts, Classical.not_and_iff_not_or_not,
      Classical.not_not, Bool.not_eq_true]
    rfl
  by_cases hactive : state.active ≠ none ∧
      (state.phase = .awaiting ∨ state.phase = .reconnectCotp ∨ state.phase = .reconnectSetup)
  · refine ⟨_, _, if_pos hactive, fail_inv config state kind, ?_⟩
    simp only [Sessions.step, eq_false_of_ne_true fun h => hguard.mp h hactive]
    exact fail_model config state kind fun hclosed => hactive.1 (inv.closed hclosed)
  · refine ⟨_, _, if_neg hactive, inv, ?_⟩
    simp only [Sessions.step, hguard.mpr hactive]
    rfl

theorem steps_reconnectSetup (config : Config) {state : State} (inv : Inv config state) :
    Steps config state .reconnectSetup := by
  have hguard := phase_model state .reconnectCotp
  by_cases hphase : state.active = none ∨ state.phase ≠ .reconnectCotp
  · refine ⟨_, _, if_pos hphase, inv, ?_⟩
    simp only [Sessions.step, hguard.mpr hphase]
    rfl
  · refine ⟨_, _, if_neg hphase, .of_phase inv.closed (by simp), ?_⟩
    simp only [Sessions.step, eq_false_of_ne_true (mt hguard.mp hphase)]
    rfl

theorem steps_reconnected (config : Config) {state : State} (inv : Inv config state) :
    Steps config state .reconnected := by
  have hguard : (state.model.active.isNone || state.model.phase != .reconnectSetup ||
      state.model.lifecycle != .disconnected) = true ↔
        state.active = none ∨ state.phase ≠ .reconnectSetup ∨ state.lifecycle ≠ .disconnected := by
    rw [Bool.or_eq_true, phase_model, bne_iff_ne, or_assoc]
    rfl
  by_cases hphase : state.active = none ∨ state.phase ≠ .reconnectSetup ∨ state.lifecycle ≠ .disconnected
  · refine ⟨_, _, if_pos hphase, inv, ?_⟩
    simp only [Sessions.step, hguard.mpr hphase]
    rfl
  · refine ⟨_, _, if_neg hphase, .of_phase (fun h => by cases h) (by simp), ?_⟩
    simp only [Sessions.step, eq_false_of_ne_true (mt hguard.mp hphase)]
    rfl

theorem steps_disconnect (config : Config) (state : State) : Steps config state .disconnect :=
  ⟨_, _, rfl, .of_phase (fun _ => rfl) (by simp), rfl⟩

theorem steps_response (config : Config) {state : State} (inv : Inv config state) (pdu : Bytes) :
    Steps config state (.response pdu) := by
  have hguard := guard_model state .awaiting
  have hdecode := decodeResults_of_response config pdu
  by_cases hphase : state.lifecycle ≠ .connected ∨ state.active = none ∨ state.phase ≠ .awaiting
  · refine ⟨_, _, if_pos hphase, inv, ?_⟩
    simp only [Sessions.step, hguard.mpr hphase]
    rfl
  · have hpass := eq_false_of_ne_true (mt hguard.mp hphase)
    cases hresponse : response config pdu with
    | error kind =>
      rw [hresponse] at hdecode
      obtain ⟨error, herror, rfl⟩ := hdecode
      have hopen : state.lifecycle ≠ .closed := fun hclosed => hphase (.inl (by rw [hclosed]; decide))
      refine ⟨(fail config state (kindOf error)).1, rejected "response-codec", ?_, fail_inv .., ?_⟩
      · simp only [step, if_neg hphase, hresponse]
      · simp only [Sessions.step, hpass, herror]
        show ((Sessions.failure config.model state.model (kindOf error)).1, _) = _
        rw [fail_model config state (kindOf error) hopen]
        rfl
    | ok outcomes =>
      rw [hresponse] at hdecode
      obtain ⟨received, rfl, hlength, hresults⟩ := hdecode
      cases hwrite : config.write with
      | true =>
        have hpending : state.progress.pending = config.locations :=
          inv.awaiting hwrite (Classical.byContradiction fun h => hphase (.inr (.inr h)))
        obtain ⟨progress, hfinish, -, hack⟩ :=
          model_finish state.progress received (by rw [hpending, hlength hwrite])
        refine ⟨{ state with active := none, phase := .completed, progress }, accepted [], ?_,
          .of_phase (fun _ => rfl) (by simp), ?_⟩
        · simp only [step, if_neg hphase, hresponse, hwrite]
          exact (if_pos trivial).trans (bind_ok hfinish _)
        · have hmodel : Sessions.acknowledgedProgress config.model state.model
              (received.map S7.WriteItemResult.ofReturnCode).toArray = .ok progress.model :=
            (if_pos hwrite).trans hack
          simp only [Sessions.step, hpass, hresults, hmodel]
          rfl
      | false =>
        refine ⟨{ state with active := none, phase := .completed }, accepted [], ?_,
          .of_phase (fun _ => rfl) (by simp), ?_⟩
        · simp only [step, if_neg hphase, hresponse, hwrite]
          rfl
        · have hmodel : Sessions.acknowledgedProgress config.model state.model
              (received.map S7.WriteItemResult.ofReturnCode).toArray = .ok state.progress.model :=
            if_neg (by simp [Config.model, hwrite])
          simp only [Sessions.step, hpass, hresults, hmodel]
          rfl

/-- Every step of the oracle is the model's. -/
theorem steps (config : Config) {state : State} (inv : Inv config state) (event : Sessions.Event) :
    Steps config state event := by
  cases event with
  | begin => exact steps_begin config inv
  | send => exact steps_send config inv
  | reconnectSetup => exact steps_reconnectSetup config inv
  | reconnected => exact steps_reconnected config inv
  | disconnect => exact steps_disconnect config state
  | failure kind => exact steps_failure config inv kind
  | response pdu => exact steps_response config inv pdu

/-! ### Traces against the model's reports -/

theorem phaseText_eq (phase : Sessions.Phase) : phaseText phase = phase.name := by
  cases phase <;> rfl

theorem snapshot_model (state : State) : Sessions.snapshot state.model = state.snapshot := by
  have hactive : state.model.active.map UInt16.toNat = state.active.map Subtype.val := by
    simp only [State.model, Option.map_map, Function.comp_def, toNat_word]
  rw [Sessions.snapshot, State.snapshot, hactive, ← attemptsJson_model, lifecycleText_eq, phaseText_eq]
  rfl

/-- The reports are the model's, too. -/
theorem answer_model (config : Config) {state : State} (inv : Inv config state) (event : Sessions.Event) :
    ∃ next report, answer config state event = .ok (next, report) ∧ Inv config next ∧
      Sessions.answer config.model state.model event = (next.model, report) := by
  obtain ⟨next, result, hstep, hinv, hmodel⟩ := steps config inv event
  refine ⟨next, Histories.report result next.snapshot, bind_ok hstep _, hinv, ?_⟩
  rw [Sessions.answer, hmodel, snapshot_model]

/-- The model follows the oracle step by step. -/
theorem lockstep (config : Config) :
    Machine.Lockstep (answer config) (Sessions.answer config.model) (Inv config) State.model id
      fun _ _ => True where
  invariant := by
    intro state event next report inv h
    obtain ⟨next', report', hanswer, hinv, -⟩ := answer_model config inv event
    cases hanswer.symm.trans h
    exact hinv
  state := by
    intro state event next report inv h
    obtain ⟨next', report', hanswer, -, hmodel⟩ := answer_model config inv event
    cases hanswer.symm.trans h
    exact congrArg Prod.fst hmodel
  answer := by
    intro state event next report inv h
    obtain ⟨next', report', hanswer, -, hmodel⟩ := answer_model config inv event
    cases hanswer.symm.trans h
    exact iff_true_intro (congrArg Prod.snd hmodel)

/-- Checked events are traced as the model reports them. -/
theorem trace_model (config : Config) (events : List Sessions.Event) :
    Machine.trace (answer config) {} events = .ok (Sessions.runEvents config.model events.toArray).toList := by
  have hprogress : ∀ state event, Inv config state → True →
      ∃ next report, answer config state event = .ok (next, report) ∧ Inv config next := by
    intro state event inv _
    obtain ⟨next, report, hanswer, hinv, -⟩ := answer_model config inv event
    exact ⟨next, report, hanswer, hinv⟩
  obtain ⟨out, hout⟩ := Machine.trace_total hprogress (inv_initial config) events fun _ _ => trivial
  have houtputs := (lockstep config).outputs_eq (inv_initial config) hout
  rw [hout, Sessions.runEvents_eq_outputs, ← houtputs, List.map_id]
  rfl

/-- With an accepted configuration and one to 1024 events, the oracle checks the
events and then reports what the model does. -/
theorem trace_eq_runEvents {value : ConfigValue} {config : Config} (hconfig : configuration value = .ok config)
    (values : List EventValue) :
    trace value values =
      if 1 ≤ values.length ∧ values.length ≤ 1024 then do
        let events ← values.mapM event
        return (Sessions.runEvents value.model events.toArray).toList
      else .error "invalid event array" := by
  have hprogress : ∀ state event, Inv config state →
      ∃ next report, answer config state event = .ok (next, report) ∧ Inv config next := by
    intro state event inv
    obtain ⟨next, report, hanswer, hinv, -⟩ := answer_model config inv event
    exact ⟨next, report, hanswer, hinv⟩
  rw [← configuration_model hconfig]
  refine (bind_ok hconfig _).trans ?_
  by_cases hlength : 1 ≤ values.length ∧ values.length ≤ 1024
  · rw [if_pos hlength]
    refine (guard_ok (not_not_intro hlength)).trans ?_
    rw [Machine.trace_checked hprogress (inv_initial config)]
    exact congrArg (values.mapM event >>= ·) (funext fun events => trace_model config events)
  · rw [if_neg hlength]
    exact guard_error hlength

/-- A read of one byte. -/
def sampleConfig : ConfigValue :=
  { write := false, safety := "read-only", allowPotentiallyMutating := false, budget := 1, reference := 1
    locations := [{ range := { dbNumber := 1, start := 0, count := 1 } }]
    requestPdu := some [0x32, 1, 0, 0, 0, 1, 0, 14, 0, 0, 4, 1, 0x12, 0x0a, 0x10, 2, 0, 1, 0, 1, 0x84, 0, 0, 0] }

theorem sampleConfig_accepted : ∃ config, configuration sampleConfig = .ok config := by
  obtain ⟨config, hconfig⟩ := Option.isSome_iff_exists.mp
    (show (configuration sampleConfig).toOption.isSome = true by decide +kernel)
  exact ⟨config, toOption_eq_some.mp hconfig⟩

/-- A timeout, a reconnect and an answer. -/
theorem trace_eq_runEvents_sample :
    trace sampleConfig [.begin, .send, .failure "timeout", .reconnectSetup, .reconnected, .send,
      .response [0x32, 3, 0, 0, 0, 1, 0, 2, 0, 5, 0, 0, 4, 1, 255, 4, 0, 8, 0xaa]] =
      .ok (Sessions.runEvents sampleConfig.model #[.begin, .send, .failure .timeout, .reconnectSetup,
        .reconnected, .send, .response [0x32, 3, 0, 0, 0, 1, 0, 2, 0, 5, 0, 0, 4, 1, 255, 4, 0, 8, 0xaa]]).toList := by
  obtain ⟨config, hconfig⟩ := sampleConfig_accepted
  exact (trace_eq_runEvents hconfig _).trans ((if_pos (by decide)).trans rfl)

/-- Without events the oracle has no trace, where the model reports an empty history. -/
theorem trace_nil_ne_runEvents :
    ¬ ∀ (value : ConfigValue) (config : Config) (values : List EventValue) (events : List Sessions.Event),
      configuration value = .ok config → values.mapM event = .ok events →
        trace value values = .ok (Sessions.runEvents value.model events.toArray).toList := by
  intro h
  obtain ⟨config, hconfig⟩ := sampleConfig_accepted
  have htrace : trace sampleConfig [] = .error "invalid event array" := bind_ok hconfig _
  cases htrace.symm.trans (h sampleConfig config [] [] hconfig rfl)

end ClassicS7.Oracle.Session
