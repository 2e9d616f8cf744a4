import ClassicS7.Client.Transport
import ClassicS7.Client.WriteProgress
import ClassicS7.Wire.Setup

/-! The live session: connecting, closing and reconnecting.

A session holds what changes over the life of a client: its connection, its lifecycle
state, the negotiated PDU length, the next reference, and the write progress. Programs
over it run on a `Network`, which is the transport as the client calls it. Between
operations a session is `Sound`: it has a connection exactly while it is connected, and
its PDU length is never below what the protocol needs. -/
namespace ClassicS7
open Effect

/-- The transport as the client uses it. -/
structure Network (W Socket : Type) where
  monoMsNow : W → Nat × W
  connectUntil : Transport.Endpoint → UInt16 → COTP.ConnectionRequest → Option Nat →
    Program W (Transport.Connection Socket)
  sendData : Socket → Bytes → Program W Unit
  sendDataUntil : Socket → Bytes → Option Nat → Program W Unit
  receiveDataUntil : Socket → Option Nat → Nat → Program W Bytes
  disconnect : Transport.Connection Socket → Option Nat → Program W Unit
  shutdown : Socket → Program W Unit

/-- The transport over the native operations. -/
def Transport.network {W Socket : Type} (native : Transport.Native W Socket) : Network W Socket where
  monoMsNow := native.monoMsNow
  connectUntil := connectUntil native
  sendData := Transport.sendData native
  sendDataUntil := Transport.sendDataUntil native
  receiveDataUntil socket deadline maxPayloadSize := Transport.receiveDataUntil native socket deadline maxPayloadSize
  disconnect := Transport.disconnect native
  shutdown := native.shutdown

structure ClientConfig where
  endpoint : Transport.Endpoint
  port : UInt16 := 102
  rack : Nat := 0
  slot : Nat := 2
  localTsap : UInt16 := 0x0100
  remoteTsap : Option UInt16 := none
  destinationReference : UInt16 := 0
  sourceReference : UInt16 := 1
  classOption : UInt8 := 0
  tpduSizeExponent : UInt8 := 0x0a
  /-- The budget for resolving, connecting and the setup together. -/
  connectTimeoutMs : Option Nat := some 5000
  operationTimeoutMs : Option Nat := some 5000
  /-- The receive budget of a whole transfer, from when it passes the gate. -/
  transferReceiveTimeoutMs : Option Nat := some 30000
  reconnectRetries : Nat := 0
  /-- Accept that a lost acknowledgement may repeat a side effect. -/
  allowPotentiallyMutatingRetries : Bool := false
  maxStaleResponses : Nat := 4
  initialRequestReference : UInt16 := 2
  deriving Repr, DecidableEq

/-- What changes over the life of a client. `attempted` says whether the exchange that
runs has come to its send; there is one at a time. -/
structure Session (Socket : Type) where
  connection : Option (Transport.Connection Socket)
  state : Lifecycle.State
  currentPduLength : UInt16
  nextReference : UInt16
  writeProgress : WriteProgress.State := {}
  attempted : Bool := false
  deriving Repr, DecidableEq

/-- A session and the world its network runs in. -/
structure Live (W Socket : Type) where
  session : Session Socket
  world : W

/-- One wrapping counter, shared by every operation. -/
def Correlation.nextReference (reference : UInt16) : UInt16 := reference + 1

section Programs
variable {W Socket α ε : Type} (network : Network W Socket) (config : ClientConfig)

def onWorld (prog : Program W α) : Program (Live W Socket) α :=
  part Live.world (fun world live => { live with world }) prog

def getSession : Program (Live W Socket) (Session Socket) := return (← get).session

def modifySession (f : Session Socket → Session Socket) : Program (Live W Socket) Unit :=
  modify fun live => { live with session := f live.session }

def inputOrThrow [Repr ε] (result : Except ε α) : Program W α :=
  match result with
  | .ok value => pure value
  | .error error => throw (ClientError.invalidInput (reprStr error))

def decodeOrThrow (result : Except DecodeError α) : Program W α :=
  match result with
  | .ok value => pure value
  | .error (.remoteFailure _ message) => throw (ClientError.plcRejected message)
  | .error error => throw (ClientError.protocol (reprStr error))

def receiveDeadline (timeoutMs : Option Nat) : Program (Live W Socket) (Option Nat) :=
  onWorld (Transport.receiveDeadline network.monoMsNow timeoutMs)

def checkReceiveDeadline (deadline : Option Nat) : Program (Live W Socket) Unit :=
  onWorld (Transport.checkReceiveDeadline network.monoMsNow deadline)

/-! ### Connecting -/

def remoteTsap (rack slot : Nat) : Program W UInt16 := do
  if rack > 7 then
    throw (ClientError.invalidInput s!"rack must be between 0 and 7, got {rack}")
  if slot > 31 then
    throw (ClientError.invalidInput s!"slot must be between 0 and 31, got {slot}")
  return UInt16.ofNat (0x0100 + rack * 32 + slot)

/-- The setup exchange on an open connection. -/
def setUpSession (connection : Transport.Connection Socket) (connectDeadline : Option Nat) :
    Program W (Transport.Connection Socket × S7.SetupCommunication) := do
  let reference : UInt16 := 1
  let request ← inputOrThrow (S7.encodeSetupCommunication reference)
  let setupDeadline := Transport.earlierReceiveDeadline connectDeadline
    (← Transport.receiveDeadline network.monoMsNow config.operationTimeoutMs)
  network.sendDataUntil connection.socket request setupDeadline
  let response ← Transport.orThrow (S7.decodeResponse
    (← network.receiveDataUntil connection.socket setupDeadline 65535))
  let setup ← decodeOrThrow (S7.decodeSetupCommunication reference response)
  Transport.orThrow (COTP.validateDataPayloadBudget connection.tpduSizeExponent setup.pduLength.toNat)
  Transport.checkReceiveDeadline network.monoMsNow connectDeadline
  return (connection, setup)

def connectSession : Program W (Transport.Connection Socket × S7.SetupCommunication) := do
  let connectDeadline ← Transport.receiveDeadline network.monoMsNow config.connectTimeoutMs
  let calledTsap ← match config.remoteTsap with
    | some tsap => pure tsap
    | none => remoteTsap config.rack config.slot
  let connection ← network.connectUntil config.endpoint config.port {
    destinationReference := config.destinationReference
    sourceReference := config.sourceReference
    classOption := config.classOption
    callingTsap := config.localTsap
    calledTsap
    tpduSizeExponent := config.tpduSizeExponent } connectDeadline
  tryCatch (setUpSession network config connection connectDeadline) fun error => do
    tryCatch (network.shutdown connection.socket) fun _ => pure ()
    throw error

/-- The session of a client that has just connected. -/
def connect : Program W (Session Socket) := do
  Transport.validateTimeoutMs config.connectTimeoutMs
  Transport.validateTimeoutMs config.operationTimeoutMs
  Transport.validateTimeoutMs config.transferReceiveTimeoutMs
  let (session, setup) ← connectSession network config
  return {
    connection := some session
    state := .connected
    currentPduLength := setup.pduLength
    nextReference := config.initialRequestReference }

/-- A program of a client, from its session on. -/
def Session.run (session : Session Socket) (prog : Program (Live W Socket) α) : Program W α := fun w =>
  ((ExceptT.run prog).run ⟨session, w⟩ |>.1, ((ExceptT.run prog).run ⟨session, w⟩).2.world)

/-! ### The state of a session -/

def freshReference : Program (Live W Socket) UInt16 := do
  let reference := (← getSession).nextReference
  modifySession fun session => { session with nextReference := Correlation.nextReference reference }
  return reference

/-- Release the internal history once the caller owns its snapshot. -/
def takeWriteProgress : Program (Live W Socket) WriteProgress := do
  let progress := (← getSession).writeProgress.snapshot
  modifySession fun session => { session with writeProgress := {} }
  return progress

def isConnected : Program (Live W Socket) Bool := return (← getSession).state == .connected

def negotiatedPduLength : Program (Live W Socket) UInt16 := return (← getSession).currentPduLength

def applyLifecycleEvent (event : Lifecycle.Event) : Program (Live W Socket) Unit := do
  match Lifecycle.transition (← getSession).state event with
  | some next => modifySession fun session => { session with state := next }
  | none => throw (ClientError.lifecycle s!"illegal S7 client lifecycle event {reprStr event}")

def closeCurrent : Program (Live W Socket) Unit := do
  let previous := (← getSession).connection
  modifySession fun session => { session with connection := none }
  if let some connection := previous then
    tryCatch (onWorld (network.disconnect connection config.operationTimeoutMs)) fun _ => pure ()
  applyLifecycleEvent .transportClosed

def reconnect : Program (Live W Socket) Unit := do
  closeCurrent network config
  let previousPduLength := (← getSession).currentPduLength
  let (connection, setup) ← onWorld (connectSession network config)
  if setup.pduLength < previousPduLength then
    tryCatch (onWorld (network.disconnect connection config.operationTimeoutMs)) fun _ => pure ()
    throw (ClientError.protocol
      s!"reconnected PDU length shrank from {previousPduLength} to {setup.pduLength}")
  modifySession fun session => { session with connection := some connection }
  applyLifecycleEvent .reconnected
  modifySession fun session => { session with currentPduLength := setup.pduLength }

/-- Explicit disconnection closes the session for good. -/
def disconnect : Program (Live W Socket) Unit := do
  closeCurrent network config
  applyLifecycleEvent .disconnect

end Programs

/-! ### What holds between operations -/

section Discipline
variable {W Socket α ε : Type} {network : Network W Socket} {config : ClientConfig}

/-- A session has a connection exactly while it is connected, and a usable PDU length. -/
structure Session.Sound (session : Session Socket) : Prop where
  connected : session.state = .connected ↔ session.connection.isSome
  minimum : 240 ≤ session.currentPduLength.toNat

/-- The world went on by readings of the clock alone. -/
inductive Network.Ticks (network : Network W Socket) : W → W → Prop where
  | refl (w : W) : Ticks network w w
  | read {w w' : W} : Ticks network w w' → Ticks network w (network.monoMsNow w').2

theorem Network.Ticks.trans {w w' w'' : W} (h : network.Ticks w w') (h' : network.Ticks w' w'') :
    network.Ticks w w'' := by
  induction h' with
  | refl => exact h
  | read _ ih => exact .read ih

/-- What may become of a session. A closed one stays closed, the PDU length does not shrink,
and one that is not connected does not come back and leaves the world alone. -/
structure Live.Onward (network : Network W Socket) (live live' : Live W Socket) : Prop where
  closed : live.session.state = .closed → live'.session.state = .closed
  pduLength : live.session.currentPduLength ≤ live'.session.currentPduLength
  idle : live.session.state ≠ .connected →
    live'.session.state ≠ .connected ∧ network.Ticks live.world live'.world

/-- The discipline of every operation of a client. -/
def orderly (network : Network W Socket) : Discipline (Live W Socket) where
  inv live := live.session.Sound
  rel := Live.Onward network
  refl _ := ⟨id, UInt16.le_refl _, fun h => ⟨h, .refl _⟩⟩
  trans _ _ _ h h' :=
    ⟨fun hclosed => h'.closed (h.closed hclosed), UInt16.le_trans h.pduLength h'.pduLength, fun hidle =>
      ⟨(h'.idle (h.idle hidle).1).1, (h.idle hidle).2.trans (h'.idle (h.idle hidle).1).2⟩⟩

/-- The session after its transport has been closed. -/
def Session.shut (session : Session Socket) : Session Socket :=
  { session with connection := none, state := if session.state = .closed then .closed else .disconnected }

theorem Session.Sound.shut {session : Session Socket} (h : 240 ≤ session.currentPduLength.toNat) :
    session.shut.Sound := by
  refine ⟨?_, h⟩
  simp only [Session.shut, Option.isSome_none, Bool.false_eq_true, iff_false]
  split <;> simp

@[simp] theorem state_shut_ne {session : Session Socket} : session.shut.state ≠ .connected := by
  simp only [Session.shut]
  split <;> simp

theorem transition_transportClosed (state : Lifecycle.State) :
    Lifecycle.transition state .transportClosed = some (if state = .closed then .closed else .disconnected) := by
  cases state <;> rfl

/-! ### The parts of a session -/

theorem keeps_getSession : (orderly network).Keeps (getSession : Program (Live W Socket) _) :=
  Discipline.keeps_get.bind fun _ => Discipline.keeps_pure _

/-- A change that concerns neither the connection, the lifecycle nor the PDU length. -/
theorem keeps_modifySession {f : Session Socket → Session Socket}
    (hf : ∀ session, (f session).connection = session.connection ∧ (f session).state = session.state ∧
      (f session).currentPduLength = session.currentPduLength) :
    (orderly network).Keeps (modifySession f) := by
  refine Discipline.keeps_modify fun live hlive => ?_
  obtain ⟨hconnection, hstate, hlength⟩ := hf live.session
  refine ⟨⟨?_, ?_⟩, ?_, ?_, ?_⟩
  · simpa only [hconnection, hstate] using hlive.connected
  · simpa only [hlength] using hlive.minimum
  · simp only [hstate]
    exact id
  · simp only [hlength, UInt16.le_refl]
  · simp only [hstate]
    exact fun h => ⟨h, .refl _⟩

theorem keeps_freshReference : (orderly network).Keeps (freshReference : Program (Live W Socket) _) :=
  keeps_getSession.bind fun _ =>
    .bind (keeps_modifySession fun _ => ⟨rfl, rfl, rfl⟩) fun _ => Discipline.keeps_pure _

theorem keeps_takeWriteProgress : (orderly network).Keeps (takeWriteProgress : Program (Live W Socket) _) :=
  keeps_getSession.bind fun _ =>
    .bind (keeps_modifySession fun _ => ⟨rfl, rfl, rfl⟩) fun _ => Discipline.keeps_pure _

/-- What runs on the clock alone. -/
theorem keeps_onWorld {prog : Program W α}
    (h : ∀ w, Ends prog w (fun _ w' => network.Ticks w w') fun _ w' => network.Ticks w w') :
    (orderly network).Keeps (onWorld prog) := by
  intro live hlive
  refine ends_part.mpr ((h live.world).mono ?_ ?_) <;>
    exact fun _ w' hw => ⟨hlive, id, UInt16.le_refl _, fun hidle => ⟨hidle, hw⟩⟩

theorem ticks_validateTimeoutMs (timeoutMs : Option Nat) (w : W) :
    Ends (Transport.validateTimeoutMs timeoutMs) w (fun _ w' => w' = w) fun _ w' => w' = w := by
  cases timeoutMs with
  | none => exact ends_pure.mpr rfl
  | some timeout =>
    simp only [Transport.validateTimeoutMs, ends_ite, ends_throw, ends_pure, ite_self]

theorem ticks_receiveDeadline (timeoutMs : Option Nat) (w : W) :
    Ends (Transport.receiveDeadline network.monoMsNow timeoutMs) w (fun _ w' => network.Ticks w w')
      fun _ w' => network.Ticks w w' := by
  refine ends_bind.mpr ((ticks_validateTimeoutMs timeoutMs w).mono ?_ ?_)
  · rintro _ _ rfl
    cases timeoutMs with
    | none => exact ends_pure.mpr (.refl _)
    | some timeout =>
      simp only [ends_bind, Transport.ends_now, ends_pure]
      exact .read (.refl _)
  · rintro _ _ rfl
    exact .refl _

theorem ticks_checkReceiveDeadline (deadline : Option Nat) (w : W) :
    Ends (Transport.checkReceiveDeadline network.monoMsNow deadline) w (fun _ w' => network.Ticks w w')
      fun _ w' => network.Ticks w w' := by
  cases deadline with
  | none => exact ends_pure.mpr (.refl _)
  | some deadline =>
    simp only [Transport.checkReceiveDeadline, ends_bind, Transport.ends_now, ends_ite, ends_throw, ends_pure,
      ite_self]
    exact .read (.refl w)

theorem keeps_receiveDeadline (timeoutMs : Option Nat) :
    (orderly network).Keeps (receiveDeadline network timeoutMs : Program (Live W Socket) _) :=
  keeps_onWorld (ticks_receiveDeadline timeoutMs)

theorem keeps_checkReceiveDeadline (deadline : Option Nat) :
    (orderly network).Keeps (checkReceiveDeadline network deadline : Program (Live W Socket) _) :=
  keeps_onWorld (ticks_checkReceiveDeadline deadline)

/-! ### Closing and reconnecting -/

@[simp] theorem ends_getSession {live : Live W Socket} {ok : Session Socket → Live W Socket → Prop}
    {error : RuntimeError → Live W Socket → Prop} :
    Ends getSession live ok error ↔ ok live.session live := Iff.rfl

@[simp] theorem ends_modifySession {f : Session Socket → Session Socket} {live : Live W Socket}
    {ok : Unit → Live W Socket → Prop} {error : RuntimeError → Live W Socket → Prop} :
    Ends (modifySession f) live ok error ↔ ok () { live with session := f live.session } := Iff.rfl

@[simp] theorem ends_onWorld {prog : Program W α} {live : Live W Socket} {ok : α → Live W Socket → Prop}
    {error : RuntimeError → Live W Socket → Prop} :
    Ends (onWorld prog) live ok error ↔
      Ends prog live.world (fun a world => ok a { live with world }) fun e world => error e { live with world } :=
  ends_part

@[simp] theorem ends_freshReference {live : Live W Socket} {ok : UInt16 → Live W Socket → Prop}
    {error : RuntimeError → Live W Socket → Prop} :
    Ends freshReference live ok error ↔
      ok live.session.nextReference { live with session := { live.session with
        nextReference := Correlation.nextReference live.session.nextReference } } := Iff.rfl

@[simp] theorem ends_negotiatedPduLength {live : Live W Socket} {ok : UInt16 → Live W Socket → Prop}
    {error : RuntimeError → Live W Socket → Prop} :
    Ends negotiatedPduLength live ok error ↔ ok live.session.currentPduLength live := Iff.rfl

@[simp] theorem ends_isConnected {live : Live W Socket} {ok : Bool → Live W Socket → Prop}
    {error : RuntimeError → Live W Socket → Prop} :
    Ends isConnected live ok error ↔ ok (live.session.state == .connected) live := Iff.rfl

@[simp] theorem ends_run {session : Session Socket} {prog : Program (Live W Socket) α} {w : W} {ok : α → W → Prop}
    {error : RuntimeError → W → Prop} :
    Ends (session.run prog) w ok error ↔
      Ends prog ⟨session, w⟩ (fun a live => ok a live.world) fun e live => error e live.world := by
  unfold Ends Session.run ExceptT.run StateT.run
  dsimp only
  cases prog ⟨session, w⟩ with
  | mk result next => cases result <;> rfl

/-- A program on the world, whose failure is ignored, leaves the session. -/
theorem ends_attempt {prog : Program W Unit} {live : Live W Socket} :
    Ends (tryCatch (onWorld prog) fun _ => pure ()) live (fun _ live' => live'.session = live.session)
      fun _ _ => False := by
  simp only [ends_tryCatch, ends_onWorld, ends_pure]
  exact ends_of_forall (fun _ _ => trivial) fun _ _ => trivial

/-- Closing always succeeds, and says goodbye only on a connection. -/
theorem ends_closeCurrent (live : Live W Socket) :
    Ends (closeCurrent network config) live
      (fun _ live' => live'.session = live.session.shut ∧
        (live.session.connection = none → live'.world = live.world)) fun _ _ => False := by
  have happly : ∀ live' : Live W Socket, live'.session = { live.session with connection := none } →
      Ends (applyLifecycleEvent .transportClosed) live'
        (fun _ live'' => live''.session = live.session.shut ∧ live''.world = live'.world) fun _ _ => False := by
    intro live' hsession
    simp only [applyLifecycleEvent, ends_bind, ends_getSession, transition_transportClosed, ends_modifySession]
    rw [hsession]
    exact ⟨rfl, trivial⟩
  unfold closeCurrent
  simp only [ends_bind, ends_getSession, ends_modifySession]
  cases hconnection : live.session.connection with
  | none =>
    exact (happly _ rfl).mono (fun _ _ h => ⟨h.1, fun _ => h.2⟩) fun _ _ h => h
  | some connection =>
    refine ends_bind.mpr (ends_attempt.mono (fun _ live' hsession => ?_) fun _ _ h => h.elim)
    exact (happly live' hsession).mono (fun _ _ h => ⟨h.1, fun h => by cases h⟩) fun _ _ h => h

theorem keeps_closeCurrent : (orderly network).Keeps (closeCurrent network config) := by
  refine fun live hlive => (ends_closeCurrent live).mono (fun _ live' h => ?_) fun _ _ h => h.elim
  obtain ⟨hsession, hworld⟩ := h
  refine ⟨?_, ?_, ?_, ?_⟩
  · change live'.session.Sound
    rw [hsession]
    exact .shut hlive.minimum
  · intro hclosed
    rw [hsession, Session.shut, if_pos hclosed]
  · rw [hsession]
    exact UInt16.le_refl _
  · intro hidle
    have hconnection : live.session.connection = none := by
      rw [← Option.not_isSome_iff_eq_none]
      exact fun h => hidle (hlive.connected.mpr h)
    rw [hsession, hworld hconnection]
    exact ⟨state_shut_ne, .refl _⟩

/-- A step that may do anything, before one that ends well. -/
theorem ends_after {α β : Type} {x : Program W β} {f : β → Program W α} {w : W} {ok : α → W → Prop}
    (hf : ∀ b w', Ends (f b) w' ok fun _ _ => True) : Ends (x >>= f) w ok fun _ _ => True :=
  ends_bind.mpr (ends_of_forall hf fun _ _ => trivial)

/-- An accepted setup has a usable PDU length. -/
theorem ends_setUpSession (connection : Transport.Connection Socket) (deadline : Option Nat) (w : W) :
    Ends (setUpSession network config connection deadline) w (fun opened _ => 240 ≤ opened.2.pduLength.toNat)
      fun _ _ => True := by
  refine ends_after fun request w => ends_after fun operationDeadline w => ends_after fun _ w => ?_
  refine ends_after fun packet w => ends_after fun response w => ?_
  cases hsetup : S7.decodeSetupCommunication 1 response with
  | error error => cases error <;> exact trivial
  | ok setup =>
    have hlength := S7.pduLength_of_decodeSetupCommunication hsetup
    refine ends_bind.mpr (ends_pure.mpr ?_)
    exact ends_after fun _ w => ends_after fun _ w => hlength

theorem ends_connectSession (w : W) :
    Ends (connectSession network config) w (fun opened _ => 240 ≤ opened.2.pduLength.toNat)
      fun _ _ => True := by
  refine ends_after fun connectDeadline w => ?_
  have hopen (calledTsap : UInt16) (w : W) : Ends (network.connectUntil config.endpoint config.port {
      destinationReference := config.destinationReference
      sourceReference := config.sourceReference
      classOption := config.classOption
      callingTsap := config.localTsap
      calledTsap
      tpduSizeExponent := config.tpduSizeExponent } connectDeadline >>= fun connection =>
        tryCatch (setUpSession network config connection connectDeadline) fun error => do
          tryCatch (network.shutdown connection.socket) fun _ => pure ()
          throw error) w (fun opened _ => 240 ≤ opened.2.pduLength.toNat) fun _ _ => True := by
    refine ends_after fun connection w => ends_tryCatch.mpr ((ends_setUpSession connection _ w).mono ?_ ?_)
    · exact fun _ _ h => h
    · exact fun _ _ _ => ends_after fun _ _ => ends_throw.mpr trivial
  cases config.remoteTsap with
  | some tsap => exact hopen tsap w
  | none => exact ends_after fun calledTsap w => hopen calledTsap w

/-- A session as a reconnect leaves it. -/
def Session.reopened (session : Session Socket) (connection : Transport.Connection Socket)
    (pduLength : UInt16) : Session Socket :=
  { session with connection := some connection, state := .connected, currentPduLength := pduLength }

theorem Session.sound_reopened {session : Session Socket} {connection : Transport.Connection Socket}
    {pduLength : UInt16} (h : 240 ≤ pduLength.toNat) : (session.reopened connection pduLength).Sound :=
  ⟨by simp [reopened], h⟩

/-- A session that is disconnected comes back, with no less of a PDU length, or stays away. -/
theorem ends_reconnect {live : Live W Socket} (hstate : live.session.state = .disconnected) :
    Ends (reconnect network config) live
      (fun _ live' => ∃ connection pduLength, live'.session = live.session.reopened connection pduLength ∧
        live.session.currentPduLength ≤ pduLength ∧ 240 ≤ pduLength.toNat)
      fun _ live' => live'.session = live.session.shut := by
  have hshut : live.session.shut = { live.session with connection := none, state := .disconnected } := by
    rw [Session.shut, if_neg (by simp [hstate])]
  refine ends_bind.mpr ((ends_closeCurrent live).mono (fun _ live₁ h => ?_) fun _ _ h => h.elim)
  obtain ⟨hsession, -⟩ := h
  simp only [ends_bind, ends_getSession]
  refine ends_part.mpr ((ends_connectSession live₁.world).mono (fun opened w hopened => ?_) fun _ _ _ => hsession)
  obtain ⟨connection, setup⟩ := opened
  dsimp only
  split
  · refine ends_bind.mpr (ends_attempt.mono (fun _ live₂ h => ?_) fun _ _ h => h.elim)
    exact ends_bind.mpr (ends_throw.mpr (h.trans hsession))
  · rename_i hlength
    simp only [ends_bind, applyLifecycleEvent, ends_getSession, ends_modifySession]
    rw [hsession, hshut] at hlength ⊢
    exact ⟨connection, setup.pduLength, rfl, UInt16.not_lt.mp hlength, hopened⟩

end Discipline

end ClassicS7
