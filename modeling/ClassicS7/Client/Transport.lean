import ClassicS7.Client.Policy
import ClassicS7.Library.Effect
import ClassicS7.Wire.Connection

/-! The transport: sockets, deadlines, framed sends and reassembled receives.

The native operations (clock, timers, sockets, name resolution) are given by a
`Native`, over a world that they may change in any way; the transport is the
programs over them. A receive deadline is absolute and shared by all the fragments of
one payload; each socket operation races a timer of what remains of it. -/
namespace ClassicS7

/-- Programs over a world, with the errors of the runtime. -/
abbrev Program (W : Type) := Effect RuntimeError W

namespace Transport

abbrev IPv4Addr := Vector UInt8 4
abbrev IPv6Addr := Vector UInt16 8

inductive IPAddr where
  | v4 (address : IPv4Addr)
  | v6 (address : IPv6Addr)
  deriving Repr, DecidableEq

inductive SocketAddress where
  | v4 (address : IPv4Addr) (port : UInt16)
  | v6 (address : IPv6Addr) (port : UInt16)
  deriving Repr, DecidableEq

inductive Endpoint where
  | ipv4 (address : IPv4Addr)
  | ipv6 (address : IPv6Addr)
  | hostname (name : String)
  deriving Repr, DecidableEq

inductive TimeoutResult (α : Type) where
  | completed (value : α)
  | timedOut
  deriving Repr, DecidableEq

/-- The native operations. A race runs an operation against a timer. -/
structure Native (W Socket : Type) where
  monoMsNow : W → Nat × W
  race : {α : Type} → Nat → Program W α → Program W (TimeoutResult α)
  socket : Program W Socket
  connect : Socket → SocketAddress → Program W Unit
  noDelay : Socket → Program W Unit
  send : Socket → Bytes → Program W Unit
  recv : Socket → UInt64 → Program W (Option Bytes)
  shutdown : Socket → Program W Unit
  getAddrInfo : String → String → Program W (List IPAddr)

structure Connection (Socket : Type) where
  socket : Socket
  localReference : UInt16
  remoteReference : UInt16
  tpduSizeExponent : UInt8
  deriving Repr, DecidableEq

/-- Budgets must not silently wrap when passed to native timers. -/
def maximumTimeoutMs : Nat := 4294967295

section Programs
variable {W Socket α ε : Type} (native : Native W Socket)

def orThrow [Repr ε] (result : Except ε α) : Program W α :=
  match result with
  | .ok value => pure value
  | .error error => throw (ClientError.protocol (reprStr error))

/-- A result or an error, without a step. -/
theorem leaves_orThrow [Repr ε] {β : Type} {view : W → β} (result : Except ε α) :
    Effect.Leaves view (orThrow result : Program W α) := by
  cases result with
  | ok a => exact Effect.Discipline.keeps_pure a
  | error e => exact Effect.Discipline.keeps_throw _

def validateTimeoutMs (timeoutMs : Option Nat) : Program W Unit :=
  match timeoutMs with
  | some timeout =>
    if timeout > maximumTimeoutMs then
      throw (ClientError.invalidInput s!"timeout exceeds maximum {maximumTimeoutMs} ms: {timeout}")
    else
      pure ()
  | none => pure ()

/-- A clock reads the time, and the world goes on. -/
def now (clock : W → Nat × W) : Program W Nat := fun w => (.ok (clock w).1, (clock w).2)

@[simp] theorem ends_now {clock : W → Nat × W} {w : W} {ok : Nat → W → Prop} {error : RuntimeError → W → Prop} :
    Effect.Ends (now clock) w ok error ↔ ok (clock w).1 (clock w).2 := Iff.rfl

def withTimeout (timeoutMs : Option Nat) (label : String) (operation : Program W α) : Program W α := do
  validateTimeoutMs timeoutMs
  match timeoutMs with
  | none => operation
  | some timeoutMs =>
    match ← native.race timeoutMs operation with
    | .completed value => return value
    | .timedOut => throw (ClientError.timeout s!"{label} timed out after {timeoutMs} ms")

/-- One monotonic receive deadline, shared by fragments and stale responses. -/
def receiveDeadline (clock : W → Nat × W) (timeoutMs : Option Nat) : Program W (Option Nat) := do
  validateTimeoutMs timeoutMs
  match timeoutMs with
  | none => return none
  | some timeout => return some ((← now clock) + timeout)

/-- Keep both an exchange's receive budget and a whole transfer's. `none` is an
unbounded budget, not a fresh deadline. -/
def earlierReceiveDeadline (exchange transfer : Option Nat) : Option Nat :=
  match exchange, transfer with
  | none, other => other
  | other, none => other
  | some first, some second => some (min first second)

/-- Check before starting another exchange. -/
def checkReceiveDeadline (clock : W → Nat × W) (deadline : Option Nat) : Program W Unit :=
  match deadline with
  | none => pure ()
  | some deadline => do
    if (← now clock) ≥ deadline then
      throw (ClientError.timeout "socket receive timed out: transfer deadline expired")

def remainingReceiveTime (deadline : Option Nat) : Program W (Option Nat) :=
  match deadline with
  | none => return none
  | some deadline => do
    let now ← now native.monoMsNow
    if now ≥ deadline then
      throw (ClientError.timeout "socket receive timed out: operation deadline expired")
    validateTimeoutMs (some (deadline - now))
    return some (deadline - now)

/-- Race an operation against what remains of a deadline, which is checked again on
completion. -/
def awaitUntil (deadline : Option Nat) (label : String) (operation : Program W α) : Program W α := do
  match ← remainingReceiveTime native deadline with
  | none => operation
  | some timeoutMs =>
    match ← native.race timeoutMs operation with
    | .completed value =>
      let _ ← remainingReceiveTime native deadline
      return value
    | .timedOut => throw (ClientError.timeout s!"{label} timed out after {timeoutMs} ms")

/-! ### Receiving -/

def receiveSome (socket : Socket) (count : Nat) (deadline : Option Nat) : Program W (Option Bytes) := do
  match ← remainingReceiveTime native deadline with
  | none => native.recv socket count.toUInt64
  | some timeoutMs =>
    match ← native.race timeoutMs (native.recv socket count.toUInt64) with
    | .completed data =>
      let _ ← remainingReceiveTime native deadline
      return data
    | .timedOut => throw (ClientError.timeout s!"socket receive timed out after {timeoutMs} ms")

/-- Receive until there are enough bytes. `result` is what has arrived. -/
def receiveExactUntil (socket : Socket) (count : Nat) (deadline : Option Nat) (result : Bytes := []) :
    Program W Bytes := do
  if result.length < count then
    match ← receiveSome native socket (count - result.length) deadline with
    | none =>
      throw (ClientError.disconnected s!"connection closed with {count - result.length} bytes still expected")
    | some chunk =>
      if chunk.length = 0 then
        throw (ClientError.disconnected "socket returned an empty chunk before EOF")
      else
        receiveExactUntil socket count deadline (result ++ chunk)
  else
    return result
termination_by count - result.length
decreasing_by
  rw [List.length_append]
  omega

def receiveFrameUntil (socket : Socket) (deadline : Option Nat)
    (maxBodySize : Nat := TPKT.maxFrameSize - TPKT.headerSize) (bodyLimitDetail : String := "") :
    Program W Bytes := do
  let header ← receiveExactUntil native socket TPKT.headerSize deadline
  let (version, _) ← orThrow (Cursor.readUInt8 { data := header })
  if version != TPKT.version then
    throw (ClientError.protocol s!"unsupported TPKT version {version}")
  let cursor : Cursor := { data := header, offset := 2 }
  let (length, _) ← orThrow cursor.readUInt16BE
  if length.toNat < TPKT.minFrameSize then
    throw (ClientError.protocol s!"invalid TPKT frame length {length}")
  if length.toNat - TPKT.headerSize > maxBodySize then
    throw (ClientError.protocol s!"TPKT body exceeds receive limit {maxBodySize} {bodyLimitDetail}")
  let payload ← receiveExactUntil native socket (length.toNat - TPKT.headerSize) deadline
  let frame ← orThrow (TPKT.decode (header ++ payload))
  return frame.payload

/-- Receive segments until the last one. A declared body over the budget is rejected
before it is awaited. -/
def receiveDataSegments (socket : Socket) (deadline : Option Nat) (maximum maxSegments : Nat)
    (state : COTP.Reassembly) : Program W Bytes :=
  if state.segments ≥ maxSegments then
    throw (ClientError.protocol s!"COTP reassembly exceeds segment limit {maxSegments}")
  else do
    let payload ← receiveFrameUntil native socket deadline (maximum - state.payload.length + 3)
      s!"COTP reassembly exceeds payload limit {maximum}"
    let segment ← orThrow (COTP.decodeData payload)
    match _hpush : state.pushResourceBounded segment maximum maxSegments with
    | .error error => throw (ClientError.protocol (reprStr error))
    | .ok (state, complete) =>
      if complete then
        return state.payload
      else
        receiveDataSegments socket deadline maximum maxSegments state
termination_by maxSegments - state.segments
decreasing_by
  obtain ⟨_, -, rfl, -⟩ := COTP.Reassembly.pushResourceBounded_eq_ok.mp _hpush
  simp only [COTP.Reassembly.push]
  omega

/-- Receive one complete payload by an absolute deadline. A separate segment budget
applies to empty and tiny fragments. -/
def receiveDataUntil (socket : Socket) (deadline : Option Nat) (maxPayloadSize : Nat := 65535)
    (maxSegments : Nat := 4096) : Program W Bytes :=
  receiveDataSegments native socket deadline maxPayloadSize maxSegments {}

/-! ### Sending -/

def sendFrame (socket : Socket) (payload : Bytes) : Program W Unit := do
  let frame ← orThrow (TPKT.encode { payload })
  native.send socket frame

def sendData (socket : Socket) (payload : Bytes) : Program W Unit :=
  sendFrame native socket (COTP.encodeData { payload })

/-- Connection-handshake send with the same absolute budget as its reply. -/
def sendDataUntil (socket : Socket) (payload : Bytes) (deadline : Option Nat) : Program W Unit := do
  let frame ← orThrow (TPKT.encode { payload := COTP.encodeData { payload } })
  awaitUntil native deadline "S7 setup send" (native.send socket frame)

/-! ### Connecting -/

def socketAddress (address : IPAddr) (port : UInt16) : SocketAddress :=
  match address with
  | .v4 address => .v4 address port
  | .v6 address => .v6 address port

/-- Resolver entries may repeat an address; its first place counts. -/
def uniqueAddresses (addresses : List SocketAddress) : List SocketAddress :=
  addresses.foldl (fun selected address =>
    if selected.contains address then selected else selected ++ [address]) []

def resolveUntil (endpoint : Endpoint) (port : UInt16) (deadline : Option Nat) :
    Program W (List SocketAddress) := do
  let _ ← remainingReceiveTime native deadline
  match endpoint with
  | .ipv4 address => return [.v4 address port]
  | .ipv6 address => return [.v6 address port]
  | .hostname name =>
    let addresses ← awaitUntil native deadline "hostname resolution" (native.getAddrInfo name (toString port))
    if addresses.isEmpty then
      throw (.noSuchThing none 0 s!"hostname {name} resolved to no addresses")
    return uniqueAddresses (addresses.map fun address => socketAddress address port)

/-- The handshake on a socket that is established. -/
def openConnection (socket : Socket) (request : COTP.ConnectionRequest) (deadline : Option Nat) :
    Program W (Connection Socket) := do
  native.noDelay socket
  let connectionRequest := COTP.encodeConnectionRequest request
  let frame ← orThrow (TPKT.encode { payload := connectionRequest })
  awaitUntil native deadline "COTP connection request" (native.send socket frame)
  let confirmation ← orThrow (COTP.decodeConnectionConfirm (← receiveFrameUntil native socket deadline))
  let tpduSizeExponent ← orThrow (COTP.negotiatedTpduSizeExponent request confirmation)
  let _ ← remainingReceiveTime native deadline
  return {
    socket
    localReference := request.sourceReference
    remoteReference := confirmation.sourceReference
    tpduSizeExponent }

/-- A failed handshake shuts the socket down; a failed connect has nothing to shut down. -/
def connectAddress (address : SocketAddress) (request : COTP.ConnectionRequest) (deadline : Option Nat) :
    Program W (Connection Socket) := do
  let _ ← remainingReceiveTime native deadline
  let socket ← native.socket
  awaitUntil native deadline "TCP connection" (native.connect socket address)
  tryCatch (openConnection native socket request deadline) fun error => do
    tryCatch (native.shutdown socket) fun _ => pure ()
    throw error

def connectAddresses (request : COTP.ConnectionRequest) (deadline : Option Nat) :
    List SocketAddress → Program W (Connection Socket)
  | [] => throw (.noSuchThing none 0 "could not connect to any resolved address")
  | address :: rest =>
    tryCatch (connectAddress native address request deadline) fun error =>
      if rest.isEmpty || !isRetryableClientErrorKind (classifyClientError error) then
        throw error
      else
        connectAddresses request deadline rest

/-- All distinct candidates share one deadline. Transport failures permit fallback;
malformed protocol responses do not. -/
def connectResolvedUntil (addresses : List SocketAddress) (request : COTP.ConnectionRequest)
    (deadline : Option Nat) : Program W (Connection Socket) := do
  let _ ← remainingReceiveTime native deadline
  connectAddresses native request deadline (uniqueAddresses addresses)

def connectUntil (endpoint : Endpoint) (port : UInt16) (request : COTP.ConnectionRequest)
    (deadline : Option Nat) : Program W (Connection Socket) := do
  let addresses ← resolveUntil native endpoint port deadline
  connectResolvedUntil native addresses request deadline

def disconnect (connection : Connection Socket) (timeoutMs : Option Nat) : Program W Unit := do
  tryCatch (withTimeout native timeoutMs "COTP disconnect"
    (sendFrame native connection.socket (COTP.encodeDisconnectRequest {
      destinationReference := connection.remoteReference
      sourceReference := connection.localReference }))) fun _ => pure ()
  withTimeout native timeoutMs "socket shutdown" (native.shutdown connection.socket)

end Programs

end Transport

end ClassicS7
