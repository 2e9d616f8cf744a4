import ClassicS7.Client.Receiving
import ClassicS7.Client.Transfers
import ClassicS7.Oracle.Peer

/-! A client and a peer on one network.

A `Link` joins a socket of the client to a peer, which is a dialogue: what the client
sends arrives whole, a shutdown of the client ends the peer's stream, what the peer has
written comes in chunks of any size, and the run stays within a fixed time. Between the
operations of a client the peer waits for its next request; the rules of this module
follow a request to the peer and its response back, through the framing, the receive loop
and the retry loop of the client. -/
namespace ClassicS7
open Effect Transport

/-- What is followed of a world: the peer in it, and whether the run is in time there. -/
structure View (W α : Type) where
  served : W → Dialogue.Served α
  timely : W → Prop

/-- The run is in time, and the peer has got this far. -/
def View.At {W α : Type} (view : View W α) (w : W) (here : Dialogue.Served α) : Prop :=
  view.timely w ∧ view.served w = here

/-- The native operations of a client whose peer is a dialogue. In a world that is in time
the clock shows a time within `patience` of `start`, and an operation leads to another such
world; no timer runs out. -/
structure Link {W Socket α : Type} (native : Native W Socket) (socket : Socket) (view : View W α)
    (start patience : Nat) : Prop where
  clock : ∀ w, view.served (native.monoMsNow w).2 = view.served w
  time : ∀ w, view.timely w → view.timely (native.monoMsNow w).2 ∧
    start ≤ (native.monoMsNow w).1 ∧ (native.monoMsNow w).1 < start + patience
  race : ∀ {β : Type} ms (operation : Program W β), native.race ms operation = .completed <$> operation
  made : ∀ {w here}, view.At w here →
    Ends native.socket w (fun made w' => made = socket ∧ view.At w' here) fun _ _ => False
  connect : ∀ address {w here}, view.At w here →
    Ends (native.connect socket address) w (fun _ w' => view.At w' here) fun _ _ => False
  noDelay : ∀ {w here}, view.At w here →
    Ends (native.noDelay socket) w (fun _ w' => view.At w' here) fun _ _ => False
  send : ∀ data {w here}, view.At w here →
    Ends (native.send socket data) w (fun _ w' => view.At w' (here.accept data)) fun _ _ => False
  recv : ∀ w count, Ends (native.recv socket count) w
    (fun data w' =>
      view.served w = { view.served w' with outbox := data.getD [] ++ (view.served w').outbox } ∧
        (data.getD []).length ≤ count.toNat)
    fun _ w' => view.served w' = view.served w
  recv_some : ∀ w count, view.timely w → (view.served w).outbox ≠ [] → 0 < count.toNat →
    Ends (native.recv socket count) w (fun data w' => data.getD [] ≠ [] ∧ view.timely w') fun _ _ => False
  shutdown : ∀ {w here}, view.At w here →
    Ends (native.shutdown socket) w (fun _ w' => view.At w' here.shutdown) fun _ _ => False

/-- A deadline that is not reached, and is no further away than a timer can count. -/
def Ample (start patience : Nat) (deadline : Option Nat) : Prop :=
  ∀ limit ∈ deadline, start + patience ≤ limit ∧ limit ≤ start + maximumTimeoutMs

/-- A budget that outlasts the patience. -/
def Outlasts (patience : Nat) (timeoutMs : Option Nat) : Prop :=
  ∀ timeout ∈ timeoutMs, patience ≤ timeout ∧ patience + timeout ≤ maximumTimeoutMs

theorem Outlasts.some {patience budget : Nat} (hleast : patience ≤ budget)
    (hmost : patience + budget ≤ maximumTimeoutMs) : Outlasts patience (some budget) := by
  intro timeout htimeout
  obtain rfl : budget = timeout := Option.some.inj htimeout
  exact ⟨hleast, hmost⟩

theorem Outlasts.validate {W : Type} {patience : Nat} {timeoutMs : Option Nat}
    (houtlasts : Outlasts patience timeoutMs) :
    (Transport.validateTimeoutMs timeoutMs : Program W Unit) = pure () := by
  cases timeoutMs with
  | none => rfl
  | some timeout =>
    have hbudget := houtlasts timeout rfl
    exact if_neg (by omega)

theorem Ample.earlier {start patience : Nat} {exchange transfer : Option Nat} (h : Ample start patience exchange)
    (h' : Ample start patience transfer) : Ample start patience (earlierReceiveDeadline exchange transfer) := by
  intro limit hlimit
  cases exchange with
  | none => exact h' limit (by simpa [earlierReceiveDeadline] using hlimit)
  | some first =>
    cases transfer with
    | none => exact h limit (by simpa [earlierReceiveDeadline] using hlimit)
    | some second =>
      obtain rfl : min first second = limit := by simpa [earlierReceiveDeadline] using hlimit
      have hfirst := h first rfl
      have hsecond := h' second rfl
      omega

/-! ### The negotiated connection -/

namespace Link

/-- The connection that the confirmation of a peer negotiates. -/
def connection {Socket : Type} (socket : Socket) : Connection Socket where
  socket
  localReference := 1
  remoteReference := 1
  tpduSizeExponent := 0x0a

/-- What a peer confirms a connection request with. -/
def confirmation : Bytes := [0x11, 0xd0, 0, 1, 0, 1, 0, 0xc1, 2, 1, 0, 0xc2, 2, 1, 2, 0xc0, 1, 0x0a]

theorem confirmation_negotiates : ∃ parameters,
    COTP.decodeConnectionConfirm confirmation = .ok ⟨1, 1, 0, parameters⟩ ∧
      COTP.negotiatedTpduSizeExponent {} ⟨1, 1, 0, parameters⟩ = .ok 0x0a := ⟨_, rfl, rfl⟩

end Link

/-- A peer that confirms the connection request and grants the setup its PDU length, and
then goes on as another one. -/
def Greets {α : Type} (peer : Dialogue α) (pdu : UInt16) (p : Dialogue α) : Prop :=
  ∃ confirm answer, peer = Oracle.Peer.receive >>= confirm ∧
    confirm (COTP.encodeConnectionRequest {}) =
      (Oracle.Peer.send Link.confirmation >>= fun _ => Oracle.Peer.request >>= answer) ∧
    ∀ setup, S7.encodeSetupCommunication 1 = .ok setup → answer setup =
      (Oracle.Peer.send ([2, 0xf0, 0x80] ++ S7.ackDataBytes 1 (S7.SetupCommunication.parameters ⟨1, 1, pdu⟩) []) >>=
        fun _ => p)

theorem greets_handshake {α : Type} (pdu : UInt16) (p : Dialogue α) :
    Greets (Oracle.Peer.handshake pdu.toNat >>= fun _ => p) pdu p := by
  refine ⟨_, fun setup => Oracle.Peer.answerSetup pdu.toNat setup >>= fun _ => p, bind_assoc _ _ _, ?_, ?_⟩
  · show (Oracle.Peer.send Link.confirmation >>= fun _ =>
      (Oracle.Peer.request >>= Oracle.Peer.answerSetup pdu.toNat) >>= fun _ => p) = _
    exact bind_congr fun _ => bind_assoc _ _ _
  · intro setup hsetup
    exact congrArg (· >>= fun _ => p) (Oracle.Peer.answerSetup_eq_send hsetup)

/-- The packet in which a client says goodbye. -/
def Link.goodbye : Bytes := [3, 0, 0, 0x0b, 6, 0x80, 0, 1, 0, 1, 0]

/-- A peer that takes the goodbye of a client and the end of its stream, and then is over. -/
def Parts {α : Type} (peer : Dialogue α) (last : Dialogue.Served α) : Prop :=
  (peer.alone.accept Link.goodbye).shutdown = last

theorem parts_closed {α : Type} (p : Dialogue α) :
    Parts (Oracle.Peer.closed >>= fun _ => p) (p.resume [] [] (some .closed)) := by
  rw [Parts, Dialogue.accept_alone, Dialogue.resume_shutdown]
  exact Oracle.Peer.closed_goodbye p

/-- A configuration that connects as the peers expect it: to an address, with the references,
TSAPs and size that are proposed when nothing else is configured. -/
structure ClientConfig.Plain (config : ClientConfig) (address : IPv4Addr) : Prop where
  endpoint : config.endpoint = .ipv4 address
  request : config.destinationReference = 0 ∧ config.sourceReference = 1 ∧ config.classOption = 0 ∧
    config.localTsap = 0x0100 ∧ config.tpduSizeExponent = 0x0a
  tsap : config.remoteTsap = none ∧ config.rack = 0 ∧ config.slot = 2

section Rules
variable {W Socket α β : Type} {native : Native W Socket} {socket : Socket} {view : View W α}
  {start patience : Nat} {deadline timeoutMs : Option Nat} {w : W} {here : Dialogue.Served α}

/-- What the peer has written first is taken, and the rest is as if nothing had been before. -/
theorem ends_taken {p : Dialogue α} {data : Bytes} {prog : Program W β} (ok : β → Prop)
    (hat : view.At w (Dialogue.write data p).alone)
    (hleaves : Leaves (fun w => ((view.served w).peer, (view.served w).inbox, (view.served w).ended)) prog)
    (h : ∀ rest, (view.served w).outbox = data ++ rest →
      Ends prog w (fun b w' => ok b ∧ (view.served w').outbox = rest ∧ view.timely w') fun _ _ => False) :
    Ends prog w (fun b w' => ok b ∧ view.At w' p.alone) fun _ _ => False := by
  have hserved := hat.2
  rw [Dialogue.alone_write] at hserved
  refine ((h p.alone.outbox (by rw [hserved])).and (hleaves.ends w)).mono ?_ fun _ _ h => h.1
  rintro b w' ⟨⟨hok, hrest, htimely⟩, hsame⟩
  rw [hserved, Prod.mk.injEq, Prod.mk.injEq] at hsame
  refine ⟨hok, htimely, ?_⟩
  calc view.served w'
    _ = ⟨(view.served w').peer, (view.served w').inbox, (view.served w').outbox, (view.served w').ended⟩ := rfl
    _ = p.alone := by rw [hrest, hsame.1, hsame.2.1, hsame.2.2]

namespace Link
variable (link : Link native socket view start patience)
include link

/-! ### Time -/

/-- A reading of the clock leaves the peer alone. -/
theorem reading (hat : view.At w here) : view.At (native.monoMsNow w).2 here :=
  ⟨(link.time w hat.1).1, (link.clock w).trans hat.2⟩

theorem receiveDeadline (houtlasts : Outlasts patience timeoutMs) (hat : view.At w here) :
    Ends (Transport.receiveDeadline native.monoMsNow timeoutMs) w
      (fun deadline w' => Ample start patience deadline ∧ view.At w' here) fun _ _ => False := by
  cases timeoutMs with
  | none =>
    have hnone : Ample start patience none := fun _ h => by cases h
    exact ⟨hnone, hat⟩
  | some timeout =>
    have htime := link.time w hat.1
    have hbudget := houtlasts timeout rfl
    simp only [Transport.receiveDeadline, validateTimeoutMs, ends_bind, ends_ite, ends_throw, ends_pure, ends_now]
    rw [if_neg (by omega)]
    refine ⟨fun limit hlimit => ?_, link.reading hat⟩
    obtain rfl : (native.monoMsNow w).1 + timeout = limit := by simpa using hlimit
    omega

theorem checkReceiveDeadline (hample : Ample start patience deadline) (hat : view.At w here) :
    Ends (Transport.checkReceiveDeadline native.monoMsNow deadline) w (fun _ w' => view.At w' here)
      fun _ _ => False := by
  cases deadline with
  | none => exact hat
  | some limit =>
    have htime := link.time w hat.1
    have hlimit := hample limit rfl
    simp only [Transport.checkReceiveDeadline, ends_bind, ends_now, ends_ite, ends_throw, ends_pure]
    rw [if_neg (by omega)]
    exact link.reading hat

/-- A run that is in time has time for any number of steps. -/
theorem prompt (hample : Ample start patience deadline) :
    Prompt native socket (fun w => (view.served w).outbox) deadline (fun _ => view.timely) where
  clock w := congrArg _ (link.clock w)
  recv w count := by
    refine Ends.mono (link.recv w count) (fun data w' h => ⟨?_, h.2⟩) fun _ w' h => congrArg _ h
    rw [h.1]
  race w ms count := by
    rw [link.race, map_eq_pure_bind]
    refine ends_bind.mpr (Ends.mono (link.recv w count) (fun data w' h => ⟨?_, h.2⟩) fun _ w' h => congrArg _ h)
    rw [h.1]
    rfl
  fewer h := h
  reading := by
    intro _ w htimely
    have htime := link.time w htimely
    refine ⟨htime.1, fun limit hlimit => ?_⟩
    have hbounds := hample limit hlimit
    omega
  recv_some count htimely hpending hcount := link.recv_some _ count htimely hpending hcount
  race_some ms count htimely hpending hcount := by
    rw [link.race, map_eq_pure_bind]
    exact ends_bind.mpr (link.recv_some _ count htimely hpending hcount)

/-- A receive changes what the peer has written, and not the peer. -/
theorem passive :
    Passive native socket fun w => ((view.served w).peer, (view.served w).inbox, (view.served w).ended) where
  clock w := by rw [link.clock]
  recv count := leaves_iff.mpr fun w =>
    Ends.mono (link.recv w count) (fun _ _ h => by rw [h.1]) fun _ _ h => by rw [h]
  race ms count := by
    rw [link.race, map_eq_pure_bind]
    refine leaves_iff.mpr fun w => ends_bind.mpr ?_
    exact Ends.mono (link.recv w count) (fun _ _ h => by rw [h.1]; rfl) fun _ _ h => by rw [h]

theorem remaining (hample : Ample start patience deadline) (hat : view.At w here) :
    Ends (remainingReceiveTime native deadline) w (fun _ w' => view.At w' here) fun _ _ => False := by
  cases deadline with
  | none => exact hat
  | some limit =>
    have htime := link.time w hat.1
    have hlimit := hample limit rfl
    simp only [remainingReceiveTime, validateTimeoutMs, ends_bind, ends_now, ends_ite, ends_throw, ends_pure]
    rw [if_neg (by omega), if_neg (by omega)]
    exact link.reading hat

/-- An operation with a budget that outlasts the patience ends as it would on its own. -/
theorem withTimeout (houtlasts : Outlasts patience timeoutMs) {label : String} {operation : Program W β}
    {ok : β → W → Prop} (h : Ends operation w ok fun _ _ => False) :
    Ends (Transport.withTimeout native timeoutMs label operation) w ok fun _ _ => False := by
  unfold Transport.withTimeout
  rw [houtlasts.validate, pure_bind]
  cases timeoutMs with
  | none => exact h
  | some timeout =>
    dsimp only
    rw [link.race, map_eq_pure_bind, bind_assoc]
    exact h.bind fun _ _ hok => hok

/-- An operation that is raced against an ample deadline ends as it would on its own. -/
theorem awaitUntil (hample : Ample start patience deadline) {label : String} {operation : Program W β}
    {next : Dialogue.Served α} (hat : view.At w here)
    (h : ∀ {w}, view.At w here → Ends operation w (fun _ w' => view.At w' next) fun _ _ => False) :
    Ends (Transport.awaitUntil native deadline label operation) w (fun _ w' => view.At w' next) fun _ _ => False := by
  refine ends_bind.mpr ((link.remaining hample hat).mono (fun timeoutMs w₁ h₁ => ?_) fun _ _ h => h)
  cases timeoutMs with
  | none => exact h h₁
  | some ms =>
    dsimp only
    rw [link.race, map_eq_pure_bind, bind_assoc]
    refine ends_bind.mpr ((h h₁).mono (fun b w₂ h₂ => ?_) fun _ _ h => h)
    rw [pure_bind]
    refine ends_bind.mpr ((link.remaining hample h₂).mono (fun _ w₃ h₃ => ?_) fun _ _ h => h)
    exact ends_pure.mpr h₃

/-! ### Packets -/

/-- A packet that is sent reaches a peer that waits for one. -/
theorem send_packet {k : Bytes → Dialogue α} {payload : Bytes}
    (hat : view.At w (Oracle.Peer.receive >>= k).alone) (hlargest : payload.length ≤ 65531) :
    Ends (native.send socket (TPKT.packet payload)) w (fun _ w' => view.At w' (k payload).alone)
      fun _ _ => False := by
  refine (link.send _ hat).mono (fun _ w' h => ?_) fun _ _ h => h
  have harrived := Oracle.Peer.resume_receive k [] [] none hlargest
  rw [List.append_nil] at harrived
  rwa [Dialogue.accept_alone, harrived] at h

theorem sendFrame {k : Bytes → Dialogue α} {payload : Bytes}
    (hat : view.At w (Oracle.Peer.receive >>= k).alone) (hsmallest : 3 ≤ payload.length)
    (hlargest : payload.length ≤ 65531) :
    Ends (Transport.sendFrame native socket payload) w (fun _ w' => view.At w' (k payload).alone)
      fun _ _ => False := by
  unfold Transport.sendFrame
  rw [TPKT.encode_eq_ok.mpr ⟨hsmallest, hlargest, rfl⟩, orThrow_ok, pure_bind]
  exact link.send_packet hat hlargest

/-- A peer that waits for a request waits for the packet it comes in. -/
theorem sendData {k : Bytes → Dialogue α} {pdu : Bytes} (hat : view.At w (Oracle.Peer.request >>= k).alone)
    (hpdu : pdu.length ≤ 65528) :
    Ends (Transport.sendData native socket pdu) w (fun _ w' => view.At w' (k pdu).alone) fun _ _ => False := by
  have hlength := COTP.length_encodeData { payload := pdu }
  rw [Oracle.Peer.request, bind_assoc] at hat
  refine (link.sendFrame hat ?_ ?_).mono (fun _ _ h => h) fun _ _ h => h
  · omega
  · dsimp only at hlength
    omega

theorem sendDataUntil {k : Bytes → Dialogue α} {pdu : Bytes} (hample : Ample start patience deadline)
    (hat : view.At w (Oracle.Peer.request >>= k).alone) (hpdu : pdu.length ≤ 65528) :
    Ends (Transport.sendDataUntil native socket pdu deadline) w (fun _ w' => view.At w' (k pdu).alone)
      fun _ _ => False := by
  have hlength : (COTP.encodeData { payload := pdu }).length = 3 + pdu.length := COTP.length_encodeData _
  rw [Oracle.Peer.request, bind_assoc] at hat
  unfold Transport.sendDataUntil
  rw [TPKT.encode_eq_ok.mpr ⟨by dsimp only; omega, by dsimp only; omega, rfl⟩, orThrow_ok, pure_bind]
  exact link.awaitUntil hample hat fun h => link.send_packet h (by dsimp only; omega)

/-- A packet of the peer is received whole. -/
theorem receiveFrameUntil {p : Dialogue α} {payload : Bytes} (hample : Ample start patience deadline)
    (hat : view.At w (Oracle.Peer.send payload >>= fun _ => p).alone) (hsmallest : 3 ≤ payload.length)
    (hlargest : payload.length ≤ 65531) :
    Ends (Transport.receiveFrameUntil native socket deadline) w
      (fun received w' => received = payload ∧ view.At w' p.alone) fun _ _ => False := by
  rw [Oracle.Peer.send_eq_write hlargest, Dialogue.write_bind, Dialogue.finished_bind] at hat
  have framed := TPKT.framed_packet hsmallest hlargest
  refine ends_taken (· = payload) hat (link.passive.receiveFrameUntil _ _) ?_
  intro rest hrest
  refine (link.prompt hample).receiveFrameUntil framed ?_ hrest hat.1
  simp only [TPKT.packet, TPKT.maxFrameSize, TPKT.headerSize, List.length_append, length_uint16BE,
    List.length_cons, List.length_nil]
  omega

/-- A response of the peer is received whole, if its limit lets it. -/
theorem receiveDataUntil {p : Dialogue α} {pdu : Bytes} {maximum : Nat} (hample : Ample start patience deadline)
    (hat : view.At w (Oracle.Peer.send ([2, 0xf0, 0x80] ++ pdu) >>= fun _ => p).alone)
    (hpdu : pdu.length ≤ maximum) (hlargest : pdu.length ≤ 65528) :
    Ends (Transport.receiveDataUntil native socket deadline maximum) w
      (fun received w' => received = pdu ∧ view.At w' p.alone) fun _ _ => False := by
  have hlength : ([2, 0xf0, 0x80] ++ pdu).length = 3 + pdu.length := by
    rw [List.length_append]
    rfl
  rw [Oracle.Peer.send_eq_write (by omega), Dialogue.write_bind, Dialogue.finished_bind] at hat
  have framed : TPKT.Framed (TPKT.packet ([2, 0xf0, 0x80] ++ pdu)) :=
    TPKT.framed_packet (by omega) (by omega)
  have carries : Carries [TPKT.packet ([2, 0xf0, 0x80] ++ pdu)] pdu := .last framed rfl
  refine ends_taken (· = pdu) hat (link.passive.receiveDataSegments _ _ _) ?_
  intro rest hrest
  refine (link.prompt hample).receiveDataSegments carries ?_ (by simp) ?_ hat.1
  · simpa using hpdu
  · rw [hrest, List.flatten_singleton]

/-! ### Connecting -/

theorem openConnection {k : Bytes → Dialogue α} {p : Dialogue α} (hample : Ample start patience deadline)
    (hat : view.At w (Oracle.Peer.receive >>= k).alone)
    (hconfirm : k (COTP.encodeConnectionRequest {}) = Oracle.Peer.send confirmation >>= fun _ => p) :
    Ends (Transport.openConnection native socket {} deadline) w
      (fun opened w' => opened = connection socket ∧ view.At w' p.alone) fun _ _ => False := by
  obtain ⟨parameters, hdecode, hexponent⟩ := confirmation_negotiates
  have hencode : TPKT.encode { payload := COTP.encodeConnectionRequest {} } =
      .ok (TPKT.packet (COTP.encodeConnectionRequest {})) := rfl
  refine (link.noDelay hat).bind fun _ w₁ h₁ => ?_
  dsimp only
  rw [hencode, orThrow_ok, pure_bind]
  refine Ends.bind (link.awaitUntil hample h₁ fun h => link.send_packet h (by decide)) fun _ w₂ h₂ => ?_
  rw [hconfirm] at h₂
  refine (link.receiveFrameUntil hample h₂ (by decide) (by decide)).bind fun received w₃ h₃ => ?_
  obtain ⟨rfl, h₃⟩ := h₃
  rw [hdecode, orThrow_ok, pure_bind, hexponent, orThrow_ok, pure_bind]
  exact (link.remaining hample h₃).bind fun _ w₄ h₄ => ⟨rfl, h₄⟩

theorem connectUntil {k : Bytes → Dialogue α} {p : Dialogue α} {address : IPv4Addr} {port : UInt16}
    (hample : Ample start patience deadline) (hat : view.At w (Oracle.Peer.receive >>= k).alone)
    (hconfirm : k (COTP.encodeConnectionRequest {}) = Oracle.Peer.send confirmation >>= fun _ => p) :
    Ends (Transport.connectUntil native (.ipv4 address) port {} deadline) w
      (fun opened w' => opened = connection socket ∧ view.At w' p.alone) fun _ _ => False := by
  have hconnect {w₁ : W} (h₁ : view.At w₁ (Oracle.Peer.receive >>= k).alone) :
      Ends (connectAddress native (.v4 address port) {} deadline) w₁
        (fun opened w' => opened = connection socket ∧ view.At w' p.alone) fun _ _ => False := by
    refine (link.remaining hample h₁).bind fun _ w₂ h₂ => ?_
    refine (link.made h₂).bind fun made w₃ h₃ => ?_
    obtain ⟨rfl, h₃⟩ := h₃
    refine Ends.bind (link.awaitUntil hample h₃ fun h => link.connect _ h) fun _ w₄ h₄ => ?_
    exact (link.openConnection hample h₄ hconfirm).unhandled
  have hresolve : Ends (resolveUntil native (.ipv4 address) port deadline) w
      (fun addresses w' => addresses = [.v4 address port] ∧ view.At w' (Oracle.Peer.receive >>= k).alone)
      fun _ _ => False :=
    (link.remaining hample hat).bind fun _ _ h => ⟨rfl, h⟩
  refine hresolve.bind fun addresses w₁ h₁ => ?_
  obtain ⟨rfl, h₁⟩ := h₁
  refine (link.remaining hample h₁).bind fun _ w₂ h₂ => ?_
  exact (hconnect h₂).unhandled

theorem setUpSession {answer : Bytes → Dialogue α} {p : Dialogue α} {config : ClientConfig} {pdu : UInt16}
    (hample : Ample start patience deadline) (hoperation : Outlasts patience config.operationTimeoutMs)
    (hpdu : 240 ≤ pdu.toNat ∧ pdu.toNat ≤ 1021) (hat : view.At w (Oracle.Peer.request >>= answer).alone)
    (hanswer : ∀ setup, S7.encodeSetupCommunication 1 = .ok setup → answer setup =
      (Oracle.Peer.send ([2, 0xf0, 0x80] ++ S7.ackDataBytes 1 (S7.SetupCommunication.parameters ⟨1, 1, pdu⟩) []) >>=
        fun _ => p)) :
    Ends (ClassicS7.setUpSession (network native) config (connection socket) deadline) w
      (fun opened w' => opened = (connection socket, ⟨1, 1, pdu⟩) ∧ view.At w' p.alone) fun _ _ => False := by
  let parameters := S7.SetupCommunication.parameters ⟨1, 1, pdu⟩
  have hencode : S7.encodeSetupCommunication 1 =
      .ok [0x32, 1, 0, 0, 0, 1, 0, 8, 0, 0, 0xf0, 0, 0, 1, 0, 1, 1, 0xe0] := rfl
  have hlength : (S7.ackDataBytes 1 parameters []).length = 20 := rfl
  have hdecode : S7.decodeResponse (S7.ackDataBytes 1 parameters []) = .ok ⟨S7.ackDataType, 1, parameters, [], 0, 0⟩ :=
    S7.decodeResponse_ackDataBytes 1 (show (8 : Nat) ≤ 65535 by decide) (Nat.zero_le _)
  have hbudget : COTP.validateDataPayloadBudget 0x0a pdu.toNat = .ok () :=
    COTP.validateDataPayloadBudget_eq_ok.mpr
      ⟨⟨by decide, by decide⟩, show 3 + pdu.toNat ≤ 1024 by omega⟩
  unfold ClassicS7.setUpSession
  dsimp only
  rw [hencode]
  refine (link.receiveDeadline hoperation hat).bind fun operation w₁ h₁ => ?_
  have hboth := hample.earlier h₁.1
  refine (link.sendDataUntil hboth h₁.2 (by decide)).bind fun _ w₂ h₂ => ?_
  rw [hanswer _ hencode] at h₂
  have hfits : (S7.ackDataBytes 1 parameters []).length ≤ 65528 := Nat.le_trans (Nat.le_of_eq hlength) (by decide)
  refine (link.receiveDataUntil hboth h₂ (Nat.le_trans hfits (by decide)) hfits).bind fun packet w₃ h₃ => ?_
  obtain ⟨rfl, h₃⟩ := h₃
  rw [hdecode, orThrow_ok, pure_bind, S7.decodeSetupCommunication_parameters 1 ⟨1, 1, pdu⟩ [] hpdu.1]
  refine ends_bind.mpr (ends_pure.mpr ?_)
  dsimp only
  rw [connection, hbudget, orThrow_ok, pure_bind]
  exact (link.checkReceiveDeadline hample h₃).bind fun _ w₄ h₄ => ⟨rfl, h₄⟩

/-- A peer that greets lets the client connect, with the PDU length it grants. -/
theorem connectSession {peer p : Dialogue α} {config : ClientConfig} {address : IPv4Addr} {pdu : UInt16}
    (hconfig : config.Plain address) (hconnect : Outlasts patience config.connectTimeoutMs)
    (hoperation : Outlasts patience config.operationTimeoutMs) (hpdu : 240 ≤ pdu.toNat ∧ pdu.toNat ≤ 1021)
    (greets : Greets peer pdu p) (hat : view.At w peer.alone) :
    Ends (ClassicS7.connectSession (network native) config) w
      (fun opened w' => opened = (connection socket, ⟨1, 1, pdu⟩) ∧ view.At w' p.alone) fun _ _ => False := by
  obtain ⟨confirm, answer, rfl, hconfirm, hanswer⟩ := greets
  obtain ⟨hdestination, hsource, hclass, hlocal, hexponent⟩ := hconfig.request
  obtain ⟨hremote, hrack, hslot⟩ := hconfig.tsap
  have htsap : (remoteTsap 0 2 : Program W UInt16) = pure 0x0102 := rfl
  unfold ClassicS7.connectSession
  rw [hremote, hrack, hslot, htsap, hconfig.endpoint, hdestination, hsource, hclass, hlocal, hexponent]
  refine (link.receiveDeadline hconnect hat).bind fun connectDeadline w₁ h₁ => ?_
  dsimp only
  rw [pure_bind]
  refine Ends.bind (link.connectUntil h₁.1 h₁.2 hconfirm) fun opened w₂ h₂ => ?_
  obtain ⟨rfl, h₂⟩ := h₂
  exact (link.setUpSession h₁.1 hoperation hpdu h₂ hanswer).unhandled

/-- The session of a client that has connected. -/
theorem connected {peer p : Dialogue α} {config : ClientConfig} {address : IPv4Addr} {pdu : UInt16}
    (hconfig : config.Plain address) (hconnect : Outlasts patience config.connectTimeoutMs)
    (hoperation : Outlasts patience config.operationTimeoutMs)
    (htransfer : Outlasts patience config.transferReceiveTimeoutMs) (hpdu : 240 ≤ pdu.toNat ∧ pdu.toNat ≤ 1021)
    (greets : Greets peer pdu p) (hat : view.At w peer.alone) :
    Ends (ClassicS7.connect (network native) config) w
      (fun session w' => view.At w' p.alone ∧ session = {
        connection := some (connection socket)
        state := .connected
        currentPduLength := pdu
        nextReference := config.initialRequestReference })
      fun _ _ => False := by
  unfold ClassicS7.connect
  rw [hconnect.validate, hoperation.validate, htransfer.validate, pure_bind, pure_bind, pure_bind]
  refine (link.connectSession hconfig hconnect hoperation hpdu greets hat).bind fun opened w₁ h₁ => ?_
  obtain ⟨rfl, h₁⟩ := h₁
  exact ⟨h₁, rfl⟩

/-! ### Exchanging -/

/-- The response that a peer sends is the reply that is awaited. -/
theorem receiveReply {p : Dialogue α} {reply : Bytes} {pdu reference : UInt16} {rounds allowance : Nat}
    (hample : Ample start patience deadline)
    (hat : view.At w (Oracle.Peer.send ([2, 0xf0, 0x80] ++ reply) >>= fun _ => p).alone)
    (hreply : reply.length ≤ pdu.toNat) (hlargest : reply.length ≤ 65528)
    (hreference : S7.decodePduReference reply = .ok reference) :
    Ends (ClassicS7.receiveReply (network native) socket deadline pdu reference (rounds + 1)
        (.start reference allowance)) w
      (fun received w' => received = reply ∧ view.At w' p.alone) fun _ _ => False := by
  have hstep : Correlation.step (.start reference allowance) reference = .deliver :=
    if_pos (beq_self_eq_true reference)
  refine (link.receiveDataUntil hample hat hreply hlargest).bind fun received w₁ h₁ => ?_
  obtain ⟨rfl, h₁⟩ := h₁
  rw [hreference, orThrow_ok, pure_bind, hstep]
  exact ⟨rfl, h₁⟩

end Link

/-- A client whose session is on the link, with no write in progress, and a peer that goes
on as a dialogue. -/
structure Talking (socket : Socket) (view : View W α) (pdu : UInt16) (p : Dialogue α)
    (live : Live W Socket) : Prop where
  connection : live.session.connection = some (Link.connection socket)
  state : live.session.state = .connected
  pduLength : live.session.currentPduLength = pdu
  settled : live.session.writeProgress.pending = #[]
  peer : view.At live.world p.alone

/-- What leaves the session and the peer leaves them talking. -/
theorem Talking.carried {pdu : UInt16} {p p' : Dialogue α} {live live' : Live W Socket}
    (talking : Talking socket view pdu p live) (hsession : live'.session = live.session)
    (hat : view.At live'.world p'.alone) : Talking socket view pdu p' live' := by
  refine ⟨?_, ?_, ?_, ?_, hat⟩ <;> rw [hsession]
  exacts [talking.connection, talking.state, talking.pduLength, talking.settled]

/-- A write that starts has a progress of its own. -/
theorem Talking.restarted {pdu : UInt16} {p : Dialogue α} {live : Live W Socket}
    (talking : Talking socket view pdu p live) :
    Talking socket view pdu p { live with session := { live.session with writeProgress := {} } } :=
  ⟨talking.connection, talking.state, talking.pduLength, rfl, talking.peer⟩

/-- A request takes a reference of its own. -/
theorem Talking.numbered {pdu : UInt16} {p p' : Dialogue α} {live : Live W Socket}
    (talking : Talking socket view pdu p live) (hpeer : p = p') (reference : UInt16) :
    Talking socket view pdu p' { live with session := { live.session with nextReference := reference } } :=
  ⟨talking.connection, talking.state, talking.pduLength, talking.settled, hpeer ▸ talking.peer⟩

/-- A peer that waits for a request, with the answer it gives to one. -/
structure Answers (answer : Bytes → Dialogue α) (request : Bytes) (response : S7.Response) (pdu : UInt16)
    (p : Dialogue α) : Prop where
  fits : request.length ≤ 65528
  reply : ∃ reply, answer request = (Oracle.Peer.send ([2, 0xf0, 0x80] ++ reply) >>= fun _ => p) ∧
    S7.decodeResponse reply = .ok response ∧ reply.length ≤ pdu.toNat ∧ reply.length ≤ 65528

/-- What a client does on the world leaves its session. -/
theorem ends_world {prog : Program W β} {ok : β → W → Prop} (live : Live W Socket)
    (h : Ends prog live.world ok fun _ _ => False) :
    Ends (onWorld prog) live (fun b live' => live'.session = live.session ∧ ok b live'.world) fun _ _ => False :=
  ends_onWorld.mpr (h.mono (fun _ _ h => ⟨rfl, h⟩) fun _ _ h => h)

namespace Link
variable (link : Link native socket view start patience)
include link

theorem checks {live : Live W Socket} (hample : Ample start patience deadline) (hat : view.At live.world here) :
    Ends (ClassicS7.checkReceiveDeadline (network native) deadline) live
      (fun _ live' => live'.session = live.session ∧ view.At live'.world here) fun _ _ => False :=
  ends_world live (link.checkReceiveDeadline hample hat)

theorem budgets {live : Live W Socket} (houtlasts : Outlasts patience timeoutMs) (hat : view.At live.world here) :
    Ends (ClassicS7.receiveDeadline (network native) timeoutMs) live
      (fun deadline live' => live'.session = live.session ∧ Ample start patience deadline ∧
        view.At live'.world here) fun _ _ => False :=
  ends_world live (link.receiveDeadline houtlasts hat)

theorem exchangeBytesCurrent {answer : Bytes → Dialogue α} {p : Dialogue α} {config : ClientConfig}
    {reference : UInt16} {request reply : Bytes} {live : Live W Socket} {beforeSend : Program (Live W Socket) Unit}
    (next : Session Socket) (hample : Ample start patience deadline)
    (hoperation : Outlasts patience config.operationTimeoutMs)
    (hconnection : live.session.connection = some (connection socket))
    (hat : view.At live.world (Oracle.Peer.request >>= answer).alone) (hrequest : request.length ≤ 65528)
    (hanswer : answer request = Oracle.Peer.send ([2, 0xf0, 0x80] ++ reply) >>= fun _ => p)
    (hreference : S7.decodePduReference reply = .ok reference) (hlargest : reply.length ≤ 65528)
    (hreply : reply.length ≤ next.currentPduLength.toNat)
    (hbefore : ∀ live₁ : Live W Socket, live₁.session = live.session →
      Ends beforeSend live₁ (fun _ live₂ => live₂ = { live₁ with session := next }) fun _ _ => False) :
    Ends (ClassicS7.exchangeBytesCurrent (network native) config reference request deadline beforeSend) live
      (fun received live' => received = reply ∧ live'.session = next ∧ view.At live'.world p.alone)
      fun _ _ => False := by
  refine (link.checks hample hat).bind fun _ live₁ h₁ => ?_
  refine ends_bind.mpr (ends_getSession.mpr ?_)
  rw [h₁.1, hconnection]
  refine (hbefore live₁ h₁.1).bind ?_
  rintro _ _ rfl
  have hsent := ends_world { live₁ with session := next } (link.sendData h₁.2 hrequest)
  refine hsent.bind fun _ live₂ h₂ => ?_
  have hsession : live₂.session = next := h₂.1
  rw [hanswer] at h₂
  simp only [negotiatedPduLength, bind_assoc, pure_bind]
  refine ends_bind.mpr (ends_getSession.mpr ?_)
  refine (link.budgets hoperation h₂.2).bind fun operation live₃ h₃ => ?_
  rw [← hsession] at hreply
  have hboth := h₃.2.1.earlier hample
  refine (ends_world live₃ (link.receiveReply hboth h₃.2.2 hreply hlargest hreference)).mono
    ?_ fun _ _ h => h
  rintro received live₄ ⟨h₄, hreceived, hat'⟩
  exact ⟨hreceived, h₄.trans (h₃.1.trans hsession), hat'⟩

/-- A request that the peer answers comes back with its response, at the first attempt. -/
theorem exchangeWithRetries {answer : Bytes → Dialogue α} {p : Dialogue α} {config : ClientConfig} {pdu : UInt16}
    {request : Bytes} {response : S7.Response} {live : Live W Socket} {retries : Nat} {safety : RetrySafety}
    {onReplay beforeSend : Program (Live W Socket) Unit} {reference : UInt16} (next : Session Socket)
    (hample : Ample start patience deadline) (hoperation : Outlasts patience config.operationTimeoutMs)
    (talking : Talking socket view pdu (Oracle.Peer.request >>= answer) live)
    (answers : Answers answer request response pdu p) (hreference : response.reference = reference)
    (hlength : next.currentPduLength = pdu)
    (hbefore : ∀ live₁ : Live W Socket, live₁.session = { live.session with attempted := true } →
      Ends beforeSend live₁ (fun _ live₂ => live₂ = { live₁ with session := next }) fun _ _ => False) :
    Ends (ClassicS7.exchangeWithRetries (network native) config reference request retries false deadline
        safety onReplay beforeSend) live
      (fun received live' => received = response ∧ live'.session = next ∧ view.At live'.world p.alone)
      fun _ _ => False := by
  obtain ⟨reply, hanswer, hdecode, hreply, hlargest⟩ := answers.reply
  subst hreference
  have hround (live₁ : Live W Socket) (hsession : live₁.session = { live.session with attempted := false })
      (hat : view.At live₁.world (Oracle.Peer.request >>= answer).alone) :
      Ends (tryAttempt (network native) config (exchangeCurrent (network native) config response.reference request
          deadline do
            markAttempted
            beforeSend) deadline false) live₁
        (fun received live' => received = response ∧ live'.session = next ∧ view.At live'.world p.alone)
        fun _ _ => False := by
    refine (link.checks hample hat).bind fun _ live₂ h₂ => ?_
    refine Ends.bind (link.exchangeBytesCurrent next hample hoperation ?_ h₂.2 answers.fits hanswer
      (S7.decodePduReference_of_decodeResponse hdecode) hlargest (hlength ▸ hreply) ?_) ?_
    · rw [h₂.1, hsession]
      exact talking.connection
    · intro live₃ h₃
      refine ends_bind.mpr (ends_modifySession.mpr (hbefore _ ?_))
      dsimp only
      rw [h₃, h₂.1, hsession]
    · rintro _ live₃ ⟨rfl, h₃⟩
      rw [hdecode, orThrow_ok]
      exact ⟨rfl, h₃⟩
  refine ends_withRetries (fun _ reconnectFirst live₁ => reconnectFirst = false ∧ live₁ = live) ?_ ?_ ⟨rfl, rfl⟩
  · rintro _ _ ⟨-, rfl⟩ hidle
    exact absurd talking.state hidle
  · rintro _ _ live₁ ⟨rfl, rfl⟩ _
    refine Ends.mono (hround _ ?_ ?_) (fun _ _ h => h) fun _ _ h => h.elim
    · rfl
    · exact talking.peer

/-- A read that the peer answers leaves the client and the peer talking. -/
theorem exchangeRead {answer : Bytes → Dialogue α} {p : Dialogue α} {config : ClientConfig} {pdu reference : UInt16}
    {request : Bytes} {response : S7.Response} {live : Live W Socket} {retries : Nat}
    (hample : Ample start patience deadline) (hoperation : Outlasts patience config.operationTimeoutMs)
    (talking : Talking socket view pdu (Oracle.Peer.request >>= answer) live)
    (answers : Answers answer request response pdu p) (hreference : response.reference = reference) :
    Ends (ClassicS7.exchangeWithRetries (network native) config reference request retries false deadline .readOnly) live
      (fun received live' => received = response ∧ Talking socket view pdu p live') fun _ _ => False := by
  let next : Session Socket := { live.session with attempted := true }
  refine (link.exchangeWithRetries next hample hoperation talking answers hreference talking.pduLength
    fun live₁ (hsession : live₁.session = next) => ends_pure.mpr ?_).mono ?_ fun _ _ h => h
  · show live₁ = { live₁ with session := next }
    rw [← hsession]
  · rintro _ live' ⟨rfl, hsession, hat⟩
    refine ⟨rfl, ?_, ?_, ?_, ?_, hat⟩ <;> rw [hsession]
    exacts [talking.connection, talking.state, talking.pduLength, talking.settled]

/-- A write that the peer answers has its locations out, until their results are recorded. -/
theorem exchangeWrite {answer : Bytes → Dialogue α} {p : Dialogue α} {config : ClientConfig} {pdu reference : UInt16}
    {request : Bytes} {response : S7.Response} {live : Live W Socket} {retries : Nat} {locations : Array WriteLocation}
    (hample : Ample start patience deadline) (hoperation : Outlasts patience config.operationTimeoutMs)
    (talking : Talking socket view pdu (Oracle.Peer.request >>= answer) live)
    (answers : Answers answer request response pdu p) (hreference : response.reference = reference)
    (hlocations : locations ≠ #[]) :
    Ends (ClassicS7.exchangeWithRetries (network native) config reference request retries false deadline
        .potentiallyMutating recordReplay (recordSent locations)) live
      (fun received live' => received = response ∧ ∀ results : Array S7.WriteItemResult,
        results.size = locations.size →
          Ends (recordAcknowledged results) live' (fun _ live' => Talking socket view pdu p live') fun _ _ => False)
      fun _ _ => False := by
  let next : Session Socket := { live.session with
    attempted := true
    writeProgress := { live.session.writeProgress with pending := locations } }
  refine (link.exchangeWithRetries next hample hoperation talking answers hreference talking.pduLength
    fun live₁ (hsession : live₁.session = { live.session with attempted := true }) => ?_).mono ?_ fun _ _ h => h
  · have hsent : live₁.session.writeProgress.sent locations = .ok next.writeProgress := by
      rw [hsession]
      exact WriteProgress.sent_eq_ok.mpr ⟨talking.settled, hlocations, rfl⟩
    refine ends_bind.mpr (ends_getSession.mpr ?_)
    rw [hsent, Transport.orThrow_ok, pure_bind]
    refine ends_modifySession.mpr ?_
    rw [hsession]
  · rintro _ live' ⟨rfl, hsession, hat⟩
    refine ⟨rfl, fun results hresults => ?_⟩
    obtain ⟨settled, hsettled⟩ : ∃ settled, next.writeProgress.acknowledge results = .ok settled :=
      ⟨_, if_neg (by simpa using hresults)⟩
    refine ends_bind.mpr (ends_getSession.mpr ?_)
    rw [hsession, hsettled, Transport.orThrow_ok, pure_bind]
    refine ends_modifySession.mpr ?_
    rw [hsession]
    exact ⟨talking.connection, talking.state, talking.pduLength, WriteProgress.pending_acknowledge hsettled, hat⟩

/-! ### Saying goodbye -/

theorem disconnectTransport {peer : Dialogue α} {last : Dialogue.Served α} (parts : Parts peer last)
    (hat : view.At w peer.alone) (houtlasts : Outlasts patience timeoutMs) :
    Ends (Transport.disconnect native (connection socket) timeoutMs) w (fun _ w' => view.At w' last)
      fun _ _ => False := by
  have hencode : TPKT.encode { payload := COTP.encodeDisconnectRequest { destinationReference := 1 } } =
      .ok goodbye := rfl
  have hgoodbye : Ends (Transport.sendFrame native (connection socket).socket (COTP.encodeDisconnectRequest {
      destinationReference := (connection socket).remoteReference
      sourceReference := (connection socket).localReference })) w
      (fun _ w' => view.At w' (peer.alone.accept goodbye)) fun _ _ => False := by
    unfold Transport.sendFrame
    dsimp only [connection]
    rw [hencode, orThrow_ok, pure_bind]
    exact link.send _ hat
  refine Ends.bind (link.withTimeout houtlasts hgoodbye).unhandled fun _ w₁ h₁ => ?_
  have hshutdown := link.shutdown h₁
  rw [parts] at hshutdown
  exact link.withTimeout houtlasts hshutdown

/-- A client that disconnects leaves the session closed, and the peer hears of it. -/
theorem disconnect {peer : Dialogue α} {last : Dialogue.Served α} {config : ClientConfig} {pdu : UInt16}
    {live : Live W Socket} (hoperation : Outlasts patience config.operationTimeoutMs) (parts : Parts peer last)
    (talking : Talking socket view pdu peer live) :
    Ends (ClassicS7.disconnect (network native) config) live
      (fun _ live' => live'.session.state = .closed ∧ view.At live'.world last) fun _ _ => False := by
  have hclose : Ends (ClassicS7.closeCurrent (network native) config) live
      (fun _ live' => live'.session.state = .disconnected ∧ view.At live'.world last) fun _ _ => False := by
    unfold ClassicS7.closeCurrent
    refine ends_bind.mpr (ends_getSession.mpr (ends_bind.mpr (ends_modifySession.mpr ?_)))
    rw [talking.connection]
    refine Ends.bind (ends_world { live with session := { live.session with connection := none } }
      (link.disconnectTransport parts talking.peer hoperation)).unhandled fun _ live₁ h₁ => ?_
    refine ends_bind.mpr (ends_getSession.mpr ?_)
    rw [h₁.1, talking.state]
    exact ⟨rfl, h₁.2⟩
  refine hclose.bind fun _ live₁ h₁ => ?_
  refine ends_bind.mpr (ends_getSession.mpr ?_)
  rw [h₁.1]
  exact ⟨rfl, h₁.2⟩

end Link

end Rules

/-! ### A network with a peer in it -/

/-- A network that is a peer: what is sent arrives at once, what it has written is taken in
pieces of at most `pieces + 1` bytes, and time stands still. -/
def peered {α : Type} (pieces : Nat) : Native (Dialogue.Served α) Unit where
  monoMsNow := fun served => (0, served)
  race := fun _ operation => .completed <$> operation
  socket := pure ()
  connect := fun _ _ => pure ()
  noDelay := fun _ => pure ()
  send := fun _ data => modify fun served => served.accept data
  recv := fun _ count served =>
    (.ok (some (served.outbox.take (min count.toNat (pieces + 1)))),
      { served with outbox := served.outbox.drop (min count.toNat (pieces + 1)) })
  shutdown := fun _ => modify fun served => served.shutdown
  getAddrInfo := fun _ _ => pure []

/-- A network that is a peer is followed by what the peer is. -/
def peeredView {α : Type} : View (Dialogue.Served α) α where
  served := id
  timely _ := True

theorem peered_link {α : Type} (pieces : Nat) :
    Link (peered pieces : Native (Dialogue.Served α) Unit) () peeredView 0 1 where
  clock _ := rfl
  time _ _ := ⟨trivial, Nat.le_refl _, Nat.lt_succ_self _⟩
  race _ _ := rfl
  made hat := ⟨rfl, hat⟩
  connect _ {_ _} hat := hat
  noDelay hat := hat
  send data {w here} hat := ⟨trivial, congrArg (Dialogue.Served.accept · data) hat.2⟩
  recv served count := by
    refine ⟨?_, ?_⟩
    · show served = { served with outbox := served.outbox.take _ ++ served.outbox.drop _ }
      rw [List.take_append_drop]
    · exact Nat.le_trans (List.length_take_le _ _) (Nat.min_le_left _ _)
  recv_some served count _ hpending hcount := by
    refine ⟨?_, trivial⟩
    show served.outbox.take (min count.toNat (pieces + 1)) ≠ []
    have houtbox : 0 < served.outbox.length := List.length_pos_iff.mpr hpending
    refine List.length_pos_iff.mp ?_
    rw [List.length_take]
    omega
  shutdown hat := ⟨trivial, congrArg Dialogue.Served.shutdown hat.2⟩

-- What holds of it comes from its link; unfolding it would run whole conversations.
attribute [irreducible] peered

end ClassicS7
