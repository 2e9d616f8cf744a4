import ClassicS7.Library.Dialogue
import ClassicS7.Oracle.Correspondence
import ClassicS7.Wire.Frames
import ClassicS7.Wire.Setup

/-! The scripted peers: what they share.

A peer reads the client's packets from its socket and answers them. Each helper is a
dialogue; what it reads from and writes to the stream is said in terms of the client's
own packets (`resume_receive`, `send_eq_write`). -/
namespace ClassicS7.Oracle.Peer
open Dialogue

/-! ### The helpers -/

/-- A step that may raise. -/
def orFail {α : Type} : Except String α → Dialogue α
  | .ok a => finished a
  | .error error => failed error

def exact (size : Nat) : Dialogue Bytes :=
  read size finished fun
    | .closed, _ => failed "multi-batching client closed an incomplete frame"
    | .reset, _ => failed "[Errno 104] Connection reset by peer"

def receive : Dialogue Bytes := do
  let header ← exact 4
  if byteAt header 0 ≠ 3 ∨ byteAt header 1 ≠ 0 ∨ wordAt header 2 < 4 then failed "invalid multi-batching TPKT"
  else exact (wordAt header 2 - 4)

def send (payload : Bytes) : Dialogue Unit :=
  if payload.length + 4 > 65535 then failed "'H' format requires 0 <= number <= 65535"
  else write (pack8 3 ++ pack8 0 ++ pack16 (payload.length + 4) ++ payload) (finished ())

def request : Dialogue Bytes := do
  let frame ← receive
  if frame.take 3 ≠ [2, 0xf0, 0x80] then failed "expected multi-batching S7 request"
  else finished (frame.drop 3)

def ack (reference : Nat) (parameters : Bytes) (data : Bytes := []) : Except String Bytes :=
  if reference > 65535 ∨ parameters.length > 65535 ∨ data.length > 65535 then
    .error "'H' format requires 0 <= number <= 65535"
  else .ok (packet 3 reference parameters data)

/-- Answer a setup, which must ask for what the client asks for. -/
def answerSetup (pdu : Nat) (setup : Bytes) : Dialogue Unit :=
  if setup.drop 10 ≠ [0xf0, 0, 0, 1, 0, 1, 1, 0xe0] then failed "boundary client requested unexpected PDU"
  else if pdu > 65535 then failed "'H' format requires 0 <= number <= 65535"
  else do
    let response ← orFail (ack (fromBytes (slice setup 4 6)) (slice setup 10 16 ++ pack16 pdu))
    send ([2, 0xf0, 0x80] ++ response)

/-- Confirm the connection, and answer the setup. -/
def handshake (pdu : Nat) : Dialogue Unit := do
  let cr ← receive
  if cr.length < 6 then failed "index out of range"
  else do
    send ([0x11, 0xd0] ++ slice cr 4 6 ++ [0, 1, 0] ++ cr.drop 7)
    answerSetup pdu (← request)

/-- What a client that disconnects says at the end. -/
def expectedGoodbye : Bytes := [3, 0, 0, 0x0b, 6, 0x80, 0, 1, 0, 1, 0]

/-- Only the end of the stream before any byte, or one complete disconnect request before
it, is cleanup. A part of one is forbidden traffic, and so is a byte behind it. -/
def closed : Dialogue Unit :=
  read 1
    (fun first =>
      read 10
        (fun rest =>
          if first ++ rest ≠ expectedGoodbye then failed "boundary terminal failure allowed later IO"
          else
            read 1 (fun _ => failed "boundary terminal failure sent IO after disconnect") fun _ _ => finished ())
        fun
          | .closed, _ => failed "boundary terminal failure closed after partial traffic"
          | .reset, _ => failed "boundary terminal failure reset after partial traffic")
    fun _ _ => finished ()

/-! ### What they read and write -/

section Streams
variable {α : Type} {payload : Bytes}

/-- A packet that arrives is received. -/
theorem resume_receive (k : Bytes → Dialogue α) (rest outbox : Bytes) (ended : Option End)
    (hpayload : payload.length ≤ 65531) :
    (receive >>= k).resume (TPKT.packet payload ++ rest) outbox ended = (k payload).resume rest outbox ended := by
  let header : Bytes := [TPKT.version, 0] ++ uint16BE (UInt16.ofNat (4 + payload.length))
  have hsize : wordAt header 2 = 4 + payload.length :=
    (S7.word_uint16BE _).trans (S7.toNat_sectionSize (by rw [S7.maxSectionSize]; omega))
  have hvalid : ¬ (byteAt header 0 ≠ 3 ∨ byteAt header 1 ≠ 0 ∨ wordAt header 2 < 4) := by
    rw [hsize]
    exact fun h => h.elim (· rfl) fun h => h.elim (· rfl) fun h => by omega
  have hheader : (receive >>= k).resume (header ++ (payload ++ rest)) outbox ended =
      (exact (4 + payload.length - 4) >>= k).resume (payload ++ rest) outbox ended := by
    refine (resume_read (show header.length = 4 from rfl)).trans ?_
    change Dialogue.resume ((if _ then _ else _) >>= k) _ _ _ = _
    rw [if_neg hvalid, hsize]
  rw [TPKT.packet, List.append_assoc]
  refine hheader.trans (resume_read ?_)
  omega

/-- A goodbye and the end of the stream are cleanup. -/
theorem closed_goodbye (p : Dialogue α) :
    (closed >>= fun _ => p).resume expectedGoodbye [] (some .closed) = p.resume [] [] (some .closed) := rfl

/-- What is sent is a packet of the client's format. -/
theorem send_eq_write (hpayload : payload.length ≤ 65531) :
    send payload = write (TPKT.packet payload) (finished ()) := by
  rw [send, if_neg (by omega), TPKT.packet, uint16BE_ofNat _ (by omega), Nat.add_comm 4]
  rfl

/-- What acknowledges is a response in the client's format. -/
theorem ack_eq_ok (reference : UInt16) {parameters data : Bytes} (hparameters : parameters.length ≤ 65535)
    (hdata : data.length ≤ 65535) :
    ack reference.toNat parameters data = .ok (S7.ackDataBytes reference parameters data) := by
  have hreference := reference.toNat_lt
  rw [ack, if_neg (by omega), S7.ackDataBytes, uint16BE_ofNat _ hparameters, uint16BE_ofNat _ hdata]
  rfl

/-- A setup of the client is granted its PDU length. -/
theorem answerSetup_eq_send {pdu : UInt16} {setup : Bytes} (hsetup : S7.encodeSetupCommunication 1 = .ok setup) :
    answerSetup pdu.toNat setup =
      send ([2, 0xf0, 0x80] ++ S7.ackDataBytes 1 (S7.SetupCommunication.parameters ⟨1, 1, pdu⟩) []) := by
  have hpdu := pdu.toNat_lt
  cases hsetup
  have hack : ack 1 (S7.SetupCommunication.parameters ⟨1, 1, pdu⟩) =
      .ok (S7.ackDataBytes 1 (S7.SetupCommunication.parameters ⟨1, 1, pdu⟩) []) :=
    ack_eq_ok 1 (by simp [S7.SetupCommunication.parameters]) (Nat.zero_le _)
  change (if _ then _ else if _ then _ else _) = _
  rw [if_neg (by decide), if_neg (by omega)]
  change (orFail (ack 1 (S7.SetupCommunication.parameters ⟨1, 1, pdu⟩)) >>= _) = _
  rw [hack]
  rfl

end Streams

end ClassicS7.Oracle.Peer
