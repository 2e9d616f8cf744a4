import ClassicS7.Client.Session

/-! Exchanges: one request, its reply, and its retries.

An exchange sends its request on the connection and receives until a reply carries the
reference that is awaited; a few stale replies may be skipped. A failed exchange closes
the transport, and is retried on a fresh connection as long as the policy lets it. The
rules of this module (`ends_exchangeBytesCurrent`, `ends_withRetries`) say what a program
built from an exchange may assume about it. -/
namespace ClassicS7
open Effect

/-! ### Correlation -/

namespace Correlation

/-- The one request whose reply is awaited, and how many other replies may be skipped. -/
structure Waiting where
  expected : UInt16
  staleAllowance : Nat
  deriving Repr, DecidableEq

def Waiting.start (expected : UInt16) (maxStale : Nat) : Waiting :=
  { expected, staleAllowance := maxStale }

inductive Outcome where
  | deliver
  | skipStale (next : Waiting)
  | tooManyStale
  deriving Repr, DecidableEq

def step (waiting : Waiting) (incoming : UInt16) : Outcome :=
  if incoming == waiting.expected then .deliver
  else if waiting.staleAllowance == 0 then .tooManyStale
  else .skipStale { waiting with staleAllowance := waiting.staleAllowance - 1 }

theorem step_cases (waiting : Waiting) (incoming : UInt16) :
    (step waiting incoming = .deliver ∧ incoming = waiting.expected) ∨
      (∃ next, step waiting incoming = .skipStale next ∧ next.expected = waiting.expected) ∨
      step waiting incoming = .tooManyStale := by
  unfold step
  by_cases hexpected : incoming = waiting.expected
  · exact .inl ⟨if_pos (beq_iff_eq.mpr hexpected), hexpected⟩
  · rw [if_neg (by simpa using hexpected)]
    split
    · exact .inr (.inr rfl)
    · exact .inr (.inl ⟨_, rfl, rfl⟩)

end Correlation

/-! ### Programs -/

section Programs
variable {W Socket α : Type} (network : Network W Socket) (config : ClientConfig)

/-- Receive until a reply is the awaited one, for so many rounds. -/
def receiveReply (socket : Socket) (deadline : Option Nat) (pduLength : UInt16) (reference : UInt16) :
    Nat → Correlation.Waiting → Program W Bytes
  | 0, _ => throw (ClientError.protocol s!"too many stale S7 responses while waiting for reference {reference}")
  | rounds + 1, waiting => do
    let response ← network.receiveDataUntil socket deadline pduLength.toNat
    match Correlation.step waiting (← Transport.orThrow (S7.decodePduReference response)) with
    | .deliver => return response
    | .skipStale next => receiveReply socket deadline pduLength reference rounds next
    | .tooManyStale =>
      throw (ClientError.protocol s!"too many stale S7 responses while waiting for reference {reference}")

def exchangeBytesCurrent (reference : UInt16) (request : Bytes) (transferDeadline : Option Nat := none)
    (beforeSend : Program (Live W Socket) Unit := pure ()) : Program (Live W Socket) Bytes := do
  checkReceiveDeadline network transferDeadline
  match (← getSession).connection with
  | none => throw (ClientError.disconnected "S7 client is disconnected")
  | some connection =>
    beforeSend
    onWorld (network.sendData connection.socket request)
    let pduLength ← negotiatedPduLength
    let deadline := Transport.earlierReceiveDeadline
      (← receiveDeadline network config.operationTimeoutMs) transferDeadline
    onWorld (receiveReply network connection.socket deadline pduLength reference (config.maxStaleResponses + 1)
      (.start reference config.maxStaleResponses))

def exchangeCurrent (reference : UInt16) (request : Bytes) (transferDeadline : Option Nat := none)
    (beforeSend : Program (Live W Socket) Unit := pure ()) : Program (Live W Socket) S7.Response := do
  Transport.orThrow (S7.decodeResponse
    (← exchangeBytesCurrent network config reference request transferDeadline beforeSend))

theorem retryBudgetAfter_lt {remaining next : Nat} {closed : Bool} {kind : ClientErrorKind}
    {safety : RetrySafety} {allow : Bool} (h : retryBudgetAfter remaining closed kind safety allow = some next) :
    next < remaining := by
  rw [retryBudgetAfter_eq] at h
  split at h
  · rename_i eligible
    have hpositive := eligible.2.1
    cases h
    omega
  · cases h

/-- One round of an exchange: a retry reconnects first. -/
def tryAttempt (attempt : Program (Live W Socket) α) (transferDeadline : Option Nat) (reconnectFirst : Bool) :
    Program (Live W Socket) α := do
  checkReceiveDeadline network transferDeadline
  if reconnectFirst then reconnect network config
  attempt

/-- Only a failure of an operation that was already running is retried; a fresh request
does not bring a session back. -/
def withRetries (attempt : Program (Live W Socket) α) (transferDeadline : Option Nat) (safety : RetrySafety)
    (onReplay : Program (Live W Socket) Unit) (remainingRetries : Nat) (reconnectFirst : Bool) :
    Program (Live W Socket) α := do
  if reconnectFirst || (← isConnected) then
    modifySession fun session => { session with attempted := false }
    tryCatch (tryAttempt network config attempt transferDeadline reconnectFirst) fun error => do
      closeCurrent network config
      let session ← getSession
      match _hbudget : retryBudgetAfter remainingRetries (session.state == .closed) (classifyClientError error)
          safety config.allowPotentiallyMutatingRetries with
      | none => throw error
      | some nextRetries =>
        if session.attempted then onReplay
        withRetries attempt transferDeadline safety onReplay nextRetries true
  else
    throw (ClientError.disconnected "S7 client is disconnected")
termination_by remainingRetries
decreasing_by all_goals exact retryBudgetAfter_lt _hbudget

/-- The request is about to go out, whatever becomes of it. -/
def markAttempted : Program (Live W Socket) Unit :=
  modifySession fun session => { session with attempted := true }

def exchangeWithRetries (reference : UInt16) (request : Bytes) (remainingRetries : Nat)
    (reconnectFirst : Bool := false) (transferDeadline : Option Nat := none)
    (safety : RetrySafety := .potentiallyMutating) (onReplay : Program (Live W Socket) Unit := pure ())
    (beforeSend : Program (Live W Socket) Unit := pure ()) : Program (Live W Socket) S7.Response :=
  withRetries network config
    (exchangeCurrent network config reference request transferDeadline do
      markAttempted
      beforeSend)
    transferDeadline safety onReplay remainingRetries reconnectFirst

def exchangeBytesWithRetries (reference : UInt16) (request : Bytes) (remainingRetries : Nat)
    (reconnectFirst : Bool := false) (transferDeadline : Option Nat := none)
    (safety : RetrySafety := .potentiallyMutating) : Program (Live W Socket) Bytes :=
  withRetries network config (exchangeBytesCurrent network config reference request transferDeadline)
    transferDeadline safety (pure ()) remainingRetries reconnectFirst

end Programs

/-! ### Rules -/

/-- What the operations of a network do to an observation of the requests sent on it: a send
adds to it, whether or not it succeeds, and nothing else changes it. -/
structure Network.Observed {W Socket ι : Type} (network : Network W Socket) (sent : W → List ι)
    (line : Bytes → List ι) : Prop where
  clock : ∀ w, sent (network.monoMsNow w).2 = sent w
  connectUntil : ∀ endpoint port request deadline, Leaves sent (network.connectUntil endpoint port request deadline)
  sendData : ∀ socket data w, Ends (network.sendData socket data) w
    (fun _ w' => sent w' = sent w ++ line data) fun _ w' => sent w' = sent w ++ line data
  sendDataUntil : ∀ socket data deadline, Leaves sent (network.sendDataUntil socket data deadline)
  receiveDataUntil : ∀ socket deadline limit, Leaves sent (network.receiveDataUntil socket deadline limit)
  disconnect : ∀ connection timeout, Leaves sent (network.disconnect connection timeout)
  shutdown : ∀ socket, Leaves sent (network.shutdown socket)

section Rules
variable {W Socket α ι : Type} {network : Network W Socket} {config : ClientConfig} {sent : W → List ι}
  {line : Bytes → List ι}

/-- Every network can be left unobserved. -/
theorem Network.unobserved (network : Network W Socket) :
    network.Observed (fun _ => ([] : List Unit)) fun _ => [] where
  clock _ := rfl
  connectUntil _ _ _ _ := leaves_iff.mpr fun _ => ends_of_forall (fun _ _ => rfl) fun _ _ => rfl
  sendData _ _ _ := ends_of_forall (fun _ _ => rfl) fun _ _ => rfl
  sendDataUntil _ _ _ := leaves_iff.mpr fun _ => ends_of_forall (fun _ _ => rfl) fun _ _ => rfl
  receiveDataUntil _ _ _ := leaves_iff.mpr fun _ => ends_of_forall (fun _ _ => rfl) fun _ _ => rfl
  disconnect _ _ := leaves_iff.mpr fun _ => ends_of_forall (fun _ _ => rfl) fun _ _ => rfl
  shutdown _ := leaves_iff.mpr fun _ => ends_of_forall (fun _ _ => rfl) fun _ _ => rfl

namespace Network.Observed
variable (observed : network.Observed sent line)
include observed

theorem ticks {w w' : W} (h : network.Ticks w w') : sent w' = sent w := by
  induction h with
  | refl => rfl
  | read _ ih => rw [observed.clock, ih]

theorem leaves_receiveDeadline (timeoutMs : Option Nat) :
    Leaves sent (Transport.receiveDeadline network.monoMsNow timeoutMs) :=
  leaves_iff.mpr fun w => (ticks_receiveDeadline timeoutMs w).mono (fun _ _ => observed.ticks)
    fun _ _ => observed.ticks

end Network.Observed

/-- A reply that is returned carries the awaited reference. -/
theorem ends_receiveReply (observed : network.Observed sent line) {socket : Socket} {deadline : Option Nat}
    {pduLength reference : UInt16} (rounds : Nat) (waiting : Correlation.Waiting) (w : W) :
    Ends (receiveReply network socket deadline pduLength reference rounds waiting) w
      (fun reply w' => S7.decodePduReference reply = .ok waiting.expected ∧ sent w' = sent w)
      fun _ w' => sent w' = sent w := by
  induction rounds generalizing waiting w with
  | zero => exact ends_throw.mpr rfl
  | succ rounds ih =>
    refine ends_bind.mpr (((observed.receiveDataUntil socket deadline _).ends w).mono ?_ fun _ _ h => h)
    intro response w' hw'
    cases hreference : S7.decodePduReference response with
    | error error => exact ends_throw.mpr hw'
    | ok incoming =>
      refine ends_bind.mpr (ends_pure.mpr ?_)
      obtain ⟨hstep, rfl⟩ | ⟨next, hstep, hexpected⟩ | hstep := Correlation.step_cases waiting incoming
      · rw [hstep]
        exact ends_pure.mpr ⟨hreference, hw'⟩
      · rw [hstep]
        exact (ih next w').mono (fun _ _ h => ⟨hexpected ▸ h.1, h.2.trans hw'⟩) fun _ _ h => h.trans hw'
      · rw [hstep]
        exact ends_throw.mpr hw'

/-- What an exchange on an open connection ends with. `beforeSend` runs on the session as it
is, once the request is about to go out; after it, only the world changes. -/
theorem ends_exchangeBytesCurrent (observed : network.Observed sent line) {live : Live W Socket}
    {connection : Transport.Connection Socket} {reference : UInt16} {request : Bytes}
    {transferDeadline : Option Nat} {beforeSend : Program (Live W Socket) Unit}
    {ok : Bytes → Live W Socket → Prop} {error : RuntimeError → Live W Socket → Prop}
    (hconnection : live.session.connection = some connection)
    (hearly : ∀ e w, sent w = sent live.world → error e { live with world := w })
    (hbefore : ∀ w, sent w = sent live.world → Ends beforeSend { live with world := w }
      (fun _ live' => ∀ w', sent w' = sent live'.world ++ line request →
        (∀ e, error e { live' with world := w' }) ∧
          ∀ reply, S7.decodePduReference reply = .ok reference → ok reply { live' with world := w' }) error) :
    Ends (exchangeBytesCurrent network config reference request transferDeadline beforeSend) live ok error := by
  refine ends_bind.mpr (ends_onWorld.mpr ?_)
  refine (ticks_checkReceiveDeadline transferDeadline live.world).mono ?_ ?_
  · intro _ w hticks
    simp only [ends_bind, ends_getSession]
    rw [hconnection]
    refine ends_bind.mpr ((hbefore w (observed.ticks hticks)).mono (fun _ live₁ hsent => ?_) fun _ _ h => h)
    refine ends_bind.mpr (ends_onWorld.mpr ((observed.sendData _ request live₁.world).mono ?_ ?_))
    · intro _ w₁ hw₁
      simp only [negotiatedPduLength, bind_assoc, pure_bind, ends_bind, ends_getSession]
      refine ends_onWorld.mpr (((observed.leaves_receiveDeadline config.operationTimeoutMs).ends w₁).mono ?_ ?_)
      · intro deadline w₂ hw₂
        refine ends_onWorld.mpr ((ends_receiveReply observed _ _ w₂).mono ?_ ?_)
        · exact fun reply w₃ h => (hsent w₃ (h.2.trans (hw₂.trans hw₁))).2 reply h.1
        · exact fun e w₃ h => (hsent w₃ (h.trans (hw₂.trans hw₁))).1 e
      · exact fun e w₂ hw₂ => (hsent w₂ (hw₂.trans hw₁)).1 e
    · exact fun e w₁ hw₁ => (hsent w₁ hw₁).1 e
  · exact fun e w hticks => hearly e w (observed.ticks hticks)

/-- The rule of the retry loop. Each round ends well, or fails, closes the transport, and
then ends for good or starts another round with one retry less, as the policy decides. -/
theorem ends_withRetries {attempt : Program (Live W Socket) α} {transferDeadline : Option Nat}
    {safety : RetrySafety} {onReplay : Program (Live W Socket) Unit} {ok : α → Live W Socket → Prop}
    {error : RuntimeError → Live W Socket → Prop} (pre : Nat → Bool → Live W Socket → Prop)
    (hidle : ∀ remaining live, pre remaining false live → live.session.state ≠ .connected →
      error (ClientError.disconnected "S7 client is disconnected") live)
    (hround : ∀ remaining reconnectFirst live, pre remaining reconnectFirst live →
      (reconnectFirst = false → live.session.state = .connected) →
      Ends (tryAttempt network config attempt transferDeadline reconnectFirst)
        { live with session := { live.session with attempted := false } } ok
        fun e live₁ => Ends (closeCurrent network config) live₁
          (fun _ live₂ => error e live₂ ∧ (0 < remaining → live₂.session.state ≠ .closed →
            retryPermitted safety config.allowPotentiallyMutatingRetries = true →
            if live₂.session.attempted then Ends onReplay live₂ (fun _ live₃ => pre (remaining - 1) true live₃) error
            else pre (remaining - 1) true live₂)) fun _ _ => False)
    {live : Live W Socket} {remaining : Nat} {reconnectFirst : Bool} (hpre : pre remaining reconnectFirst live) :
    Ends (withRetries network config attempt transferDeadline safety onReplay remaining reconnectFirst) live
      ok error := by
  induction remaining using Nat.strongRecOn generalizing live reconnectFirst with
  | ind remaining ih =>
    rw [withRetries]
    simp only [isConnected, bind_assoc, pure_bind, ends_bind, ends_getSession]
    split
    · rename_i hrun
      refine ends_bind.mpr (ends_modifySession.mpr (ends_tryCatch.mpr ?_))
      refine (hround remaining reconnectFirst live hpre ?_).mono (fun _ _ h => h) fun e live₁ hfailed => ?_
      · intro hfirst
        simpa [hfirst] using hrun
      refine ends_bind.mpr (hfailed.mono (fun _ live₂ h => ?_) fun _ _ h => h.elim)
      obtain ⟨herror, hnext⟩ := h
      refine ends_bind.mpr (ends_getSession.mpr ?_)
      split
      · exact ends_throw.mpr herror
      · rename_i next hbudget
        have hlt := retryBudgetAfter_lt hbudget
        rw [retryBudgetAfter_eq] at hbudget
        split at hbudget
        · rename_i eligible
          cases hbudget
          have hagain {live' : Live W Socket} (h : pre (remaining - 1) true live') := ih (remaining - 1) hlt h
          have hnext := hnext eligible.2.1 (by simpa using eligible.1) eligible.2.2.2
          split at hnext
          · rename_i hattempted
            rw [if_pos hattempted]
            exact ends_bind.mpr (hnext.mono (fun _ _ h => hagain h) fun _ _ h => h)
          · rename_i hattempted
            rw [if_neg hattempted]
            exact hagain hnext
        · cases hbudget
    · rename_i hstop
      have hfirst : reconnectFirst = false ∧ live.session.state ≠ .connected := by simpa using hstop
      refine ends_throw.mpr (hidle remaining live (hfirst.1 ▸ hpre) hfirst.2)

/-! ### Exchanges are orderly -/

/-- Everything of a live session but its write progress. -/
def Live.frame (live : Live W Socket) : Session Socket × W :=
  ({ live.session with writeProgress := {}, attempted := false }, live.world)

theorem leaves_modifySession {f : Session Socket → Session Socket}
    (hf : ∀ session, { f session with writeProgress := {}, attempted := false } =
      { session with writeProgress := {}, attempted := false }) :
    Leaves Live.frame (modifySession f : Program (Live W Socket) Unit) :=
  leaves_iff.mpr fun live => ends_modifySession.mpr (congrArg (·, live.world) (hf live.session))

theorem leaves_markAttempted : Leaves Live.frame (markAttempted : Program (Live W Socket) Unit) :=
  leaves_modifySession fun _ => rfl

theorem next_of_frame {live live' : Live W Socket} (h : live'.frame = live.frame) (hlive : live.session.Sound) :
    (orderly network).Next live live' := by
  have hconnection : live'.session.connection = live.session.connection := congrArg (·.1.connection) h
  have hstate : live'.session.state = live.session.state := congrArg (·.1.state) h
  have hlength : live'.session.currentPduLength = live.session.currentPduLength :=
    congrArg (·.1.currentPduLength) h
  have hworld : live'.world = live.world := congrArg Prod.snd h
  refine ⟨⟨?_, ?_⟩, ?_, ?_, ?_⟩
  · rw [hstate, hconnection]
    exact hlive.connected
  · rw [hlength]
    exact hlive.minimum
  · rw [hstate]
    exact id
  · rw [hlength]
    exact UInt16.le_refl _
  · rw [hstate, hworld]
    exact fun h => ⟨h, .refl _⟩

/-- A session that is connected may be used in any way, as long as it stays sound. -/
theorem next_of_connected {live live' : Live W Socket} (hconnected : live.session.state = .connected)
    (hsound : live'.session.Sound) (hlength : live.session.currentPduLength ≤ live'.session.currentPduLength) :
    (orderly network).Next live live' :=
  ⟨hsound, fun h => by simp [hconnected] at h, hlength, fun h => absurd hconnected h⟩

/-- An attempt on a connected session, as the retry loop needs it. -/
def Attempts (network : Network W Socket) (attempt : Program (Live W Socket) α) (post : α → Prop) : Prop :=
  ∀ live, live.session.Sound → live.session.state = .connected → Ends attempt live
    (fun a live' => (orderly network).Next live live' ∧ live'.session.state = .connected ∧ post a)
    fun _ live' => (orderly network).Next live live'

/-- Where a round of an exchange starts that began at `live`: there, or, once a round has
failed, on a session whose transport has been closed. -/
def RoundStart (network : Network W Socket) (live : Live W Socket) : Bool → Live W Socket → Prop
  | false, live' => live' = live
  | true, live' =>
    live.session.state = .connected ∧ (orderly network).Next live live' ∧ live'.session.state = .disconnected

/-- After a failed round the session is not connected, and another round may start. -/
theorem ends_failedRound (safety : RetrySafety) {onReplay : Program (Live W Socket) Unit}
    (hreplay : Leaves Live.frame onReplay) {live live₁ : Live W Socket}
    (hconnected : live.session.state = .connected) (hnext : (orderly network).Next live live₁) :
    Ends (closeCurrent network config) live₁
      (fun _ live₂ => ((orderly network).Next live live₂ ∧ live₂.session.state ≠ .connected) ∧
        (live₂.session.state ≠ .closed →
          retryPermitted safety config.allowPotentiallyMutatingRetries = true →
          if live₂.session.attempted then Ends onReplay live₂ (fun _ live₃ => RoundStart network live true live₃)
            fun _ live₃ => (orderly network).Next live live₃ ∧ live₃.session.state ≠ .connected
          else RoundStart network live true live₂)) fun _ _ => False := by
  refine ((keeps_closeCurrent live₁ hnext.1).and (ends_closeCurrent live₁)).mono ?_ fun _ _ h => h.2
  rintro _ live₂ ⟨hclosed, hshut, -⟩
  have hnext := hnext.trans hclosed
  have hstate : live₂.session.state ≠ .connected := hshut ▸ state_shut_ne
  refine ⟨⟨hnext, hstate⟩, fun hopen _ => ?_⟩
  have hdisconnected : live₂.session.state = .disconnected := by
    cases h : live₂.session.state with
    | connected => exact absurd h hstate
    | disconnected => rfl
    | closed => exact absurd h hopen
  split
  · refine (hreplay.ends live₂).mono (fun _ live₃ h => ?_) fun _ live₃ h => ?_
    all_goals
      have hstate' : live₃.session.state = live₂.session.state := congrArg (·.1.state) h
      have hnext' : (orderly network).Next live live₃ := hnext.trans (next_of_frame h hnext.1)
    · exact ⟨hconnected, hnext', hstate'.trans hdisconnected⟩
    · exact ⟨hnext', fun h => hstate (hstate' ▸ h)⟩
  · exact ⟨hconnected, hnext, hdisconnected⟩

/-- A round runs the attempt on a connected session, or does not come to it. -/
theorem ends_tryAttempt {attempt : Program (Live W Socket) α} {transferDeadline : Option Nat} {post : α → Prop}
    (hattempt : Attempts network attempt post) {reconnectFirst : Bool} {live live₀ : Live W Socket}
    (hlive : live.session.Sound) (hstart : RoundStart network live reconnectFirst live₀)
    (hfirst : reconnectFirst = false → live₀.session.state = .connected) :
    Ends (tryAttempt network config attempt transferDeadline reconnectFirst)
      { live₀ with session := { live₀.session with attempted := false } }
      (fun a live' => (orderly network).Next live live' ∧ live'.session.state = .connected ∧ post a)
      fun _ live' => live.session.state = .connected ∧ (orderly network).Next live live' := by
  obtain ⟨hconnected, hsound, hlength⟩ : live.session.state = .connected ∧ live₀.session.Sound ∧
      live.session.currentPduLength ≤ live₀.session.currentPduLength := by
    cases reconnectFirst with
    | false =>
      obtain rfl : live₀ = live := hstart
      exact ⟨hfirst rfl, hlive, UInt16.le_refl _⟩
    | true => exact ⟨hstart.1, hstart.2.1.1, hstart.2.1.2.pduLength⟩
  have hrun (live₁ : Live W Socket) (hsound : live₁.session.Sound) (hstate : live₁.session.state = .connected)
      (hlength : live.session.currentPduLength ≤ live₁.session.currentPduLength) :
      Ends attempt live₁
        (fun a live' => (orderly network).Next live live' ∧ live'.session.state = .connected ∧ post a)
        fun _ live' => live.session.state = .connected ∧ (orderly network).Next live live' := by
    have hnext : (orderly network).Next live live₁ := next_of_connected hconnected hsound hlength
    exact (hattempt live₁ hsound hstate).mono (fun _ _ h => ⟨hnext.trans h.1, h.2⟩)
      fun _ _ h => ⟨hconnected, hnext.trans h⟩
  refine ends_bind.mpr (ends_onWorld.mpr ?_)
  refine ends_of_forall (fun _ w => ?_) fun _ w =>
    ⟨hconnected, next_of_connected hconnected ⟨hsound.connected, hsound.minimum⟩ hlength⟩
  cases reconnectFirst with
  | false => exact hrun _ ⟨hsound.connected, hsound.minimum⟩ (hfirst rfl) hlength
  | true =>
    refine ends_bind.mpr (Ends.mono (ends_reconnect hstart.2.2) ?_ ?_)
    · rintro _ live₁ ⟨connection, pduLength, hsession, hlength₁, hminimum⟩
      refine hrun live₁ (hsession ▸ Session.sound_reopened hminimum) (hsession ▸ rfl) ?_
      rw [hsession]
      exact UInt16.le_trans hlength hlength₁
    · rintro _ live₁ hsession
      refine ⟨hconnected, next_of_connected hconnected (hsession ▸ .shut hsound.minimum) ?_⟩
      rw [hsession]
      exact hlength

/-- An exchange with retries leaves the session connected with a result, or not connected
with an error. -/
theorem ends_withRetries_orderly {attempt : Program (Live W Socket) α} {transferDeadline : Option Nat}
    {safety : RetrySafety} {onReplay : Program (Live W Socket) Unit} {post : α → Prop}
    (hattempt : Attempts network attempt post) (hreplay : Leaves Live.frame onReplay) (remaining : Nat)
    {live : Live W Socket} (hlive : live.session.Sound) :
    Ends (withRetries network config attempt transferDeadline safety onReplay remaining false) live
      (fun a live' => (orderly network).Next live live' ∧ live'.session.state = .connected ∧ post a)
      fun _ live' => (orderly network).Next live live' ∧ live'.session.state ≠ .connected := by
  refine ends_withRetries (fun _ => RoundStart network live) ?_ ?_ rfl
  · rintro _ _ rfl hstate
    exact ⟨.refl hlive, hstate⟩
  · intro _ reconnectFirst live₀ hstart hfirst
    refine (ends_tryAttempt hattempt hlive hstart hfirst).mono (fun _ _ h => h) fun _ _ h => ?_
    exact (ends_failedRound safety hreplay h.1 h.2).mono (fun _ _ h => ⟨h.1, fun _ => h.2⟩) fun _ _ h => h

theorem attempts_exchangeBytesCurrent {reference : UInt16} {request : Bytes} {transferDeadline : Option Nat}
    {beforeSend : Program (Live W Socket) Unit} (hbefore : Leaves Live.frame beforeSend) :
    Attempts network (exchangeBytesCurrent network config reference request transferDeadline beforeSend)
      fun reply => S7.decodePduReference reply = .ok reference := by
  intro live hsound hconnected
  obtain ⟨connection, hconnection⟩ := Option.isSome_iff_exists.mp (hsound.connected.mp hconnected)
  -- A live session with the frame of this one, in any world, may come next.
  have hnext (live₁ : Live W Socket) (w w' : W) (hframe : live₁.frame = { live with world := w }.frame) :
      (orderly network).Next live { live₁ with world := w' } ∧ live₁.session.state = .connected := by
    have hsame : (orderly network).Next { live with world := w } live₁ := next_of_frame hframe hsound
    have hstate : live₁.session.state = live.session.state := congrArg (·.1.state) hframe
    exact ⟨next_of_connected hconnected ⟨hsame.1.connected, hsame.1.minimum⟩ hsame.2.pduLength,
      hstate.trans hconnected⟩
  refine ends_exchangeBytesCurrent network.unobserved hconnection ?_ fun w _ => ?_
  · exact fun _ w _ => (hnext { live with world := w } w w rfl).1
  · refine (hbefore.ends { live with world := w }).mono (fun _ live₁ hframe w' _ => ?_) fun _ live₁ hframe => ?_
    · obtain ⟨hnext, hstate⟩ := hnext live₁ w w' hframe
      exact ⟨fun _ => hnext, fun _ hreply => ⟨hnext, hstate, hreply⟩⟩
    · exact (hnext live₁ w live₁.world hframe).1

theorem attempts_exchangeCurrent {reference : UInt16} {request : Bytes} {transferDeadline : Option Nat}
    {beforeSend : Program (Live W Socket) Unit} (hbefore : Leaves Live.frame beforeSend) :
    Attempts network (exchangeCurrent network config reference request transferDeadline beforeSend)
      fun response => response.reference = reference := by
  intro live hsound hconnected
  refine ends_bind.mpr ((attempts_exchangeBytesCurrent hbefore live hsound hconnected).mono ?_ fun _ _ h => h)
  rintro reply live₁ ⟨hnext, hstate, hreference⟩
  cases hdecode : S7.decodeResponse reply with
  | error error => exact ends_throw.mpr hnext
  | ok response =>
    rw [S7.decodePduReference_of_decodeResponse hdecode] at hreference
    exact ends_pure.mpr ⟨hnext, hstate, Except.ok.inj hreference⟩

theorem ends_exchangeWithRetries {reference : UInt16} {request : Bytes} {remaining : Nat}
    {transferDeadline : Option Nat} {safety : RetrySafety} {onReplay beforeSend : Program (Live W Socket) Unit}
    (hreplay : Leaves Live.frame onReplay) (hbefore : Leaves Live.frame beforeSend) {live : Live W Socket}
    (hlive : live.session.Sound) :
    Ends (exchangeWithRetries network config reference request remaining false transferDeadline safety onReplay
      beforeSend) live
      (fun response live' => (orderly network).Next live live' ∧ live'.session.state = .connected ∧
        response.reference = reference)
      fun _ live' => (orderly network).Next live live' ∧ live'.session.state ≠ .connected := by
  have hhook : Leaves Live.frame (markAttempted >>= fun _ => beforeSend) :=
    leaves_markAttempted.bind fun _ => hbefore
  exact ends_withRetries_orderly (attempts_exchangeCurrent hhook) hreplay remaining hlive

theorem ends_exchangeBytesWithRetries {reference : UInt16} {request : Bytes} {remaining : Nat}
    {transferDeadline : Option Nat} {safety : RetrySafety} {live : Live W Socket} (hlive : live.session.Sound) :
    Ends (exchangeBytesWithRetries network config reference request remaining false transferDeadline safety) live
      (fun reply live' => (orderly network).Next live live' ∧ live'.session.state = .connected ∧
        S7.decodePduReference reply = .ok reference)
      fun _ live' => (orderly network).Next live live' ∧ live'.session.state ≠ .connected :=
  ends_withRetries_orderly (attempts_exchangeBytesCurrent (Discipline.keeps_pure _)) (Discipline.keeps_pure _)
    remaining hlive

end Rules

end ClassicS7
