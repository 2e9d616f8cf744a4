import Mathlib.Data.List.Chain
import ClassicS7.Client.Calls

/-! Write logs: the requests of a write, beside what is recorded of them.

A log holds each request that went out, with the attempts that were recorded for it. The
progress of the session and the requests that the network has seen are both read off the
log (`Logged`); an exchange adds to it what it sends (`ends_writeExchange`), and a log of
a write goes over what was asked for in order (`Stretch`). -/
namespace ClassicS7
open Effect Discipline

/-! ### Logs -/

/-- A request that went out, with what was recorded for it. -/
structure Sending where
  attempts : List WriteAttempt
  request : Bytes

/-- The same outcome for a whole batch. -/
def attemptsAt (locations : Array WriteLocation) (outcome : WriteAttemptOutcome) : List WriteAttempt :=
  locations.toList.map fun location => { location, outcome }

/-- A batch that is out, if there is one: its locations and its request. -/
abbrev Out := Option (Array WriteLocation × Bytes)

def Out.sendings (out : Out) (outcome : WriteAttemptOutcome) : List Sending :=
  out.toList.map fun batch => ⟨attemptsAt batch.1 outcome, batch.2⟩

section Logs
variable {W Socket : Type} {sent : W → List Bytes} {live live' live'' : Live W Socket}
  {log log' : List Sending} {out : Out}

/-- From `live` to `live'` the sendings of the log went out and were settled, and then `out`
went out, of which nothing is known. -/
structure Logged (sent : W → List Bytes) (live live' : Live W Socket) (log : List Sending) (out : Out) : Prop where
  history : live'.session.writeProgress.history.reverse =
    live.session.writeProgress.history.reverse ++ log.flatMap (·.attempts)
  pending : live'.session.writeProgress.pending = out.elim #[] Prod.fst
  sent : sent live'.world = sent live.world ++ log.map (·.request) ++ out.toList.map Prod.snd

/-- The parts of a live session that a log is about. -/
def Live.account (sent : W → List Bytes) (live : Live W Socket) : WriteProgress.State × Bool × List Bytes :=
  (live.session.writeProgress, live.session.attempted, sent live.world)

theorem Logged.start (h : live.session.writeProgress.pending = #[]) : Logged sent live live [] none :=
  ⟨by simp, h, by simp⟩

theorem Logged.trans (h : Logged sent live live' log none) (h' : Logged sent live' live'' log' out) :
    Logged sent live live'' (log ++ log') out where
  history := by rw [h'.history, h.history, List.flatMap_append, List.append_assoc]
  pending := h'.pending
  sent := by
    rw [h'.sent, h.sent]
    simp [List.append_assoc]

/-- What leaves the progress and the requests leaves the log. -/
theorem Logged.of_account (h : Logged sent live live' log out)
    (hprogress : live''.session.writeProgress = live'.session.writeProgress)
    (hsent : sent live''.world = sent live'.world) : Logged sent live live'' log out where
  history := hprogress ▸ h.history
  pending := hprogress ▸ h.pending
  sent := hsent ▸ h.sent

/-- A batch goes out: it is recorded, and its request is sent. -/
theorem Logged.send (h : Logged sent live live' log none) {locations : Array WriteLocation} {request : Bytes}
    (hprogress : live''.session.writeProgress = { live'.session.writeProgress with pending := locations })
    (hsent : sent live''.world = sent live'.world ++ [request]) :
    Logged sent live live'' log (some (locations, request)) where
  history := by rw [hprogress]; exact h.history
  pending := by rw [hprogress]; rfl
  sent := by
    rw [hsent, h.sent]
    simp

/-- The batch that is out is settled with one outcome. -/
theorem Logged.finish (h : Logged sent live live' log out) {outcome : WriteAttemptOutcome}
    (hprogress : live''.session.writeProgress = live'.session.writeProgress.finish outcome)
    (hsent : sent live''.world = sent live'.world) :
    Logged sent live live'' (log ++ out.sendings outcome) none where
  history := by
    rw [hprogress, WriteProgress.State.finish, List.reverse_append, h.history, List.reverse_reverse, h.pending]
    cases out <;> simp [Out.sendings, attemptsAt]
  pending := by rw [hprogress]; rfl
  sent := by
    rw [hsent, h.sent]
    cases out <;> simp [Out.sendings]

/-- The batch that is out is settled by its results. -/
def answered (locations : Array WriteLocation) (results : Array S7.WriteItemResult) : List WriteAttempt :=
  (locations.toList.zip results.toList).map fun entry => { location := entry.1, outcome := .itemResult entry.2 }

theorem Logged.acknowledge {locations : Array WriteLocation} {request : Bytes}
    (h : Logged sent live live' log (some (locations, request))) {results : Array S7.WriteItemResult}
    {progress : WriteProgress.State} (hresults : live'.session.writeProgress.acknowledge results = .ok progress)
    (hprogress : live''.session.writeProgress = progress) (hsent : sent live''.world = sent live'.world) :
    Logged sent live live'' (log ++ [⟨answered locations results, request⟩]) none where
  history := by
    rw [hprogress]
    unfold WriteProgress.State.acknowledge at hresults
    split at hresults
    · cases hresults
    · rw [← Except.ok.inj hresults, List.reverse_append, h.history, List.reverse_reverse, h.pending]
      simp [answered]
  pending := by rw [hprogress, WriteProgress.pending_acknowledge hresults]; rfl
  sent := by
    rw [hsent, h.sent]
    simp

/-- What the session would report holds the log, with what is out as pending. -/
theorem Logged.trace (h : Logged sent live live' log out) :
    live'.session.writeProgress.trace.toList = live.session.writeProgress.history.reverse ++
      (log ++ out.sendings .pending).flatMap (·.attempts) := by
  rw [WriteProgress.State.trace, Array.toList_append, List.flatMap_append, ← List.append_assoc, ← h.history, h.pending]
  cases out <;> simp [Out.sendings, attemptsAt]

end Logs

/-! ### Exchanges -/

section Exchange
variable {W Socket α : Type} {network : Network W Socket} {config : ClientConfig} {sent : W → List Bytes}

theorem leaves_getSession : Leaves (Live.account sent) (getSession : Program (Live W Socket) _) :=
  keeps_get.bind fun _ => keeps_pure _

theorem leaves_account {f : Session Socket → Session Socket}
    (hf : ∀ session, (f session).writeProgress = session.writeProgress ∧
      (f session).attempted = session.attempted) : Leaves (Live.account sent) (modifySession f) := by
  refine leaves_iff.mpr fun live => ends_modifySession.mpr ?_
  obtain ⟨hprogress, hattempted⟩ := hf live.session
  rw [Live.account, Live.account, hprogress, hattempted]

theorem leaves_onWorld {prog : Program W α} (h : Leaves sent prog) :
    Leaves (Live.account sent) (onWorld prog : Program (Live W Socket) α) := by
  refine leaves_iff.mpr fun live => ends_onWorld.mpr ((h.ends live.world).mono ?_ ?_) <;>
    exact fun _ w hw => by rw [Live.account, Live.account, hw]

theorem leaves_applyLifecycleEvent (event : Lifecycle.Event) :
    Leaves (Live.account sent) (applyLifecycleEvent event : Program (Live W Socket) Unit) := by
  refine leaves_getSession.bind fun session => ?_
  split
  · exact leaves_account fun _ => ⟨rfl, rfl⟩
  · exact keeps_throw _

variable (observed : network.Observed sent fun data => [data])
include observed

theorem leaves_closeCurrent : Leaves (Live.account sent) (closeCurrent network config) := by
  refine leaves_getSession.bind fun session => Keeps.bind (leaves_account fun _ => ⟨rfl, rfl⟩) fun _ => ?_
  split
  · exact (Keeps.tryCatch (leaves_onWorld (observed.disconnect _ _)) fun _ => keeps_pure _).bind
      fun _ => leaves_applyLifecycleEvent _
  · exact leaves_applyLifecycleEvent _

theorem leaves_receiveDeadline (timeoutMs : Option Nat) :
    Leaves (Live.account sent) (receiveDeadline network timeoutMs : Program (Live W Socket) _) :=
  leaves_onWorld (observed.leaves_receiveDeadline timeoutMs)

theorem leaves_checkReceiveDeadline (deadline : Option Nat) :
    Leaves sent (Transport.checkReceiveDeadline network.monoMsNow deadline) :=
  leaves_iff.mpr fun w => (ticks_checkReceiveDeadline deadline w).mono (fun _ _ => observed.ticks)
    fun _ _ => observed.ticks

theorem leaves_setUpSession (connection : Transport.Connection Socket) (deadline : Option Nat) :
    Leaves sent (setUpSession network config connection deadline) := by
  have hinput : Leaves sent (inputOrThrow (S7.encodeSetupCommunication 1) : Program W Bytes) := by
    cases S7.encodeSetupCommunication 1 with
    | ok request => exact keeps_pure request
    | error e => exact keeps_throw _
  refine hinput.bind fun request => (observed.leaves_receiveDeadline _).bind fun operationDeadline => ?_
  refine (observed.sendDataUntil _ _ _).bind fun _ => (observed.receiveDataUntil _ _ _).bind fun packet => ?_
  refine (Transport.leaves_orThrow _).bind fun response => ?_
  refine Keeps.bind ?_ fun setup => (Transport.leaves_orThrow _).bind fun _ =>
    (leaves_checkReceiveDeadline observed _).bind fun _ => keeps_pure _
  cases S7.decodeSetupCommunication 1 response with
  | ok setup => exact keeps_pure setup
  | error e => cases e <;> exact keeps_throw _

theorem leaves_connectSession : Leaves sent (connectSession network config) := by
  refine (observed.leaves_receiveDeadline _).bind fun connectDeadline => ?_
  have hopen (calledTsap : UInt16) : Leaves sent (network.connectUntil config.endpoint config.port {
      destinationReference := config.destinationReference
      sourceReference := config.sourceReference
      classOption := config.classOption
      callingTsap := config.localTsap
      calledTsap
      tpduSizeExponent := config.tpduSizeExponent } connectDeadline >>= fun connection =>
        tryCatch (setUpSession network config connection connectDeadline) fun error => do
          tryCatch (network.shutdown connection.socket) fun _ => pure ()
          throw error) :=
    (observed.connectUntil _ _ _ _).bind fun connection =>
      Keeps.tryCatch (leaves_setUpSession observed connection _) fun error =>
        (Keeps.tryCatch (observed.shutdown _) fun _ => keeps_pure _).bind fun _ => keeps_throw _
  have htsap : Leaves sent (remoteTsap config.rack config.slot : Program W UInt16) := by
    unfold remoteTsap
    exact Keeps.guard (Keeps.guard (keeps_pure _))
  cases config.remoteTsap with
  | some tsap => exact hopen tsap
  | none => exact htsap.bind hopen

theorem leaves_reconnect : Leaves (Live.account sent) (reconnect network config) := by
  refine (leaves_closeCurrent observed).bind fun _ => leaves_getSession.bind fun session => ?_
  refine (leaves_onWorld (leaves_connectSession observed)).bind fun opened => ?_
  have hopened : Leaves (Live.account sent) (do
      modifySession fun session : Session Socket => { session with connection := some opened.1 }
      applyLifecycleEvent .reconnected
      modifySession fun session => { session with currentPduLength := opened.2.pduLength }) :=
    Keeps.bind (leaves_account fun _ => ⟨rfl, rfl⟩) fun _ => (leaves_applyLifecycleEvent _).bind fun _ =>
      leaves_account fun _ => ⟨rfl, rfl⟩
  refine Keeps.ite ?_ hopened
  exact (Keeps.tryCatch (leaves_onWorld (observed.disconnect _ _)) fun _ => keeps_pure _).bind
    fun _ => (keeps_throw _).bind fun _ => hopened

omit observed in
/-- One attempt at a batch, which is recorded when it is about to go out. -/
abbrev sendBatch (network : Network W Socket) (config : ClientConfig) (reference : UInt16) (request : Bytes)
    (deadline : Option Nat) (locations : Array WriteLocation) : Program (Live W Socket) S7.Response :=
  exchangeCurrent network config reference request deadline do
    markAttempted
    recordSent locations

omit observed in
/-- A failed attempt at a batch: it is out once it has come to its send. -/
def Unsettled (sent : W → List Bytes) (live live' : Live W Socket) (log : List Sending)
    (batch : Array WriteLocation × Bytes) : Prop :=
  Logged sent live live' log (if live'.session.attempted then some batch else none)

/-- An attempt at a batch, on a connection. -/
theorem ends_sendBatch {live live₁ : Live W Socket} {connection : Transport.Connection Socket} {log : List Sending}
    {reference : UInt16} {request : Bytes} {deadline : Option Nat} {locations : Array WriteLocation}
    (hconnection : live₁.session.connection = some connection) (hattempted : live₁.session.attempted = false)
    (hlogged : Logged sent live live₁ log none) (hlocations : locations ≠ #[]) :
    Ends (sendBatch network config reference request deadline locations) live₁
      (fun _ live' => Logged sent live live' log (some (locations, request)))
      fun _ live' => Unsettled sent live live' log (locations, request) := by
  have hbytes : Ends (exchangeBytesCurrent network config reference request deadline do
        markAttempted
        recordSent locations) live₁
      (fun _ live' => live'.session.attempted = true ∧ Logged sent live live' log (some (locations, request)))
      fun _ live' => Unsettled sent live live' log (locations, request) := by
    refine ends_exchangeBytesCurrent observed hconnection (fun e w hw => ?_) fun w hw => ?_
    · rw [Unsettled, if_neg (by simp [hattempted])]
      exact hlogged.of_account rfl hw
    · have hsent : live₁.session.writeProgress.sent locations =
          .ok { live₁.session.writeProgress with pending := locations } :=
        WriteProgress.sent_eq_ok.mpr ⟨hlogged.pending, hlocations, rfl⟩
      simp only [markAttempted, recordSent, ends_bind, ends_modifySession, ends_getSession]
      rw [hsent]
      refine ends_pure.mpr fun w' hw' => ?_
      have hout (live' : Live W Socket)
          (hprogress : live'.session.writeProgress = { live₁.session.writeProgress with pending := locations })
          (hworld : live'.world = w') : Logged sent live live' log (some (locations, request)) :=
        hlogged.send hprogress (hworld ▸ hw'.trans (hw ▸ rfl))
      exact ⟨fun e => hout _ rfl rfl, fun reply _ => ⟨rfl, hout _ rfl rfl⟩⟩
  refine ends_bind.mpr (hbytes.mono ?_ fun _ _ h => h)
  rintro reply live' ⟨hattempted', hout⟩
  cases S7.decodeResponse reply with
  | ok response => exact ends_pure.mpr hout
  | error e =>
    refine ends_throw.mpr ?_
    rw [Unsettled, if_pos hattempted']
    exact hout

/-- One round for a batch: a retry reconnects first. -/
theorem ends_sendRound {live live₁ : Live W Socket} {log : List Sending} {reference : UInt16} {request : Bytes}
    {deadline : Option Nat} {locations : Array WriteLocation} {reconnectFirst : Bool} (hlive : live.session.Sound)
    (hstart : RoundStart network live reconnectFirst live₁)
    (hfirst : reconnectFirst = false → live₁.session.state = .connected) (hlogged : Logged sent live live₁ log none)
    (hlocations : locations ≠ #[]) :
    Ends (tryAttempt network config (sendBatch network config reference request deadline locations) deadline
        reconnectFirst)
      { live₁ with session := { live₁.session with attempted := false } }
      (fun _ live' => Logged sent live live' log (some (locations, request)))
      fun _ live' => Unsettled sent live live' log (locations, request) := by
  have hunsent (live' : Live W Socket) (haccount : live'.account sent =
      (live₁.session.writeProgress, false, sent live₁.world)) : Logged sent live live' log none :=
    hlogged.of_account (congrArg (·.1) haccount) (congrArg (·.2.2) haccount)
  have hfailed (live' : Live W Socket) (haccount : live'.account sent =
      (live₁.session.writeProgress, false, sent live₁.world)) :
      Unsettled sent live live' log (locations, request) := by
    have hattempted : live'.session.attempted = false := congrArg (·.2.1) haccount
    rw [Unsettled, if_neg (by simp [hattempted])]
    exact hunsent live' haccount
  have hrun (live₂ : Live W Socket) (connection : Transport.Connection Socket)
      (hconnection : live₂.session.connection = some connection) (haccount : live₂.account sent =
        (live₁.session.writeProgress, false, sent live₁.world)) :
      Ends (sendBatch network config reference request deadline locations) live₂
        (fun _ live' => Logged sent live live' log (some (locations, request)))
        fun _ live' => Unsettled sent live live' log (locations, request) :=
    ends_sendBatch observed hconnection (congrArg (·.2.1) haccount) (hunsent live₂ haccount) hlocations
  refine ends_bind.mpr (ends_onWorld.mpr (((leaves_checkReceiveDeadline observed deadline).ends _).mono ?_ ?_))
  · intro _ w hw
    cases reconnectFirst with
    | false =>
      obtain rfl : live₁ = live := hstart
      obtain ⟨connection, hconnection⟩ := Option.isSome_iff_exists.mp (hlive.connected.mp (hfirst rfl))
      exact hrun _ connection hconnection (by rw [Live.account, hw])
    | true =>
      have hback (live₂ : Live W Socket) (hstate : live₂.session.state = .disconnected) :
          Ends (reconnect network config) live₂
            (fun _ live₃ => (∃ connection, live₃.session.connection = some connection) ∧
              live₃.account sent = live₂.account sent)
            fun _ live₃ => live₃.account sent = live₂.account sent := by
        refine (Ends.and (ends_reconnect hstate) ((leaves_reconnect observed).ends live₂)).mono ?_ fun _ _ h => h.2
        rintro _ live₃ ⟨⟨connection, pduLength, hsession, -⟩, haccount⟩
        exact ⟨⟨connection, hsession ▸ rfl⟩, haccount⟩
      refine ends_bind.mpr (Ends.mono (hback _ ?_) ?_ fun _ live₂ haccount => ?_)
      · exact hstart.2.2
      · rintro _ live₂ ⟨⟨connection, hconnection⟩, haccount⟩
        exact hrun live₂ connection hconnection (haccount.trans (by rw [Live.account, hw]))
      · exact hfailed live₂ (haccount.trans (by rw [Live.account, hw]))
  · intro _ w hw
    exact hfailed _ (by rw [Live.account, hw])

omit observed in
/-- How often a batch may go out again. -/
def ClientConfig.replayBudget (config : ClientConfig) (retries : Nat) : Nat :=
  if config.allowPotentiallyMutatingRetries then retries else 0

omit observed in
/-- A batch that went out so many times, each time to be replayed. -/
def replays (batch : Array WriteLocation × Bytes) (count : Nat) : List Sending :=
  List.replicate count ⟨attemptsAt batch.1 .replayedUnknown, batch.2⟩

/-- A write request goes out once, and once more for each replay that is allowed. -/
theorem ends_writeExchange {live : Live W Socket} {reference : UInt16} {request : Bytes} {retries : Nat}
    {deadline : Option Nat} {locations : Array WriteLocation} (hlive : live.session.Sound)
    (hidle : live.session.writeProgress.pending = #[]) (hlocations : locations ≠ #[]) :
    Ends (exchangeWithRetries network config reference request retries false deadline .potentiallyMutating
        recordReplay (recordSent locations)) live
      (fun response live' => ((orderly network).Next live live' ∧ live'.session.state = .connected ∧
          response.reference = reference) ∧
        ∃ count, count ≤ config.replayBudget retries ∧
          Logged sent live live' (replays (locations, request) count) (some (locations, request)))
      fun _ live' => (orderly network).Next live live' ∧
        ∃ count, count ≤ config.replayBudget retries ∧ ∃ out : Out, (∀ batch ∈ out, batch = (locations, request)) ∧
          Logged sent live live' (replays (locations, request) count) out := by
  have hreplay : Leaves Live.frame (recordReplay : Program (Live W Socket) Unit) := leaves_recordReplay
  have hhook : Leaves Live.frame (markAttempted >>= fun _ => recordSent locations : Program (Live W Socket) Unit) :=
    leaves_markAttempted.bind fun _ => leaves_recordSent locations
  have hattempt : Attempts network (sendBatch network config reference request deadline locations)
      fun response => response.reference = reference := attempts_exchangeCurrent hhook
  refine ends_withRetries (fun remaining first live' => RoundStart network live first live' ∧
    ∃ count, count + config.replayBudget remaining ≤ config.replayBudget retries ∧
      Logged sent live live' (replays (locations, request) count) none) ?_ ?_ ⟨rfl, 0, by omega, .start hidle⟩
  · rintro _ _ ⟨rfl, count, hcount, hlogged⟩ _
    exact ⟨.refl hlive, count, by omega, none, by simp, hlogged⟩
  · rintro remaining reconnectFirst live₀ ⟨hstart, count, hcount, hlogged⟩ hfirst
    refine (Ends.and (ends_tryAttempt hattempt hlive hstart hfirst)
      (ends_sendRound observed hlive hstart hfirst hlogged hlocations)).mono ?_ ?_
    · exact fun _ _ h => ⟨h.1, count, by omega, h.2⟩
    · rintro e live₁ ⟨⟨hconnected, hnext⟩, hunsettled⟩
      refine ((ends_failedRound .potentiallyMutating hreplay hconnected hnext).and ((leaves_closeCurrent observed).ends live₁)).mono ?_
        fun _ _ h => h.1
      rintro _ live₂ ⟨⟨⟨hnext₂, hstate⟩, hagain⟩, haccount⟩
      have hattempted : live₂.session.attempted = live₁.session.attempted := congrArg (·.2.1) haccount
      have hlogged₂ : Unsettled sent live live₂ (replays (locations, request) count) (locations, request) := by
        rw [Unsettled, hattempted]
        exact hunsettled.of_account (congrArg (·.1) haccount) (congrArg (·.2.2) haccount)
      refine ⟨⟨hnext₂, count, by omega, _, ?_, hlogged₂⟩, fun hpositive hopen hallow => ?_⟩
      · intro batch hbatch
        split at hbatch <;> simp_all
      · have hallow : config.allowPotentiallyMutatingRetries = true := hallow
        have hagain := hagain hopen hallow
        rw [ClientConfig.replayBudget, ClientConfig.replayBudget, if_pos hallow, if_pos hallow] at hcount
        rw [ClientConfig.replayBudget, ClientConfig.replayBudget, if_pos hallow, if_pos hallow]
        rw [Unsettled] at hlogged₂
        split at hagain
        · rename_i hout
          rw [if_pos hout] at hlogged₂ ⊢
          refine (hagain.and (ends_modifySession.mpr rfl : Ends recordReplay live₂ (fun _ live₃ => live₃ = _)
            fun _ _ => False)).mono ?_ fun _ _ h => h.2.elim
          rintro _ live₃ ⟨hstart₃, rfl⟩
          refine ⟨hstart₃, count + 1, by omega, ?_⟩
          rw [replays, List.replicate_succ']
          exact hlogged₂.finish rfl rfl
        · rename_i hout
          rw [if_neg hout] at hlogged₂ ⊢
          exact ⟨hagain, count, by omega, hlogged₂⟩

end Exchange

/-! ### What a log goes over -/

/-- The caller's item that a location belongs to. A write of one range is a write of one item. -/
def WriteLocation.item (location : WriteLocation) : Nat := location.itemIndex.getD 0

/-- Where a location starts, among the items and in the payload of its item. -/
def WriteLocation.position (location : WriteLocation) : Nat × Nat := (location.item, location.chunkByteOffset)

/-- The order of the items, and of the bytes within an item. -/
def Precedes (a b : Nat × Nat) : Prop := a.1 < b.1 ∨ a.1 = b.1 ∧ a.2 < b.2

theorem Precedes.of_le {a b c : Nat × Nat} (h : Precedes a b) (hle : ¬ Precedes c b) : Precedes a c := by
  simp only [Precedes] at h hle ⊢
  omega

theorem not_precedes_trans {a b c : Nat × Nat} (h : ¬ Precedes b a) (h' : ¬ Precedes c b) : ¬ Precedes c a := by
  simp only [Precedes] at h h' ⊢
  omega

/-- The part of the items that a location stands for. -/
def carried (items : List S7.WriteItem) (location : WriteLocation) : S7.WriteItem where
  range := location.range
  payload := slice (items[location.item]?.elim [] (·.payload)) location.chunkByteOffset
    (location.chunkByteOffset + location.range.count * location.range.area.elementSize)

/-- A location lies in its item, at the address of the byte it starts with. -/
def Located (items : List S7.WriteItem) (location : WriteLocation) : Prop :=
  ∃ item, items[location.item]? = some item ∧ location.range =
    { item.range with start := item.range.start + location.chunkByteOffset, count := location.range.count }

/-- A request holds what its attempts stand for, and nothing else. -/
structure Sending.Carries (items : List S7.WriteItem) (sending : Sending) : Prop where
  request : ∃ reference, S7.encodeAreaWriteMany reference
    (sending.attempts.map fun attempt => carried items attempt.location).toArray = .ok sending.request
  located : ∀ attempt ∈ sending.attempts, Located items attempt.location

def Sending.replayed (sending : Sending) : Bool := sending.attempts.any (·.outcome == .replayedUnknown)

/-- One sending comes before another. -/
def Sending.Precedes (sending later : Sending) : Prop :=
  ∀ a ∈ sending.attempts, ∀ b ∈ later.attempts, ClassicS7.Precedes a.location.position b.location.position

/-- A sending is replayed by another: nothing is known of it, and its batch goes out again. -/
def Sending.ReplayedBy (sending later : Sending) : Prop :=
  (∀ attempt ∈ sending.attempts, attempt.outcome = .replayedUnknown) ∧
    later.attempts.map (·.location) = sending.attempts.map (·.location) ∧ later.request = sending.request

/-- A log that goes over the items from one position up to another. Of two of its sendings
the first one comes before the second, or is replayed by it; and what is replayed is replayed
by the very next sending. -/
structure Stretch (items : List S7.WriteItem) (budget : Nat) (low high : Nat × Nat) (log : List Sending) : Prop where
  carries : ∀ sending ∈ log, sending.Carries items
  within : ∀ attempt ∈ log.flatMap (·.attempts),
    ¬ Precedes attempt.location.position low ∧ Precedes attempt.location.position high
  replays : (log.filter Sending.replayed).length ≤ budget
  ordered : ∀ sending ∈ log,
    sending.attempts.Pairwise fun a b => Precedes a.location.position b.location.position
  sequence : log.Pairwise fun sending later => sending.Precedes later ∨ sending.ReplayedBy later
  next : log.IsChain fun sending next => sending.replayed = true → sending.ReplayedBy next

/-- A stretch that is over: nothing in it is still to be replayed. -/
structure Covered (items : List S7.WriteItem) (budget : Nat) (low high : Nat × Nat) (log : List Sending) : Prop
    extends Stretch items budget low high log where
  settled : ∀ sending ∈ log.getLast?, sending.replayed = false

section Stretches
variable {items : List S7.WriteItem} {budget : Nat} {low mid high : Nat × Nat} {log log' : List Sending}

theorem Stretch.nil : Stretch items budget low high [] :=
  ⟨by simp, by simp, by simp, by simp, .nil, .nil⟩

theorem Covered.nil : Covered items budget low high [] := ⟨.nil, by simp⟩

/-- Without the attempts that were replayed, a stretch goes over the items in order, and over
nothing twice. -/
theorem Stretch.once (h : Stretch items budget low high log) :
    ((log.flatMap (·.attempts)).filter (·.outcome != .replayedUnknown)).Pairwise
      fun a b => Precedes a.location.position b.location.position := by
  refine List.pairwise_filter.mpr (List.pairwise_flatMap.mpr ⟨fun sending hsending => ?_, h.sequence.imp ?_⟩)
  · exact (h.ordered sending hsending).imp fun hab _ _ => hab
  · intro sending later hpair a ha b hb hsettled _
    obtain hbefore | hreplayed := hpair
    · exact hbefore a ha b hb
    · simp [hreplayed.1 a ha] at hsettled

/-- One stretch after another that is over. Only the first may hold replays. -/
theorem Covered.stretch (h : Covered items budget low mid log) (h' : Stretch items 0 mid high log')
    (hlow : ¬ Precedes mid low) (hhigh : ¬ Precedes high mid) : Stretch items budget low high (log ++ log') where
  carries sending hsending := (List.mem_append.mp hsending).elim (h.carries sending) (h'.carries sending)
  within attempt hattempt := by
    rw [List.flatMap_append, List.mem_append] at hattempt
    obtain hattempt | hattempt := hattempt
    · exact ⟨(h.within attempt hattempt).1, (h.within attempt hattempt).2.of_le hhigh⟩
    · exact ⟨not_precedes_trans hlow (h'.within attempt hattempt).1, (h'.within attempt hattempt).2⟩
  replays := by
    rw [List.filter_append, List.length_append]
    exact Nat.add_le_add h.replays h'.replays
  ordered sending hsending := (List.mem_append.mp hsending).elim (h.ordered sending) (h'.ordered sending)
  sequence := by
    refine List.pairwise_append.mpr ⟨h.sequence, h'.sequence, fun sending hsending later hlater => .inl ?_⟩
    intro a ha b hb
    have hbelow := h.within a (List.mem_flatMap_of_mem hsending ha)
    have habove := h'.within b (List.mem_flatMap_of_mem hlater hb)
    exact hbelow.2.of_le habove.1
  next := by
    refine List.isChain_append.mpr ⟨h.next, h'.next, fun sending hsending later _ hreplayed => ?_⟩
    exact absurd (h.settled sending hsending) (by simp [hreplayed])

theorem Covered.append (h : Covered items budget low mid log) (h' : Covered items 0 mid high log')
    (hlow : ¬ Precedes mid low) (hhigh : ¬ Precedes high mid) : Covered items budget low high (log ++ log') where
  toStretch := h.stretch h'.toStretch hlow hhigh
  settled sending hsending := by
    rw [List.getLast?_append, Option.mem_def, Option.or_eq_some_iff] at hsending
    obtain hlast | ⟨-, hlast⟩ := hsending
    · exact h'.settled sending hlast
    · exact h.settled sending hlast

theorem Stretch.widen (h : Stretch items budget low mid log) (hhigh : ¬ Precedes high mid) :
    Stretch items budget low high log where
  carries := h.carries
  within attempt hattempt := ⟨(h.within attempt hattempt).1, (h.within attempt hattempt).2.of_le hhigh⟩
  replays := h.replays
  ordered := h.ordered
  sequence := h.sequence
  next := h.next

theorem Covered.widen (h : Covered items budget low mid log) (hhigh : ¬ Precedes high mid) :
    Covered items budget low high log := ⟨h.toStretch.widen hhigh, h.settled⟩

/-- A batch of locations between two positions, with the request that carries it. -/
structure Batch (items : List S7.WriteItem) (low high : Nat × Nat) (locations : Array WriteLocation)
    (request : Bytes) : Prop where
  request : ∃ reference, S7.encodeAreaWriteMany reference (locations.toList.map (carried items)).toArray = .ok request
  located : ∀ location ∈ locations.toList, Located items location
  within : ∀ location ∈ locations.toList, ¬ Precedes location.position low ∧ Precedes location.position high
  ordered : locations.toList.Pairwise fun a b => Precedes a.position b.position

/-- A batch that went out so often to be replayed, and then perhaps once more. -/
theorem Batch.stretch {locations : Array WriteLocation} {request : Bytes} (batch : Batch items low high locations request)
    {count : Nat} (hcount : count ≤ budget) {last : List Sending} (hlast : last.length ≤ 1)
    (hof : ∀ sending ∈ last, sending.attempts.map (·.location) = locations.toList ∧ sending.request = request ∧
      sending.replayed = false) : Stretch items budget low high (ClassicS7.replays (locations, request) count ++ last) := by
  have hreplayed (sending : Sending) (h : sending ∈ ClassicS7.replays (locations, request) count) :
      sending = ⟨attemptsAt locations .replayedUnknown, request⟩ := List.eq_of_mem_replicate h
  have hlocations (sending : Sending) (h : sending ∈ ClassicS7.replays (locations, request) count ++ last) :
      sending.attempts.map (·.location) = locations.toList ∧ sending.request = request := by
    obtain h | h := List.mem_append.mp h
    · rw [hreplayed sending h]
      simp [attemptsAt, Function.comp_def]
    · exact ⟨(hof sending h).1, (hof sending h).2.1⟩
  have hmem (sending : Sending) (h : sending ∈ ClassicS7.replays (locations, request) count ++ last)
      (attempt : WriteAttempt) (hattempt : attempt ∈ sending.attempts) : attempt.location ∈ locations.toList :=
    (hlocations sending h).1 ▸ List.mem_map_of_mem hattempt
  have hpairs : (ClassicS7.replays (locations, request) count ++ last).Pairwise Sending.ReplayedBy := by
    have hfirst (sending : Sending) (h : sending ∈ ClassicS7.replays (locations, request) count) (later : Sending)
        (hlater : later ∈ ClassicS7.replays (locations, request) count ++ last) : sending.ReplayedBy later := by
      have hsame := hlocations sending (List.mem_append_left _ h)
      refine ⟨?_, (hlocations later hlater).1.trans hsame.1.symm, (hlocations later hlater).2.trans hsame.2.symm⟩
      rw [hreplayed sending h]
      simp [attemptsAt]
    refine List.pairwise_append.mpr ⟨?_, ?_, fun sending h later hlater =>
      hfirst sending h later (List.mem_append_right _ hlater)⟩
    · exact List.pairwise_of_forall_mem_list fun sending h later hlater =>
        hfirst sending h later (List.mem_append_left _ hlater)
    · match last, hlast with
      | [], _ => exact .nil
      | [sending], _ => exact List.pairwise_singleton _ _
  refine ⟨fun sending h => ⟨?_, fun attempt ha => batch.located _ (hmem sending h attempt ha)⟩, ?_, ?_, ?_, ?_, ?_⟩
  · rw [show (fun attempt : WriteAttempt => carried items attempt.location) = carried items ∘ (·.location) from rfl,
      ← List.map_map, (hlocations sending h).1, (hlocations sending h).2]
    exact batch.request
  · intro attempt hattempt
    obtain ⟨sending, h, ha⟩ := List.mem_flatMap.mp hattempt
    exact batch.within _ (hmem sending h attempt ha)
  · have hnone : last.filter Sending.replayed = [] :=
      List.filter_eq_nil_iff.mpr fun sending h => by simp [(hof sending h).2.2]
    rw [List.filter_append, hnone, List.append_nil]
    refine Nat.le_trans (List.length_filter_le _ _) ?_
    rw [ClassicS7.replays, List.length_replicate]
    exact hcount
  · intro sending h
    have hordered := batch.ordered
    rwa [← (hlocations sending h).1, List.pairwise_map] at hordered
  · exact hpairs.imp .inr
  · exact hpairs.isChain.imp fun _ _ h _ => h

end Stretches

end ClassicS7
