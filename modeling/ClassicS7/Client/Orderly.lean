import ClassicS7.Client.Blocks

/-! The discipline, operation by operation.

Whatever the network does, and wherever an operation fails, the session stays in order. The
proofs follow the operations line by line: an exchange keeps to the discipline, and so does
everything that is put together from steps that do. -/
namespace ClassicS7
open Effect Discipline

section Keeps
variable {W Socket α ε : Type} {network : Network W Socket} {config : ClientConfig}

/-! ### Steps -/

theorem keeps_orThrow [Repr ε] (result : Except ε α) :
    (orderly network).Keeps (Transport.orThrow result : Program (Live W Socket) α) := by
  cases result with
  | ok a => exact keeps_pure a
  | error e => exact keeps_throw _

theorem keeps_inputOrThrow [Repr ε] (result : Except ε α) :
    (orderly network).Keeps (inputOrThrow result : Program (Live W Socket) α) := by
  cases result with
  | ok a => exact keeps_pure a
  | error e => exact keeps_throw _

theorem keeps_decodeOrThrow (result : Except DecodeError α) :
    (orderly network).Keeps (decodeOrThrow result : Program (Live W Socket) α) := by
  cases result with
  | ok a => exact keeps_pure a
  | error e => cases e <;> exact keeps_throw _

theorem keeps_negotiatedPduLength :
    (orderly network).Keeps (negotiatedPduLength : Program (Live W Socket) UInt16) :=
  keeps_getSession.bind fun _ => keeps_pure _

theorem keeps_isConnected : (orderly network).Keeps (isConnected : Program (Live W Socket) Bool) :=
  keeps_getSession.bind fun _ => keeps_pure _

theorem keeps_setProgress (f : WriteProgress.State → WriteProgress.State) :
    (orderly network).Keeps (modifySession fun session : Session Socket =>
      { session with writeProgress := f session.writeProgress }) :=
  keeps_modifySession fun _ => ⟨rfl, rfl, rfl⟩

theorem leaves_recordSent (locations : Array WriteLocation) :
    Leaves Live.frame (recordSent locations : Program (Live W Socket) Unit) := by
  refine leaves_iff.mpr fun live => ?_
  unfold recordSent
  simp only [ends_bind, ends_getSession]
  cases live.session.writeProgress.sent locations with
  | ok progress => exact ends_pure.mpr rfl
  | error e => exact ends_throw.mpr rfl

theorem leaves_recordReplay : Leaves Live.frame (recordReplay : Program (Live W Socket) Unit) :=
  leaves_modifySession fun _ => rfl

theorem keeps_recordAcknowledged (results : Array S7.WriteItemResult) :
    (orderly network).Keeps (recordAcknowledged results : Program (Live W Socket) Unit) :=
  keeps_getSession.bind fun _ => (keeps_orThrow _).bind fun progress => keeps_setProgress fun _ => progress

theorem keeps_exchangeWithRetries {reference : UInt16} {request : Bytes} {remaining : Nat}
    {transferDeadline : Option Nat} {safety : RetrySafety} {onReplay beforeSend : Program (Live W Socket) Unit}
    (hreplay : Leaves Live.frame onReplay) (hbefore : Leaves Live.frame beforeSend) :
    (orderly network).Keeps (exchangeWithRetries network config reference request remaining false
      transferDeadline safety onReplay beforeSend) := fun _ hlive =>
  (ends_exchangeWithRetries hreplay hbefore hlive).mono (fun _ _ h => h.1) fun _ _ h => h.1

theorem keeps_exchangeBytesWithRetries {reference : UInt16} {request : Bytes} {remaining : Nat}
    {transferDeadline : Option Nat} {safety : RetrySafety} :
    (orderly network).Keeps (exchangeBytesWithRetries network config reference request remaining false
      transferDeadline safety) := fun _ hlive =>
  (ends_exchangeBytesWithRetries hlive).mono (fun _ _ h => h.1) fun _ _ h => h.1

/-! ### Memory -/

theorem keeps_readAreaChunk {range : S7.MemoryRange} {deadline : Option Nat} {retries : Nat} :
    (orderly network).Keeps (readAreaChunk network config range deadline retries) := by
  refine keeps_freshReference.bind fun reference => (keeps_inputOrThrow _).bind fun request =>
    keeps_negotiatedPduLength.bind fun pduLength => .guard (.guard ?_)
  refine .bind (keeps_exchangeWithRetries (keeps_pure _) (keeps_pure _)) fun response => ?_
  split
  · exact keeps_throw _
  · exact keeps_throw _
  · exact keeps_pure _

theorem keeps_readAreaChunks {area : S7.Area} {dbNumber : UInt16} {start : Nat} {deadline : Option Nat}
    (chunks : List Nat) (result : Chunking.ReadAssembly area.elementSize) (retries : Nat) :
    (orderly network).Keeps (readAreaChunks network config area dbNumber start deadline chunks result retries) := by
  induction chunks generalizing result retries with
  | nil => exact keeps_pure _
  | cons count rest ih => exact keeps_readAreaChunk.bind fun chunk => ih _ _

theorem keeps_readAreaChecked {area : S7.Area} {dbNumber : UInt16} {start count : Nat} {deadline : Option Nat}
    {retries : Nat} :
    (orderly network).Keeps (readAreaChecked network config area dbNumber start count deadline retries) := by
  refine .ite (keeps_pure _) ((keeps_inputOrThrow _).bind fun _ => keeps_negotiatedPduLength.bind fun _ => ?_)
  exact .ite (keeps_throw _) ((keeps_inputOrThrow _).bind fun _ =>
    (keeps_readAreaChunks _ _ _).bind fun _ => keeps_pure _)

theorem keeps_writeAreaChunk {range : S7.MemoryRange} {payload : Bytes} {deadline : Option Nat}
    {retries chunkByteOffset : Nat} :
    (orderly network).Keeps (writeAreaChunk network config range payload deadline retries chunkByteOffset) := by
  refine keeps_freshReference.bind fun reference => (keeps_inputOrThrow _).bind fun request =>
    keeps_negotiatedPduLength.bind fun pduLength => .guard ?_
  refine (keeps_checkReceiveDeadline _).bind fun _ => keeps_isConnected.bind fun _ => .guard ?_
  refine .bind (keeps_exchangeWithRetries leaves_recordReplay (leaves_recordSent _)) fun response => ?_
  exact (keeps_decodeOrThrow _).bind fun _ => keeps_recordAcknowledged _

theorem keeps_writeAreaChunks {area : S7.Area} {dbNumber : UInt16} {start : Nat} {payload : Bytes}
    {deadline : Option Nat} (chunks : List Nat) (offset : Nat)
    (hcoverage : offset + chunks.sum * area.elementSize = payload.length) (retries : Nat) :
    (orderly network).Keeps (writeAreaChunks network config area dbNumber start payload deadline offset chunks
      hcoverage retries) := by
  induction chunks generalizing offset retries with
  | nil => exact keeps_pure _
  | cons count rest ih => exact keeps_writeAreaChunk.bind fun _ => ih _ _ _

theorem keeps_writeAreaChecked {area : S7.Area} {dbNumber : UInt16} {start : Nat} {payload : Bytes}
    {deadline : Option Nat} {retries : Nat} :
    (orderly network).Keeps (writeAreaChecked network config area dbNumber start payload deadline retries) := by
  refine .ite (keeps_pure _) (.dite (fun _ => keeps_throw _) fun _ => ?_)
  refine (keeps_inputOrThrow _).bind fun _ => keeps_negotiatedPduLength.bind fun _ => ?_
  refine .dite (fun _ => keeps_throw _) fun _ => ?_
  exact (keeps_inputOrThrow _).bind fun _ => keeps_writeAreaChunks _ _ _ _

theorem keeps_readMultiBatch {ranges : Array S7.MemoryRange} {deadline : Option Nat} {retries : Nat} :
    (orderly network).Keeps (readMultiBatch network config ranges deadline retries) := by
  refine keeps_freshReference.bind fun reference => (keeps_inputOrThrow _).bind fun request =>
    keeps_negotiatedPduLength.bind fun pduLength => .guard ?_
  exact .bind (keeps_exchangeWithRetries (keeps_pure _) (keeps_pure _)) fun response => keeps_decodeOrThrow _

theorem keeps_readMultiChunks {range : S7.MemoryRange} {deadline : Option Nat} (chunks : List Nat)
    (offset : Nat) (payload : Bytes) (retries : Nat) :
    (orderly network).Keeps (readMultiChunks network config range deadline offset chunks payload retries) := by
  induction chunks generalizing offset payload retries with
  | nil => exact keeps_pure _
  | cons count rest ih =>
    refine keeps_readMultiBatch.bind fun results => ?_
    split
    · exact keeps_pure _
    · exact ih _ _ _
    · exact keeps_throw _

theorem keeps_readMultiLoop {deadline : Option Nat} (pending : List S7.MemoryRange)
    (results : Array S7.ReadItemResult) (retries : Nat) :
    (orderly network).Keeps (readMultiLoop network config deadline pending results retries) := by
  induction hlength : pending.length using Nat.strongRecOn generalizing pending results retries with
  | ind length ih =>
    cases pending with
    | nil =>
      rw [readMultiLoop]
      exact keeps_pure _
    | cons range rest =>
      rw [readMultiLoop]
      refine keeps_negotiatedPduLength.bind fun pduLength => .dite (fun _ => ?_) fun hbatch => ?_
      · refine .ite (keeps_throw _) ((keeps_readMultiChunks _ _ _ _).bind fun result => ?_)
        exact ih _ (hlength ▸ Nat.lt_succ_self _) _ _ _ rfl
      · refine keeps_readMultiBatch.bind fun results => ?_
        exact ih _ (hlength ▸ (planReadBatch _ _).length_remaining hbatch) _ _ _ rfl

theorem keeps_writeMultiBatch {items : Array S7.WriteItem} {deadline : Option Nat}
    {retries firstItemIndex chunkByteOffset : Nat} :
    (orderly network).Keeps
      (writeMultiBatch network config items deadline retries firstItemIndex chunkByteOffset) := by
  refine keeps_freshReference.bind fun reference => (keeps_inputOrThrow _).bind fun request =>
    keeps_negotiatedPduLength.bind fun pduLength => .guard ?_
  refine (keeps_checkReceiveDeadline _).bind fun _ => keeps_isConnected.bind fun _ => .guard ?_
  refine .bind (keeps_exchangeWithRetries leaves_recordReplay (leaves_recordSent _)) fun response => ?_
  exact (keeps_decodeOrThrow _).bind fun results => (keeps_recordAcknowledged _).bind fun _ => keeps_pure _

theorem keeps_writeMultiChunks {item : S7.WriteItem} {deadline : Option Nat} {itemIndex : Nat}
    (chunks : List Nat) (offset retries : Nat) :
    (orderly network).Keeps (writeMultiChunks network config item deadline itemIndex offset chunks retries) := by
  induction chunks generalizing offset retries with
  | nil => exact keeps_pure _
  | cons count rest ih =>
    refine keeps_writeMultiBatch.bind fun results => ?_
    split
    · exact keeps_pure _
    · exact ih _ _
    · exact keeps_throw _

theorem keeps_writeMultiLoop {deadline : Option Nat} (pending : List S7.WriteItem)
    (results : Array S7.WriteItemResult) (retries : Nat) :
    (orderly network).Keeps (writeMultiLoop network config deadline pending results retries) := by
  induction hlength : pending.length using Nat.strongRecOn generalizing pending results retries with
  | ind length ih =>
    cases pending with
    | nil =>
      rw [writeMultiLoop]
      exact keeps_pure _
    | cons item rest =>
      rw [writeMultiLoop]
      refine keeps_negotiatedPduLength.bind fun pduLength => .dite (fun _ => ?_) fun hbatch => ?_
      · refine .ite (keeps_throw _) ((keeps_writeMultiChunks _ _ _).bind fun result => ?_)
        exact ih _ (hlength ▸ Nat.lt_succ_self _) _ _ _ rfl
      · refine keeps_writeMultiBatch.bind fun results => ?_
        exact ih _ (hlength ▸ (planWriteBatch _ _).length_remaining hbatch) _ _ _ rfl

/-! ### Services -/

theorem keeps_szlPayload {id index : UInt16} {isFirst : Bool} (response : S7.UserDataResponse) :
    (orderly network).Keeps (szlPayload id index isFirst response : Program (Live W Socket) Bytes) :=
  .ite ((keeps_orThrow _).bind fun _ => .guard (keeps_pure _)) (keeps_pure _)

theorem keeps_readSzlFragments {id index : UInt16} {deadline : Option Nat} (state : Assembly) (sequence : UInt8)
    (dataUnitReference : Option UInt8) :
    (orderly network).Keeps
      (readSzlFragments network config id index deadline state sequence dataUnitReference) := by
  induction hroom : 256 - state.count using Nat.strongRecOn generalizing state sequence dataUnitReference with
  | ind room ih =>
    rw [readSzlFragments]
    refine keeps_freshReference.bind fun reference => (keeps_inputOrThrow _).bind fun request => ?_
    refine keeps_exchangeBytesWithRetries.bind fun raw => (keeps_decodeOrThrow _).bind fun response => ?_
    refine (keeps_decodeOrThrow _).bind fun fragmentReference => (keeps_szlPayload _).bind fun payload => ?_
    split
    · exact keeps_throw _
    · rename_i step _
      refine .dite (fun hmore => ?_) fun _ => keeps_pure _
      have hcount := step.count
      have hroom' := step.continuationRoom hmore
      exact ih (256 - step.after.count) (by omega) step.after _ _ rfl

theorem keeps_userDataFragments {group subfunction : UInt8} {firstRequest : UInt16 → Except S7.EncodeError Bytes}
    {deadline : Option Nat} (state : Assembly) (sequence : UInt8) (dataUnitReference : Option UInt8) :
    (orderly network).Keeps (userDataFragments network config group subfunction firstRequest deadline state
      sequence dataUnitReference) := by
  induction hroom : 256 - state.count using Nat.strongRecOn generalizing state sequence dataUnitReference with
  | ind room ih =>
    rw [userDataFragments]
    refine keeps_freshReference.bind fun reference => (keeps_inputOrThrow _).bind fun request => ?_
    refine keeps_exchangeBytesWithRetries.bind fun raw => (keeps_decodeOrThrow _).bind fun response => ?_
    refine (keeps_decodeOrThrow _).bind fun fragmentReference => ?_
    split
    · exact keeps_throw _
    · rename_i step _
      refine .dite (fun hmore => ?_) fun _ => keeps_pure _
      have hcount := step.count
      have hroom' := step.continuationRoom hmore
      exact ih (256 - step.after.count) (by omega) step.after _ _ rfl

theorem keeps_szlDirectory (szl : S7.Szl) :
    (orderly network).Keeps (szlDirectory szl : Program (Live W Socket) (Array UInt16)) := by
  unfold szlDirectory
  refine .guard ?_
  dsimp only
  rw [Std.Legacy.Range.forIn_eq_forIn_range']
  refine .bind (Keeps.forIn (fun _ _ => (keeps_orThrow _).bind fun _ => keeps_pure _) _ _) fun _ => ?_
  exact (keeps_orThrow _).bind fun _ => keeps_pure _

/-! ### Blocks -/

theorem keeps_uploadFragments {uploadId : UInt8} {deadline : Option Nat} (fragmentNumber : Nat)
    (state : Upload.State uploadSafetyLimit) :
    (orderly network).Keeps (uploadFragments network config uploadId fragmentNumber state deadline) := by
  induction hroom : 65536 - fragmentNumber using Nat.strongRecOn generalizing fragmentNumber state with
  | ind room ih =>
    rw [uploadFragments]
    refine .dite (fun _ => keeps_throw _) fun hlimit => ?_
    refine keeps_freshReference.bind fun reference => (keeps_inputOrThrow _).bind fun request => ?_
    refine .bind (keeps_exchangeWithRetries (keeps_pure _) (keeps_pure _)) fun response => ?_
    refine (keeps_decodeOrThrow _).bind fun fragment => (keeps_decodeOrThrow _).bind fun accepted => ?_
    exact .ite (keeps_pure _) (ih (65536 - (fragmentNumber + 1)) (by omega) _ _ rfl)

theorem keeps_endUpload {endReference : UInt16} {uploadId : UInt8} {deadline : Option Nat} :
    (orderly network).Keeps (endUpload network config endReference uploadId deadline) :=
  (keeps_inputOrThrow _).bind fun _ => .bind (keeps_exchangeWithRetries (keeps_pure _) (keeps_pure _)) fun _ =>
    keeps_decodeOrThrow _

/-- An operation on the connection of a session that has one, in whatever world it ends. -/
theorem keeps_connected {error : RuntimeError} {operation : Transport.Connection Socket → Program (Live W Socket) α}
    (h : ∀ connection (live : Live W Socket), live.session.Sound →
      (∀ w, (orderly network).Next live { live with world := w }) →
      Ends (operation connection) live (fun _ live' => (orderly network).Next live live')
        fun _ live' => (orderly network).Next live live') :
    (orderly network).Keeps (do
      match (← getSession).connection with
      | none => throw error
      | some connection => operation connection) := by
  intro live hlive
  refine ends_bind.mpr (ends_getSession.mpr ?_)
  cases hconnection : live.session.connection with
  | none => exact ends_throw.mpr (.refl hlive)
  | some connection =>
    refine h connection live hlive fun w => next_of_connected ?_ ⟨hlive.connected, hlive.minimum⟩ (UInt16.le_refl _)
    exact hlive.connected.mpr (Option.isSome_iff_exists.mpr ⟨connection, hconnection⟩)

theorem keeps_receiveServerJob {deadline : Option Nat} :
    (orderly network).Keeps (receiveServerJob network config deadline) := by
  refine (keeps_checkReceiveDeadline _).bind fun _ => keeps_connected fun connection live hlive hnext => ?_
  simp only [negotiatedPduLength, bind_assoc, pure_bind, ends_bind, ends_getSession]
  refine ends_onWorld.mpr (ends_of_forall (fun limit w => ?_) fun _ w => hnext w)
  refine ends_onWorld.mpr (ends_of_forall (fun pdu w' => ?_) fun _ w' => hnext w')
  cases S7.decodeJobPdu pdu with
  | ok job => exact ends_pure.mpr (hnext w')
  | error e => exact ends_throw.mpr (hnext w')

theorem keeps_sendServerResponse {response : Bytes} :
    (orderly network).Keeps (sendServerResponse network response : Program (Live W Socket) Unit) :=
  keeps_connected fun _ _ _ hnext => ends_onWorld.mpr (ends_of_forall (fun _ w => hnext w) fun _ w => hnext w)

theorem keeps_serveDownloadFragments {blockType : S7.BlockType} {number : Nat} {blockData : Bytes} {maxSlice : Nat}
    {deadline : Option Nat} (state : Download.State blockData) (fragmentNumber : Nat) :
    (orderly network).Keeps
      (serveDownloadFragments network config blockType number blockData state maxSlice fragmentNumber deadline) := by
  induction hroom : 65536 - fragmentNumber using Nat.strongRecOn generalizing fragmentNumber state with
  | ind room ih =>
    rw [serveDownloadFragments]
    refine .dite (fun _ => keeps_throw _) fun hlimit => ?_
    refine keeps_receiveServerJob.bind fun job => (keeps_decodeOrThrow _).bind fun _ => ?_
    split
    · exact keeps_throw _
    · refine (keeps_inputOrThrow _).bind fun response => (keeps_checkReceiveDeadline _).bind fun _ => ?_
      refine keeps_sendServerResponse.bind fun _ => ?_
      exact .ite (keeps_pure _) (ih (65536 - (fragmentNumber + 1)) (by omega) _ _ rfl)

end Keeps

end ClassicS7
