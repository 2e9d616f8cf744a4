import ClassicS7.Client.Orderly

/-! Calls: whatever a client is asked to do, its session stays in order.

A failure that may have left the connection out of step closes it, and from then on nothing
is sent. This is shown of each operation, and of any calls in any order. -/
namespace ClassicS7
open Effect Discipline

/-! ### Failures -/

section Safety
variable {W Socket α β ε : Type} {network : Network W Socket} {config : ClientConfig}

/-- A failure that leaves the connection in step, or that has ended it. -/
def Contained (error : RuntimeError) (live : Live W Socket) : Prop :=
  classifyClientError error = .invalidInput ∨ classifyClientError error = .plcRejected ∨
    live.session.state ≠ .connected

/-- An operation that keeps the session in order and contains its failures. -/
def Safe (network : Network W Socket) (operation : Program (Live W Socket) α) : Prop :=
  ∀ live, live.session.Sound → Ends operation live (fun _ live' => (orderly network).Next live live')
    fun error live' => (orderly network).Next live live' ∧ Contained error live'

theorem safe_pure (a : α) : Safe network (pure a) := fun _ hlive => ends_pure.mpr (.refl hlive)

/-- A request that is refused before anything is sent. -/
theorem safe_invalidInput (details : String) :
    Safe network (throw (ClientError.invalidInput details) : Program (Live W Socket) α) :=
  fun _ hlive => ends_throw.mpr ⟨.refl hlive, .inl rfl⟩

theorem Safe.bind {x : Program (Live W Socket) β} {f : β → Program (Live W Socket) α} (hx : Safe network x)
    (hf : ∀ b, Safe network (f b)) : Safe network (x >>= f) := by
  intro live hlive
  refine ends_bind.mpr ((hx live hlive).mono (fun b live' h => ?_) fun _ _ h => h)
  exact (hf b live' h.1).mono (fun _ _ => h.trans) fun _ _ h' => ⟨h.trans h'.1, h'.2⟩

theorem Safe.discard {operation : Program (Live W Socket) α} (h : Safe network operation) :
    Safe network (Functor.discard operation) := by
  rw [show Functor.discard operation = operation >>= fun _ => pure PUnit.unit from rfl]
  exact h.bind fun _ => safe_pure _

/-- What cannot fail is safe. -/
theorem safe_of_total {operation : Program (Live W Socket) α} (h : (orderly network).Keeps operation)
    (htotal : ∀ live, Ends operation live (fun _ _ => True) fun _ _ => False) : Safe network operation :=
  fun live hlive => ((h live hlive).and (htotal live)).mono (fun _ _ h => h.1) fun _ _ h => h.2.elim

theorem Safe.guard {c : Prop} [Decidable c] {details : String} {k : PUnit → Program (Live W Socket) α}
    (hk : Safe network (k ⟨⟩)) :
    Safe network (if c then throw (ClientError.invalidInput details) >>= k else k ⟨⟩) := by
  split
  · exact (safe_invalidInput _).bind fun ⟨⟩ => hk
  · exact hk

theorem safe_inputOrThrow [Repr ε] (result : Except ε α) :
    Safe network (inputOrThrow result : Program (Live W Socket) α) := by
  cases result with
  | ok a => exact safe_pure a
  | error e => exact safe_invalidInput _

theorem safe_freshReference : Safe network (freshReference : Program (Live W Socket) _) :=
  safe_of_total keeps_freshReference fun _ => trivial

theorem safe_negotiatedPduLength : Safe network (negotiatedPduLength : Program (Live W Socket) _) :=
  safe_of_total keeps_negotiatedPduLength fun _ => trivial

/-- A budget is refused only when it is beyond the maximum, as invalid input. -/
theorem safe_receiveDeadline (timeoutMs : Option Nat) :
    Safe network (receiveDeadline network timeoutMs : Program (Live W Socket) _) := by
  intro live hlive
  have hrefused : Ends (receiveDeadline network timeoutMs) live (fun _ _ => True)
      fun e _ => classifyClientError e = .invalidInput := by
    refine ends_onWorld.mpr ?_
    cases timeoutMs with
    | none => exact ends_pure.mpr trivial
    | some timeout =>
      simp only [Transport.receiveDeadline, Transport.validateTimeoutMs, ends_bind, ends_ite, ends_throw,
        ends_pure, Transport.ends_now]
      split
      · exact rfl
      · exact trivial
  refine ((keeps_receiveDeadline timeoutMs live hlive).and hrefused).mono ?_ ?_
  · exact fun _ _ h => h.1
  · exact fun _ _ h => ⟨h.1, .inl h.2⟩

theorem safe_exchangeBytesWithRetries {reference : UInt16} {request : Bytes} {remaining : Nat}
    {transferDeadline : Option Nat} {safety : RetrySafety} :
    Safe network (exchangeBytesWithRetries network config reference request remaining false transferDeadline
      safety) := fun _ hlive =>
  (ends_exchangeBytesWithRetries hlive).mono (fun _ _ h => h.1) fun _ _ h => ⟨h.1, .inr (.inr h.2)⟩

/-- Closing after a failure, whatever it is. -/
theorem ends_close {live live₁ : Live W Socket} (h : (orderly network).Next live live₁) :
    Ends (closeCurrent network config) live₁
      (fun _ live' => (orderly network).Next live live' ∧ live'.session.state ≠ .connected) fun _ _ => False := by
  refine ((keeps_closeCurrent live₁ h.1).and (ends_closeCurrent live₁)).mono ?_ fun _ _ h => h.2
  rintro _ live' ⟨hclosed, hshut, -⟩
  exact ⟨h.trans hclosed, hshut ▸ state_shut_ne⟩

theorem safe_closeOnAnyFailure {operation : Program (Live W Socket) α} (h : (orderly network).Keeps operation) :
    Safe network (closeOnAnyFailure network config operation) := by
  refine fun live hlive => ends_tryCatch.mpr ((h live hlive).mono (fun _ _ h => h) fun error live₁ h => ?_)
  refine ends_bind.mpr ((ends_close h).mono (fun _ live' h => ?_) fun _ _ h => h.elim)
  exact ends_throw.mpr ⟨h.1, .inr (.inr h.2)⟩

theorem safe_closeOnFailure {operation : Program (Live W Socket) α} (h : (orderly network).Keeps operation) :
    Safe network (closeOnFailure network config operation) := by
  refine fun live hlive => ends_tryCatch.mpr ((h live hlive).mono (fun _ _ h => h) fun error live₁ h => ?_)
  by_cases hclose : (classifyClientError error != .invalidInput && classifyClientError error != .plcRejected) = true
  · rw [if_pos hclose]
    refine ends_bind.mpr ((ends_close h).mono (fun _ live' h => ?_) fun _ _ h => h.elim)
    exact ends_throw.mpr ⟨h.1, .inr (.inr h.2)⟩
  · rw [if_neg hclose]
    refine ends_throw.mpr ⟨h, ?_⟩
    rw [Bool.and_eq_true, bne_iff_ne, bne_iff_ne, Classical.not_and_iff_not_or_not, Classical.not_not,
      Classical.not_not] at hclose
    exact hclose.imp_right .inl

/-! ### Calls -/

theorem safe_rawExchange {reference : UInt16} {request : Bytes} :
    Safe network (rawExchange network config reference request) :=
  safe_negotiatedPduLength.bind fun _ => .guard ((safe_inputOrThrow _).bind fun _ =>
    .guard safe_exchangeBytesWithRetries)

theorem safe_plcControl {function : UInt8} {encode : UInt16 → Except S7.EncodeError Bytes} :
    Safe network (plcControl network config function encode) :=
  safe_freshReference.bind fun _ => (safe_inputOrThrow _).bind fun _ => safe_closeOnFailure <|
    (keeps_exchangeWithRetries (keeps_pure _) (keeps_pure _)).bind fun _ => keeps_decodeOrThrow _

theorem safe_exchangeUserData {reference : UInt16} {group subfunction : UInt8} {request : Bytes}
    {safety : RetrySafety} :
    Safe network (exchangeUserData network config reference group subfunction request safety) :=
  safe_closeOnFailure <| keeps_exchangeBytesWithRetries.bind fun _ => (keeps_decodeOrThrow _).bind fun _ =>
    (keeps_decodeOrThrow _).bind fun _ => keeps_pure _

theorem safe_readUserDataValue {reference : UInt16} {group subfunction : UInt8} {request : Bytes}
    {decode : Bytes → Except DecodeError α} :
    Safe network (readUserDataValue network config reference group subfunction request decode) :=
  safe_closeOnFailure <| keeps_exchangeBytesWithRetries.bind fun _ => (keeps_decodeOrThrow _).bind fun _ =>
    (keeps_decodeOrThrow _).bind fun _ => keeps_decodeOrThrow _

/-- A system status list, however it is decoded. -/
theorem safe_readSzlValue {id index : UInt16} {decode : S7.Szl → Program (Live W Socket) α}
    (hdecode : ∀ szl, (orderly network).Keeps (decode szl)) :
    Safe network (readSzlValue network config id index decode) :=
  (safe_receiveDeadline _).bind fun _ => safe_closeOnAnyFailure <|
    (keeps_readSzlFragments _ _ _).bind fun _ => (keeps_orThrow _).bind hdecode

theorem safe_setPlcDateTime {value : S7.PlcDateTime} : Safe network (setPlcDateTime network config value) :=
  safe_freshReference.bind fun _ => (safe_inputOrThrow _).bind fun _ => (safe_inputOrThrow _).bind fun _ =>
    safe_exchangeUserData.discard

theorem safe_setSessionPassword {password : String} : Safe network (setSessionPassword network config password) :=
  safe_freshReference.bind fun _ => (safe_inputOrThrow _).bind fun _ => (safe_inputOrThrow _).bind fun _ =>
    safe_exchangeUserData.discard

theorem safe_clearSessionPassword : Safe network (clearSessionPassword network config : Program (Live W Socket) _) :=
  safe_freshReference.bind fun _ => (safe_inputOrThrow _).bind fun _ => safe_exchangeUserData.discard

theorem safe_getPlcDateTime : Safe network (getPlcDateTime network config : Program (Live W Socket) _) :=
  safe_freshReference.bind fun _ => (safe_inputOrThrow _).bind fun _ => safe_readUserDataValue

theorem safe_listBlocks : Safe network (listBlocks network config : Program (Live W Socket) _) :=
  safe_freshReference.bind fun _ => (safe_inputOrThrow _).bind fun _ => safe_readUserDataValue

theorem safe_getBlockInfo {blockType : S7.BlockType} {number : Nat} :
    Safe network (getBlockInfo network config blockType number) :=
  (safe_inputOrThrow _).bind fun _ => safe_freshReference.bind fun _ => (safe_inputOrThrow _).bind fun _ =>
    safe_readUserDataValue

theorem safe_listBlocksOfType {blockType : S7.BlockType} : Safe network (listBlocksOfType network config blockType) :=
  (safe_receiveDeadline _).bind fun _ => safe_closeOnAnyFailure <|
    (keeps_userDataFragments _ _ _).bind fun _ => keeps_orThrow _

/-- An upload, however the block is decoded. Its own attempt to end the transfer is no exception. -/
theorem safe_uploadBlockValue {blockType : S7.BlockType} {number : Nat} {decode : Bytes → Program (Live W Socket) α}
    (hdecode : ∀ block, (orderly network).Keeps (decode block)) :
    Safe network (uploadBlockValue network config blockType number decode) := by
  refine safe_closeOnAnyFailure ((keeps_receiveDeadline _).bind fun deadline => ?_)
  refine keeps_freshReference.bind fun startReference => (keeps_inputOrThrow _).bind fun startRequest => ?_
  refine .bind (keeps_exchangeWithRetries (keeps_pure _) (keeps_pure _)) fun startResponse => ?_
  refine (keeps_decodeOrThrow _).bind fun upload => .bind (.tryCatch ?_ fun error => ?_) fun transferred => ?_
  · exact (keeps_decodeOrThrow _).bind fun _ => keeps_uploadFragments _ _
  · refine keeps_freshReference.bind fun endReference => ?_
    exact (Keeps.tryCatch keeps_endUpload fun _ => keeps_pure _).bind fun _ => keeps_throw _
  · refine keeps_freshReference.bind fun endReference => keeps_endUpload.bind fun _ => ?_
    exact (keeps_decodeOrThrow _).bind fun completed => hdecode _

theorem safe_upload {blockType : S7.BlockType} {number : Nat} : Safe network (upload network config blockType number) :=
  safe_uploadBlockValue fun _ => .guard ((keeps_orThrow _).bind fun _ => .guard (keeps_pure _))

theorem safe_downloadBlock {blockType : S7.BlockType} {number : Nat} {blockData : Bytes} :
    Safe network (downloadBlock network config blockType number blockData) := by
  refine safe_closeOnAnyFailure (.guard ((keeps_orThrow _).bind fun header => .guard ?_))
  refine (keeps_receiveDeadline _).bind fun deadline => keeps_freshReference.bind fun startReference => ?_
  refine (keeps_inputOrThrow _).bind fun startRequest => ?_
  refine .bind (keeps_exchangeWithRetries (keeps_pure _) (keeps_pure _)) fun startResponse => ?_
  refine (keeps_decodeOrThrow _).bind fun _ => keeps_negotiatedPduLength.bind fun pduLength => .guard ?_
  split
  · exact keeps_throw _
  · refine (keeps_serveDownloadFragments _ _).bind fun transferred => keeps_receiveServerJob.bind fun ended => ?_
    refine (keeps_decodeOrThrow _).bind fun _ => ?_
    split
    · exact keeps_throw _
    · refine (keeps_checkReceiveDeadline _).bind fun _ => (keeps_inputOrThrow _).bind fun response => ?_
      refine keeps_sendServerResponse.bind fun _ => keeps_freshReference.bind fun insertReference => ?_
      refine (keeps_inputOrThrow _).bind fun insertRequest => ?_
      exact .bind (keeps_exchangeWithRetries (keeps_pure _) (keeps_pure _)) fun _ => keeps_decodeOrThrow _

theorem safe_readArea {area : S7.Area} {dbNumber : UInt16} {start count : Nat} :
    Safe network (readArea network config area dbNumber start count) :=
  safe_closeOnFailure <| (keeps_receiveDeadline _).bind fun _ => keeps_readAreaChecked

theorem safe_forM {ι : Type} {f : ι → Program (Live W Socket) Unit} (hf : ∀ i, Safe network (f i)) (is : List ι) :
    Safe network (is.forM f) := by
  induction is with
  | nil => exact safe_pure _
  | cons i is ih => exact (hf i).bind fun _ => ih

theorem safe_readMulti {ranges : Array S7.MemoryRange} : Safe network (readMulti network config ranges) := by
  refine (safe_forM (fun _ => safe_inputOrThrow _) _).bind fun _ => safe_negotiatedPduLength.bind fun _ => ?_
  refine (safe_forM (fun _ => safe_inputOrThrow _) _).bind fun _ => (safe_receiveDeadline _).bind fun _ => ?_
  exact safe_closeOnAnyFailure (keeps_readMultiLoop _ _ _)

/-- The report of a write that began at `live`: the session is in order, and a failure is
contained. -/
def Reported (network : Network W Socket) (live : Live W Socket) (result : Except WriteFailure α)
    (live' : Live W Socket) : Prop :=
  (orderly network).Next live live' ∧ ∀ failure, result = .error failure → Contained failure.error live'

/-- The progress is taken, and the failure is reported with it. -/
theorem ends_report {live live₁ : Live W Socket} {error : RuntimeError}
    (hnext : (orderly network).Next live live₁) (hcontained : Contained error live₁) :
    Ends (do return .error { error, progress := ← takeWriteProgress }) live₁
      (fun result : Except WriteFailure α => Reported network live result) fun _ _ => False := by
  have hframe : Leaves Live.frame (takeWriteProgress : Program (Live W Socket) _) :=
    leaves_iff.mpr fun _ => rfl
  have htotal : Ends takeWriteProgress live₁ (fun _ _ => True) fun _ _ => False := trivial
  refine ends_bind.mpr (((hframe.ends live₁).and htotal).mono ?_ fun _ _ h => h.2)
  rintro _ live' ⟨hlive', -⟩
  refine ends_pure.mpr ⟨hnext.trans (next_of_frame hlive' hnext.1), ?_⟩
  rintro failure hfailure
  cases hfailure
  have hstate : live'.session.state = live₁.session.state := congrArg (·.1.state) hlive'
  exact hcontained.imp_right (.imp_right fun h => hstate ▸ h)

/-- A write whose failures are all reported. -/
theorem ends_detailed {body : Program (Live W Socket) (Except WriteFailure α)}
    {handler : RuntimeError → Program (Live W Socket) (Except WriteFailure α)} {live : Live W Socket}
    (hlive : live.session.Sound) (hbody : (orderly network).Keeps body)
    (hok : ∀ live, Ends body live (fun result _ => ∃ a, result = .ok a) fun _ _ => True)
    (hhandler : ∀ error live₁, (orderly network).Next live live₁ →
      Ends (handler error) live₁ (Reported network live) fun _ _ => False) :
    Ends (do
      modifySession fun session => { session with writeProgress := {} }
      tryCatch body handler) live (Reported network live) fun _ _ => False := by
  refine ends_bind.mpr (ends_modifySession.mpr (ends_tryCatch.mpr ?_))
  have hnext : (orderly network).Next live { live with session := { live.session with writeProgress := {} } } :=
    next_of_frame rfl hlive
  refine ((hbody _ hnext.1).and (hok _)).mono ?_ fun error live₁ h => hhandler error live₁ (hnext.trans h.1)
  rintro _ live' ⟨hnext', a, rfl⟩
  exact ⟨hnext.trans hnext', fun _ h => by cases h⟩

theorem ends_writeAreaDetailed {area : S7.Area} {dbNumber : UInt16} {start : Nat} {payload : Bytes}
    {live : Live W Socket} (hlive : live.session.Sound) :
    Ends (writeAreaDetailed network config area dbNumber start payload) live (Reported network live)
      fun _ _ => False := by
  refine ends_detailed hlive ?_ ?_ fun error live₁ hnext => ?_
  · exact (keeps_receiveDeadline _).bind fun _ => keeps_writeAreaChecked.bind fun _ =>
      keeps_takeWriteProgress.bind fun _ => keeps_pure _
  · exact fun _ => ends_after fun _ _ => ends_after fun _ _ => ends_after fun _ _ => ends_pure.mpr ⟨_, rfl⟩
  · dsimp only
    split
    · rename_i hrejected
      refine ends_bind.mpr (ends_modifySession.mpr ?_)
      exact ends_report (hnext.trans (next_of_frame rfl hnext.1)) (.inr (.inl (beq_iff_eq.mp hrejected)))
    · split
      · refine ends_bind.mpr ((ends_close hnext).mono (fun _ live₂ h => ?_) fun _ _ h => h.elim)
        exact ends_report h.1 (.inr (.inr h.2))
      · rename_i hinvalid
        exact ends_report hnext (.inl (by simpa using hinvalid))

theorem ends_writeMultiDetailed {items : Array S7.WriteItem} {live : Live W Socket} (hlive : live.session.Sound) :
    Ends (writeMultiDetailed network config items) live (Reported network live) fun _ _ => False := by
  refine ends_detailed hlive ?_ ?_ fun error live₁ hnext => ?_
  · refine .ite (keeps_pure _) (keeps_negotiatedPduLength.bind fun _ => (keeps_inputOrThrow _).bind fun _ => ?_)
    exact (keeps_receiveDeadline _).bind fun _ => (keeps_writeMultiLoop _ _ _).bind fun _ =>
      keeps_takeWriteProgress.bind fun _ => keeps_pure _
  · intro live
    split
    · exact ends_pure.mpr ⟨_, rfl⟩
    · exact ends_after fun _ _ => ends_after fun _ _ => ends_after fun _ _ => ends_after fun _ _ =>
        ends_after fun _ _ => ends_pure.mpr ⟨_, rfl⟩
  · -- Unlike in a write of one range, a rejection closes the session too.
    have hrest (live₂ : Live W Socket) (hnext : (orderly network).Next live live₂)
        (hcontained : Contained error live₂) :
        Ends (do
          if classifyClientError error == .plcRejected then
            modifySession fun session => { session with writeProgress := session.writeProgress.globalReject }
          return .error { error, progress := ← takeWriteProgress }) live₂
          (fun result : Except WriteFailure (Array S7.WriteItemResult × WriteProgress) =>
            Reported network live result) fun _ _ => False := by
      dsimp only
      split
      · refine ends_bind.mpr (ends_modifySession.mpr ?_)
        exact ends_report (hnext.trans (next_of_frame rfl hnext.1)) hcontained
      · exact ends_report hnext hcontained
    dsimp only
    split
    · refine ends_bind.mpr ((ends_close hnext).mono (fun _ live₂ h => ?_) fun _ _ h => h.elim)
      exact hrest live₂ h.1 (.inr (.inr h.2))
    · rename_i hinvalid
      exact hrest live₁ hnext (.inl (by simpa using hinvalid))

/-- What was reported is thrown again. -/
theorem safe_writeArea {area : S7.Area} {dbNumber : UInt16} {start : Nat} {payload : Bytes} :
    Safe network (writeArea network config area dbNumber start payload) := by
  refine fun live hlive => ends_bind.mpr ((ends_writeAreaDetailed hlive).mono ?_ fun _ _ h => h.elim)
  rintro (failure | progress) live' ⟨hnext, hcontained⟩
  · exact ends_throw.mpr ⟨hnext, hcontained failure rfl⟩
  · exact ends_pure.mpr hnext

theorem safe_writeAreaDetailed {area : S7.Area} {dbNumber : UInt16} {start : Nat} {payload : Bytes} :
    Safe network (writeAreaDetailed network config area dbNumber start payload) := fun _ hlive =>
  (ends_writeAreaDetailed hlive).mono (fun _ _ h => h.1) fun _ _ h => h.elim

theorem safe_writeMultiDetailed {items : Array S7.WriteItem} :
    Safe network (writeMultiDetailed network config items) := fun _ hlive =>
  (ends_writeMultiDetailed hlive).mono (fun _ _ h => h.1) fun _ _ h => h.elim

theorem safe_writeMulti {items : Array S7.WriteItem} : Safe network (writeMulti network config items) := by
  refine fun live hlive => ends_bind.mpr ((ends_writeMultiDetailed hlive).mono ?_ fun _ _ h => h.elim)
  rintro (failure | ⟨results, progress⟩) live' ⟨hnext, hcontained⟩
  · exact ends_throw.mpr ⟨hnext, hcontained failure rfl⟩
  · exact ends_pure.mpr hnext

theorem safe_writeBitChecked {area : S7.Area} {dbNumber : UInt16} {byteOffset bitIndex : Nat} {enabled : Bool} :
    Safe network (writeBitChecked network config area dbNumber byteOffset bitIndex enabled) := by
  unfold writeBitChecked
  split
  · exact safe_invalidInput _
  · refine safe_closeOnFailure ((keeps_receiveDeadline _).bind fun _ => (keeps_setProgress fun _ => {}).bind fun _ => ?_)
    exact keeps_readAreaChecked.bind fun _ => (keeps_orThrow _).bind fun _ => (keeps_inputOrThrow _).bind fun _ =>
      keeps_writeAreaChecked

/-- Chunks are assembled to what they stand for. -/
theorem ends_readAreaChunks_consumed {area : S7.Area} {dbNumber : UInt16} {start : Nat} {deadline : Option Nat}
    (chunks : List Nat) (result : Chunking.ReadAssembly area.elementSize) (retries : Nat) (live : Live W Socket) :
    Ends (readAreaChunks network config area dbNumber start deadline chunks result retries) live
      (fun assembled _ => assembled.consumed = result.consumed + chunks.sum) fun _ _ => True := by
  induction chunks generalizing result retries live with
  | nil => exact ends_pure.mpr rfl
  | cons count rest ih =>
    refine ends_after fun chunk live₁ => (ih (result.append chunk) 0 live₁).mono ?_ fun _ _ h => h
    intro assembled _ h
    rw [h, List.sum_cons, ← Nat.add_assoc]
    rfl

/-- A read returns the elements that were asked for, no fewer and no more. -/
theorem ends_readArea_length {area : S7.Area} {dbNumber : UInt16} {start count : Nat} (live : Live W Socket) :
    Ends (readArea network config area dbNumber start count) live
      (fun data _ => data.length = count * area.elementSize) fun _ _ => True := by
  have hchecked (deadline : Option Nat) (live : Live W Socket) :
      Ends (readAreaChecked network config area dbNumber start count deadline config.reconnectRetries) live
        (fun data _ => data.length = count * area.elementSize) fun _ _ => True := by
    unfold readAreaChecked
    split
    · rename_i hzero
      exact ends_pure.mpr (by simp [hzero])
    · refine ends_after fun _ _ => ends_after fun pduLength _ => ?_
      dsimp only
      split
      · exact ends_throw.mpr trivial
      · rename_i hmaximum
        refine ends_after fun _ live₁ => ends_bind.mpr ((ends_readAreaChunks_consumed _ _ _ live₁).mono ?_ ?_)
        · intro assembled _ hconsumed
          refine ends_pure.mpr ?_
          rw [assembled.size_eq, hconsumed, Chunking.counts_sum _ hmaximum]
          congr 1
          exact Nat.zero_add count
        · exact fun _ _ _ => trivial
  refine ends_tryCatch.mpr (Ends.mono (ends_after fun _ _ => hchecked _ _) (fun _ _ h => h) fun error _ _ => ?_)
  split
  · exact ends_after fun _ _ => ends_throw.mpr trivial
  · exact ends_throw.mpr trivial

/-- A value that is decoded from data of its size fails only as the read of the data does. -/
theorem safe_dbReadValue {size : Nat} {get : Bytes → Except Value.Error α} (htotal : Value.Total size get)
    {dbNumber : UInt16} {start : Nat} : Safe network (dbReadValue network config size get dbNumber start) := by
  intro live hlive
  refine ends_bind.mpr ((Ends.and (safe_readArea live hlive) (ends_readArea_length live)).mono ?_ fun _ _ h => h.1)
  rintro data live' ⟨hnext, hlength⟩
  obtain ⟨value, hvalue⟩ := htotal data (hlength.trans (Nat.mul_one size))
  rw [hvalue]
  exact ends_pure.mpr hnext

theorem safe_dbReadBit {dbNumber : UInt16} {byteOffset bitIndex : Nat} :
    Safe network (dbReadBit network config dbNumber byteOffset bitIndex) := by
  unfold dbReadBit
  split
  · exact safe_invalidInput _
  · exact safe_dbReadValue (Value.total_getBit (by omega))

theorem safe_forceBit {area : S7.Area} {byteOffset bit : Nat} {value : Bool} :
    Safe network (forceBit network config area byteOffset bit value) := by
  unfold forceBit
  split
  · exact safe_invalidInput _
  · exact safe_writeBitChecked

theorem safe_dbReadString {dbNumber : UInt16} {start : Nat} :
    Safe network (dbReadString network config dbNumber start) := by
  refine safe_closeOnFailure ((keeps_receiveDeadline _).bind fun deadline => keeps_readAreaChecked.bind fun header => ?_)
  refine (keeps_orThrow _).bind fun maximum => (keeps_orThrow _).bind fun current => .guard (.guard ?_)
  exact keeps_readAreaChecked.bind fun content => (keeps_orThrow _).bind fun contentMaximum => .guard (keeps_orThrow _)

theorem safe_dbReadWString {dbNumber : UInt16} {start : Nat} :
    Safe network (dbReadWString network config dbNumber start) := by
  refine safe_closeOnFailure ((keeps_receiveDeadline _).bind fun deadline => keeps_readAreaChecked.bind fun header => ?_)
  refine (keeps_orThrow _).bind fun maximum => (keeps_orThrow _).bind fun current => .guard (.guard ?_)
  exact keeps_readAreaChecked.bind fun content => (keeps_orThrow _).bind fun contentMaximum => .guard (keeps_orThrow _)

/-- Disconnecting always succeeds, and closes the session for good. -/
theorem ends_disconnect {live : Live W Socket} (hlive : live.session.Sound) :
    Ends (disconnect network config) live
      (fun _ live' => (orderly network).Next live live' ∧ live'.session.state = .closed) fun _ _ => False := by
  refine ends_bind.mpr ((ends_close (.refl hlive)).mono ?_ fun _ _ h => h.elim)
  rintro _ live₁ ⟨hnext, hstate⟩
  have htransition (state : Lifecycle.State) : Lifecycle.transition state .disconnect = some .closed := by
    cases state <;> rfl
  have hconnection : ¬ live₁.session.connection.isSome := fun h => hstate (hnext.1.connected.mpr h)
  simp only [applyLifecycleEvent, ends_bind, ends_getSession, htransition, ends_modifySession]
  refine ⟨hnext.trans ⟨⟨by simpa using hconnection, hnext.1.minimum⟩, ?_⟩, trivial⟩
  exact ⟨fun _ => rfl, UInt16.le_refl _, fun _ => ⟨by simp, .refl _⟩⟩

end Safety

/-! ### Runs -/

/-- What a client can be asked to do. -/
inductive Call where
  | rawExchange (reference : UInt16) (request : Bytes)
  | readSzl (id index : UInt16)
  | readSzlList | getOrderCode | getCpuInfo | getCpInfo | getProtection | getCpuState
  | readForceTable | getPlcDateTime
  | setPlcDateTime (value : S7.PlcDateTime)
  | plcHotStart | plcColdStart | plcStop
  | setSessionPassword (password : String)
  | clearSessionPassword | listBlocks
  | listBlocksOfType (blockType : S7.BlockType)
  | getBlockInfo (blockType : S7.BlockType) (number : Nat)
  | fullUpload (blockType : S7.BlockType) (number : Nat)
  | upload (blockType : S7.BlockType) (number : Nat)
  | downloadBlock (blockType : S7.BlockType) (number : Nat) (blockData : Bytes)
  | deleteBlock (blockType : S7.BlockType) (number : Nat)
  | compress | copyRamToRom
  | readArea (area : S7.Area) (dbNumber : UInt16) (start count : Nat)
  | writeAreaDetailed (area : S7.Area) (dbNumber : UInt16) (start : Nat) (payload : Bytes)
  | writeArea (area : S7.Area) (dbNumber : UInt16) (start : Nat) (payload : Bytes)
  | dbRead (dbNumber : UInt16) (start size : Nat)
  | dbWrite (dbNumber : UInt16) (start : Nat) (payload : Bytes)
  | inputsRead (start size : Nat)
  | inputsWrite (start : Nat) (payload : Bytes)
  | outputsRead (start size : Nat)
  | outputsWrite (start : Nat) (payload : Bytes)
  | markersRead (start size : Nat)
  | markersWrite (start : Nat) (payload : Bytes)
  | countersRead (start size : Nat)
  | countersWrite (start : Nat) (payload : Bytes)
  | timersRead (start size : Nat)
  | timersWrite (start : Nat) (payload : Bytes)
  | readMulti (ranges : Array S7.MemoryRange)
  | writeMultiDetailed (items : Array S7.WriteItem)
  | writeMulti (items : Array S7.WriteItem)
  | dbReadUInt8 (dbNumber : UInt16) (start : Nat)
  | dbReadUInt16 (dbNumber : UInt16) (start : Nat)
  | dbReadUInt32 (dbNumber : UInt16) (start : Nat)
  | dbReadUInt64 (dbNumber : UInt16) (start : Nat)
  | dbReadInt8 (dbNumber : UInt16) (start : Nat)
  | dbReadInt16 (dbNumber : UInt16) (start : Nat)
  | dbReadInt32 (dbNumber : UInt16) (start : Nat)
  | dbReadInt64 (dbNumber : UInt16) (start : Nat)
  | dbReadReal (dbNumber : UInt16) (start : Nat)
  | dbReadLReal (dbNumber : UInt16) (start : Nat)
  | dbReadBit (dbNumber : UInt16) (byteOffset bitIndex : Nat)
  | dbWriteUInt8 (dbNumber : UInt16) (start : Nat) (value : UInt8)
  | dbWriteUInt16 (dbNumber : UInt16) (start : Nat) (value : UInt16)
  | dbWriteUInt32 (dbNumber : UInt16) (start : Nat) (value : UInt32)
  | dbWriteUInt64 (dbNumber : UInt16) (start : Nat) (value : UInt64)
  | dbWriteInt8 (dbNumber : UInt16) (start : Nat) (value : Int8)
  | dbWriteInt16 (dbNumber : UInt16) (start : Nat) (value : Int16)
  | dbWriteInt32 (dbNumber : UInt16) (start : Nat) (value : Int32)
  | dbWriteInt64 (dbNumber : UInt16) (start : Nat) (value : Int64)
  | dbWriteReal (dbNumber : UInt16) (start : Nat) (value : Float32)
  | dbWriteLReal (dbNumber : UInt16) (start : Nat) (value : Float)
  | dbWriteBit (dbNumber : UInt16) (byteOffset bitIndex : Nat) (enabled : Bool)
  | dbReadString (dbNumber : UInt16) (start : Nat)
  | dbWriteString (dbNumber : UInt16) (start maximum : Nat) (value : String)
  | dbReadWString (dbNumber : UInt16) (start : Nat)
  | dbWriteWString (dbNumber : UInt16) (start maximum : Nat) (value : String)
  | forceBit (area : S7.Area) (byteOffset bit : Nat) (value : Bool)
  | cancelForceBit (area : S7.Area) (byteOffset bit : Nat)
  | isConnected | negotiatedPduLength | disconnect

section Runs
variable {W Socket : Type} (network : Network W Socket) (config : ClientConfig)

/-- The operation of a call, without its result. -/
def Call.perform : Call → Program (Live W Socket) Unit
  | rawExchange reference request => discard (ClassicS7.rawExchange network config reference request)
  | readSzl id index => discard (ClassicS7.readSzl network config id index)
  | readSzlList => discard (ClassicS7.readSzlList network config)
  | getOrderCode => discard (ClassicS7.getOrderCode network config)
  | getCpuInfo => discard (ClassicS7.getCpuInfo network config)
  | getCpInfo => discard (ClassicS7.getCpInfo network config)
  | getProtection => discard (ClassicS7.getProtection network config)
  | getCpuState => discard (ClassicS7.getCpuState network config)
  | readForceTable => discard (ClassicS7.readForceTable network config)
  | getPlcDateTime => discard (ClassicS7.getPlcDateTime network config)
  | setPlcDateTime value => ClassicS7.setPlcDateTime network config value
  | plcHotStart => ClassicS7.plcHotStart network config
  | plcColdStart => ClassicS7.plcColdStart network config
  | plcStop => ClassicS7.plcStop network config
  | setSessionPassword password => ClassicS7.setSessionPassword network config password
  | clearSessionPassword => ClassicS7.clearSessionPassword network config
  | listBlocks => discard (ClassicS7.listBlocks network config)
  | listBlocksOfType blockType => discard (ClassicS7.listBlocksOfType network config blockType)
  | getBlockInfo blockType number => discard (ClassicS7.getBlockInfo network config blockType number)
  | fullUpload blockType number => discard (ClassicS7.fullUpload network config blockType number)
  | upload blockType number => discard (ClassicS7.upload network config blockType number)
  | downloadBlock blockType number blockData => ClassicS7.downloadBlock network config blockType number blockData
  | deleteBlock blockType number => ClassicS7.deleteBlock network config blockType number
  | compress => ClassicS7.compress network config
  | copyRamToRom => ClassicS7.copyRamToRom network config
  | readArea area dbNumber start count => discard (ClassicS7.readArea network config area dbNumber start count)
  | writeAreaDetailed area dbNumber start payload =>
    discard (ClassicS7.writeAreaDetailed network config area dbNumber start payload)
  | writeArea area dbNumber start payload => ClassicS7.writeArea network config area dbNumber start payload
  | dbRead dbNumber start size => discard (ClassicS7.dbRead network config dbNumber start size)
  | dbWrite dbNumber start payload => ClassicS7.dbWrite network config dbNumber start payload
  | inputsRead start size => discard (ClassicS7.inputsRead network config start size)
  | inputsWrite start payload => ClassicS7.inputsWrite network config start payload
  | outputsRead start size => discard (ClassicS7.outputsRead network config start size)
  | outputsWrite start payload => ClassicS7.outputsWrite network config start payload
  | markersRead start size => discard (ClassicS7.markersRead network config start size)
  | markersWrite start payload => ClassicS7.markersWrite network config start payload
  | countersRead start size => discard (ClassicS7.countersRead network config start size)
  | countersWrite start payload => ClassicS7.countersWrite network config start payload
  | timersRead start size => discard (ClassicS7.timersRead network config start size)
  | timersWrite start payload => ClassicS7.timersWrite network config start payload
  | readMulti ranges => discard (ClassicS7.readMulti network config ranges)
  | writeMultiDetailed items => discard (ClassicS7.writeMultiDetailed network config items)
  | writeMulti items => discard (ClassicS7.writeMulti network config items)
  | dbReadUInt8 dbNumber start => discard (ClassicS7.dbReadUInt8 network config dbNumber start)
  | dbReadUInt16 dbNumber start => discard (ClassicS7.dbReadUInt16 network config dbNumber start)
  | dbReadUInt32 dbNumber start => discard (ClassicS7.dbReadUInt32 network config dbNumber start)
  | dbReadUInt64 dbNumber start => discard (ClassicS7.dbReadUInt64 network config dbNumber start)
  | dbReadInt8 dbNumber start => discard (ClassicS7.dbReadInt8 network config dbNumber start)
  | dbReadInt16 dbNumber start => discard (ClassicS7.dbReadInt16 network config dbNumber start)
  | dbReadInt32 dbNumber start => discard (ClassicS7.dbReadInt32 network config dbNumber start)
  | dbReadInt64 dbNumber start => discard (ClassicS7.dbReadInt64 network config dbNumber start)
  | dbReadReal dbNumber start => discard (ClassicS7.dbReadReal network config dbNumber start)
  | dbReadLReal dbNumber start => discard (ClassicS7.dbReadLReal network config dbNumber start)
  | dbReadBit dbNumber byteOffset bitIndex =>
    discard (ClassicS7.dbReadBit network config dbNumber byteOffset bitIndex)
  | dbWriteUInt8 dbNumber start value => ClassicS7.dbWriteUInt8 network config dbNumber start value
  | dbWriteUInt16 dbNumber start value => ClassicS7.dbWriteUInt16 network config dbNumber start value
  | dbWriteUInt32 dbNumber start value => ClassicS7.dbWriteUInt32 network config dbNumber start value
  | dbWriteUInt64 dbNumber start value => ClassicS7.dbWriteUInt64 network config dbNumber start value
  | dbWriteInt8 dbNumber start value => ClassicS7.dbWriteInt8 network config dbNumber start value
  | dbWriteInt16 dbNumber start value => ClassicS7.dbWriteInt16 network config dbNumber start value
  | dbWriteInt32 dbNumber start value => ClassicS7.dbWriteInt32 network config dbNumber start value
  | dbWriteInt64 dbNumber start value => ClassicS7.dbWriteInt64 network config dbNumber start value
  | dbWriteReal dbNumber start value => ClassicS7.dbWriteReal network config dbNumber start value
  | dbWriteLReal dbNumber start value => ClassicS7.dbWriteLReal network config dbNumber start value
  | dbWriteBit dbNumber byteOffset bitIndex enabled =>
    ClassicS7.dbWriteBit network config dbNumber byteOffset bitIndex enabled
  | dbReadString dbNumber start => discard (ClassicS7.dbReadString network config dbNumber start)
  | dbWriteString dbNumber start maximum value => ClassicS7.dbWriteString network config dbNumber start maximum value
  | dbReadWString dbNumber start => discard (ClassicS7.dbReadWString network config dbNumber start)
  | dbWriteWString dbNumber start maximum value =>
    ClassicS7.dbWriteWString network config dbNumber start maximum value
  | forceBit area byteOffset bit value => ClassicS7.forceBit network config area byteOffset bit value
  | cancelForceBit area byteOffset bit => ClassicS7.cancelForceBit network config area byteOffset bit
  | isConnected => discard ClassicS7.isConnected
  | negotiatedPduLength => discard ClassicS7.negotiatedPduLength
  | disconnect => ClassicS7.disconnect network config

/-- Calls one after the other, whatever each of them ends with. -/
def Call.run (live : Live W Socket) (calls : List Call) : Live W Socket :=
  calls.foldl (fun live call => ((call.perform network config).run.run live).2) live

variable {network config}

/-- Each call, on a session in order. -/
theorem Call.safe_perform (call : Call) : Safe network (call.perform network config) := by
  cases call with
  | rawExchange => exact safe_rawExchange.discard
  | readSzl => exact Safe.discard (safe_readSzlValue fun _ => keeps_pure _)
  | readSzlList => exact Safe.discard (safe_readSzlValue keeps_szlDirectory)
  | getOrderCode => exact Safe.discard (safe_readSzlValue fun _ => keeps_orThrow _)
  | getCpuInfo => exact Safe.discard (safe_readSzlValue fun _ => keeps_orThrow _)
  | getCpInfo => exact Safe.discard (safe_readSzlValue fun _ => keeps_orThrow _)
  | getProtection => exact Safe.discard (safe_readSzlValue fun _ => keeps_orThrow _)
  | getCpuState => exact Safe.discard (safe_readSzlValue fun _ => keeps_orThrow _)
  | readForceTable => exact Safe.discard (safe_readSzlValue fun _ => keeps_orThrow _)
  | getPlcDateTime => exact safe_getPlcDateTime.discard
  | setPlcDateTime => exact safe_setPlcDateTime
  | plcHotStart => exact safe_plcControl
  | plcColdStart => exact safe_plcControl
  | plcStop => exact safe_plcControl
  | setSessionPassword => exact safe_setSessionPassword
  | clearSessionPassword => exact safe_clearSessionPassword
  | listBlocks => exact safe_listBlocks.discard
  | listBlocksOfType => exact safe_listBlocksOfType.discard
  | getBlockInfo => exact safe_getBlockInfo.discard
  | fullUpload => exact Safe.discard (safe_uploadBlockValue fun _ => keeps_pure _)
  | upload => exact safe_upload.discard
  | downloadBlock => exact safe_downloadBlock
  | deleteBlock => exact safe_plcControl
  | compress => exact safe_plcControl
  | copyRamToRom => exact safe_plcControl
  | readArea => exact safe_readArea.discard
  | writeAreaDetailed => exact safe_writeAreaDetailed.discard
  | writeArea => exact safe_writeArea
  | dbRead => exact safe_readArea.discard
  | dbWrite => exact safe_writeArea
  | inputsRead => exact safe_readArea.discard
  | inputsWrite => exact safe_writeArea
  | outputsRead => exact safe_readArea.discard
  | outputsWrite => exact safe_writeArea
  | markersRead => exact safe_readArea.discard
  | markersWrite => exact safe_writeArea
  | countersRead => exact safe_readArea.discard
  | countersWrite => exact safe_writeArea
  | timersRead => exact safe_readArea.discard
  | timersWrite => exact safe_writeArea
  | readMulti => exact safe_readMulti.discard
  | writeMultiDetailed => exact safe_writeMultiDetailed.discard
  | writeMulti => exact safe_writeMulti.discard
  | dbReadUInt8 => exact Safe.discard (safe_dbReadValue Value.total_getUInt8)
  | dbReadUInt16 => exact Safe.discard (safe_dbReadValue Value.total_getUInt16)
  | dbReadUInt32 => exact Safe.discard (safe_dbReadValue Value.total_getUInt32)
  | dbReadUInt64 => exact Safe.discard (safe_dbReadValue Value.total_getUInt64)
  | dbReadInt8 => exact Safe.discard (safe_dbReadValue (Value.total_getUInt8.map _))
  | dbReadInt16 => exact Safe.discard (safe_dbReadValue (Value.total_getUInt16.map _))
  | dbReadInt32 => exact Safe.discard (safe_dbReadValue (Value.total_getUInt32.map _))
  | dbReadInt64 => exact Safe.discard (safe_dbReadValue (Value.total_getUInt64.map _))
  | dbReadReal => exact Safe.discard (safe_dbReadValue (Value.total_getUInt32.map _))
  | dbReadLReal => exact Safe.discard (safe_dbReadValue (Value.total_getUInt64.map _))
  | dbReadBit => exact safe_dbReadBit.discard
  | dbWriteUInt8 => exact safe_writeArea
  | dbWriteUInt16 => exact safe_writeArea
  | dbWriteUInt32 => exact safe_writeArea
  | dbWriteUInt64 => exact safe_writeArea
  | dbWriteInt8 => exact safe_writeArea
  | dbWriteInt16 => exact safe_writeArea
  | dbWriteInt32 => exact safe_writeArea
  | dbWriteInt64 => exact safe_writeArea
  | dbWriteReal => exact safe_writeArea
  | dbWriteLReal => exact safe_writeArea
  | dbWriteBit => exact safe_writeBitChecked
  | dbReadString => exact safe_dbReadString.discard
  | dbWriteString => exact (safe_inputOrThrow _).bind fun _ => safe_writeArea
  | dbReadWString => exact safe_dbReadWString.discard
  | dbWriteWString => exact (safe_inputOrThrow _).bind fun _ => safe_writeArea
  | forceBit => exact safe_forceBit
  | cancelForceBit => exact safe_forceBit
  | isConnected => exact Safe.discard (safe_of_total keeps_isConnected fun _ => trivial)
  | negotiatedPduLength => exact safe_negotiatedPduLength.discard
  | disconnect => exact fun live hlive => (ends_disconnect hlive).mono (fun _ _ h => h.1) fun _ _ h => h.elim

theorem Call.keeps_perform (call : Call) : (orderly network).Keeps (call.perform network config) :=
  fun live hlive => (call.safe_perform live hlive).mono (fun _ _ h => h) fun _ _ h => h.1

theorem Call.next_run {live : Live W Socket} (hlive : live.session.Sound) (calls : List Call) :
    (orderly network).Next live (Call.run network config live calls) :=
  next_foldl (fun live call hlive => (call.keeps_perform live hlive).final) hlive calls

theorem ends_connect (w : W) :
    Ends (connect network config) w (fun session _ => session.Sound) fun _ _ => True := by
  refine ends_after fun _ _ => ends_after fun _ _ => ends_after fun _ w => ?_
  refine ends_bind.mpr ((ends_connectSession w).mono (fun opened _ hlength => ?_) fun _ _ _ => trivial)
  exact ends_pure.mpr ⟨by simp, hlength⟩

/-- In a run of calls after a connect, whatever the calls ask for, whatever the network
does and however each call ends, the session stays sound, and goes on from any point as
`Live.Onward` says. -/
theorem Call.run_in_order (network : Network W Socket) (config : ClientConfig) (w : W) :
    Ends (connect network config) w
      (fun session w' => ∀ before after : List Call,
        (Call.run network config ⟨session, w'⟩ before).session.Sound ∧
          Live.Onward network (Call.run network config ⟨session, w'⟩ before)
            (Call.run network config ⟨session, w'⟩ (before ++ after)))
      fun _ _ => True := by
  refine (ends_connect w).mono (fun session w' hsession before after => ?_) fun _ _ h => h
  have hbefore : (orderly network).Next _ (Call.run network config ⟨session, w'⟩ before) :=
    Call.next_run hsession before
  have hafter : (orderly network).Next _ (Call.run network config _ after) := Call.next_run hbefore.1 after
  rw [Call.run, Call.run, ← List.foldl_append] at hafter
  exact ⟨hbefore.1, hafter.2⟩

end Runs

end ClassicS7
