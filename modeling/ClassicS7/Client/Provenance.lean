import ClassicS7.Client.WriteLog

/-! Write provenance: what a write reports is what was sent.

Each batch of a write adds a stretch to its log, or breaks off in it (`Broken`); the loops
put the stretches together, and the report is read off the whole log. So the report of a
write accounts for every request, in any state that a client can come to. -/
namespace ClassicS7
open Effect Discipline

/-! ### Batches -/

/-- A part of a write that failed, with what went out of it. Whatever becomes of the batch
that is out, but for a replay, the log is a stretch. -/
def Broken {W Socket : Type} (sent : W → List Bytes) (items : List S7.WriteItem) (budget : Nat)
    (low high : Nat × Nat) (live live' : Live W Socket) : Prop :=
  ∃ log out, Logged sent live live' log out ∧
    ∀ outcome, outcome ≠ .replayedUnknown → Stretch items budget low high (log ++ out.sendings outcome)

/-- The bytes of one item that were acknowledged, in the order of the attempts. -/
def acknowledgedPayload (items : List S7.WriteItem) (index : Nat) (attempts : List WriteAttempt) : Bytes :=
  attempts.flatMap fun attempt =>
    if attempt.location.item = index ∧ attempt.outcome = .itemResult .success then
      (carried items attempt.location).payload
    else []

section Batches
variable {W Socket α β : Type} {network : Network W Socket} {config : ClientConfig} {sent : W → List Bytes}
  {items : List S7.WriteItem} {low mid high : Nat × Nat}

theorem Broken.nothing {budget : Nat} {live live' : Live W Socket} (h : Logged sent live live' [] none) :
    Broken sent items budget low high live live' :=
  ⟨[], none, h, fun _ _ => .nil⟩

theorem Broken.start {budget : Nat} {live live₁ live' : Live W Socket}
    (h : Broken sent items budget low high live₁ live') (hlog : Logged sent live live₁ [] none) :
    Broken sent items budget low high live live' := by
  obtain ⟨log, out, hlogged, hstretch⟩ := h
  exact ⟨log, out, hlog.trans hlogged, hstretch⟩

theorem Broken.widen {budget : Nat} {live live' : Live W Socket} (h : Broken sent items budget low mid live live')
    (hhigh : ¬ Precedes high mid) : Broken sent items budget low high live live' := by
  obtain ⟨log, out, hlogged, hstretch⟩ := h
  exact ⟨log, out, hlogged, fun outcome houtcome => (hstretch outcome houtcome).widen hhigh⟩

/-- A failure after a stretch that went well. -/
theorem Broken.after {budget : Nat} {live live₁ live' : Live W Socket} {log : List Sending}
    (h : Broken sent items 0 mid high live₁ live') (hlogged : Logged sent live live₁ log none)
    (hcovered : Covered items budget low mid log) (hlow : ¬ Precedes mid low) (hhigh : ¬ Precedes high mid) :
    Broken sent items budget low high live live' := by
  obtain ⟨log', out, hlogged', hstretch'⟩ := h
  refine ⟨log ++ log', out, hlogged.trans hlogged', fun outcome houtcome => ?_⟩
  rw [List.append_assoc]
  exact hcovered.stretch (hstretch' outcome houtcome) hlow hhigh

/-- Replays acknowledge nothing. -/
theorem acknowledgedPayload_replays (index : Nat) (batch : Array WriteLocation × Bytes) (count : Nat)
    (last : List Sending) :
    acknowledgedPayload items index ((replays batch count ++ last).flatMap (·.attempts)) =
      acknowledgedPayload items index (last.flatMap (·.attempts)) := by
  have hnone : acknowledgedPayload items index ((replays batch count).flatMap (·.attempts)) = [] := by
    refine List.flatMap_eq_nil_iff.mpr fun attempt hattempt => if_neg ?_
    obtain ⟨sending, hsending, ha⟩ := List.mem_flatMap.mp hattempt
    obtain rfl := List.eq_of_mem_replicate hsending
    obtain ⟨location, -, rfl⟩ := List.mem_map.mp ha
    simp
  rw [List.flatMap_append, acknowledgedPayload, List.flatMap_append]
  exact (congrArg (· ++ _) hnone).trans (List.nil_append _)

/-- What comes before the exchange of a write request changes nothing that is accounted for. -/
theorem ends_prepared (observed : network.Observed sent fun data => [data])
    {encode : UInt16 → Except S7.EncodeError Bytes} {message : UInt16 → String} {deadline : Option Nat}
    {k : UInt16 → Bytes → Program (Live W Socket) α} {live : Live W Socket} {ok : α → Live W Socket → Prop}
    {error : RuntimeError → Live W Socket → Prop} (hlive : live.session.Sound)
    (hidle : live.session.writeProgress.pending = #[])
    (hearly : ∀ e live₁, (orderly network).Next live live₁ → Logged sent live live₁ [] none → error e live₁)
    (hk : ∀ reference request live₁, encode reference = .ok request → (orderly network).Next live live₁ →
      Logged sent live live₁ [] none → Ends (k reference request) live₁ ok error) :
    Ends (do
      let reference ← freshReference
      let request ← inputOrThrow (encode reference)
      let pduLength ← negotiatedPduLength
      if request.length > pduLength.toNat then
        throw (ClientError.invalidInput (message pduLength))
      checkReceiveDeadline network deadline
      if !(← isConnected) then
        throw (ClientError.disconnected "S7 client is disconnected")
      k reference request) live ok error := by
  have hstep {β : Type} {prog : Program (Live W Socket) β} (hkeeps : (orderly network).Keeps prog)
      (hleaves : Leaves (Live.account sent) prog) {live₁ : Live W Socket} (hnext : (orderly network).Next live live₁)
      (hlog : Logged sent live live₁ [] none) :
      Ends prog live₁ (fun _ live₂ => (orderly network).Next live live₂ ∧ Logged sent live live₂ [] none)
        fun _ live₂ => (orderly network).Next live live₂ ∧ Logged sent live live₂ [] none := by
    refine ((hkeeps live₁ hnext.1).and (hleaves.ends live₁)).mono ?_ ?_ <;>
      exact fun _ _ h => ⟨hnext.trans h.1, hlog.of_account (congrArg (·.1) h.2) (congrArg (·.2.2) h.2)⟩
  have hfresh : Leaves (Live.account sent) (freshReference : Program (Live W Socket) _) :=
    leaves_getSession.bind fun _ => Keeps.bind (leaves_account fun _ => ⟨rfl, rfl⟩) fun _ => keeps_pure _
  have hcheck : Leaves (Live.account sent) (checkReceiveDeadline network deadline : Program (Live W Socket) _) :=
    leaves_onWorld (leaves_checkReceiveDeadline observed deadline)
  refine ends_bind.mpr ((hstep keeps_freshReference hfresh (.refl hlive) (.start hidle)).mono ?_ ?_)
  · rintro reference live₁ ⟨hnext, hlog⟩
    cases hencode : encode reference with
    | error e => exact ends_throw.mpr (hearly _ _ hnext hlog)
    | ok request =>
      refine ends_bind.mpr (ends_pure.mpr ?_)
      simp only [negotiatedPduLength, bind_assoc, pure_bind, ends_bind, ends_getSession]
      refine ends_guard.mpr ⟨fun _ => hearly _ _ hnext hlog, fun _ => ?_⟩
      refine ends_bind.mpr ((hstep (keeps_checkReceiveDeadline deadline) hcheck hnext hlog).mono ?_ ?_)
      · rintro _ live₂ ⟨hnext, hlog⟩
        simp only [isConnected, bind_assoc, pure_bind, ends_bind, ends_getSession]
        exact ends_guard.mpr ⟨fun _ => hearly _ _ hnext hlog, fun _ => hk reference request live₂ hencode hnext hlog⟩
      · exact fun e live₂ h => hearly e live₂ h.1 h.2
  · exact fun e live₁ h => hearly e live₁ h.1 h.2

/-- A batch whose exchange failed, or whose reply was not accepted. -/
theorem Batch.broken {locations : Array WriteLocation} {request : Bytes} (batch : Batch items low high locations request)
    {budget count : Nat} {live live' : Live W Socket} {out : Out} (hcount : count ≤ budget)
    (hout : ∀ b ∈ out, b = (locations, request)) (hlogged : Logged sent live live' (replays (locations, request) count) out) :
    Broken sent items budget low high live live' := by
  refine ⟨_, out, hlogged, fun outcome houtcome => batch.stretch hcount ?_ ?_⟩
  · cases out <;> simp [Out.sendings]
  · intro sending hsending
    cases out with
    | none => simp [Out.sendings] at hsending
    | some b =>
      obtain rfl := hout b rfl
      obtain rfl : sending = ⟨attemptsAt locations outcome, request⟩ := by simpa [Out.sendings] using hsending
      simp [attemptsAt, Function.comp_def, Sending.replayed, houtcome]

/-- A batch with its results. -/
theorem Batch.answered {locations : Array WriteLocation} {request : Bytes} (batch : Batch items low high locations request)
    {budget count : Nat} {results : Array S7.WriteItemResult} (hcount : count ≤ budget)
    (hsize : results.size = locations.size) : Covered items budget low high
      (replays (locations, request) count ++ [⟨ClassicS7.answered locations results, request⟩]) := by
  have hsettled : Sending.replayed ⟨ClassicS7.answered locations results, request⟩ = false := by
    simp [Sending.replayed, ClassicS7.answered]
  refine ⟨batch.stretch hcount (by simp) fun sending hsending => ?_, fun sending hsending => ?_⟩
  · obtain rfl := List.mem_singleton.mp hsending
    refine ⟨?_, rfl, hsettled⟩
    rw [ClassicS7.answered, List.map_map, Function.comp_def]
    exact List.map_fst_zip (by simp [hsize])
  · rw [List.getLast?_append, List.getLast?_singleton, Option.some_or] at hsending
    obtain rfl := Option.some.inj hsending
    exact hsettled

/-- The results of the batch that is out are recorded. -/
theorem ends_acknowledged {live live₁ : Live W Socket} {log : List Sending} {locations : Array WriteLocation}
    {request : Bytes} {results : Array S7.WriteItemResult} (hnext : (orderly network).Next live live₁)
    (hlogged : Logged sent live live₁ log (some (locations, request))) (hsize : results.size = locations.size) :
    Ends (recordAcknowledged results) live₁
      (fun _ live' => (orderly network).Next live live' ∧
        Logged sent live live' (log ++ [⟨answered locations results, request⟩]) none) fun _ _ => False := by
  have hpending : live₁.session.writeProgress.pending = locations := hlogged.pending
  obtain ⟨progress, hprogress⟩ : ∃ progress, live₁.session.writeProgress.acknowledge results = .ok progress := by
    rw [WriteProgress.State.acknowledge, if_neg (by simp [hpending, hsize])]
    exact ⟨_, rfl⟩
  simp only [recordAcknowledged, ends_bind, ends_getSession]
  rw [hprogress]
  refine ends_pure.mpr (ends_modifySession.mpr ⟨hnext.trans (next_of_frame rfl hnext.1), ?_⟩)
  exact hlogged.acknowledge hprogress rfl rfl

/-- A batch that was answered: what was acknowledged of each item is what the results say. -/
def Answered (sent : W → List Bytes) (items : List S7.WriteItem) (budget : Nat) (low high : Nat × Nat)
    (locations : Array WriteLocation) (results : Array S7.WriteItemResult) (live live' : Live W Socket) : Prop :=
  ∃ log, Logged sent live live' log none ∧ Covered items budget low high log ∧
    ∀ index, acknowledgedPayload items index (log.flatMap (·.attempts)) =
      acknowledgedPayload items index (answered locations results)

theorem Batch.answer {locations : Array WriteLocation} {request : Bytes} (batch : Batch items low high locations request)
    {budget count : Nat} {results : Array S7.WriteItemResult} {live live' : Live W Socket} (hcount : count ≤ budget)
    (hsize : results.size = locations.size) (hlogged : Logged sent live live'
      (replays (locations, request) count ++ [⟨ClassicS7.answered locations results, request⟩]) none) :
    Answered sent items budget low high locations results live live' := by
  refine ⟨_, hlogged, batch.answered hcount hsize, fun index => ?_⟩
  rw [acknowledgedPayload_replays]
  simp

theorem size_of_decodeAreaWriteMany {reference : UInt16} {count : Nat} {response : S7.Response}
    {results : Array S7.WriteItemResult} (h : S7.decodeAreaWriteMany reference count response = .ok results) :
    results.size = count := by
  have hcount : 0 < count ∧ count ≤ S7.maxItemCount := by
    unfold S7.decodeAreaWriteMany at h
    have hguard := (Checks.guard_eq_ok.mp h).1
    simp only [Bool.or_eq_true, beq_iff_eq, decide_eq_true_eq] at hguard
    omega
  obtain ⟨-, hlength, hresults⟩ := (S7.decodeAreaWriteMany_eq_ok hcount.1 hcount.2).mp h
  rw [← Array.length_toList, hresults, List.length_map, hlength]

/-- The locations of a batch of whole items, or of one chunk. -/
def batchLocations (batch : Array S7.WriteItem) (firstItemIndex chunkByteOffset : Nat) : Array WriteLocation :=
  batch.mapIdx fun index item =>
    { range := item.range, itemIndex := some (firstItemIndex + index), chunkByteOffset }

variable (observed : network.Observed sent fun data => [data])
include observed

/-- The exchange of a batch. -/
theorem ends_batchExchange {live : Live W Socket} {reference : UInt16} {request : Bytes} {retries : Nat}
    {deadline : Option Nat} {locations : Array WriteLocation} (hlive : live.session.Sound)
    (hidle : live.session.writeProgress.pending = #[]) (hlocations : locations ≠ #[])
    (batch : Batch items low high locations request) :
    Ends (exchangeWithRetries network config reference request retries false deadline .potentiallyMutating
        recordReplay (recordSent locations)) live
      (fun _ live' => (orderly network).Next live live' ∧ ∃ count, count ≤ config.replayBudget retries ∧
        Logged sent live live' (replays (locations, request) count) (some (locations, request)))
      fun _ live' => (orderly network).Next live live' ∧
        Broken sent items (config.replayBudget retries) low high live live' := by
  refine (ends_writeExchange observed hlive hidle hlocations).mono ?_ ?_
  · exact fun _ _ h => ⟨h.1.1, h.2⟩
  · rintro _ live' ⟨hnext, count, hcount, out, hout, hlogged⟩
    exact ⟨hnext, batch.broken hcount hout hlogged⟩

theorem ends_writeMultiBatch {batch : Array S7.WriteItem} {deadline : Option Nat}
    {retries firstItemIndex chunkByteOffset : Nat} {live : Live W Socket} (hlive : live.session.Sound)
    (hidle : live.session.writeProgress.pending = #[]) (hbatch : batch ≠ #[])
    (hcarries : ∀ reference request, S7.encodeAreaWriteMany reference batch = .ok request →
      Batch items low high (batchLocations batch firstItemIndex chunkByteOffset) request) :
    Ends (writeMultiBatch network config batch deadline retries firstItemIndex chunkByteOffset) live
      (fun results live' => (orderly network).Next live live' ∧ results.size = batch.size ∧
        Answered sent items (config.replayBudget retries) low high
          (batchLocations batch firstItemIndex chunkByteOffset) results live live')
      fun _ live' => (orderly network).Next live live' ∧
        Broken sent items (config.replayBudget retries) low high live live' := by
  refine ends_prepared observed hlive hidle ?_ ?_
  · exact fun _ _ hnext hlog => ⟨hnext, .nothing hlog⟩
  · intro reference request live₁ hencode hnext hlog
    have hplan := hcarries reference request hencode
    have hlocations : batchLocations batch firstItemIndex chunkByteOffset ≠ #[] := by
      simpa [batchLocations] using hbatch
    refine ends_bind.mpr ((ends_batchExchange observed hnext.1 hlog.pending hlocations hplan).mono ?_ ?_)
    · rintro response live₂ ⟨hnext₂, count, hcount, hout⟩
      have hout := hlog.trans hout
      rw [List.nil_append] at hout
      cases hdecode : S7.decodeAreaWriteMany reference batch.size response with
      | error e => 
        cases e <;> exact ends_throw.mpr ⟨hnext.trans hnext₂, hplan.broken hcount (by simp) hout⟩
      | ok results =>
        have hsize := size_of_decodeAreaWriteMany hdecode
        have hsize' : results.size = (batchLocations batch firstItemIndex chunkByteOffset).size := by
          rw [hsize, batchLocations, Array.size_mapIdx]
        refine ends_bind.mpr (ends_pure.mpr (ends_bind.mpr ?_))
        refine (ends_acknowledged (hnext.trans hnext₂) hout hsize').mono (fun _ live₃ h => ?_) fun _ _ h => h.elim
        exact ends_pure.mpr ⟨h.1, hsize, hplan.answer hcount hsize' h.2⟩
    · exact fun _ live₂ h => ⟨hnext.trans h.1, h.2.start hlog⟩

/-- A chunk of one range: its one location is settled by success. -/
theorem ends_writeAreaChunk {range : S7.MemoryRange} {payload : Bytes} {deadline : Option Nat}
    {retries chunkByteOffset : Nat} {live : Live W Socket} (hlive : live.session.Sound)
    (hidle : live.session.writeProgress.pending = #[])
    (hcarries : ∀ reference request, S7.encodeAreaWrite reference range payload = .ok request →
      Batch items low high #[{ range, chunkByteOffset }] request) :
    Ends (writeAreaChunk network config range payload deadline retries chunkByteOffset) live
      (fun _ live' => (orderly network).Next live live' ∧
        Answered sent items (config.replayBudget retries) low high #[{ range, chunkByteOffset }] #[.success] live live')
      fun _ live' => (orderly network).Next live live' ∧
        Broken sent items (config.replayBudget retries) low high live live' := by
  refine ends_prepared observed hlive hidle ?_ ?_
  · exact fun _ _ hnext hlog => ⟨hnext, .nothing hlog⟩
  · intro reference request live₁ hencode hnext hlog
    have hplan := hcarries reference request hencode
    refine ends_bind.mpr ((ends_batchExchange observed hnext.1 hlog.pending (by simp) hplan).mono ?_ ?_)
    · rintro response live₂ ⟨hnext₂, count, hcount, hout⟩
      have hout := hlog.trans hout
      rw [List.nil_append] at hout
      cases S7.decodeDbWrite reference response with
      | error e =>
        cases e <;> exact ends_throw.mpr ⟨hnext.trans hnext₂, hplan.broken hcount (by simp) hout⟩
      | ok results =>
        refine ends_bind.mpr (ends_pure.mpr ?_)
        refine (ends_acknowledged (hnext.trans hnext₂) hout rfl).mono (fun _ live₃ h => ?_) fun _ _ h => h.elim
        exact ⟨h.1, hplan.answer hcount rfl h.2⟩
    · exact fun _ live₂ h => ⟨hnext.trans h.1, h.2.start hlog⟩

end Batches

/-! ### Loops -/

section Loops
variable {W Socket : Type} {network : Network W Socket} {config : ClientConfig} {sent : W → List Bytes}
  {items : List S7.WriteItem}

/-- One chunk of an item, as a batch of its own. -/
theorem batch_chunk (items : List S7.WriteItem) (index : Nat) {item : S7.WriteItem} {offset count : Nat}
    {itemIndex : Option Nat} {request : Bytes} {reference : UInt16} (hitem : items[index]? = some item) (hindex : itemIndex.getD 0 = index)
    (hbytes : 0 < count * item.range.area.elementSize)
    (hencode : S7.encodeAreaWriteMany reference #[{
      range := { item.range with start := item.range.start + offset, count }
      payload := slice item.payload offset (offset + count * item.range.area.elementSize) }] = .ok request) :
    Batch items (index, offset) (index, offset + count * item.range.area.elementSize)
      #[{ range := { item.range with start := item.range.start + offset, count }, itemIndex, chunkByteOffset := offset }]
      request := by
  refine ⟨⟨reference, ?_⟩, ?_, ?_, ?_⟩
  · simpa [carried, WriteLocation.item, hindex, hitem] using hencode
  · simp only [List.mem_singleton, forall_eq]
    exact ⟨item, by simpa [WriteLocation.item, hindex] using hitem, rfl⟩
  · simp only [List.mem_singleton, forall_eq, WriteLocation.position, WriteLocation.item, Precedes]
    omega
  · exact List.pairwise_singleton _ _

/-- Whole items, as one batch. -/
theorem batch_items {first : Nat} {batch : List S7.WriteItem} {rest : List S7.WriteItem} {request : Bytes}
    {reference : UInt16} (hitems : items.drop first = batch ++ rest)
    (hwhole : ∀ item ∈ batch, item.payload.length = item.range.count * item.range.area.elementSize)
    (hencode : S7.encodeAreaWriteMany reference batch.toArray = .ok request) :
    Batch items (first, 0) (first + batch.length, 0) (batchLocations batch.toArray first 0) request := by
  have hitem (m : Nat) (h : m < batch.length) : items[first + m]? = some batch[m] := by
    rw [← List.getElem?_drop, hitems, List.getElem?_append_left h, List.getElem?_eq_getElem h]
  have hlocations : (batchLocations batch.toArray first 0).toList = batch.mapIdx fun m item =>
      { range := item.range, itemIndex := some (first + m), chunkByteOffset := 0 } := by
    simp [batchLocations]
  have hmem {property : WriteLocation → Prop}
      (h : ∀ m (hm : m < batch.length), property ⟨batch[m].range, some (first + m), 0⟩) :
      ∀ location ∈ (batchLocations batch.toArray first 0).toList, property location := by
    intro location hlocation
    rw [hlocations, List.mem_mapIdx] at hlocation
    obtain ⟨m, hm, rfl⟩ := hlocation
    exact h m hm
  refine ⟨⟨reference, ?_⟩, hmem fun m hm => ?_, hmem fun m hm => ?_, ?_⟩
  · have hcarried : (batchLocations batch.toArray first 0).toList.map (carried items) = batch := by
      rw [hlocations]
      refine List.ext_getElem (by simp) fun m hm hm' => ?_
      have hpayload := hwhole batch[m] (List.getElem_mem hm')
      rw [List.getElem_map, List.getElem_mapIdx, carried, WriteLocation.item, Option.getD_some, hitem m hm']
      simp only [Option.elim_some, Nat.zero_add, ← hpayload]
      rw [slice_to_end _ _ _ (Nat.le_refl _), List.drop_zero]
    rw [hcarried]
    exact hencode
  · exact ⟨batch[m], hitem m hm, rfl⟩
  · simp only [WriteLocation.position, WriteLocation.item, Option.getD_some, Precedes]
    omega
  · rw [hlocations, List.pairwise_iff_getElem]
    intro m n hm hn hmn
    simp only [List.getElem_mapIdx, WriteLocation.position, WriteLocation.item, Option.getD_some, Precedes]
    omega

theorem acknowledgedPayload_append (index : Nat) (attempts attempts' : List WriteAttempt) :
    acknowledgedPayload items index (attempts ++ attempts') =
      acknowledgedPayload items index attempts ++ acknowledgedPayload items index attempts' := List.flatMap_append

theorem replayBudget_zero : config.replayBudget 0 = 0 := by simp [ClientConfig.replayBudget]

theorem batchLocations_singleton (item : S7.WriteItem) (index offset : Nat) :
    batchLocations #[item] index offset =
      #[{ range := item.range, itemIndex := some index, chunkByteOffset := offset }] := by
  simp [batchLocations]

/-- The chunks of one item, from a position in it. -/
theorem ends_writeMultiChunks (observed : network.Observed sent fun data => [data]) {item : S7.WriteItem} {index : Nat}
    (hitem : items[index]? = some item) {deadline : Option Nat} (chunks : List Nat)
    (hpositive : ∀ chunk ∈ chunks, 0 < chunk) (offset retries : Nat) {live : Live W Socket}
    (hlive : live.session.Sound) (hidle : live.session.writeProgress.pending = #[]) :
    Ends (writeMultiChunks network config item deadline index offset chunks retries) live
      (fun result live' => (orderly network).Next live live' ∧ ∃ log, Logged sent live live' log none ∧
        Covered items (config.replayBudget retries) (index, offset) (index + 1, 0) log ∧
        (result = .success → acknowledgedPayload items index (log.flatMap (·.attempts)) =
          slice item.payload offset (offset + chunks.sum * item.range.area.elementSize)))
      fun _ live' => (orderly network).Next live live' ∧
        Broken sent items (config.replayBudget retries) (index, offset) (index + 1, 0) live live' := by
  induction chunks generalizing offset retries live with
  | nil =>
    refine ends_pure.mpr ⟨.refl hlive, [], .start hidle, .nil, fun _ => ?_⟩
    rw [slice_of_le _ _ _ (by simp)]
    rfl
  | cons count rest ih =>
    have hbytes : 0 < count * item.range.area.elementSize :=
      Nat.mul_pos (hpositive count List.mem_cons_self) (elementSize_pos _)
    have hlow : ¬ Precedes (index, offset + count * item.range.area.elementSize) (index, offset) := by
      simp only [Precedes]
      omega
    have hhigh (offset : Nat) : ¬ Precedes (index + 1, 0) (index, offset) := by
      simp only [Precedes]
      omega
    refine ends_bind.mpr ((ends_writeMultiBatch observed hlive hidle (by simp) fun reference request hencode => by
      rw [batchLocations_singleton]
      exact batch_chunk items index hitem rfl hbytes hencode).mono ?_ ?_)
    · rintro results live₁ ⟨hnext, hsize, log, hlogged, hcovered, hacknowledged⟩
      rw [batchLocations_singleton] at hacknowledged
      obtain ⟨result, rfl⟩ : ∃ result, results = #[result] := Array.size_eq_one_iff.mp hsize
      cases result with
      | failure code => exact ends_pure.mpr ⟨hnext, log, hlogged, hcovered.widen (hhigh _), fun h => by cases h⟩
      | success =>
        refine (ih (fun chunk h => hpositive chunk (List.mem_cons_of_mem _ h)) _ 0 hnext.1 hlogged.pending).mono ?_ ?_
        · rintro result live₂ ⟨hnext₂, log₂, hlogged₂, hcovered₂, hpayload₂⟩
          rw [replayBudget_zero] at hcovered₂
          refine ⟨hnext.trans hnext₂, _, hlogged.trans hlogged₂, hcovered.append hcovered₂ hlow (hhigh _), fun h => ?_⟩
          have hfirst : acknowledgedPayload items index (log.flatMap (·.attempts)) =
              slice item.payload offset (offset + count * item.range.area.elementSize) := by
            rw [hacknowledged]
            simp [acknowledgedPayload, answered, WriteLocation.item, carried, hitem]
          rw [List.flatMap_append, acknowledgedPayload_append, hfirst, hpayload₂ h,
            slice_append _ _ _ _ (by omega) (by omega), List.sum_cons, Nat.add_mul, Nat.add_assoc]
        · rintro _ live₂ ⟨hnext₂, hbroken⟩
          rw [replayBudget_zero] at hbroken
          exact ⟨hnext.trans hnext₂, hbroken.after hlogged hcovered hlow (hhigh _)⟩
    · exact fun _ live₁ h => ⟨h.1, h.2.widen (hhigh _)⟩

/-- A stretch acknowledges nothing of an item that lies outside of it. -/
theorem Stretch.acknowledges_none {budget : Nat} {low high : Nat × Nat} {log : List Sending}
    (h : Stretch items budget low high log) {index : Nat} (hindex : index < low.1 ∨ ¬ Precedes (index, 0) high) :
    acknowledgedPayload items index (log.flatMap (·.attempts)) = [] := by
  refine List.flatMap_eq_nil_iff.mpr fun attempt hattempt => if_neg ?_
  rintro ⟨rfl, -⟩
  have hwithin := h.within attempt hattempt
  simp only [Precedes, WriteLocation.position] at hwithin hindex
  omega

/-- Only one element of a list has anything to add. -/
theorem flatMap_single {α β : Type} {l : List α} {f : α → List β} {index : Nat} {a : α} (ha : l[index]? = some a)
    (hothers : ∀ j b, j ≠ index → l[j]? = some b → f b = []) : l.flatMap f = f a := by
  induction l generalizing index with
  | nil => simp at ha
  | cons b rest ih =>
    rw [List.flatMap_cons]
    cases index with
    | zero =>
      obtain rfl : b = a := by simpa using ha
      have hrest : rest.flatMap f = [] := by
        refine List.flatMap_eq_nil_iff.mpr fun c hc => ?_
        obtain ⟨j, hj⟩ := List.mem_iff_getElem?.mp hc
        exact hothers (j + 1) c (by omega) (by simpa using hj)
      rw [hrest, List.append_nil]
    | succ index =>
      rw [hothers 0 b (by omega) rfl, List.nil_append]
      exact ih (by simpa using ha) fun j c hj hc => hothers (j + 1) c (by omega) (by simpa using hc)

/-- An item of a batch of whole items is acknowledged by its own result. -/
theorem acknowledgedPayload_answered {first m : Nat} {batch rest : List S7.WriteItem} {item : S7.WriteItem}
    {results : Array S7.WriteItemResult} (hitems : items.drop first = batch ++ rest) (hitem : batch[m]? = some item)
    (hwhole : item.payload.length = item.range.count * item.range.area.elementSize)
    (hresult : results[m]? = some .success) :
    acknowledgedPayload items (first + m) (answered (batchLocations batch.toArray first 0) results) =
      item.payload := by
  have hlocations : (batchLocations batch.toArray first 0).toList = batch.mapIdx fun m item =>
      { range := item.range, itemIndex := some (first + m), chunkByteOffset := 0 } := by
    simp [batchLocations]
  have hattempt : (answered (batchLocations batch.toArray first 0) results)[m]? =
      some ⟨⟨item.range, some (first + m), 0⟩, .itemResult .success⟩ := by
    simp [answered, hlocations, List.getElem?_zip_eq_some, hitem, hresult]
  have hothers (j : Nat) (attempt : WriteAttempt) (hj : j ≠ m)
      (h : (answered (batchLocations batch.toArray first 0) results)[j]? = some attempt) :
      attempt.location.item = first + j := by
    simp only [answered, hlocations, List.getElem?_map, Option.map_eq_some_iff, List.getElem?_zip_eq_some] at h
    obtain ⟨⟨location, result⟩, ⟨hlocation, -⟩, rfl⟩ := h
    simp only [List.getElem?_mapIdx, Option.map_eq_some_iff] at hlocation
    obtain ⟨other, -, rfl⟩ := hlocation
    rfl
  rw [acknowledgedPayload, flatMap_single hattempt fun j attempt hj h => if_neg ?_]
  · have hindex : items[first + m]? = some item := by
      rw [← List.getElem?_drop, hitems, List.getElem?_append_left (List.getElem?_eq_some_iff.mp hitem).1, hitem]
    simp only [WriteLocation.item, Option.getD_some, and_self, if_true, carried, hindex, Option.elim_some,
      Nat.zero_add, ← hwhole]
    rw [slice_to_end _ _ _ (Nat.le_refl _), List.drop_zero]
  · rw [hothers j attempt hj h]
    omega

/-- Each item has its result, and one that succeeded has been acknowledged as a whole. -/
structure Served (items : List S7.WriteItem) (first : Nat) (batch : List S7.WriteItem)
    (results : List S7.WriteItemResult) (log : List Sending) : Prop where
  length : results.length = batch.length
  payload : ∀ (m : Nat) (item : S7.WriteItem), batch[m]? = some item → results[m]? = some .success →
    acknowledgedPayload items (first + m) (log.flatMap (·.attempts)) = item.payload

theorem Served.append {first budget : Nat} {batch rest : List S7.WriteItem} {high : Nat × Nat}
    {results results' : List S7.WriteItemResult} {log log' : List Sending} (h : Served items first batch results log)
    (hcovered : Covered items budget (first, 0) (first + batch.length, 0) log)
    (h' : Served items (first + batch.length) rest results' log')
    (hcovered' : Covered items 0 (first + batch.length, 0) high log') :
    Served items first (batch ++ rest) (results ++ results') (log ++ log') where
  length := by simp [h.length, h'.length]
  payload m item hitem hresult := by
    rw [List.flatMap_append, acknowledgedPayload_append]
    by_cases hm : m < batch.length
    · rw [List.getElem?_append_left hm] at hitem
      rw [List.getElem?_append_left (h.length ▸ hm)] at hresult
      rw [h.payload m item hitem hresult, hcovered'.toStretch.acknowledges_none (.inl (by simp only; omega)), List.append_nil]
    · have hle : batch.length ≤ m := Nat.le_of_not_lt hm
      rw [List.getElem?_append_right hle] at hitem
      rw [List.getElem?_append_right (h.length ▸ hle), h.length] at hresult
      have hpayload := h'.payload (m - batch.length) item hitem hresult
      rw [show first + batch.length + (m - batch.length) = first + m by omega] at hpayload
      rw [hcovered.toStretch.acknowledges_none (.inr (by simp only [Precedes]; omega)), hpayload, List.nil_append]

/-- What the loop has returned: results for all that was pending, with the log that they rest on. -/
def Completed (network : Network W Socket) (sent : W → List Bytes) (items : List S7.WriteItem) (budget : Nat)
    (results : Array S7.WriteItemResult) (pending : List S7.WriteItem) (live : Live W Socket)
    (results' : Array S7.WriteItemResult) (live' : Live W Socket) : Prop :=
  (orderly network).Next live live' ∧ ∃ more log, results'.toList = results.toList ++ more ∧
    Logged sent live live' log none ∧ Covered items budget (results.size, 0) (items.length, 0) log ∧
    Served items results.size pending more log

/-- The loop over what is pending, from the first item of it. -/
theorem ends_writeMultiLoop (observed : network.Observed sent fun data => [data])
    (hwhole : ∀ item ∈ items, item.payload.length = item.range.count * item.range.area.elementSize)
    {deadline : Option Nat} (pending : List S7.WriteItem) (results : Array S7.WriteItemResult) (retries : Nat)
    (hpending : items.drop results.size = pending) (hsize : results.size ≤ items.length) {live : Live W Socket}
    (hlive : live.session.Sound) (hidle : live.session.writeProgress.pending = #[]) :
    Ends (writeMultiLoop network config deadline pending results retries) live
      (Completed network sent items (config.replayBudget retries) results pending live)
      fun _ live' => (orderly network).Next live live' ∧
        Broken sent items (config.replayBudget retries) (results.size, 0) (items.length, 0) live live' := by
  induction hlength : pending.length using Nat.strongRecOn generalizing pending results retries live with
  | ind length ih =>
    have hsuffix : results.size + pending.length = items.length := by
      rw [← hpending, List.length_drop]
      omega
    have hhigh {n : Nat} (h : n ≤ items.length) : ¬ Precedes (items.length, 0) (n, 0) := by
      simp only [Precedes]
      omega
    -- What is left after some results, and then the rest of the loop.
    have hagain (done remaining : List S7.WriteItem) (answers : Array S7.WriteItemResult) {live₁ : Live W Socket}
        {log : List Sending} (hpartition : done ++ remaining = pending) (hdone : done ≠ [])
        (hnext : (orderly network).Next live live₁) (hlogged : Logged sent live live₁ log none)
        (hcovered : Covered items (config.replayBudget retries) (results.size, 0) (results.size + done.length, 0) log)
        (hserved : Served items results.size done answers.toList log) :
        Ends (writeMultiLoop network config deadline remaining (results ++ answers) 0) live₁
          (Completed network sent items (config.replayBudget retries) results pending live)
          fun _ live' => (orderly network).Next live live' ∧
            Broken sent items (config.replayBudget retries) (results.size, 0) (items.length, 0) live live' := by
      have hcount : (results ++ answers).size = results.size + done.length := by
        rw [Array.size_append, ← hserved.length, Array.length_toList]
      have htotal : done.length + remaining.length = pending.length := by rw [← hpartition, List.length_append]
      have hpositive : 0 < done.length := List.length_pos_iff.mpr hdone
      have hrest : items.drop (results ++ answers).size = remaining := by
        rw [hcount, ← List.drop_drop, hpending, ← hpartition, List.drop_left]
      have hlow : ¬ Precedes (results.size + done.length, 0) (results.size, 0) := by
        simp only [Precedes]
        omega
      refine (ih remaining.length (by omega) remaining (results ++ answers) 0 hrest (by omega) hnext.1
        hlogged.pending rfl).mono ?_ ?_
      · rintro results' live₂ ⟨hnext₂, more, log₂, hresults, hlogged₂, hcovered₂, hserved₂⟩
        rw [replayBudget_zero, hcount] at hcovered₂
        rw [hcount] at hserved₂
        refine ⟨hnext.trans hnext₂, answers.toList ++ more, _, ?_, hlogged.trans hlogged₂,
          hcovered.append hcovered₂ hlow (hhigh (by omega)), ?_⟩
        · rw [hresults, Array.toList_append, List.append_assoc]
        · rw [← hpartition]
          exact hserved.append hcovered hserved₂ hcovered₂
      · rintro _ live₂ ⟨hnext₂, hbroken⟩
        rw [replayBudget_zero, hcount] at hbroken
        exact ⟨hnext.trans hnext₂, hbroken.after hlogged hcovered hlow (hhigh (by omega))⟩
    cases pending with
    | nil =>
      rw [writeMultiLoop]
      exact ends_pure.mpr ⟨.refl hlive, [], [], by simp, .start hidle, .nil, ⟨rfl, by simp⟩⟩
    | cons item rest =>
      have hitem : items[results.size]? = some item := by
        have hhead := congrArg (·[0]?) hpending
        simpa using hhead
      have hmem : ∀ other ∈ item :: rest, other ∈ items := fun other h => List.mem_of_mem_drop (hpending ▸ h)
      have hroom : results.size + 1 ≤ items.length := by
        rw [← hsuffix, List.length_cons]
        omega
      rw [writeMultiLoop]
      simp only [negotiatedPduLength, bind_assoc, pure_bind, ends_bind, ends_getSession]
      split
      · split
        · exact ends_throw.mpr ⟨.refl hlive, .nothing (.start hidle)⟩
        · rename_i hmaximum
          refine ends_bind.mpr ((ends_writeMultiChunks observed hitem _ (fun chunk h => (Chunking.counts_bounds h).1)
            0 retries hlive hidle).mono ?_ ?_)
          · rintro result live₁ ⟨hnext, log, hlogged, hcovered, hpayload⟩
            refine hagain [item] rest #[result] rfl (by simp) hnext hlogged hcovered ⟨rfl, ?_⟩
            intro m other hother hresult
            obtain rfl : m = 0 := by
              have hlt := (List.getElem?_eq_some_iff.mp hother).1
              simpa using hlt
            obtain rfl : item = other := by simpa using hother
            obtain rfl : result = .success := by simpa using hresult
            rw [Nat.add_zero, hpayload rfl, Chunking.counts_sum _ hmaximum, Nat.zero_add,
              ← hwhole item (hmem item List.mem_cons_self), slice_to_end _ _ _ (Nat.le_refl _), List.drop_zero]
          · exact fun _ live₁ h => ⟨h.1, h.2.widen (hhigh hroom)⟩
      · rename_i hbatch
        generalize planWriteBatch live.session.currentPduLength.toNat (item :: rest) = plan at hbatch ⊢
        have hselected : plan.selected ≠ [] := by simpa using hbatch
        have hlength : plan.selected.length + plan.remaining.length = (item :: rest).length := by
          rw [← List.length_append, plan.longest.partition]
        have hitems : items.drop results.size = plan.selected ++ plan.remaining := by
          rw [hpending, plan.longest.partition]
        have hwhole (other : S7.WriteItem) (h : other ∈ plan.selected) :=
          hwhole other (hmem other (plan.longest.partition ▸ List.mem_append_left _ h))
        refine ends_bind.mpr ((ends_writeMultiBatch observed hlive hidle (by simpa using hselected)
          fun reference request hencode => batch_items hitems hwhole hencode).mono ?_ ?_)
        · rintro answers live₁ ⟨hnext, hcount, log, hlogged, hcovered, hacknowledged⟩
          refine hagain plan.selected plan.remaining answers plan.longest.partition hselected hnext hlogged hcovered
            ⟨by simpa using hcount, fun m other hother hresult => ?_⟩
          rw [hacknowledged]
          exact acknowledgedPayload_answered hitems hother (hwhole other (List.mem_of_getElem? hother))
            (by simpa using hresult)
        · exact fun _ live₁ h => ⟨h.1, h.2.widen (hhigh (by omega))⟩

/-- The one item of a write of one range. -/
def areaItem (area : S7.Area) (dbNumber : UInt16) (start : Nat) (payload : Bytes) : S7.WriteItem where
  range := { area, dbNumber, start, count := payload.length / area.elementSize }
  payload

/-- The chunks of one range, from a position in it. -/
theorem ends_writeAreaChunks (observed : network.Observed sent fun data => [data]) {area : S7.Area} {dbNumber : UInt16}
    {start : Nat} {payload : Bytes} {deadline : Option Nat} (chunks : List Nat) (hpositive : ∀ chunk ∈ chunks, 0 < chunk)
    (offset : Nat) (hcoverage : offset + chunks.sum * area.elementSize = payload.length) (retries : Nat)
    {live : Live W Socket} (hlive : live.session.Sound) (hidle : live.session.writeProgress.pending = #[]) :
    Ends (writeAreaChunks network config area dbNumber start payload deadline offset chunks hcoverage retries) live
      (fun _ live' => (orderly network).Next live live' ∧ ∃ log, Logged sent live live' log none ∧
        Covered [areaItem area dbNumber start payload] (config.replayBudget retries) (0, offset) (1, 0) log ∧
        acknowledgedPayload [areaItem area dbNumber start payload] 0 (log.flatMap (·.attempts)) = payload.drop offset)
      fun _ live' => (orderly network).Next live live' ∧ Broken sent [areaItem area dbNumber start payload]
        (config.replayBudget retries) (0, offset) (1, 0) live live' := by
  induction chunks generalizing offset retries live with
  | nil =>
    refine ends_pure.mpr ⟨.refl hlive, [], .start hidle, .nil, ?_⟩
    rw [List.drop_of_length_le (by simp at hcoverage; omega)]
    rfl
  | cons count rest ih =>
    have hbytes : 0 < count * area.elementSize :=
      Nat.mul_pos (hpositive count List.mem_cons_self) (elementSize_pos _)
    have hlow : ¬ Precedes (0, offset + count * area.elementSize) (0, offset) := by
      simp only [Precedes]
      omega
    have hhigh (offset : Nat) : ¬ Precedes (1, 0) (0, offset) := by
      simp only [Precedes]
      omega
    refine ends_bind.mpr ((ends_writeAreaChunk observed hlive hidle fun reference request hencode => by
      rw [← S7.encodeAreaWriteMany_singleton] at hencode
      exact batch_chunk [areaItem area dbNumber start payload] 0 rfl rfl hbytes hencode).mono ?_ ?_)
    · rintro _ live₁ ⟨hnext, log, hlogged, hcovered, hacknowledged⟩
      refine (ih (fun chunk h => hpositive chunk (List.mem_cons_of_mem _ h)) _ _ 0 hnext.1 hlogged.pending).mono ?_ ?_
      · rintro _ live₂ ⟨hnext₂, log₂, hlogged₂, hcovered₂, hpayload₂⟩
        rw [replayBudget_zero] at hcovered₂
        refine ⟨hnext.trans hnext₂, _, hlogged.trans hlogged₂, hcovered.append hcovered₂ hlow (hhigh _), ?_⟩
        have hfirst : acknowledgedPayload [areaItem area dbNumber start payload] 0 (log.flatMap (·.attempts)) =
            slice payload offset (offset + count * area.elementSize) := by
          rw [hacknowledged]
          simp [acknowledgedPayload, answered, WriteLocation.item, carried, areaItem]
        rw [List.flatMap_append, acknowledgedPayload_append, hfirst, hpayload₂]
        exact slice_append_drop _ _ _ (by omega)
      · rintro _ live₂ ⟨hnext₂, hbroken⟩
        rw [replayBudget_zero] at hbroken
        exact ⟨hnext.trans hnext₂, hbroken.after hlogged hcovered hlow (hhigh _)⟩
    · exact fun _ live₁ h => ⟨h.1, h.2.widen (hhigh _)⟩

/-- A write of one range: all of the payload, or what went out of it. -/
theorem ends_writeAreaChecked (observed : network.Observed sent fun data => [data]) {area : S7.Area} {dbNumber : UInt16}
    {start : Nat} {payload : Bytes} {deadline : Option Nat} {retries : Nat} {live : Live W Socket}
    (hlive : live.session.Sound) (hidle : live.session.writeProgress.pending = #[]) :
    Ends (writeAreaChecked network config area dbNumber start payload deadline retries) live
      (fun _ live' => ∃ log, Logged sent live live' log none ∧
        Covered [areaItem area dbNumber start payload] (config.replayBudget retries) (0, 0) (1, 0) log ∧
        acknowledgedPayload [areaItem area dbNumber start payload] 0 (log.flatMap (·.attempts)) = payload)
      fun _ live' => Broken sent [areaItem area dbNumber start payload] (config.replayBudget retries) (0, 0) (1, 0)
        live live' := by
  have hnothing : Broken sent [areaItem area dbNumber start payload] (config.replayBudget retries) (0, 0) (1, 0)
      live live := .nothing (.start hidle)
  unfold writeAreaChecked
  split
  · rename_i hempty
    obtain rfl : payload = [] := List.isEmpty_iff.mp hempty
    exact ends_pure.mpr ⟨[], .start hidle, .nil, rfl⟩
  · split
    · exact ends_throw.mpr hnothing
    · dsimp only
      cases MultiValidation.range { area, dbNumber, start, count := payload.length / area.elementSize } with
      | error e => exact ends_throw.mpr hnothing
      | ok _ =>
        refine ends_bind.mpr (ends_pure.mpr ?_)
        simp only [negotiatedPduLength, bind_assoc, pure_bind, ends_bind, ends_getSession]
        refine ends_dite.mpr ⟨fun _ => ends_throw.mpr hnothing, fun hmaximum => ?_⟩
        cases MultiValidation.writeFits live.session.currentPduLength.toNat
          { area, dbNumber, start, count := payload.length / area.elementSize } with
        | error e => exact ends_throw.mpr hnothing
        | ok _ =>
          refine ends_bind.mpr (ends_pure.mpr ?_)
          refine (ends_writeAreaChunks observed _ (fun chunk h => (Chunking.counts_bounds h).1) 0 _ retries hlive
            hidle).mono ?_ fun _ _ h => h.2
          exact fun _ _ h => h.2

end Loops

/-! ### Reports -/

/-- A network with a record of the requests that were sent on it. -/
def Network.recorded {W Socket : Type} (network : Network W Socket) : Network (W × List Bytes) Socket where
  monoMsNow w := ((network.monoMsNow w.1).1, (network.monoMsNow w.1).2, w.2)
  connectUntil endpoint port request deadline :=
    part Prod.fst (fun world w => (world, w.2)) (network.connectUntil endpoint port request deadline)
  sendData socket data := do
    modify fun w => (w.1, w.2 ++ [data])
    part Prod.fst (fun world w => (world, w.2)) (network.sendData socket data)
  sendDataUntil socket data deadline :=
    part Prod.fst (fun world w => (world, w.2)) (network.sendDataUntil socket data deadline)
  receiveDataUntil socket deadline limit :=
    part Prod.fst (fun world w => (world, w.2)) (network.receiveDataUntil socket deadline limit)
  disconnect connection timeout :=
    part Prod.fst (fun world w => (world, w.2)) (network.disconnect connection timeout)
  shutdown socket := part Prod.fst (fun world w => (world, w.2)) (network.shutdown socket)

section Reports
variable {W Socket : Type}

theorem Network.observed_recorded (network : Network W Socket) :
    network.recorded.Observed Prod.snd fun data => [data] := by
  have hleaves {α : Type} (prog : Program W α) :
      Leaves Prod.snd (part Prod.fst (fun world w => (world, w.2)) prog : Program (W × List Bytes) α) :=
    leaves_iff.mpr fun _ => ends_part.mpr (ends_of_forall (fun _ _ => rfl) fun _ _ => rfl)
  refine ⟨fun _ => rfl, fun _ _ _ _ => hleaves _, fun socket data w => ?_, fun _ _ _ => hleaves _,
    fun _ _ _ => hleaves _, fun _ _ => hleaves _, fun _ => hleaves _⟩
  exact ends_bind.mpr (ends_modify.mpr ((hleaves (network.sendData socket data)).ends _))

/-- A report accounts for the requests that were sent from `live` to `live'`: its attempts
are those of a log of all of them. -/
structure Accounted (config : ClientConfig) (items : List S7.WriteItem) (live live' : Live (W × List Bytes) Socket)
    (progress : WriteProgress) (log : List Sending) : Prop where
  attempts : progress.attempts.toList = log.flatMap (·.attempts)
  requests : live'.world.2 = live.world.2 ++ log.map (·.request)
  stretch : Stretch items (config.replayBudget config.reconnectRetries) (0, 0) (items.length, 0) log
  once : (progress.attempts.toList.filter (·.outcome != .replayedUnknown)).Pairwise
    fun a b => Precedes a.location.position b.location.position

/-- The progress that a detailed write reports. -/
def reportedProgress {α : Type} (progress : α → WriteProgress) : Except WriteFailure α → WriteProgress
  | .ok a => progress a
  | .error failure => failure.progress

variable {network : Network W Socket} {config : ClientConfig}

theorem ends_takeWriteProgress {live live' : Live (W × List Bytes) Socket} {items : List S7.WriteItem}
    {log : List Sending} {out : Out} (hempty : live.session.writeProgress = {})
    (hlogged : Logged Prod.snd live live' log out)
    (hstretch : Stretch items (config.replayBudget config.reconnectRetries) (0, 0) (items.length, 0)
      (log ++ out.sendings .pending)) :
    Ends takeWriteProgress live' (fun progress live'' =>
      Accounted config items live live'' progress (log ++ out.sendings .pending)) fun _ _ => False := by
  have hattempts : live'.session.writeProgress.snapshot.attempts.toList =
      (log ++ out.sendings .pending).flatMap (·.attempts) := by
    have htrace := hlogged.trace
    rw [hempty] at htrace
    rw [WriteProgress.snapshot_eq, htrace]
    rfl
  refine ends_bind.mpr (ends_getSession.mpr (ends_bind.mpr (ends_modifySession.mpr (ends_pure.mpr
    ⟨hattempts, ?_, hstretch, ?_⟩))))
  · change live'.world.2 = _
    rw [hlogged.sent]
    cases out <;> simp [Out.sendings]
  · rw [hattempts]
    exact hstretch.once

/-- The writes that pass validation have payloads of the size that their ranges have. -/
theorem payload_of_writes {pduLength : Nat} {items : Array S7.WriteItem}
    (h : MultiValidation.writes pduLength items = .ok ()) :
    ∀ item ∈ items.toList, item.payload.length = item.range.count * item.range.area.elementSize := by
  have hone (item : S7.WriteItem) (h : MultiValidation.write pduLength item = .ok ()) :
      item.payload.length = item.range.count * item.range.area.elementSize := by
    unfold MultiValidation.write at h
    obtain ⟨_, -, h⟩ := Checks.bind_eq_ok.mp h
    obtain ⟨_, -, h⟩ := Checks.bind_eq_ok.mp h
    simpa using (Checks.guard_eq_ok.mp h).1
  unfold MultiValidation.writes at h
  generalize items.toList = pending at h ⊢
  induction pending with
  | nil => simp
  | cons item rest ih =>
    change (MultiValidation.write pduLength item >>= fun _ => rest.forM _) = _ at h
    obtain ⟨⟨⟩, hitem, hrest⟩ := Checks.bind_eq_ok.mp h
    rintro other (_ | ⟨_, hother⟩)
    · exact hone item hitem
    · exact ih hrest other hother

theorem Broken.of_account {budget : Nat} {items : List S7.WriteItem} {low high : Nat × Nat} {sent : W → List Bytes}
    {live live₁ live₂ : Live W Socket} (h : Broken sent items budget low high live live₁)
    (haccount : live₂.account sent = live₁.account sent) : Broken sent items budget low high live live₂ := by
  obtain ⟨log, out, hlogged, hstretch⟩ := h
  exact ⟨log, out, hlogged.of_account (congrArg (·.1) haccount) (congrArg (·.2.2) haccount), hstretch⟩

/-- A PLC that rejects a whole write settles what is out. -/
theorem Broken.globalReject {budget : Nat} {items : List S7.WriteItem} {low high : Nat × Nat} {sent : W → List Bytes}
    {live live₁ : Live W Socket} (h : Broken sent items budget low high live live₁) :
    Broken sent items budget low high live { live₁ with session :=
      { live₁.session with writeProgress := live₁.session.writeProgress.globalReject } } := by
  obtain ⟨log, out, hlogged, hstretch⟩ := h
  refine ⟨log ++ out.sendings .globalRejected, none, hlogged.finish rfl rfl, fun outcome _ => ?_⟩
  rw [show Out.sendings none outcome = [] from rfl, List.append_nil]
  exact hstretch _ (by simp)

/-- A failed write is reported with an account of what went out of it. -/
theorem ends_reportBroken {α : Type} {progressOf : α → WriteProgress} {items : List S7.WriteItem}
    {live live₁ : Live (W × List Bytes) Socket} {error : RuntimeError} (hempty : live.session.writeProgress = {})
    (h : Broken Prod.snd items (config.replayBudget config.reconnectRetries) (0, 0) (items.length, 0) live live₁) :
    Ends (do return .error { error, progress := ← takeWriteProgress }) live₁
      (fun (result : Except WriteFailure α) live' => ∃ log,
        Accounted config items live live' (reportedProgress progressOf result) log ∧ ∀ a, result ≠ .ok a)
      fun _ _ => False := by
  obtain ⟨log, out, hlogged, hstretch⟩ := h
  refine ends_bind.mpr ((ends_takeWriteProgress hempty hlogged (hstretch _ (by simp))).mono ?_ fun _ _ h => h)
  exact fun progress live' h => ends_pure.mpr ⟨_, h, by simp⟩

/-- A detailed write, from a body that goes over the items and a handler that reports. -/
theorem ends_accounted {α : Type} {progressOf : α → WriteProgress} {items : List S7.WriteItem}
    {live : Live (W × List Bytes) Socket} {post : α → Prop}
    {body : Program (Live (W × List Bytes) Socket) (Except WriteFailure α)}
    {handler : RuntimeError → Program (Live (W × List Bytes) Socket) (Except WriteFailure α)}
    (hlive : live.session.Sound)
    (hbody : ∀ live₀, live₀.session.Sound → live₀.session.writeProgress = {} → Ends body live₀
      (fun result live' => ∃ log, Accounted config items live₀ live' (reportedProgress progressOf result) log ∧
        ∀ a, result = .ok a → post a)
      fun _ live' => Broken Prod.snd items (config.replayBudget config.reconnectRetries) (0, 0) (items.length, 0)
        live₀ live')
    (hhandler : ∀ error live₀ live₁, live₀.session.writeProgress = {} →
      Broken Prod.snd items (config.replayBudget config.reconnectRetries) (0, 0) (items.length, 0) live₀ live₁ →
      Ends (handler error) live₁ (fun result live' => ∃ log,
        Accounted config items live₀ live' (reportedProgress progressOf result) log ∧ ∀ a, result ≠ .ok a)
        fun _ _ => False) :
    Ends (do
      modifySession fun session => { session with writeProgress := {} }
      tryCatch body handler) live
      (fun result live' => ∃ log, Accounted config items live live' (reportedProgress progressOf result) log ∧
        ∀ a, result = .ok a → post a) fun _ _ => False := by
  refine ends_bind.mpr (ends_modifySession.mpr (ends_tryCatch.mpr ?_))
  refine (hbody { live with session := { live.session with writeProgress := {} } }
    ⟨hlive.connected, hlive.minimum⟩ rfl).mono ?_ fun error live₁ h => ?_
  · rintro result live' ⟨log, haccounted, hpost⟩
    exact ⟨log, ⟨haccounted.attempts, haccounted.requests, haccounted.stretch, haccounted.once⟩, hpost⟩
  · refine (hhandler error _ live₁ rfl h).mono ?_ fun _ _ h => h
    rintro result live' ⟨log, haccounted, hfailed⟩
    exact ⟨log, ⟨haccounted.attempts, haccounted.requests, haccounted.stretch, haccounted.once⟩, fun a h => absurd h (hfailed a)⟩

/-- The deadline of a write, before anything goes out. -/
theorem ends_writeDeadline {timeoutMs : Option Nat} {live : Live (W × List Bytes) Socket} (hlive : live.session.Sound)
    (hidle : live.session.writeProgress.pending = #[]) :
    Ends (receiveDeadline network.recorded timeoutMs) live
      (fun _ live' => live'.session.Sound ∧ Logged Prod.snd live live' [] none)
      fun _ live' => Logged Prod.snd live live' [] none := by
  have observed := network.observed_recorded
  refine (Ends.and (keeps_receiveDeadline _ live hlive) ((leaves_receiveDeadline observed _).ends live)).mono ?_ ?_
  · exact fun _ _ h => ⟨h.1.1, (Logged.start hidle).of_account (congrArg (·.1) h.2) (congrArg (·.2.2) h.2)⟩
  · exact fun _ _ h => (Logged.start hidle).of_account (congrArg (·.1) h.2) (congrArg (·.2.2) h.2)

/-- The report of a write that went well, from its log. -/
theorem ends_reportWritten {items : List S7.WriteItem} {live live₁ : Live (W × List Bytes) Socket} {log : List Sending}
    (hempty : live.session.writeProgress = {}) (hlogged : Logged Prod.snd live live₁ log none)
    (hstretch : Stretch items (config.replayBudget config.reconnectRetries) (0, 0) (items.length, 0) log) :
    Ends takeWriteProgress live₁ (fun progress live' => Accounted config items live live' progress log)
      fun _ _ => False := by
  have hnone : log ++ Out.sendings none .pending = log := List.append_nil log
  have h := ends_takeWriteProgress hempty hlogged (hnone.symm ▸ hstretch)
  rwa [hnone] at h

/-- A network on which every request gets the acknowledgement of the first write. -/
def acknowledging : Network Unit Unit where
  monoMsNow w := (0, w)
  connectUntil _ _ _ _ := throw (.userError "connection refused")
  sendData _ _ := pure ()
  sendDataUntil _ _ _ := pure ()
  receiveDataUntil _ _ _ := pure (S7.ackDataBytes 2 [5, 1] [0xff])
  disconnect _ _ := pure ()
  shutdown _ := pure ()

/-- A session that is connected to it, before its first request. -/
def acknowledged : Live (Unit × List Bytes) Unit where
  session := { connection := some ⟨(), 1, 1, 10⟩, state := .connected, currentPduLength := 240, nextReference := 2 }
  world := ((), [])

end Reports

end ClassicS7
