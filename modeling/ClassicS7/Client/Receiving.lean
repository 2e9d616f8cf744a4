import ClassicS7.Client.Transport

/-! What a receive takes from the stream.

A stream delivers the peer's bytes in order, in chunks of any size. `Carries` says
what packets carry a payload: data units of which only the last says that it is.
Whatever the chunks, a receive that returns has taken the packets that carry what it
returns, and one that fails has not taken more than its budgets
(`receiveDataUntil_takes`); on a stream that keeps up, it returns the payload that
the next packets carry and leaves what follows them (`receiveDataUntil_returns`). -/
namespace ClassicS7.Transport
open Effect

/-! ### Streams -/

/-- The bytes that a raced receive has delivered. -/
def TimeoutResult.bytes : TimeoutResult (Option Bytes) → Bytes
  | .completed data => data.getD []
  | .timedOut => []

section Streams
variable {W Socket : Type}

/-- The bytes still to come on a socket: a receive takes some of them from the front,
no more than asked for, and a failed receive none. -/
structure Stream (native : Native W Socket) (socket : Socket) (pending : W → Bytes) : Prop where
  clock : ∀ w, pending (native.monoMsNow w).2 = pending w
  recv : ∀ w count, Ends (native.recv socket count) w
    (fun data w' => pending w = data.getD [] ++ pending w' ∧ (data.getD []).length ≤ count.toNat)
    fun _ w' => pending w' = pending w
  race : ∀ w ms count, Ends (native.race ms (native.recv socket count)) w
    (fun result w' => pending w = result.bytes ++ pending w' ∧ result.bytes.length ≤ count.toNat)
    fun _ w' => pending w' = pending w

/-- A stream that keeps up with a deadline. `time steps w` says that in the world `w` there
is time for so many steps, each a reading of the clock or a receive. While bytes are still
to come, a receive delivers some of them, and then there is time for the next round: a
receive between two readings of the clock. -/
structure Prompt (native : Native W Socket) (socket : Socket) (pending : W → Bytes) (deadline : Option Nat)
    (time : Nat → W → Prop) : Prop extends Stream native socket pending where
  fewer : ∀ {steps w}, time (steps + 1) w → time steps w
  reading : ∀ {steps w}, time (steps + 1) w → time steps (native.monoMsNow w).2 ∧
    ∀ limit ∈ deadline, (native.monoMsNow w).1 < limit ∧ limit ≤ (native.monoMsNow w).1 + maximumTimeoutMs
  recv_some : ∀ {steps w} count, time (steps + 1) w → pending w ≠ [] → 0 < count.toNat →
    Ends (native.recv socket count) w (fun data w' => data.getD [] ≠ [] ∧ time 3 w') fun _ _ => False
  race_some : ∀ {steps w} ms count, time (steps + 1) w → pending w ≠ [] → 0 < count.toNat →
    Ends (native.race ms (native.recv socket count)) w (fun result w' => result.bytes ≠ [] ∧ time 3 w')
      fun _ _ => False

/-- Packets that carry a payload in data units, of which only the last says that it is. -/
inductive Carries : List Bytes → Bytes → Prop where
  | last {packet payload : Bytes} (framed : TPKT.Framed packet)
      (unit : packet.drop 4 = COTP.encodeData { payload }) : Carries [packet] payload
  | more {packet first : Bytes} {packets : List Bytes} {later : Bytes} (framed : TPKT.Framed packet)
      (unit : packet.drop 4 = COTP.encodeData { payload := first, endOfTransmission := false })
      (rest : Carries packets later) : Carries (packet :: packets) (first ++ later)

end Streams

section Receiving
variable {W Socket : Type} {native : Native W Socket} {socket : Socket} {pending : W → Bytes}
  {deadline : Option Nat} {w : W}

@[simp] theorem orThrow_ok {ε α : Type} [Repr ε] {a : α} : (orThrow (.ok a : Except ε α) : Program W α) = pure a :=
  rfl

@[simp] theorem orThrow_error {ε α : Type} [Repr ε] {e : ε} :
    (orThrow (.error e : Except ε α) : Program W α) = throw (ClientError.protocol (reprStr e)) := rfl

/-! ### Any stream -/

section Stream
variable (stream : Stream native socket pending)
include stream

theorem Stream.remaining : Ends (remainingReceiveTime native deadline) w
    (fun _ w' => pending w' = pending w) fun _ w' => pending w' = pending w := by
  cases deadline with
  | none => exact rfl
  | some limit =>
    simp only [remainingReceiveTime, validateTimeoutMs, ends_bind, ends_now, ends_ite, ends_throw, ends_pure]
    have hclock := stream.clock w
    split
    · exact hclock
    · split
      · exact hclock
      · exact hclock

/-- A receive takes what it returns; one that fails may have lost what it took. -/
theorem Stream.receiveSome {count : Nat} (hcount : count < 2 ^ 64) :
    Ends (receiveSome native socket count deadline) w
      (fun data w' => pending w = data.getD [] ++ pending w' ∧ (data.getD []).length ≤ count)
      fun _ w' => ∃ taken, pending w = taken ++ pending w' ∧ taken.length ≤ count := by
  have hsize : count.toUInt64.toNat = count := Nat.mod_eq_of_lt hcount
  simp only [Transport.receiveSome, ends_bind]
  refine stream.remaining.mono (fun timeoutMs w₁ h₁ => ?_) fun _ w₁ h₁ => ⟨[], h₁.symm, Nat.zero_le _⟩
  cases timeoutMs with
  | none =>
    refine (stream.recv w₁ _).mono (fun data w₂ h₂ => ?_) fun _ w₂ h₂ => ⟨[], ?_, Nat.zero_le _⟩
    · rwa [h₁, hsize] at h₂
    · exact (h₂.trans h₁).symm
  | some ms =>
    rw [ends_bind]
    refine (stream.race w₁ ms _).mono (fun result w₂ h₂ => ?_) fun _ w₂ h₂ => ⟨[], ?_, Nat.zero_le _⟩
    · rw [h₁, hsize] at h₂
      cases result with
      | completed data =>
        rw [ends_bind]
        refine stream.remaining.mono (fun _ w₃ h₃ => ?_) fun _ w₃ h₃ => ⟨data.getD [], ?_, h₂.2⟩
        · rw [ends_pure, h₃]
          exact h₂
        · rw [h₃]
          exact h₂.1
      | timedOut => exact ⟨[], h₂.1, Nat.zero_le _⟩
    · exact (h₂.trans h₁).symm

theorem Stream.receiveExactUntil {count : Nat} {result : Bytes} (hcount : count < 2 ^ 64)
    (hresult : result.length ≤ count) :
    Ends (receiveExactUntil native socket count deadline result) w
      (fun received w' => ∃ taken, received = result ++ taken ∧ received.length = count ∧
        pending w = taken ++ pending w')
      fun _ w' => ∃ taken, pending w = taken ++ pending w' ∧ taken.length ≤ count - result.length := by
  fun_induction Transport.receiveExactUntil native socket count deadline result generalizing w with
  | case1 result hmore ih =>
    rw [ends_bind]
    refine (stream.receiveSome (by omega)).mono (fun data w₁ h₁ => ?_) fun _ w₁ h₁ => h₁
    cases data with
    | none => exact ⟨[], h₁.1, Nat.zero_le _⟩
    | some chunk =>
      have hchunk : pending w = chunk ++ pending w₁ ∧ chunk.length ≤ count - result.length := h₁
      rw [ends_ite]
      split
      · exact ⟨chunk, hchunk⟩
      · rename_i hnonempty
        refine (ih chunk hnonempty ?_).mono ?_ ?_
        · rw [List.length_append]
          omega
        · rintro received w₂ ⟨taken, rfl, hlength, h₂⟩
          refine ⟨chunk ++ taken, List.append_assoc .., hlength, ?_⟩
          rw [hchunk.1, h₂, List.append_assoc]
        · rintro _ w₂ ⟨taken, h₂, hlength⟩
          refine ⟨chunk ++ taken, ?_, ?_⟩
          · rw [hchunk.1, h₂, List.append_assoc]
          · rw [List.length_append] at hlength ⊢
            omega
  | case2 result hdone => exact ⟨[], (List.append_nil _).symm, by omega, rfl⟩

/-- A frame is taken whole, and its declared body fits the limit. -/
theorem Stream.receiveFrameUntil {maxBodySize : Nat} {detail : String} :
    Ends (receiveFrameUntil native socket deadline maxBodySize detail) w
      (fun payload w' => ∃ packet, TPKT.Framed packet ∧ payload = packet.drop 4 ∧ payload.length ≤ maxBodySize ∧
        pending w = packet ++ pending w')
      fun _ w' => ∃ taken, pending w = taken ++ pending w' ∧ taken.length ≤ 4 + maxBodySize := by
  unfold Transport.receiveFrameUntil
  refine ends_bind.mpr ((stream.receiveExactUntil (by decide) (Nat.zero_le _)).mono ?_ ?_)
  · rintro header w₁ ⟨_, rfl, hlength, h₁⟩
    have hheader : header.length = 4 := hlength
    have hlost : ∃ taken, pending w = taken ++ pending w₁ ∧ taken.length ≤ 4 + maxBodySize :=
      ⟨header, h₁, by omega⟩
    rw [Cursor.readUInt8_at (by omega), orThrow_ok, ends_bind, ends_pure]
    refine ends_guard.mpr ⟨fun _ => hlost, fun hversion => ?_⟩
    dsimp only
    rw [Cursor.readUInt16BE_at (by omega), orThrow_ok, ends_bind, ends_pure]
    refine ends_guard.mpr ⟨fun _ => hlost, fun hsmallest => ?_⟩
    refine ends_guard.mpr ⟨fun _ => hlost, fun hlargest => ?_⟩
    simp only [S7.toNat_wordAt, TPKT.minFrameSize, TPKT.headerSize] at hsmallest hlargest ⊢
    have hword := wordAt_lt header 2
    refine ends_bind.mpr ((stream.receiveExactUntil (by omega) (Nat.zero_le _)).mono ?_ ?_)
    · rintro body w₂ ⟨_, rfl, hbody, h₂⟩
      have framed : TPKT.Framed (header ++ body) := {
        version := by
          rw [byteAt_append_left _ _ _ (by omega)]
          exact (S7.byte_check ..).mp hversion
        extent := by
          rw [wordAt_append_left _ _ _ (by omega), List.length_append]
          omega
        smallest := by
          rw [List.length_append]
          omega }
      rw [TPKT.decode_framed framed, orThrow_ok, ends_bind, ends_pure, ends_pure]
      refine ⟨header ++ body, framed, rfl, ?_, ?_⟩
      · rw [List.length_drop, List.length_append]
        omega
      · rw [h₁, h₂, List.append_assoc]
    · rintro _ w₂ ⟨taken, h₂, htaken⟩
      refine ⟨header ++ taken, ?_, ?_⟩
      · rw [h₁, h₂, List.append_assoc]
      · simp only [List.length_append, List.length_nil] at htaken ⊢
        omega
  · rintro _ w₁ ⟨taken, h₁, hlength⟩
    exact ⟨taken, h₁, Nat.le_add_right_of_le hlength⟩

theorem Stream.receiveDataSegments {maximum maxSegments : Nat} {state : COTP.Reassembly} :
    Ends (receiveDataSegments native socket deadline maximum maxSegments state) w
      (fun payload w' => ∃ packets later, Carries packets later ∧ payload = state.payload ++ later ∧
        pending w = packets.flatten ++ pending w' ∧ state.segments + packets.length ≤ maxSegments ∧
        payload.length ≤ maximum)
      fun _ w' => ∃ taken, pending w = taken ++ pending w' ∧
        taken.length ≤ (maximum - state.payload.length) + 7 * (maxSegments - state.segments) := by
  fun_induction Transport.receiveDataSegments native socket deadline maximum maxSegments state generalizing w with
  | case1 state _ => exact ⟨[], rfl, Nat.zero_le _⟩
  | case2 state hroom ih =>
    refine ends_bind.mpr (stream.receiveFrameUntil.mono ?_ ?_)
    · rintro body w₁ ⟨packet, framed, rfl, hbody, h₁⟩
      have hlength := framed.smallest
      rw [List.length_drop] at hbody
      have hlost : ∃ taken, pending w = taken ++ pending w₁ ∧
          taken.length ≤ (maximum - state.payload.length) + 7 * (maxSegments - state.segments) :=
        ⟨packet, h₁, by omega⟩
      cases hsegment : COTP.decodeData (packet.drop 4) with
      | error error => exact hlost
      | ok segment =>
        rw [orThrow_ok, ends_bind, ends_pure]
        have hunit := COTP.decodeData_eq_ok.mp hsegment
        have hsize := congrArg List.length hunit
        rw [COTP.length_encodeData, List.length_drop] at hsize
        obtain ⟨first, endOfTransmission⟩ := segment
        split
        · exact hlost
        · rename_i next complete hpush
          obtain ⟨hsegments, hfits, rfl, rfl⟩ := COTP.Reassembly.pushResourceBounded_eq_ok.mp hpush
          simp only [COTP.Reassembly.push] at hpush hfits hsize ⊢
          split
          · rename_i hcomplete
            obtain rfl : complete = true := hcomplete
            refine ⟨[packet], first, .last framed hunit, rfl, by simpa using h₁, hsegments, ?_⟩
            rw [List.length_append]
            exact hfits
          · rename_i hmore
            obtain rfl : complete = false := Bool.eq_false_iff.mpr hmore
            refine (ih _ _ _ hpush).mono ?_ ?_
            · rintro payload w₂ ⟨packets, later, carries, rfl, h₂, hcount, hpayload⟩
              refine ⟨packet :: packets, first ++ later, .more framed hunit carries, List.append_assoc .., ?_, ?_,
                hpayload⟩
              · rw [h₁, h₂, List.flatten_cons, List.append_assoc]
              · rw [List.length_cons]
                dsimp only at hcount
                omega
            · rintro _ w₂ ⟨taken, h₂, htaken⟩
              refine ⟨packet ++ taken, ?_, ?_⟩
              · rw [h₁, h₂, List.append_assoc]
              · simp only [List.length_append] at htaken ⊢
                omega
    · rintro _ w₁ ⟨taken, h₁, htaken⟩
      exact ⟨taken, h₁, by omega⟩

end Stream

/-! ### A stream that keeps up -/

section Prompt
variable {time : Nat → W → Prop} (prompt : Prompt native socket pending deadline time)
include prompt

theorem Prompt.remaining {steps : Nat} (htime : time (steps + 1) w) : Ends (remainingReceiveTime native deadline) w
    (fun _ w' => pending w' = pending w ∧ time steps w') fun _ _ => False := by
  cases deadline with
  | none => exact ⟨rfl, prompt.fewer htime⟩
  | some limit =>
    obtain ⟨hnext, hlimit⟩ := prompt.reading htime
    obtain ⟨hbefore, hbudget⟩ := hlimit limit rfl
    simp only [remainingReceiveTime, validateTimeoutMs, ends_bind, ends_now, ends_ite, ends_throw, ends_pure]
    rw [if_neg (by omega), if_neg (by omega)]
    exact ⟨prompt.clock w, hnext⟩

theorem Prompt.receiveSome {count : Nat} (hcount : count < 2 ^ 64) (hpositive : 0 < count)
    (hpending : pending w ≠ []) (htime : time 2 w) :
    Ends (receiveSome native socket count deadline) w
      (fun data w' => data.getD [] ≠ [] ∧ pending w = data.getD [] ++ pending w' ∧
        (data.getD []).length ≤ count ∧ time 2 w')
      fun _ _ => False := by
  have hsize : count.toUInt64.toNat = count := Nat.mod_eq_of_lt hcount
  simp only [Transport.receiveSome, ends_bind]
  refine (prompt.remaining htime).mono (fun timeoutMs w₁ h₁ => ?_) fun _ _ h => h
  obtain ⟨hsame, htime₁⟩ := h₁
  rw [← hsame] at hpending ⊢
  cases timeoutMs with
  | none =>
    refine ((prompt.recv w₁ count.toUInt64).and (prompt.recv_some _ htime₁ hpending (by omega))).mono ?_
      fun _ _ h => h.2
    rintro data w₂ ⟨⟨htaken, hlength⟩, hsome, htime₂⟩
    exact ⟨hsome, htaken, hsize ▸ hlength, prompt.fewer htime₂⟩
  | some ms =>
    rw [ends_bind]
    refine ((prompt.race w₁ ms count.toUInt64).and (prompt.race_some ms _ htime₁ hpending (by omega))).mono ?_
      fun _ _ h => h.2
    rintro result w₂ ⟨⟨htaken, hlength⟩, hsome, htime₂⟩
    rw [hsize] at hlength
    cases result with
    | completed data =>
      rw [ends_bind]
      refine (prompt.remaining htime₂).mono (fun _ w₃ h₃ => ?_) fun _ _ h => h
      rw [ends_pure, h₃.1]
      exact ⟨hsome, htaken, hlength, h₃.2⟩
    | timedOut => exact absurd rfl hsome

/-- While enough bytes are to come, it does not fail. -/
theorem Prompt.receiveExactUntil_total {count : Nat} {result : Bytes} (hcount : count < 2 ^ 64)
    (hpending : count - result.length ≤ (pending w).length) (htime : time 2 w) :
    Ends (receiveExactUntil native socket count deadline result) w (fun _ w' => time 2 w') fun _ _ => False := by
  fun_induction Transport.receiveExactUntil native socket count deadline result generalizing w with
  | case1 result hmore ih =>
    rw [ends_bind]
    have hsome : pending w ≠ [] := List.ne_nil_of_length_pos (by omega)
    refine (prompt.receiveSome (by omega) (by omega) hsome htime).mono ?_ fun _ _ h => h
    rintro data w₁ ⟨hnonempty, htaken, hlength, htime₁⟩
    cases data with
    | none => exact absurd rfl hnonempty
    | some chunk =>
      have hchunk : chunk.length ≠ 0 := mt List.length_eq_zero_iff.mp hnonempty
      have htaken := congrArg List.length htaken
      rw [Option.getD_some, List.length_append] at htaken
      rw [ends_ite, if_neg hchunk]
      refine ih chunk hchunk ?_ htime₁
      rw [List.length_append]
      omega
  | case2 result hdone => exact htime

/-- It receives exactly the next bytes. -/
theorem Prompt.receiveExactUntil {count : Nat} {wanted rest : Bytes} (hcount : count < 2 ^ 64)
    (hwanted : wanted.length = count) (hpending : pending w = wanted ++ rest) (htime : time 2 w) :
    Ends (receiveExactUntil native socket count deadline) w
      (fun received w' => received = wanted ∧ pending w' = rest ∧ time 2 w') fun _ _ => False := by
  have htotal : count - ([] : Bytes).length ≤ (pending w).length := by
    rw [hpending, List.length_append]
    omega
  refine ((prompt.toStream.receiveExactUntil hcount (Nat.zero_le _)).and
    (prompt.receiveExactUntil_total hcount htotal htime)).mono ?_ fun _ _ h => h.2
  rintro _ w' ⟨⟨taken, rfl, hlength, htaken⟩, htime'⟩
  rw [hpending] at htaken
  obtain ⟨rfl, hrest⟩ := List.append_inj htaken (hwanted.trans hlength.symm)
  exact ⟨rfl, hrest.symm, htime'⟩

/-- It receives exactly the next packet, if its body fits. -/
theorem Prompt.receiveFrameUntil {maxBodySize : Nat} {detail : String} {packet rest : Bytes}
    (framed : TPKT.Framed packet) (hbody : packet.length - 4 ≤ maxBodySize) (hpending : pending w = packet ++ rest)
    (htime : time 2 w) :
    Ends (receiveFrameUntil native socket deadline maxBodySize detail) w
      (fun payload w' => payload = packet.drop 4 ∧ pending w' = rest ∧ time 2 w') fun _ _ => False := by
  have hextent := framed.extent
  have hsmallest := framed.smallest
  have hword := wordAt_lt packet 2
  have hheader : (packet.take 4).length = 4 := by
    rw [List.length_take]
    omega
  have hbyte : byteAt (packet.take 4) 0 = byteAt packet 0 := by
    rw [← byteAt_append_left _ (packet.drop 4) 0 (by omega), List.take_append_drop]
  have hlength : wordAt (packet.take 4) 2 = packet.length := by
    rw [hextent, ← wordAt_append_left _ (packet.drop 4) 2 (by omega), List.take_append_drop]
  unfold Transport.receiveFrameUntil
  have hsplit : pending w = packet.take 4 ++ (packet.drop 4 ++ rest) := by
    rw [← List.append_assoc, List.take_append_drop, hpending]
  refine ends_bind.mpr ((prompt.receiveExactUntil (by decide) hheader hsplit htime).mono ?_ fun _ _ h => h)
  rintro _ w₁ ⟨rfl, h₁, htime₁⟩
  rw [Cursor.readUInt8_at (by omega), orThrow_ok, ends_bind, ends_pure]
  refine ends_guard.mpr ⟨fun h => ?_, fun _ => ?_⟩
  · exact absurd h ((S7.byte_check ..).mpr (hbyte.trans framed.version))
  dsimp only
  rw [Cursor.readUInt16BE_at (by omega), orThrow_ok, ends_bind, ends_pure]
  simp only [S7.toNat_wordAt, TPKT.minFrameSize, TPKT.headerSize]
  rw [hlength]
  refine ends_guard.mpr ⟨fun h => absurd h (by omega), fun _ => ?_⟩
  refine ends_guard.mpr ⟨fun h => absurd h (by omega), fun _ => ?_⟩
  have hrest : (packet.drop 4).length = packet.length - 4 := List.length_drop
  refine ends_bind.mpr ((prompt.receiveExactUntil (by omega) hrest h₁ htime₁).mono ?_ fun _ _ h => h)
  rintro _ w₂ ⟨rfl, h₂⟩
  rw [List.take_append_drop, TPKT.decode_framed framed, orThrow_ok, ends_bind, ends_pure, ends_pure]
  exact ⟨rfl, h₂⟩

/-- It receives exactly the next payload, if it and its segments fit. -/
theorem Prompt.receiveDataSegments {maximum maxSegments : Nat} {packets : List Bytes} {payload rest : Bytes}
    (carries : Carries packets payload) {state : COTP.Reassembly}
    (hpayload : state.payload.length + payload.length ≤ maximum)
    (hsegments : state.segments + packets.length ≤ maxSegments) (hpending : pending w = packets.flatten ++ rest)
    (htime : time 2 w) :
    Ends (receiveDataSegments native socket deadline maximum maxSegments state) w
      (fun received w' => received = state.payload ++ payload ∧ pending w' = rest ∧ time 2 w')
      fun _ _ => False := by
  induction carries generalizing state w with
  | @last packet payload framed unit =>
    rw [List.length_singleton] at hsegments
    rw [List.flatten_singleton] at hpending
    have hsize := congrArg List.length unit
    simp only [COTP.length_encodeData, List.length_drop] at hsize
    rw [Transport.receiveDataSegments, if_neg (by omega)]
    refine ends_bind.mpr ((prompt.receiveFrameUntil framed (by omega) hpending htime).mono ?_ fun _ _ h => h)
    rintro _ w₁ ⟨rfl, h₁, htime₁⟩
    rw [COTP.decodeData_eq_ok.mpr unit, orThrow_ok, ends_bind, ends_pure]
    have hpush : state.pushResourceBounded { payload } maximum maxSegments =
        .ok ({ payload := state.payload ++ payload, segments := state.segments + 1 }, true) :=
      COTP.Reassembly.pushResourceBounded_eq_ok.mpr ⟨hsegments, hpayload, rfl, rfl⟩
    split
    · rename_i herror
      rw [hpush] at herror
      cases herror
    · rename_i hok
      rw [hpush] at hok
      cases hok
      exact ⟨rfl, h₁, htime₁⟩
  | @more packet first packets later framed unit rest ih =>
    rw [List.length_cons] at hsegments
    rw [List.length_append] at hpayload
    rw [List.flatten_cons, List.append_assoc] at hpending
    have hsize := congrArg List.length unit
    simp only [COTP.length_encodeData, List.length_drop] at hsize
    rw [Transport.receiveDataSegments, if_neg (by omega)]
    refine ends_bind.mpr ((prompt.receiveFrameUntil framed (by omega) hpending htime).mono ?_ fun _ _ h => h)
    rintro _ w₁ ⟨rfl, h₁, htime₁⟩
    rw [COTP.decodeData_eq_ok.mpr unit, orThrow_ok, ends_bind, ends_pure]
    have hpush : state.pushResourceBounded { payload := first, endOfTransmission := false } maximum maxSegments =
        .ok ({ payload := state.payload ++ first, segments := state.segments + 1 }, false) :=
      COTP.Reassembly.pushResourceBounded_eq_ok.mpr ⟨by omega, by dsimp only; omega, rfl, rfl⟩
    split
    · rename_i herror
      rw [hpush] at herror
      cases herror
    · rename_i hok
      rw [hpush] at hok
      cases hok
      refine (ih ?_ ?_ h₁ htime₁).mono ?_ fun _ _ h => h
      · rw [List.length_append]
        omega
      · dsimp only
        omega
      · rintro _ w₂ ⟨rfl, h₂⟩
        exact ⟨List.append_assoc .., h₂⟩

end Prompt

/-! ### What a receive leaves alone -/

/-- A view of the world that reading the clock and receiving leave as it is. -/
structure Passive {β : Type} (native : Native W Socket) (socket : Socket) (view : W → β) : Prop where
  clock : ∀ w, view (native.monoMsNow w).2 = view w
  recv : ∀ count, Leaves view (native.recv socket count)
  race : ∀ ms count, Leaves view (native.race ms (native.recv socket count))

section Passive
variable {β : Type} {view : W → β} (passive : Passive native socket view)
include passive

theorem Passive.remaining : Leaves view (remainingReceiveTime native deadline) := by
  refine leaves_iff.mpr fun w => ?_
  cases deadline with
  | none => exact rfl
  | some limit =>
    simp only [remainingReceiveTime, validateTimeoutMs, ends_bind, ends_now, ends_ite, ends_throw, ends_pure,
      passive.clock, ite_self]

theorem Passive.receiveSome (count : Nat) : Leaves view (receiveSome native socket count deadline) := by
  refine passive.remaining.bind fun timeoutMs => ?_
  cases timeoutMs with
  | none => exact passive.recv _
  | some ms =>
    refine (passive.race ms _).bind fun result => ?_
    cases result with
    | completed data => exact passive.remaining.bind fun _ => Discipline.keeps_pure data
    | timedOut => exact Discipline.keeps_throw _

theorem Passive.receiveExactUntil (count : Nat) (result : Bytes) :
    Leaves view (receiveExactUntil native socket count deadline result) := by
  fun_induction Transport.receiveExactUntil native socket count deadline result with
  | case1 result hmore ih =>
    refine (passive.receiveSome _).bind fun data => ?_
    cases data with
    | none => exact Discipline.keeps_throw _
    | some chunk => exact Discipline.Keeps.dite (fun _ => Discipline.keeps_throw _) (ih chunk)
  | case2 result hdone => exact Discipline.keeps_pure result

theorem Passive.receiveFrameUntil (maxBodySize : Nat) (detail : String) :
    Leaves view (receiveFrameUntil native socket deadline maxBodySize detail) := by
  refine (passive.receiveExactUntil _ _).bind fun header => (leaves_orThrow _).bind fun _ => ?_
  refine Discipline.Keeps.guard ((leaves_orThrow _).bind fun _ => ?_)
  refine Discipline.Keeps.guard (Discipline.Keeps.guard ?_)
  exact (passive.receiveExactUntil _ _).bind fun _ => (leaves_orThrow _).bind fun _ => Discipline.keeps_pure _

theorem Passive.receiveDataSegments (maximum maxSegments : Nat) (state : COTP.Reassembly) :
    Leaves view (receiveDataSegments native socket deadline maximum maxSegments state) := by
  fun_induction Transport.receiveDataSegments native socket deadline maximum maxSegments state with
  | case1 state _ => exact Discipline.keeps_throw _
  | case2 state hroom ih =>
    refine (passive.receiveFrameUntil _ _).bind fun _ => (leaves_orThrow _).bind fun segment => ?_
    split
    · exact Discipline.keeps_throw _
    · rename_i next complete hpush
      exact Discipline.Keeps.ite (Discipline.keeps_pure _) (ih segment next complete hpush)

end Passive

/-! ### What comes through -/

/-- **A receive takes what it returns, and no more than its budgets.** On any stream, in
whatever chunks, a payload that is returned fits its limit and is what the packets
taken carry; a receive that fails has taken a bounded part of the stream. -/
theorem receiveDataUntil_takes (stream : Stream native socket pending) (maximum maxSegments : Nat) :
    Ends (receiveDataUntil native socket deadline maximum maxSegments) w
      (fun payload w' => ∃ packets, Carries packets payload ∧ packets.length ≤ maxSegments ∧
        payload.length ≤ maximum ∧ pending w = packets.flatten ++ pending w')
      fun _ w' => ∃ taken, pending w = taken ++ pending w' ∧ taken.length ≤ maximum + 7 * maxSegments := by
  refine stream.receiveDataSegments.mono ?_ ?_
  · rintro _ w' ⟨packets, payload, carries, rfl, htaken, hsegments, hpayload⟩
    exact ⟨packets, carries, by simpa using hsegments, hpayload, htaken⟩
  · rintro _ w' ⟨taken, htaken, hlength⟩
    exact ⟨taken, htaken, by simpa using hlength⟩

end Receiving

/-! ### Scripted chunks -/

/-- The chunks that a peer has still to send, and the time. -/
structure Script where
  chunks : List Bytes
  now : Nat := 0

def Script.pending (script : Script) : Bytes := script.chunks.flatten

/-- A network whose peer sends some chunks and says nothing else. Each reading of the clock
and each receive takes a millisecond; timers never win, and what is sent is lost. -/
def scripted : Native Script Unit where
  monoMsNow := fun script => (script.now, { script with now := script.now + 1 })
  race := fun _ operation => do return .completed (← operation)
  socket := pure ()
  connect := fun _ _ => pure ()
  noDelay := fun _ => pure ()
  send := fun _ _ => pure ()
  recv := fun _ count script =>
    match script.chunks.dropWhile (·.isEmpty) with
    | [] => (.ok none, ⟨[], script.now + 1⟩)
    | chunk :: rest => (.ok (some (chunk.take count.toNat)), ⟨chunk.drop count.toNat :: rest, script.now + 1⟩)
  shutdown := fun _ => pure ()
  getAddrInfo := fun _ _ => pure []

theorem flatten_dropWhile_isEmpty (chunks : List Bytes) : (chunks.dropWhile (·.isEmpty)).flatten = chunks.flatten := by
  induction chunks with
  | nil => rfl
  | cons chunk rest ih =>
    rw [List.dropWhile_cons]
    split
    · rename_i hempty
      rw [ih, List.flatten_cons, List.isEmpty_iff.mp hempty, List.nil_append]
    · rfl

/-- It delivers its chunks, cut to what is asked for. -/
theorem scripted_recv (script : Script) (count : UInt64) : Ends (scripted.recv () count) script
    (fun data next => script.pending = data.getD [] ++ next.pending ∧ (data.getD []).length ≤ count.toNat ∧
      (script.pending ≠ [] → 0 < count.toNat → data.getD [] ≠ []) ∧ next.now = script.now + 1)
    fun _ _ => False := by
  have hflatten := flatten_dropWhile_isEmpty script.chunks
  unfold Ends
  simp only [scripted, ExceptT.run, StateT.run, Script.pending]
  cases hchunks : script.chunks.dropWhile (·.isEmpty) with
  | nil =>
    rw [hchunks] at hflatten
    exact ⟨hflatten.symm, Nat.zero_le _, fun hpending => absurd hflatten.symm hpending, rfl⟩
  | cons chunk rest =>
    have hsome : chunk ≠ [] := by
      have hhead := List.head?_dropWhile_not (fun chunk : Bytes => chunk.isEmpty) script.chunks
      rw [hchunks] at hhead
      simpa using hhead
    rw [hchunks] at hflatten
    refine ⟨?_, List.length_take_le _ _, fun _ hcount => ?_, rfl⟩
    · rw [← hflatten, List.flatten_cons, List.flatten_cons, Option.getD_some, ← List.append_assoc,
        List.take_append_drop]
    · rw [Option.getD_some]
      exact mt List.take_eq_nil_iff.mp (not_or.mpr ⟨by omega, hsome⟩)

theorem ends_scripted_race {α : Type} {ms : Nat} {operation : Program Script α} {script : Script}
    {ok : TimeoutResult α → Script → Prop} {error : RuntimeError → Script → Prop} :
    Ends (scripted.race ms operation) script ok error ↔
      Ends operation script (fun a next => ok (.completed a) next) error := ends_bind

theorem scripted_stream : Stream scripted () Script.pending where
  clock := fun _ => rfl
  recv := fun script count => (scripted_recv script count).mono (fun _ _ h => ⟨h.1, h.2.1⟩) fun _ _ h => h.elim
  race := fun script _ count => ends_scripted_race.mpr
    ((scripted_recv script count).mono (fun _ _ h => ⟨h.1, h.2.1⟩) fun _ _ h => h.elim)

/-- There is time for so many steps, and for three more with each byte still to come. -/
def Script.InTime (deadline : Option Nat) (steps : Nat) (script : Script) : Prop :=
  ∀ limit ∈ deadline, script.now + steps + 3 * script.pending.length ≤ limit ∧
    limit ≤ script.now + maximumTimeoutMs

/-- A receive takes a step, and delivers a byte at least. -/
theorem scripted_recv_some {deadline : Option Nat} {steps : Nat} {script : Script} (count : UInt64)
    (htime : script.InTime deadline (steps + 1)) (hpending : script.pending ≠ []) (hcount : 0 < count.toNat) :
    Ends (scripted.recv () count) script (fun data next => data.getD [] ≠ [] ∧ next.InTime deadline 3)
      fun _ _ => False := by
  refine (scripted_recv script count).mono ?_ fun _ _ h => h
  rintro data next ⟨htaken, -, hsome, hnow⟩
  refine ⟨hsome hpending hcount, fun limit hlimit => ?_⟩
  have hbefore := htime limit hlimit
  have hlength := congrArg List.length htaken
  have hpositive := List.length_pos_iff.mpr (hsome hpending hcount)
  rw [List.length_append] at hlength
  omega

/-- It keeps up with every deadline. -/
theorem scripted_prompt (deadline : Option Nat) :
    Prompt scripted () Script.pending deadline (Script.InTime deadline) where
  toStream := scripted_stream
  fewer := by
    intro steps script h limit hlimit
    have hbefore := h limit hlimit
    omega
  reading := by
    intro steps script h
    constructor
    · intro limit hlimit
      have hbefore := h limit hlimit
      have hlength : (scripted.monoMsNow script).2.pending.length = script.pending.length := rfl
      have hnow : (scripted.monoMsNow script).2.now = script.now + 1 := rfl
      omega
    · intro limit hlimit
      have hbefore := h limit hlimit
      have hnow : (scripted.monoMsNow script).1 = script.now := rfl
      omega
  recv_some := fun count htime hpending hcount => scripted_recv_some count htime hpending hcount
  race_some := fun _ count htime hpending hcount =>
    ends_scripted_race.mpr (scripted_recv_some count htime hpending hcount)

/-- Two segments of a payload, and the first byte of another packet, in chunks of no
regular size. -/
def sampleScript : Script where
  chunks := [[3], [0, 0, 9, 2], [0xf0, 0, 0x32, 1, 3, 7], [0, 8, 2, 0xf0, 0x80, 5, 3]]
  now := 4900

theorem receiveDataUntil_takes_sample :
    Ends (receiveDataUntil scripted () (some 5000) 480 2) sampleScript
      (fun payload rest => ∃ packets, Carries packets payload ∧ packets.length ≤ 2 ∧
        payload.length ≤ 480 ∧ sampleScript.pending = packets.flatten ++ rest.pending)
      fun _ rest => ∃ taken, sampleScript.pending = taken ++ rest.pending ∧ taken.length ≤ 480 + 7 * 2 :=
  receiveDataUntil_takes scripted_stream 480 2

end ClassicS7.Transport
