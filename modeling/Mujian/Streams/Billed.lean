import Mujian.Streams.Authorized
import Mujian.Streams.Protocol

/-!
# Output that is delivered is billed

The output in a managed stream is counted twice: what the upstream has sent, against which the
final usage is checked, and what was written to the client, from which a stream that breaks off is
settled. A ping and a `message_stop` escape both counts. Where these carry no output, and all output
is flushed, the completion that is settled covers what was delivered.
-/

namespace Mujian.Streams

open Pricing Relay

/-- The bytes of output in an event. -/
def evidenceBytes (response : ClaudeResponse) : ℤ :=
  match claudeStreamBillableEvidence response with
  | .ok evidence => evidence.bytes
  | .error _ => 0

theorem evidenceBytes_nonneg (response : ClaudeResponse) : 0 ≤ evidenceBytes response := by
  rw [evidenceBytes]
  split
  · next hevidence => exact claudeStreamBillableEvidence_nonneg hevidence
  · exact le_rfl

def Payload.evidenceBytes : Payload → ℤ
  | .event response _ => Streams.evidenceBytes response
  | _ => 0

/-- The bytes of output in all events that were handed to the connection of the client. -/
def deliveredBytes (run : StreamRun) : ℤ := (run.delivered.map Payload.evidenceBytes).sum

def addedBytes (write : WriteOutcome) (payload : Option Payload) : ℤ :=
  if write.delivers then (payload.map Payload.evidenceBytes).getD 0 else 0

theorem deliveredBytes_after (relay : ClaudeRelay) (run : StreamRun) (event : Event)
    (write : WriteOutcome) (handled : Handled) :
    deliveredBytes (run.after relay event write handled) =
      deliveredBytes run + addedBytes write handled.payload := by
  rw [deliveredBytes, deliveredBytes, addedBytes]
  change ((run.delivered ++ if write.delivers then handled.payload.toList else []).map _).sum = _
  split
  · cases handled.payload <;> simp
  · simp

/-- The event holds no output that escapes the counts: none in a ping that is forwarded, none in a
`message_stop` after the final usage, and none in an event before it whose write is not flushed. -/
structure Counts (claude : ClaudeResponseInfo) (write : WriteOutcome) (response : ClaudeResponse) :
    Prop where
  ping : response.type = .ping → claude.sawMessageStart = true → claude.sawValidInputUsage = true →
    evidenceBytes response = 0
  stop : response.type = .messageStop → claude.sawTerminalUsage = true → evidenceBytes response = 0
  flush : write = .unflushed → ¬ Ends response → evidenceBytes response = 0

/-- Every event of the stream satisfies the condition in the state that it arrives in. -/
def Countable (relay : ClaudeRelay) (arrivals : List Arrival) : Prop :=
  ∀ before event write, before ++ [.data event write] <+: arrivals →
    ∀ response, event.response = .ok response →
      Counts (streamScannerHandler relay before).claude write response

variable {claude : ClaudeResponseInfo} {response : ClaudeResponse} {projected delivered : ℤ}
  {relay : ClaudeRelay} {wire : Wire} {write : WriteOutcome} {run : StreamRun} {event : Event}
  {handled : Handled}

theorem Admitted.projected_eq (h : Admitted claude response projected) :
    projected = claude.upstreamBillableOutputBytes + evidenceBytes response := by
  have hmeasured := h.measured
  rw [projectedUpstreamBillableBytes, except_bind_eq_ok_iff] at hmeasured
  obtain ⟨evidence, hevidence, hchecked⟩ := hmeasured
  rw [checkedClaudeBillableOutputBytes, ite_error_eq_ok_iff] at hchecked
  obtain ⟨-, hchecked⟩ := hchecked
  cases hchecked
  rw [evidenceBytes, hevidence]

theorem written_eq {after : ClaudeResponseInfo}
    {payload : Payload} {written : BillableEvidence} {suffix : List Char}
    (hmanaged : relay.isManagedClaudeRelay = true) (hformat : relay.info.relayFormat = .claude)
    (h : checkWritten relay after response payload = .ok (written, suffix)) :
    written.bytes = evidenceBytes response := by
  have hevidence := (checkWritten_ok h).1
  rw [writtenEvidence, if_pos hmanaged, hformat] at hevidence
  simp only [except_bind_eq_ok_iff] at hevidence
  obtain ⟨evidence, hevidence, _, _, hresult⟩ := hevidence
  cases hresult
  rw [claudeWrittenStreamBillableEvidence] at hevidence
  rw [evidenceBytes, hevidence]

theorem recorded_bytes (hmanaged : relay.isManagedClaudeRelay = true)
    (hrelays : relay.relays) (claude : ClaudeResponseInfo) (response : ClaudeResponse)
    (wire : Wire) (projected : ℤ) :
    (recorded relay claude response wire projected).upstreamBillableOutputBytes = projected ∧
      (recorded relay claude response wire projected).billableOutputBytes =
        claude.billableOutputBytes := by
  obtain ⟨bytes, indexes, next, hbytes, heq⟩ := recorded_eq hrelays claude response wire projected
  rw [heq]
  refine ⟨hbytes hmanaged, ?_⟩
  rw [formatClaudeResponseInfo]
  split
  · cases response.message <;> rfl
  all_goals rfl

theorem recorded_open (hrelays : relay.relays)
    (h : (recorded relay claude response wire projected).sawTerminalUsage = false) :
    claude.sawTerminalUsage = false ∧
      (response.type = .messageDelta → ClaudeResponseInfo.terminates response = false) := by
  obtain ⟨bytes, indexes, next, -, heq⟩ := recorded_eq hrelays claude response wire projected
  rw [heq] at h
  rw [formatClaudeResponseInfo] at h
  cases htype : response.type with
  | messageDelta =>
    rw [htype] at h
    change (claude.sawTerminalUsage || ClaudeResponseInfo.terminates response) = false at h
    rw [Bool.or_eq_false_iff] at h
    exact ⟨h.1, fun _ => h.2⟩
  | messageStart =>
    rw [htype] at h
    refine ⟨?_, fun hdelta => by cases hdelta⟩
    cases hmessage : response.message with
    | none | some =>
      rw [hmessage] at h
      exact h
  | messageStop | contentBlockDelta | contentBlockStart | contentBlockStop | ping | error | other =>
    rw [htype] at h
    exact ⟨h, fun hdelta => by cases hdelta⟩

/-- What covers the delivered output: what the upstream has sent, what was recorded as written until
the final usage, and the completion from then on. -/
structure Covered (claude : ClaudeResponseInfo) (delivered : ℤ) : Prop where
  followed : ∃ events, Followed claude events
  nonneg : 0 ≤ delivered
  upstream : delivered ≤ claude.upstreamBillableOutputBytes
  written : claude.sawTerminalUsage = false → delivered ≤ claude.billableOutputBytes
  terminal : claude.sawTerminalUsage = true → 0 < claude.usage.completionTokens ∧
    evidenceTokens delivered ≤ claude.usage.completionTokens

theorem Covered.recorded (h : Covered claude delivered) (hrelays : relay.relays)
    (hcounts : Counts claude write response)
    (hadmitted : Admitted claude response projected) {added : ℤ} (hadded : 0 ≤ added)
    (hle : added ≤ evidenceBytes response) {claude' : ClaudeResponseInfo}
    (hfollowed : ∀ events, Followed (Streams.recorded relay claude response wire projected) events →
      Followed claude' events)
    (hupstream : claude'.upstreamBillableOutputBytes = projected)
    (husage : claude'.usage = (Streams.recorded relay claude response wire projected).usage)
    (hterminal : claude'.sawTerminalUsage =
      (Streams.recorded relay claude response wire projected).sawTerminalUsage)
    (hwritten : claude'.sawTerminalUsage = false →
      claude.billableOutputBytes + added ≤ claude'.billableOutputBytes) :
    Covered claude' (delivered + added) := by
  obtain ⟨events, hevents⟩ := h.followed
  have hprojected := hadmitted.projected_eq
  have hsent : delivered + added ≤ projected := by
    have hbefore := h.upstream
    omega
  refine ⟨⟨_, hfollowed _ (hevents.recorded_admitted wire hrelays hadmitted)⟩,
    Int.add_nonneg h.nonneg hadded, by rw [hupstream]; exact hsent, ?_, ?_⟩
  · intro hopen
    have hbefore := (recorded_open hrelays (hterminal.symm.trans hopen)).1
    have hcovered := h.written hbefore
    have hnext := hwritten hopen
    omega
  · intro hended
    rw [husage]
    rcases recorded_ends (hterminal.symm.trans hended) with hbefore | ⟨htype, hends, hnew, -⟩
    · -- after the final usage there is only the stop, which holds no output
      obtain ⟨hpositive, hcovered⟩ := h.terminal hbefore
      have hgrows := recorded_grows relay claude response wire projected .completion
      have hstop := ((follows_of_checkProtocol hadmitted.protocol).afterTerminal
        (hevents.terminal.trans hbefore)).1
      have hzero : added = 0 := by
        have hnone := hcounts.stop hstop hbefore
        omega
      rw [hzero, add_zero]
      exact ⟨hpositive.trans_le hgrows, hcovered.trans hgrows⟩
    · -- the final usage was checked against what the upstream has sent
      have hcovered := hadmitted.covered
      rw [checkTerminalEvidence, if_pos ⟨htype, hends⟩] at hcovered
      have htokens := evidenceTokens_le_of_validate hcovered
      have hpositive := (recordDelta_terminal claude hends).1
      rw [hnew]
      refine ⟨hpositive, (evidenceTokens_mono hsent).trans (htokens.trans ?_)⟩
      rw [reportedCompletionTokens, ClaudeResponseInfo.recordDelta]
      cases husage' : response.usage with
      | none =>
        rw [ClaudeResponseInfo.terminates, husage', hasValidClaudeTerminalUsage] at hends
        simp at hends
      | some reported =>
        have hoften : 0 < reported.outputTokens := by
          rw [ClaudeResponseInfo.terminates, husage', hasValidClaudeTerminalUsage] at hends
          simp only [Option.any_some, Bool.and_eq_true, decide_eq_true_eq] at hends
          exact hends.2.2
        exact max_le (le_raise_reported hoften) (le_raise _ _)

/-- The invariant of a run; a run that has written nothing has delivered nothing. -/
structure RunCovered (run : StreamRun) : Prop where
  covered : Covered run.claude (deliveredBytes run)
  silent : run.written = false → run.delivered = []

theorem RunCovered.start (relay : ClaudeRelay) : RunCovered (.start relay) where
  covered := by
    obtain ⟨events, hevents, -⟩ := (RunFollowed.start relay).followed
    exact ⟨⟨events, hevents⟩, le_rfl, le_rfl, fun _ => le_rfl, nofun⟩
  silent := fun _ => rfl

theorem silent_after (h : run.written = false → run.delivered = [])
    (hsilent : (run.after relay event write handled).written = false) :
    (run.after relay event write handled).delivered = [] := by
  change (run.written || (handled.payload.isSome && write ≠ .gone)) = false at hsilent
  rw [Bool.or_eq_false_iff] at hsilent
  change run.delivered ++ (if write.delivers then handled.payload.toList else []) = []
  rw [h hsilent.1]
  cases hpayload : handled.payload with
  | none => simp
  | some payload =>
    rw [hpayload] at hsilent
    have hgone : write = .gone := by simpa using hsilent.2
    rw [hgone]
    rfl

/-- An event that wrote no output and left the counts as they were. -/
theorem RunCovered.unchanged (h : RunCovered run) (hadded : addedBytes write handled.payload = 0)
    (hcovered : ∀ delivered, Covered run.claude delivered → Covered handled.claude delivered) :
    RunCovered (run.after relay event write handled) := by
  refine ⟨?_, silent_after h.silent⟩
  rw [deliveredBytes_after, hadded, add_zero]
  exact hcovered _ h.covered

theorem RunCovered.handle (h : RunCovered run)
    (hmanaged : relay.isManagedClaudeRelay = true) (hformat : relay.info.relayFormat = .claude)
    (event : Event) (write : WriteOutcome)
    (hcounts : ∀ response, event.response = .ok response → Counts run.claude write response) :
    RunCovered (run.handle relay event write) := by
  have hrelays : relay.relays := .inl hformat
  have houtcome := handle_cases relay run.claude event write
  rw [StreamRun.handle]
  generalize handleStreamResponseData relay run.claude event write = handled at houtcome ⊢
  have hnothing : addedBytes write none = 0 := by
    rw [addedBytes]
    split <;> rfl
  cases houtcome with
  | rejected e => exact h.unchanged hnothing fun _ hcovered => hcovered
  | uncovered response e =>
    refine h.unchanged hnothing fun delivered hcovered => ?_
    obtain ⟨events, hevents⟩ := hcovered.followed
    exact ⟨⟨events, hevents.shape, hevents.terminal, hevents.done, hevents.valid, hevents.recorded,
      hevents.ordered⟩, hcovered.nonneg, hcovered.upstream, hcovered.written, hcovered.terminal⟩
  | pinged response hresponse _ hping =>
    rw [forwardPing]
    split
    · next hstarted =>
      rw [Bool.and_eq_true] at hstarted
      have hzero := (hcounts response hresponse).ping hping hstarted.1 hstarted.2
      rw [hformat]
      refine h.unchanged ?_ fun _ hcovered => hcovered
      rw [addedBytes]
      split
      · exact hzero
      · rfl
    · exact h.unchanged hnothing fun _ hcovered => hcovered
  | committed response projected written suffix hresponse hadmitted houtgoing =>
    have hadmitted := hadmitted hmanaged
    have hcounts := hcounts response hresponse
    obtain ⟨wire', hprepared⟩ :
        ∃ wire', prepared relay run.claude response event.wire = some (.event response wire') := by
      rw [prepared, formatEvent, hformat]
      exact ⟨_, rfl⟩
    obtain ⟨hupstream, hbillable⟩ :=
      recorded_bytes hmanaged hrelays run.claude response event.wire projected
    have hwritten := written_eq hmanaged hformat ((checkOutgoing_ok houtgoing).2 _ hprepared)
    have hnonneg := evidenceBytes_nonneg response
    rw [hprepared]
    refine ⟨?_, silent_after h.silent⟩
    rw [deliveredBytes_after, commit]
    split
    · next hdone =>
      -- what was written is recorded
      have hadded : addedBytes write (some (.event response wire')) = evidenceBytes response := by
        rw [hdone]
        rfl
      rw [hadded]
      refine h.covered.recorded hrelays hcounts hadmitted hnonneg le_rfl
        (fun _ hevents => hevents.recordWritten written suffix) hupstream rfl rfl ?_
      intro _
      change _ ≤ if 0 < written.bytes then _ + written.bytes else _
      split
      · rw [hbillable, hwritten]
      · omega
    · next hfailed =>
      have hadded : 0 ≤ addedBytes write (some (.event response wire')) ∧
          addedBytes write (some (.event response wire')) ≤ evidenceBytes response := by
        rw [addedBytes]
        split
        · exact ⟨hnonneg, le_rfl⟩
        · exact ⟨le_rfl, hnonneg⟩
      refine h.covered.recorded hrelays hcounts hadmitted hadded.1 hadded.2
        (fun _ hevents => hevents) hupstream rfl rfl ?_
      intro hopen
      have hzero : addedBytes write (some (.event response wire')) = 0 := by
        rw [addedBytes]
        split
        · next hdelivers =>
          have hunflushed : write = .unflushed := by
            rw [WriteOutcome.delivers] at hdelivers
            simpa [hfailed] using hdelivers
          refine hcounts.flush hunflushed fun hends => ?_
          have hterminates := (recorded_open hrelays hopen).2 hends.type
          rw [hends.terminates] at hterminates
          cases hterminates
        · rfl
      rw [hzero, add_zero]
      exact hbillable.ge

theorem RunCovered.keepalive (h : RunCovered run)
    (write : WriteOutcome) : RunCovered (run.keepalive relay write) := by
  rw [StreamRun.keepalive]
  split
  · exact h
  · refine ⟨?_, ?_⟩
    · have hsame : deliveredBytes { run with
          written := run.written || write ≠ .gone, stopped := write ≠ .done
          delivered := run.delivered ++ if write.delivers then [.keepalive] else [] } =
          deliveredBytes run := by
        split <;> simp [deliveredBytes, Payload.evidenceBytes]
      rw [hsame]
      exact h.covered
    · intro hsilent
      rw [Bool.or_eq_false_iff] at hsilent
      have hgone : write = .gone := by simpa using hsilent.2
      rw [h.silent hsilent.1, hgone]
      rfl

theorem streamScannerHandler_covered
    (hmanaged : relay.isManagedClaudeRelay = true) (hformat : relay.info.relayFormat = .claude)
    {arrivals : List Arrival} (hcountable : Countable relay arrivals) :
    RunCovered (streamScannerHandler relay arrivals) := by
  apply streamScannerHandler_induction (I := RunCovered) arrivals
  · exact RunCovered.start relay
  · intro before event write hprefix hbefore _
    exact hbefore.handle hmanaged hformat event write (hcountable before event write hprefix)
  · intro run write hrun _
    exact hrun.keepalive write

/-- However the stream ended, the completion that is settled covers the delivered output, as far as
the request was authorized for it. -/
theorem Covered.finalize
    (h : Covered claude delivered) (hmanaged : relay.isManagedClaudeRelay = true) :
    min relay.info.authorizedCompletionTokens (evidenceTokens delivered) ≤
      (finalizeClaudeStreamUsage relay claude).usage.completionTokens := by
  obtain ⟨events, hevents⟩ := h.followed
  by_cases hterminal : claude.sawTerminalUsage = true
  · obtain ⟨hpositive, hcovered⟩ := h.terminal hterminal
    have husage : (finalizeClaudeStreamUsage relay claude).usage.completionTokens =
        claude.usage.completionTokens := by
      have hdone : claude.done = true := hevents.done.trans hterminal
      simp [finalizeClaudeStreamUsage, hdone, hterminal, hpositive.ne']
    rw [husage]
    exact (min_le_right _ _).trans hcovered
  · have hopen : claude.sawTerminalUsage = false := Bool.eq_false_of_not_eq_true hterminal
    have hdone : claude.done = false := hevents.done.trans hopen
    have hrequires : relay.requiresClaudeUsageAuthorization = true := by
      change (relay.isManagedClaudeRelay || relay.info.priceData.channelSpecific) = true
      rw [hmanaged, Bool.true_or]
    have husage : (finalizeClaudeStreamUsage relay claude).usage.completionTokens =
        min (estimatedUsage relay claude).completionTokens
          relay.info.authorizedCompletionTokens := by
      simp [finalizeClaudeStreamUsage, hdone, hrequires, limitedUsage]
    have hwritten := h.written hopen
    have hfloor : claudeEvidenceTokenFloor claude.billableOutputBytes =
        .ok (evidenceTokens claude.billableOutputBytes) := by
      rw [claudeEvidenceTokenFloor, if_neg (by have hnonneg := h.nonneg; omega)]
    have hestimated : evidenceTokens claude.billableOutputBytes ≤
        (estimatedUsage relay claude).completionTokens := by
      rw [estimatedUsage]
      simp only [hmanaged, hfloor]
      exact le_max_right _ _
    rw [husage]
    refine le_min ((min_le_right _ _).trans ?_) (min_le_left _ _)
    exact (evidenceTokens_mono hwritten).trans hestimated

/-- A failed stream is charged for what it delivered; one that wrote nothing delivered nothing. -/
theorem RunCovered.failed (h : RunCovered run) (hmanaged : relay.isManagedClaudeRelay = true) :
    min relay.info.authorizedCompletionTokens (evidenceTokens (deliveredBytes run)) ≤
      ((failedClaudeStreamUsage relay run.claude run.written).map (·.completionTokens)).getD 0 := by
  rw [failedClaudeStreamUsage]
  split
  · exact h.covered.finalize hmanaged
  · next hsilent =>
    have hnothing : deliveredBytes run = 0 := by
      rw [deliveredBytes, h.silent (Bool.eq_false_of_not_eq_true hsilent)]
      rfl
    rw [hnothing]
    exact min_le_right _ _

/-- If the pings and the `message_stop` carry no output, and output is flushed when it is written,
the completion that is settled covers the output that was delivered, as far as the request was
authorized for it. -/
theorem claudeStreamHandler_billed (relay : ClaudeRelay)
    (hmanaged : relay.isManagedClaudeRelay = true) (hformat : relay.info.relayFormat = .claude)
    (arrivals : List Arrival) (status : StreamStatus) (writes : FinalWrites)
    (hcountable : Countable relay arrivals) :
    min relay.info.authorizedCompletionTokens
        (evidenceTokens (deliveredBytes (streamScannerHandler relay arrivals))) ≤
      ((claudeStreamHandler relay arrivals status writes).1.map (·.completionTokens)).getD 0 := by
  have hrun := streamScannerHandler_covered hmanaged hformat hcountable
  have hfinal : finalWrite relay writes = (.done, false) := by
    rw [finalWrite, hformat]
    rfl
  rw [claudeStreamHandler]
  split
  · exact hrun.failed hmanaged
  · split
    · exact hrun.failed hmanaged
    · rw [hfinal]
      exact hrun.covered.finalize hmanaged

/-- Streams that are written without failures satisfy the condition when their pings and stops carry
no output. -/
theorem countable_arrivals {events : List Event}
    (h : ∀ event ∈ events, ∀ response, event.response = .ok response →
      response.type = .ping ∨ response.type = .messageStop → evidenceBytes response = 0) :
    Countable relay (arrivals events) := by
  intro before event write hprefix response hresponse
  have hmem : Arrival.data event write ∈ arrivals events :=
    hprefix.subset (List.mem_append_right _ List.mem_cons_self)
  obtain ⟨event', hevent', heq⟩ := List.mem_map.mp hmem
  obtain ⟨rfl, rfl⟩ := Arrival.data.inj heq
  refine ⟨?_, ?_, nofun⟩
  · intro htype _ _
    exact h event' hevent' response hresponse (.inl htype)
  · intro htype _
    exact h event' hevent' response hresponse (.inr htype)

theorem claudeStreamHandler_billed_sample :
    min (sampleRelay .claude).info.authorizedCompletionTokens
        (evidenceTokens (deliveredBytes (streamScannerHandler (sampleRelay .claude)
          (arrivals [sampleStart, sampleText 0 "Hello", sampleEnd 5, sampleStop])))) ≤
      ((claudeStreamHandler (sampleRelay .claude)
        (arrivals [sampleStart, sampleText 0 "Hello", sampleEnd 5, sampleStop])
        ⟨.done, none, false⟩ {}).1.map (·.completionTokens)).getD 0 := by
  refine claudeStreamHandler_billed (sampleRelay .claude) rfl rfl _ _ _ (countable_arrivals ?_)
  intro event hevent response hresponse htype
  simp only [List.mem_cons, List.not_mem_nil, or_false] at hevent
  rcases hevent with rfl | rfl | rfl | rfl
  all_goals cases hresponse
  · exact absurd htype (by decide)
  · exact absurd htype (by decide)
  · exact absurd htype (by decide)
  · rfl

/-- 129 bytes of text, one more than a token pays for. -/
def sampleOutput : String := String.ofList (List.replicate 129 'x')

/-- A ping or a `message_stop` with text in it. -/
def sampleCarrier (name : String) (type : EventType) : Event := sampleEvent
    ("\x7b\"type\":\"" ++ name ++ "\",\"delta\":\x7b\"text\":\"" ++ sampleOutput ++ "\"\x7d\x7d")
    (.obj ["type", "delta"] [.str name, .obj ["text"] [.str sampleOutput]])
    { type := type, delta := some { text := some sampleOutput } }

/-- Output in a ping, and output in a `message_stop`, is delivered and not paid for. -/
theorem carried_output_unbilled :
    ((claudeStreamHandler (sampleRelay .claude)
        (arrivals [sampleStart, sampleCarrier "ping" .ping, sampleEnd 1, sampleStop])
        ⟨.done, none, false⟩ {}).1.map (·.completionTokens)).getD 0 <
      min (sampleRelay .claude).info.authorizedCompletionTokens
        (evidenceTokens (deliveredBytes (streamScannerHandler (sampleRelay .claude)
          (arrivals [sampleStart, sampleCarrier "ping" .ping, sampleEnd 1, sampleStop])))) ∧
    ((claudeStreamHandler (sampleRelay .claude)
        (arrivals [sampleStart, sampleEnd 1, sampleCarrier "message_stop" .messageStop])
        ⟨.done, none, false⟩ {}).1.map (·.completionTokens)).getD 0 <
      min (sampleRelay .claude).info.authorizedCompletionTokens
        (evidenceTokens (deliveredBytes (streamScannerHandler (sampleRelay .claude)
          (arrivals [sampleStart, sampleEnd 1, sampleCarrier "message_stop" .messageStop])))) := by
  decide +kernel

end Mujian.Streams
