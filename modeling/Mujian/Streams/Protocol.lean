import Mujian.Streams.ClaudeStream

/-!
# The events that a managed Claude stream accepts

A managed stream is a `message_start` with the usage of the input, then the events of the message,
then a `message_delta` with a stop reason and the final usage, and for a Claude client a
`message_stop`. The flags of `ClaudeResponseInfo` say how far the accepted events have come
(`Shape`), and the counters that it records bound what later events may report.
-/

namespace Mujian.Streams

open Pricing Relay

/-! ## The protocol check -/

/-- What an event has to satisfy after the events that led to `claude`. -/
structure Follows (claude : ClaudeResponseInfo) (response : ClaudeResponse) : Prop where
  afterTerminal : claude.sawTerminalEvent = true →
    response.type = .messageStop ∧ claude.sawMessageStop = false
  start : response.type = .messageStart → claude.sawMessageStart = false ∧
    hasValidClaudeInputUsage (response.message.bind (·.usage)) = true
  later : response.type ≠ .messageStart →
    claude.sawMessageStart = true ∧ claude.sawValidInputUsage = true
  stopReason : response.type = .messageDelta → hasClaudeStopReason response = true →
    hasValidClaudeTerminalUsage response.usage = true
  regress : response.type = .messageDelta → claudeUsageRegresses claude.usage response.usage = false
  stop : response.type = .messageStop → claude.sawTerminalUsage = true

variable {claude : ClaudeResponseInfo} {response : ClaudeResponse} {events : List ClaudeResponse}
  {usage : Usage} {relay : ClaudeRelay} {projected : ℤ} {run : StreamRun} {event : Event}
  {write : WriteOutcome}

theorem follows_of_checkProtocol
    (h : checkProtocol claude response = .ok ()) : Follows claude response := by
  rw [checkProtocol] at h
  simp only [ite_error_eq_ok_iff] at h
  obtain ⟨hterminal, hduplicate, hbefore, hstart, hreason, hregress, hstop, -⟩ := h
  constructor
  · intro hsaw
    by_contra hno
    rw [not_and_or] at hno
    exact hterminal ⟨hsaw, hno.imp_right Bool.eq_true_of_not_eq_false⟩
  · intro htype
    constructor
    · exact Bool.eq_false_of_not_eq_true fun hsaw => hduplicate ⟨htype, hsaw⟩
    · exact Bool.eq_true_of_not_eq_false fun hinvalid => hstart ⟨htype, hinvalid⟩
  · intro htype
    constructor
    · exact Bool.eq_true_of_not_eq_false fun hsaw => hbefore ⟨htype, .inl hsaw⟩
    · exact Bool.eq_true_of_not_eq_false fun hsaw => hbefore ⟨htype, .inr hsaw⟩
  · intro htype hsaw
    exact Bool.eq_true_of_not_eq_false fun hinvalid => hreason ⟨htype, hsaw, hinvalid⟩
  · intro htype
    exact Bool.eq_false_of_not_eq_true fun hlower => hregress ⟨htype, hlower⟩
  · intro htype
    exact Bool.eq_true_of_not_eq_false fun hsaw => hstop ⟨htype, hsaw⟩

/-! ## The shape of the accepted events -/

/-- A `message_start` with valid usage of the input. -/
structure Starts (response : ClaudeResponse) : Prop where
  type : response.type = .messageStart
  usage : hasValidClaudeInputUsage (response.message.bind (·.usage)) = true

structure Inner (response : ClaudeResponse) : Prop where
  notStart : response.type ≠ .messageStart
  notStop : response.type ≠ .messageStop
  notEnd : response.type = .messageDelta → hasClaudeStopReason response = false

/-- A `message_delta` with a stop reason and valid final usage. -/
structure Ends (response : ClaudeResponse) : Prop where
  type : response.type = .messageDelta
  stopReason : hasClaudeStopReason response = true
  usage : hasValidClaudeTerminalUsage response.usage = true

theorem Ends.terminates (h : Ends response) : ClaudeResponseInfo.terminates response = true := by
  rw [ClaudeResponseInfo.terminates, h.stopReason, h.usage]
  rfl

theorem Inner.not_terminates (h : Inner response) (htype : response.type = .messageDelta) :
    ClaudeResponseInfo.terminates response = false := by
  rw [ClaudeResponseInfo.terminates, h.notEnd htype]
  rfl

/-- How far the events have come: whether the message has started, ended, and been stopped. -/
inductive Shape : Bool → Bool → Bool → List ClaudeResponse → Prop
  | idle : Shape false false false []
  | running {start : ClaudeResponse} {inner : List ClaudeResponse} (hstart : Starts start)
    (hinner : ∀ response ∈ inner, Inner response) : Shape true false false (start :: inner)
  | ended {start last : ClaudeResponse} {inner : List ClaudeResponse} (hstart : Starts start)
    (hinner : ∀ response ∈ inner, Inner response) (hlast : Ends last) :
    Shape true true false (start :: inner ++ [last])
  | stopped {start last stop : ClaudeResponse} {inner : List ClaudeResponse}
    (hstart : Starts start) (hinner : ∀ response ∈ inner, Inner response) (hlast : Ends last)
    (hstop : stop.type = .messageStop) :
    Shape true true true (start :: inner ++ [last, stop])

theorem Shape.start {terminal stop : Bool}
    (h : Shape false terminal stop events) (hstart : Starts response) :
    Shape true terminal stop (events ++ [response]) := by
  cases h
  exact .running hstart (by simp)

theorem Shape.inner {stop : Bool} (h : Shape true false stop events) (hinner : Inner response) :
    Shape true false stop (events ++ [response]) := by
  cases h with
  | running hstart hbefore =>
    refine .running hstart ?_
    intro other hother
    rcases List.mem_append.mp hother with hmem | hmem
    · exact hbefore other hmem
    · rw [List.mem_singleton.mp hmem]
      exact hinner

theorem Shape.end {stop : Bool} (h : Shape true false stop events) (hend : Ends response) :
    Shape true true stop (events ++ [response]) := by
  cases h with
  | running hstart hbefore => exact .ended hstart hbefore hend

theorem Shape.stop {started : Bool} (h : Shape started true false events)
    (hstop : response.type = .messageStop) : Shape started true true (events ++ [response]) := by
  cases h with
  | ended hstart hbefore hlast =>
    rw [List.append_assoc]
    exact .stopped hstart hbefore hlast hstop

/-! ## Counters -/

/-- The usage that is recorded of an event. -/
def reportedUsage (response : ClaudeResponse) : Option ClaudeUsage :=
  match response.type with
  | .messageStart => response.message.bind (·.usage)
  | .messageDelta => response.usage
  | _ => none

/-- No counter that a later `message_delta` reports as positive is below the earlier one. -/
def NotLower (earlier later : ClaudeResponse) : Prop :=
  later.type = .messageDelta → ∀ usage usage', reportedUsage earlier = some usage →
    reportedUsage later = some usage' → ∀ counter : Counter,
      0 < counter.reported usage' → counter.reported usage ≤ counter.reported usage'

def Recorded (usage : Usage) (events : List ClaudeResponse) : Prop :=
  ∀ response ∈ events, ∀ reported, reportedUsage response = some reported →
    ∀ counter : Counter, 0 < counter.reported reported →
      counter.reported reported ≤ counter.recorded usage

/-- The recorded usage covers one more event: it covers the counters of the event and is nowhere
lower than before. -/
theorem Recorded.append {usage' : Usage} (h : Recorded usage events)
    (hgrows : ∀ counter : Counter, counter.recorded usage ≤ counter.recorded usage')
    (hreported : ∀ reported, reportedUsage response = some reported → ∀ counter : Counter,
      0 < counter.reported reported → counter.reported reported ≤ counter.recorded usage') :
    Recorded usage' (events ++ [response]) := by
  intro other hother reported hsome counter hpositive
  rcases List.mem_append.mp hother with hmem | hmem
  · exact (h other hmem reported hsome counter hpositive).trans (hgrows counter)
  · rw [List.mem_singleton.mp hmem] at hsome
    exact hreported reported hsome counter hpositive

theorem notLower_of_recorded (h : Recorded usage events) (hregress : response.type = .messageDelta →
      claudeUsageRegresses usage response.usage = false) :
    ∀ earlier ∈ events, NotLower earlier response := by
  intro earlier hearlier htype reported reported' hsome hsome' counter hpositive'
  rw [reportedUsage, htype] at hsome'
  dsimp only at hsome'
  have hregress' := hregress htype
  rw [hsome'] at hregress'
  by_cases hpositive : 0 < counter.reported reported
  · have hrecorded := h earlier hearlier reported hsome counter hpositive
    exact hrecorded.trans (le_of_claudeUsageRegresses hregress' counter
      (hpositive.trans_le hrecorded) hpositive')
  · omega

/-! ## One event -/

/-- The state agrees with the events accepted so far. -/
structure Followed (claude : ClaudeResponseInfo) (events : List ClaudeResponse) : Prop where
  shape : Shape claude.sawMessageStart claude.sawTerminalUsage claude.sawMessageStop events
  terminal : claude.sawTerminalEvent = claude.sawTerminalUsage
  done : claude.done = claude.sawTerminalUsage
  valid : claude.sawMessageStart = true → claude.sawValidInputUsage = true
  recorded : Recorded claude.usage events
  ordered : events.Pairwise NotLower

theorem pairwise_snoc (h : events.Pairwise NotLower)
    (hlast : ∀ earlier ∈ events, NotLower earlier response) :
    (events ++ [response]).Pairwise NotLower := by
  rw [List.pairwise_append]
  refine ⟨h, List.pairwise_singleton _ _, ?_⟩
  intro earlier hearlier later hlater
  rw [List.mem_singleton.mp hlater]
  exact hlast earlier hearlier

section

variable (h : Followed claude events)
include h

section

variable (hfollows : Follows claude response)
include hfollows

theorem Followed.recordStart (htype : response.type = .messageStart) :
    Followed (claude.recordStart response.message) (events ++ [response]) := by
  obtain ⟨hnew, hvalid⟩ := hfollows.start htype
  -- a start with valid usage announces a message with usage
  obtain ⟨message, hmessage, reported, hreported⟩ : ∃ message, response.message = some message ∧
      ∃ reported, message.usage = some reported := by
    cases hmessage : response.message with
    | none =>
      rw [hmessage] at hvalid
      cases hvalid
    | some message =>
      refine ⟨message, rfl, ?_⟩
      cases husage : message.usage with
      | none =>
        rw [hmessage, Option.bind_some, husage] at hvalid
        cases hvalid
      | some reported => exact ⟨reported, rfl⟩
  have hstate : claude.recordStart response.message =
      { claude with
        sawMessageStart := true, responseId := message.id
        model := message.model, sawValidInputUsage := true
        usage := startUsage claude.usage reported } := by
    rw [hmessage, Option.bind_some, hreported] at hvalid
    rw [hmessage]
    simp only [ClaudeResponseInfo.recordStart, hreported, Option.isSome_some, if_true,
      Option.map_some, Option.getD_some, hvalid]
  have hsome : reportedUsage response = some reported := by
    rw [reportedUsage, htype, hmessage]
    exact hreported
  have hshape := h.shape
  rw [hnew] at hshape
  rw [hstate]
  refine ⟨hshape.start ⟨htype, hvalid⟩, h.terminal, h.done, fun _ => rfl, ?_, ?_⟩
  · refine h.recorded.append ?_ ?_
    · intro counter
      rw [recorded_startUsage]
      exact le_max_left _ _
    · intro other hother counter _
      rw [hsome, Option.some.injEq] at hother
      rw [recorded_startUsage, hother]
      exact le_max_right _ _
  · exact pairwise_snoc h.ordered (notLower_of_recorded h.recorded hfollows.regress)

theorem Followed.recordDelta (htype : response.type = .messageDelta) :
    Followed (claude.recordDelta response) (events ++ [response]) := by
  obtain ⟨hstarted, -⟩ := hfollows.later (by rw [htype]; exact EventType.noConfusion)
  have hopen : claude.sawTerminalUsage = false := by
    rw [← h.terminal]
    refine Bool.eq_false_of_not_eq_true fun hsaw => ?_
    have hstop := (hfollows.afterTerminal hsaw).1
    rw [htype] at hstop
    cases hstop
  have hshape := h.shape
  rw [hstarted, hopen] at hshape
  have hrecorded : Recorded (claude.recordDelta response).usage (events ++ [response]) := by
    refine h.recorded.append ?_ ?_
    · intro counter
      change _ ≤ counter.recorded
        ((response.usage.map (deltaUsage claude.usage)).getD claude.usage)
      cases response.usage with
      | none => exact le_rfl
      | some reported =>
        rw [Option.map_some, Option.getD_some, recorded_deltaUsage]
        exact le_raise _ _
    · intro reported hsome counter hpositive
      rw [reportedUsage, htype] at hsome
      dsimp only at hsome
      change _ ≤ counter.recorded
        ((response.usage.map (deltaUsage claude.usage)).getD claude.usage)
      rw [hsome, Option.map_some, Option.getD_some, recorded_deltaUsage]
      exact le_raise_reported hpositive
  have hordered := pairwise_snoc h.ordered (notLower_of_recorded h.recorded hfollows.regress)
  have hdone : claude.done = false := h.done.trans hopen
  have hterminal : claude.sawTerminalEvent = false := h.terminal.trans hopen
  by_cases hreason : hasClaudeStopReason response = true
  · have hend : Ends response := ⟨htype, hreason, hfollows.stopReason htype hreason⟩
    refine ⟨?_, ?_, ?_, h.valid, hrecorded, hordered⟩
    · simpa [ClaudeResponseInfo.recordDelta, hend.terminates, hstarted] using hshape.end hend
    · simp [ClaudeResponseInfo.recordDelta, hend.terminates]
    · simp [ClaudeResponseInfo.recordDelta, hend.terminates, hreason]
  · have hreason' : hasClaudeStopReason response = false := Bool.eq_false_of_not_eq_true hreason
    have hinner : Inner response := by
      refine ⟨?_, ?_, fun _ => hreason'⟩
      · rw [htype]
        exact EventType.noConfusion
      · rw [htype]
        exact EventType.noConfusion
    refine ⟨?_, ?_, ?_, h.valid, hrecorded, hordered⟩
    · simpa [ClaudeResponseInfo.recordDelta, hinner.not_terminates htype, hstarted, hopen] using
        hshape.inner hinner
    · simp [ClaudeResponseInfo.recordDelta, hterminal, hopen]
    · simp [ClaudeResponseInfo.recordDelta, hinner.not_terminates htype, hdone, hopen, hreason']

theorem Followed.other
    (hstart : response.type ≠ .messageStart) (hdelta : response.type ≠ .messageDelta)
    (hstop : response.type ≠ .messageStop) : Followed claude (events ++ [response]) := by
  obtain ⟨hstarted, -⟩ := hfollows.later hstart
  have hopen : claude.sawTerminalUsage = false := by
    rw [← h.terminal]
    exact Bool.eq_false_of_not_eq_true fun hsaw => hstop (hfollows.afterTerminal hsaw).1
  have hsilent : reportedUsage response = none := by
    rw [reportedUsage]
    split
    · next htype => exact absurd htype hstart
    · next htype => exact absurd htype hdelta
    · rfl
  have hshape := h.shape
  rw [hstarted, hopen] at hshape
  refine ⟨?_, h.terminal, h.done, h.valid, ?_, ?_⟩
  · rw [hstarted, hopen]
    exact hshape.inner ⟨hstart, hstop, fun htype => absurd htype hdelta⟩
  · refine h.recorded.append (fun _ => le_rfl) ?_
    intro reported hsome
    rw [hsilent] at hsome
    cases hsome
  · exact pairwise_snoc h.ordered (notLower_of_recorded h.recorded hfollows.regress)

theorem Followed.recordStop (htype : response.type = .messageStop) :
    Followed { claude with done := true, sawMessageStop := true } (events ++ [response]) := by
  have hended := hfollows.stop htype
  have hshape := h.shape
  rw [hended, (hfollows.afterTerminal (h.terminal.trans hended)).2] at hshape
  have hsilent : reportedUsage response = none := by rw [reportedUsage, htype]
  refine ⟨?_, h.terminal, hended.symm, h.valid, ?_, ?_⟩
  · rw [hended]
    exact hshape.stop htype
  · refine h.recorded.append (fun _ => le_rfl) ?_
    intro reported hsome
    rw [hsilent] at hsome
    cases hsome
  · exact pairwise_snoc h.ordered (notLower_of_recorded h.recorded hfollows.regress)

/-- The state agrees with the events after one more event that follows the protocol. -/
theorem Followed.format :
    Followed (formatClaudeResponseInfo response claude).1 (events ++ [response]) := by
  rw [formatClaudeResponseInfo]
  cases htype : response.type with
  | messageStart => exact h.recordStart hfollows htype
  | messageDelta => exact h.recordDelta hfollows htype
  | messageStop => exact h.recordStop hfollows htype
  | contentBlockDelta | contentBlockStart =>
    have hother := h.other hfollows (by simp [htype]) (by simp [htype]) (by simp [htype])
    exact ⟨hother.shape, hother.terminal, hother.done, hother.valid, hother.recorded,
      hother.ordered⟩
  | contentBlockStop | ping | error | other =>
    exact h.other hfollows (by simp [htype]) (by simp [htype]) (by simp [htype])

end

end

theorem Followed.recorded_admitted (wire : Wire)
    (h : Followed claude events) (hrelays : relay.relays)
    (hadmitted : Admitted claude response projected) :
    Followed (Streams.recorded relay claude response wire projected) (events ++ [response]) := by
  have hformat := h.format (follows_of_checkProtocol hadmitted.protocol)
  obtain ⟨bytes, indexes, next, -, heq⟩ := recorded_eq hrelays claude response wire projected
  rw [heq]
  exact ⟨hformat.shape, hformat.terminal, hformat.done, hformat.valid, hformat.recorded,
    hformat.ordered⟩

/-! ## A whole stream -/

def protocolEvents (run : StreamRun) : List ClaudeResponse := run.accepted.filter (·.type ≠ .ping)

/-- The state of the run agrees with the accepted events, or with one more that could not be
written. For a chat completion client the run stops when the message ends. -/
structure RunFollowed (relay : ClaudeRelay) (run : StreamRun) : Prop where
  followed : ∃ events, Followed run.claude events ∧ (run.error = none → events = protocolEvents run)
  stops : run.stopped = false → run.error = none
  chat : relay.info.relayFormat = .openAI → run.claude.sawMessageStop = false ∧
    (run.stopped = false → run.claude.sawTerminalUsage = false)

theorem RunFollowed.start (relay : ClaudeRelay) : RunFollowed relay (.start relay) where
  followed := by
    refine ⟨[], ⟨.idle, rfl, rfl, nofun, ?_, List.Pairwise.nil⟩, fun _ => rfl⟩
    intro response hmem
    exact absurd hmem List.not_mem_nil
  stops := fun _ => rfl
  chat := fun _ => ⟨rfl, fun _ => rfl⟩

theorem RunFollowed.keepalive (h : RunFollowed relay run)
    (hgoing : run.stopped = false) (write : WriteOutcome) :
    RunFollowed relay (run.keepalive relay write) := by
  rw [StreamRun.keepalive]
  split
  · exact h
  · exact ⟨h.followed, fun _ => h.stops hgoing,
      fun hformat => ⟨(h.chat hformat).1, fun _ => (h.chat hformat).2 hgoing⟩⟩

theorem error_of_going {handled : Handled}
    (h : (run.after relay event write handled).stopped = false) : handled.error = none := by
  change (handled.error.isSome || handled.claude.ended relay) = false at h
  rw [Bool.or_eq_false_iff] at h
  simpa using h.1

/-- An event that fails before it is recorded. -/
theorem RunFollowed.rejected (h : RunFollowed relay run) (hgoing : run.stopped = false)
    {payload : Option Payload} {e : StreamError}
    (hfollowed : ∀ events, Followed run.claude events → Followed claude events)
    (hstop : claude.sawMessageStop = run.claude.sawMessageStop)
    (hterminal : claude.sawTerminalUsage = run.claude.sawTerminalUsage) :
    RunFollowed relay (run.after relay event write
      { claude := claude, payload := payload, error := some e }) := by
  obtain ⟨events, hevents, -⟩ := h.followed
  refine ⟨⟨events, hfollowed events hevents, nofun⟩, error_of_going, ?_⟩
  intro hformat
  obtain ⟨hchat, hopen⟩ := h.chat hformat
  exact ⟨hstop.trans hchat, fun _ => hterminal.trans (hopen hgoing)⟩

/-- A ping that was forwarded, or kept back. -/
theorem RunFollowed.pinged (h : RunFollowed relay run) (hgoing : run.stopped = false)
    (hresponse : event.response = .ok response)
    (hping : response.type = .ping) (payload : Option Payload) :
    RunFollowed relay
      (run.after relay event write { claude := run.claude, payload := payload }) := by
  obtain ⟨events, hevents, hsame⟩ := h.followed
  refine ⟨⟨events, hevents, fun _ => ?_⟩, error_of_going, ?_⟩
  · have hdropped : protocolEvents (run.after relay event write
        { claude := run.claude, payload := payload }) = protocolEvents run := by
      change ((run.accepted ++ event.response.toOption.toList).filter _) = _
      rw [hresponse]
      simp [protocolEvents, Except.toOption, hping]
    rw [hdropped]
    exact hsame (h.stops hgoing)
  · intro hformat
    obtain ⟨hchat, hopen⟩ := h.chat hformat
    exact ⟨hchat, fun _ => hopen hgoing⟩

/-- For a chat completion client nothing follows the end of the message. -/
theorem recorded_chat {wire : Wire} (hrelays : relay.relays)
    (hadmitted : Admitted claude response projected) (hopen : claude.sawTerminalUsage = false)
    (hstop : claude.sawMessageStop = false) :
    (recorded relay claude response wire projected).sawMessageStop = false := by
  have hfollows := follows_of_checkProtocol hadmitted.protocol
  obtain ⟨bytes, indexes, next, -, heq⟩ := recorded_eq hrelays claude response wire projected
  rw [heq]
  rw [formatClaudeResponseInfo]
  cases htype : response.type with
  | messageStop =>
    rw [hfollows.stop htype] at hopen
    cases hopen
  | messageStart =>
    cases hmessage : response.message with
    | none | some => exact hstop
  | messageDelta | contentBlockDelta | contentBlockStart | contentBlockStop | ping | error
  | other => exact hstop

theorem RunFollowed.committed (h : RunFollowed relay run)
    (hrelays : relay.relays) (hgoing : run.stopped = false)
    (hresponse : event.response = .ok response) (hadmitted : Admitted run.claude response projected)
    (hclaude : ∀ events, Followed (recorded relay run.claude response event.wire projected) events →
      Followed claude events)
    (hstop : claude.sawMessageStop =
      (recorded relay run.claude response event.wire projected).sawMessageStop)
    (payload : Option Payload) (error : Option StreamError) :
    RunFollowed relay (run.after relay event write
      { claude := claude, payload := payload, error := error }) := by
  obtain ⟨events, hevents, hsame⟩ := h.followed
  have hrecorded := hclaude _ (hevents.recorded_admitted event.wire hrelays hadmitted)
  refine ⟨⟨_, hrecorded, ?_⟩, error_of_going, ?_⟩
  · intro herror
    subst herror
    change _ = ((run.accepted ++ event.response.toOption.toList).filter _)
    rw [hresponse, hsame (h.stops hgoing), protocolEvents]
    simp [Except.toOption, hadmitted.notPing]
  · intro hformat
    obtain ⟨hchat, hopen⟩ := h.chat hformat
    refine ⟨hstop.trans (recorded_chat hrelays hadmitted (hopen hgoing) hchat), ?_⟩
    intro hnext
    -- the run goes on only while the message is not done
    change (error.isSome || claude.ended relay) = false at hnext
    rw [Bool.or_eq_false_iff] at hnext
    refine Bool.eq_false_of_not_eq_true fun hterminal => ?_
    change claude.sawTerminalUsage = true at hterminal
    have hended : claude.ended relay = true := by
      rw [ClaudeResponseInfo.ended, hrecorded.done, hterminal, hformat]
      simp
    rw [hended] at hnext
    exact absurd hnext.2 (by simp)

theorem Followed.recordWritten
    (h : Followed claude events) (written : BillableEvidence) (suffix : List Char) :
    Followed (claude.recordWritten written suffix) events :=
  ⟨h.shape, h.terminal, h.done, h.valid, h.recorded, h.ordered⟩

theorem RunFollowed.handle (h : RunFollowed relay run)
    (hmanaged : relay.isManagedClaudeRelay = true) (hrelays : relay.relays)
    (hgoing : run.stopped = false) (event : Event) (write : WriteOutcome) :
    RunFollowed relay (run.handle relay event write) := by
  have houtcome := handle_cases relay run.claude event write
  rw [StreamRun.handle]
  generalize handleStreamResponseData relay run.claude event write = handled at houtcome ⊢
  cases houtcome with
  | rejected e => exact h.rejected hgoing (fun _ hevents => hevents) rfl rfl
  | uncovered response e =>
    refine h.rejected hgoing ?_ rfl rfl
    intro events hevents
    exact ⟨hevents.shape, hevents.terminal, hevents.done, hevents.valid, hevents.recorded,
      hevents.ordered⟩
  | pinged response hresponse _ hping =>
    have hsend : ∀ payload, RunFollowed relay
        (run.after relay event write (send run.claude payload write)) := by
      intro payload
      rw [send]
      split
      · exact h.pinged hgoing hresponse hping _
      · exact h.rejected hgoing (fun _ hevents => hevents) rfl rfl
    rw [forwardPing]
    split
    · split
      · exact hsend _
      · exact hsend _
      · exact h.pinged hgoing hresponse hping none
    · exact h.pinged hgoing hresponse hping none
  | committed response projected written suffix hresponse hadmitted houtgoing =>
    have hadmitted := hadmitted hmanaged
    unfold commit
    split
    · exact h.committed hrelays hgoing hresponse hadmitted (fun _ hevents => hevents) rfl
        _ _
    · split
      · exact h.committed hrelays hgoing hresponse hadmitted
          (fun _ hevents => hevents.recordWritten written suffix) rfl _ _
      · exact h.committed hrelays hgoing hresponse hadmitted (fun _ hevents => hevents) rfl
          _ _

theorem streamScannerHandler_followed
    (hmanaged : relay.isManagedClaudeRelay = true) (hrelays : relay.relays)
    (arrivals : List Arrival) : RunFollowed relay (streamScannerHandler relay arrivals) := by
  apply streamScannerHandler_induction (I := RunFollowed relay) arrivals
  · exact RunFollowed.start relay
  · intro before event write _ hbefore hgoing
    exact hbefore.handle hmanaged hrelays hgoing event write
  · intro run write hrun hgoing
    exact hrun.keepalive hgoing write

/-- Streams for other clients are never done. -/
theorem not_done_of_not_relays (hrelays : ¬ relay.relays)
    (arrivals : List Arrival) : (streamScannerHandler relay arrivals).claude.done = false := by
  apply streamScannerHandler_induction (I := fun run => run.claude.done = false) arrivals
  · rfl
  · intro before event write _ hbefore _
    have houtcome := handle_cases relay (streamScannerHandler relay before).claude event write
    rw [StreamRun.handle]
    generalize handleStreamResponseData relay (streamScannerHandler relay before).claude event
      write = handled at houtcome ⊢
    cases houtcome with
    | rejected | uncovered => exact hbefore
    | pinged response hresponse hmanaged hping =>
      rw [forwardPing]
      split
      · split <;> exact hbefore
      · exact hbefore
    | committed response projected written suffix hresponse hadmitted houtgoing =>
      obtain ⟨⟨bytes, heq⟩, hnone⟩ := recorded_of_not_relays hrelays
        (streamScannerHandler relay before).claude response event.wire projected
      rw [heq, hnone]
      exact hbefore
  · intro run write hrun _
    rw [StreamRun.keepalive]
    split <;> exact hrun

theorem success_complete {arrivals : List Arrival} {status : StreamStatus}
    {writes : FinalWrites} (h : (claudeStreamHandler relay arrivals status writes).2 = none) :
    (streamScannerHandler relay arrivals).error = none ∧
      (streamScannerHandler relay arrivals).claude.complete relay = true := by
  rw [claudeStreamHandler] at h
  split at h
  · cases h
  · next herror =>
    split at h
    · cases h
    · next hcomplete =>
      refine ⟨herror, ?_⟩
      rw [validateClaudeStreamCompletion] at hcomplete
      split at hcomplete
      · cases hcomplete
      · split at hcomplete
        · cases hcomplete
        · split at hcomplete
          · cases hcomplete
          · split at hcomplete
            · next hdone => exact hdone
            · split at hcomplete <;> cases hcomplete

/-- When a stream of a managed channel succeeds, the accepted events other than pings are one
`message_start` with valid usage, then events that neither start nor end a message, then one
`message_delta` with a stop reason and valid final usage, and, for a Claude client, one
`message_stop`. No positive counter of a `message_delta` is below what an earlier event reported. -/
theorem accepted_events_follow_protocol (relay : ClaudeRelay)
    (hmanaged : relay.isManagedClaudeRelay = true) (arrivals : List Arrival)
    (status : StreamStatus) (writes : FinalWrites)
    (hsuccess : (claudeStreamHandler relay arrivals status writes).2 = none) :
    (∃ start inner last tail,
      protocolEvents (streamScannerHandler relay arrivals) = start :: inner ++ last :: tail ∧
      Starts start ∧ (∀ response ∈ inner, Inner response) ∧ Ends last ∧
      (relay.info.relayFormat = .claude ∧ (∃ stop, tail = [stop] ∧ stop.type = .messageStop) ∨
        relay.info.relayFormat = .openAI ∧ tail = [])) ∧
    (protocolEvents (streamScannerHandler relay arrivals)).Pairwise NotLower := by
  obtain ⟨herror, hcomplete⟩ := success_complete hsuccess
  rw [ClaudeResponseInfo.complete] at hcomplete
  by_cases hrelays : relay.relays
  · have hrun := streamScannerHandler_followed hmanaged hrelays arrivals
    obtain ⟨events, hevents, hsame⟩ := hrun.followed
    have hshape := hevents.shape
    rw [← hsame herror]
    refine ⟨?_, hevents.ordered⟩
    rcases hrelays with hclaude | hopenAI
    · rw [if_pos hclaude] at hcomplete
      rw [hcomplete] at hshape
      generalize (streamScannerHandler relay arrivals).claude.sawMessageStart = started at hshape
      generalize (streamScannerHandler relay arrivals).claude.sawTerminalUsage = ended at hshape
      cases hshape with
      | stopped hstart hinner hlast hstop =>
        exact ⟨_, _, _, _, rfl, hstart, hinner, hlast, .inl ⟨hclaude, _, rfl, hstop⟩⟩
    · have hdone : (streamScannerHandler relay arrivals).claude.sawTerminalUsage = true := by
        rw [← hevents.done]
        simpa [hopenAI] using hcomplete
      rw [hdone, (hrun.chat hopenAI).1] at hshape
      generalize (streamScannerHandler relay arrivals).claude.sawMessageStart = started at hshape
      cases hshape with
      | ended hstart hinner hlast =>
        exact ⟨_, _, _, _, rfl, hstart, hinner, hlast, .inr ⟨hopenAI, rfl⟩⟩
  · -- other clients have no complete streams
    have hclaude : relay.info.relayFormat ≠ .claude := fun hformat => hrelays (.inl hformat)
    rw [if_neg hclaude, not_done_of_not_relays hrelays] at hcomplete
    cases hcomplete

def sampleProgress (inputTokens outputTokens : ℕ) : Event := sampleEvent
    ("\x7b\"type\":\"message_delta\",\"usage\":\x7b\"input_tokens\":" ++ inputTokens.repr ++
      ",\"output_tokens\":" ++ outputTokens.repr ++ "\x7d\x7d")
    (.obj ["type", "usage"] [.str "message_delta",
      .obj ["input_tokens", "output_tokens"] [.scalar, .scalar]])
    { type := .messageDelta
      usage := some { inputTokens := inputTokens, outputTokens := outputTokens } }

theorem accepted_events_follow_protocol_sample :
    (claudeStreamHandler (sampleRelay .claude)
      (arrivals [sampleStart, sampleProgress 12 3, sampleEnd 5, sampleStop]) ⟨.done, none, false⟩
      {}).2 = none ∧
    (protocolEvents (streamScannerHandler (sampleRelay .claude)
      (arrivals [sampleStart, sampleProgress 12 3, sampleEnd 5, sampleStop]))).Pairwise
        NotLower := by
  have hsuccess : (claudeStreamHandler (sampleRelay .claude)
      (arrivals [sampleStart, sampleProgress 12 3, sampleEnd 5, sampleStop]) ⟨.done, none, false⟩
      {}).2 = none := by decide +kernel
  exact ⟨hsuccess,
    (accepted_events_follow_protocol (sampleRelay .claude) rfl _ _ _ hsuccess).2⟩

/-- The last event may leave out a counter that the first reported, and a chat completion client
gets no `message_stop`. -/
theorem counter_left_out_and_no_message_stop :
    ((claudeStreamHandler (sampleRelay .claude)
        (arrivals [sampleStart, sampleProgress 12 3, sampleEnd 5, sampleStop]) ⟨.done, none, false⟩
        {}).2 = none ∧
      (protocolEvents (streamScannerHandler (sampleRelay .claude)
        (arrivals [sampleStart, sampleProgress 12 3, sampleEnd 5, sampleStop]))).map
          (fun response => (response.type, response.usage.map (·.inputTokens))) =
        [(.messageStart, none), (.messageDelta, some 12), (.messageDelta, some 0),
          (.messageStop, none)]) ∧
    ((claudeStreamHandler (sampleRelay .openAI)
        (arrivals [sampleStart, sampleEnd 5, sampleStop]) ⟨.done, none, false⟩ {}).2 = none ∧
      (protocolEvents (streamScannerHandler (sampleRelay .openAI)
        (arrivals [sampleStart, sampleEnd 5, sampleStop]))).map (·.type) =
        [.messageStart, .messageDelta]) := by decide +kernel

end Mujian.Streams
