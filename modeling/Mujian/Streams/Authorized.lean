import Mujian.Streams.ClaudeStream

/-!
# The usage of a Claude stream stays authorized

The counters that are recorded never fall (`recorded_grows`), and every event that takes effect was
checked with the accumulated counters, so that these are within the bounds of the request
(`Bounded`). A stream without final usage is settled by an estimate, which is cut to what the cached
input leaves of the bounds.
-/

namespace Mujian.Streams

open Pricing Relay

/-- The counters are not negative. -/
def Counted (usage : Usage) : Prop := ∀ counter : Counter, 0 ≤ counter.recorded usage

def Grows (before after : Usage) : Prop :=
  ∀ counter : Counter, counter.recorded before ≤ counter.recorded after

section

variable (response : ClaudeResponse) (claude : ClaudeResponseInfo) (usage : Usage)

theorem Grows.refl : Grows usage usage := fun _ => le_rfl

theorem startUsage_grows (reported : ClaudeUsage) : Grows usage (startUsage usage reported) := by
  intro counter
  rw [recorded_startUsage]
  exact le_max_left _ _

theorem deltaUsage_grows (reported : ClaudeUsage) : Grows usage (deltaUsage usage reported) := by
  intro counter
  rw [recorded_deltaUsage]
  exact le_raise _ _

theorem recordStart_grows (message : Option ClaudeMessage) :
    Grows claude.usage (claude.recordStart message).usage := by
  cases message with
  | none => exact Grows.refl _
  | some message =>
    change Grows claude.usage ((message.usage.map (startUsage claude.usage)).getD claude.usage)
    cases message.usage with
    | none => exact Grows.refl _
    | some reported => exact startUsage_grows _ _

theorem recordDelta_grows (response : ClaudeResponse) :
    Grows claude.usage (claude.recordDelta response).usage := by
  change Grows claude.usage ((response.usage.map (deltaUsage claude.usage)).getD claude.usage)
  cases response.usage with
  | none => exact Grows.refl _
  | some reported => exact deltaUsage_grows _ _

theorem formatClaudeResponseInfo_grows :
    Grows claude.usage (formatClaudeResponseInfo response claude).1.usage := by
  rw [formatClaudeResponseInfo]
  split
  · exact recordStart_grows claude response.message
  · exact Grows.refl _
  · exact recordDelta_grows claude response
  all_goals exact Grows.refl _

end

/-- An event that is recorded lowers no counter. -/
theorem recorded_grows (relay : ClaudeRelay) (claude : ClaudeResponseInfo)
    (response : ClaudeResponse) (wire : Wire) (projected : ℤ) :
    Grows claude.usage (recorded relay claude response wire projected).usage := by
  by_cases hrelays : relay.relays
  · obtain ⟨bytes, indexes, next, -, heq⟩ := recorded_eq hrelays claude response wire projected
    rw [heq]
    exact formatClaudeResponseInfo_grows response claude
  · obtain ⟨⟨bytes, heq⟩, -⟩ := recorded_of_not_relays hrelays claude response wire projected
    rw [heq]
    exact Grows.refl _

variable {response : ClaudeResponse} {relay : ClaudeRelay} {claude : ClaudeResponseInfo}
  {wire : Wire} {projected : ℤ} {usage : Usage}

theorem recordDelta_terminal (claude : ClaudeResponseInfo)
    (h : ClaudeResponseInfo.terminates response = true) :
    0 < (claude.recordDelta response).usage.completionTokens ∧
      (claude.recordDelta response).done = true := by
  rw [ClaudeResponseInfo.terminates, Bool.and_eq_true] at h
  obtain ⟨hstop, hvalid⟩ := h
  constructor
  · rw [hasValidClaudeTerminalUsage, Bool.and_eq_true] at hvalid
    cases husage : response.usage with
    | none =>
      rw [husage] at hvalid
      exact absurd hvalid.2 (by simp)
    | some reported =>
      rw [husage] at hvalid
      have hpositive : 0 < reported.outputTokens := by simpa using hvalid.2
      have hraise : _ ≤ raise claude.usage.completionTokens _ := le_raise_reported hpositive
      rw [ClaudeResponseInfo.recordDelta, husage]
      exact lt_of_lt_of_le hpositive hraise
  · rw [ClaudeResponseInfo.recordDelta]
    simp [hstop]

/-- Final usage was recorded before, or the event brings it. -/
theorem recorded_ends
    (h : (recorded relay claude response wire projected).sawTerminalUsage = true) :
    claude.sawTerminalUsage = true ∨
      response.type = .messageDelta ∧ ClaudeResponseInfo.terminates response = true ∧
        (recorded relay claude response wire projected).usage =
          (claude.recordDelta response).usage ∧
        (recorded relay claude response wire projected).done =
          (claude.recordDelta response).done := by
  by_cases hrelays : relay.relays
  · obtain ⟨bytes, indexes, next, -, heq⟩ := recorded_eq hrelays claude response wire projected
    rw [heq] at h ⊢
    rw [formatClaudeResponseInfo] at h ⊢
    split at h
    · refine .inl ?_
      cases hmessage : response.message with
      | none | some =>
        rw [hmessage] at h
        exact h
    · exact .inl h
    · next htype =>
      have h' : (claude.sawTerminalUsage || ClaudeResponseInfo.terminates response) = true := h
      rw [Bool.or_eq_true] at h'
      exact h'.imp_right fun hends => ⟨htype, hends, rfl, rfl⟩
    all_goals exact .inl h
  · obtain ⟨⟨bytes, heq⟩, -⟩ := recorded_of_not_relays hrelays claude response wire projected
    rw [heq] at h
    exact .inl h

theorem formatClaudeResponseInfo_done (response : ClaudeResponse)
    (h : claude.done = true) : (formatClaudeResponseInfo response claude).1.done = true := by
  rw [formatClaudeResponseInfo]
  split
  · cases hmessage : response.message with
    | none | some => exact h
  · exact h
  · change (claude.done || hasClaudeStopReason response) = true
    rw [h]
    rfl
  · exact h
  · rfl
  · exact h

theorem recorded_done (h : claude.done = true) :
    (recorded relay claude response wire projected).done = true := by
  by_cases hrelays : relay.relays
  · obtain ⟨bytes, indexes, next, -, heq⟩ := recorded_eq hrelays claude response wire projected
    rw [heq]
    exact formatClaudeResponseInfo_done response h
  · obtain ⟨⟨bytes, heq⟩, -⟩ := recorded_of_not_relays hrelays claude response wire projected
    rw [heq]
    exact h

/-- The cached input is within the bounds, and final usage is authorized as it was recorded. -/
structure Settleable (relay : ClaudeRelay) (claude : ClaudeResponseInfo) : Prop where
  creation : 0 ≤ claude.usage.promptTokensDetails.cachedCreationTokens
  cached : claude.usage.promptTokensDetails.cachedTokens +
      max claude.usage.promptTokensDetails.cachedCreationTokens
        (claude.usage.claudeCacheCreation5mTokens + claude.usage.claudeCacheCreation1hTokens) ≤
    relay.info.authorizedPromptTokens
  terminal : claude.sawTerminalUsage = true →
    claude.done = true ∧ 0 < claude.usage.completionTokens ∧ Authorized relay claude.usage

structure Bounded (relay : ClaudeRelay) (claude : ClaudeResponseInfo) : Prop
    extends Settleable relay claude where
  counted : Counted claude.usage

section

variable (h : Bounded relay claude)
include h

/-- The invariant is about the counters and the two flags of the end. -/
theorem Bounded.congr {claude' : ClaudeResponseInfo} (husage : claude'.usage = claude.usage)
    (hterminal : claude'.sawTerminalUsage = claude.sawTerminalUsage)
    (hdone : claude'.done = claude.done) : Bounded relay claude' where
  creation := by rw [husage]; exact h.creation
  cached := by rw [husage]; exact h.cached
  terminal := by rw [husage, hterminal, hdone]; exact h.terminal
  counted := by rw [husage]; exact h.counted

section

variable (hrequires : relay.requiresClaudeUsageAuthorization = true)
include hrequires

theorem Bounded.recorded {result : BillableEvidence × List Char}
    (houtgoing : checkOutgoing relay (recorded relay claude response wire projected) response
      (prepared relay claude response wire) = .ok result) :
    Bounded relay (Streams.recorded relay claude response wire projected) := by
  have hauthorized := authorized_of_validateAccumulated hrequires (checkOutgoing_ok houtgoing).1
  have hgrows := recorded_grows relay claude response wire projected
  have hcounted : Counted _ := fun counter => (h.counted counter).trans (hgrows counter)
  refine ⟨⟨hcounted .creation, ?_, ?_⟩, hcounted⟩
  · have hprompt := hauthorized.prompt
    have hnonneg : 0 ≤ (Streams.recorded relay claude response wire projected).usage.promptTokens :=
      hcounted .prompt
    omega
  · intro hterminal
    rcases recorded_ends hterminal with hbefore | ⟨-, hends, husage, hdone⟩
    · obtain ⟨hdone, hpositive, -⟩ := h.terminal hbefore
      exact ⟨recorded_done hdone, hpositive.trans_le (hgrows .completion), hauthorized⟩
    · obtain ⟨hpositive, hdone'⟩ := recordDelta_terminal claude hends
      exact ⟨hdone.trans hdone', by rw [husage]; exact hpositive, hauthorized⟩

theorem Bounded.handled (event : Event) (write : WriteOutcome) :
    Bounded relay (handleStreamResponseData relay claude event write).claude := by
  have houtcome := handle_cases relay claude event write
  generalize handleStreamResponseData relay claude event write = handled at houtcome ⊢
  cases houtcome with
  | rejected e => exact h
  | uncovered response e => exact h.congr rfl rfl rfl
  | pinged response hresponse hmanaged hping =>
    rw [forwardPing]
    split
    · split <;> exact h
    · exact h
  | committed response projected written suffix hresponse hadmitted houtgoing =>
    have hrecorded := h.recorded hrequires houtgoing
    unfold commit
    split
    · exact hrecorded
    · split
      · exact hrecorded.congr rfl rfl rfl
      · exact hrecorded

end

end

theorem streamScannerHandler_bounded (hrequires : relay.requiresClaudeUsageAuthorization = true)
    (hprompt : 0 ≤ relay.info.authorizedPromptTokens) (arrivals : List Arrival) :
    Bounded relay (streamScannerHandler relay arrivals).claude := by
  apply streamScannerHandler_induction (I := fun run => Bounded relay run.claude) arrivals
  · refine ⟨⟨le_rfl, hprompt, fun h => by cases h⟩, fun counter => ?_⟩
    cases counter <;> exact le_rfl
  · intro before event write _ hbefore _
    exact hbefore.handled hrequires event write
  · intro run write hrun _
    rw [StreamRun.keepalive]
    split <;> exact hrun

/-- A limited usage is authorized, whatever was estimated for its prompt and its completion. -/
theorem limitedUsage_authorized (hcreation : 0 ≤ usage.promptTokensDetails.cachedCreationTokens)
    (hcached : usage.promptTokensDetails.cachedTokens +
        max usage.promptTokensDetails.cachedCreationTokens
          (usage.claudeCacheCreation5mTokens + usage.claudeCacheCreation1hTokens) ≤
      relay.info.authorizedPromptTokens) :
    Authorized relay (limitedUsage relay usage) := by
  constructor
  · have hlimit := min_le_right usage.promptTokens
      (max (relay.info.authorizedPromptTokens - (usage.promptTokensDetails.cachedTokens +
        cacheCreationTokensForOpenAIUsage usage)) 0)
    rw [cacheCreationTokensForOpenAIUsage_eq hcreation, max_eq_left (sub_nonneg.mpr hcached)]
      at hlimit
    change min usage.promptTokens (max (relay.info.authorizedPromptTokens -
      (usage.promptTokensDetails.cachedTokens + cacheCreationTokensForOpenAIUsage usage)) 0) +
        usage.promptTokensDetails.cachedTokens + _ ≤ _
    rw [cacheCreationTokensForOpenAIUsage_eq hcreation, max_eq_left (sub_nonneg.mpr hcached)]
    change _ + _ + max usage.promptTokensDetails.cachedCreationTokens
      (usage.claudeCacheCreation5mTokens + usage.claudeCacheCreation1hTokens) ≤ _
    linarith
  · exact min_le_right _ _

/-- However a stream ended, it is settled within its bounds, also when it is settled again. -/
theorem Settleable.finalize
    (h : Settleable relay claude) (hrequires : relay.requiresClaudeUsageAuthorization = true) :
    Authorized relay (finalizeClaudeStreamUsage relay claude).usage ∧
      Settleable relay (finalizeClaudeStreamUsage relay claude) := by
  by_cases hterminal : claude.sawTerminalUsage = true
  · -- final usage is settled as it was recorded
    obtain ⟨hdone, hpositive, hauthorized⟩ := h.terminal hterminal
    have husage : (finalizeClaudeStreamUsage relay claude).usage =
        { claude.usage with usageSemantic := "anthropic" } := by
      simp [finalizeClaudeStreamUsage, hdone, hterminal, hpositive.ne']
    have hauthorized' : Authorized relay (finalizeClaudeStreamUsage relay claude).usage := by
      rw [husage]
      exact ⟨hauthorized.prompt, hauthorized.completion⟩
    refine ⟨hauthorized', ?_, ?_, fun _ => ⟨hdone, ?_, hauthorized'⟩⟩
    · rw [husage]
      exact h.creation
    · rw [husage]
      exact h.cached
    · rw [husage]
      exact hpositive
  · have hfalse : claude.sawTerminalUsage = false := by simpa using hterminal
    -- the estimate leaves the cached input as it was recorded
    obtain ⟨usage, hdetails, h5m, h1h, husage⟩ : ∃ usage : Usage,
        usage.promptTokensDetails = claude.usage.promptTokensDetails ∧
          usage.claudeCacheCreation5mTokens = claude.usage.claudeCacheCreation5mTokens ∧
          usage.claudeCacheCreation1hTokens = claude.usage.claudeCacheCreation1hTokens ∧
          (finalizeClaudeStreamUsage relay claude).usage =
            { limitedUsage relay usage with usageSemantic := "anthropic" } := by
      refine ⟨if claude.usage.completionTokens = 0 ∨ claude.done = false then
        estimatedUsage relay claude else claude.usage, ?_, ?_, ?_, ?_⟩
      · split <;> rfl
      · split <;> rfl
      · split <;> rfl
      · rw [finalizeClaudeStreamUsage, if_pos ⟨hrequires, .inr hfalse⟩]
    have hcreation : 0 ≤ usage.promptTokensDetails.cachedCreationTokens := by
      rw [hdetails]
      exact h.creation
    have hcached : usage.promptTokensDetails.cachedTokens +
        max usage.promptTokensDetails.cachedCreationTokens
          (usage.claudeCacheCreation5mTokens + usage.claudeCacheCreation1hTokens) ≤
        relay.info.authorizedPromptTokens := by
      rw [hdetails, h5m, h1h]
      exact h.cached
    have hlimited := limitedUsage_authorized hcreation hcached
    refine ⟨?_, ?_, ?_, fun hcontra => absurd hcontra hterminal⟩
    · rw [husage]
      exact ⟨hlimited.prompt, hlimited.completion⟩
    · rw [husage]
      exact hcreation
    · rw [husage]
      exact hcached

theorem failedClaudeStreamUsage_authorized {written : Bool} (h : Settleable relay claude)
    (hrequires : relay.requiresClaudeUsageAuthorization = true)
    (husage : failedClaudeStreamUsage relay claude written = some usage) :
    Authorized relay usage := by
  rw [failedClaudeStreamUsage] at husage
  split at husage
  · cases husage
    exact (h.finalize hrequires).1
  · cases husage

/-- The usage that a Claude stream is settled for is within the bounds that the request was
authorized for, whatever the upstream sent and however the stream ended. -/
theorem claudeStreamHandler_authorized (relay : ClaudeRelay)
    (hrequires : relay.requiresClaudeUsageAuthorization = true)
    (hprompt : 0 ≤ relay.info.authorizedPromptTokens) (arrivals : List Arrival)
    (status : StreamStatus) (writes : FinalWrites) (usage : Usage)
    (husage : (claudeStreamHandler relay arrivals status writes).1 = some usage) :
    usage.promptTokens + usage.promptTokensDetails.cachedTokens +
        max usage.promptTokensDetails.cachedCreationTokens
          (usage.claudeCacheCreation5mTokens + usage.claudeCacheCreation1hTokens) ≤
      relay.info.authorizedPromptTokens ∧
    usage.completionTokens ≤ relay.info.authorizedCompletionTokens := by
  have hrun := (streamScannerHandler_bounded hrequires hprompt arrivals).toSettleable
  have hauthorized : Authorized relay usage := by
    rw [claudeStreamHandler] at husage
    dsimp only at husage
    split at husage
    · exact failedClaudeStreamUsage_authorized hrun hrequires husage
    · split at husage
      · exact failedClaudeStreamUsage_authorized hrun hrequires husage
      · obtain ⟨hfinal, hsettleable⟩ := hrun.finalize hrequires
        split at husage
        · cases husage
          exact hfinal
        · exact failedClaudeStreamUsage_authorized hsettleable hrequires husage
  exact ⟨hauthorized.prompt, hauthorized.completion⟩

/-- The usage of a short stream. -/
def sampleUsage : Usage :=
  { promptTokens := 10, completionTokens := 5, usageSemantic := "anthropic" }

theorem claudeStreamHandler_authorized_sample :
    (claudeStreamHandler (sampleRelay .claude)
      (arrivals [sampleStart, sampleText 0 "Hello", sampleEnd 5, sampleStop]) ⟨.done, none, false⟩
      {}).1 = some sampleUsage ∧
    sampleUsage.completionTokens ≤ (sampleRelay .claude).info.authorizedCompletionTokens := by
  have hrun : (claudeStreamHandler (sampleRelay .claude)
      (arrivals [sampleStart, sampleText 0 "Hello", sampleEnd 5, sampleStop]) ⟨.done, none, false⟩
      {}).1 = some sampleUsage := by decide +kernel
  exact ⟨hrun,
    (claudeStreamHandler_authorized (sampleRelay .claude) rfl (by decide) _ _ _ _ hrun).2⟩

end Mujian.Streams
