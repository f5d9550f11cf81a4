import Mujian.Billing.RealtimeTotals
import Mujian.Tasks.StoredQuota
import Mujian.Tasks.Submission
import Mujian.Tasks.VideoBilling

/-!
# What a task is charged

`relayTask` submits a task, with retries on other channels, settles the reservation to the quota of
the submission, and stores the task with that quota whether or not the settlement succeeded
(`refund_exceeds_taken`). `stored_quota_eq_taken` says when the stored quota is what was taken for
the task, through every polling history.
-/

namespace Mujian.Tasks

open Pricing Relay Billing
open Protocols (System)

/-! ## The attempts -/

/-- Why an attempt does not get to its submission. -/
inductive SetupFailure
  | lockedChannel (text : String)
  | noChannel (text : String)
  | body (text : String) (tooLarge : Bool)

def SetupFailure.failure (mask : String → String) : SetupFailure → Failure
  | lockedChannel text => taskErrorWrapperLocal mask text "setup_locked_channel_failed" 500
  | noChannel text => taskErrorWrapperLocal mask text "get_channel_failed" 500
  | body text tooLarge =>
    taskErrorWrapperLocal mask text "read_request_body_failed" (if tooLarge then 413 else 400)

def alwaysSkipRetryStatusCodes : List ℤ := [504, 524]

/-- What decides about another attempt, besides the error. -/
structure RetryContext where
  (skipRetryAfterChannelAffinityFailure specificChannelId : Bool := false)

def shouldRetryTaskRelay (c : RetryContext) (e : TaskError) (retryTimes : ℕ) : Bool :=
  if c.skipRetryAfterChannelAffinityFailure then false
  else if retryTimes = 0 then false
  else if c.specificChannelId then false
  else if e.statusCode = 429 then true
  else if e.statusCode = 307 then true
  else if e.statusCode.tdiv 100 = 5 then e.statusCode ∉ alwaysSkipRetryStatusCodes
  else if e.statusCode = 400 then false
  else if e.statusCode = 408 then false
  else if e.localError then false
  else if e.statusCode.tdiv 100 = 2 then false
  else true

structure TaskAttempt where
  setup : Option SetupFailure := none
  env : SubmitEnv
  retry : RetryContext := {}

/-- The loop over the attempts, of which there are `RetryTimes + 1`. Without any the result is a
nil pointer. -/
def submitAttempts : List TaskAttempt → TaskRelay → DB →
    Except Failure TaskSubmitResult × TaskRelay × DB
  | [], task, db => (.error .panicked, task, db)
  | attempt :: rest, task, db =>
    match attempt.setup with
    | some failure => (.error (failure.failure attempt.env.mask), task, db)
    | none =>
      match relayTaskSubmit attempt.env task db with
      | (.ok result, task, db) => (.ok result, task, db)
      | (.error .panicked, task, db) => (.error .panicked, task, db)
      | (.error (.error e), task, db) =>
        -- the channel of a locked task has no alternative
        if task.lockedChannel.isSome || !shouldRetryTaskRelay attempt.retry e rest.length then
          (.error (.error e), task, db)
        else submitAttempts rest task db

/-! ## The handler -/

/-- What the handler finds outside. -/
structure RelayTaskEnv where
  origins : OriginEnv
  attempts : List TaskAttempt
  settle : CallEnv
  post : WssEnv
  now : ℤ
  generateTaskID : String
  taskPricePatches : List String
  nextID : ℤ
  inserts : Bool := true

def TaskPlatform.ofText (text : String) : TaskPlatform :=
  if text = "suno" then .suno
  else if text = "mj" then .midjourney
  else if text = "mujian_image" then .mujianImage
  else .other text

def billingSourceText : Option BillingSource → String
  | none => ""
  | some .wallet => "wallet"
  | some .subscription => "subscription"

section

variable (env : RelayTaskEnv)

section

variable (task : TaskRelay) (db : DB)

/-- The session shares the relay info of the request. Without a session the whole quota is still to
be taken. -/
def settleBilling (actualQuota : ℤ) (db : DB) : Except RealtimeError Unit × TaskRelay × DB :=
  match task.billing with
  | some session =>
    match { session with relayInfo := task.info }.settle env.settle actualQuota db with
    | (result, session, db) =>
      (result.mapError .billing,
        { task with info := session.relayInfo, billing := some session }, db)
  | none =>
    let quotaDelta := actualQuota - task.info.finalPreConsumedQuota
    if quotaDelta ≠ 0 then
      match postConsumeQuota env.post task.info quotaDelta db with
      | (result, info, db) => (result, { task with info := info }, db)
    else (.ok (), task, db)

/-- The row that is inserted, `InitTask` and the assignments after it. -/
def submittedTask (result : TaskSubmitResult) : Task where
  id := env.nextID
  taskID := if task.publicTaskID ≠ "" then task.publicTaskID else env.generateTaskID
  platform := .ofText result.platform
  userId := task.info.userId
  channelId := (task.info.channelMeta.map ChannelMeta.channelId).getD 0
  quota := result.quota
  status := .notStart
  failReason := ""
  submitTime := env.now
  startTime := 0
  finishTime := 0
  progress := "0%"
  privateData :=
    { upstreamTaskID := result.upstreamTaskID
      resultURL := "", billingSource := billingSourceText task.info.billingSource
      subscriptionId := task.info.subscriptionId, tokenId := task.info.tokenId
      perCallBilling := task.info.originModelName ∈ env.taskPricePatches ||
        task.info.priceData.usePrice }
  data := result.taskData

def Store.insert (s : Store) (task : Task) : Store := { s with tasks := s.tasks.add task }

/-- How the handler ends. -/
structure Relayed where
  failure : Option Failure
  task : TaskRelay
  db : DB
  store : Store
  /-- The refund that is left to the background. -/
  refund : Option RefundJob := none

def submitTask : Except Failure TaskSubmitResult × TaskRelay × DB :=
  match resolveOriginTask env.origins task with
  | .error e => (.error e, task, db)
  | .ok task => submitAttempts env.attempts task db

def relayTask (store : Store) : Relayed :=
  match submitTask env task db with
  | (.error e, task, db) =>
    { failure := some e
      task := task, db := db
      store := store
      refund := task.billing.bind fun session => session.refund.2 }
  | (.ok result, task, db) =>
    -- an error of the settlement is only logged
    match settleBilling env task result.quota db with
    | (_, task, db) =>
      { failure := none
        task := task, db := db
        store := if env.inserts then store.insert (submittedTask env task result) else store }

end

end

/-! ## Remixes -/

/-- The submission succeeds with these ratios in its price data. -/
def ChargesRatios (env : RelayTaskEnv) (task : TaskRelay) (db : DB) (ratios : Ratios) : Prop :=
  ∃ result task' db', submitTask env task db = (.ok result, task', db') ∧
    ∀ r ∈ ratios, r ∈ task'.info.priceData.otherRatios

/-- **No remix is ever charged with the ratios of its origin.** Nothing is charged or stored at all,
and where the origin and its channel are found, the handler panics. -/
theorem remix_never_charged (env : RelayTaskEnv) (info : RelayInfo) (db : DB) (store : Store)
    (origin : OriginTask)
    (hremix : textContains env.origins.path "/v1/videos/" = true ∧
      "/remix".toList <:+ env.origins.path.toList)
    (horigin : env.origins.getByTaskId info.userId env.origins.videoID = .ok (some origin)) :
    let relayed := relayTask env (genTaskRelayInfo info) db store
    (∀ context, origin.billingContext = some context →
        ¬ChargesRatios env (genTaskRelayInfo info) db context.otherRatios) ∧
      relayed.db = db ∧ relayed.store = store ∧ relayed.refund = none ∧
      (trimSpace env.origins.videoID ≠ "" →
        ∀ ch, env.origins.getChannelById origin.channelId = .ok ch → ch.enabled = true →
          relayed.failure = some .panicked) := by
  intro relayed
  obtain ⟨e, herror, hpanicked⟩ := resolveOriginTask_of_remix hremix horigin
  have hsubmit : submitTask env (genTaskRelayInfo info) db =
      (.error e, genTaskRelayInfo info, db) := by
    unfold submitTask
    rw [herror]
  have hrelayed : relayed = ⟨some e, genTaskRelayInfo info, db, store, none⟩ := by
    unfold relayed relayTask
    rw [hsubmit]
    rfl
  rw [hrelayed]
  refine ⟨?_, rfl, rfl, rfl, fun hvideo ch hch henabled => ?_⟩
  · rintro - - ⟨result, task', db', hok, -⟩
    rw [hsubmit] at hok
    cases hok
  · exact congrArg some (hpanicked hvideo ch hch henabled)

/-! ## The reservation of a submission -/

/-- A request before anything was reserved for it, in a database where its user exists, its id is
new and no usage is negative. -/
structure Unreserved (task : TaskRelay) (db : DB) : Prop where
  billing : task.billing = none
  preConsumed : task.info.finalPreConsumedQuota = 0
  source : task.info.billingSource = none
  imageRetail : task.info.imageRetail = none
  user : ∃ user, db.users.find? task.info.userId = some user
  fresh : db.ledger.find? task.info.requestId = none
  used : ∀ sub ∈ db.subscriptions.rows, 0 ≤ sub.amountUsed

/-- The steps of a submission other than the reservation leave this as it is. -/
structure SameBilling (task task' : TaskRelay) : Prop where
  billing : task'.billing = task.billing
  preConsumed : task'.info.finalPreConsumedQuota = task.info.finalPreConsumedQuota
  source : task'.info.billingSource = task.info.billingSource
  imageRetail : task'.info.imageRetail = task.info.imageRetail
  userId : task'.info.userId = task.info.userId
  requestId : task'.info.requestId = task.info.requestId

namespace SameBilling

variable {task task₁ task₂ : TaskRelay}

theorem refl (task : TaskRelay) : SameBilling task task := ⟨rfl, rfl, rfl, rfl, rfl, rfl⟩

theorem trans (h : SameBilling task task₁) (h' : SameBilling task₁ task₂) :
    SameBilling task task₂ :=
  ⟨h'.billing.trans h.billing, h'.preConsumed.trans h.preConsumed, h'.source.trans h.source,
    h'.imageRetail.trans h.imageRetail, h'.userId.trans h.userId,
    h'.requestId.trans h.requestId⟩

theorem unreserved {db : DB} (h : SameBilling task task₁) (hun : Unreserved task db) :
    Unreserved task₁ db where
  billing := h.billing.trans hun.billing
  preConsumed := h.preConsumed.trans hun.preConsumed
  source := h.source.trans hun.source
  imageRetail := h.imageRetail.trans hun.imageRetail
  user := h.userId ▸ hun.user
  fresh := h.requestId ▸ hun.fresh
  used := hun.used

end SameBilling

/-- What has been reserved for a request, counted from the database `db₀`: nothing, or what its
session has. -/
inductive Reservation (db₀ : DB) (task : TaskRelay) (db : DB) : Prop
  | none (hun : Unreserved task db₀) (hapart : db₀.ApartFromTokens db)
  | session {s : BillingSession} {base : DB} (hbilling : task.billing = some s)
      (hretail : task.info.imageRetail = none) (hresets : db₀.AfterResets base)
      (hopened : OpenedLegacy s (s.funding.used base) db)

section

variable {env : SubmitEnv} {task task' : TaskRelay} {db₀ db db' : DB}

theorem Reservation.of_same (h : Reservation db₀ task db) (hsame : SameBilling task task') :
    Reservation db₀ task' db := by
  cases h with
  | none hun hapart => exact .none (hsame.unreserved hun) hapart
  | session hbilling hretail hresets hopened =>
    exact .session (hsame.billing.trans hbilling) (hsame.imageRetail.trans hretail) hresets hopened

variable {origins : OriginEnv} {adaptor : TaskAdaptor} {result : TaskSubmitResult}

theorem sameBilling_detectRemix (h : detectRemix origins task = .ok task') :
    SameBilling task task' := by
  have hrest : ∀ task₁, SameBilling task task₁ →
      (if task₁.action = taskActionRemix then
        if trimSpace origins.videoID = "" then
          .error (taskErrorWrapperLocal origins.mask "video_id is required" "invalid_request" 400)
        else .ok { task₁ with originTaskID := origins.videoID }
      else .ok task₁ : Except Failure TaskRelay) = .ok task' → SameBilling task task' := by
    intro task₁ hsame h
    split at h
    · split at h
      · cases h
      · cases h
        exact hsame.trans ⟨rfl, rfl, rfl, rfl, rfl, rfl⟩
    · cases h
      exact hsame
  refine hrest _ ?_ h
  split
  · exact ⟨rfl, rfl, rfl, rfl, rfl, rfl⟩
  · exact .refl task

theorem sameBilling_deriveModelName (origin : OriginTask) (task : TaskRelay) :
    SameBilling task (deriveModelName origin task) := by
  unfold deriveModelName
  split
  · exact .refl task
  · exact ⟨rfl, rfl, rfl, rfl, rfl, rfl⟩

theorem sameBilling_lockOriginChannel {origin : OriginTask}
    (h : lockOriginChannel origins origin task = .ok task') : SameBilling task task' := by
  unfold lockOriginChannel at h
  split at h
  · cases h
  split at h
  · cases h
  split at h
  · cases h
  split at h
  · cases h
    exact ⟨rfl, rfl, rfl, rfl, rfl, rfl⟩
  split at h
  · cases h
  · cases h
    exact ⟨rfl, rfl, rfl, rfl, rfl, rfl⟩

theorem sameBilling_resolveOriginTask
    (h : resolveOriginTask origins task = .ok task') : SameBilling task task' := by
  obtain ⟨task₁, hdetect, h⟩ := except_bind_eq_ok_iff.1 h
  have hsame := sameBilling_detectRemix hdetect
  split at h
  · cases h
    exact hsame
  obtain ⟨origin, -, h⟩ := except_bind_eq_ok_iff.1 h
  obtain ⟨task₂, hlock, h⟩ := except_bind_eq_ok_iff.1 h
  have hlocked := (hsame.trans (sameBilling_deriveModelName origin task₁)).trans
    (sameBilling_lockOriginChannel hlock)
  split at h
  · cases h
    exact hlocked.trans ⟨rfl, rfl, rfl, rfl, rfl, rfl⟩
  · cases h
    exact hlocked

theorem sameBilling_prepareSubmit
    (h : prepareSubmit env task = .ok (adaptor, task')) : SameBilling task task' := by
  unfold prepareSubmit at h
  simp only at h
  split at h
  · cases h
  split at h
  · cases h
  split at h
  · cases h
  · cases h
    exact ⟨rfl, rfl, rfl, rfl, rfl, rfl⟩

theorem channelSpecific_addOtherRatios (ratios : Ratios) (data : PriceData) :
    (ratios.foldl (fun data r => addOtherRatio data r.1 r.2) data).channelSpecific =
      data.channelSpecific := by
  induction ratios generalizing data with
  | nil => rfl
  | cons r ratios ih =>
    rw [List.foldl_cons, ih]
    unfold addOtherRatio
    split <;> rfl

theorem sameBilling_priceSubmit (h : priceSubmit env adaptor task = .ok task') :
    SameBilling task task' ∧ task'.info.priceData.channelSpecific = false := by
  unfold priceSubmit at h
  split at h
  · cases h
  rename_i info data quota hprice
  obtain ⟨rfl, usePrice, price, ratio, rfl⟩ := modelPriceHelperPerCall_cases hprice
  obtain rfl := Except.ok.inj h
  exact ⟨⟨rfl, rfl, rfl, rfl, rfl, rfl⟩, channelSpecific_addOtherRatios _ _⟩

/-- An opening that fails moves tokens at most. -/
theorem apartFromTokens_of_newBillingSession {env : OpenEnv} {info : RelayInfo} {quota : ℤ}
    {e : SessionError} (h : newBillingSession env info quota db = (.error e, db')) :
    db.ApartFromTokens db' := by
  have hwallet : ∀ {info : RelayInfo} {db : DB} {e : SessionError},
      ((tryWallet env info quota db).1, (tryWallet env info quota db).2.2) = (.error e, db') →
      db.ApartFromTokens db' := by
    intro info db e h
    have htry : tryWallet env info quota db = (.error e, (tryWallet env info quota db).2.1, db') :=
      Prod.ext (Prod.mk.inj h).1 (Prod.ext rfl (Prod.mk.inj h).2)
    exact (apartFromTokens_of_tryWallet htry).1
  unfold newBillingSession at h
  split at h
  · exact BillingSession.apartFromTokens_of_preConsume_error h
  · exact hwallet h
  · split at h
    · cases h
    · rename_i e info' db₁ htry
      have hapart := (apartFromTokens_of_tryWallet htry).1
      split at h
      · exact hapart.trans (BillingSession.apartFromTokens_of_preConsume_error h)
      · obtain ⟨-, rfl⟩ := Prod.mk.inj h
        exact hapart
  · split at h
    · obtain ⟨-, rfl⟩ := Prod.mk.inj h
      exact .refl _
    · exact hwallet h
    · split at h
      · cases h
      · rename_i e db₁ htry
        have hapart := BillingSession.apartFromTokens_of_preConsume_error htry
        split at h
        · exact hapart.trans (hwallet h)
        · obtain ⟨-, rfl⟩ := Prod.mk.inj h
          exact hapart

/-- The first attempt that is not free opens the session. -/
theorem Reservation.reserveSubmit (h : Reservation db₀ task db)
    (hchannel : task.info.priceData.channelSpecific = false)
    {result : Except Failure TaskRelay}
    (hreserve : reserveSubmit env task db = (result, task', db')) :
    Reservation db₀ task' db' ∧ ∀ task'', result = .ok task'' →
      task'' = task' ∧ task'.info.priceData.channelSpecific = false := by
  unfold Tasks.reserveSubmit at hreserve
  split at hreserve
  · cases hreserve
    exact ⟨h, fun _ hok => ⟨(Except.ok.inj hok).symm, hchannel⟩⟩
  rename_i hnot
  cases h with
  | session hbilling => simp [hbilling] at hnot
  | none hun hapart =>
    simp only at hreserve
    split at hreserve
    · rename_i hopen
      cases hreserve
      refine ⟨.none ⟨hun.billing, hun.preConsumed, hun.source, hun.imageRetail, hun.user, hun.fresh,
        hun.used⟩ (hapart.trans (apartFromTokens_of_newBillingSession hopen)), ?_⟩
      exact fun _ hok => by cases hok
    · rename_i s db₁ hopen
      cases hreserve
      obtain ⟨base, hresets, hopened⟩ := openedLegacy_of_newBillingSession hopen
        (by simp [RelayInfo.usesAtomicStrictBilling, hchannel, hun.imageRetail])
        (hapart.users.symm ▸ hun.user) (hapart.ledger.symm ▸ hun.fresh)
        (hapart.subscriptions.symm ▸ hun.used)
      obtain ⟨attempt, amount, s₀, db₂, hsame, -, hpre⟩ :=
        (newBillingSession_cases hopen).exists_preConsume
      have hinfo := hsame.trans (BillingSession.sameRequest_of_preConsume hpre)
      refine ⟨.session rfl (hinfo.imageRetail.trans hun.imageRetail)
        (hresets.of_apartFromTokens hapart) hopened, fun _ hok => ?_⟩
      exact ⟨(Except.ok.inj hok).symm, hinfo.priceData ▸ hchannel⟩

theorem Reservation.chargeSubmit (h : Reservation db₀ task db)
    {result : Except Failure (TaskAdaptor × TaskRelay)}
    (hcharge : chargeSubmit env task db = (result, task', db')) :
    Reservation db₀ task' db' ∧ ∀ adaptor task'', result = .ok (adaptor, task'') →
      task'' = task' ∧ task'.info.priceData.channelSpecific = false := by
  unfold Tasks.chargeSubmit at hcharge
  split at hcharge
  · cases hcharge
    exact ⟨h, fun _ _ hok => by cases hok⟩
  rename_i adaptor task₁ hprepare
  have h₁ := h.of_same (sameBilling_prepareSubmit hprepare)
  split at hcharge
  · cases hcharge
    exact ⟨h₁, fun _ _ hok => by cases hok⟩
  rename_i task₂ hprice
  obtain ⟨hsame, hchannel⟩ := sameBilling_priceSubmit hprice
  split at hcharge
  · rename_i hreserve
    cases hcharge
    exact ⟨((h₁.of_same hsame).reserveSubmit hchannel hreserve).1, fun _ _ hok => by cases hok⟩
  · rename_i task₃ task₄ db₁ hreserve
    cases hcharge
    obtain ⟨hres, hok⟩ := (h₁.of_same hsame).reserveSubmit hchannel hreserve
    obtain ⟨rfl, hspecific⟩ := hok _ rfl
    refine ⟨hres, fun _ _ hok => ?_⟩
    cases hok
    exact ⟨rfl, hspecific⟩

theorem sendSubmit_ok (h : sendSubmit env adaptor task = .ok (result, task')) :
    SameBilling task task' ∧
      task'.info.priceData.channelSpecific = task.info.priceData.channelSpecific := by
  unfold sendSubmit at h
  split at h
  · cases h
  split at h
  · cases h
  split at h
  · cases h
  split at h
  · cases h
  · obtain ⟨-, rfl⟩ := h
    split
    · exact ⟨.refl _, rfl⟩
    · exact ⟨⟨rfl, rfl, rfl, rfl, rfl, rfl⟩, rfl⟩

theorem Reservation.relayTaskSubmit (h : Reservation db₀ task db)
    {result : Except Failure TaskSubmitResult}
    (hsubmit : relayTaskSubmit env task db = (result, task', db')) :
    Reservation db₀ task' db' ∧
      ∀ r, result = .ok r → task'.info.priceData.channelSpecific = false := by
  unfold Tasks.relayTaskSubmit at hsubmit
  split at hsubmit
  · rename_i hcharge
    cases hsubmit
    exact ⟨(h.chargeSubmit hcharge).1, fun _ hok => by cases hok⟩
  rename_i adaptor task₁ task₂ db₁ hcharge
  obtain ⟨hres, hok⟩ := h.chargeSubmit hcharge
  obtain ⟨rfl, hspecific⟩ := hok _ _ rfl
  split at hsubmit
  · cases hsubmit
    exact ⟨hres, fun _ hok => by cases hok⟩
  · rename_i r task₃ hsend
    cases hsubmit
    obtain ⟨hsame, heq⟩ := sendSubmit_ok hsend
    exact ⟨hres.of_same hsame, fun _ _ => heq.trans hspecific⟩

/-- Whatever attempts are made, there is one reservation at most. -/
theorem Reservation.submitAttempts {attempts : List TaskAttempt} (h : Reservation db₀ task db)
    {result : Except Failure TaskSubmitResult}
    (hsubmit : submitAttempts attempts task db = (result, task', db')) :
    Reservation db₀ task' db' ∧
      ∀ r, result = .ok r → task'.info.priceData.channelSpecific = false := by
  induction attempts generalizing task db with
  | nil =>
    cases hsubmit
    exact ⟨h, fun _ hok => by cases hok⟩
  | cons attempt rest ih =>
    unfold Tasks.submitAttempts at hsubmit
    split at hsubmit
    · cases hsubmit
      exact ⟨h, fun _ hok => by cases hok⟩
    split at hsubmit
    · rename_i hone
      cases hsubmit
      exact h.relayTaskSubmit hone
    · rename_i hone
      cases hsubmit
      exact h.relayTaskSubmit hone
    · rename_i e task₁ db₁ hone
      have h₁ := (h.relayTaskSubmit hone).1
      split at hsubmit
      · cases hsubmit
        exact ⟨h₁, fun _ hok => by cases hok⟩
      · exact ih h₁ hsubmit

theorem reservation_of_submitTask {env : RelayTaskEnv} (hun : Unreserved task db)
    (hsubmit : submitTask env task db = (.ok result, task', db')) :
    Reservation db task' db' ∧ task'.info.priceData.channelSpecific = false := by
  unfold submitTask at hsubmit
  split at hsubmit
  · cases hsubmit
  rename_i task₁ hresolve
  have hstart : Reservation db task₁ db :=
    .none ((sameBilling_resolveOriginTask hresolve).unreserved hun) (.refl db)
  obtain ⟨hres, hok⟩ := hstart.submitAttempts hsubmit
  exact ⟨hres, hok _ rfl⟩

end

/-! ## The settlement of a submission -/

/-- What the task is paid from: the funding source of its session, or the wallet. -/
def TaskRelay.fundingSource (task : TaskRelay) : FundingSource :=
  match task.billing with
  | some s => s.funding
  | none => .wallet { userId := task.info.userId }

/-- Nothing is left to settle, or the statement that moves the funding source succeeds. No quota is
negative. -/
def AcceptsSettlement (env : RelayTaskEnv) (task : TaskRelay) (quota : ℤ) (db : DB) : Prop :=
  0 ≤ quota ∧
    match task.billing with
    | some s =>
      0 ≤ s.preConsumedQuota ∧ (quota = s.preConsumedQuota ∨
        (env.settle.funding.commit (s.funding.settle (quota - s.preConsumedQuota)) db).1.isOk)
    | none => quota = 0 ∨ (consumeFunding env.post task.info quota db).1.isOk

section

variable {env : RelayTaskEnv} {task : TaskRelay} {db₀ db : DB} {quota : ℤ} {s : BillingSession}

theorem settled_of_accepts {call : CallEnv} {base : ℤ}
    (hopened : OpenedLegacy s base db) (haccepts : quota = s.preConsumedQuota ∨
      (call.funding.commit (s.funding.settle (quota - s.preConsumedQuota)) db).1.isOk) :
    (s.settle call quota db).2.1.settled = true := by
  have hcall : s.settle call quota db = s.settleLegacy call quota db := by
    rw [BillingSession.settle, if_neg (by simp [hopened.settled]),
      if_neg (by simp [hopened.legacy])]
  rw [hcall, BillingSession.settleLegacy]
  split
  · rfl
  rename_i hdelta
  have hok := haccepts.resolve_left fun heq => hdelta (sub_eq_zero.2 heq)
  rw [BillingSession.settleFunding, if_neg (by simp [hopened.fundingSettled])]
  split
  · rename_i hcommit
    rw [hcommit] at hok
    cases hok
  · rfl

theorem netTaken_settle (call : CallEnv) {base : DB}
    (hopened : OpenedLegacy s (s.funding.used base) db) (hquota : 0 ≤ quota)
    (hpre : 0 ≤ s.preConsumedQuota) (haccepts : quota = s.preConsumedQuota ∨
      (call.funding.commit (s.funding.settle (quota - s.preConsumedQuota)) db).1.isOk) :
    s.funding.netTaken base (s.settle call quota db).2.2 = quota := by
  have hsettled := settled_of_accepts hopened haccepts
  have hstep := (agrees_start hopened).settle_first hopened rfl call quota
  obtain hfailed | hagrees := hstep
  · simp [SessionState.step, BillingSession.start, hsettled] at hfailed
  have hlive : ((s.start db).step (.settle call quota)).live = true := by
    simp [SessionState.live, hagrees.refunded]
  have hused := hagrees.holds.used_eq
  rw [hlive, BillingSession.usage, if_pos rfl, Option.getD_some, hopened.reserved,
    max_eq_right hpre, add_assoc, add_sub_cancel,
    FundingSource.clamp_add hopened.clamp_base hquota] at hused
  exact sub_eq_of_eq_add' hused

/-- What is taken from the wallet for a request without a session. -/
theorem netTaken_postConsumeQuota {info : RelayInfo} (hsource : info.billingSource = none)
    (huser : ∃ user, db.users.find? info.userId = some user) (hquota : 0 ≤ quota)
    (haccepts : (consumeFunding env.post info quota db).1.isOk) :
    (FundingSource.wallet { userId := info.userId }).netTaken db
      (postConsumeQuota env.post info quota db).2.2 = quota := by
  obtain ⟨user, huser⟩ := huser
  cases hfunding : consumeFunding env.post info quota db with
  | mk result db₁ =>
  rw [hfunding] at haccepts
  cases result with
  | error e => cases haccepts
  | ok info₁ =>
    have hholds := (holds_consumeFunding (f := .wallet { userId := info.userId })
      ⟨by simp [hsource], rfl⟩ (.of_user huser) hquota hfunding).1
    have hused := (hholds.of_apartFromTokens
      (apartFromTokens_consumeToken env.post info₁ quota db₁)).used_eq
    have hdb : (postConsumeQuota env.post info quota db).2.2 =
        (consumeToken env.post info₁ quota db₁).2 := by rw [postConsumeQuota, hfunding]
    rw [hdb]
    exact sub_eq_of_eq_add' hused

/-- **What is taken for a submission** whose settlement the funding source accepts. -/
theorem netTaken_settleBilling (h : Reservation db₀ task db)
    (hchannel : task.info.priceData.channelSpecific = false)
    (haccepts : AcceptsSettlement env task quota db) :
    ∃ base, db₀.AfterResets base ∧
      task.fundingSource.netTaken base (settleBilling env task quota db).2.2 = quota := by
  obtain ⟨hquota, haccepts⟩ := haccepts
  cases h with
  | @session s base hbilling hretail hresets hopened =>
    rw [hbilling] at haccepts
    refine ⟨base, hresets, ?_⟩
    -- the session settles with the relay info of the last attempt
    have hopened' : OpenedLegacy { s with relayInfo := task.info } (s.funding.used base) db :=
      ⟨by simp [BillingSession.usesAtomicStrictBilling, RelayInfo.usesAtomicStrictBilling, hchannel,
          hretail], hopened.settled, hopened.fundingSettled, hopened.settlementStarted,
        hopened.refunded, hopened.tokenConsumed, hopened.reserved, hopened.wallet_or_pos,
        hopened.clamp_base, hopened.holds⟩
    have htaken := netTaken_settle env.settle hopened' hquota haccepts.1 haccepts.2
    simpa only [TaskRelay.fundingSource, settleBilling, hbilling] using htaken
  | none hun hapart =>
    rw [hun.billing] at haccepts
    refine ⟨db₀, .refl db₀, ?_⟩
    have hbase : ∀ db', (FundingSource.wallet { userId := task.info.userId }).netTaken db₀ db' =
        (FundingSource.wallet { userId := task.info.userId }).netTaken db db' := by
      intro db'
      simp only [FundingSource.netTaken, FundingSource.used, hapart.users]
    simp only [TaskRelay.fundingSource, settleBilling, hun.billing, hun.preConsumed, sub_zero]
    rw [hbase]
    split
    · rename_i hne
      exact netTaken_postConsumeQuota hun.source (hapart.users.symm ▸ hun.user) hquota
        (haccepts.resolve_left hne)
    · rename_i hzero
      rw [not_not.1 hzero]
      exact sub_self _

end

/-! ## From the submission to the end -/

/-- **The stored quota and what was taken.** If the funding source accepts the settlement of the
submission and no settlement on completion takes effect, then the stored quota is always what was
taken for the submission, and every refund returns that amount. -/
theorem stored_quota_eq_taken {env : RelayTaskEnv} {request task : TaskRelay} {db db₁ : DB}
    {store : Store} {result : TaskSubmitResult} (hun : Unreserved request db)
    (hsubmit : submitTask env request db = (.ok result, task, db₁))
    (haccepts : AcceptsSettlement env task result.quota db₁) (hinserts : env.inserts = true)
    (hnew : store.tasks.find? env.nextID = none ∧ store.payments env.nextID = [])
    (settings : Settings) {ι : Type} [DecidableEq ι] (workers : ι → Worker)
    (es : List (ι × Outcome))
    (hmeets : System.Meets TaskOp.exec (fun _ _ o out => OnlyRefunds env.nextID o out)
      (.start (relayTask env request db store).store fun i => (workers i).program settings) es) :
    ∃ base, db.AfterResets base ∧
      let taken := task.fundingSource.netTaken base (relayTask env request db store).db
      let s := ((System.start (relayTask env request db store).store
        fun i => (workers i).program settings).run TaskOp.exec es).state
      ∃ row, s.tasks.find? env.nextID = some row ∧ row.quota = taken ∧
        (∀ delta ∈ s.payments env.nextID, delta = -taken) ∧
        (row.quota = taken + (s.payments env.nextID).sum ↔
          s.payments env.nextID = [] ∨ taken = 0) := by
  obtain ⟨hres, hchannel⟩ := reservation_of_submitTask hun hsubmit
  obtain ⟨base, hresets, htaken⟩ := netTaken_settleBilling hres hchannel haccepts
  have hrelayed : relayTask env request db store =
      { failure := none
        task := (settleBilling env task result.quota db₁).2.1
        db := (settleBilling env task result.quota db₁).2.2
        store := store.insert
          (submittedTask env (settleBilling env task result.quota db₁).2.1 result) } := by
    rw [relayTask, hsubmit]
    simp only [hinserts, if_true]
  have hstored : StoredQuota env.nextID result.quota (relayTask env request db store).store := by
    rw [hrelayed]
    refine ⟨⟨_, (Table.find?_add hnew.1 _).trans (if_pos rfl), rfl⟩, fun delta hdelta => ?_⟩
    exact absurd (hnew.2 ▸ hdelta : delta ∈ ([] : List ℤ)) List.not_mem_nil
  obtain ⟨⟨row, hrow, hquota⟩, hpayments⟩ := run_storedQuota hstored settings workers hmeets
  have hdb : task.fundingSource.netTaken base (relayTask env request db store).db =
      result.quota := by
    rw [hrelayed]
    exact htaken
  refine ⟨base, hresets, row, hrow, hquota.trans hdb.symm, ?_, ?_⟩
  · rw [hdb]
    exact hpayments
  · rw [hquota, hdb, left_eq_add, List.eq_replicate_of_mem hpayments, List.sum_replicate]
    simp

/-! ## Samples -/

section

variable (adjusted : Ratios) (refused : Bool)

/-- A video model with a ratio, at 100 for each call; the provider may correct the ratios. -/
def sampleVideoEnv : SubmitEnv :=
  { sampleSubmitEnv with
    settings := { Pricing.sampleSettings with
      getModelPrice := fun _ => none
      getModelRatio := fun name => (1 / 2500, true, name) }
    adaptor := some { sampleAdaptor with
      estimateBilling := fun _ => []
      adjustBillingOnSubmit := fun _ _ => adjusted } }

/-- One attempt; the statement that settles the funding source may be refused. -/
def sampleRelayEnv : RelayTaskEnv where
  origins := { sampleOrigins with path := "/v1/videos" }
  attempts := [{ env := sampleVideoEnv adjusted }]
  settle := { sampleCallEnv with funding := { sampleEnv with refused := refused } }
  post := sampleWssEnv
  now := 1800000000
  generateTaskID := "task_3"
  taskPricePatches := []
  nextID := 1

def sampleVideoRequest : TaskRelay where
  info := { walletRequest with originModelName := "sora-2" }

def submittedVideo : TaskRelay :=
  (submitTask (sampleRelayEnv adjusted false) sampleVideoRequest sampleDB).2.1

/-- The provider reports a success, and the adaptor a quota of 150. -/
def videoCompleted : Outcome where
  now := 1800000100
  video := .parsed ⟨"SUCCESS", "", "", "", 0⟩ "" .notJson
  adjusted := 150

/-- A pass that is always told the same. -/
def sampleHistory (s : Store) (out : Outcome) : Store :=
  ((System.start s fun _ : Unit => Worker.poll.program sampleSettings).run TaskOp.exec
    (List.replicate 20 ((), out))).state

def emptyStore : Store := ⟨.empty, []⟩

def sampleRelayed : Relayed :=
  relayTask (sampleRelayEnv adjusted refused) sampleVideoRequest sampleDB emptyStore

end

/-- A remix of the sample origin. -/
def sampleRemixEnv : RelayTaskEnv := { sampleRelayEnv [] false with origins := sampleOrigins }

theorem sampleRemixEnv_path : textContains sampleRemixEnv.origins.path "/v1/videos/" = true ∧
    "/remix".toList <:+ sampleRemixEnv.origins.path.toList := by
  decide

theorem remix_never_charged_sample :
    let relayed := relayTask sampleRemixEnv (genTaskRelayInfo walletRequest) sampleDB emptyStore
    ¬ChargesRatios sampleRemixEnv (genTaskRelayInfo walletRequest) sampleDB
        [("seconds", 8), ("size", 1)] ∧
      relayed.db = sampleDB ∧ relayed.failure = some .panicked := by
  obtain ⟨hcharged, hdb, -, -, hpanicked⟩ := remix_never_charged sampleRemixEnv walletRequest
    sampleDB emptyStore sampleOrigin sampleRemixEnv_path rfl
  exact ⟨hcharged _ rfl, hdb, hpanicked (by decide) _ rfl rfl⟩

/-- The eight seconds of the origin are not charged: the handler panics. -/
theorem remix_panics :
    (submitTask sampleRemixEnv (genTaskRelayInfo walletRequest) sampleDB).1 =
        .error .panicked ∧
      (submitTask sampleRemixEnv (genTaskRelayInfo walletRequest) sampleDB).2.2 = sampleDB ∧
      ¬ChargesRatios sampleRemixEnv (genTaskRelayInfo walletRequest) sampleDB
        [("seconds", 8), ("size", 1)] := by
  obtain ⟨e, herror, hpanicked⟩ := @resolveOriginTask_of_remix sampleRemixEnv.origins
    walletRequest sampleOrigin sampleRemixEnv_path rfl
  have he : e = .panicked := hpanicked (by decide) _ rfl rfl
  have hsubmit : submitTask sampleRemixEnv (genTaskRelayInfo walletRequest) sampleDB =
      (.error .panicked, genTaskRelayInfo walletRequest, sampleDB) := by
    unfold submitTask
    rw [herror, he]
  refine ⟨by rw [hsubmit], by rw [hsubmit], ?_⟩
  rintro ⟨result, task', db', hok, -⟩
  rw [hsubmit] at hok
  cases hok

/-- A refund after a submission without a correction. -/
theorem stored_quota_eq_taken_sample :
    submitTask (sampleRelayEnv [] false) sampleVideoRequest sampleDB =
        (.ok ⟨"video_2", "", "55", 100⟩, submittedVideo [], walletReserved) ∧
      ∃ base, sampleDB.AfterResets base ∧
        let taken := (submittedVideo []).fundingSource.netTaken base (sampleRelayed [] false).db
        let s := sampleHistory (sampleRelayed [] false).store videoFailed
        ∃ row, s.tasks.find? 1 = some row ∧ row.quota = taken ∧
          (∀ delta ∈ s.payments 1, delta = -taken) ∧
          (row.quota = taken + (s.payments 1).sum ↔ s.payments 1 = [] ∨ taken = 0) := by
  have hsubmit : submitTask (sampleRelayEnv [] false) sampleVideoRequest sampleDB =
      (.ok ⟨"video_2", "", "55", 100⟩, submittedVideo [], walletReserved) := by decide +kernel
  have hbilling : (submittedVideo []).billing.map BillingSession.preConsumedQuota = some 100 := by
    decide +kernel
  obtain ⟨s, hs, hpre⟩ := Option.map_eq_some_iff.1 hbilling
  have hnew : emptyStore.tasks.find? (sampleRelayEnv [] false).nextID = none ∧
      emptyStore.payments (sampleRelayEnv [] false).nextID = [] := ⟨rfl, rfl⟩
  refine ⟨hsubmit, stored_quota_eq_taken ?_ hsubmit ?_ rfl hnew
    sampleSettings (fun _ : Unit => Worker.poll) _ ?_⟩
  · exact ⟨rfl, rfl, rfl, rfl, ⟨_, rfl⟩, rfl, fun sub hsub => absurd hsub List.not_mem_nil⟩
  · rw [AcceptsSettlement, hs]
    exact ⟨by decide, by omega, .inl hpre.symm⟩
  · decide +kernel

/-- The provider corrects the quota from 100 to 200 and the settlement fails, but the failed task
gets 200 back. Another task is completed at 150, and its row still says 100. -/
theorem refund_exceeds_taken :
    ((sampleRelayed [("seconds", 2)] true).failure = none ∧
        ((sampleRelayed [("seconds", 2)] true).store.tasks.find? 1).map Task.quota = some 200 ∧
        (submittedVideo [("seconds", 2)]).fundingSource.netTaken sampleDB
          (sampleRelayed [("seconds", 2)] true).db = 100 ∧
        (sampleHistory (sampleRelayed [("seconds", 2)] true).store videoFailed).payments 1 =
          [-200]) ∧
      (submittedVideo []).fundingSource.netTaken sampleDB (sampleRelayed [] false).db = 100 ∧
      (sampleHistory (sampleRelayed [] false).store videoCompleted).payments 1 = [50] ∧
      ((sampleHistory (sampleRelayed [] false).store videoCompleted).tasks.find? 1).map Task.quota =
        some 100 := by decide +kernel

end Mujian.Tasks
