import Mujian.Billing.Runs

/-!
# Usage and reservations of the current period

The usage of a subscription starts again from 0 at every reset, while reservations outlive it, so
giving one back lowers the usage of whatever period is current
(`reservation_refunded_after_reset`). As long as no run gives back a reservation made before the
last reset (`KeepsPeriod`), the usage covers the reservations of the current period
(`usage_covers_current_period`).
-/

namespace Mujian.Billing

/-- What the records of subscription `id` hold that were reserved in the given period. -/
def DB.periodHeld (db : DB) (id : ℤ) (period : ℕ) : ℤ :=
  db.ledger.sumBy fun r => if r.userSubscriptionId = id ∧ r.period = period then r.held else 0

/-- The usage of subscription `id` covers the reservations of its current period; and its records
hold no negative amount and belong to no later period. -/
structure PeriodSound (id : ℤ) (db : DB) : Prop where
  covers : ∀ sub, db.subscriptions.find? id = some sub →
    db.periodHeld id sub.resets ≤ sub.amountUsed
  period_le : ∀ requestId r sub, db.ledger.find? requestId = some r → r.userSubscriptionId = id →
    db.subscriptions.find? id = some sub → r.period ≤ sub.resets
  nonneg : ∀ requestId r, db.ledger.find? requestId = some r → 0 ≤ r.preConsumed

section

variable {db : DB} {id : ℤ} {period : ℕ}

theorem DB.periodHeld_congr {db' : DB} (h : db'.ledger = db.ledger) :
    db'.periodHeld id period = db.periodHeld id period := by rw [periodHeld, periodHeld, h]

variable {record : SubscriptionPreConsumeRecord}

theorem DB.periodHeld_insert
    {ledger : Table SubscriptionPreConsumeRecord} (h : db.ledger.insert? record = some ledger)
    (db' : DB) :
    ({ db' with ledger := ledger } : DB).periodHeld id period = db.periodHeld id period +
      if record.userSubscriptionId = id ∧ record.period = period then record.held else 0 := by
  rw [periodHeld, periodHeld, Table.sumBy_insert h]

/-- Nothing is held in a period that no record belongs to. -/
theorem DB.periodHeld_eq_zero
    (h : ∀ requestId r, db.ledger.find? requestId = some r → r.userSubscriptionId = id →
      r.period ≠ period) :
    db.periodHeld id period = 0 := by
  have hzero : ∀ r ∈ db.ledger.rows,
      (if r.userSubscriptionId = id ∧ r.period = period then r.held else 0) = 0 := by
    intro r hr
    rw [if_neg]
    rintro ⟨hid, hperiod⟩
    exact h r.requestId r (Table.find?_key_of_mem hr) hid hperiod
  rw [periodHeld, Table.sumBy_congr hzero]
  simp [Table.sumBy]

end

/-- The usage of subscription `subscriptionID` moved by `delta`, but not below 0; every other
subscription, the periods and the ledger stayed. -/
structure UsageMoved (subscriptionID delta : ℤ) (db db' : DB) : Prop where
  ledger : db'.ledger = db.ledger
  usage : ∀ id sub', db'.subscriptions.find? id = some sub' →
    ∃ sub, db.subscriptions.find? id = some sub ∧ sub'.resets = sub.resets ∧
      ((id ≠ subscriptionID ∧ sub'.amountUsed = sub.amountUsed) ∨
        (id = subscriptionID ∧ 0 < delta ∧ sub'.amountUsed = sub.amountUsed + delta) ∨
        (id = subscriptionID ∧ delta ≤ 0 ∧
          sub'.amountUsed = if sub.amountUsed < -delta then 0 else sub.amountUsed - -delta))

section

variable {db db' : DB}

variable {id delta : ℤ} {overdraft : Bool}

theorem usageMoved_mapSubscription {f : UserSubscription → UserSubscription}
    {hf : ∀ s, s.id = id → (f s).id = id} (hmoved : ∀ sub, (f sub).resets = sub.resets ∧
      (0 < delta ∧ (f sub).amountUsed = sub.amountUsed + delta ∨ delta ≤ 0 ∧ (f sub).amountUsed =
        if sub.amountUsed < -delta then 0 else sub.amountUsed - -delta)) :
    UsageMoved id delta db (db.mapSubscription id f hf) where
  ledger := rfl
  usage id' sub' hfind := by
    rw [DB.find?_mapSubscription] at hfind
    split at hfind
    · rename_i hid
      obtain ⟨sub, hsub, rfl⟩ := Option.map_eq_some_iff.1 hfind
      exact ⟨sub, hid ▸ hsub, (hmoved sub).1, .inr ((hmoved sub).2.imp (.intro hid) (.intro hid))⟩
    · exact ⟨sub', hfind, rfl, .inl ⟨‹_›, rfl⟩⟩

theorem usageMoved_chargeSubscription (hdelta : 0 < delta) :
    UsageMoved id delta db (db.chargeSubscription id delta) :=
  usageMoved_mapSubscription fun _ => ⟨rfl, .inl ⟨hdelta, rfl⟩⟩

theorem usageMoved_refundSubscription (hdelta : delta ≤ 0) :
    UsageMoved id delta db (db.refundSubscription id (-delta)) :=
  usageMoved_mapSubscription fun _ => ⟨rfl, .inr ⟨hdelta, rfl⟩⟩

theorem usageMoved_refundSubscription_neg {refund : ℤ} (hrefund : 0 ≤ refund) :
    UsageMoved id (-refund) db (db.refundSubscription id refund) := by
  have hmoved := @usageMoved_refundSubscription db id (-refund) (by omega)
  rwa [neg_neg] at hmoved

/-- A move of the wallet, which stands under the id 0, moves the usage of no subscription. -/
theorem FundingMoved.usageMoved {userID subscriptionID : ℤ}
    (h : FundingMoved userID subscriptionID overdraft delta db db') :
    UsageMoved subscriptionID delta db db' := by
  cases h with
  | wallet hid hfind _ =>
    refine ⟨rfl, fun id sub hsub => ⟨sub, hsub, rfl, .inl ⟨?_, rfl⟩⟩⟩
    have hsubid : sub.id = id := Table.key_of_find? hsub
    have := sub.id_pos
    omega
  | charge hid hfind hpos _ => exact usageMoved_chargeSubscription hpos
  | refund hid hfind hneg => exact usageMoved_refundSubscription hneg

theorem TokenMoved.subscriptions {tokenID : ℤ} {skipToken : Bool}
    (h : TokenMoved tokenID skipToken overdraft delta db db') :
    db'.subscriptions = db.subscriptions := by
  cases h <;> rfl

theorem BalancesMoved.usageMoved {params : StrictBillingParams}
    (h : BalancesMoved params overdraft delta db db') :
    UsageMoved params.subscriptionID delta db db' ∨ (delta = 0 ∧ db' = db) := by
  rcases h with hsame | ⟨db₁, hfunding, htoken⟩
  · exact .inr hsame
  · have hmoved := hfunding.usageMoved
    exact .inl ⟨htoken.ledger.trans hmoved.ledger,
      fun id sub' hsub' => hmoved.usage id sub' (htoken.subscriptions ▸ hsub')⟩

end

/-! ## Usage is never negative -/

def DB.NonnegUsage (db : DB) : Prop := ∀ sub ∈ db.subscriptions.rows, 0 ≤ sub.amountUsed

namespace DB.NonnegUsage

variable {db db' : DB}

theorem usageMoved (h : db.NonnegUsage) {id delta : ℤ} (hmoved : UsageMoved id delta db db') :
    db'.NonnegUsage := by
  intro sub' hsub'
  obtain ⟨sub, hsub, -, hused⟩ := hmoved.usage _ sub' (Table.find?_key_of_mem hsub')
  have hnonneg := h sub (Table.mem_of_find? hsub)
  rcases hused with ⟨-, hused⟩ | ⟨-, hpos, hused⟩ | ⟨-, -, hused⟩
  · omega
  · omega
  · rw [hused]
    split <;> omega

theorem moved (h : db.NonnegUsage) {overdraft : Bool} (hmoved : Moved overdraft db db') :
    db'.NonnegUsage := by
  cases hmoved with
  | wallet | token | ledger => exact h
  | charge _ hpos _ => exact h.usageMoved (usageMoved_chargeSubscription hpos)
  | refund hrefund => exact h.usageMoved (usageMoved_refundSubscription_neg hrefund)
  | resets hafter => exact fun _ hsub => hafter.amountUsed_nonneg h (Table.find?_key_of_mem hsub)

end DB.NonnegUsage

namespace PeriodSound

variable {id : ℤ} {db db' : DB}

section

variable (h : PeriodSound id db)
include h

theorem congr (hsubs : db'.subscriptions = db.subscriptions)
    (hledger : db'.ledger = db.ledger) : PeriodSound id db' where
  covers sub hsub := by
    rw [DB.periodHeld_congr hledger]
    exact h.covers sub (hsubs ▸ hsub)
  period_le := by rw [hsubs, hledger]; exact h.period_le
  nonneg := by rw [hledger]; exact h.nonneg

/-- A reset starts a period to which no record belongs yet. -/
theorem afterResets (hafter : db.AfterResets db') : PeriodSound id db' where
  covers sub' hsub' := by
    obtain ⟨sub, hsub, hfrom⟩ := hafter.exists_before hsub'
    rw [DB.periodHeld_congr hafter.ledger]
    rcases hfrom.resets.lt_or_eq with hlt | heq
    · rw [hfrom.amountUsed_zero hlt, DB.periodHeld_eq_zero]
      intro requestId r hr hid
      have := h.period_le requestId r sub hr hid hsub
      omega
    · rw [hfrom.amountUsed heq.symm, ← heq]
      exact h.covers sub hsub
  period_le requestId r sub' hr hid hsub' := by
    obtain ⟨sub, hsub, hfrom⟩ := hafter.exists_before hsub'
    rw [hafter.ledger] at hr
    exact (h.period_le requestId r sub hr hid hsub).trans hfrom.resets
  nonneg := by rw [hafter.ledger]; exact h.nonneg

theorem chargeSubscription {id' amount : ℤ} (hamount : 0 < amount) :
    PeriodSound id (db.chargeSubscription id' amount) where
  covers sub' hsub' := by
    obtain ⟨sub, hsub, hresets, hused⟩ :=
      (usageMoved_chargeSubscription hamount).usage id sub' hsub'
    have hcovers := h.covers sub hsub
    have hheld : (db.chargeSubscription id' amount).periodHeld id sub.resets =
      db.periodHeld id sub.resets := rfl
    rw [hresets]
    rcases hused with ⟨-, hused⟩ | ⟨-, -, hused⟩ | ⟨-, hneg, -⟩ <;> omega
  period_le requestId r sub' hr hid hsub' := by
    obtain ⟨sub, hsub, hresets, -⟩ := (usageMoved_chargeSubscription hamount).usage id sub' hsub'
    rw [hresets]
    exact h.period_le requestId r sub hr hid hsub
  nonneg := h.nonneg

variable {requestId : String}

theorem reservedFrom {env : Env}
    {userId amount : ℤ} (hamount : 0 < amount) {result : SubscriptionPreConsumeResult}
    (hreserved : ReservedFrom env requestId userId amount db db' result) :
    PeriodSound id db' := by
  obtain ⟨db₁, target, ledger, hafter, htarget, -, -, -, -, hinsert, rfl, -⟩ := hreserved
  have h₁ := h.afterResets hafter
  have husage := (@usageMoved_chargeSubscription db₁ target.id amount hamount).usage id
  refine ⟨fun sub' hsub' => ?_, fun requestId' r sub' hr hid hsub' => ?_,
    fun requestId' r hr => ?_⟩
  · obtain ⟨sub, hsub, hresets, hused⟩ := husage sub' hsub'
    have hcovers := h₁.covers sub hsub
    rw [DB.periodHeld_insert hinsert, hresets]
    have hheld : (subscriptionRecord env requestId userId amount target).held = amount := rfl
    rcases hused with ⟨hne, hused⟩ | ⟨-, -, hused⟩ | ⟨-, hneg, -⟩
    · rw [if_neg fun hc => hne hc.1.symm]
      omega
    · split <;> omega
    · omega
  · obtain ⟨sub, hsub, hresets, -⟩ := husage sub' hsub'
    rw [hresets]
    rw [Table.find?_insert hinsert] at hr
    split at hr
    · obtain rfl := Option.some.inj hr
      have hid' : target.id = id := hid
      rw [hid', hsub] at htarget
      rw [Option.some.inj htarget]
      exact le_refl _
    · exact h₁.period_le requestId' r sub hr hid hsub
  · rw [Table.find?_insert hinsert] at hr
    split at hr
    · obtain rfl := Option.some.inj hr
      exact hamount.le
    · exact h₁.nonneg requestId' r hr

theorem walletReserved {env : Env}
    {params : StrictBillingPreConsumeParams} (hquota : 0 < params.quota) {db₁ db₂ : DB}
    {ledger : Table SubscriptionPreConsumeRecord}
    (htoken : TokenMoved params.tokenID params.skipToken false params.quota db db₁)
    (hfunding : FundingMoved params.userID 0 false params.quota db₁ db₂)
    (hinsert : db₂.ledger.insert? (walletRecord env params.requestID params.userID
      params.quota) = some ledger) :
    PeriodSound id { db₂ with ledger := ledger } := by
  have hledger : db₂.ledger = db.ledger := hfunding.ledger.trans htoken.ledger
  have hsubs : db₂.subscriptions = db.subscriptions := by
    cases hfunding with
    | wallet => exact htoken.subscriptions
    | charge hid => exact absurd rfl hid
    | refund hid => exact absurd rfl hid
  have hne : ∀ sub, db.subscriptions.find? id = some sub → (0 : ℤ) ≠ id := by
    intro sub hsub
    have hsubid : sub.id = id := Table.key_of_find? hsub
    have := sub.id_pos
    omega
  refine ⟨fun sub hsub => ?_, fun requestId r sub hr hid hsub => ?_, fun requestId r hr => ?_⟩
  · rw [hsubs] at hsub
    rw [DB.periodHeld_insert hinsert, if_neg fun hc => hne sub hsub hc.1,
      DB.periodHeld_congr hledger, add_zero]
    exact h.covers sub hsub
  · rw [hsubs] at hsub
    rw [Table.find?_insert hinsert] at hr
    split at hr
    · obtain rfl := Option.some.inj hr
      exact absurd hid (hne sub hsub)
    · rw [hledger] at hr
      exact h.period_le requestId r sub hr hid hsub
  · rw [Table.find?_insert hinsert] at hr
    split at hr
    · obtain rfl := Option.some.inj hr
      exact hquota.le
    · rw [hledger] at hr
      exact h.nonneg requestId r hr

/-- A decrease of another subscription. -/
theorem refund_of_ne {id' refund : ℤ} (hne : id ≠ id') :
    PeriodSound id (db.refundSubscription id' refund) := by
  have hfind : (db.refundSubscription id' refund).subscriptions.find? id =
      db.subscriptions.find? id := by
    rw [DB.refundSubscription, DB.find?_mapSubscription, if_neg hne]
  refine ⟨fun sub hsub => ?_, fun requestId r sub hr hid hsub => ?_, h.nonneg⟩
  · rw [hfind] at hsub
    exact h.covers sub hsub
  · rw [hfind] at hsub
    exact h.period_le requestId r sub hr hid hsub

/-- Closing a record: its subscription moves by as much as what the record holds, and a decrease
concerns the current period. -/
theorem mapRecord {db₁ : DB} {delta : ℤ} {record : SubscriptionPreConsumeRecord}
    {f : SubscriptionPreConsumeRecord → SubscriptionPreConsumeRecord}
    {hf : ∀ r, r.requestId = requestId → (f r).requestId = requestId}
    (hfind : db.ledger.find? requestId = some record)
    (hmoved : UsageMoved record.userSubscriptionId delta db db₁ ∨ (delta = 0 ∧ db₁ = db))
    (hsub : (f record).userSubscriptionId = record.userSubscriptionId)
    (hperiod : (f record).period = record.period) (hnonneg : 0 ≤ (f record).preConsumed)
    (hheld : (f record).held - record.held = delta)
    (hcurrent : delta < 0 → record.userSubscriptionId = id → ∀ sub,
      db.subscriptions.find? id = some sub → record.period = sub.resets) :
    PeriodSound id (db₁.mapRecord requestId f hf) := by
  have hmoved : db₁.ledger = db.ledger ∧ ∀ sub', db₁.subscriptions.find? id = some sub' →
      ∃ sub, db.subscriptions.find? id = some sub ∧ sub'.resets = sub.resets ∧
        ((delta = 0 ∧ sub'.amountUsed = sub.amountUsed) ∨
          (id ≠ record.userSubscriptionId ∧ sub'.amountUsed = sub.amountUsed) ∨
          (0 < delta ∧ sub'.amountUsed = sub.amountUsed + delta) ∨
          (id = record.userSubscriptionId ∧ delta ≤ 0 ∧
            sub'.amountUsed = if sub.amountUsed < -delta then 0
              else sub.amountUsed - -delta)) := by
    rcases hmoved with hmoved | ⟨hdelta, rfl⟩
    · refine ⟨hmoved.ledger, fun sub' hsub' => ?_⟩
      obtain ⟨sub, hsub, hresets, hused⟩ := hmoved.usage id sub' hsub'
      refine ⟨sub, hsub, hresets, ?_⟩
      rcases hused with hother | ⟨-, hcharge⟩ | hrefund
      · exact .inr (.inl hother)
      · exact .inr (.inr (.inl hcharge))
      · exact .inr (.inr (.inr hrefund))
    · exact ⟨rfl, fun sub hsub => ⟨sub, hsub, rfl, .inl ⟨hdelta, rfl⟩⟩⟩
  obtain ⟨hledger, husage⟩ := hmoved
  have hfind₁ : db₁.ledger.find? requestId = some record := by rw [hledger, hfind]
  refine ⟨fun sub' hsub' => ?_, fun requestId' r sub' hr hid hsub' => ?_,
    fun requestId' r hr => ?_⟩
  · obtain ⟨sub, hsub₀, hresets, hused⟩ := husage sub' hsub'
    have hcovers := h.covers sub hsub₀
    rw [DB.periodHeld, DB.mapRecord, Table.sumBy_update hfind₁, hsub, hperiod, ← DB.periodHeld,
      DB.periodHeld_congr hledger, hresets]
    rcases hused with ⟨hzero, hused⟩ | ⟨hne, hused⟩ | ⟨hpos, hused⟩ | ⟨hid, hneg, hused⟩
    · split <;> omega
    · omega
    · split <;> omega
    · rcases hneg.lt_or_eq with hlt | heq
      · -- a decrease: the record is of the current period and gives up what the usage gives up
        have hof := And.intro hid.symm (hcurrent hlt hid.symm sub hsub₀)
        rw [if_pos hof, if_pos hof, hused]
        split <;> omega
      · rw [hused]
        split <;> split <;> omega
  · obtain ⟨sub, hsub₀, hresets, -⟩ := husage sub' hsub'
    rw [DB.find?_mapRecord] at hr
    rw [hresets]
    split at hr
    · rw [hfind₁, Option.map_some] at hr
      obtain rfl := Option.some.inj hr
      rw [hperiod]
      exact h.period_le requestId record sub hfind (hsub ▸ hid) hsub₀
    · rw [hledger] at hr
      exact h.period_le requestId' r sub hr hid hsub₀
  · rw [DB.find?_mapRecord] at hr
    split at hr
    · rw [hfind₁, Option.map_some] at hr
      obtain rfl := Option.some.inj hr
      exact hnonneg
    · rw [hledger] at hr
      exact h.nonneg requestId' r hr

end

end PeriodSound

/-! ## Runs -/

/-- The record of a request is not a live reservation of subscription `id` from before its last
reset. -/
def DB.CurrentRecord (db : DB) (id : ℤ) (requestId : String) : Prop :=
  ∀ record sub, db.ledger.find? requestId = some record → record.status = .consumed →
    record.userSubscriptionId = id → db.subscriptions.find? id = some sub →
    record.period = sub.resets

/-- The call does not give back usage of subscription `id` for an earlier period: it does not
refund, or settle below the reserved amount, a reservation made before the last reset, and it is not
a bare decrease of the usage. -/
def BillingCall.KeepsPeriod (id : ℤ) (db : DB) : BillingCall → Prop
  | strict (.settle _ params) =>
    (∀ record, db.ledger.find? params.requestID = some record →
      record.preConsumed ≤ params.actualQuota) ∨ db.CurrentRecord id params.requestID
  | strict (.refund _ params) => db.CurrentRecord id params.requestID
  | refundSubscriptionPreConsume _ requestId => db.CurrentRecord id requestId
  | postConsumeUserSubscriptionDelta _ userSubscriptionId delta =>
    userSubscriptionId = id → 0 ≤ delta
  | _ => True

def BillingCall.RunMeets (cond : DB → BillingCall → Prop) : DB → List BillingCall → Prop
  | _, [] => True
  | db, call :: calls => cond db call ∧ RunMeets cond (call.step db) calls

namespace PeriodSound

variable {id : ℤ} {db db' : DB}

section

variable (h : PeriodSound id db)
include h

theorem strictCall {call : StrictCall}
    (hkeeps : (BillingCall.strict call).KeepsPeriod id db) (hcompletes : call.Completes db db') :
    PeriodSound id db' := by
  cases call with
  | preConsume env params =>
    obtain ⟨result, hrun⟩ := hcompletes
    obtain ⟨hquota, ⟨rfl, -⟩ | ⟨-, db₁, htoken, ⟨-, r, hreserved, -⟩ |
      ⟨-, -, -, db₂, ledger, hfunding, hinsert, rfl⟩⟩⟩ := preConsumeStrictBilling_cases hrun
    · exact h
    · exact (h.congr htoken.subscriptions htoken.ledger).reservedFrom hquota hreserved
    · exact h.walletReserved hquota htoken hfunding hinsert
  | settle env params =>
    obtain ⟨record, hfind, -, hsub, hactual, ⟨-, -, rfl⟩ | ⟨hstatus, -, db₁, hmoved, rfl⟩⟩ :=
      settleStrictBilling_cases hcompletes
    · exact h
    · refine h.mapRecord hfind (hsub ▸ hmoved.usageMoved) rfl rfl hactual
        (by simp [SubscriptionPreConsumeRecord.held, hstatus]) fun hlt hid sub hsub' => ?_
      rcases hkeeps with hup | hcurrent
      · have := hup record hfind
        omega
      · exact hcurrent record sub hfind hstatus hid hsub'
  | refund env params =>
    obtain ⟨record, hfind, -, hsub, ⟨-, rfl⟩ | ⟨hstatus, hpos, db₁, hmoved, rfl⟩⟩ :=
      refundStrictBilling_cases hcompletes
    · exact h
    · exact h.mapRecord hfind (hsub ▸ hmoved.usageMoved) rfl rfl hpos.le
        (by simp [SubscriptionPreConsumeRecord.held, hstatus])
        fun _ hid sub hsub' => hkeeps record sub hfind hstatus hid hsub'

variable {call : BillingCall}

theorem completes (hkeeps : call.KeepsPeriod id db)
    (hcompletes : call.Completes db db') : PeriodSound id db' := by
  cases call with
  | strict call => exact h.strictCall hkeeps hcompletes
  | decreaseUserQuotaIfEnough env uid quota =>
    obtain ⟨_, hrun⟩ := hcompletes
    obtain ⟨-, rfl⟩ | ⟨-, user, -, -, rfl⟩ := run_decreaseUserQuotaIfEnough_eq_ok.1 hrun
    · exact h
    · exact h.congr rfl rfl
  | decreaseTokenQuotaIfEnough env tid quota =>
    obtain ⟨_, hrun⟩ := hcompletes
    obtain ⟨-, rfl⟩ | ⟨-, token, -, -, rfl⟩ := run_decreaseTokenQuotaIfEnough_eq_ok.1 hrun
    · exact h
    · exact h.congr rfl rfl
  | preConsumeUserSubscription env requestId userId amount =>
    obtain ⟨_, hrun⟩ := hcompletes
    obtain ⟨hamount, ⟨rfl, -⟩ | ⟨-, hreserved⟩⟩ := preConsumeUserSubscription_cases hrun
    · exact h
    · exact h.reservedFrom hamount hreserved
  | refundSubscriptionPreConsume env requestId =>
    obtain ⟨_, hrun⟩ := hcompletes
    obtain ⟨record, hfind, ⟨-, rfl⟩ | ⟨hstatus, ⟨hpre, rfl⟩ | ⟨hpos, -, rfl⟩⟩⟩ :=
      refundSubscriptionPreConsume_cases hrun
    · exact h
    · have hzero : record.preConsumed = 0 := le_antisymm hpre (h.nonneg requestId record hfind)
      exact h.mapRecord hfind (.inr ⟨rfl, rfl⟩) rfl rfl (h.nonneg requestId record hfind)
        (by simp [SubscriptionPreConsumeRecord.held, hstatus, hzero]) fun hlt => by omega
    · exact h.mapRecord hfind (.inl (usageMoved_refundSubscription_neg hpos.le)) rfl rfl hpos.le
        (by simp [SubscriptionPreConsumeRecord.held, hstatus])
        fun _ hid sub hsub => hkeeps record sub hfind hstatus hid hsub
  | postConsumeUserSubscriptionDelta env id' delta =>
    obtain ⟨_, hrun⟩ := hcompletes
    obtain ⟨-, rfl⟩ | ⟨sub, -, ⟨hpos, -, rfl⟩ | ⟨hneg, rfl⟩⟩ :=
      postConsumeUserSubscriptionDelta_cases hrun
    · exact h
    · exact h.chargeSubscription hpos
    · have hne : id ≠ id' := fun hid => by
        have := hkeeps hid.symm
        omega
      exact h.refund_of_ne hne
  | resetDueSubscription env id' plan =>
    obtain ⟨_, hrun⟩ := hcompletes
    exact h.afterResets (resetDueSubscription_cases hrun)

theorem step (hkeeps : call.KeepsPeriod id db) : PeriodSound id (call.step db) := by
  rcases call.step_cases db with hsame | hcompletes
  · rwa [hsame]
  · exact h.completes hkeeps hcompletes

theorem run {calls : List BillingCall}
    (hkeeps : BillingCall.RunMeets (BillingCall.KeepsPeriod id) db calls) :
    PeriodSound id (calls.foldl (fun db call => call.step db) db) := by
  induction calls generalizing db with
  | nil => exact h
  | cons call calls ih => exact ih (h.step hkeeps.1) hkeeps.2

end

/-- The property holds at the start: with an empty ledger, of every subscription. -/
theorem of_empty_ledger (hledger : db.ledger.rows = [])
    (hused : ∀ sub, db.subscriptions.find? id = some sub → 0 ≤ sub.amountUsed) :
    PeriodSound id db := by
  have hnone : ∀ requestId r, db.ledger.find? requestId ≠ some r := by
    intro requestId r hr
    have := Table.mem_of_find? hr
    simp [hledger] at this
  refine ⟨fun sub hsub => ?_, fun requestId r sub hr => absurd hr (hnone requestId r),
    fun requestId r hr => absurd hr (hnone requestId r)⟩
  rw [DB.periodHeld_eq_zero fun requestId r hr => absurd hr (hnone requestId r)]
  exact hused sub hsub

end PeriodSound

/-- **Usage covers the current period**, in every run that gives back no reservation made before the
last reset: it stays at or above what the live and settled reservations of the period hold. -/
theorem usage_covers_current_period (id : ℤ) (db : DB) (h : PeriodSound id db)
    (calls : List BillingCall)
    (hkeeps : BillingCall.RunMeets (BillingCall.KeepsPeriod id) db calls) :
    let db' := calls.foldl (fun db call => call.step db) db
    ∀ sub, db'.subscriptions.find? id = some sub → db'.periodHeld id sub.resets ≤ sub.amountUsed :=
  (h.run hkeeps).covers

def subscriptionDB : DB where
  users := ⟨[{ id := 7, quota := 0 }], by decide⟩
  tokens := .empty
  subscriptions :=
    ⟨[{ id := 3, userId := 7, planId := 1, amountTotal := 1000, amountUsed := 0, startTime := 1,
        endTime := 1000, status := .active, lastResetTime := 0, nextResetTime := 0, resets := 0,
        id_pos := by decide }], by decide⟩
  ledger := .empty

def sampleReserve (requestId : String) (now quota : ℤ) : BillingCall :=
  .strict (.preConsume { sampleEnv with now := now }
    { requestID := requestId, userID := 7, useSubscription := true, tokenID := 0,
      skipToken := true, quota := quota })

def sampleRefund (requestId : String) : BillingCall :=
  .strict (.refund sampleEnv
    { requestID := requestId, userID := 7, subscriptionID := 3, tokenID := 0, skipToken := true,
      actualQuota := 0, allowOverdraft := false })

def sampleReset (now : ℤ) : BillingCall := .resetDueSubscription { sampleEnv with now := now } 3
    { quotaResetPeriod := "custom", quotaResetCustomSeconds := 10 }

theorem periodSound_subscriptionDB : PeriodSound 3 subscriptionDB :=
  .of_empty_ledger rfl fun sub hsub => by
    obtain rfl := Option.some.inj hsub
    decide

/-- A reservation of the new period is covered as long as the earlier one is not given back. -/
theorem usage_covers_current_period_sample :
    let calls := [sampleReserve "a" 5 100, sampleReset 15, sampleReserve "b" 15 50]
    let db := calls.foldl (fun db call => call.step db) subscriptionDB
    PeriodSound 3 subscriptionDB ∧
      BillingCall.RunMeets (BillingCall.KeepsPeriod 3) subscriptionDB calls ∧
      ∀ sub, db.subscriptions.find? 3 = some sub → db.periodHeld 3 sub.resets ≤ sub.amountUsed :=
  ⟨periodSound_subscriptionDB, ⟨trivial, trivial, trivial, trivial⟩,
    usage_covers_current_period 3 subscriptionDB periodSound_subscriptionDB _
      ⟨trivial, trivial, trivial, trivial⟩⟩

/-- A refund of 100 reserved before a reset lowers the usage to 0, although a reservation of 50 made
after it is live. -/
theorem reservation_refunded_after_reset :
    let db := [sampleReserve "a" 5 100, sampleReset 15, sampleReserve "b" 15 50,
      sampleRefund "a"].foldl (fun db call => call.step db) subscriptionDB
    ∃ sub, db.subscriptions.find? 3 = some sub ∧ sub.amountUsed = 0 ∧
      db.periodHeld 3 sub.resets = 50 := by
  intro db
  have h : (db.subscriptions.find? 3).map (fun s => (s.amountUsed, db.periodHeld 3 s.resets)) =
      some (0, 50) := by decide
  obtain ⟨sub, hsub, heq⟩ := Option.map_eq_some_iff.1 h
  exact ⟨sub, hsub, congrArg Prod.fst heq, congrArg Prod.snd heq⟩

/-- **Usage is never negative**: no run of billing transactions makes it so, although overdrafts,
resets and refunds come in any order. -/
theorem usage_nonneg_run (db : DB) (h : db.NonnegUsage) (calls : List BillingCall) :
    (calls.foldl (fun db call => call.step db) db).NonnegUsage :=
  List.foldlRecOn calls _ h fun _ ih _ _ => BillingCall.step_keeps ih fun h => h.moved

theorem usage_nonneg_run_sample : ([sampleReserve "a" 5 100, sampleReset 15, sampleRefund "a"].foldl
    (fun db call => call.step db) subscriptionDB).NonnegUsage :=
  usage_nonneg_run subscriptionDB (by simp [DB.NonnegUsage, subscriptionDB]) _

end Mujian.Billing
