import Mujian.Billing.StrictLedger
import Mujian.Pricing.UsageBound

/-!
# From prices to strict billing

A price that is not marked free can still cost nothing, and strict billing refuses a reservation of
0. So **a price that is not free can be reserved exactly if its cost at the bounds is positive**
(`reservable_iff`). The charge for a channel-specific request that does not settle upstream usage is
capped at what was reserved (`settlement_covered`).
-/

namespace Mujian.Billing

open Pricing
open Relay (RelayInfo)

def costAtBounds (S : Settings) (price : ChannelModelPrice) (group : GroupRatioInfo)
    (multiplier : ℚ) (promptTokens maxCompletionTokens : ℤ) (data : PriceData) : ℚ :=
  (if data.usePrice then price.fixedPrice * multiplier * S.quotaPerUnit
    else worstWeightedTokens data promptTokens maxCompletionTokens * data.modelRatio) *
      group.groupRatio * data.salesRatio

variable {S : Settings} {price : ChannelModelPrice} {group : GroupRatioInfo} {multiplier : ℚ}
  {promptTokens maxCompletionTokens : ℤ} {data : PriceData}

/-- What is not free is reserved for at its cost, rounded up. -/
theorem quotaToPreConsume_of_not_free
    (h : preConsumePriceFromSnapshot S price group multiplier promptTokens maxCompletionTokens =
      .ok data) (hfree : data.freeModel = false) :
    data.quotaToPreConsume =
      ⌈costAtBounds S price group multiplier promptTokens maxCompletionTokens data⌉ := by
  simp only [preConsumePriceFromSnapshot, ite_error_eq_ok_iff, except_bind_eq_ok_iff,
    checkedPreConsumeDecimal_eq_ok] at h
  obtain ⟨-, candidate, -, quota, ⟨-, hquota⟩, h⟩ := h
  obtain rfl := Except.ok.inj h
  obtain hpolicy | ⟨hpolicy, -⟩ := applyFreeModelPreConsumePolicy_cases S
    { candidate with quotaToPreConsume := quota }
  · rw [hpolicy]
    exact hquota.symm
  · rw [hpolicy] at hfree
    cases hfree

/-- The cost is positive as far as the inputs tell: a fixed price, or any tokens at all, in a group
that pays. -/
def PositiveAtBounds (S : Settings) (price : ChannelModelPrice) (group : GroupRatioInfo)
    (multiplier : ℚ) (promptTokens maxCompletionTokens : ℤ) : Prop :=
  0 < group.groupRatio ∧
    if price.billingType = .fixed then 0 < price.fixedPrice * multiplier * S.quotaPerUnit
    else 0 < promptTokens ∨ 0 < maxCompletionTokens

theorem worstWeightedTokens_pos_iff (hratio : 0 < data.completionRatio) (hprompt : 0 ≤ promptTokens)
    (hmax : 0 ≤ maxCompletionTokens) :
    0 < worstWeightedTokens data promptTokens maxCompletionTokens ↔
      0 < promptTokens ∨ 0 < maxCompletionTokens := by
  have hworst : 0 < worstPromptBillingRatio data :=
    zero_lt_one.trans_le (one_le_worstPromptBillingRatio data)
  have hcompletion : 0 < max data.completionRatio data.imageCompletionRatio :=
    hratio.trans_le (le_max_left _ _)
  have hprompt' : (0 : ℚ) ≤ promptTokens := Int.cast_nonneg hprompt
  have hmax' : (0 : ℚ) ≤ maxCompletionTokens := Int.cast_nonneg hmax
  unfold worstWeightedTokens
  constructor
  · intro hpos
    by_contra! hnone
    obtain rfl : promptTokens = 0 := le_antisymm hnone.1 hprompt
    obtain rfl : maxCompletionTokens = 0 := le_antisymm hnone.2 hmax
    simp at hpos
  · rintro (hpos | hpos)
    · have := mul_pos (Int.cast_pos.2 hpos : (0 : ℚ) < promptTokens) hworst
      have := mul_nonneg hmax' hcompletion.le
      linarith
    · have := mul_pos (Int.cast_pos.2 hpos : (0 : ℚ) < maxCompletionTokens) hcompletion
      have := mul_nonneg hprompt' hworst.le
      linarith

theorem costAtBounds_pos_iff
    (h : preConsumePriceFromSnapshot S price group multiplier promptTokens maxCompletionTokens =
      .ok data) (hprompt : 0 ≤ promptTokens) (hmax : 0 ≤ maxCompletionTokens) :
    0 < costAtBounds S price group multiplier promptTokens maxCompletionTokens data ↔
      PositiveAtBounds S price group multiplier promptTokens maxCompletionTokens := by
  simp only [preConsumePriceFromSnapshot, ite_error_eq_ok_iff, except_bind_eq_ok_iff] at h
  obtain ⟨hgroup, candidate, hcandidate, quota, -, h⟩ := h
  have hnonneg : 0 ≤ group.groupRatio := by simpa [finiteNonNegative] using hgroup
  obtain ⟨q, free, rfl⟩ : ∃ q free,
      data = { candidate with quotaToPreConsume := q, freeModel := free } := by
    obtain rfl := Except.ok.inj h
    obtain hpolicy | ⟨hpolicy, -⟩ := applyFreeModelPreConsumePolicy_cases S
      { candidate with quotaToPreConsume := quota } <;> exact ⟨_, _, hpolicy⟩
  unfold costAtBounds PositiveAtBounds
  rw [mul_pos_iff_of_pos_right (PriceData.salesRatio_pos _)]
  rcases hnonneg.eq_or_lt with hzero | hpos
  · simp [← hzero]
  rw [mul_pos_iff_of_pos_right hpos, and_iff_right hpos]
  by_cases hbilling : price.billingType = .fixed
  · have huse : candidate.usePrice = true := by
      simp only [priceDataFromSnapshot, if_pos hbilling, ite_error_eq_ok_iff] at hcandidate
      obtain ⟨-, hdata⟩ := hcandidate
      cases hdata
      rfl
    simp [huse, hbilling]
  · have htoken := tokenPriced_of_priceDataFromSnapshot hbilling hcandidate
    rw [if_neg hbilling, if_neg (by simp [htoken.usePrice]),
      mul_pos_iff_of_pos_right htoken.modelRatio_pos]
    exact worstWeightedTokens_pos_iff htoken.completionRatio_pos hprompt hmax

/-- The balances cover a reservation from the wallet under a fresh request id. -/
structure Covered (params : StrictBillingPreConsumeParams) (db : DB) : Prop where
  requestID : trimSpace params.requestID ≠ ""
  fresh : db.ledger.find? params.requestID = none
  wallet : params.useSubscription = false
  user : 0 < params.userID ∧
    ∃ user, db.users.find? params.userID = some user ∧ params.quota ≤ user.quota
  token : params.skipToken = false → 0 < params.tokenID ∧ ∃ token,
    db.tokens.find? params.tokenID = some token ∧
      (token.unlimitedQuota = true ∨ params.quota ≤ token.remainQuota)

/-- **A price that is not free can be reserved exactly if its cost at the bounds is positive**: if
its group pays and there is a fixed price or any token. -/
theorem reservable_iff (env : Env) (S : Settings) (price : ChannelModelPrice)
    (group : GroupRatioInfo) (multiplier : ℚ) (promptTokens maxCompletionTokens : ℤ)
    (data : PriceData) (params : StrictBillingPreConsumeParams) (db : DB)
    (h : preConsumePriceFromSnapshot S price group multiplier promptTokens maxCompletionTokens =
      .ok data) (hfree : data.freeModel = false) (hquota : params.quota = data.quotaToPreConsume)
    (hcovered : Covered params db) :
    let reservable := ∃ result db', (preConsumeStrictBilling env params).run db = .ok (result, db')
    (reservable ↔
        0 < costAtBounds S price group multiplier promptTokens maxCompletionTokens data) ∧
      (0 ≤ promptTokens → 0 ≤ maxCompletionTokens → (reservable ↔
        PositiveAtBounds S price group multiplier promptTokens maxCompletionTokens)) := by
  intro reservable
  suffices hcost : reservable ↔
      0 < costAtBounds S price group multiplier promptTokens maxCompletionTokens data from
    ⟨hcost, fun hprompt hmax => hcost.trans (costAtBounds_pos_iff h hprompt hmax)⟩
  unfold reservable
  rw [← Int.ceil_pos, ← quotaToPreConsume_of_not_free h hfree, ← hquota]
  obtain ⟨huser, user, hfind, hbalance⟩ := hcovered.user
  simp only [preConsumeStrictBilling, validateStrictBillingPreConsumeParams, Tx.run_bind_eq_ok,
    Tx.run_failIf_eq_ok, run_lockUser_eq_ok, Tx.run_gets_eq_ok]
  constructor
  · rintro ⟨_, _, _, _, ⟨_, _, -, _, _, -, _, _, ⟨hpos, -⟩, -⟩, -⟩
    exact not_le.1 hpos
  · intro hpos
    have hvalid : ¬(¬params.skipToken = true ∧ params.tokenID ≤ 0) := by
      rintro ⟨hskip, hid⟩
      exact absurd (hcovered.token (by simpa using hskip)).1 (not_lt.2 hid)
    obtain ⟨db₁, htoken, husers, hledger⟩ : ∃ db₁, (reserveStrictToken params).run db =
        .ok ((), db₁) ∧ db₁.users = db.users ∧ db₁.ledger = db.ledger := by
      unfold reserveStrictToken
      split_ifs with hskip
      · exact ⟨db, rfl, rfl, rfl⟩
      · obtain ⟨-, token, hmem, hroom⟩ := hcovered.token (by simpa using hskip)
        exact ⟨_, run_decreaseTokenQuotaIfEnoughTx_eq_ok.2 ⟨token, hmem, hroom, rfl⟩, rfl, rfl⟩
    obtain ⟨ledger, hinsert⟩ : ∃ ledger, db.ledger.insert? (walletRecord env params.requestID
        params.userID params.quota) = some ledger := ⟨_, dif_pos hcovered.fresh⟩
    obtain ⟨result, db', hreserve⟩ : ∃ result db', (do
        reserveStrictToken params
        reserveStrictFunding env params).run db = .ok (result, db') := by
      simp only [Tx.run_bind_eq_ok, reserveStrictFunding, hcovered.wallet, Bool.false_eq_true,
        if_false, run_decreaseUserQuotaIfEnoughTx_eq_ok, run_createRecord_eq_ok, Tx.run_pure_eq_ok]
      exact ⟨_, _, (), db₁, htoken, (), _, ⟨user, husers ▸ hfind, hbalance, rfl⟩, (), _,
        ⟨ledger, hledger ▸ hinsert, rfl⟩, rfl, rfl⟩
    exact ⟨result, db', (), db, ⟨(), db, ⟨hcovered.requestID, rfl⟩, (), db, ⟨not_le.2 huser, rfl⟩,
      (), db, ⟨not_le.2 hpos, rfl⟩, hvalid, rfl⟩, (), db, ⟨⟨user, hfind⟩, rfl⟩, none, db,
      ⟨hcovered.fresh, rfl⟩, hreserve⟩

def sampleReservation (quota : ℤ) : StrictBillingPreConsumeParams :=
  ⟨"r", 7, false, 1, false, quota⟩

theorem reservable_iff_sample : Covered (sampleReservation 4) sampleDB ∧ ∃ result db',
      (preConsumeStrictBilling sampleEnv (sampleReservation 4)).run sampleDB =
        .ok (result, db') := by
  have hcovered : Covered (sampleReservation 4) sampleDB :=
    ⟨by decide, rfl, rfl, ⟨by decide, _, rfl, by decide⟩, fun _ => ⟨by decide, _, rfl, by decide⟩⟩
  refine ⟨hcovered, (reservable_iff sampleEnv sampleSettings samplePrice ⟨1, -1, false⟩ 1 1 0
    { samplePriceData with quotaToPreConsume := 4 } (sampleReservation 4) sampleDB ?_ ?_ ?_
    hcovered).1.2 ?_⟩ <;> decide +kernel

/-- With the group ratio 0, when free models are reserved for. -/
theorem zero_price_not_reservable :
    let S := { sampleSettings with enableFreeModelPreConsume := true }
    (preConsumePriceFromSnapshot S samplePrice ⟨0, -1, false⟩ 1 1000 500).map
        (fun data => (data.freeModel, data.quotaToPreConsume)) = .ok (false, 0) ∧
      (preConsumeStrictBilling sampleEnv (sampleReservation 0)).run sampleDB =
        .error .quotaNotPositive := by exact ⟨by decide +kernel, by decide +kernel⟩

def postTextConsumeQuota (S : Settings) (ctx : QuotaContext) (now : ℤ) (info : RelayInfo)
    (usage : Option Usage) : ℤ :=
  let quota := (calculateTextQuotaSummary S ctx now info usage).quota
  if info.priceData.channelSpecific ∧ ¬info.priceData.settlesUpstreamUsage ∧
      quota > info.priceData.quotaToPreConsume then
    info.priceData.quotaToPreConsume
  else quota

/-- An error that says that a balance does not suffice. -/
def BillingError.Insufficient : BillingError → Prop
  | insufficientUserQuota | insufficientTokenQuota | subscriptionInsufficient _
  | subscriptionExceedsTotal _ _ => True
  | _ => False

/-- The transaction never fails because a balance does not suffice. -/
abbrev NeverShort {α : Type} (m : DBTx α) : Prop := Tx.Raises (fun e => ¬e.Insufficient) m

variable {db : DB} {e : BillingError} {params : StrictBillingParams} {delta : ℤ}

theorem raises_postConsumeUserSubscriptionDeltaTx {id : ℤ} (hdelta : delta ≤ 0) :
    NeverShort (postConsumeUserSubscriptionDeltaTx id delta) := by
  intro db e h
  simp only [postConsumeUserSubscriptionDeltaTx, updateUsage, if_neg (not_lt.2 hdelta),
    Tx.run_bind_eq_error] at h
  obtain h | ⟨n, db₁, hupdate, h⟩ := h
  · cases h
  obtain ⟨rfl, -⟩ | ⟨rfl, hnone, rfl⟩ := TableOf.run_update_eq_ok.1 hupdate
  · cases h
  · -- no row was found, so there is none whose total is exceeded
    obtain h | ⟨sub, db₂, hsub, -⟩ := Tx.run_bind_eq_error.1 h
    · have hfirst : NeverShort (firstSubscription id) := .bind (.gets _) fun _ => .orElse not_false
      exact hfirst _ _ h
    · exact absurd (hnone sub (run_firstSubscription_eq_ok.1 hsub).1) (by simp)

/-- What is given back is never refused for lack of a balance. -/
theorem raises_applyStrictDelta (hdelta : delta ≤ 0) :
    NeverShort (applyStrictDelta params delta) := by
  have hpos : ¬delta > 0 := not_lt.2 hdelta
  have htoken : NeverShort (adjustStrictTokenTx params.tokenID delta
      params.allowOverdraft) := by
    simp only [adjustStrictTokenTx, hpos, and_false, if_false]
    exact TableOf.raises_updateOne not_false
  have hfunding : NeverShort (adjustStrictFundingTx params delta) := by
    simp only [adjustStrictFundingTx, hpos, and_false, if_false]
    split_ifs
    · exact raises_postConsumeUserSubscriptionDeltaTx hdelta
    · exact TableOf.raises_updateOne not_false
  unfold applyStrictDelta
  split_ifs
  · exact .bind hfunding fun _ => .pure _
  · exact .bind hfunding fun _ => htoken
  · exact .pure _

/-- Nothing else than the difference to the reservation can be refused for lack of a balance. -/
theorem settleStrictBilling_error {env : Env} {record : SubscriptionPreConsumeRecord}
    (hrecord : db.ledger.find? params.requestID = some record)
    (hle : params.actualQuota ≤ record.preConsumed)
    (h : (settleStrictBilling env params).run db = .error e) : ¬e.Insufficient := by
  have hvalid : NeverShort (validateStrictBillingParams params) :=
    .bind (.failIf not_false) fun _ => .bind (.failIf not_false) fun _ =>
    .bind (.failIf not_false) fun _ => .bind (.failIf not_false) fun _ => .failIf not_false
  have hlock : NeverShort (lockUser params.userID) :=
    .bind (.gets _) fun _ => .bind (.orElse not_false) fun _ => .pure _
  have hfirst : NeverShort (firstRecord params.requestID) :=
    .bind (.gets _) fun _ => .orElse not_false
  have hvalidRecord : ∀ record, NeverShort
      (validateStrictBillingRecord record params.userID params.subscriptionID) :=
    fun _ => .bind (.failIf not_false) fun _ => .failIf not_false
  rw [settleStrictBilling] at h
  obtain h | ⟨_, db₁, hok, h⟩ := Tx.run_bind_eq_error.1 h
  · exact hvalid _ _ h
  obtain rfl : db = db₁ := by
    simp only [validateStrictBillingParams, Tx.run_bind_eq_ok, Tx.run_failIf_eq_ok] at hok
    obtain ⟨_, _, ⟨-, rfl⟩, _, _, ⟨-, rfl⟩, _, _, ⟨-, rfl⟩, _, _, ⟨-, rfl⟩, -, rfl⟩ := hok
    rfl
  obtain h | ⟨_, _, hok, h⟩ := Tx.run_bind_eq_error.1 h
  · exact hlock _ _ h
  obtain ⟨-, rfl⟩ := run_lockUser_eq_ok.1 hok
  obtain h | ⟨record', _, hok, h⟩ := Tx.run_bind_eq_error.1 h
  · exact hfirst _ _ h
  obtain ⟨hfind, rfl⟩ := run_firstRecord_eq_ok.1 hok
  obtain rfl : record = record' := Option.mem_unique hrecord hfind
  refine Tx.Raises.bind (hvalidRecord record) (fun _ => ?_) _ _ h
  split_ifs
  · exact .failIf not_false
  · refine .bind (.failIf not_false) fun _ db e h => ?_
    obtain h | ⟨preConsumed, _, hok, h⟩ := Tx.run_bind_eq_error.1 h
    · have hquota : NeverShort (strictBillingQuotaFromRecord record) :=
        .bind (.failIf not_false) fun _ => .pure _
      exact hquota _ _ h
    · simp only [strictBillingQuotaFromRecord, Tx.run_bind_eq_ok, Tx.run_failIf_eq_ok,
        Tx.run_pure_eq_ok] at hok
      obtain ⟨_, _, ⟨-, rfl⟩, rfl, rfl⟩ := hok
      have happly :
          NeverShort (applyStrictDelta params (params.actualQuota - record.preConsumed)) :=
        raises_applyStrictDelta (by omega)
      exact Tx.Raises.bind happly (fun _ => TableOf.raises_updateOne (by exact not_false)) _ _ h

/-- **The quota that is settled for a channel-specific request that does not settle upstream usage
is at most what was reserved, and its settlement does not fail because a balance does not
suffice.** -/
theorem settlement_covered (S : Settings) (ctx : QuotaContext) (now : ℤ) (info : RelayInfo)
    (usage : Option Usage) (hspecific : info.priceData.channelSpecific = true)
    (hupstream : info.priceData.settlesUpstreamUsage = false) :
    postTextConsumeQuota S ctx now info usage ≤ info.priceData.quotaToPreConsume ∧
      ∀ env db params record e, db.ledger.find? params.requestID = some record →
        record.status = .consumed → record.preConsumed = info.priceData.quotaToPreConsume →
        params.actualQuota = postTextConsumeQuota S ctx now info usage →
        (settleStrictBilling env params).run db = .error e → ¬e.Insufficient := by
  have hcapped : postTextConsumeQuota S ctx now info usage ≤ info.priceData.quotaToPreConsume := by
    simp only [postTextConsumeQuota, hspecific, hupstream, Bool.false_eq_true, not_false_eq_true,
      true_and]
    split_ifs with h
    · exact le_rfl
    · exact not_lt.1 h
  refine ⟨hcapped, fun env db params record e hrecord _ hreserved hactual h => ?_⟩
  exact settleStrictBilling_error hrecord (by rw [hreserved, hactual]; exact hcapped) h

/-- A request whose usage costs more than the 100 units that are reserved. -/
def cappedInfo : RelayInfo :=
  { sampleClaudeInfo with
    priceData := { samplePriceData with priceProvider := "", quotaToPreConsume := 100 } }

theorem settlement_covered_sample :
    postTextConsumeQuota sampleSettings {} 0 cappedInfo (some sampleUsage) = 100 ∧
      postTextConsumeQuota sampleSettings {} 0 cappedInfo (some sampleUsage) ≤ 100 :=
  ⟨by decide +kernel,
    (settlement_covered sampleSettings {} 0 cappedInfo (some sampleUsage) rfl (by decide)).1⟩

end Mujian.Billing
