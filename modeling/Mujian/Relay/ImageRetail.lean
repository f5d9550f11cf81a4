import Mujian.Billing.Coverage
import Mujian.Relay.ModelPrice

/-!
# Fixed retail prices of images

A quote for an image request is reserved for the images that were asked for and settled for those
that were delivered. Its quota grows with the number of images, and an answer with more images than
were asked for is refused, so that no request settles more than it has reserved
(`imageRetail_covered`).
-/

namespace Mujian.Relay

open Pricing
open Billing (postTextConsumeQuota)

theorem quota_zero (quote : ImageQuote) : quote.quota 0 = 0 := by
  simp [ImageQuote.quota, ImageQuote.quotaDecimal, decimalDiv, zero_divRound, roundHalfAway_zero]

theorem quota_mono {quote : ImageQuote} (hrate : 0 < quote.exchangeRate)
    (hunit : 0 < quote.quotaPerUnit) {m n : ℤ} (h : m ≤ n) : quote.quota m ≤ quote.quota n := by
  have hprice : 0 ≤ decimalDiv fixedImagePriceFen 100 := by decide +kernel
  have hcount : (if quote.price.unit = .request ∧ 0 < m then 1 else m) ≤
      if quote.price.unit = .request ∧ 0 < n then 1 else n := by
    by_cases hrequest : quote.price.unit = .request
    · simp only [hrequest, true_and]
      split_ifs <;> omega
    · simpa only [hrequest, false_and, if_false] using h
  refine roundHalfAway_mono (mul_le_mul_of_nonneg_right ?_ hunit.le)
  exact divRound_le_divRound _ hrate (mul_le_mul_of_nonneg_left (Int.cast_le.2 hcount) hprice)

theorem newImageQuote_ok {model : String} {count : ℕ} {rate quotaPerUnit : ℚ} {quote : ImageQuote}
    (h : newImageQuote model count rate quotaPerUnit = .ok (some quote)) :
    0 < quote.exchangeRate ∧ 0 < quote.quotaPerUnit ∧
      quote.quota quote.requestedCount ≤ maxInt := by
  unfold newImageQuote at h
  split at h
  · cases h
  · simp only [ite_error_eq_ok_iff] at h
    obtain ⟨hvalid, hrange, heq⟩ := h
    cases heq
    simp only [not_or, not_not] at hvalid
    exact ⟨hvalid.2.2.1, hvalid.2.2.2, not_lt.1 fun hlt => hrange (.inr hlt)⟩

theorem postTextConsumeQuota_le {S : Settings} {ctx : QuotaContext} {now : ℤ} {info : RelayInfo}
    {usage : Option Usage} {quote : ImageQuote} (h : info.imageRetail = some quote) :
    postTextConsumeQuota S ctx now info usage ≤ quote.quota quote.returnedCount := by
  have hquota : (calculateTextQuotaSummary S ctx now info usage).quota =
      quote.quota quote.returnedCount := by
    simp only [calculateTextQuotaSummary, h]
  unfold postTextConsumeQuota
  dsimp only
  rw [hquota]
  split
  next hcapped => exact hcapped.2.2.le
  next => exact le_rfl

structure ImageItem where
  (url base64 : String)

structure ImageUsage extends Usage where
  (inputTokens outputTokens : ℤ := 0)
  inputTokensDetails : Option InputTokenDetails := none
  outputTokensDetails : Option OutputTokenDetails := none

section

variable (decodes : String → Bool) (parse : String → Option (String × String))

def deliverable : Option ImageItem → Bool
  | none => false
  | some item =>
    if item.base64 ≠ "" then decodes item.base64
    else if item.url ≠ "" then
      (parse (trimSpace item.url)).any fun u => u.2 ≠ "" && (u.1 = "https" || u.1 = "http")
    else false

/-- The images of an answer that are delivered; an entry that cannot be read is `none`. -/
def prepareRetailImageResponse (info : RelayInfo) (quote : ImageQuote)
    (images : Except String (Option (List (Option ImageItem)))) (usage : ImageUsage) :
    Except String (List (Option ImageItem) × RelayInfo × Usage) :=
  match images with
  | .error e => .error e
  | .ok none => .error "图像上游未返回图片列表"
  | .ok (some images) =>
    let valid := images.filter (deliverable decodes parse)
    if valid.length = 0 then .error "图像上游未返回有效图片，本次不收费"
    else if valid.length > quote.requestedCount then .error "图像上游返回数量超过请求数量"
    else
      .ok (valid, { info with imageRetail := some { quote with returnedCount := valid.length } },
        { usage.toUsage with
          promptTokens := if usage.inputTokens > 0 then usage.inputTokens else usage.promptTokens
          completionTokens :=
            if usage.outputTokens > 0 then usage.outputTokens else usage.completionTokens
          promptTokensDetails := usage.inputTokensDetails.getD usage.promptTokensDetails
          completionTokenDetails := usage.outputTokensDetails.getD usage.completionTokenDetails })

end

/-- **An image request settles at most what it has reserved.** The quota of a quote is 0 for no
image and does not decrease with the number of images. -/
theorem imageRetail_covered {model : String} {count : ℕ} {rate quotaPerUnit : ℚ}
    {quote : ImageQuote} (h : newImageQuote model count rate quotaPerUnit = .ok (some quote)) :
    quote.quota 0 = 0 ∧
      (∀ m n, 0 ≤ m → m ≤ n → n ≤ quote.requestedCount →
        0 ≤ quote.quota m ∧ quote.quota m ≤ quote.quota n ∧ quote.quota n ≤ maxInt) ∧
      ∀ decodes parse info bound images usage delivered settled usage',
        prepareRetailImageResponse decodes parse bound quote images usage =
            .ok (delivered, settled, usage') →
          ∀ S ctx now, postTextConsumeQuota S ctx now settled (some usage') ≤
            (withImageRetail info (some quote)).priceData.quotaToPreConsume := by
  obtain ⟨hrate, hunit, hmax⟩ := newImageQuote_ok h
  refine ⟨quota_zero quote, fun m n hm hmn hn => ?_, ?_⟩
  · refine ⟨?_, quota_mono hrate hunit hmn, (quota_mono hrate hunit hn).trans hmax⟩
    exact (quota_zero quote).symm.trans_le (quota_mono hrate hunit hm)
  · intro decodes parse info bound images usage delivered settled usage' hprepared S ctx now
    unfold prepareRetailImageResponse at hprepared
    split at hprepared
    · cases hprepared
    · cases hprepared
    · simp only [ite_error_eq_ok_iff] at hprepared
      obtain ⟨-, hcount, heq⟩ := hprepared
      cases heq
      refine (postTextConsumeQuota_le rfl).trans ?_
      exact quota_mono hrate hunit (not_lt.1 hcount)

theorem imageRetail_covered_sample : ∃ quote,
    newImageQuote "gpt-image-2" 3 (73 / 10) 500000 = .ok (some quote) ∧
      quote.quota 2 ≤ quote.quota 3 := by
  have hquote : newImageQuote "gpt-image-2" 3 (73 / 10) 500000 =
      .ok (some ⟨⟨"CNY", .image, 1 / 5⟩, 73 / 10, 500000, 3, 0⟩) := by decide +kernel
  exact ⟨_, hquote, ((imageRetail_covered hquote).2.1 2 3 (by decide) (by decide) le_rfl).2.1⟩

end Mujian.Relay
