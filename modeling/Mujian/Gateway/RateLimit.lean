import Mujian.Foundations.Runs
import Mathlib.Data.List.Forall2
import Mathlib.Tactic.Linarith
import Mathlib.Tactic.Ring

/-!
# The limits on model requests

On Redis the total limit of `M` requests in `d` seconds is a token bucket of `M * d` tokens, filled
with `M` tokens a second, in which a request costs `d` (`total_limit_holds_iff`). The success limit
looks at the requests that ended below 400. In memory, the test whether there is room is itself a
request to the limiter (`successLimit_after_successes`), and the queues of the limiter are dropped
after a time that does not depend on `d` (`window_holds_iff`).
-/

namespace Mujian.Gateway

open Runs (Meets)

structure RateLimits where
  /-- The window, in seconds. -/
  (duration totalMaxCount successMaxCount : ℕ)

/-! ## Redis -/

structure Bucket where
  (tokens lastTime : ℤ)

/-- The tokens in a bucket at a time; a new bucket is full. -/
def Bucket.fill (rate capacity : ℤ) (now : ℤ) : Option Bucket → ℤ
  | none => capacity
  | some b => min capacity (b.tokens + (now - b.lastTime) * rate)

/-- The script, on the bucket of the user; `now` is the time of the Redis server in seconds. -/
def Bucket.take (requested rate capacity : ℤ) (bucket : Option Bucket) (now : ℤ) : Bool × Bucket :=
  let tokens := fill rate capacity now bucket
  if tokens ≥ requested then (true, ⟨tokens - requested, now⟩) else (false, ⟨tokens, now⟩)

/-- The keys of a user, the server times at which a request has passed the total limit, and the
times at which a result below 400 was recorded. -/
structure Redis where
  /-- The list of the success key, the latest first, of local times in milliseconds. -/
  success : List ℤ
  bucket : Option Bucket
  clock : ℤ
  (passed recorded : List ℤ)

namespace Redis

def empty : Redis := ⟨[], none, 0, [], []⟩

/-- `enter` and `leave` are what the handler does before and after the request itself, with times in
milliseconds; with `expire` the success key ends. -/
inductive Event
  | enter (now server : ℤ)
  | leave (now status : ℤ)
  | expire

/-- A time is written as a local time without its zone, which is `zone` milliseconds ahead. -/
def format (zone : ℤ → ℤ) (now : ℤ) : ℤ := now + zone now

def checkRedisRateLimit (l : RateLimits) (zone : ℤ → ℤ) (success : List ℤ) (now : ℤ) : Bool :=
  if l.successMaxCount = 0 ∨ success.length < l.successMaxCount then true
  else
    match success.getLast? with
    | none => false
    | some oldTime => ¬(format zone now - oldTime).tdiv 1000 < l.duration

/-- `redisRateLimitHandler`. A request over the total limit is aborted with a status of 429. -/
def step (l : RateLimits) (zone : ℤ → ℤ) (s : Redis) : Event → Redis
  | .enter now server =>
    if checkRedisRateLimit l zone s.success now = false ∨ l.totalMaxCount = 0 then
      { s with clock := now }
    else
      let (allowed, bucket) :=
        Bucket.take l.duration l.totalMaxCount (l.totalMaxCount * l.duration) s.bucket server
      { s with
        clock := now, bucket := some bucket
        passed := if allowed then server :: s.passed else s.passed }
  | .leave now status =>
    if status < 400 then
      { s with
        clock := now, recorded := s.recorded ++ [now]
        success := if l.successMaxCount = 0 then s.success
          else (format zone now :: s.success).take l.successMaxCount }
    else { s with clock := now }
  | .expire => { s with success := [] }

def ServerClock (s : Redis) : Event → Prop
  | .enter _ server => ∀ b ∈ s.bucket, b.lastTime ≤ server
  | _ => True

/-! ### The total limit -/

/-- How many requests have passed in the `d` seconds from `t` on. -/
def passedWithin (s : Redis) (d : ℕ) (t : ℤ) : ℕ := s.passed.countP fun p => t ≤ p ∧ p < t + d

def passedSince (s : Redis) (t : ℤ) : ℕ := s.passed.countP fun p => t ≤ p

/-- What was spent since any time was in the bucket then, or has been filled in since. -/
structure Paid (l : RateLimits) (s : Redis) : Prop where
  none : s.bucket = none → s.passed = []
  past : ∀ b ∈ s.bucket, ∀ p ∈ s.passed, p ≤ b.lastTime
  since : ∀ b ∈ s.bucket, ∀ t ≤ b.lastTime, l.duration * s.passedSince t + b.tokens ≤
    l.totalMaxCount * l.duration + l.totalMaxCount * (b.lastTime - t)
  within : ∀ t, (l.duration * s.passedWithin l.duration t : ℤ) ≤
    l.totalMaxCount * l.duration + l.totalMaxCount * (l.duration - 1)

variable {l : RateLimits} {zone : ℤ → ℤ} {s : Redis} {e : Event}

theorem Paid.fill (h : Paid l s) {now t : ℤ} (ht : t ≤ now) : l.duration * s.passedSince t +
        Bucket.fill l.totalMaxCount (l.totalMaxCount * l.duration) now s.bucket ≤
      l.totalMaxCount * l.duration + l.totalMaxCount * (now - t) := by
  have hfilled : (0 : ℤ) ≤ l.totalMaxCount * (now - t) := mul_nonneg (by omega) (by omega)
  cases hb : s.bucket with
  | none => simpa [passedSince, h.none hb, Bucket.fill] using hfilled
  | some b =>
    simp only [Bucket.fill]
    by_cases htb : t ≤ b.lastTime
    · have hsince := h.since b hb t htb
      have hmin := min_le_right (l.totalMaxCount * l.duration : ℤ)
        (b.tokens + (now - b.lastTime) * l.totalMaxCount)
      linarith
    · have hzero : s.passedSince t = 0 := by
        refine List.countP_eq_zero.2 fun p hp => ?_
        have := h.past b hb p hp
        simp only [decide_eq_true_eq]
        omega
      have hmin := min_le_left (l.totalMaxCount * l.duration : ℤ)
        (b.tokens + (now - b.lastTime) * l.totalMaxCount)
      rw [hzero]
      push_cast
      linarith

theorem paid_step (hd : 1 ≤ l.duration) (h : Paid l s) (hclock : ServerClock s e) :
    Paid l (s.step l zone e) := by
  cases e with
  | expire => exact ⟨h.none, h.past, h.since, h.within⟩
  | leave now status =>
    simp only [step]
    split_ifs <;> exact ⟨h.none, h.past, h.since, h.within⟩
  | enter now server =>
    have hpast : ∀ p ∈ s.passed, p ≤ server := fun p hp => by
      cases hb : s.bucket with
      | none => simp [h.none hb] at hp
      | some b => exact (h.past b hb p hp).trans (hclock b hb)
    simp only [step, Bucket.take]
    split
    · exact ⟨h.none, h.past, h.since, h.within⟩
    by_cases htake : Bucket.fill l.totalMaxCount (l.totalMaxCount * l.duration) server s.bucket ≥
      l.duration
    · -- the request passes
      simp only [htake, if_true]
      have hsince : ∀ t ≤ server, (l.duration * (s.passedSince t + 1 : ℕ) : ℤ) +
          (Bucket.fill l.totalMaxCount
            (l.totalMaxCount * l.duration) server s.bucket - l.duration) ≤
          l.totalMaxCount * l.duration + l.totalMaxCount * (server - t) := fun t ht => by
        have := h.fill ht
        push_cast
        linarith
      refine ⟨by simp, ?_, ?_, fun t => ?_⟩
      · rintro b ⟨⟩ p hp
        obtain rfl | hp := List.mem_cons.1 hp
        · exact le_rfl
        · exact hpast p hp
      · rintro b ⟨⟩ t ht
        simpa [passedSince, List.countP_cons, ht] using hsince t ht
      · by_cases ht : t ≤ server ∧ server < t + l.duration
        · have hle : s.passedWithin l.duration t ≤ s.passedSince t :=
            List.countP_mono_left fun p _ hp => by simp_all
          have hone := hsince t ht.1
          have hmul : (l.totalMaxCount * (server - t) : ℤ) ≤
              l.totalMaxCount * (l.duration - 1) := by
            exact mul_le_mul_of_nonneg_left (by omega) (by omega)
          have hmul' : (l.duration * (s.passedWithin l.duration t + 1 : ℕ) : ℤ) ≤
              l.duration * (s.passedSince t + 1 : ℕ) :=
            mul_le_mul_of_nonneg_left (by omega) (by omega)
          simp only [passedWithin, List.countP_cons, ht, and_self, decide_true, if_true] at hmul' ⊢
          linarith
        · simpa [passedWithin, List.countP_cons, ht] using h.within t
    · simp only [htake, if_false, Bool.false_eq_true]
      refine ⟨by simp, ?_, ?_, h.within⟩
      · rintro b ⟨⟩
        exact hpast
      · rintro b ⟨⟩ t ht
        exact h.fill ht

/-- Requests at once pass as long as the bucket pays for them. -/
theorem enter_at_once (zone : ℤ → ℤ) (hs : l.successMaxCount = 0) {n : ℕ}
    (hn : n < l.totalMaxCount) :
    (List.replicate (n + 1) (Event.enter 0 0)).foldl (step l zone) empty =
      ⟨[], some ⟨(l.totalMaxCount - (n + 1)) * l.duration, 0⟩, 0,
        List.replicate (n + 1) 0, []⟩ := by
  have hpays {k : ℤ} (hk : 1 ≤ k) : (l.duration : ℤ) ≤ k * l.duration :=
    le_mul_of_one_le_left (by omega) hk
  have hM : l.totalMaxCount ≠ 0 := by omega
  induction n with
  | zero =>
    have hpays := hpays (k := l.totalMaxCount) (by omega)
    simp [step, checkRedisRateLimit, hs, hM, empty, Bucket.take, Bucket.fill, hpays, sub_mul]
  | succ n ih =>
    have hpays := hpays (k := l.totalMaxCount - (n + 1)) (by omega)
    have hmin : ((l.totalMaxCount - (n + 1)) * l.duration : ℤ) ≤ l.totalMaxCount * l.duration :=
      mul_le_mul_of_nonneg_right (by omega) (by omega)
    rw [List.replicate_succ', List.foldl_append, ih (by omega)]
    simp [step, checkRedisRateLimit, hs, hM, Bucket.take, Bucket.fill, hpays, hmin,
      List.replicate_succ]
    ring

theorem serverClock_at_once (n : ℕ) (h : ∀ b ∈ s.bucket, b.lastTime ≤ 0) :
    Meets (step l zone) ServerClock s (List.replicate n (.enter 0 0)) := by
  induction n generalizing s with
  | zero => trivial
  | succ n ih =>
    refine ⟨h, ih ?_⟩
    simp only [step, Bucket.take]
    split
    · exact h
    · rintro b ⟨⟩
      split <;> exact le_rfl

/-- **The total limit of `M` requests in `d` seconds holds in every run exactly if `M` or `d` is at
most 1.** The script counts in floats, which is exact as long as `M * d`, the capacity, and the
tokens that are filled in stay below `2 ^ 53`. -/
theorem total_limit_holds_iff (M d : ℕ) :
    (∀ (successMaxCount : ℕ) (zone : ℤ → ℤ) (events : List Event),
      Meets (step ⟨d, M, successMaxCount⟩ zone) ServerClock empty events →
        ∀ t, (events.foldl (step ⟨d, M, successMaxCount⟩ zone) empty).passedWithin d t ≤ M) ↔
      M ≤ 1 ∨ d ≤ 1 := by
  constructor
  · intro h
    by_contra! hlarge
    obtain ⟨M, rfl⟩ : ∃ M', M = M' + 1 := ⟨M - 1, by omega⟩
    -- `M` requests at once, and another one in the last second of the window
    have hstate := enter_at_once (l := ⟨d, M + 1, 0⟩) (fun _ => 0) rfl (n := M) (by simp)
    have hmore := h 0 (fun _ => 0)
      (List.replicate (M + 1) (.enter 0 0) ++ [.enter 0 (d - 1)]) (Runs.meets_append.2 ?_) 0
    · have hd : (0 : ℤ) ≤ d - 2 := by omega
      have hM : (0 : ℤ) ≤ M - 1 := by omega
      have hfull : (d : ℤ) ≤ (M + 1) * d := le_mul_of_one_le_left (Int.natCast_nonneg d) (by omega)
      have hpays : (d : ℤ) ≤ (d - 1) * (M + 1) := by linarith [mul_nonneg hd hM]
      rw [List.foldl_append, hstate] at hmore
      simp [step, checkRedisRateLimit, Bucket.take, Bucket.fill, hfull, hpays, passedWithin,
        List.countP_replicate, show (1 : ℤ) ≤ d by omega, show 0 < d by omega] at hmore
    · refine ⟨serverClock_at_once _ (by simp [empty]), ?_, trivial⟩
      rw [hstate]
      rintro b ⟨⟩
      simp only
      omega
  · intro hsmall successMaxCount zone events hclock t
    obtain rfl | hd := Nat.eq_zero_or_pos d
    · have hnone : (events.foldl (step ⟨0, M, successMaxCount⟩ zone) empty).passedWithin 0 t = 0 :=
        List.countP_eq_zero.2 fun p _ => by simp
      omega
    have hstart : Paid ⟨d, M, successMaxCount⟩ empty := by
      have hnonneg : (0 : ℤ) ≤ M * d + M * (d - 1) := by
        exact add_nonneg (mul_nonneg (by omega) (by omega)) (mul_nonneg (by omega) (by omega))
      constructor <;> simp [empty, passedWithin, hnonneg]
    have hwithin := (Runs.induction
      (fun _ _ => paid_step (l := ⟨d, M, successMaxCount⟩) hd) hstart hclock).within t
    generalize (events.foldl (step ⟨d, M, successMaxCount⟩ zone) empty).passedWithin d t = n
      at hwithin ⊢
    have hmul {m : ℕ} (hle : m ≤ n) : (d * m : ℤ) ≤ d * n :=
      mul_le_mul_of_nonneg_left (by omega) (by omega)
    by_contra! hn
    obtain hM | hd' := hsmall
    · obtain rfl | rfl : M = 0 ∨ M = 1 := by omega
      · have := hmul (m := 1) hn
        simp only [Nat.cast_zero, zero_mul] at hwithin
        omega
      · have := hmul (m := 2) hn
        simp only [Nat.cast_one, one_mul] at hwithin
        omega
    · obtain rfl : d = 1 := by omega
      simp only [Nat.cast_one] at hwithin
      omega

/-- Three requests in half a minute, where two in a minute are allowed. -/
theorem three_pass_limit_two :
    ([.enter 0 0, .enter 0 0, .enter 30000 30].foldl
      (step ⟨60, 2, 0⟩ fun _ => 0) empty).passedWithin
      60 0 = 3 := by decide +kernel

/-! ### The success limit -/

/-- The clock does not go back. -/
def Clock (s : Redis) : Event → Prop
  | .enter now _ | .leave now _ => s.clock ≤ now
  | .expire => True

/-- If the request is rejected because of the success limit, that many results were recorded in the
preceding window. -/
def Earned (l : RateLimits) (zone : ℤ → ℤ) (s : Redis) : Event → Prop
  | .enter now _ => checkRedisRateLimit l zone s.success now = false →
    l.successMaxCount ≤ s.recorded.countP fun r => r ≤ now ∧ now < r + l.duration * 1000
  | _ => True

def Listed (zone : ℤ → ℤ) (s : Redis) : Prop :=
  ∃ older latest, s.recorded = older ++ latest ∧ s.success = (latest.map (format zone)).reverse ∧
    latest.Pairwise (· ≤ ·) ∧ ∀ r ∈ latest, r ≤ s.clock

theorem listed_step (hs : l.successMaxCount ≠ 0) (h : Listed zone s) (hclock : Clock s e) :
    Listed zone (s.step l zone e) := by
  obtain ⟨older, latest, hrecorded, hsuccess, hsorted, hpast⟩ := h
  cases e with
  | expire => exact ⟨s.recorded, [], by simp [step], by simp [step], .nil, by simp⟩
  | enter now server =>
    have hpast : ∀ r ∈ latest, r ≤ now := fun r hr => (hpast r hr).trans hclock
    simp only [step]
    split <;> exact ⟨older, latest, hrecorded, hsuccess, hsorted, hpast⟩
  | leave now status =>
    have hpast : ∀ r ∈ latest, r ≤ now := fun r hr => (hpast r hr).trans hclock
    simp only [step]
    split_ifs
    · -- the trimmed list has the last of the latest results
      have hsorted' : (latest ++ [now]).Pairwise (· ≤ ·) :=
        List.pairwise_append.2 ⟨hsorted, List.pairwise_singleton _ _, by simpa using hpast⟩
      have hpast' : ∀ r ∈ latest ++ [now], r ≤ now := by simpa [or_imp, forall_and] using hpast
      set n := (latest ++ [now]).length - l.successMaxCount with hn
      refine ⟨older ++ (latest ++ [now]).take n, (latest ++ [now]).drop n, ?_, ?_,
        hsorted'.drop, fun r hr => hpast' r (List.mem_of_mem_drop hr)⟩
      · rw [List.append_assoc, List.take_append_drop, hrecorded, List.append_assoc]
      · have hlist : format zone now :: s.success =
            ((latest ++ [now]).map (format zone)).reverse := by simp [hsuccess]
        rw [hlist, List.take_reverse, List.length_map, List.map_drop]
    · exact ⟨older, latest, hrecorded, hsuccess, hsorted, hpast⟩

theorem earned_of_listed (hzone : ∀ t t', zone t = zone t') (h : Listed zone s)
    (hclock : Clock s e) : Earned l zone s e := by
  obtain ⟨older, latest, hrecorded, hsuccess, hsorted, hpast⟩ := h
  cases e with
  | leave | expire => trivial
  | enter now server =>
    intro hrejected
    unfold checkRedisRateLimit at hrejected
    split_ifs at hrejected with hroom
    rw [not_or, Nat.not_lt, hsuccess, List.length_reverse, List.length_map] at hroom
    cases latest with
    | nil => exact absurd (Nat.le_zero.1 hroom.2) hroom.1
    | cons first latest =>
      simp only [hsuccess, List.map_cons, List.reverse_cons, List.getLast?_append,
        List.getLast?_singleton, Option.some_or, format, hzone now first, decide_eq_false_iff_not,
        not_not] at hrejected
      have hfirst : first ≤ now := (hpast first List.mem_cons_self).trans hclock
      rw [Int.tdiv_eq_ediv_of_nonneg (by omega)] at hrejected
      have hrecent : ∀ r ∈ first :: latest, r ≤ now ∧ now < r + l.duration * 1000 := by
        intro r hr
        have hle : first ≤ r := by
          obtain rfl | hr := List.mem_cons.1 hr
          · exact le_rfl
          · exact List.rel_of_pairwise_cons hsorted hr
        exact ⟨(hpast r hr).trans hclock, by omega⟩
      rw [hrecorded, List.countP_append,
        List.countP_eq_length.2 fun r hr => decide_eq_true (hrecent r hr)]
      exact le_add_left hroom.2

end Redis

/-! ## Memory -/

/-- `InMemoryRateLimiter.Request` on the queue of a key, the oldest first; times are in seconds. -/
def requestQueue (queue : Option (List ℤ)) (maxRequestNum : ℕ) (duration now : ℤ) : Bool × List ℤ :=
  match queue with
  | none => (true, [now])
  | some queue =>
    if queue.length < maxRequestNum then (true, queue ++ [now])
    else if now - queue.headD 0 ≥ duration then (true, queue.tail ++ [now])
    else (false, queue)

/-- `clearExpiredItems` drops a key whose latest time is too old. -/
def clearQueue (expiration now : ℤ) (queue : Option (List ℤ)) : Option (List ℤ) :=
  queue.filter fun queue => queue.getLast?.any fun last => now - last ≤ expiration

theorem clearQueue_cases (expiration now : ℤ) (queue : Option (List ℤ)) :
    clearQueue expiration now queue = queue ∨ clearQueue expiration now queue = none ∧
      ∀ last ∈ (queue.getD []).getLast?, expiration < now - last := by
  cases queue with
  | none => exact .inl rfl
  | some queue =>
    rw [clearQueue, Option.filter_some]
    split
    · exact .inl rfl
    · next hold =>
      refine .inr ⟨rfl, fun last hlast => ?_⟩
      rw [Option.getD_some, Option.mem_def] at hlast
      simpa [hlast, lt_sub_iff_add_lt] using hold

/-- The queues of a user, whether a request is going on, and the times at which a result below 400
was recorded. Times are in milliseconds. -/
structure Memory where
  (total check success : Option (List ℤ))
  running : Bool
  clock : ℤ
  recorded : List ℤ

namespace Memory

def empty : Memory := ⟨none, none, none, false, 0, []⟩

inductive Event
  | enter (now : ℤ)
  | leave (now status : ℤ)
  | clear (now : ℤ)

section

variable (l : RateLimits) (s : Memory)

def totalRequest (now : ℤ) : Bool × Option (List ℤ) :=
  if l.totalMaxCount = 0 then (true, s.total)
  else (requestQueue s.total l.totalMaxCount l.duration (now / 1000)).map id some

/-- `memoryRateLimitHandler`, before and after the request, and the cleaning of the limiter. -/
def step (expiration : ℤ) (s : Memory) : Event → Memory
  | .enter now =>
    let (allowed, total) := s.totalRequest l now
    if allowed then
      let (allowed, check) := requestQueue s.check l.successMaxCount l.duration (now / 1000)
      { s with total := total, check := some check, running := allowed, clock := now }
    else { s with total := total, clock := now }
  | .leave now status =>
    if status < 400 then
      { s with
        success := some (requestQueue s.success l.successMaxCount l.duration (now / 1000)).2
        running := false, clock := now
        recorded := s.recorded ++ [now] }
    else { s with running := false, clock := now }
  | .clear now =>
    { s with
      total := clearQueue expiration (now / 1000) s.total
      check := clearQueue expiration (now / 1000) s.check
      success := clearQueue expiration (now / 1000) s.success, clock := now }

/-- Requests follow one another, and the clock does not go back. -/
def Serial : Event → Prop
  | .enter now => s.running = false ∧ s.clock ≤ now
  | .leave now _ => s.running = true ∧ s.clock ≤ now
  | .clear now => s.clock ≤ now

/-- A request that gets through ends below 400. -/
def Succeeds : Event → Prop
  | .leave _ status => status < 400
  | _ => True

/-- As for Redis; the test under the check key comes after that of the total limit. -/
def Earned : Event → Prop
  | .enter now => (requestQueue s.check l.successMaxCount l.duration (now / 1000)).1 = false →
    l.successMaxCount ≤ s.recorded.countP fun r => r ≤ now ∧ now < r + l.duration * 1000
  | _ => True

end

/-- The entries of a queue belong to the latest results, each recorded after its entry. -/
def Matched (recorded queue : List ℤ) : Prop :=
  ∃ older latest, recorded = older ++ latest ∧ List.Forall₂ (fun a r => a * 1000 ≤ r) queue latest

/-- The check queue; the last entry may belong to the request that is going on. -/
structure Inv (s : Memory) : Prop where
  sorted : (s.check.getD []).Pairwise (· ≤ ·)
  past : ∀ a ∈ s.check.getD [], a * 1000 ≤ s.clock
  recorded : ∀ r ∈ s.recorded, r ≤ s.clock
  idle : s.running = false → Matched s.recorded (s.check.getD [])
  running : s.running = true → s.check.getD [] = [] ∨
    ∃ queue a, s.check.getD [] = queue ++ [a] ∧ Matched s.recorded queue

variable {l : RateLimits} {expiration : ℤ} {s : Memory} {e : Event} {recorded queue : List ℤ}

theorem Matched.nil (recorded : List ℤ) : Matched recorded [] := ⟨recorded, [], by simp, .nil⟩

theorem Matched.append_right {gone : List ℤ} (h : Matched recorded (gone ++ queue)) :
    Matched recorded queue := by
  induction gone with
  | nil => exact h
  | cons a gone ih =>
    obtain ⟨older, latest, rfl, h⟩ := h
    cases h with
    | @cons _ r _ latest _ h => exact ih ⟨older ++ [r], latest, by simp, h⟩

theorem Matched.snoc (h : Matched recorded queue) {a r : ℤ} (hle : a * 1000 ≤ r) :
    Matched (recorded ++ [r]) (queue ++ [a]) := by
  obtain ⟨older, latest, rfl, h⟩ := h
  exact ⟨older, latest ++ [r], by simp, List.rel_append h (.cons hle .nil)⟩

theorem requestQueue_cases (queue : Option (List ℤ)) (maxRequestNum : ℕ) (duration now : ℤ) :
    (∃ gone rest, queue.getD [] = gone ++ rest ∧ (∀ a ∈ gone, a + duration ≤ now) ∧
        rest.length < max maxRequestNum (max 1 (queue.getD []).length) ∧
        requestQueue queue maxRequestNum duration now = (true, rest ++ [now])) ∨
      ∃ q, queue = some q ∧ maxRequestNum ≤ q.length ∧ now - q.headD 0 < duration ∧
        requestQueue queue maxRequestNum duration now = (false, q) := by
  unfold requestQueue
  cases queue with
  | none => exact .inl ⟨[], [], rfl, by simp, by simp, rfl⟩
  | some q =>
    dsimp only [Option.getD_some]
    split_ifs with hroom hold
    · exact .inl ⟨[], q, rfl, by simp, by omega, rfl⟩
    · cases q with
      | nil => exact .inl ⟨[], [], rfl, by simp, by simp, rfl⟩
      | cons first rest =>
        rw [List.headD_cons] at hold
        exact .inl ⟨[first], rest, rfl, by simpa using by omega, by simp, rfl⟩
    · exact .inr ⟨q, rfl, Nat.not_lt.1 hroom, not_le.1 hold, rfl⟩

theorem inv_step (h : s.Inv) (hserial : Serial s e) (hsucceeds : Succeeds e) :
    (s.step l expiration e).Inv := by
  cases e with
  | clear now =>
    have hpast : ∀ {r}, r ≤ s.clock → r ≤ now := fun hr => hr.trans hserial
    have hrecorded := fun r hr => hpast (h.recorded r hr)
    obtain hkept | ⟨hnone, -⟩ := clearQueue_cases expiration (now / 1000) s.check
    · simp only [step, hkept]
      exact ⟨h.sorted, fun a ha => hpast (h.past a ha), hrecorded, h.idle, h.running⟩
    · simp only [step, hnone]
      exact ⟨.nil, by simp, hrecorded, fun _ => .nil _, fun _ => .inl rfl⟩
  | leave now status =>
    obtain ⟨hrunning, hclock⟩ := hserial
    simp only [step, if_pos (show status < 400 from hsucceeds)]
    refine ⟨h.sorted, fun a ha => (h.past a ha).trans hclock, ?_, fun _ => ?_, by simp⟩
    · simpa [or_imp, forall_and] using fun r hr => (h.recorded r hr).trans hclock
    · obtain hnil | ⟨queue, a, hqueue, hmatched⟩ := h.running hrunning
      · rw [hnil]
        exact .nil _
      · rw [hqueue]
        exact hmatched.snoc ((h.past a (by simp [hqueue])).trans hclock)
  | enter now =>
    obtain ⟨hidle, hclock⟩ := hserial
    have hpast : ∀ {r}, r ≤ s.clock → r ≤ now := fun hr => hr.trans hclock
    have hrecorded := fun r hr => hpast (h.recorded r hr)
    have hmatched := h.idle hidle
    simp only [step]
    split
    · obtain ⟨gone, rest, hqueue, -, -, hrequest⟩ | ⟨q, hq, -, -, hrequest⟩ :=
        requestQueue_cases s.check l.successMaxCount l.duration (now / 1000) <;> rw [hrequest]
      · -- a new entry, for the request that begins
        have hsub : rest.Sublist (s.check.getD []) := hqueue ▸ List.sublist_append_right gone rest
        have hle : ∀ a ∈ rest, a ≤ now / 1000 := fun a ha => by
          have := hpast (h.past a (hsub.subset ha))
          omega
        refine ⟨?_, fun a ha => ?_, hrecorded, by simp, fun _ => .inr ⟨rest, _, rfl, ?_⟩⟩
        · exact List.pairwise_append.2
            ⟨h.sorted.sublist hsub, List.pairwise_singleton _ _, by simpa using hle⟩
        · obtain ha | ha := List.mem_append.1 ha
          · exact hpast (h.past a (hsub.subset ha))
          · obtain rfl := List.mem_singleton.1 ha
            dsimp only
            omega
        · rw [hqueue] at hmatched
          exact hmatched.append_right
      · rw [← Option.getD_some (a := q) (b := []), ← hq] at *
        exact ⟨h.sorted, fun a ha => hpast (h.past a ha), hrecorded, fun _ => hmatched, by simp⟩
    · exact ⟨h.sorted, fun a ha => hpast (h.past a ha), hrecorded, fun _ => hmatched, h.running⟩

theorem earned_of_inv (h : s.Inv) (hserial : Serial s e) : Earned l s e := by
  cases e with
  | leave | clear => trivial
  | enter now =>
    intro hrejected
    obtain ⟨hidle, hclock⟩ := hserial
    obtain ⟨_, _, -, -, -, hrequest⟩ | ⟨q, hq, hfull, hold, -⟩ :=
      requestQueue_cases s.check l.successMaxCount l.duration (now / 1000)
    · simp [hrequest] at hrejected
    · obtain ⟨older, latest, hrecorded, hmatched⟩ := h.idle hidle
      have hsorted := h.sorted
      rw [hq, Option.getD_some] at hmatched hsorted
      have hrecent : ∀ r ∈ latest, r ≤ now ∧ now < r + l.duration * 1000 := by
        intro r hr
        obtain ⟨a, ha, hle⟩ : ∃ a ∈ q, a * 1000 ≤ r := by
          obtain ⟨i, hi, rfl⟩ := List.mem_iff_getElem.1 hr
          have hi' : i < q.length := hmatched.length_eq ▸ hi
          exact ⟨q[i], List.getElem_mem hi', hmatched.get hi' hi⟩
        have hhead : q.headD 0 ≤ a := by
          cases q with
          | nil => cases ha
          | cons first q =>
            obtain rfl | ha := List.mem_cons.1 ha
            · exact le_rfl
            · exact List.rel_of_pairwise_cons hsorted ha
        refine ⟨(h.recorded r (by simp [hrecorded, hr])).trans hclock, by omega⟩
      rw [hrecorded, List.countP_append,
        List.countP_eq_length.2 fun r hr => decide_eq_true (hrecent r hr), ← hmatched.length_eq]
      exact le_add_left hfull

end Memory

/-- **A request is rejected because of the success limit only after that many results below 400
were recorded in the window: in memory if every request that gets through ends below 400, and on
Redis if the offset of the local time does not change.** -/
theorem successLimit_after_successes (l : RateLimits) (hs : 0 < l.successMaxCount) :
    (∀ expiration events, Meets (Memory.step l expiration)
        (fun s e => Memory.Serial s e ∧ Memory.Succeeds e) .empty events →
      Meets (Memory.step l expiration) (Memory.Earned l) .empty events) ∧
    ∀ zone : ℤ → ℤ, (∀ t t', zone t = zone t') → ∀ events,
      Meets (Redis.step l zone) Redis.Clock .empty events →
        Meets (Redis.step l zone) (Redis.Earned l zone) .empty events := by
  refine ⟨fun expiration events h => ?_, fun zone hzone events h => ?_⟩
  · refine h.imp (P := Memory.Inv) (fun s e hinv hcond => Memory.inv_step hinv hcond.1 hcond.2)
      (fun s e hinv hcond => Memory.earned_of_inv hinv hcond.1) ?_
    exact ⟨.nil, by simp [Memory.empty], by simp [Memory.empty], fun _ => .nil _, fun _ => .inl rfl⟩
  · exact h.imp (fun s e => Redis.listed_step hs.ne') (fun s e => Redis.earned_of_listed hzone)
      ⟨[], [], rfl, rfl, .nil, by simp⟩

/-- A failed request, one that succeeds and one that is rejected, on Redis. -/
def failedThenRejected : List Redis.Event :=
  [.enter 0 0, .leave 1000 500, .enter 2000 2, .leave 3000 200, .enter 4000 4]

theorem successLimit_after_successes_sample :
    (Meets (Memory.step ⟨60, 0, 1⟩ 60) (Memory.Earned ⟨60, 0, 1⟩) .empty
        [.enter 0, .leave 1000 200, .enter 2000] ∧
      (requestQueue (some [0]) 1 60 2).1 = false) ∧
    Meets (Redis.step ⟨60, 0, 1⟩ fun _ => 0) (Redis.Earned ⟨60, 0, 1⟩ fun _ => 0) .empty
        failedThenRejected ∧
      Redis.checkRedisRateLimit ⟨60, 0, 1⟩ (fun _ => 0) [3000] 4000 = false := by
  obtain ⟨hmemory, hredis⟩ := successLimit_after_successes ⟨60, 0, 1⟩ (by decide)
  refine ⟨⟨hmemory 60 _ ?_, by decide⟩, hredis _ (fun _ _ => rfl) _ ?_, by decide⟩
  · exact ⟨⟨⟨rfl, by decide⟩, trivial⟩, ⟨⟨rfl, by decide⟩, show (200 : ℤ) < 400 by decide⟩,
      ⟨⟨rfl, by decide⟩, trivial⟩, trivial⟩
  · refine ⟨?_, ?_, ?_, ?_, ?_, trivial⟩ <;> simp only [Redis.Clock] <;> decide

/-- With a limit of one success, a request is rejected after one that has failed. -/
theorem rejected_after_failure :
    let l : RateLimits := ⟨60, 0, 1⟩
    let s := [.enter 0, .leave 1000 500].foldl (Memory.step l 60) .empty
    s.recorded = [] ∧ ¬Memory.Earned l s (.enter 2000) := by
  simp only [Memory.Earned]
  decide +kernel

/-! ## The window of one key -/

/-- The queue of one key, and the times at which a request was allowed, in seconds. -/
structure Limiter where
  queue : Option (List ℤ)
  clock : ℤ
  allowed : List ℤ

namespace Limiter

inductive Event
  | request (now : ℤ)
  | clear (now : ℤ)

def step (m : ℕ) (d expiration : ℤ) (s : Limiter) : Event → Limiter
  | .request now =>
    let (allowed, queue) := requestQueue s.queue m d now
    ⟨some queue, now, if allowed then s.allowed ++ [now] else s.allowed⟩
  | .clear now => { s with queue := clearQueue expiration now s.queue, clock := now }

/-- The clock does not go back, and `Init` starts the cleaning only for a positive duration. -/
def Possible (expiration : ℤ) (s : Limiter) : Event → Prop
  | .request now => s.clock ≤ now
  | .clear now => s.clock ≤ now ∧ 0 < expiration

def allowedWithin (s : Limiter) (d t : ℤ) : ℕ := s.allowed.countP fun a => t ≤ a ∧ a < t + d

/-- What has left the queue lies before every window that is still to come. -/
structure Windowed (m : ℕ) (d : ℤ) (s : Limiter) : Prop where
  gone : ∃ gone, s.allowed = gone ++ s.queue.getD [] ∧ ∀ a ∈ gone, a + d ≤ s.clock
  length : (s.queue.getD []).length ≤ m
  past : ∀ a ∈ s.queue.getD [], a ≤ s.clock
  last : ∀ a ∈ s.queue.getD [], ∀ last ∈ (s.queue.getD []).getLast?, a ≤ last
  within : ∀ t, s.allowedWithin d t ≤ m

variable {m : ℕ} {d expiration now : ℤ} {s : Limiter} {e : Event}

theorem windowed_request (hm : 0 < m) (h : Windowed m d s) (hclock : s.clock ≤ now) :
    Windowed m d (s.step m d expiration (.request now)) := by
  obtain ⟨before, hallowed, hbefore⟩ := h.gone
  have hpast := fun a ha => (h.past a ha).trans hclock
  have hlength := h.length
  obtain ⟨gone, rest, hqueue, hgone, hroom, hrequest⟩ | ⟨q, hq, -, -, hrequest⟩ :=
    Memory.requestQueue_cases s.queue m d now
  · have hout : ∀ a ∈ before ++ gone, a + d ≤ now := by
      intro a ha
      obtain ha | ha := List.mem_append.1 ha
      · exact (hbefore a ha).trans hclock
      · exact hgone a ha
    have hle : ∀ a ∈ rest ++ [now], a ≤ now := by
      simpa [or_imp, forall_and] using fun a ha => hpast a (by simp [hqueue, ha])
    rw [hqueue, ← List.append_assoc] at hallowed
    simp only [step, hrequest, if_true]
    refine ⟨⟨before ++ gone, by simp [hallowed], hout⟩, ?_, hle, by simpa using hle, fun t => ?_⟩
    · simp only [Option.getD_some, List.length_append, List.length_singleton]
      omega
    · have hwithin := h.within t
      unfold allowedWithin at hwithin ⊢
      rw [List.countP_append]
      by_cases ht : t ≤ now ∧ now < t + d
      · -- of the earlier times, only those in the queue can be in the window
        have hzero : (before ++ gone).countP (fun a => t ≤ a ∧ a < t + d) = 0 := by
          refine List.countP_eq_zero.2 fun a ha => ?_
          have := hout a ha
          simp only [decide_eq_true_eq]
          omega
        have hrest := List.countP_le_length (p := fun a => decide (t ≤ a ∧ a < t + d)) (l := rest)
        rw [hallowed, List.countP_append, hzero, List.countP_singleton, if_pos (by simpa using ht)]
        omega
      · rwa [List.countP_singleton, if_neg (by simpa using ht), Nat.add_zero]
  · simp only [step, hrequest, Bool.false_eq_true, if_false, ← hq]
    exact ⟨⟨before, hallowed, fun a ha => (hbefore a ha).trans hclock⟩, h.length, hpast, h.last,
      h.within⟩

theorem windowed_step (hm : 0 < m) (hd : 0 < expiration → d ≤ expiration + 1)
    (h : Windowed m d s) (hpossible : Possible expiration s e) :
    Windowed m d (s.step m d expiration e) := by
  cases e with
  | request now => exact windowed_request hm h hpossible
  | clear now =>
    obtain ⟨before, hallowed, hbefore⟩ := h.gone
    obtain ⟨hclock, hexpiration⟩ := hpossible
    have hpast := fun a ha => (hbefore a ha).trans hclock
    obtain hkept | ⟨hnone, hold⟩ := clearQueue_cases expiration now s.queue
    · simp only [step, hkept]
      exact ⟨⟨before, hallowed, hpast⟩, h.length, fun a ha => (h.past a ha).trans hclock, h.last,
        h.within⟩
    · simp only [step, hnone]
      refine ⟨⟨s.allowed, by simp, fun a ha => ?_⟩, by simp, by simp, by simp, h.within⟩
      rw [hallowed] at ha
      obtain ha | ha := List.mem_append.1 ha
      · exact hpast a ha
      · have hne := List.ne_nil_of_mem ha
        have hlast := h.last a ha _ (List.getLast?_eq_some_getLast hne)
        have := hold _ (List.getLast?_eq_some_getLast hne)
        have := hd hexpiration
        dsimp only
        omega

/-- **In every run the limiter allows at most `m` requests of a key in `d` seconds, exactly if a
queue is not dropped before the window of its last entry has ended.** -/
theorem window_holds_iff (d expiration : ℤ) :
    (∀ m, 0 < m → ∀ start events,
      Meets (step m d expiration) (Possible expiration) ⟨none, start, []⟩ events → ∀ t,
        (events.foldl (step m d expiration) ⟨none, start, []⟩).allowedWithin d t ≤ m) ↔
      (0 < expiration → d ≤ expiration + 1) := by
  constructor
  · intro h hexpiration
    by_contra! hlong
    have hpositive : 0 ≤ expiration + 1 := by omega
    -- a request, and another one as soon as the queue can be dropped
    have hmore := h 1 one_pos 0 [.request 0, .clear (expiration + 1), .request (expiration + 1)]
      ⟨le_rfl, ⟨hpositive, hexpiration⟩, le_rfl, trivial⟩ 0
    have hdropped : clearQueue expiration (expiration + 1) (some [0]) = none := by
      simp [clearQueue, Option.filter_some]
    simp [step, requestQueue, hdropped, allowedWithin, hlong, hpositive,
      hpositive.trans_lt hlong] at hmore
  · intro hd m hm start events hpossible
    have hstart : Windowed m d ⟨none, start, []⟩ :=
      ⟨⟨[], rfl, by simp⟩, by simp, by simp, by simp, by simp [allowedWithin]⟩
    exact (Runs.induction (fun s e => windowed_step hm hd) hstart hpossible).within

/-- With a window of an hour and queues that are dropped after 20 minutes, two requests are allowed
where there should be one. -/
theorem two_requests_in_window :
    Meets (step 1 3600 1200) (Possible 1200) ⟨none, 0, []⟩
        [.request 0, .clear 1201, .request 1201] ∧
      ([.request 0, .clear 1201, .request 1201].foldl (step 1 3600 1200)
        ⟨none, 0, []⟩).allowedWithin 3600 0 = 2 :=
  ⟨⟨le_rfl, ⟨by decide, by decide⟩, le_rfl, trivial⟩, by decide⟩

/-- The queue holds the latest times at which a request was allowed. -/
structure Latest (s : Limiter) : Prop where
  allowed : s.queue.getD [] <:+ s.allowed
  sorted : (s.queue.getD []).Pairwise (· ≤ ·)
  past : ∀ a ∈ s.queue.getD [], a ≤ s.clock

theorem latest_step (h : Latest s) (hpossible : Possible expiration s e) :
    Latest (s.step m d expiration e) := by
  obtain ⟨before, hallowed⟩ := h.allowed
  cases e with
  | clear now =>
    have hclock := hpossible.1
    obtain hkept | ⟨hnone, -⟩ := clearQueue_cases expiration now s.queue
    · simp only [step, hkept]
      exact ⟨h.allowed, h.sorted, fun a ha => (h.past a ha).trans hclock⟩
    · simp only [step, hnone]
      exact ⟨List.nil_suffix, .nil, by simp⟩
  | request now =>
    have hpast := fun a ha => (h.past a ha).trans hpossible
    have hsorted := h.sorted
    obtain ⟨gone, rest, hqueue, -, -, hrequest⟩ | ⟨q, hq, -, -, hrequest⟩ :=
      Memory.requestQueue_cases s.queue m d now
    · rw [hqueue] at hallowed hpast hsorted
      simp only [step, hrequest, if_true]
      refine ⟨⟨before ++ gone, by simp [← hallowed]⟩, ?_, ?_⟩
      · refine List.pairwise_append.2 ⟨(List.pairwise_append.1 hsorted).2.1, by simp, ?_⟩
        simpa using fun a ha => hpast a (by simp [ha])
      · simpa [or_imp, forall_and] using fun a ha => hpast a (by simp [ha])
    · simp only [step, hrequest, Bool.false_eq_true, if_false, ← hq]
      exact ⟨h.allowed, hsorted, hpast⟩

/-- **A request is rejected only if `m` requests were allowed in the `d` seconds that end with it**,
whatever was cleaned up before. -/
theorem rejected_only_when_full (m : ℕ) (d expiration start : ℤ) (events : List Event)
    (hpossible : Meets (step m d expiration) (Possible expiration) ⟨none, start, []⟩ events) :
    let s := events.foldl (step m d expiration) ⟨none, start, []⟩
    ∀ now, s.clock ≤ now → (requestQueue s.queue m d now).1 = false →
      m ≤ s.allowedWithin d (now + 1 - d) := by
  intro s now hclock hrejected
  have h : Latest s := Runs.induction (fun _ _ => latest_step)
    ⟨List.nil_suffix, .nil, by simp⟩ hpossible
  obtain ⟨gone, rest, -, -, -, hrequest⟩ | ⟨q, hq, hfull, hrecent, -⟩ :=
    Memory.requestQueue_cases s.queue m d now
  · rw [hrequest] at hrejected
    cases hrejected
  obtain ⟨before, hallowed⟩ := h.allowed
  have hsorted := h.sorted
  have hpast := h.past
  rw [hq, Option.getD_some] at hallowed hsorted hpast
  have hwithin : ∀ a ∈ q, now + 1 - d ≤ a ∧ a < now + 1 - d + d := by
    intro a ha
    have hhead : q.headD 0 ≤ a := by
      cases q with
      | nil => cases ha
      | cons first q =>
        obtain rfl | ha := List.mem_cons.1 ha
        · exact le_rfl
        · exact List.rel_of_pairwise_cons hsorted ha
    have := hpast a ha
    omega
  rw [allowedWithin, ← hallowed, List.countP_append,
    List.countP_eq_length.2 fun a ha => decide_eq_true (hwithin a ha)]
  omega

theorem rejected_only_when_full_sample :
    2 ≤ ([.request 0, .request 5].foldl (step 2 60 0) ⟨none, 0, []⟩).allowedWithin 60 (-50) :=
  rejected_only_when_full 2 60 0 0 [.request 0, .request 5] ⟨le_rfl, Int.zero_le_ofNat 5, trivial⟩ 9
    (by decide) rfl

end Limiter

end Mujian.Gateway
