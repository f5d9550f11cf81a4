import Mujian.Relay.Reachability
import Mujian.Relay.Distributor

/-!
# Random draws in the search for a channel

A channel is drawn by its weight in a tier of the cache or of the database. In the cache every
channel gets as many of the random numbers as its smoothed weight (`pickChannel_law`). In the
database the walk stops one number too early (`fairlyDrawn_iff`). A managed channel that turns out
to be stale is excluded, so no channel is drawn twice and the search ends (`search_ends`).
-/

namespace Mujian.Relay

def smoothing (channels : List Channel) : ℕ × ℕ :=
  let sumWeight := (channels.map Channel.weight).sum
  if sumWeight = 0 then (1, 100)
  else if sumWeight / channels.length < 10 then (100, 0)
  else (1, 0)

/-- **The choice among the cached channels of a tier**: each is chosen by as many numbers as its
smoothed weight, and one without a weight is not chosen beside one with a weight. The sum is exact
as long as it is below `2 ^ 63`; from there on the source draws below a sum that has wrapped
around. -/
theorem pickChannel_law (channels : List Channel) (hne : channels ≠ []) :
    let totalWeight := (channels.map (smoothedWeight channels)).sum
    0 < totalWeight ∧
      (∀ draw < totalWeight, ∃ channel ∈ channels, pickChannel channels draw = some channel) ∧
      (∀ channel, ((Finset.range totalWeight).filter fun draw =>
          pickChannel channels draw = some channel).card = channels.count channel *
        (channel.weight * (smoothing channels).1 + (smoothing channels).2)) ∧
      ∀ channel, channel.weight = 0 → (∃ other ∈ channels, 0 < other.weight) →
        ∀ draw, pickChannel channels draw ≠ some channel := by
  refine ⟨sum_smoothedWeight_pos hne, fun draw _ => ?_, fun channel => ?_, ?_⟩
  · obtain ⟨channel, hpick⟩ := exists_pickChannel hne draw
    exact ⟨channel, mem_of_pickWeighted hpick, hpick⟩
  · have hsmoothed : smoothedWeight channels channel =
        channel.weight * (smoothing channels).1 + (smoothing channels).2 := by
      unfold smoothedWeight smoothing
      dsimp only
      split_ifs <;> simp
    rw [← hsmoothed, ← card_pickWeighted (smoothedWeight channels) 0]
    refine congrArg Finset.card (Finset.filter_congr fun draw hdraw => ?_)
    rw [pickChannel, Nat.mod_eq_of_lt (Finset.mem_range.1 hdraw), add_zero]
  · rintro channel hzero ⟨other, hother, hweight⟩ draw hpick
    have hpos := weight_pos_of_pickChannel hpick hother hweight
    omega

theorem pickChannel_law_sample :
    ((Finset.range 300).filter fun draw => pickChannel
      [{ id := 7, weight := 1 }, { id := 8, weight := 2 }] draw =
        some { id := 8, weight := 2 }).card = 200 :=
  (pickChannel_law [{ id := 7, weight := 1 }, { id := 8, weight := 2 }] (by decide)).2.2.1 _

/-- Every row of a tier is chosen by its weight plus ten of the random numbers. -/
def FairlyDrawn (abilities : List Ability) : Prop := ∀ ability ∈ abilities,
    ((Finset.range (abilities.map fun a => a.weight + 10).sum).filter fun draw =>
      pickAbility abilities draw = some ability).card = ability.weight + 10

/-- The walk through the sorted rows takes one of the numbers of the last row for the first. -/
theorem card_pickAbility {abilities rest : List Ability} {first : Ability}
    (hsort : abilities.insertionSort (fun a b => b.weight ≤ a.weight) = first :: rest)
    (ability : Ability) :
    ((Finset.range (abilities.map fun a => a.weight + 10).sum).filter fun draw =>
        pickAbility abilities draw = some ability).card +
        (if (first :: rest).getLast (List.cons_ne_nil first rest) = ability then 1 else 0) =
      (first :: rest).count ability * (ability.weight + 10) + if first = ability then 1 else 0 := by
  have hperm := List.perm_insertionSort (fun a b : Ability => b.weight ≤ a.weight) abilities
  rw [hsort] at hperm
  have hpos : ∀ a : Ability, 0 < a.weight + 10 := fun _ => by omega
  rw [← card_pickWeighted_succ hpos 0 first rest, (hperm.map fun a => a.weight + 10).sum_eq]
  refine congrArg (Finset.card · + _) (Finset.filter_congr fun draw hdraw => ?_)
  rw [← (hperm.map fun a => a.weight + 10).sum_eq, Finset.mem_range] at hdraw
  rw [pickAbility, hsort, Nat.mod_eq_of_lt hdraw, add_zero]
  rfl

/-- **The choice among the rows of a tier is fair only if there is one row**: one of the numbers of
the last row goes to the first. As before, the sum of the weights is below `2 ^ 63`. -/
theorem fairlyDrawn_iff (abilities : List Ability) (hne : abilities ≠ [])
    (hnodup : abilities.Nodup) : FairlyDrawn abilities ↔ abilities.length = 1 := by
  have hperm := List.perm_insertionSort (fun a b : Ability => b.weight ≤ a.weight) abilities
  cases hsort : abilities.insertionSort (fun a b : Ability => b.weight ≤ a.weight) with
  | nil =>
    rw [hsort] at hperm
    exact absurd hperm.symm.eq_nil hne
  | cons first rest =>
    rw [hsort] at hperm
    have hsorted := hperm.nodup_iff.2 hnodup
    have hlaw := card_pickAbility hsort
    rw [← hperm.length_eq]
    constructor
    · intro hfair
      have hfirst := hlaw first
      rw [hfair first (hperm.mem_iff.1 List.mem_cons_self), if_pos rfl,
        List.count_eq_one_of_mem hsorted List.mem_cons_self, one_mul] at hfirst
      split_ifs at hfirst with hlast
      · cases rest with
        | nil => rfl
        | cons second rest =>
          rw [List.getLast_cons_cons] at hlast
          exact absurd (hlast ▸ List.getLast_mem _) (List.nodup_cons.1 hsorted).1
      · omega
    · intro hlength ability hmem
      obtain rfl := List.eq_nil_of_length_eq_zero (Nat.succ.inj hlength)
      obtain rfl := List.mem_singleton.1 (hperm.mem_iff.2 hmem)
      simpa using hlaw ability

theorem fairlyDrawn_sample : FairlyDrawn [⟨"default", "m", 7, true, 0, 5⟩] :=
  (fairlyDrawn_iff [⟨"default", "m", 7, true, 0, 5⟩] (by decide) (by decide)).2 rfl

/-- Of two rows without weight the first is chosen by eleven numbers and the other by nine. -/
theorem eleven_of_twenty :
    ¬FairlyDrawn [⟨"default", "m", 7, true, 0, 0⟩, ⟨"default", "m", 8, true, 0, 0⟩] := by
  intro h
  have hfirst := h _ List.mem_cons_self
  revert hfirst
  decide

/-- The channels that a selection can return. -/
def World.channelIDs (w : World) : List ℤ :=
  if w.memoryCacheEnabled then w.cache.channelsIDM.rows.map Channel.id
  else w.db.abilities.map Ability.channelId

section

variable {w : World} {c : RequestContext} {param : RetryParam} {channel : Channel}
  {excluded : List ℤ} {glances : ℕ → Glance}

theorem mem_channelIDs {group model : String} {retry : ℤ} {allowed : Option (List ℤ)} {draw : ℕ}
    (h : (getRandomSatisfiedChannelWithFilters w group model retry allowed excluded draw).channel =
      some channel) : channel.id ∈ w.channelIDs := by
  unfold getRandomSatisfiedChannelWithFilters at h
  unfold World.channelIDs
  split at h
  next hcache =>
    obtain ⟨channels, hchannels, hmem, -⟩ := cachedChannelWithFilters_cases h
    rw [if_pos hcache]
    exact List.mem_map_of_mem (Table.mem_of_find? ((cachedChannels_mem hchannels).2 channel hmem))
  next hcache =>
    obtain ⟨ability, hability, hid, -⟩ := getChannelWithFilters_cases h
    rw [if_neg hcache, ← hid]
    exact List.mem_map_of_mem (List.mem_filter.1 hability).1

theorem walkAutoGroups_search {start last i : ℕ} {autoGroups : List String} {priorityIndex : ℤ} :
    let selected := walkAutoGroups param excluded glances start last autoGroups i priorityIndex c
    selected.context.locallyExcludedChannels = c.locallyExcludedChannels ∧
      ∀ channel, selected.channel = some channel →
        ∃ i, channel.id ∈ (glances i).world.channelIDs := by
  induction autoGroups generalizing i priorityIndex c with
  | nil => exact ⟨rfl, fun _ h => by cases h⟩
  | cons autoGroup autoGroups ih =>
    simp only [walkAutoGroups]
    split
    next =>
      refine ⟨ih.1.trans ?_, ih.2⟩
      split <;> rfl
    next channel hchannel =>
      refine ⟨rfl, fun _ h => ?_⟩
      cases h
      exact ⟨i, mem_channelIDs hchannel⟩

theorem selectCachedChannel_search {selected : Selected}
    (h : selectCachedChannel w c param glances = .ok selected) :
    selected.context.locallyExcludedChannels = c.locallyExcludedChannels ∧
      ∀ channel, selected.channel = some channel →
        ∃ i, channel.id ∈ (glances i).world.channelIDs := by
  unfold selectCachedChannel at h
  split at h
  · simp only [selectAutoChannel, ite_error_eq_ok_iff] at h
    obtain ⟨-, h⟩ := h
    split at h
    · cases h
      exact ⟨rfl, fun _ h => by cases h⟩
    · cases h
      exact walkAutoGroups_search
  · simp only at h
    split at h
    · cases h
    · cases h
      exact ⟨rfl, fun _ h => ⟨0, mem_channelIDs h⟩⟩

end

/-- **The search for a channel ends**: with the channels `w` fixed, it takes at most one round more
than there are channels, and no round draws a channel that is excluded. -/
theorem search_ends (w : World) (hpos : ∀ id ∈ w.channelIDs, 0 < id) (param : RetryParam)
    (moments : List Moment) (hfixed : ∀ m ∈ moments, ∀ i, (m.glances i).world = w)
    (c : RequestContext) :
    (w.channelIDs.length < moments.length →
        (cacheGetRandomSatisfiedChannel param moments c).isSome) ∧
      ∀ m ∈ moments, ∀ selected channel,
        selectCachedChannel m.groupsWorld c param m.glances = .ok selected →
          selected.channel = some channel → channel.id ∉ excludedChannelIDs c := by
  refine ⟨fun hlength => ?_, fun m _ selected channel hselected hchannel =>
    ((selectCachedChannel_cases hselected).2.2 channel hchannel).withFilters.not_excluded⟩
  -- the channels that are not yet excluded become fewer
  suffices h : ∀ c, (w.channelIDs.filter (· ∉ locallyExcludedChannelIDs c)).length <
      moments.length → (cacheGetRandomSatisfiedChannel param moments c).isSome from
    h c ((List.length_filter_le _ _).trans_lt hlength)
  clear hlength c
  induction moments with
  | nil => exact fun c h => absurd h (Nat.not_lt_zero _)
  | cons m moments ih =>
    intro c hlength
    unfold cacheGetRandomSatisfiedChannel
    split
    · rfl
    · rfl
    next c' channel group hselected =>
      split
      · rfl
      · rfl
      refine ih (fun m hm => hfixed m (List.mem_cons_of_mem _ hm)) _ ?_
      obtain ⟨hsame, hmem⟩ := selectCachedChannel_search hselected
      obtain ⟨i, hid⟩ := hmem channel rfl
      rw [hfixed m List.mem_cons_self] at hid
      have hnew := ((selectCachedChannel_cases hselected).2.2 channel rfl).withFilters.not_excluded
      have hexcluded : locallyExcludedChannelIDs { c' with
          locallyExcludedChannels := c'.locallyExcludedChannels ++ [channel.id]
          managedProvider := true } = locallyExcludedChannelIDs c ++ [channel.id] := by
        dsimp only at hsame
        simp [locallyExcludedChannelIDs, parseChannelIDs, hpos _ hid, hsame]
      have hrest : w.channelIDs.filter (· ∉ locallyExcludedChannelIDs c ++ [channel.id]) =
          (w.channelIDs.filter (· ∉ locallyExcludedChannelIDs c)).filter (· ≠ channel.id) := by
        rw [List.filter_filter]
        exact List.filter_congr fun id _ => by simp [and_comm]
      have hopen : channel.id ∈ w.channelIDs.filter (· ∉ locallyExcludedChannelIDs c) := by
        rw [List.mem_filter, decide_eq_true_eq]
        exact ⟨hid, fun hmem => hnew (List.mem_append_left _ hmem)⟩
      have hlt := List.length_filter_lt_length_iff_exists (p := (· ≠ channel.id)).2
        ⟨channel.id, hopen, by simp⟩
      rw [hexcluded, hrest]
      rw [List.length_cons] at hlength
      omega

theorem search_ends_sample :
    (cacheGetRandomSatisfiedChannel ⟨"default", "deepseek-v4-flash", none, 0⟩
      (List.replicate 3 sampleMoment) sampleContext).isSome := by
  have hfixed : ∀ m ∈ List.replicate 3 sampleMoment, ∀ i, (m.glances i).world = sampleWorld := by
    intro m hm i
    rw [List.eq_of_mem_replicate hm]
    rfl
  exact (search_ends sampleWorld (by decide) _ _ hfixed _).1 (by decide)

end Mujian.Relay
