import Mathlib.Data.List.AList
import Mujian.Relay.Channels

/-!
# The status of a channel with several keys

`updateChannelStatus` disables or enables one key of a channel, in the memory cache and in the
database; a string that is not among the keys is taken for the first one (`setsKeys_iff`). The
channel is disabled when the map of the disabled keys is full, and nothing ever enables it again
(`consistent_iff_never_reenabled`).
-/

namespace Mujian.Channels

open Relay (ChannelStatus)

/-- How the next key is chosen; a mode that is neither takes the first one. -/
inductive MultiKeyMode
  | random | polling | other

structure ChannelInfo where
  isMultiKey : Bool
  multiKeySize : ℕ
  multiKeyStatusList : AList fun _ : ℕ => ChannelStatus
  multiKeyDisabledReason : AList fun _ : ℕ => String
  multiKeyDisabledTime : AList fun _ : ℕ => ℤ
  multiKeyPollingIndex : ℤ
  multiKeyMode : MultiKeyMode

/-- A channel: the keys that `GetKeys` finds, and of `other_info` the reason and the time of the
last change. -/
structure Channel where
  keys : List String
  status : ChannelStatus
  channelInfo : ChannelInfo
  statusReason : Option String
  statusTime : Option ℤ

/-- A call of `UpdateChannelStatus`, with the time at which it is made. -/
structure Call where
  usingKey : String
  status : ChannelStatus
  reason : String
  now : ℤ
  deriving DecidableEq

/-- The channel in the memory cache and in the database, and whether its abilities are enabled. -/
structure State where
  (cache db : Channel)
  abilities : Bool

section

variable (s : State) (channel : Channel) (call : Call)

/-- The index of a key; of a key that does not exist, 0. -/
def Channel.keyIndex (usingKey : String) : ℕ :=
  if usingKey ∈ channel.keys then channel.keys.idxOf usingKey else 0

def ChannelInfo.setKeyStatus (info : ChannelInfo) (keyIndex : ℕ) (call : Call) : ChannelInfo :=
  if call.status = .enabled then
    { info with multiKeyStatusList := info.multiKeyStatusList.erase keyIndex }
  else
    { info with
      multiKeyStatusList := info.multiKeyStatusList.insert keyIndex call.status
      multiKeyDisabledReason := info.multiKeyDisabledReason.insert keyIndex call.reason
      multiKeyDisabledTime := info.multiKeyDisabledTime.insert keyIndex call.now }

def handlerMultiKeyUpdate : Channel :=
  if channel.keys = [] then { channel with status := call.status }
  else
    let info := channel.channelInfo.setKeyStatus (channel.keyIndex call.usingKey) call
    if info.multiKeySize ≤ info.multiKeyStatusList.entries.length then
      { channel with
        channelInfo := info, status := .autoDisabled
        statusReason := some "All keys are disabled", statusTime := some call.now }
    else { channel with channelInfo := info }

/-- The part of `UpdateChannelStatus` that works on the cache; nothing if it stops there. -/
def updateCache (cache : Channel) (call : Call) : Option Channel :=
  if cache.channelInfo.isMultiKey then some (handlerMultiKeyUpdate cache call)
  else if cache.status = call.status then none
  else some { cache with status := call.status }

def updateRow : Channel :=
  if channel.channelInfo.isMultiKey then handlerMultiKeyUpdate channel call
  else
    { channel with
      status := call.status, statusReason := some call.reason, statusTime := some call.now }

/-- `UpdateChannelStatus` with the memory cache on, and whether it returns `true`; there is no other
writer. -/
def updateChannelStatus : State × Bool :=
  match updateCache s.cache call with
  | none => (s, false)
  | some cache =>
    if s.db.status = call.status then ({ s with cache := cache }, false)
    else
      let db := updateRow s.db call
      ({ cache := cache
         db := db
         abilities := if db.status = s.db.status then s.abilities else call.status = .enabled },
        true)

def run (calls : List Call) : State := calls.foldl (fun s call => (updateChannelStatus s call).1) s

def Channel.Disabled (i : ℕ) : Prop := i ∈ channel.channelInfo.multiKeyStatusList

def Channel.AllDisabled : Prop := ∀ i < channel.keys.length, channel.Disabled i

end

instance (channel : Channel) (i : ℕ) : Decidable (channel.Disabled i) :=
  inferInstanceAs (Decidable (i ∈ channel.channelInfo.multiKeyStatusList))

instance (channel : Channel) : Decidable channel.AllDisabled :=
  inferInstanceAs (Decidable (∀ i < channel.keys.length, channel.Disabled i))

structure Consistent (s : State) : Prop where
  db : s.db.status = .autoDisabled ↔ s.db.AllDisabled
  cache : s.cache.status = .autoDisabled ↔ s.cache.AllDisabled
  same : ∀ i, s.cache.channelInfo.multiKeyStatusList.lookup i =
    s.db.channelInfo.multiKeyStatusList.lookup i

structure Channel.Fresh (channel : Channel) : Prop where
  keys : channel.keys ≠ []
  isMultiKey : channel.channelInfo.isMultiKey = true
  multiKeySize : channel.channelInfo.multiKeySize = channel.keys.length
  multiKeyStatusList : channel.channelInfo.multiKeyStatusList = ∅
  status : channel.status = .enabled

structure Call.Proper (keys : List String) (call : Call) : Prop where
  mem : call.usingKey ∈ keys
  status : call.status = .enabled ∨ call.status = .autoDisabled

def Reenables (call call' : Call) : Prop :=
  call.status = .autoDisabled ∧ call'.status = .enabled ∧ call'.usingKey = call.usingKey

/-- What holds of both copies as long as no disabled key is enabled. -/
structure Channel.Sound (channel : Channel) : Prop where
  isMultiKey : channel.channelInfo.isMultiKey = true
  multiKeySize : channel.channelInfo.multiKeySize = channel.keys.length
  lt : ∀ i, channel.Disabled i → i < channel.keys.length
  lookup : ∀ i, channel.Disabled i →
    channel.channelInfo.multiKeyStatusList.lookup i = some .autoDisabled
  status : channel.status = .enabled ∨ channel.status = .autoDisabled
  iff : channel.status = .autoDisabled ↔ channel.AllDisabled

/-- A map from numbers below `n` is full if it has `n` entries. -/
theorem le_length_entries_iff {β : ℕ → Type} {m : AList β} {n : ℕ} (hlt : ∀ i ∈ m, i < n) :
    n ≤ m.entries.length ↔ ∀ i < n, i ∈ m := by
  have hlen : m.entries.length = m.keys.length := (List.length_map _).symm
  have hkeys : m.keys.Subperm (List.range n) :=
    m.keys_nodup.subperm fun i hi => List.mem_range.2 (hlt i (AList.mem_keys.2 hi))
  rw [hlen]
  constructor
  · intro hle i hi
    have hperm := hkeys.perm_of_length_le (by rwa [List.length_range])
    exact AList.mem_keys.2 (hperm.mem_iff.2 (List.mem_range.2 hi))
  · intro hall
    have hrange : (List.range n).Subperm m.keys :=
      List.nodup_range.subperm fun i hi => AList.mem_keys.1 (hall i (List.mem_range.1 hi))
    simpa using hrange.length_le

section

variable {channel : Channel} {call : Call}

theorem Channel.Fresh.sound (h : channel.Fresh) : channel.Sound where
  isMultiKey := h.isMultiKey
  multiKeySize := h.multiKeySize
  lt i hi := by
    rw [Disabled, h.multiKeyStatusList] at hi
    exact absurd hi (AList.notMem_empty i)
  lookup i hi := by
    rw [Disabled, h.multiKeyStatusList] at hi
    exact absurd hi (AList.notMem_empty i)
  status := .inl h.status
  iff := by
    rw [h.status]
    refine ⟨fun heq => (by cases heq), fun hall => ?_⟩
    have hfirst := hall 0 (List.length_pos_iff.2 h.keys)
    rw [Disabled, h.multiKeyStatusList] at hfirst
    exact absurd hfirst (AList.notMem_empty 0)

theorem Channel.keyIndex_lt (h : call.usingKey ∈ channel.keys) :
    channel.keyIndex call.usingKey < channel.keys.length := by
  rw [keyIndex, if_pos h]
  exact List.idxOf_lt_length_of_mem h

theorem Channel.Sound.handler_enable (hsound : channel.Sound) (hmem : call.usingKey ∈ channel.keys)
    (hstatus : call.status = .enabled) (hkey : ¬channel.Disabled (channel.keyIndex call.usingKey)) :
    handlerMultiKeyUpdate channel call = channel := by
  have hsame : channel.channelInfo.setKeyStatus (channel.keyIndex call.usingKey) call =
      channel.channelInfo := by
    have herase : channel.channelInfo.multiKeyStatusList.erase (channel.keyIndex call.usingKey) =
        channel.channelInfo.multiKeyStatusList :=
      AList.ext (List.kerase_of_notMem_keys fun h => hkey (AList.mem_keys.2 h))
    rw [ChannelInfo.setKeyStatus, if_pos hstatus, herase]
  unfold handlerMultiKeyUpdate
  rw [if_neg (List.ne_nil_of_mem hmem)]
  rw [hsame, if_neg]
  rw [hsound.multiKeySize, le_length_entries_iff hsound.lt]
  exact fun hall => hkey (hall _ (keyIndex_lt hmem))

theorem handler_keys : (handlerMultiKeyUpdate channel call).keys = channel.keys := by
  unfold handlerMultiKeyUpdate
  dsimp only
  split
  · rfl
  · split
    · rfl
    · rfl

section

variable (hmem : call.usingKey ∈ channel.keys)
include hmem

theorem handler_info : (handlerMultiKeyUpdate channel call).channelInfo =
      channel.channelInfo.setKeyStatus (channel.keyIndex call.usingKey) call := by
  unfold handlerMultiKeyUpdate
  dsimp only
  rw [if_neg (List.ne_nil_of_mem hmem)]
  split
  · rfl
  · rfl

theorem handler_status : (handlerMultiKeyUpdate channel call).status =
      if (channel.channelInfo.setKeyStatus (channel.keyIndex call.usingKey) call).multiKeySize ≤
        (channel.channelInfo.setKeyStatus (channel.keyIndex call.usingKey)
          call).multiKeyStatusList.entries.length
      then .autoDisabled else channel.status := by
  unfold handlerMultiKeyUpdate
  dsimp only
  rw [if_neg (List.ne_nil_of_mem hmem)]
  split
  · rfl
  · rfl

theorem handler_disable_list (hstatus : call.status = .autoDisabled) :
    (handlerMultiKeyUpdate channel call).channelInfo.multiKeyStatusList =
      channel.channelInfo.multiKeyStatusList.insert (channel.keyIndex call.usingKey)
        .autoDisabled := by
  rw [handler_info hmem, ChannelInfo.setKeyStatus, if_neg (by rw [hstatus]; decide), ← hstatus]

theorem handler_enable_list (hstatus : call.status = .enabled) :
    (handlerMultiKeyUpdate channel call).channelInfo.multiKeyStatusList =
      channel.channelInfo.multiKeyStatusList.erase (channel.keyIndex call.usingKey) := by
  rw [handler_info hmem, ChannelInfo.setKeyStatus, if_pos hstatus]

end

theorem handler_size : (handlerMultiKeyUpdate channel call).channelInfo.isMultiKey =
      channel.channelInfo.isMultiKey ∧
    (handlerMultiKeyUpdate channel call).channelInfo.multiKeySize =
      channel.channelInfo.multiKeySize := by
  unfold handlerMultiKeyUpdate ChannelInfo.setKeyStatus
  dsimp only
  split_ifs <;> exact ⟨rfl, rfl⟩

theorem handler_disabled_iff (hmem : call.usingKey ∈ channel.keys)
    (hstatus : call.status = .autoDisabled) (i : ℕ) :
    (handlerMultiKeyUpdate channel call).Disabled i ↔
      i = channel.keyIndex call.usingKey ∨ channel.Disabled i := by
  rw [Channel.Disabled, handler_disable_list hmem hstatus, AList.mem_insert]
  rfl

/-- **A key that is disabled keeps the copy sound.** -/
theorem Channel.Sound.handler_disable (hsound : channel.Sound) (hmem : call.usingKey ∈ channel.keys)
    (hstatus : call.status = .autoDisabled) : (handlerMultiKeyUpdate channel call).Sound := by
  have hlt : ∀ i, (handlerMultiKeyUpdate channel call).Disabled i → i < channel.keys.length := by
    intro i hi
    rcases (handler_disabled_iff hmem hstatus i).1 hi with rfl | hi
    · exact keyIndex_lt hmem
    · exact hsound.lt i hi
  have hfull : (handlerMultiKeyUpdate channel call).status =
      if (handlerMultiKeyUpdate channel call).AllDisabled then .autoDisabled
      else channel.status := by
    rw [handler_status hmem, ← handler_info hmem]
    refine if_congr ?_ rfl rfl
    rw [handler_size.2, hsound.multiKeySize, le_length_entries_iff hlt, AllDisabled, handler_keys]
    rfl
  refine ⟨handler_size.1.trans hsound.isMultiKey, ?_, ?_, fun i hi => ?_, ?_, ?_⟩
  · rw [handler_size.2, handler_keys, hsound.multiKeySize]
  · rw [handler_keys]
    exact hlt
  · rw [handler_disable_list hmem hstatus]
    by_cases hkey : i = channel.keyIndex call.usingKey
    · rw [hkey, AList.lookup_insert]
    · rw [AList.lookup_insert_ne hkey]
      exact hsound.lookup i (((handler_disabled_iff hmem hstatus i).1 hi).resolve_left hkey)
  · rw [hfull]
    split
    · exact .inr rfl
    · exact hsound.status
  · rw [hfull]
    split
    · next hall => exact iff_of_true rfl hall
    · next hall =>
      -- keys that were all disabled are so afterwards
      refine iff_of_false (fun hauto => hall ?_) hall
      intro i hi
      rw [handler_keys] at hi
      exact (handler_disabled_iff hmem hstatus i).2 (.inr (hsound.iff.1 hauto i hi))

end

/-- Both copies are sound and agree on the keys and on their statuses. -/
structure Good (s : State) : Prop where
  cache : s.cache.Sound
  db : s.db.Sound
  keys : s.cache.keys = s.db.keys
  same : ∀ i, s.cache.channelInfo.multiKeyStatusList.lookup i =
    s.db.channelInfo.multiKeyStatusList.lookup i

section

variable {s : State} {call : Call}

theorem Good.consistent (h : Good s) : Consistent s := ⟨h.db.iff, h.cache.iff, h.same⟩

theorem Good.disabled_iff (h : Good s) (i : ℕ) : s.cache.Disabled i ↔ s.db.Disabled i := by
  rw [Channel.Disabled, Channel.Disabled, ← AList.lookup_isSome, ← AList.lookup_isSome, h.same]

theorem Good.keyIndex_eq (h : Good s) (key : String) :
    s.cache.keyIndex key = s.db.keyIndex key := by rw [Channel.keyIndex, Channel.keyIndex, h.keys]

theorem step_eq (call : Call) (hcache : s.cache.channelInfo.isMultiKey = true)
    (hdb : s.db.channelInfo.isMultiKey = true) :
    (updateChannelStatus s call).1.cache = handlerMultiKeyUpdate s.cache call ∧
      (updateChannelStatus s call).1.db =
        if s.db.status = call.status then s.db else handlerMultiKeyUpdate s.db call := by
  unfold updateChannelStatus updateCache updateRow
  rw [hcache]
  simp only [if_true]
  split
  · exact ⟨rfl, rfl⟩
  · exact ⟨rfl, rfl⟩

theorem Good.enable (h : Good s) (hmem : call.usingKey ∈ s.db.keys)
    (hstatus : call.status = .enabled) (hkey : ¬s.db.Disabled (s.db.keyIndex call.usingKey)) :
    (updateChannelStatus s call).1.cache = s.cache ∧ (updateChannelStatus s call).1.db = s.db := by
  obtain ⟨hcache, hdb⟩ := step_eq call h.cache.isMultiKey h.db.isMultiKey
  rw [hcache, hdb]
  constructor
  · refine h.cache.handler_enable (h.keys ▸ hmem) hstatus ?_
    rw [h.keyIndex_eq, h.disabled_iff]
    exact hkey
  · rw [h.db.handler_enable hmem hstatus hkey, ite_self]

theorem Good.disable (h : Good s) (hmem : call.usingKey ∈ s.db.keys)
    (hstatus : call.status = .autoDisabled) :
    Good (updateChannelStatus s call).1 ∧ (updateChannelStatus s call).1.db.keys = s.db.keys ∧
      ∀ i, (updateChannelStatus s call).1.db.Disabled i ↔
        i = s.db.keyIndex call.usingKey ∨ s.db.Disabled i := by
  obtain ⟨hcache, hdb⟩ := step_eq call h.cache.isMultiKey h.db.isMultiKey
  have hmem' : call.usingKey ∈ s.cache.keys := h.keys ▸ hmem
  have hcacheList := handler_disable_list hmem' hstatus
  rw [hstatus] at hdb
  by_cases hauto : s.db.status = .autoDisabled
  · -- every key is disabled, in the cache as well
    rw [if_pos hauto] at hdb
    have hkey := h.db.iff.1 hauto _ (Channel.keyIndex_lt hmem)
    refine ⟨⟨?_, ?_, ?_, fun i => ?_⟩, by rw [hdb], fun i => ?_⟩
    · rw [hcache]
      exact h.cache.handler_disable hmem' hstatus
    · rw [hdb]
      exact h.db
    · rw [hcache, hdb, handler_keys, h.keys]
    · rw [hcache, hdb, hcacheList, h.keyIndex_eq]
      by_cases hi : i = s.db.keyIndex call.usingKey
      · rw [hi, AList.lookup_insert, h.db.lookup _ hkey]
      · rw [AList.lookup_insert_ne hi, h.same]
    · rw [hdb]
      exact ⟨.inr, fun hi => hi.elim (fun hi => hi ▸ hkey) id⟩
  · rw [if_neg hauto] at hdb
    refine ⟨⟨?_, ?_, ?_, fun i => ?_⟩, by rw [hdb, handler_keys], fun i => ?_⟩
    · rw [hcache]
      exact h.cache.handler_disable hmem' hstatus
    · rw [hdb]
      exact h.db.handler_disable hmem hstatus
    · rw [hcache, hdb, handler_keys, handler_keys, h.keys]
    · rw [hcache, hdb, hcacheList, handler_disable_list hmem hstatus, h.keyIndex_eq]
      by_cases hi : i = s.db.keyIndex call.usingKey
      · rw [hi, AList.lookup_insert, AList.lookup_insert]
      · rw [AList.lookup_insert_ne hi, AList.lookup_insert_ne hi, h.same]
    · rw [hdb]
      exact handler_disabled_iff hmem hstatus i

/-- **Enabling a disabled key breaks the consistency at once.** -/
theorem Good.not_consistent (h : Good s) (hmem : call.usingKey ∈ s.db.keys)
    (hstatus : call.status = .enabled) (hkey : s.db.Disabled (s.db.keyIndex call.usingKey)) :
    ¬Consistent (updateChannelStatus s call).1 := by
  intro hconsistent
  obtain ⟨hcache, hdb⟩ := step_eq call h.cache.isMultiKey h.db.isMultiKey
  rw [hstatus] at hdb
  rcases h.db.status with henabled | hauto
  · -- the cache is changed and the database is not
    rw [if_pos henabled] at hdb
    have hsame := hconsistent.same (s.db.keyIndex call.usingKey)
    rw [hcache, hdb, handler_enable_list (h.keys ▸ hmem) hstatus, h.keyIndex_eq,
      AList.lookup_erase, h.db.lookup _ hkey] at hsame
    cases hsame
  · -- the channel stays disabled with an enabled key
    rw [if_neg (by rw [hauto]; decide)] at hdb
    have hstays : (handlerMultiKeyUpdate s.db call).status = .autoDisabled := by
      rw [handler_status hmem]
      split
      · rfl
      · exact hauto
    have hall := hconsistent.db.1 (by rw [hdb]; exact hstays) (s.db.keyIndex call.usingKey)
      (by rw [hdb, handler_keys]; exact Channel.keyIndex_lt hmem)
    rw [hdb, Channel.Disabled, handler_enable_list hmem hstatus, AList.mem_erase] at hall
    exact hall.1 rfl

end

def NoneReenabled (s : State) (calls : List Call) : Prop :=
  (∀ call ∈ calls, call.status = .enabled → ¬s.db.Disabled (s.db.keyIndex call.usingKey)) ∧
    calls.Pairwise fun call call' => ¬Reenables call call'

theorem noneReenabled_cons_disable {s s' : State} {call : Call} {calls : List Call}
    (hkeys : s'.db.keys = s.db.keys) (hproper : ∀ c ∈ call :: calls, Call.Proper s.db.keys c)
    (hstatus : call.status = .autoDisabled)
    (hdisabled : ∀ i, s'.db.Disabled i ↔ i = s.db.keyIndex call.usingKey ∨ s.db.Disabled i) :
    NoneReenabled s (call :: calls) ↔ NoneReenabled s' calls := by
  have hindex : ∀ key, s'.db.keyIndex key = s.db.keyIndex key := fun key => by
    rw [Channel.keyIndex, Channel.keyIndex, hkeys]
  unfold NoneReenabled
  rw [List.pairwise_cons, List.forall_mem_cons, ← and_assoc]
  refine and_congr_left fun _ => ?_
  constructor
  · rintro ⟨⟨-, hbefore⟩, hfirst⟩ call' hcall' henabled
    rw [hindex, hdisabled, not_or]
    refine ⟨fun hsame => hfirst call' hcall' ⟨hstatus, henabled, ?_⟩, hbefore call' hcall' henabled⟩
    have hmem := (hproper call' (List.mem_cons_of_mem _ hcall')).mem
    rw [Channel.keyIndex, Channel.keyIndex, if_pos hmem,
      if_pos (hproper call List.mem_cons_self).mem] at hsame
    exact (List.idxOf_inj hmem).1 hsame
  · intro hafter
    refine ⟨⟨fun henabled => ?_, fun call' hcall' henabled hbefore => ?_⟩, ?_⟩
    · rw [hstatus] at henabled
      cases henabled
    · exact hafter call' hcall' henabled ((hdisabled _).2 (.inr (hindex _ ▸ hbefore)))
    · rintro call' hcall' ⟨-, henabled, hkey⟩
      refine hafter call' hcall' henabled ((hdisabled _).2 (.inl ?_))
      rw [hindex, hkey]

theorem Good.consistent_iff {s : State} (h : Good s) {calls : List Call}
    (hproper : ∀ call ∈ calls, Call.Proper s.db.keys call) :
    (∀ n, Consistent (run s (calls.take n))) ↔ NoneReenabled s calls := by
  induction calls generalizing s with
  | nil =>
    refine iff_of_true (fun n => ?_) ⟨fun call hcall => (by cases hcall), List.Pairwise.nil⟩
    rw [List.take_nil]
    exact h.consistent
  | cons call calls ih =>
    have hmem := (hproper call List.mem_cons_self).mem
    have hrest : (∀ n, Consistent (run s ((call :: calls).take n))) ↔
        ∀ n, Consistent (run (updateChannelStatus s call).1 (calls.take n)) := by
      refine ⟨fun hall n => hall (n + 1), fun hall n => ?_⟩
      cases n with
      | zero => exact h.consistent
      | succ n => exact hall n
    rw [hrest]
    rcases (hproper call List.mem_cons_self).status with hstatus | hstatus
    · by_cases hkey : s.db.Disabled (s.db.keyIndex call.usingKey)
      · refine iff_of_false (fun hall => ?_) fun hnone => ?_
        · exact h.not_consistent hmem hstatus hkey (hall 0)
        · exact hnone.1 call List.mem_cons_self hstatus hkey
      · obtain ⟨hcache, hdb⟩ := h.enable hmem hstatus hkey
        have hgood : Good (updateChannelStatus s call).1 := by
          refine ⟨?_, ?_, ?_, ?_⟩
          · rw [hcache]; exact h.cache
          · rw [hdb]; exact h.db
          · rw [hcache, hdb]; exact h.keys
          · rw [hcache, hdb]; exact h.same
        rw [ih hgood (fun c hc => hdb ▸ hproper c (List.mem_cons_of_mem _ hc))]
        unfold NoneReenabled
        rw [hdb, List.forall_mem_cons, List.pairwise_cons]
        constructor
        · rintro ⟨hbefore, hpairs⟩
          refine ⟨⟨fun _ => hkey, hbefore⟩, ?_, hpairs⟩
          rintro call' - ⟨hauto, -⟩
          rw [hstatus] at hauto
          cases hauto
        · rintro ⟨⟨-, hbefore⟩, -, hpairs⟩
          exact ⟨hbefore, hpairs⟩
    · obtain ⟨hgood, hkeys, hdisabled⟩ := h.disable hmem hstatus
      rw [ih hgood (fun c hc => hkeys ▸ hproper c (List.mem_cons_of_mem _ hc))]
      exact (noneReenabled_cons_disable hkeys hproper hstatus hdisabled).symm

/-- **A channel is disabled exactly when all of its keys are, and the cache agrees with the
database, along calls of which none enables a key that an earlier one has disabled**, and along no
others. -/
theorem consistent_iff_never_reenabled {channel : Channel} (hfresh : channel.Fresh)
    {calls : List Call}
    (hproper : ∀ call ∈ calls, Call.Proper channel.keys call) :
    (∀ n, Consistent (run ⟨channel, channel, true⟩ (calls.take n))) ↔
      calls.Pairwise fun call call' => ¬Reenables call call' := by
  have hsound := hfresh.sound
  have hgood : Good ⟨channel, channel, true⟩ := ⟨hsound, hsound, rfl, fun _ => rfl⟩
  rw [hgood.consistent_iff hproper]
  refine ⟨And.right, fun hpairs => ⟨fun call _ _ hkey => ?_, hpairs⟩⟩
  change _ ∈ channel.channelInfo.multiKeyStatusList at hkey
  rw [hfresh.multiKeyStatusList] at hkey
  exact AList.notMem_empty _ hkey

def twoKeys : Channel where
  keys := ["k1", "k2"]
  status := .enabled
  channelInfo := ⟨true, 2, ∅, ∅, ∅, 0, .polling⟩
  statusReason := none
  statusTime := none

def disableKey (usingKey : String) : Call := ⟨usingKey, .autoDisabled, "invalid key", 0⟩

def enableKey (usingKey : String) : Call := ⟨usingKey, .enabled, "", 0⟩

theorem two_keys_disabled :
    (run ⟨twoKeys, twoKeys, true⟩ [disableKey "k1", disableKey "k2"]).db.status = .autoDisabled ∧
      ∀ n, Consistent (run ⟨twoKeys, twoKeys, true⟩
        ([disableKey "k1", disableKey "k2"].take n)) := by
  refine ⟨by decide +kernel,
    (consistent_iff_never_reenabled ⟨by decide, rfl, rfl, rfl, rfl⟩ ?_).2 ?_⟩
  · intro call hcall
    have hcases : call = disableKey "k1" ∨ call = disableKey "k2" := by simpa using hcall
    rcases hcases with rfl | rfl
    · exact ⟨by decide, .inr rfl⟩
    · exact ⟨by decide, .inr rfl⟩
  · refine List.pairwise_pair.2 ?_
    rintro ⟨-, henabled, -⟩
    cases henabled

def firstKey (s : State) : Option ChannelStatus × Option ChannelStatus × ChannelStatus :=
  (s.cache.channelInfo.multiKeyStatusList.lookup 0, s.db.channelInfo.multiKeyStatusList.lookup 0,
    s.db.status)

/-- After one key is disabled and enabled, the cache and the database differ; after both are
disabled and one is enabled, the channel is still disabled. -/
theorem reenabled_key_inconsistent :
    firstKey (run ⟨twoKeys, twoKeys, true⟩ [disableKey "k1", enableKey "k1"]) =
      (none, some .autoDisabled, .enabled) ∧
    firstKey (run ⟨twoKeys, twoKeys, true⟩ [disableKey "k1", disableKey "k2", enableKey "k1"]) =
      (none, none, .autoDisabled) := by decide +kernel

def Channel.keyStatus (channel : Channel) (i : ℕ) : ChannelStatus :=
  (channel.channelInfo.multiKeyStatusList.lookup i).getD .enabled

/-- The keys equal to the given string get the status, and no others. -/
def SetsKeys (call : Call) (before after : Channel) : Prop :=
  ∀ i, ∀ key ∈ before.keys[i]?,
    after.keyStatus i = if key = call.usingKey then call.status else before.keyStatus i

/-- The string is one of the keys, or the first key has the status already; and so has every key
equal to the string that comes after another such key. -/
structure Channel.Finds (channel : Channel) (call : Call) : Prop where
  absent : call.usingKey ∉ channel.keys → channel.keys ≠ [] → channel.keyStatus 0 = call.status
  repeated : ∀ i j, i < j → call.usingKey ∈ channel.keys[i]? → call.usingKey ∈ channel.keys[j]? →
    channel.keyStatus j = call.status

section

variable {channel : Channel} {call : Call} {s : State}

theorem setKeyStatus_lookup (info : ChannelInfo) (keyIndex i : ℕ) :
    ((info.setKeyStatus keyIndex call).multiKeyStatusList.lookup i).getD .enabled =
      if i = keyIndex then call.status
      else (info.multiKeyStatusList.lookup i).getD .enabled := by
  unfold ChannelInfo.setKeyStatus
  by_cases hi : i = keyIndex
  · subst hi
    split
    · next henabled => simp [henabled]
    · simp
  · rw [if_neg hi]
    split
    · simp [AList.lookup_erase_ne hi]
    · simp [AList.lookup_insert_ne hi]

theorem Channel.keys_keyIndex (h : call.usingKey ∈ channel.keys) :
    call.usingKey ∈ channel.keys[channel.keyIndex call.usingKey]? := by
  rw [keyIndex, if_pos h]
  exact List.getElem?_idxOf h

/-- The search ends at the first key that is equal to the string. -/
theorem Channel.keyIndex_le {i : ℕ} (h : call.usingKey ∈ channel.keys[i]?) :
    channel.keyIndex call.usingKey ≤ i := by
  obtain ⟨hi, hkey⟩ := List.getElem?_eq_some_iff.1 h
  rw [keyIndex, if_pos (hkey ▸ List.getElem_mem hi)]
  by_contra! hlt
  have hother := List.not_of_lt_findIdx hlt
  rw [hkey, beq_self_eq_true] at hother
  cases hother

/-- The index taken for the string is that of every key equal to it and of no other, up to keys that
have the status already. -/
theorem finds_iff (hkeys : channel.keys ≠ []) : channel.Finds call ↔
    ∀ i, ∀ key ∈ channel.keys[i]?, (i = channel.keyIndex call.usingKey ↔ key = call.usingKey) ∨
      channel.keyStatus i = call.status := by
  constructor
  · intro h i key hkey
    by_cases hmem : call.usingKey ∈ channel.keys
    · have hfound := Channel.keys_keyIndex hmem
      by_cases heq : key = call.usingKey
      · subst heq
        rcases (Channel.keyIndex_le hkey).eq_or_lt with hi | hi
        · exact .inl (iff_of_true hi.symm rfl)
        · exact .inr (h.repeated _ i hi hfound hkey)
      · refine .inl (iff_of_false (fun hi => heq ?_) heq)
        exact Option.mem_unique hkey (hi ▸ hfound)
    · have hne : key ≠ call.usingKey := fun heq => hmem (heq ▸ List.mem_of_getElem? hkey)
      rw [Channel.keyIndex, if_neg hmem]
      rcases i.eq_zero_or_pos with rfl | hi
      · exact .inr (h.absent hmem hkeys)
      · exact .inl (iff_of_false hi.ne' hne)
  · intro h
    refine ⟨fun habsent _ => ?_, fun i j hij hi hj => ?_⟩
    · have hfirst := List.getElem?_eq_getElem (List.length_pos_iff.2 hkeys)
      rcases h 0 _ hfirst with hiff | hstatus
      · rw [Channel.keyIndex, if_neg habsent] at hiff
        exact absurd (hiff.1 rfl ▸ List.getElem_mem _) habsent
      · exact hstatus
    · rcases h j _ hj with hiff | hstatus
      · have := Channel.keyIndex_le hi
        have := hiff.2 rfl
        omega
      · exact hstatus

theorem setsKeys_handler_iff :
    SetsKeys call channel (handlerMultiKeyUpdate channel call) ↔ channel.Finds call := by
  by_cases hkeys : channel.keys = []
  · refine iff_of_true ?_ ⟨fun _ h => absurd hkeys h, ?_⟩ <;> simp [SetsKeys, hkeys]
  have hstatus : ∀ i, (handlerMultiKeyUpdate channel call).keyStatus i =
      if i = channel.keyIndex call.usingKey then call.status else channel.keyStatus i := by
    intro i
    rw [Channel.keyStatus, Channel.keyStatus, ← setKeyStatus_lookup]
    unfold handlerMultiKeyUpdate
    rw [if_neg hkeys]
    dsimp only
    split <;> rfl
  rw [finds_iff hkeys]
  refine forall_congr' fun i => forall₂_congr fun key _ => ?_
  rw [hstatus]
  by_cases hindex : i = channel.keyIndex call.usingKey <;> by_cases hkey : key = call.usingKey <;>
    simp [hindex, hkey, eq_comm]

/-- **A call changes the statuses of the keys equal to its string and of no others exactly if it
finds them**, in the cache, and in the database where it changes the row at all. -/
theorem setsKeys_iff (hcache : s.cache.channelInfo.isMultiKey = true)
    (hdb : s.db.channelInfo.isMultiKey = true) :
    SetsKeys call s.cache (updateChannelStatus s call).1.cache ∧
        SetsKeys call s.db (updateChannelStatus s call).1.db ↔
      s.cache.Finds call ∧ if s.db.status = call.status
        then ∀ i, call.usingKey ∈ s.db.keys[i]? → s.db.keyStatus i = call.status
        else s.db.Finds call := by
  obtain ⟨hcache, hdb⟩ := step_eq call hcache hdb
  rw [hcache, hdb, setsKeys_handler_iff]
  refine and_congr_right fun _ => ?_
  split
  · refine forall_congr' fun i => ⟨fun h hkey => ?_, fun h key hkey => ?_⟩
    · simpa using h _ hkey
    · split
      · next heq => exact h (heq ▸ hkey)
      · rfl
  · exact setsKeys_handler_iff

end

theorem setsKeys_sample :
    let s : State := ⟨twoKeys, twoKeys, true⟩
    SetsKeys (disableKey "k2") s.db (updateChannelStatus s (disableKey "k2")).1.db ∧
      (updateChannelStatus s (disableKey "k2")).1.db.keyStatus 1 = .autoDisabled := by
  have hfinds : twoKeys.Finds (disableKey "k2") := by
    refine ⟨fun h => absurd h (by decide), fun i j hij hi hj => ?_⟩
    have hlen : j < 2 := (List.getElem?_eq_some_iff.1 hj).1
    obtain ⟨rfl, rfl⟩ : i = 0 ∧ j = 1 := by omega
    exact absurd hi (by decide)
  exact ⟨((setsKeys_iff (s := ⟨twoKeys, twoKeys, true⟩) rfl rfl).2 ⟨hfinds, hfinds⟩).2,
    by decide +kernel⟩

/-- A string that is not among the keys disables the first one. -/
theorem absent_key_disables_first :
    let s := (updateChannelStatus ⟨twoKeys, twoKeys, true⟩ (disableKey "k3")).1
    "k3" ∉ twoKeys.keys ∧ twoKeys.keyStatus 0 = .enabled ∧
      s.cache.keyStatus 0 = .autoDisabled ∧ s.db.keyStatus 0 = .autoDisabled := by decide +kernel

end Mujian.Channels
