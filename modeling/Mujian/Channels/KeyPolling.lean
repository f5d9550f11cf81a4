import Mujian.Channels.KeyStatus
import Mujian.Foundations.Protocols

/-!
# Choosing a key while keys are disabled

Without a memory cache, `getNextEnabledKey` in polling mode stores the whole channel info that it
was given, and `updateChannelStatus` the one that it has read with one key changed. What another one
has stored in between is lost (`stale_info_enables_key`), unless the key statuses are still those
that were read. Then only a call for a string that is no key enables a key that it does not name
(`disabled_until_enabled`).
-/

namespace Mujian.Channels.Polling

open Relay (ChannelStatus)
open Protocols (Prog System)

/-- A statement on the row of the channel. The writes carry what was read, of which the statements
only use a part. -/
inductive KeyOp
  | getChannelById
  | saveChannelInfo (read : ChannelInfo) (multiKeyPollingIndex : ℤ)
  | persistChannelStatusTransition (read : Channel) (call : Call)
  | updateAbilityStatus (enabled : Bool)

structure Store where
  row : Channel
  abilities : Bool

namespace KeyOp

/-- What a statement returns: the row if it was read, otherwise whether it has written. -/
abbrev Result : KeyOp → Type
  | getChannelById => Option Channel
  | saveChannelInfo _ _ | persistChannelStatusTransition _ _ | updateAbilityStatus _ => Bool

/-- The columns that `persistChannelStatusTransition` writes. -/
def transition (row channel : Channel) : Channel :=
  { row with
    status := channel.status, statusReason := channel.statusReason
    statusTime := channel.statusTime
    channelInfo := if channel.channelInfo.isMultiKey then channel.channelInfo else row.channelInfo }

/-- A statement may fail. -/
def exec : (o : KeyOp) → Bool → Store → Store × Result o
  | getChannelById, succeeds, s => (s, if succeeds then some s.row else none)
  | saveChannelInfo read multiKeyPollingIndex, succeeds, s =>
    if succeeds then
      ({ s with row := { s.row with
          channelInfo := { read with multiKeyPollingIndex := multiKeyPollingIndex } } }, true)
    else (s, false)
  | persistChannelStatusTransition read call, succeeds, s =>
    if succeeds ∧ s.row.status = read.status then
      ({ s with row := transition s.row (updateRow read call) }, true)
    else (s, false)
  | updateAbilityStatus enabled, succeeds, s =>
    (if succeeds then { s with abilities := enabled } else s, succeeds)

end KeyOp

abbrev KeyProg (α : Type) := Prog KeyOp.Result α

abbrev ask (o : KeyOp) : KeyProg o.Result := Prog.perform o

def getStatus (info : ChannelInfo) (idx : ℕ) : ChannelStatus :=
  (info.multiKeyStatusList.lookup idx).getD .enabled

section

variable (channel : Channel) (key : String) (draw : ℕ)

/-- The enabled key at or after the polling index, in a circle. -/
def nextIdx (start : ℕ) : Option ℕ :=
  ((List.range channel.keys.length).map fun i => (start + i) % channel.keys.length).find? fun idx =>
    getStatus channel.channelInfo idx = .enabled

/-- `GetNextEnabledKey` in polling mode, of a channel with an enabled key. -/
def pollKey (first : ℕ) : KeyProg (Except String (String × ℕ)) := do
  match ← ask .getChannelById with
  | none => return .error "get channel failed"
  | some current =>
    let index := current.channelInfo.multiKeyPollingIndex
    let start := if index < 0 ∨ index ≥ channel.keys.length then 0 else index.toNat
    match nextIdx channel start with
    | some idx =>
      let _ ← ask (.saveChannelInfo channel.channelInfo ((idx + 1) % channel.keys.length : ℕ))
      return .ok (channel.keys.getD idx "", idx)
    | none =>
      let _ ← ask (.saveChannelInfo channel.channelInfo channel.channelInfo.multiKeyPollingIndex)
      return .ok (channel.keys.getD first "", first)

/-- `GetNextEnabledKey`; the draw is that of the random mode. -/
def getNextEnabledKey : KeyProg (Except String (String × ℕ)) :=
  if channel.channelInfo.isMultiKey = false then pure (.ok (key, 0))
  else if channel.keys = [] then pure (.error "no keys available")
  else
    match (List.range channel.keys.length).filter fun i =>
      getStatus channel.channelInfo i = .enabled with
    | [] => pure (.error "no enabled keys")
    | first :: rest =>
      match channel.channelInfo.multiKeyMode with
      | .random =>
        let idx := (first :: rest).getD (draw % (rest.length + 1)) first
        pure (.ok (channel.keys.getD idx "", idx))
      | .polling => pollKey channel first
      | .other => pure (.ok (channel.keys.getD first "", first))

def chooseKey : KeyProg Bool := do
  match ← ask .getChannelById with
  | none => return false
  | some channel =>
    match ← getNextEnabledKey channel key draw with
    | .error _ => return false
    | .ok _ => return true

end

/-- `UpdateChannelStatus` without a memory cache. -/
def updateStatus (call : Call) : KeyProg Bool := do
  match ← ask .getChannelById with
  | none => return false
  | some channel =>
    if channel.status = call.status then return false
    else
      let updated ← ask (.persistChannelStatusTransition channel call)
      if updated then
        if (updateRow channel call).status = channel.status then return true
        else
          let _ ← ask (.updateAbilityStatus (call.status = .enabled))
          return true
      else return false

inductive Request
  | choose (key : String) (draw : ℕ)
  | update (call : Call)

def Request.program : Request → KeyProg Bool
  | choose key draw => chooseKey key draw
  | update call => updateStatus call

def SameStatuses (s : Store) (info : ChannelInfo) : Prop :=
  s.row.channelInfo.multiKeyStatusList.entries = info.multiKeyStatusList.entries

/-- A write is made while the statuses of the keys are those that were read, and a call enables only
what is a key of the channel. -/
def UpToDate (s : Store) : KeyOp → Prop
  | .saveChannelInfo read _ => SameStatuses s read
  | .persistChannelStatusTransition read call => SameStatuses s read.channelInfo ∧
    (call.status = .enabled → call.usingKey ∈ read.keys)
  | _ => True

def KeyDisabled (s : Store) (i : ℕ) : Prop :=
  ∃ status ∈ s.row.channelInfo.multiKeyStatusList.lookup i, status ≠ .enabled

/-- The statement belongs to a call that enables the string which is the key at `i`. -/
def Enables (o : KeyOp) (i : ℕ) : Prop :=
  match o with
  | .persistChannelStatusTransition read call =>
    call.status = .enabled ∧ call.usingKey ∈ read.keys[i]?
  | _ => False

def KeepsDisabled (o : KeyOp) (s s' : Store) : Prop :=
  ∀ i, KeyDisabled s i → KeyDisabled s' i ∨ Enables o i

theorem lookup_updateRow {channel : Channel} (call : Call) {i : ℕ} {status : ChannelStatus}
    (hlookup : channel.channelInfo.multiKeyStatusList.lookup i = some status)
    (hstatus : status ≠ .enabled) :
    (∃ status' ∈ (updateRow channel call).channelInfo.multiKeyStatusList.lookup i,
      status' ≠ .enabled) ∨ (call.status = .enabled ∧ i = channel.keyIndex call.usingKey) := by
  have hset : (∃ status' ∈ (channel.channelInfo.setKeyStatus (channel.keyIndex call.usingKey)
      call).multiKeyStatusList.lookup i, status' ≠ .enabled) ∨
      (call.status = .enabled ∧ i = channel.keyIndex call.usingKey) := by
    unfold ChannelInfo.setKeyStatus
    by_cases hkey : i = channel.keyIndex call.usingKey
    · split
      · next henabled => exact .inr ⟨henabled, hkey⟩
      · next hdisabled =>
        refine .inl ⟨call.status, ?_, hdisabled⟩
        rw [hkey]
        exact AList.lookup_insert _
    · refine .inl ⟨status, ?_, hstatus⟩
      split
      · exact (AList.lookup_erase_ne hkey).trans hlookup
      · exact (AList.lookup_insert_ne hkey).trans hlookup
  unfold updateRow handlerMultiKeyUpdate
  dsimp only
  split
  · split
    · exact .inl ⟨status, hlookup, hstatus⟩
    · split
      · exact hset
      · exact hset
  · exact .inl ⟨status, hlookup, hstatus⟩

theorem lookup_of_sameStatuses {s : Store} {info : ChannelInfo} (h : SameStatuses s info) (i : ℕ) :
    info.multiKeyStatusList.lookup i = s.row.channelInfo.multiKeyStatusList.lookup i :=
  congrArg (AList.lookup i) (AList.ext h.symm)

/-- **A statement that is up to date keeps disabled keys disabled.** -/
theorem keepsDisabled_exec {s : Store} {o : KeyOp} {succeeds : Bool} (h : UpToDate s o) :
    KeepsDisabled o s (o.exec succeeds s).1 := by
  rintro i ⟨status, hlookup, hstatus⟩
  cases o with
  | getChannelById => exact .inl ⟨status, hlookup, hstatus⟩
  | saveChannelInfo read index =>
    simp only [KeyOp.exec]
    split
    · exact .inl ⟨status, (lookup_of_sameStatuses h i).trans hlookup, hstatus⟩
    · exact .inl ⟨status, hlookup, hstatus⟩
  | persistChannelStatusTransition read call =>
    simp only [KeyOp.exec]
    split
    · have hread := (lookup_of_sameStatuses h.1 i).trans hlookup
      rcases lookup_updateRow call hread hstatus with hdisabled | ⟨henabled, rfl⟩
      · refine .inl ?_
        unfold KeyDisabled KeyOp.transition
        split
        · exact hdisabled
        · exact ⟨status, hlookup, hstatus⟩
      · exact .inr ⟨henabled, Channel.keys_keyIndex (h.2 henabled)⟩
    · exact .inl ⟨status, hlookup, hstatus⟩
  | updateAbilityStatus enabled =>
    simp only [KeyOp.exec]
    split
    · exact .inl ⟨status, hlookup, hstatus⟩
    · exact .inl ⟨status, hlookup, hstatus⟩

/-- The processes at their beginning. -/
def begin {ι : Type} (s : Store) (request : ι → Request) : System ι Store KeyOp.Result Bool :=
  System.start s fun i => (request i).program

/-- **Disabled keys stay disabled**: in a run whose writes are all up to date, every statement keeps
a disabled key disabled, except that of a call that enables it. -/
theorem disabled_until_enabled {ι : Type} [DecidableEq ι] (s : Store) (request : ι → Request)
    (es : List (ι × Bool))
    (hcurrent : System.Meets KeyOp.exec (fun w _ o _ => UpToDate w.state o) (begin s request) es) :
    System.Meets KeyOp.exec (fun w _ o succeeds => KeepsDisabled o w.state
      (o.exec succeeds w.state).1) (begin s request) es :=
  System.Meets.mono (fun _ _ _ _ h => keepsDisabled_exec h) hcurrent

instance (s : Store) (o : KeyOp) : Decidable (UpToDate s o) :=
  match o with
  | .getChannelById => .isTrue trivial
  | .saveChannelInfo read _ => inferInstanceAs (Decidable
      (s.row.channelInfo.multiKeyStatusList.entries = read.multiKeyStatusList.entries))
  | .persistChannelStatusTransition read call => inferInstanceAs (Decidable
      (s.row.channelInfo.multiKeyStatusList.entries =
        read.channelInfo.multiKeyStatusList.entries ∧ (_ → call.usingKey ∈ read.keys)))
  | .updateAbilityStatus _ => .isTrue trivial

inductive Actor
  | chooser | first | second
  deriving DecidableEq

def actorRequest : Actor → Request
  | .chooser => .choose "" 0
  | .first => .update (disableKey "k1")
  | .second => .update (disableKey "k2")

def statuses (w : System Actor Store KeyOp.Result Bool) : List ChannelStatus :=
  [getStatus w.state.row.channelInfo 0, getStatus w.state.row.channelInfo 1]

/-- The first key is disabled before the request reads and stores the channel. -/
theorem disabled_until_enabled_sample :
    let es := [(Actor.first, true), (.first, true), (.chooser, true), (.chooser, true),
      (.chooser, true), (.second, true), (.second, true)]
    statuses ((begin ⟨twoKeys, true⟩ actorRequest).run KeyOp.exec es) =
        [.autoDisabled, .autoDisabled] ∧
      System.Meets KeyOp.exec (fun w _ o succeeds => KeepsDisabled o w.state
        (o.exec succeeds w.state).1) (begin ⟨twoKeys, true⟩ actorRequest) es :=
  ⟨by decide +kernel, disabled_until_enabled _ _ _ (by decide +kernel)⟩

/-- A request stores what it has read before the first key was disabled. Of two calls that disable
one key each, the second one stores the first key as it was. -/
theorem stale_info_enables_key :
    statuses ((begin ⟨twoKeys, true⟩ actorRequest).run KeyOp.exec
      [(.chooser, true), (.first, true), (.first, true)]) = [.autoDisabled, .enabled] ∧
    statuses ((begin ⟨twoKeys, true⟩ actorRequest).run KeyOp.exec
      [(.chooser, true), (.first, true), (.first, true), (.chooser, true), (.chooser, true)]) =
        [.enabled, .enabled] ∧
    statuses ((begin ⟨twoKeys, true⟩ actorRequest).run KeyOp.exec
      [(.first, true), (.second, true), (.first, true), (.second, true)]) =
        [.enabled, .autoDisabled] := by decide +kernel

end Mujian.Channels.Polling
