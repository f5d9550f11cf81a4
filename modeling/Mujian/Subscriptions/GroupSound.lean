import Mujian.Subscriptions.Groups

/-!
# The group of one user, from call to call

`GroupSound` says of one user how the group and the subscriptions agree as long as upgrades do not
overlap. Purchases, cancellations, deletions and expiries keep it, and after an expiry the user is
in the first group unless an upgrade is active.
-/

namespace Mujian.Subscriptions

def UserSubscription.Upgrades (userId : ℤ) (r : UserSubscription) : Prop :=
  r.userId = userId ∧ r.upgradeGroup ≠ ""

def UserSubscription.Notes (base : String) (r : UserSubscription) : Prop :=
  trimSpace r.upgradeGroup = r.upgradeGroup ∧
    r.prevUserGroup = if r.upgradeGroup = base then "" else base

/-- At most one upgrade of the user is active, and the user is in its group or already back in the
first one; else the user is in the first group. An active upgrade ends after all those that have
expired. -/
structure GroupSound (userId : ℤ) (base : String) (now : ℤ) (s : Store) : Prop where
  known : (s.users.find? userId).isSome = true
  notes : ∀ r ∈ s.subs.rows, r.Upgrades userId → r.Notes base
  unique : ∀ r ∈ s.subs.rows, ∀ r' ∈ s.subs.rows, r.Upgrades userId → r'.Upgrades userId →
    r.status = .active → r'.status = .active → r = r'
  idle : (∀ r ∈ s.subs.rows, r.Upgrades userId → r.status ≠ .active) → s.groupOf userId = base
  busy : ∀ r ∈ s.subs.rows, r.Upgrades userId → r.status = .active →
    s.groupOf userId = r.upgradeGroup ∨ s.groupOf userId = base
  later : ∀ r ∈ s.subs.rows, r.Upgrades userId → r.status = .active → 0 < r.endTime ∧
    ∀ r' ∈ s.subs.rows, r'.Upgrades userId → r'.status = .expired → r'.endTime < r.endTime
  past : ∀ r ∈ s.subs.rows, r.Upgrades userId → r.status = .expired → r.endTime ≤ now

/-- A group that can be noted and restored. -/
def Restorable (base : String) : Prop := base ≠ "" ∧ trimSpace base = base

instance (base : String) : Decidable (Restorable base) := inferInstanceAs (Decidable (_ ∧ _))

theorem trimSpace_empty : trimSpace "" = "" := by decide

variable {r : UserSubscription}

theorem UserSubscription.Notes.trim {base : String} (hbase : Restorable base) (h : r.Notes base) :
    trimSpace r.prevUserGroup = if r.upgradeGroup = base then "" else base := by
  rw [h.2]
  split
  · exact trimSpace_empty
  · exact hbase.2

namespace GroupSound

variable {userId : ℤ} {base : String} {now : ℤ} {s s' : Store}

section

variable (h : GroupSound userId base now s)
include h

theorem mono {now' : ℤ} (hle : now ≤ now') : GroupSound userId base now' s :=
  { h with past := fun r hr hup hexp => (h.past r hr hup hexp).trans hle }

theorem congr (hknown : (s'.users.find? userId).isSome = (s.users.find? userId).isSome)
    (hgroup : s'.groupOf userId = s.groupOf userId)
    (hrows : ∀ r, r.Upgrades userId → (r ∈ s'.subs.rows ↔ r ∈ s.subs.rows)) :
    GroupSound userId base now s' where
  known := hknown.trans h.known
  notes r hr hup := h.notes r ((hrows r hup).1 hr) hup
  unique r hr r' hr' hup hup' := h.unique r ((hrows r hup).1 hr) r' ((hrows r' hup').1 hr') hup hup'
  idle hidle := hgroup.trans (h.idle fun r hr hup => hidle r ((hrows r hup).2 hr) hup)
  busy r hr hup hact := by
    rw [hgroup]
    exact h.busy r ((hrows r hup).1 hr) hup hact
  later r hr hup hact := by
    obtain ⟨hpos, hlt⟩ := h.later r ((hrows r hup).1 hr) hup hact
    exact ⟨hpos, fun r' hr' hup' => hlt r' ((hrows r' hup').1 hr') hup'⟩
  past r hr hup := h.past r ((hrows r hup).1 hr) hup

/-- A change of other tables. -/
theorem of_eq (husers : s'.users = s.users)
    (hsubs : s'.subs = s.subs) : GroupSound userId base now s' :=
  h.congr (by rw [husers]) (by rw [Store.groupOf, husers, Store.groupOf])
    fun _ _ => by rw [hsubs]

theorem setGroup_of_ne {id : ℤ} (hne : userId ≠ id)
    (group : String) : GroupSound userId base now (s.setGroup id group) :=
  h.congr (s.isSome_find?_setGroup id group userId) (s.groupOf_setGroup_of_ne id group hne)
    fun _ _ => Iff.rfl

end

/-! ### Purchases -/

section

variable (h : GroupSound userId base now s)
include h

variable {new : NewSubscription}

theorem create_of_not_upgrades (hnew : ¬(new.userId = userId ∧ new.upgradeGroup ≠ "")) :
    GroupSound userId base now (s.createSubscription new) := by
  refine h.congr rfl rfl fun r hup => ⟨fun hr => ?_, List.mem_cons_of_mem _⟩
  rcases List.mem_cons.1 hr with rfl | hr
  · exact absurd hup hnew
  · exact hr

theorem create_upgrade (hidle : ∀ r ∈ s.subs.rows, r.Upgrades userId → r.status ≠ .active)
    (hnew : new.userId = userId ∧ new.upgradeGroup ≠ "")
    (hnotes : trimSpace new.upgradeGroup = new.upgradeGroup ∧
      new.prevUserGroup = if new.upgradeGroup = base then "" else base)
    (hend : 0 < new.endTime ∧ now < new.endTime) {group : String}
    (hknown : (s'.users.find? userId).isSome = true) (hgroup : s'.groupOf userId = group)
    (hsubs : s'.subs = s.subs) (hin : group = new.upgradeGroup) :
    GroupSound userId base now (s'.createSubscription new) := by
  have hrows : (s'.createSubscription new).subs.rows =
      new.row s'.subs.nextId s'.subs.nextId_pos :: s.subs.rows := by
    rw [← hsubs]
    rfl
  have hactive : ∀ r ∈ (s'.createSubscription new).subs.rows, r.Upgrades userId →
      r.status = .active → r = new.row s'.subs.nextId s'.subs.nextId_pos := by
    intro r hr hup hact
    rw [hrows] at hr
    rcases List.mem_cons.1 hr with rfl | hr
    · rfl
    · exact absurd hact (hidle r hr hup)
  have hexpired : ∀ r ∈ (s'.createSubscription new).subs.rows, r.Upgrades userId →
      r.status = .expired → r.endTime ≤ now := by
    intro r hr hup hexp
    rw [hrows] at hr
    rcases List.mem_cons.1 hr with rfl | hr
    · cases hexp
    · exact h.past r hr hup hexp
  exact
    { known := hknown
      notes := fun r hr hup => by
        rw [hrows] at hr
        rcases List.mem_cons.1 hr with rfl | hr
        · exact hnotes
        · exact h.notes r hr hup
      unique := fun r hr r' hr' hup hup' hact hact' =>
        (hactive r hr hup hact).trans (hactive r' hr' hup' hact').symm
      idle := fun hnone => by
        refine absurd rfl (hnone (new.row s'.subs.nextId s'.subs.nextId_pos) ?_ hnew)
        exact List.mem_cons_self
      busy := fun r hr hup hact => by
        rw [hactive r hr hup hact]
        exact .inl (hgroup.trans hin)
      later := fun r hr hup hact => by
        rw [hactive r hr hup hact]
        exact ⟨hend.1, fun r' hr' hup' hexp => (hexpired r' hr' hup' hexp).trans_lt hend.2⟩
      past := hexpired }

/-- A purchase; one of an upgrade only when none is active, and for some time. -/
theorem purchased {env : Env} {id : ℤ} {plan : SubscriptionPlan} {source : String} {endUnix : ℤ}
    (hcond : id = userId → trimSpace plan.upgradeGroup ≠ "" →
      (∀ r ∈ s.subs.rows, r.Upgrades userId → r.status ≠ .active) ∧ 0 < endUnix ∧ now < endUnix) :
    GroupSound userId base now (s.purchased env now id plan source endUnix) := by
  unfold Store.purchased
  by_cases hup : id = userId ∧ trimSpace plan.upgradeGroup ≠ ""
  · obtain ⟨rfl, hgroup⟩ := hup
    obtain ⟨hidle, hend⟩ := hcond rfl hgroup
    have hbase := h.idle hidle
    have htrim := trimSpace_trimSpace plan.upgradeGroup
    simp only [hbase]
    by_cases hsame : base = trimSpace plan.upgradeGroup
    · rw [if_pos (.inr hsame)]
      exact h.create_upgrade hidle ⟨rfl, hgroup⟩ ⟨htrim, by simp [newSubscription, hsame]⟩ hend
        h.known hbase rfl hsame
    · rw [if_neg (not_or.2 ⟨hgroup, hsame⟩)]
      refine h.create_upgrade hidle ⟨rfl, hgroup⟩
        ⟨htrim, by simp [newSubscription, Ne.symm hsame]⟩ hend ?_
        (s.groupOf_setGroup_self id _ h.known) rfl rfl
      rw [s.isSome_find?_setGroup]
      exact h.known
  · simp only
    split
    · exact h.create_of_not_upgrades hup
    · rename_i hne
      -- an upgrade, so it is one of another user
      have hid : userId ≠ id := fun heq => hup ⟨heq.symm, fun hempty => hne (.inl hempty)⟩
      exact (h.setGroup_of_ne hid _).create_of_not_upgrades hup

end

/-! ### Cancellations and deletions -/

/-- A subscription that stops being active moves the user to the first group if it was the active
upgrade. -/
theorem demoted (h : GroupSound userId base now s) {sub : UserSubscription}
    (hsub : sub ∈ s.subs.rows) (hknown : (s'.users.find? userId).isSome = true)
    (hkeep : ∀ r ∈ s.subs.rows, r.id ≠ sub.id → r ∈ s'.subs.rows)
    (hfrom : ∀ r ∈ s'.subs.rows, r.Upgrades userId → r.status ≠ .cancelled →
      r ∈ s.subs.rows ∧ r.id ≠ sub.id)
    (hnotes : ∀ r ∈ s'.subs.rows, r.Upgrades userId → r.Notes base)
    (hgroup : s'.groupOf userId = s.groupOf userId ∨ s'.groupOf userId = base)
    (hdown : sub.Upgrades userId → sub.status = .active → s'.groupOf userId = base) :
    GroupSound userId base now s' := by
  have hactive : ∀ r ∈ s'.subs.rows, r.Upgrades userId → r.status = .active → r ∈ s.subs.rows := by
    intro r hr hup hact
    exact (hfrom r hr hup (by rw [hact]; decide)).1
  have hexpired : ∀ r ∈ s'.subs.rows, r.Upgrades userId → r.status = .expired →
      r ∈ s.subs.rows := by
    intro r hr hup hexp
    exact (hfrom r hr hup (by rw [hexp]; decide)).1
  refine ⟨hknown, hnotes, ?_, fun hidle => ?_, fun r hr hup hact => ?_, fun r hr hup hact => ?_, ?_⟩
  · intro r hr r' hr' hup hup' hact hact'
    exact h.unique r (hactive r hr hup hact) r' (hactive r' hr' hup' hact') hup hup' hact hact'
  · by_cases hother : ∀ r ∈ s.subs.rows, r.Upgrades userId → r.status ≠ .active
    · exact hgroup.elim (fun heq => heq.trans (h.idle hother)) id
    · -- the active upgrade is the one that stopped
      push Not at hother
      obtain ⟨r, hr, hup, hact⟩ := hother
      by_cases hid : r.id = sub.id
      · obtain rfl : r = sub := s.subs.eq_of_key_eq hr hsub hid
        exact hdown hup hact
      · exact absurd hact (hidle r (hkeep r hr hid) hup)
  · have hbusy := h.busy r (hactive r hr hup hact) hup hact
    rcases hgroup with heq | heq
    · rwa [heq]
    · exact .inr heq
  · obtain ⟨hpos, hlt⟩ := h.later r (hactive r hr hup hact) hup hact
    exact ⟨hpos, fun r' hr' hup' hexp => hlt r' (hexpired r' hr' hup' hexp) hup' hexp⟩
  · exact fun r hr hup hexp => h.past r (hexpired r hr hup hexp) hup hexp

end GroupSound

namespace Store

variable {userId : ℤ} {base : String} {s : Store} {sub : UserSubscription} {now : ℤ}

theorem downgraded_subs (s : Store) (sub : UserSubscription) (now : ℤ) :
    (s.downgraded sub now).subs = s.subs := by
  unfold downgraded
  split <;> rfl

theorem isSome_find?_downgraded (s : Store) (sub : UserSubscription) (now id : ℤ) :
    ((s.downgraded sub now).users.find? id).isSome = (s.users.find? id).isSome := by
  unfold downgraded
  split
  · exact s.isSome_find?_setGroup _ _ id
  · rfl

/-- A downgrade leaves the user where they are, or moves them to the first group. -/
theorem groupOf_downgraded (hbase : Restorable base) (hknown : (s.users.find? userId).isSome = true)
    (hnotes : sub.Upgrades userId → sub.Notes base) :
    (s.downgraded sub now).groupOf userId = s.groupOf userId ∨
      (s.downgraded sub now).groupOf userId = base := by
  unfold downgraded
  split
  · rename_i hfire
    by_cases hid : userId = sub.userId
    · subst hid
      have hup : sub.Upgrades sub.userId := by
        refine ⟨rfl, fun hempty => hfire.1 ?_⟩
        rw [hempty, trimSpace_empty]
      have hprev := (hnotes hup).trim hbase
      rw [s.groupOf_setGroup_self _ _ hknown]
      split at hprev
      · exact absurd hprev hfire.2.2.2.1
      · exact .inr hprev
    · exact .inl (s.groupOf_setGroup_of_ne _ _ hid)
  · exact .inl rfl

theorem groupOf_downgraded_of_unique (hbase : Restorable base)
    (hknown : (s.users.find? userId).isSome = true) (hup : sub.Upgrades userId)
    (hnotes : sub.Notes base)
    (hgroup : s.groupOf userId = sub.upgradeGroup ∨ s.groupOf userId = base)
    (hother : ∀ r ∈ s.subs.rows, r.Upgrades userId → r.status = .active → r.id = sub.id) :
    (s.downgraded sub now).groupOf userId = base := by
  by_cases hat : s.groupOf userId = base
  · exact (groupOf_downgraded hbase hknown fun _ => hnotes).elim (fun heq => heq.trans hat) id
  · have hcurrent := hgroup.resolve_right hat
    have hne : sub.upgradeGroup ≠ base := fun heq => hat (hcurrent.trans heq)
    have hprev := hnotes.trim hbase
    rw [if_neg hne] at hprev
    obtain ⟨rfl, hnonempty⟩ := hup
    unfold downgraded
    rw [if_pos, s.groupOf_setGroup_self _ _ hknown, hprev]
    refine ⟨by rwa [hnotes.1], hcurrent.trans hnotes.1.symm, ?_, ?_, ?_⟩
    · rintro ⟨r, hr, huser, hupgrading, hid⟩
      exact hid (hother r hr ⟨huser, hupgrading.2.2⟩ hupgrading.1)
    · rw [hprev]
      exact hbase.1
    · rw [hprev]
      exact Ne.symm hat

theorem mem_cancel {id t : ℤ} : r ∈ (s.cancel id t).subs.rows ↔ ∃ r₀ ∈ s.subs.rows,
      (if r₀.id = id then
        { r₀ with status := Billing.SubscriptionStatus.cancelled, endTime := t } else r₀) = r := by
  simp only [cancel, modifySubscription, SubscriptionTable.mem_modifyWhere, decide_eq_true_eq]

theorem deleteSubscription_users (s : Store) (id : ℤ) :
    (s.deleteSubscription id).users = s.users := rfl

theorem groupOf_deleteSubscription (s : Store) (id userId : ℤ) :
    (s.deleteSubscription id).groupOf userId = s.groupOf userId := rfl

end Store

namespace GroupSound

variable {userId : ℤ} {base : String} {now : ℤ} {s : Store} {sub : UserSubscription}

theorem cancel (hbase : Restorable base) (h : GroupSound userId base now s)
    (hsub : sub ∈ s.subs.rows) (t : ℤ) :
    GroupSound userId base now ((s.cancel sub.id t).downgraded sub t) := by
  have hnotes := h.notes sub hsub
  have hfrom : ∀ r ∈ (s.cancel sub.id t).subs.rows, r.status ≠ .cancelled →
      r ∈ s.subs.rows ∧ r.id ≠ sub.id := by
    intro r hr hne
    obtain ⟨r₀, hr₀, rfl⟩ := Store.mem_cancel.1 hr
    by_cases hid : r₀.id = sub.id
    · rw [if_pos hid] at hne
      exact absurd rfl hne
    · rw [if_neg hid]
      exact ⟨hr₀, hid⟩
  have hknown : ((s.cancel sub.id t).users.find? userId).isSome = true := by exact h.known
  refine h.demoted hsub ?_ ?_ ?_ ?_ ?_ ?_
  · rwa [Store.isSome_find?_downgraded]
  · intro r hr hid
    rw [Store.downgraded_subs]
    exact Store.mem_cancel.2 ⟨r, hr, if_neg hid⟩
  · intro r hr _ hne
    rw [Store.downgraded_subs] at hr
    exact hfrom r hr hne
  · intro r hr hup
    rw [Store.downgraded_subs] at hr
    obtain ⟨r₀, hr₀, rfl⟩ := Store.mem_cancel.1 hr
    by_cases hid : r₀.id = sub.id
    · rw [if_pos hid] at hup ⊢
      exact h.notes r₀ hr₀ hup
    · rw [if_neg hid] at hup ⊢
      exact h.notes r₀ hr₀ hup
  · exact Store.groupOf_downgraded hbase hknown hnotes
  · intro hup hact
    have hbusy := h.busy sub hsub hup hact
    refine Store.groupOf_downgraded_of_unique hbase hknown hup (hnotes hup) hbusy ?_
    intro r hr hup' hact'
    have hr' := (hfrom r hr (by rw [hact']; decide)).1
    rw [h.unique r hr' sub hsub hup' hup hact' hact]

theorem delete (hbase : Restorable base) (h : GroupSound userId base now s)
    (hsub : sub ∈ s.subs.rows) (t : ℤ) :
    GroupSound userId base now ((s.downgraded sub t).deleteSubscription sub.id) := by
  have hrows : ∀ r, r ∈ ((s.downgraded sub t).deleteSubscription sub.id).subs.rows ↔
      r ∈ s.subs.rows ∧ r.id ≠ sub.id := by
    intro r
    simp only [Store.deleteSubscription, SubscriptionTable.mem_deleteWhere,
      decide_eq_false_iff_not, Store.downgraded_subs]
  have hnotes := h.notes sub hsub
  refine h.demoted hsub ?_ (fun r hr hid => (hrows r).2 ⟨hr, hid⟩)
    (fun r hr _ _ => (hrows r).1 hr) (fun r hr => h.notes r ((hrows r).1 hr).1) ?_ ?_
  · rw [Store.deleteSubscription_users, Store.isSome_find?_downgraded]
    exact h.known
  · rw [Store.groupOf_deleteSubscription]
    exact Store.groupOf_downgraded hbase h.known hnotes
  · intro hup hact
    rw [Store.groupOf_deleteSubscription]
    refine Store.groupOf_downgraded_of_unique hbase h.known hup (hnotes hup)
      (h.busy sub hsub hup hact) fun r hr hup' hact' => ?_
    rw [h.unique r hr sub hsub hup' hup hact' hact]

end GroupSound

/-! ### Expiry -/

namespace GroupSound

variable {userId : ℤ} {base : String} {now : ℤ} {s : Store}

theorem expire_of_ne (h : GroupSound userId base now s) {id : ℤ} (hne : userId ≠ id) :
    GroupSound userId base now ((s.expire id now).restored id now) := by
  have hexpire : GroupSound userId base now (s.expire id now) := by
    refine h.congr rfl rfl fun r hup => ⟨fun hr => ?_, fun hr => ?_⟩
    · obtain ⟨r₀, hr₀, rfl⟩ := Store.mem_expire.1 hr
      by_cases hdue : r₀.userId = id ∧ r₀.Due now
      · rw [if_pos hdue] at hup
        exact absurd (hup.1.symm.trans hdue.1) hne
      · rwa [if_neg hdue]
    · exact Store.mem_expire.2 ⟨r, hr, if_neg fun hdue => hne (hup.1.symm.trans hdue.1)⟩
  unfold Store.restored
  split
  · exact hexpire
  split
  · exact hexpire
  split
  · exact hexpire.setGroup_of_ne hne _
  · exact hexpire

/-- The user's upgrades after the expiry: those that were there and are not due, and those that
have just expired. -/
theorem mem_expire_cases (hr : r ∈ (s.expire userId now).subs.rows) (hup : r.Upgrades userId) :
    (r ∈ s.subs.rows ∧ ¬r.Due now) ∨
      ∃ r₀ ∈ s.subs.rows, r₀.Upgrades userId ∧ r₀.Due now ∧ r = r₀.expired := by
  obtain ⟨r₀, hr₀, rfl⟩ := Store.mem_expire.1 hr
  by_cases hdue : r₀.userId = userId ∧ r₀.Due now
  · rw [if_pos hdue] at hup ⊢
    exact .inr ⟨r₀, hr₀, hup, hdue.2, rfl⟩
  · rw [if_neg hdue] at hup ⊢
    exact .inl ⟨hr₀, fun h => hdue ⟨hup.1, h⟩⟩

/-- The upgrades are in order after the expiry, whatever group the user is in. -/
theorem expire_of_group (h : GroupSound userId base now s) {s' : Store}
    (hsubs : s'.subs = (s.expire userId now).subs) (hknown : (s'.users.find? userId).isSome = true)
    (hidle : (∀ r ∈ s'.subs.rows, r.Upgrades userId → r.status ≠ .active) →
      s'.groupOf userId = base)
    (hbusy : ∀ r ∈ s.subs.rows, r.Upgrades userId → r.status = .active → ¬r.Due now →
      s'.groupOf userId = r.upgradeGroup ∨ s'.groupOf userId = base) :
    GroupSound userId base now s' := by
  rw [hsubs] at hidle
  have hactive : ∀ r ∈ (s.expire userId now).subs.rows, r.Upgrades userId → r.status = .active →
      r ∈ s.subs.rows ∧ ¬r.Due now := by
    intro r hr hup hact
    rcases mem_expire_cases hr hup with hold | ⟨r₀, -, -, -, rfl⟩
    · exact hold
    · cases hact
  constructor
  · exact hknown
  · rw [hsubs]
    intro r hr hup
    rcases mem_expire_cases hr hup with ⟨hr, -⟩ | ⟨r₀, hr₀, hup₀, -, rfl⟩
    · exact h.notes r hr hup
    · exact h.notes r₀ hr₀ hup₀
  · rw [hsubs]
    intro r hr r' hr' hup hup' hact hact'
    exact h.unique r (hactive r hr hup hact).1 r' (hactive r' hr' hup' hact').1 hup hup' hact hact'
  · rw [hsubs]
    exact hidle
  · rw [hsubs]
    intro r hr hup hact
    obtain ⟨hr, hdue⟩ := hactive r hr hup hact
    exact hbusy r hr hup hact hdue
  · rw [hsubs]
    intro r hr hup hact
    obtain ⟨hr, hdue⟩ := hactive r hr hup hact
    obtain ⟨hpos, hlt⟩ := h.later r hr hup hact
    refine ⟨hpos, fun r' hr' hup' hexp => ?_⟩
    rcases mem_expire_cases hr' hup' with ⟨hr', -⟩ | ⟨r₀, hr₀, hup₀, hdue₀, rfl⟩
    · exact hlt r' hr' hup' hexp
    · -- the one that has just expired was the active upgrade, and `r` is another
      obtain rfl := h.unique r hr r₀ hr₀ hup hup₀ hact hdue₀.1
      exact absurd hdue₀ hdue
  · rw [hsubs]
    intro r hr hup hexp
    rcases mem_expire_cases hr hup with ⟨hr, -⟩ | ⟨r₀, hr₀, hup₀, hdue₀, rfl⟩
    · exact h.past r hr hup hexp
    · exact hdue₀.2.2

/-- The group noted in a subscription of the user is restored or is the one the user is in. -/
theorem groupOf_restored (hbase : Restorable base) (hknown : (s.users.find? userId).isSome = true)
    (hnone : ¬∃ r ∈ s.subs.rows, r.userId = userId ∧ r.Upgrading now)
    {sub : UserSubscription} (hnotes : sub.Notes base)
    (hlatest : latest (s.subs.rows.filter fun r => r.userId = userId ∧ r.Upgraded) = some sub)
    (hnonempty : sub.upgradeGroup ≠ "")
    (hgroup : s.groupOf userId = sub.upgradeGroup ∨ s.groupOf userId = base) :
    (s.restored userId now).groupOf userId = base := by
  have hprev := hnotes.trim hbase
  unfold Store.restored
  rw [if_neg hnone]
  simp only [hlatest]
  by_cases hat : s.groupOf userId = base
  · rw [if_neg]
    · exact hat
    · rintro ⟨-, hne, hcurrent, -⟩
      rw [hnotes.1, hat] at hcurrent
      rw [hprev, if_pos hcurrent.symm] at hne
      exact hne rfl
  · have hcurrent := hgroup.resolve_right hat
    have hne : sub.upgradeGroup ≠ base := fun heq => hat (hcurrent.trans heq)
    rw [if_neg hne] at hprev
    rw [if_pos, s.groupOf_setGroup_self _ _ hknown, hprev]
    refine ⟨by rwa [hnotes.1], by rw [hprev]; exact hbase.1, by rw [hnotes.1]; exact hcurrent, ?_⟩
    rw [hprev]
    exact hat

/-- What the expiry leaves is noted as before. -/
theorem notes_expire (h : GroupSound userId base now s)
    (hr : r ∈ (s.expire userId now).subs.rows) (hup : r.Upgrades userId) : r.Notes base := by
  rcases mem_expire_cases hr hup with ⟨hr, -⟩ | ⟨r₀, hr₀, hup₀, -, rfl⟩
  · exact h.notes r hr hup
  · exact h.notes r₀ hr₀ hup₀

section

variable (hbase : Restorable base)
include hbase

section

variable (h : GroupSound userId base now s)
include h

section

variable (hnone : ¬∃ r ∈ (s.expire userId now).subs.rows, r.userId = userId ∧ r.Upgrading now)
include hnone

theorem restored_of_idle (hidle : ∀ r ∈ s.subs.rows, r.Upgrades userId → r.status ≠ .active) :
    ((s.expire userId now).restored userId now).groupOf userId = base := by
  have hat := h.idle hidle
  cases hlatest : latest ((s.expire userId now).subs.rows.filter fun r =>
      r.userId = userId ∧ r.Upgraded) with
  | none =>
    unfold Store.restored
    rw [if_neg hnone]
    simp only [hlatest]
    exact hat
  | some sub =>
    have hmem := List.mem_filter.1 (mem_of_latest hlatest)
    have hsub : sub.userId = userId ∧ sub.Upgraded := by simpa using hmem.2
    exact groupOf_restored hbase h.known hnone (h.notes_expire hmem.1 ⟨hsub.1, hsub.2.2⟩) hlatest
      hsub.2.2 (.inr hat)

/-- The expiry of the active upgrade moves the user back to the first group. -/
theorem restored_of_due (hr : r ∈ s.subs.rows) (hup : r.Upgrades userId) (hdue : r.Due now) :
    ((s.expire userId now).restored userId now).groupOf userId = base := by
  have hr' : r.expired ∈ (s.expire userId now).subs.rows :=
    Store.mem_expire.2 ⟨r, hr, if_pos ⟨hup.1, hdue⟩⟩
  have hin : r.expired ∈ (s.expire userId now).subs.rows.filter fun r =>
      r.userId = userId ∧ r.Upgraded :=
    List.mem_filter.2 ⟨hr', by simpa using ⟨hup.1, rfl, hup.2⟩⟩
  cases hlatest : latest ((s.expire userId now).subs.rows.filter fun r =>
      r.userId = userId ∧ r.Upgraded) with
  | none => exact absurd hlatest (latest_ne_none hin)
  | some sub =>
    have hmem := List.mem_filter.1 (mem_of_latest hlatest)
    have hsub : sub.userId = userId ∧ sub.Upgraded := by simpa using hmem.2
    -- the one that expired last is the upgrade that was active
    have hlast : sub = r.expired := by
      rcases mem_expire_cases hmem.1 ⟨hsub.1, hsub.2.2⟩ with
        ⟨hold, -⟩ | ⟨r₀, hr₀, hup₀, hdue₀, rfl⟩
      · have hlt := (h.later r hr hup hdue.1).2 sub hold ⟨hsub.1, hsub.2.2⟩ hsub.2.1
        exact absurd (endTime_le_of_latest hlatest hin) (not_le.2 hlt)
      · rw [h.unique r₀ hr₀ r hr hup₀ hup hdue₀.1 hdue.1]
    exact groupOf_restored hbase h.known hnone (h.notes_expire hmem.1 ⟨hsub.1, hsub.2.2⟩) hlatest
      hsub.2.2 (by rw [hlast]; exact h.busy r hr hup hdue.1)

end

theorem expire_self : GroupSound userId base now ((s.expire userId now).restored userId now) := by
  by_cases hactive : ∃ r ∈ s.subs.rows, r.Upgrades userId ∧ r.status = .active ∧ ¬r.Due now
  · -- an upgrade is active and not due: nothing is restored
    obtain ⟨r, hr, hup, hact, hdue⟩ := hactive
    have hlt : now < r.endTime := by
      have hpos := (h.later r hr hup hact).1
      by_contra hle
      exact hdue ⟨hact, hpos, not_lt.1 hle⟩
    have hr' : r ∈ (s.expire userId now).subs.rows :=
      Store.mem_expire.2 ⟨r, hr, if_neg fun hc => hdue hc.2⟩
    have heq : (s.expire userId now).restored userId now = s.expire userId now := by
      unfold Store.restored
      rw [if_pos ⟨r, hr', hup.1, hact, hlt, hup.2⟩]
    rw [heq]
    exact h.expire_of_group rfl h.known (fun hidle => absurd hact (hidle r hr' hup))
      fun r' hr' hup' hact' _ => h.busy r' hr' hup' hact'
  · -- no upgrade is left: the user is in the first group, or is moved back to it
    have hnone : ¬∃ r ∈ (s.expire userId now).subs.rows, r.userId = userId ∧ r.Upgrading now := by
      rintro ⟨r, hr, huser, hact, hlt, hne⟩
      rcases mem_expire_cases hr ⟨huser, hne⟩ with ⟨hr, hdue⟩ | ⟨r₀, -, -, -, rfl⟩
      · exact hactive ⟨r, hr, ⟨huser, hne⟩, hact, hdue⟩
      · cases hact
    have hrestored : ((s.expire userId now).restored userId now).groupOf userId = base := by
      by_cases hidle : ∀ r ∈ s.subs.rows, r.Upgrades userId → r.status ≠ .active
      · exact h.restored_of_idle hbase hnone hidle
      · push Not at hidle
        obtain ⟨r, hr, hup, hact⟩ := hidle
        refine h.restored_of_due hbase hnone hr hup ?_
        by_contra hdue
        exact hactive ⟨r, hr, hup, hact, hdue⟩
    exact h.expire_of_group (Store.restored_subs _ _ _)
      ((Store.isSome_find?_restored _ _ _ _).trans h.known) (fun _ => hrestored)
      fun _ _ _ _ _ => .inr hrestored

theorem expire (id : ℤ) : GroupSound userId base now ((s.expire id now).restored id now) := by
  by_cases hid : userId = id
  · subst hid
    exact h.expire_self hbase
  · exact h.expire_of_ne hid

end

end

end GroupSound

end Mujian.Subscriptions
