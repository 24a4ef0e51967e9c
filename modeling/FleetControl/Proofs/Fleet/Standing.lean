import FleetControl.Proofs.Course

/-!
# What only structural calls change

The processes in the slots, the transitions of the members, their configurations and the flags that
say which of them run belong to the structural calls. Whatever else happens to a fleet goes on aside
of them: it changes snapshots, metrics, files, clocks and signals.
-/

namespace FleetControl

/-- A record without its snapshot. -/
def Member.standing (member : Member) : Member :=
  { member with status := { name := "", endpoint := "" } }

namespace Member

@[simp] theorem standing_updateStatusSince (member : Member) (seen : Nanos)
    (f : MemberStatus → MemberStatus) :
    (member.updateStatusSince seen f).1.standing = member.standing := by
  unfold updateStatusSince
  split <;> rfl

@[simp] theorem standing_refreshStoppedText (member : Member) (now : Int) :
    (member.refreshStoppedText now).standing = member.standing := by
  unfold refreshStoppedText
  split <;> rfl

/-- The transition is not part of the snapshot. -/
theorem transition_eq {member other : Member} (hstanding : member.standing = other.standing) :
    member.transition = other.transition :=
  show member.standing.transition = other.standing.transition by rw [hstanding]

/-- Neither is the running flag. -/
theorem running_eq {member other : Member} (hstanding : member.standing = other.standing) :
    member.running = other.running :=
  show member.standing.running = other.standing.running by rw [hstanding]

end Member

namespace Fleet

/-- The records of a fleet without their snapshots. -/
def standings (fleet : Fleet) : List Member := fleet.members.map Member.standing

/-- A change of one record shows in nothing in which the record is the same as before. -/
theorem map_changeMember {β : Type} {fleet : Fleet} {slot : Nat} {change : Member → Member}
    {view : Member → β} (hchange : ∀ member, fleet.member? slot = some member →
      view (change member) = view member) :
    (fleet.changeMember slot change).members.map view = fleet.members.map view := by
  refine List.ext_getElem? fun index => ?_
  simp only [changeMember, List.getElem?_map, List.getElem?_modify]
  by_cases hindex : slot = index
  · subst index
    cases hmember : fleet.members[slot]? with
    | none => rfl
    | some member => simpa using hchange member hmember
  · simp [hindex]

theorem standings_changeMember {fleet : Fleet} {slot : Nat} {change : Member → Member}
    (hchange : ∀ member, fleet.member? slot = some member →
      (change member).standing = member.standing) :
    (fleet.changeMember slot change).standings = fleet.standings :=
  map_changeMember hchange

theorem member?_changeMember (fleet : Fleet) (slot other : Nat) (change : Member → Member) :
    (fleet.changeMember slot change).member? other =
      if slot = other then (fleet.member? other).map change else fleet.member? other := by
  rw [member?, changeMember, List.getElem?_modify]
  split
  next => rfl
  next => exact Option.map_id' ..

theorem member?_changeMember_self (fleet : Fleet) (slot : Nat) (change : Member → Member) :
    (fleet.changeMember slot change).member? slot = (fleet.member? slot).map change := by
  rw [member?_changeMember, if_pos rfl]

/-- A record after a change of one record is the changed one or another one. -/
theorem member?_changeMember_cases {fleet : Fleet} {slot other : Nat} {change : Member → Member}
    {member : Member} (hmember : (fleet.changeMember slot change).member? other = some member) :
    (slot = other ∧ ∃ old, fleet.member? other = some old ∧ change old = member) ∨
      slot ≠ other ∧ fleet.member? other = some member := by
  rw [member?_changeMember] at hmember
  split at hmember
  next hother => exact .inl ⟨hother, Option.map_eq_some_iff.mp hmember⟩
  next hother => exact .inr ⟨hother, hmember⟩

theorem slot_lt {fleet : Fleet} {slot : Nat} {member : Member}
    (hmember : fleet.member? slot = some member) : slot < fleet.members.length :=
  (List.getElem?_eq_some_iff.mp hmember).1

theorem exists_member? {fleet : Fleet} {slot : Nat} (hslot : slot < fleet.members.length) :
    ∃ member, fleet.member? slot = some member :=
  ⟨_, List.getElem?_eq_getElem hslot⟩

@[simp] theorem size_changeMember (fleet : Fleet) (slot : Nat) (change : Member → Member) :
    (fleet.changeMember slot change).members.length = fleet.members.length :=
  List.length_modify ..

@[simp] theorem size_release (fleet : Fleet) (slot : Nat) (kind : TransitionKind) :
    (fleet.release slot kind).members.length = fleet.members.length :=
  List.length_modify ..

/-- Puts the process of a restart into its slot: the member is marked started, and its transition
recorded. -/
def occupy (fleet : Fleet) (slot : Nat) (handle : Handle) : Fleet :=
  (((fleet.changeMember slot (·.markStarted "restarted" fleet.clock)).recordState slot
    .follower 0).recordTransition slot .restart).setProcess slot (some handle)

@[simp] theorem size_occupy (fleet : Fleet) (slot : Nat) (handle : Handle) :
    (fleet.occupy slot handle).members.length = fleet.members.length :=
  List.length_modify ..

/-- No transition lies in the future. -/
def Dated (fleet : Fleet) : Prop :=
  ∀ slot member, fleet.member? slot = some member →
    member.transition.instant ≤ fleet.clock.instant

/-- A transition that is recorded now does not lie in the future. -/
theorem Dated.changeMember {fleet : Fleet} (hdated : fleet.Dated) (slot : Nat)
    (change : Member → Member)
    (hchange : ∀ member, (change member).transition = fleet.clock ∨
      (change member).transition = member.transition) :
    (fleet.changeMember slot change).Dated := by
  intro other member hmember
  rcases member?_changeMember_cases hmember with ⟨rfl, old, hold, rfl⟩ | ⟨-, hmember⟩
  · rcases hchange old with hnow | hsame
    · rw [hnow]
      exact Nat.le_refl _
    · rw [hsame]
      exact hdated slot old hold
  · exact hdated other member hmember

/-- The fleet goes on, and no structural call has a hand in it. -/
structure Aside (before after : Fleet) : Prop where
  rootDir : after.rootDir = before.rootDir
  interval : after.interval = before.interval
  slots : after.slots = before.slots
  launches : after.launches = before.launches
  standings : after.standings = before.standings
  clock : before.clock.instant ≤ after.clock.instant
  shutDown : after.shutDown = before.shutDown
  stopFired : after.stopFired = before.stopFired

namespace Aside

theorem refl (fleet : Fleet) : Aside fleet fleet :=
  ⟨rfl, rfl, rfl, rfl, rfl, Nat.le_refl _, rfl, rfl⟩

theorem trans {first second third : Fleet} (hleft : Aside first second)
    (hright : Aside second third) : Aside first third :=
  ⟨hright.rootDir.trans hleft.rootDir, hright.interval.trans hleft.interval,
    hright.slots.trans hleft.slots, hright.launches.trans hleft.launches,
    hright.standings.trans hleft.standings, Nat.le_trans hleft.clock hright.clock,
    hright.shutDown.trans hleft.shutDown, hright.stopFired.trans hleft.stopFired⟩

theorem size {before after : Fleet} (haside : Aside before after) :
    after.members.length = before.members.length := by
  simpa [Fleet.standings] using congrArg List.length haside.standings

/-- Nothing of the records changes in which their snapshots do not show. -/
theorem map_members {β : Type} {view : Member → β}
    (hview : ∀ member : Member, view member.standing = view member) {before after : Fleet}
    (haside : Aside before after) : after.members.map view = before.members.map view := by
  have hstandings : ∀ fleet : Fleet, fleet.members.map view = fleet.standings.map view := by
    intro fleet
    rw [Fleet.standings, List.map_map]
    exact List.map_congr_left fun member _ => (hview member).symm
  rw [hstandings, hstandings, haside.standings]

/-- A record is the same as before, but for its snapshot. -/
theorem exists_member? {before after : Fleet} (haside : Aside before after) {slot : Nat}
    {member : Member} (hmember : after.member? slot = some member) :
    ∃ old, before.member? slot = some old ∧ old.standing = member.standing := by
  have hstanding : before.standings[slot]? = some member.standing := by
    rw [← haside.standings, Fleet.standings, List.getElem?_map,
      show after.members[slot]? = some member from hmember]
    rfl
  rw [Fleet.standings, List.getElem?_map] at hstanding
  exact Option.map_eq_some_iff.mp hstanding

theorem dated {before after : Fleet} (haside : Aside before after) (hdated : before.Dated) :
    after.Dated := by
  intro slot member hmember
  obtain ⟨old, hold, hstanding⟩ := haside.exists_member? hmember
  rw [← Member.transition_eq hstanding]
  exact Nat.le_trans (hdated slot old hold) haside.clock

/-- A write to the snapshot of one record. -/
theorem changeMember {fleet : Fleet} {slot : Nat} {change : Member → Member}
    (hchange : ∀ member, fleet.member? slot = some member →
      (change member).standing = member.standing) :
    Aside fleet (fleet.changeMember slot change) :=
  ⟨rfl, rfl, rfl, rfl, standings_changeMember hchange, Nat.le_refl _, rfl, rfl⟩

theorem recordState (fleet : Fleet) (slot : Nat) (state : MemberState) (dbSize : Nat) :
    Aside fleet (fleet.recordState slot state dbSize) :=
  ⟨rfl, rfl, rfl, rfl, rfl, Nat.le_refl _, rfl, rfl⟩

theorem recordProbeFailure (fleet : Fleet) (slot : Nat) (stage : ProbeStage) :
    Aside fleet (fleet.recordProbeFailure slot stage) :=
  ⟨rfl, rfl, rfl, rfl, rfl, Nat.le_refl _, rfl, rfl⟩

theorem degrade (fleet : Fleet) (slot : Nat) (seen : Nanos) (activity : String) (started : Int)
    (cause : String) : Aside fleet (fleet.degrade slot seen activity started cause) := by
  unfold Fleet.degrade
  cases hmember : fleet.member? slot with
  | none => exact refl fleet
  | some member =>
      dsimp only
      have hstanding := member.standing_updateStatusSince seen
        (·.setStopped (member.unreachableText activity started fleet.clock.wall cause))
      rw [← Member.markUnreachable] at hstanding
      cases hwrite : member.markUnreachable seen activity started fleet.clock.wall cause with
      | mk written applied =>
          rw [hwrite] at hstanding
          cases applied with
          | false => exact refl fleet
          | true =>
              refine (changeMember ?_).trans (recordState _ slot .stopped 0)
              intro current hcurrent
              obtain rfl := Option.some.inj (hmember.symm.trans hcurrent)
              exact hstanding

theorem outside {before after : Fleet} {event : Outside}
    (hevent : before.outside? event = some after) : Aside before after := by
  cases event with
  | time clock =>
      simp only [Fleet.outside?, Option.ite_none_right_eq_some, Option.some.injEq] at hevent
      obtain ⟨hclock, rfl⟩ := hevent
      exact ⟨rfl, rfl, rfl, rfl, rfl, hclock, rfl, rfl⟩
  | fireRoot =>
      obtain rfl := Option.some.inj hevent
      exact ⟨rfl, rfl, rfl, rfl, rfl, Nat.le_refl _, rfl, rfl⟩
  | touch files =>
      obtain rfl := Option.some.inj hevent
      exact ⟨rfl, rfl, rfl, rfl, rfl, Nat.le_refl _, rfl, rfl⟩

end Aside

end Fleet

end FleetControl
