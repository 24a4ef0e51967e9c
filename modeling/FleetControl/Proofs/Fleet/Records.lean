import FleetControl.Proofs.Course
import FleetControl.Proofs.Fleet.Step

/-!
# What a step does to a record

The calls mark a record stopped or started, and record a transition whenever they do. Nothing else
moves the time of the last transition, or the flag that says whether the member runs.
-/

namespace FleetControl

/-- What a turn of the calls makes of the record in a slot, where it records a transition or
none. -/
inductive Member.Turned (slot : Nat) (clock : Clock) (member : Member) :
    Option Mark → Member → Prop where
  | stopped {kind : TransitionKind} (hkind : kind ≠ .restart) :
      Turned slot clock member (some (slot, kind)) (member.markStopped clock)
  | restarted :
      Turned slot clock member (some (slot, .restart)) (member.markStarted "restarted" clock)
  | kept {mark : Option Mark} {config : MemberConfig}
      (hmark : ∀ kind, mark ≠ some (slot, kind)) :
      Turned slot clock member mark (member.setConfig config)

namespace Turn

variable {fleet next : Fleet} {underway later : Option Call} {heard : List EngineNote}
  {commands : List Command} {mark : Option Mark}

/-- The calls have no part in the passing of time. -/
theorem clock_eq (hturn : Turn fleet underway heard commands mark next later) :
    next.clock = fleet.clock := by
  cases hturn <;> rfl

theorem interval_eq (hturn : Turn fleet underway heard commands mark next later) :
    next.interval = fleet.interval := by
  cases hturn <;> rfl

theorem size_eq (hturn : Turn fleet underway heard commands mark next later) :
    next.members.length = fleet.members.length := by
  cases hturn with
  | stop => exact fleet.size_release ..
  | clear => exact fleet.size_release ..
  | hand => exact fleet.size_changeMember ..
  | ready => exact fleet.size_occupy ..
  | rest | signal | coolStop | coolRestart | empty | vanish | launch | refuse | giveUp | ended
  | pass | clearEnded | cleared => rfl

/-- A shutdown that was called is not taken back. -/
theorem isOpen (hturn : Turn fleet underway heard commands mark next later)
    (hopen : next.shutDown = false) : fleet.shutDown = false := by
  cases hturn with
  | signal => simp at hopen
  | rest | coolStop | coolRestart | empty | stop | vanish | launch | refuse | hand | giveUp | ready
  | ended | pass | clear | clearEnded | cleared => exact hopen

/-- The calls record stops and restarts, and what a shutdown does. -/
theorem kind_cases {slot : Nat} {kind : TransitionKind}
    (hturn : Turn fleet underway heard commands (some (slot, kind)) next later) :
    kind = .stop ∨ kind = .restart ∨
      ∃ call, underway = some call ∧ call.operation = .shutdown := by
  cases hturn with
  | stop => exact .inl rfl
  | ready => exact .inr (.inl rfl)
  | clear => exact .inr (.inr ⟨_, rfl, rfl⟩)

theorem exists_stop {slot : Nat}
    (hturn : Turn fleet underway heard commands (some (slot, .stop)) next later) :
    ∃ id due, underway = some ⟨id, .stop slot, .cooling due⟩ := by
  cases hturn with
  | stop => exact ⟨_, _, rfl⟩

theorem member?_release {slot other : Nat} {kind : TransitionKind} {member : Member}
    (hkind : kind ≠ .restart) (hmember : (fleet.release slot kind).member? other = some member) :
    ∃ old, fleet.member? other = some old ∧
      old.Turned other fleet.clock (some (slot, kind)) member := by
  have hmember : (fleet.changeMember slot (·.markStopped fleet.clock)).member? other =
      some member := hmember
  rcases Fleet.member?_changeMember_cases hmember with ⟨rfl, old, hold, rfl⟩ | ⟨hother, hmember⟩
  · exact ⟨old, hold, .stopped hkind⟩
  · exact ⟨member, hmember, .kept (by simp [hother])⟩

/-- What a turn does to the record in any slot. -/
theorem exists_member? (hturn : Turn fleet underway heard commands mark next later) {slot : Nat}
    {member : Member} (hmember : next.member? slot = some member) :
    ∃ old, fleet.member? slot = some old ∧ old.Turned slot fleet.clock mark member := by
  cases hturn with
  | rest | signal | coolStop | coolRestart | empty | vanish | launch | refuse | giveUp | ended
  | pass | clearEnded | cleared => exact ⟨member, hmember, .kept (by simp)⟩
  | stop => exact member?_release (by simp) hmember
  | clear => exact member?_release (by simp) hmember
  | @hand id other config =>
      have hmember : (fleet.changeMember other (·.setConfig config)).member? slot =
          some member := hmember
      rcases Fleet.member?_changeMember_cases hmember with ⟨-, old, hold, rfl⟩ | ⟨-, hmember⟩
      · exact ⟨old, hold, .kept (by simp)⟩
      · exact ⟨member, hmember, .kept (by simp)⟩
  | @ready id other handle =>
      have hmember : (fleet.changeMember other
          (·.markStarted "restarted" fleet.clock)).member? slot = some member := hmember
      rcases Fleet.member?_changeMember_cases hmember with
        ⟨rfl, old, hold, rfl⟩ | ⟨hother, hmember⟩
      · exact ⟨old, hold, .restarted⟩
      · exact ⟨member, hmember, .kept (by simp [hother])⟩

end Turn

namespace Member.Turned

variable {slot : Nat} {clock : Clock} {old member : Member} {mark : Option Mark}
  {kind : TransitionKind}

/-- A transition is recorded at the present time. -/
theorem transition_eq (hturned : old.Turned slot clock (some (slot, kind)) member) :
    member.transition = clock := by
  cases hturned with
  | stopped | restarted => rfl
  | kept hmark => exact absurd rfl (hmark kind)

theorem running_eq (hturned : old.Turned slot clock (some (slot, kind)) member) :
    member.running = decide (kind = .restart) := by
  cases hturned with
  | stopped hkind => simp [markStopped, hkind]
  | restarted => rfl
  | kept hmark => exact absurd rfl (hmark kind)

/-- Transitions only move forward. -/
theorem transition_le (hturned : old.Turned slot clock mark member)
    (hold : old.transition.instant ≤ clock.instant) :
    old.transition.instant ≤ member.transition.instant := by
  cases hturned with
  | stopped | restarted => exact hold
  | kept => exact Nat.le_refl _

/-- Without one the transition and the running flag stay. -/
theorem standing_eq (hturned : old.Turned slot clock mark member)
    (hmark : ∀ kind, mark ≠ some (slot, kind)) :
    member.transition = old.transition ∧ member.running = old.running := by
  cases hturned with
  | stopped => exact absurd rfl (hmark _)
  | restarted => exact absurd rfl (hmark _)
  | kept => exact ⟨rfl, rfl⟩

/-- And so does the snapshot. -/
theorem status_eq (hturned : old.Turned slot clock mark member)
    (hmark : ∀ kind, mark ≠ some (slot, kind)) : member.status = old.status := by
  cases hturned with
  | stopped => exact absurd rfl (hmark _)
  | restarted => exact absurd rfl (hmark _)
  | kept => rfl

end Member.Turned

namespace System.Step

variable {system next : System} {event : Event} {commands : List Command} {slot : Nat}

/-- Only the calls record transitions. -/
theorem turn_of_recorded (hstep : system.Step event commands next) {mark : Mark}
    (hmark : system.recorded? event = some mark) :
    Turn system.fleet system.underway? (system.heard event) commands (some mark) next.fleet
      next.underway? := by
  cases hstep with
  | turn hturn => exact hmark ▸ hturn
  | move _ _ _ _ hnone => simp [hnone] at hmark
  | outside _ hevent =>
      subst hevent
      simp [recorded?, Calling.recorded?] at hmark

/-- Meanwhile the monitor and its probes stay where they are. -/
theorem watching_of_recorded (hstep : system.Step event commands next) {mark : Mark}
    (hmark : system.recorded? event = some mark) :
    next.monitor = system.monitor ∧ next.probes = system.probes := by
  cases hstep with
  | turn _ _ hmonitor hprobes => exact ⟨hmonitor, hprobes⟩
  | move _ _ _ _ hnone => simp [hnone] at hmark
  | outside _ _ _ _ _ hmonitor hprobes => exact ⟨hmonitor, hprobes⟩

theorem size_eq (hstep : system.Step event commands next) :
    next.fleet.members.length = system.fleet.members.length := by
  cases hstep with
  | turn hturn => exact hturn.size_eq
  | move hmove => exact hmove.aside.size
  | outside houtside => exact (Fleet.Aside.outside houtside).size

/-- Once a shutdown was called, the fleet does not open again. -/
theorem isOpen (hstep : system.Step event commands next)
    (hopen : next.fleet.shutDown = false) : system.fleet.shutDown = false := by
  cases hstep with
  | turn hturn => exact hturn.isOpen hopen
  | move hmove => exact hmove.aside.shutDown ▸ hopen
  | outside houtside => exact (Fleet.Aside.outside houtside).shutDown ▸ hopen

/-- Where no transition is recorded, a record keeps its last one and its running flag. -/
theorem standing_eq (hstep : system.Step event commands next)
    (hmark : ∀ kind, system.recorded? event ≠ some (slot, kind)) {member : Member}
    (hmember : next.fleet.member? slot = some member) :
    ∃ old, system.fleet.member? slot = some old ∧ member.transition = old.transition ∧
      member.running = old.running := by
  have haside : system.fleet.Aside next.fleet → ∃ old, system.fleet.member? slot = some old ∧
      member.transition = old.transition ∧ member.running = old.running := by
    intro haside
    obtain ⟨old, hold, hstanding⟩ := haside.exists_member? hmember
    exact ⟨old, hold, (Member.transition_eq hstanding).symm, (Member.running_eq hstanding).symm⟩
  cases hstep with
  | turn hturn =>
      obtain ⟨old, hold, hturned⟩ := hturn.exists_member? hmember
      exact ⟨old, hold, hturned.standing_eq hmark⟩
  | move hmove => exact haside hmove.aside
  | outside houtside => exact haside (.outside houtside)

end System.Step

/-- The calls stay in order, and there are never more or fewer slots. -/
theorem System.orderly_size_of_course {first last : System} {moments : List (Moment System Event)}
    (orderly : first.Orderly) (hcourse : Course System.step? first moments last) :
    last.Orderly ∧ last.fleet.members.length = first.fleet.members.length := by
  apply hcourse.preserves ⟨orderly, rfl⟩
  intro before event after commands hstep hbefore
  obtain ⟨horderly, hstepped⟩ := System.step_of_step? hbefore.1 hstep
  exact ⟨horderly, hstepped.size_eq.trans hbefore.2⟩

end FleetControl
