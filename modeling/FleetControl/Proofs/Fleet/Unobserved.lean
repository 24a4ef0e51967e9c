import FleetControl.Proofs.Fleet.Gauges
import FleetControl.Proofs.Fleet.Stale

/-!
# Stopped members that nobody observes

A member that is stopped is looked at in every round, but not probed. If nobody has noted the time
of its last transition, then until the next one nothing changes of its snapshot but the text, and
nothing of its gauges.
-/

namespace FleetControl

/-- A snapshot without its text. -/
def MemberStatus.untold (status : MemberStatus) : MemberStatus := { status with stateText := "" }

@[simp] theorem Member.untold_refreshStoppedText (member : Member) (now : Int) :
    (member.refreshStoppedText now).status.untold = member.status.untold := by
  unfold refreshStoppedText
  split <;> rfl

/-- One fleet shows of a slot's member what another one does, but for the text: the name, the
snapshot, and the gauges if no other member has the name. -/
structure Fleet.Resembles (next fleet : Fleet) (slot : Nat) : Prop where
  names : next.names = fleet.names
  record : ∀ member, next.member? slot = some member → ∃ old, fleet.member? slot = some old ∧
    member.name = old.name ∧ member.status.untold = old.status.untold
  gauges : fleet.Unrivalled slot →
    next.metrics.gaugesOf (fleet.nameOf slot) = fleet.metrics.gaugesOf (fleet.nameOf slot)

namespace Fleet.Resembles

variable {fleet next last : Fleet} {slot other : Nat} {change : Member → Member}

theorem of_eq (hmembers : next.members = fleet.members)
    (hstates : next.metrics.states = fleet.metrics.states)
    (hsizes : next.metrics.dbSizes = fleet.metrics.dbSizes) : next.Resembles fleet slot where
  names := by rw [Fleet.names, hmembers, Fleet.names]
  record member hmember := ⟨member, by rwa [member?, ← hmembers], rfl, rfl⟩
  gauges _ := by rw [Metrics.gaugesOf, hstates, hsizes, Metrics.gaugesOf]

theorem refl (fleet : Fleet) (slot : Nat) : fleet.Resembles fleet slot := .of_eq rfl rfl rfl

theorem trans (hlast : last.Resembles next slot) (hnext : next.Resembles fleet slot) :
    last.Resembles fleet slot where
  names := hlast.names.trans hnext.names
  record member hmember := by
    obtain ⟨between, hbetween, hname, hstatus⟩ := hlast.record member hmember
    obtain ⟨old, hold, hearlier, hbefore⟩ := hnext.record between hbetween
    exact ⟨old, hold, hname.trans hearlier, hstatus.trans hbefore⟩
  gauges hown := by
    have hsame := hlast.gauges (hown.of_names hnext.names)
    rw [nameOf_eq hnext.names] at hsame
    exact hsame.trans (hnext.gauges hown)

/-- A change of a record that shows in nothing but the text. -/
theorem changeMember
    (hchange : ∀ member, (change member).name = member.name ∧
      (change member).status.untold = member.status.untold) :
    (fleet.changeMember other change).Resembles fleet slot where
  names := names_changeMember fun member => (hchange member).1
  record member hmember := by
    rcases member?_changeMember_cases hmember with ⟨rfl, old, hold, rfl⟩ | ⟨-, hmember⟩
    · exact ⟨old, hold, hchange old⟩
    · exact ⟨member, hmember, rfl, rfl⟩
  gauges _ := rfl

/-- The record in another slot is written together with the gauges of its member. -/
theorem recordState (hother : other ≠ slot) (hslot : other < fleet.members.length)
    (hname : ∀ member, fleet.member? other = some member → (change member).name = member.name)
    (state : MemberState) (dbSize : Nat) :
    ((fleet.changeMember other change).recordState other state dbSize).Resembles fleet slot where
  names := map_changeMember hname
  record member hmember := by
    rcases member?_changeMember_cases hmember with ⟨hsame, -⟩ | ⟨-, hmember⟩
    · exact absurd hsame hother
    · exact ⟨member, hmember, rfl, rfl⟩
  gauges hown := (Spares.recordState hown hother hslot hname state dbSize).gauges

/-- A degradation of another member, or one that is refused. -/
theorem degrade {seen : Nanos} (activity : String) (started : Int) (cause : String)
    (hstale : other = slot → ∀ member, fleet.member? slot = some member →
      member.transition.instant ≠ seen) :
    (fleet.degrade other seen activity started cause).Resembles fleet slot := by
  unfold Fleet.degrade
  cases hmember : fleet.member? other with
  | none => exact .refl fleet slot
  | some member =>
      dsimp only
      unfold Member.markUnreachable Member.updateStatusSince
      by_cases hseen : member.transition.instant = seen
      · simp only [if_pos hseen]
        refine .recordState (fun hsame => ?_) (slot_lt hmember) (fun old hold => ?_) _ _
        · exact hstale hsame member (hsame ▸ hmember) hseen
        · rw [Option.some.inj (hold.symm.trans hmember)]
          rfl
      · simp only [if_neg hseen]
        exact .refl fleet slot

theorem outside {outer : Outside} (houtside : fleet.outside? outer = some next) :
    next.Resembles fleet slot := by
  cases outer with
  | time clock =>
      simp only [outside?, Option.ite_none_right_eq_some, Option.some.injEq] at houtside
      obtain ⟨-, rfl⟩ := houtside
      exact .of_eq rfl rfl rfl
  | fireRoot | touch =>
      obtain rfl := Option.some.inj houtside
      exact .of_eq rfl rfl rfl

end Fleet.Resembles

/-- The calls show nothing of a member but with its transitions. -/
theorem Turn.resembles {fleet next : Fleet} {underway later : Option Call}
    {heard : List EngineNote} {commands : List Command} {slot : Nat}
    (hturn : Turn fleet underway heard commands none next later) : next.Resembles fleet slot := by
  cases hturn with
  | rest | signal | coolStop | coolRestart | empty | vanish | launch | refuse | giveUp | ended
  | pass | clearEnded | cleared => exact .of_eq rfl rfl rfl
  | @hand id other config =>
      have hset : (fleet.changeMember other (·.setConfig config)).Resembles fleet slot :=
        .changeMember fun _ => ⟨rfl, rfl⟩
      exact ⟨hset.names, hset.record, hset.gauges⟩

/-- Nobody has noted the last transition of a slot's member: neither the monitor is about to, nor
does a watch or a probe carry its time. -/
structure Watching.Unnoted (watching : Watching) (slot : Nat) : Prop where
  unseen : ∀ begun, watching.monitor.phase ≠ .noting slot begun
  watches : ∀ watch ∈ watching.monitor.phase.pending, watch.slot = slot → ∀ member,
    watching.fleet.member? slot = some member → member.transition.instant ≠ watch.seen
  probes : ∀ probe ∈ watching.probes, probe.slot = slot → ∀ member,
    watching.fleet.member? slot = some member → member.transition.instant ≠ probe.seen

namespace Watching

variable {watching next : Watching} {commands : List Command} {slot : Nat}

/-- The monitor waits for what it waited for, or for a probe that has just begun. -/
theorem Move.watch_origin (hmove : watching.Move next commands) {watch : Watch}
    (hwatch : watch ∈ next.monitor.phase.pending) :
    watch ∈ watching.monitor.phase.pending ∨
      ∃ begun, watching.monitor.phase = .noting watch.slot begun := by
  cases hmove with
  | tick | rest | quit => simp [setPhase, MonitorPhase.pending] at hwatch
  | gather hphase | refresh hphase => exact .inl (by rw [hphase]; exact hwatch)
  | look hphase =>
      left
      rw [hphase]
      simp only [setPhase] at hwatch
      split at hwatch <;> exact hwatch
  | note hphase =>
      rcases List.mem_append.mp hwatch with hold | hnew
      · exact .inl (by rw [hphase]; exact hold)
      · obtain rfl := List.mem_singleton.mp hnew
        exact .inr ⟨_, hphase⟩
  | join hphase | recover hphase =>
      exact .inl (by rw [hphase]; exact List.mem_cons_of_mem _ hwatch)
  | ask | answer | word | commit | discard | fail | drop => exact .inl hwatch

/-- What nobody has noted is not written over. -/
theorem Unnoted.resembles (unnoted : watching.Unnoted slot)
    (hmove : watching.Move next commands) : next.fleet.Resembles watching.fleet slot := by
  have hprobe : ∀ {other probe}, watching.probe? other = some probe → other = slot → ∀ member,
      watching.fleet.member? slot = some member → member.transition.instant ≠ probe.seen :=
    fun hfound hother => unnoted.probes _ (List.mem_of_find?_eq_some hfound)
      ((probe?_slot hfound).trans hother)
  cases hmove with
  | tick | gather | look | note | rest | join | quit | ask | answer | word | discard | drop =>
      exact .of_eq rfl rfl rfl
  | refresh =>
      refine .changeMember fun member => ⟨?_, member.untold_refreshStoppedText _⟩
      unfold Member.refreshStoppedText
      split <;> rfl
  | @recover watch left probe text hphase =>
      refine .degrade _ _ _ fun hother => unnoted.watches watch ?_ hother
      rw [hphase]
      exact List.mem_cons_self
  | fail hfound =>
      refine .trans (.degrade _ _ _ fun hother => ?_) (.of_eq rfl rfl rfl)
      exact hprobe hfound hother
  | commit hfound hmember _ hseen =>
      refine .recordState (fun hother => ?_) (Fleet.slot_lt hmember) (fun old hold => ?_) _ _
      · exact hprobe hfound hother _ (hother ▸ hmember) hseen
      · rw [Option.some.inj (hold.symm.trans hmember)]
        rfl

namespace Unnoted

/-- A time that the last transition does not have is still none that it has. -/
theorem ne_of_stays {seen : Nanos}
    (hstays : ∀ member, next.fleet.member? slot = some member → ∃ old,
      watching.fleet.member? slot = some old ∧ member.transition = old.transition)
    (hstale : ∀ member, watching.fleet.member? slot = some member →
      member.transition.instant ≠ seen) :
    ∀ member, next.fleet.member? slot = some member → member.transition.instant ≠ seen := by
  intro member hmember
  obtain ⟨old, hold, htransition⟩ := hstays member hmember
  exact htransition ▸ hstale old hold

/-- The monitor and its probes stay where they are. -/
theorem kept (unnoted : watching.Unnoted slot) (hmonitor : next.monitor = watching.monitor)
    (hprobes : next.probes = watching.probes)
    (hstays : ∀ member, next.fleet.member? slot = some member → ∃ old,
      watching.fleet.member? slot = some old ∧ member.transition = old.transition) :
    next.Unnoted slot where
  unseen := hmonitor ▸ unnoted.unseen
  watches watch hwatch hslot :=
    ne_of_stays hstays (unnoted.watches watch (hmonitor ▸ hwatch) hslot)
  probes probe hprobe hslot := ne_of_stays hstays (unnoted.probes probe (hprobes ▸ hprobe) hslot)

/-- The monitor does not note the transition of a member that does not run. -/
theorem move (unnoted : watching.Unnoted slot) (hmove : watching.Move next commands)
    (hstopped : ∀ member, watching.fleet.member? slot = some member → member.running = false)
    (hstays : ∀ member, next.fleet.member? slot = some member → ∃ old,
      watching.fleet.member? slot = some old ∧ member.transition = old.transition) :
    next.Unnoted slot where
  unseen begun hphase := by
    rcases hmove.running_of_noting hphase with hbefore | ⟨member, hmember, hrunning⟩
    · exact unnoted.unseen begun hbefore
    · simp [hstopped member hmember] at hrunning
  watches watch hwatch hslot := by
    rcases hmove.watch_origin hwatch with hbefore | ⟨begun, hphase⟩
    · exact ne_of_stays hstays (unnoted.watches watch hbefore hslot)
    · exact absurd (hslot ▸ hphase) (unnoted.unseen begun)
  probes probe hprobe hslot := by
    rcases hmove.probe_origin hprobe with ⟨origin, horigin, hsame, hseen⟩ | ⟨begun, _, hphase, -⟩
    · exact hseen ▸ ne_of_stays hstays (unnoted.probes origin horigin (hsame.trans hslot))
    · exact absurd (hslot ▸ hphase) (unnoted.unseen begun)

end Unnoted

end Watching

namespace System

variable {system next : System} {event : Event} {commands : List Command} {slot : Nat}

/-- A member is stopped, and nobody has noted the last transition of it. -/
structure Unobserved (system : System) (slot : Nat) : Prop where
  orderly : system.Orderly
  stopped : ∀ member, system.fleet.member? slot = some member → member.running = false
  unnoted : system.watching.Unnoted slot

/-- Until a transition is recorded the member goes on unobserved, and what is shown of it stays. -/
theorem Unobserved.step (unobserved : system.Unobserved slot)
    (hstep : system.step? event = some (next, commands)) (hnone : system.recorded? event = none) :
    next.Unobserved slot ∧ next.fleet.Resembles system.fleet slot := by
  obtain ⟨orderly, stopped, unnoted⟩ := unobserved
  obtain ⟨horderly, hstepped⟩ := step_of_step? orderly hstep
  have hstanding : ∀ member, next.fleet.member? slot = some member → ∃ old,
      system.fleet.member? slot = some old ∧ member.transition = old.transition ∧
        member.running = old.running :=
    fun member => hstepped.standing_eq (by simp [hnone])
  have hstopped : ∀ member, next.fleet.member? slot = some member → member.running = false := by
    intro member hmember
    obtain ⟨old, hold, -, hrunning⟩ := hstanding member hmember
    exact hrunning.trans (stopped old hold)
  have hstays : ∀ member, next.fleet.member? slot = some member → ∃ old,
      system.fleet.member? slot = some old ∧ member.transition = old.transition := by
    intro member hmember
    obtain ⟨old, hold, htransition, -⟩ := hstanding member hmember
    exact ⟨old, hold, htransition⟩
  cases hstepped with
  | turn hturn _ hmonitor hprobes =>
      exact ⟨⟨horderly, hstopped, unnoted.kept hmonitor hprobes hstays⟩, (hnone ▸ hturn).resembles⟩
  | outside houtside _ _ _ _ hmonitor hprobes =>
      exact ⟨⟨horderly, hstopped, unnoted.kept hmonitor hprobes hstays⟩, .outside houtside⟩
  | move hmove =>
      exact ⟨⟨horderly, hstopped, unnoted.move hmove stopped hstays⟩, unnoted.resembles hmove⟩

end System

end FleetControl
