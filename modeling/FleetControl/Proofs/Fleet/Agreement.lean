import FleetControl.Proofs.Fleet.Reach

/-!
# What the calls do not read

Snapshots are for readers. A call decides by the slots, the transitions and the configurations, so
two fleets that differ in nothing but the snapshots of their members, and in the metrics, go the
same way with the same calls: the calls get the same results after the same waits, and ask the same
of the engine. What the monitor and its probes do meanwhile shows in nothing else either, and may
differ.
-/

namespace FleetControl

@[simp] theorem Member.standing_standing (member : Member) :
    member.standing.standing = member.standing := rfl

namespace Fleet

/-- A fleet without the snapshots of its members and without the metrics. -/
def bare (fleet : Fleet) : Fleet := { fleet with members := fleet.standings, metrics := {} }

variable {fleet : Fleet} {slot : Nat}

theorem member?_bare (fleet : Fleet) (slot : Nat) :
    fleet.bare.member? slot = (fleet.member? slot).map Member.standing :=
  List.getElem?_map ..

@[simp] theorem size_bare (fleet : Fleet) :
    fleet.bare.members.length = fleet.members.length :=
  List.length_map ..

/-- A change that does not read the snapshot shows in a bare fleet as in the fleet itself. -/
theorem bare_changeMember {change : Member → Member}
    (hchange : ∀ member, (change member.standing).standing = (change member).standing)
    (fleet : Fleet) (slot : Nat) :
    (fleet.bare.changeMember slot change).bare = (fleet.changeMember slot change).bare := by
  have hmembers : (fleet.standings.modify slot change).map Member.standing =
      (fleet.members.modify slot change).map Member.standing := by
    refine List.ext_getElem? fun index => ?_
    simp only [standings, List.getElem?_map, List.getElem?_modify]
    cases fleet.members[index]? with
    | none => rfl
    | some member =>
        by_cases hindex : slot = index
        · simpa [hindex] using hchange member
        · simp [hindex]
  exact congrArg (fun members => { fleet with members, metrics := {} }) hmembers

/-- A change of nothing but the snapshot does not show at all. -/
theorem bare_eq_of_standing {change : Member → Member}
    (hchange : ∀ member, fleet.member? slot = some member →
      (change member).standing = member.standing) :
    (fleet.changeMember slot change).bare = fleet.bare :=
  congrArg (fun members => { fleet with members, metrics := {} }) (standings_changeMember hchange)

theorem bare_bare (fleet : Fleet) : fleet.bare.bare = fleet.bare := by
  have hmembers : fleet.standings.map Member.standing = fleet.standings := by
    rw [standings, List.map_map]
    rfl
  exact congrArg (fun members => { fleet with members, metrics := {} }) hmembers

theorem bare_release (fleet : Fleet) (slot : Nat) (kind : TransitionKind) :
    (fleet.bare.release slot kind).bare = (fleet.release slot kind).bare :=
  bare_changeMember (fun _ => rfl) (fleet.setProcess slot none) slot

theorem bare_occupy (fleet : Fleet) (slot : Nat) (handle : Handle) :
    (fleet.bare.occupy slot handle).bare = (fleet.occupy slot handle).bare :=
  bare_changeMember (fun _ => rfl)
    { fleet with slots := fleet.slots.set slot (some handle) } slot

theorem bare_setConfig (fleet : Fleet) (slot : Nat) (config : MemberConfig) (launches : Nat) :
    bare { fleet.bare.changeMember slot (·.setConfig config) with launches } =
      bare { fleet.changeMember slot (·.setConfig config) with launches } :=
  bare_changeMember (fun _ => rfl) { fleet with launches } slot

/-- Whoever degrades a member touches nothing but its snapshot. -/
theorem bare_degrade (fleet : Fleet) (slot : Nat) (seen : Nanos) (activity : String) (started : Int)
    (cause : String) : (fleet.degrade slot seen activity started cause).bare = fleet.bare := by
  unfold degrade
  cases hmember : fleet.member? slot with
  | none => rfl
  | some member =>
      dsimp only
      split
      next written hwrite =>
        have hstanding := member.standing_updateStatusSince seen
          (·.setStopped (member.unreachableText activity started fleet.clock.wall cause))
        rw [← Member.markUnreachable, hwrite] at hstanding
        have hsame : (fleet.changeMember slot fun _ => written).bare = fleet.bare := by
          refine bare_eq_of_standing fun current hcurrent => ?_
          obtain rfl := Option.some.inj (hmember.symm.trans hcurrent)
          exact hstanding
        exact hsame
      next => rfl

end Fleet

namespace Calling

/-- The calls to a fleet without its snapshots and metrics. -/
def bare (calling : Calling) : Calling := { calling with fleet := calling.fleet.bare }

variable (calling : Calling) (id : Nat)

theorem bare_bare : calling.bare.bare = calling.bare :=
  congrArg (fun fleet => { calling with fleet }) calling.fleet.bare_bare

theorem cooledAt_bare (fleet : Fleet) (slot : Nat) :
    cooledAt fleet.bare slot = cooledAt fleet slot := by
  unfold cooledAt
  rw [Fleet.member?_bare]
  cases fleet.member? slot <;> rfl

/-- Where the fleets are the same but for snapshots and metrics, so are the calls to them. -/
theorem bare_eq {left right : Fleet} (hfleet : left.bare = right.bare) (calls : List Call)
    (line : List Nat) (made : Nat) :
    bare { fleet := left, calls, line, made } = bare { fleet := right, calls, line, made } :=
  congrArg (Calling.mk · calls line made) hfleet

theorem make_bare (operation : Operation) :
    (calling.bare.make operation).bare = (calling.make operation).bare := by
  have hbare := calling.fleet.bare_bare
  have hsize : calling.bare.fleet.members.length = calling.fleet.members.length :=
    calling.fleet.size_bare
  cases operation with
  | stop slot =>
      unfold make
      dsimp only
      rw [hsize]
      split <;> exact bare_eq hbare ..
  | restart slot =>
      unfold make
      dsimp only
      rw [hsize]
      split <;> exact bare_eq hbare ..
  | shutdown =>
      unfold make
      dsimp only
      rw [show calling.bare.fleet.shutDown = calling.fleet.shutDown from rfl]
      split
      next => exact bare_eq hbare ..
      next =>
        let fleet : Fleet :=
          { calling.fleet with shutDown := true, rootFired := true, stopFired := true }
        exact bare_eq fleet.bare_bare ..

/-- What a step comes to without the snapshots and the metrics. -/
def strip (step : Calling × List Command) : Calling × List Command := (step.1.bare, step.2)

theorem strip_eq {left right : Fleet} (hfleet : left.bare = right.bare) (calls : List Call)
    (line : List Nat) (made : Nat) (commands : List Command) :
    strip ({ fleet := left, calls, line, made }, commands) =
      strip ({ fleet := right, calls, line, made }, commands) :=
  Prod.ext (bare_eq hfleet ..) rfl

theorem onLock_bare (call : Call) :
    (calling.bare.onLock call).bare = (calling.onLock call).bare := by
  have hbare := calling.fleet.bare_bare
  unfold onLock
  dsimp only
  cases call.operation with
  | stop slot =>
      dsimp only
      rw [show calling.bare.fleet.process? slot = calling.fleet.process? slot from rfl]
      cases calling.fleet.process? slot with
      | none => exact bare_eq hbare ..
      | some handle =>
          have hcooled : cooledAt calling.bare.fleet slot = cooledAt calling.fleet slot :=
            cooledAt_bare ..
          dsimp only
          rw [hcooled]
          exact bare_eq hbare ..
  | restart slot =>
      dsimp only
      rw [show calling.bare.fleet.shutDown = calling.fleet.shutDown from rfl,
        show calling.bare.fleet.process? slot = calling.fleet.process? slot from rfl,
        show cooledAt calling.bare.fleet slot = cooledAt calling.fleet slot from cooledAt_bare ..]
      split
      next => exact bare_eq hbare ..
      next =>
        cases calling.fleet.process? slot with
        | none => exact bare_eq hbare ..
        | some handle => exact bare_eq hbare ..
  | shutdown => exact bare_eq hbare ..

theorem onCooled_bare (call : Call) :
    strip (calling.bare.onCooled call) = strip (calling.onCooled call) := by
  have hbare := calling.fleet.bare_bare
  unfold onCooled
  dsimp only
  cases call.operation with
  | stop slot =>
      dsimp only
      rw [show calling.bare.fleet.process? slot = calling.fleet.process? slot from rfl]
      cases calling.fleet.process? slot with
      | none => exact strip_eq hbare ..
      | some handle => exact strip_eq (calling.fleet.bare_release slot .stop) ..
  | restart slot =>
      dsimp only
      rw [show calling.bare.fleet.member? slot = _ from calling.fleet.member?_bare slot]
      cases calling.fleet.member? slot with
      | none => exact strip_eq hbare ..
      | some member => exact strip_eq hbare ..
  | shutdown => exact strip_eq hbare ..

theorem advance?_bare : (calling.bare.advance? id).map strip = (calling.advance? id).map strip := by
  have hbare := calling.fleet.bare_bare
  unfold advance?
  rw [show calling.bare.call? id = calling.call? id from rfl]
  cases calling.call? id with
  | none => rfl
  | some call =>
      simp only [Option.bind_eq_bind, Option.bind_some]
      cases call.phase with
      | draining =>
          dsimp only
          rw [show calling.bare.fleet.doneFired = calling.fleet.doneFired from rfl]
          split
          next => exact congrArg some (strip_eq hbare ..)
          next => rfl
      | queued =>
          dsimp only
          rw [show calling.bare.holds id = calling.holds id from rfl]
          split
          next => exact congrArg some (Prod.ext (calling.onLock_bare call) rfl)
          next => rfl
      | cooling due =>
          dsimp only
          rw [show calling.bare.fleet.clock = calling.fleet.clock from rfl]
          split
          next => exact congrArg some (calling.onCooled_bare call)
          next => rfl
      | emptying left alive =>
          cases left with
          | cons slot left =>
              dsimp only
              rw [show calling.bare.fleet.process? slot = calling.fleet.process? slot from rfl]
              cases calling.fleet.process? slot with
              | none => exact congrArg some (strip_eq hbare ..)
              | some handle =>
                  exact congrArg some
                    (strip_eq (calling.fleet.bare_release slot .shutdown) ..)
          | nil =>
              cases alive with
              | cons handle alive => rfl
              | nil =>
                  refine congrArg some (Prod.ext ?_ rfl)
                  let fleet : Fleet :=
                    { calling.fleet with
                      files := (calling.fleet.files.removeDirectory calling.fleet.rootDir).1 }
                  exact bare_eq fleet.bare_bare ..
      | launching => rfl
      | awaiting handle => rfl
      | ending handle result => rfl
      | finished result => rfl

theorem launched?_bare (outcome : Except Error MemberConfig) :
    (calling.bare.launched? id outcome).map strip = (calling.launched? id outcome).map strip := by
  have hbare := calling.fleet.bare_bare
  unfold launched?
  rw [show calling.bare.call? id = calling.call? id from rfl]
  cases calling.call? id with
  | none => rfl
  | some call =>
      simp only [Option.bind_eq_bind, Option.bind_some]
      split
      next =>
        cases outcome with
        | error error => exact congrArg some (strip_eq hbare ..)
        | ok config =>
            have hfleet := calling.fleet.bare_setConfig (slotOf call.operation) config
              (calling.fleet.launches + 1)
            exact congrArg some (strip_eq hfleet ..)
      next => rfl

theorem ready?_bare (outcome : Except Error Unit) :
    (calling.bare.ready? id outcome).map strip = (calling.ready? id outcome).map strip := by
  have hbare := calling.fleet.bare_bare
  unfold ready?
  rw [show calling.bare.call? id = calling.call? id from rfl]
  cases calling.call? id with
  | none => rfl
  | some call =>
      simp only [Option.bind_eq_bind, Option.bind_some]
      split
      next handle _ =>
        cases outcome with
        | error error => exact congrArg some (strip_eq hbare ..)
        | ok =>
            exact congrArg some
              (strip_eq (calling.fleet.bare_occupy (slotOf call.operation) handle) ..)
      next => rfl

theorem abandoned?_bare :
    (calling.bare.abandoned? id).map strip = (calling.abandoned? id).map strip := by
  have hbare := calling.fleet.bare_bare
  unfold abandoned?
  rw [show calling.bare.call? id = calling.call? id from rfl]
  cases calling.call? id with
  | none => rfl
  | some call =>
      simp only [Option.bind_eq_bind, Option.bind_some]
      split
      next =>
        rw [show calling.bare.fleet.rootFired = calling.fleet.rootFired from rfl]
        split
        next => exact congrArg some (strip_eq hbare ..)
        next => rfl
      next => rfl

theorem ended?_bare (handle : Handle) :
    (calling.bare.ended? id handle).map bare = (calling.ended? id handle).map bare := by
  have hbare := calling.fleet.bare_bare
  unfold ended?
  rw [show calling.bare.call? id = calling.call? id from rfl]
  cases calling.call? id with
  | none => rfl
  | some call =>
      simp only [Option.bind_eq_bind, Option.bind_some]
      split
      next =>
        split
        next => exact congrArg some (bare_eq hbare ..)
        next => rfl
      next =>
        split
        next => exact congrArg some (bare_eq hbare ..)
        next => rfl
      next => rfl

end Calling

/-- The event is one of the calls, or of what they wait for. -/
def Event.isOfCalls : Event → Bool
  | .outside _ => true
  | .call _ => true
  | .advance _ => true
  | .launched .. => true
  | .ready .. => true
  | .abandoned _ => true
  | .ended .. => true
  | .tick => false
  | .survey => false
  | .join => false
  | .quit => false
  | .probe _ => false
  | .answered .. => false
  | .drop _ => false

/-- The calls have a part in the event. The end of the monitor is one, since a shutdown waits for
it. -/
def Event.isStructural (event : Event) : Bool :=
  event.isOfCalls ||
    match event with
    | .quit => true
    | _ => false

namespace Calling

/-- What the calls do with an event. The monitor ends at any time. -/
def take? (calling : Calling) : Event → Option (Calling × List Command)
  | .outside event =>
      (calling.fleet.outside? event).map fun fleet => ({ calling with fleet }, [])
  | .call operation => some (calling.make operation, [])
  | .advance id => calling.advance? id
  | .launched id outcome => calling.launched? id outcome
  | .ready id outcome => calling.ready? id outcome
  | .abandoned id => calling.abandoned? id
  | .ended id handle => (calling.ended? id handle).map fun calling => (calling, [])
  | .quit => some ({ calling with fleet := { calling.fleet with doneFired := true } }, [])
  | _ => none

/-- The calls to a bare fleet. -/
def bareStep? (calling : Calling) (event : Event) : Option (Calling × List Command) :=
  (calling.take? event).map strip

/-- What the calls do does not depend on the snapshots and the metrics. -/
theorem bareStep?_bare (calling : Calling) (event : Event) :
    calling.bare.bareStep? event = calling.bareStep? event := by
  have hbare := calling.fleet.bare_bare
  unfold bareStep?
  cases event with
  | outside outer =>
      cases outer with
      | time clock =>
          simp only [take?, Fleet.outside?]
          rw [show calling.bare.fleet.clock = calling.fleet.clock from rfl]
          split
          next =>
            let fleet : Fleet := { calling.fleet with clock }
            exact congrArg some (strip_eq fleet.bare_bare ..)
          next => rfl
      | fireRoot =>
          let fleet : Fleet := { calling.fleet with rootFired := true }
          exact congrArg some (strip_eq fleet.bare_bare ..)
      | touch files =>
          let fleet : Fleet := { calling.fleet with files }
          exact congrArg some (strip_eq fleet.bare_bare ..)
  | call operation => exact congrArg some (Prod.ext (calling.make_bare operation) rfl)
  | advance id => exact calling.advance?_bare id
  | launched id outcome => exact calling.launched?_bare id outcome
  | ready id outcome => exact calling.ready?_bare id outcome
  | abandoned id => exact calling.abandoned?_bare id
  | ended id handle =>
      have hended := congrArg (Option.map fun calling => (calling, ([] : List Command)))
        (calling.ended?_bare id handle)
      rw [Option.map_map, Option.map_map] at hended
      simp only [take?, Option.map_map]
      exact hended
  | quit =>
      let fleet : Fleet := { calling.fleet with doneFired := true }
      exact congrArg some (strip_eq fleet.bare_bare ..)
  | tick | survey | join | probe | answered | drop => rfl

end Calling

namespace Watching

variable {watching next : Watching} {commands : List Command} {slot : Nat}

theorem fleet_of_tick (hstep : watching.tick? = some next) : next.fleet = watching.fleet := by
  simp only [tick?, Option.ite_none_right_eq_some, Option.some.injEq] at hstep
  rw [← hstep.2]

/-- The monitor goes through the members, and touches nothing but snapshots. -/
theorem bare_of_survey (hstep : watching.survey? = some next) :
    next.fleet.bare = watching.fleet.bare := by
  unfold survey? at hstep
  split at hstep
  next =>
    split at hstep
    next => exact Option.some.inj hstep ▸ rfl
    next => exact Option.some.inj hstep ▸ rfl
  next =>
    obtain rfl := Option.some.inj hstep
    exact Fleet.bare_eq_of_standing fun member _ => member.standing_refreshStoppedText _
  next =>
    split at hstep
    next => simp at hstep
    next => exact Option.some.inj hstep ▸ rfl
  next => simp at hstep

theorem bare_of_join (hstep : watching.join? = some next) :
    next.fleet.bare = watching.fleet.bare := by
  unfold join? at hstep
  split at hstep
  next => exact Option.some.inj hstep ▸ rfl
  next =>
    simp only [Option.bind_eq_bind, Option.bind_eq_some_iff] at hstep
    obtain ⟨probe, hprobe, hstep⟩ := hstep
    split at hstep
    next => exact Option.some.inj hstep ▸ rfl
    next =>
      split at hstep
      next => exact Option.some.inj hstep ▸ rfl
      next =>
        obtain rfl := Option.some.inj hstep
        exact Fleet.bare_degrade ..
    next => simp at hstep
  next => simp at hstep

/-- So does a probe. -/
theorem bare_of_advance (hstep : watching.advance? slot = some (next, commands)) :
    next.fleet.bare = watching.fleet.bare := by
  unfold advance? at hstep
  simp only [Option.bind_eq_bind, Option.bind_eq_some_iff] at hstep
  obtain ⟨probe, hprobe, member, hmember, hstep⟩ := hstep
  cases hphase : probe.phase with
  | begun =>
      simp only [hphase] at hstep
      exact (Prod.mk.inj (Option.some.inj hstep)).1 ▸ rfl
  | healthy config report =>
      simp only [hphase] at hstep
      exact (Prod.mk.inj (Option.some.inj hstep)).1 ▸ rfl
  | committing config report text =>
      simp only [hphase, Member.updateStatusSince] at hstep
      split at hstep
      next written hwrite =>
        obtain ⟨rfl, -⟩ := Prod.mk.inj (Option.some.inj hstep)
        have hsame : (watching.fleet.changeMember slot fun _ => written).bare =
            watching.fleet.bare := by
          refine Fleet.bare_eq_of_standing fun current hcurrent => ?_
          obtain rfl := Option.some.inj (hmember.symm.trans hcurrent)
          have hstanding := member.standing_updateStatusSince probe.seen
            (·.commit config.clientUrl text report)
          rw [Member.updateStatusSince, hwrite] at hstanding
          exact hstanding
        exact hsame
      next => exact (Prod.mk.inj (Option.some.inj hstep)).1 ▸ rfl
  | failing fault started =>
      simp only [hphase] at hstep
      obtain ⟨rfl, -⟩ := Prod.mk.inj (Option.some.inj hstep)
      exact Fleet.bare_degrade ..
  | asking config started => simp [hphase] at hstep
  | finished => simp [hphase] at hstep
  | unwound text => simp [hphase] at hstep

/-- The end of the monitor shows in its own signal alone. -/
theorem fleet_of_quit (hstep : watching.quit? = some next) :
    next.fleet = { watching.fleet with doneFired := true } := by
  unfold quit? at hstep
  dsimp only at hstep
  split at hstep
  next =>
    split at hstep
    next => exact Option.some.inj hstep ▸ rfl
    next => exact Option.some.inj hstep ▸ rfl
    next => simp at hstep
  next => simp at hstep

end Watching

namespace System

variable {system next first last other final : System} {event : Event} {commands : List Command}
  {moments more : List (Moment System Event)}

/-- The calls, and what they wait for, have their steps in the system. -/
theorem step?_of_calls (hevent : event.isOfCalls = true) (system : System) :
    (system.step? event).map (fun step => (step.1.calling, step.2)) =
      system.calling.take? event := by
  cases event with
  | call operation => rfl
  | outside outer =>
      simp only [step?, Calling.take?, Option.map_map]
      rfl
  | ended id handle =>
      simp only [step?, Calling.take?, Option.map_map]
      rfl
  | advance | launched | ready | abandoned =>
      simp only [step?, Calling.take?, Option.map_map]
      exact Option.map_id'
  | tick | survey | join | quit | probe | answered | drop => simp [Event.isOfCalls] at hevent

/-- What belongs to the monitor and its probes does not show in a bare fleet. -/
theorem bare_of_step? (hstep : system.step? event = some (next, commands))
    (hevent : event.isStructural = false) : next.calling.bare = system.calling.bare := by
  have hbare : next.fleet.bare = system.fleet.bare → next.calls = system.calls →
      next.line = system.line → next.made = system.made →
      next.calling.bare = system.calling.bare := by
    intro hfleet hcalls hline hmade
    simp only [calling, hcalls, hline, hmade]
    exact Calling.bare_eq hfleet ..
  cases event with
  | tick =>
      obtain ⟨watching, hwatching, rfl, rfl⟩ := exists_of_onWatching hstep
      exact hbare (congrArg Fleet.bare (Watching.fleet_of_tick hwatching)) rfl rfl rfl
  | survey =>
      obtain ⟨watching, hwatching, rfl, rfl⟩ := exists_of_onWatching hstep
      exact hbare (Watching.bare_of_survey hwatching) rfl rfl rfl
  | join =>
      obtain ⟨watching, hwatching, rfl, rfl⟩ := exists_of_onWatching hstep
      exact hbare (Watching.bare_of_join hwatching) rfl rfl rfl
  | probe slot =>
      obtain ⟨watching, hwatching, rfl⟩ := exists_of_advance? hstep
      exact hbare (Watching.bare_of_advance hwatching) rfl rfl rfl
  | answered slot answer =>
      obtain ⟨watching, hwatching, rfl, rfl⟩ := exists_of_onWatching hstep
      exact hbare (congrArg Fleet.bare (Watching.fleet_of_answered hwatching)) rfl rfl rfl
  | drop slot =>
      obtain ⟨watching, hwatching, rfl, rfl⟩ := exists_of_onWatching hstep
      exact hbare (congrArg Fleet.bare (Watching.fleet_of_drop hwatching)) rfl rfl rfl
  | outside | call | advance | launched | ready | abandoned | ended | quit =>
      simp [Event.isStructural, Event.isOfCalls] at hevent

/-- Everything else does, and in the same way for all snapshots. -/
theorem bareStep?_of_step? (hstep : system.step? event = some (next, commands))
    (hevent : event.isStructural = true) :
    system.calling.bare.bareStep? event = some (next.calling.bare, commands) := by
  rw [Calling.bareStep?_bare]
  cases hcalls : event.isOfCalls with
  | true =>
      have htake := step?_of_calls hcalls system
      rw [hstep] at htake
      rw [Calling.bareStep?, ← htake]
      rfl
  | false =>
      cases event with
      | quit =>
          obtain ⟨watching, hwatching, rfl, rfl⟩ := exists_of_onWatching hstep
          have hfleet := Watching.fleet_of_quit hwatching
          simp only [Calling.bareStep?, Calling.take?, Option.map_some, Calling.strip, calling,
            withWatching, hfleet]
          rfl
      | outside | call | advance | launched | ready | abandoned | ended =>
          simp [Event.isOfCalls] at hcalls
      | tick | survey | join | probe | answered | drop =>
          simp [Event.isStructural, Event.isOfCalls] at hevent

/-- A moment of the calls, without the snapshots and the metrics. -/
def bareMoment (moment : Moment System Event) : Moment Calling Event :=
  ⟨moment.before.calling.bare, moment.event, moment.commands, moment.after.calling.bare⟩

/-- What the calls do in the course of events, without the snapshots and the metrics. -/
def bareMoments (moments : List (Moment System Event)) : List (Moment Calling Event) :=
  (moments.filter (·.event.isStructural)).map bareMoment

/-- The calls go their way in a bare fleet as in the fleet itself. -/
theorem course_bare (hcourse : Course step? first moments last) :
    Course Calling.bareStep? first.calling.bare (bareMoments moments) last.calling.bare := by
  induction hcourse with
  | start => exact .start
  | @next moments last after event commands _ hstep ih =>
      cases hevent : event.isStructural with
      | true =>
          have hmoments : bareMoments (moments ++ [⟨last, event, commands, after⟩]) =
              bareMoments moments ++
                [⟨last.calling.bare, event, commands, after.calling.bare⟩] := by
            simp [bareMoments, bareMoment, hevent]
          rw [hmoments]
          exact .next ih (bareStep?_of_step? hstep hevent)
      | false =>
          have hmoments : bareMoments (moments ++ [⟨last, event, commands, after⟩]) =
              bareMoments moments := by
            simp [bareMoments, hevent]
          rw [hmoments, bare_of_step? hstep hevent]
          exact ih

/-- What a run comes to, without the snapshots and the metrics. -/
def stripped (run : System × List Command) : Calling × List Command :=
  (run.1.calling.bare, run.2)

theorem step?_agrees (hagree : system.calling.bare = other.calling.bare)
    (hevent : event.isOfCalls = true) :
    (system.step? event).map stripped = (other.step? event).map stripped := by
  have hstripped : ∀ system : System,
      (system.step? event).map stripped = system.calling.bareStep? event := by
    intro system
    rw [Calling.bareStep?, ← step?_of_calls hevent, Option.map_map]
    rfl
  rw [hstripped, hstripped, ← Calling.bareStep?_bare, hagree, Calling.bareStep?_bare]

theorem stripped_run?_cons (system : System) (event : Event) (rest : List Event) :
    (system.run? (event :: rest)).map stripped =
      (system.step? event).bind fun step =>
        ((step.1.run? rest).map stripped).map fun run => (run.1, step.2 ++ run.2) := by
  simp only [run?, Option.bind_eq_bind, Option.map_bind]
  congr 1
  funext step
  cases hrun : step.1.run? rest with
  | none => simp [Function.comp, hrun]
  | some run => simp [Function.comp, hrun, stripped]

/-- Calls run in the same way in fleets that differ in their snapshots and metrics. -/
theorem run?_agrees {events : List Event} (hagree : system.calling.bare = other.calling.bare)
    (hevents : ∀ event ∈ events, event.isOfCalls = true) :
    (system.run? events).map stripped = (other.run? events).map stripped := by
  induction events generalizing system other with
  | nil => exact congrArg some (Prod.ext hagree rfl)
  | cons event rest ih =>
      obtain ⟨hevent, hrest⟩ := List.forall_mem_cons.mp hevents
      have hfirst := step?_agrees hagree hevent
      rw [stripped_run?_cons, stripped_run?_cons]
      cases hstep : system.step? event with
      | none =>
          rw [hstep, Option.map_none, eq_comm, Option.map_eq_none_iff] at hfirst
          rw [hfirst]
      | some step =>
          rw [hstep, Option.map_some, eq_comm, Option.map_eq_some_iff] at hfirst
          obtain ⟨again, hagain, hsame⟩ := hfirst
          obtain ⟨hnext, hcommands⟩ := Prod.mk.inj hsame
          rw [hagain, Option.bind_some, Option.bind_some, ih hnext.symm hrest, hcommands]

/-- Every call treats the member of a slot as one that runs, with this process. -/
structure HandlesRunning (system : System) (slot : Nat) (handle : Handle) : Prop where
  process : system.fleet.process? slot = some handle
  /-- A stop that takes the lock lets the member cool down. -/
  cools : ∀ id, system.calling.call? id = some ⟨id, .stop slot, .queued⟩ →
    system.calling.holds id = true → ∃ next, system.step? (.advance id) = some (next, []) ∧
      next.calling.call? id =
        some ⟨id, .stop slot, .cooling (Calling.cooledAt system.fleet slot)⟩
  /-- After that it tears the process down. -/
  stops : ∀ id due, system.calling.call? id = some ⟨id, .stop slot, .cooling due⟩ →
    due ≤ system.fleet.clock.instant → ∃ next,
      system.step? (.advance id) = some (next, teardown slot handle) ∧
      next.fleet.process? slot = none ∧
      next.calling.call? id = some ⟨id, .stop slot, .ending handle (.ok ())⟩
  /-- A shutdown that is under way still has the slot before it. -/
  awaits : ∀ id left alive, system.underway? = some ⟨id, .shutdown, .emptying left alive⟩ →
    slot ∈ left
  /-- When it comes to the slot, it tears the process down. -/
  clears : ∀ id left alive,
    system.calling.call? id = some ⟨id, .shutdown, .emptying (slot :: left) alive⟩ → ∃ next,
      system.step? (.advance id) = some (next, teardown slot handle) ∧
      next.fleet.process? slot = none ∧
      next.calling.call? id = some ⟨id, .shutdown, .emptying left (alive ++ [handle])⟩
  /-- A restart that takes the lock of an open fleet has nothing to do. -/
  skips : ∀ id, system.calling.call? id = some ⟨id, .restart slot, .queued⟩ →
    system.calling.holds id = true → system.fleet.shutDown = false → ∃ next,
      system.step? (.advance id) = some (next, []) ∧ next.fleet = system.fleet ∧
      next.calling.call? id = some ⟨id, .restart slot, .finished (.ok ())⟩

variable {slot : Nat} {handle : Handle}

theorem call?_setPhase {calling : Calling} {id : Nat} {call : Call}
    (hcall : calling.call? id = some call) (phase : CallPhase) :
    (calling.setPhase id phase).call? id = some { call with phase } := by
  have hsame : (fun call : Call => decide (call.id = id)) ∘ (fun call =>
      if call.id = id then { call with phase } else call) = fun call => decide (call.id = id) := by
    funext call
    simp only [Function.comp]
    split <;> rfl
  rw [Calling.call?, Calling.setPhase, List.find?_map, hsame, ← Calling.call?, hcall,
    Option.map_some, if_pos (Calling.call?_id hcall)]

/-- In a fleet whose books are kept, the process in a slot is all that a call goes by. -/
theorem Kept.handlesRunning (kept : system.Kept)
    (hprocess : system.fleet.process? slot = some handle) : system.HandlesRunning slot handle := by
  have hsame : system.calling.fleet.process? slot = some handle := hprocess
  refine ⟨hprocess, ?_, ?_, ?_, ?_, ?_⟩
  · intro id hcall hholds
    have hadvance : system.calling.advance? id = some (system.calling.setPhase id
        (.cooling (Calling.cooledAt system.fleet slot)), []) := by
      simp only [Calling.advance?, hcall, Option.bind_eq_bind, Option.bind_some, hholds,
        Calling.onLock, hsame, if_true]
      rfl
    exact ⟨_, step?_of_advance hadvance, call?_setPhase hcall _⟩
  · intro id due hcall hdue
    let torn : Calling := { system.calling with fleet := system.fleet.release slot .stop }
    have hadvance : system.calling.advance? id =
        some (torn.setPhase id (.ending handle (.ok ())), teardown slot handle) := by
      simp only [Calling.advance?, hcall, Option.bind_eq_bind, Option.bind_some,
        show due ≤ system.calling.fleet.clock.instant from hdue, Calling.onCooled, hsame, if_true]
      rfl
    have hempty := system.fleet.process?_release slot slot .stop
    rw [if_pos rfl] at hempty
    have htorn : torn.call? id = some ⟨id, .stop slot, .cooling due⟩ := hcall
    exact ⟨_, step?_of_advance hadvance, hempty, call?_setPhase htorn _⟩
  · intro id left alive hunderway
    obtain ⟨notes, sound⟩ := kept.1
    exact sound.booked.sees _ hunderway slot handle hprocess
  · intro id left alive hcall
    let torn : Calling := { system.calling with fleet := system.fleet.release slot .shutdown }
    have hadvance : system.calling.advance? id =
        some (torn.setPhase id (.emptying left (alive ++ [handle])), teardown slot handle) := by
      simp only [Calling.advance?, hcall, Option.bind_eq_bind, Option.bind_some, hsame]
      rfl
    have hempty := system.fleet.process?_release slot slot .shutdown
    rw [if_pos rfl] at hempty
    have htorn : torn.call? id = some ⟨id, .shutdown, .emptying (slot :: left) alive⟩ := hcall
    exact ⟨_, step?_of_advance hadvance, hempty, call?_setPhase htorn _⟩
  · intro id hcall hholds hopen
    have hadvance : system.calling.advance? id =
        some (system.calling.finish id (.ok ()), []) := by
      simp only [Calling.advance?, hcall, Option.bind_eq_bind, Option.bind_some, hholds,
        Calling.onLock, show system.calling.fleet.shutDown = false from hopen, hsame, if_true,
        Bool.false_eq_true, if_false]
    exact ⟨_, step?_of_advance hadvance, rfl, call?_setPhase hcall _⟩

end System

/-- Two fleets that agree in everything but the snapshots of their members and the metrics, as they
go on with the same calls, the same time and the same answers of the engine, while the monitor does
what it likes in each of them. The calls take the same steps, come to the same results after the
same waits and command the same, and the fleets still agree; and whatever the calls do next in one
of them, they do in the other. So in a started fleet at any time, whatever the snapshot of a member
shows, one that runs is torn down by a stop and by a shutdown and is left alone by a restart. -/
theorem calls_do_not_read_snapshots {first other : System}
    (hagree : first.calling.bare = other.calling.bare) :
    (∀ moments last more final, Course System.step? first moments last →
      Course System.step? other more final →
      (System.bareMoments moments).map (·.event) = (System.bareMoments more).map (·.event) →
      System.bareMoments moments = System.bareMoments more ∧
      last.calling.bare = final.calling.bare ∧
      ∀ events : List Event, (∀ event ∈ events, event.isOfCalls = true) →
        (last.run? events).map System.stripped = (final.run? events).map System.stripped) ∧
    (first.Reachable → ∀ slot member, first.fleet.member? slot = some member →
      member.running = true → ∃ handle, first.HandlesRunning slot handle) := by
  constructor
  · intro moments last more final hcourse hmore hevents
    have hbare := System.course_bare hmore
    rw [← hagree] at hbare
    obtain ⟨hmoments, hlast⟩ := (System.course_bare hcourse).functional hbare hevents
    exact ⟨hmoments, hlast, fun events hcalls => System.run?_agrees hlast hcalls⟩
  · intro hreachable slot member hmember hrunning
    have kept := hreachable.kept
    obtain ⟨handle, hprocess⟩ := kept.exists_process? hmember hrunning
    exact ⟨handle, kept.handlesRunning hprocess⟩

/-- The only member of the smallest fleet is shown stopped, which no call takes notice of. -/
theorem solo_calls_do_not_read_snapshots :
    ∃ fleet degraded member handle, Started soloSettings fleet ∧
      degraded.member? 0 = some member ∧ member.status.state = .stopped ∧
      (∀ events : List Event, (∀ event ∈ events, event.isOfCalls = true) →
        ((System.ofStart fleet 0).run? events).map System.stripped =
          ((System.ofStart degraded 0).run? events).map System.stripped) ∧
      (System.ofStart fleet 0).HandlesRunning 0 handle := by
  obtain ⟨fleet, member, hstarted, hmember⟩ := started_solo
  let degrade (member : Member) : Member := member.updateStatus (·.setStopped "degraded")
  have hfleet : (fleet.changeMember 0 degrade).bare = fleet.bare :=
    Fleet.bare_eq_of_standing fun _ _ => rfl
  have hdegraded := fleet.member?_changeMember_self 0 degrade
  rw [hmember, Option.map_some] at hdegraded
  have hagree : (System.ofStart fleet 0).calling.bare =
      (System.ofStart (fleet.changeMember 0 degrade) 0).calling.bare :=
    Calling.bare_eq hfleet.symm [] [] 0
  obtain ⟨hcourses, hrunning⟩ := calls_do_not_read_snapshots hagree
  obtain ⟨handle, hhandles⟩ :=
    hrunning ⟨_, fleet, 0, [], hstarted, .start⟩ 0 member hmember (hstarted.running hmember)
  obtain ⟨-, -, hruns⟩ := hcourses [] _ [] _ .start .start rfl
  exact ⟨fleet, _, _, handle, hstarted, hdegraded, rfl, hruns, hhandles⟩

end FleetControl
