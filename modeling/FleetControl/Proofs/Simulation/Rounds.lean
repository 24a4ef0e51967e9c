import FleetControl.Proofs.Fleet.Passage
import FleetControl.Proofs.Simulation.Mirror

/-!
# Quiet rounds

A round during which nothing else happens is a round of the running system alone: its members do not
change, and answer as they are. Such a round can always be had, once its time has come.
-/

namespace FleetControl.Simulation

namespace SimulatedFleet

variable {sim : SimulatedFleet} {slot : Nat}

/-- While no report is to name no leader, answers change nothing. -/
theorem respond_fst (hleaderless : sim.leaderless = 0) (slot : Nat) :
    (respond slot sim).1 = sim := by
  unfold respond
  split
  next => rfl
  next =>
    split
    next => rfl
    next =>
      dsimp only
      rw [if_neg (by simp [hleaderless])]

/-- What a member reports that runs and can be reached. -/
def report (sim : SimulatedFleet) (slot : Nat) : ProbeReport where
  status :=
    { memberId := memberIdOf slot, leaderId := sim.leader?.elim 0 memberIdOf
      dbSize := simulatedDbSize }
  hash := simulatedHash

theorem respond_snd (hrunning : slot ∈ sim.running) (hunreachable : slot ∉ sim.unreachable)
    (hunwinding : slot ∉ sim.unwinding) (hleaderless : sim.leaderless = 0) :
    (respond slot sim).2 = .reply (.ok (sim.report slot)) := by
  simp [respond, hrunning, hunreachable, hunwinding, hleaderless, report]

end SimulatedFleet

namespace Timeline

variable {settings : FleetSettings} {line next last : Timeline SimulatedFleet}

/-- What a round consists of, once the monitor's time has come: the monitor goes on, and so do its
probes, their members answer, and time passes. -/
def OfRound (line : Timeline SimulatedFleet) : Cue → Prop
  | .keep place => ∃ owed, line.pending[place]? = some owed ∧ owed.promise.isLate = true
  | .run .survey => True
  | .run .join => True
  | .run (.probe _) => True
  | .outside (.time _) => True
  | .note => True
  | _ => False

/-- A probe's question leaves the simulated fleet as it is. -/
theorem world_follow (haround : line.around = SimulatedFleet.surroundings) (stage : Stage)
    {commands : List Command}
    (hcommands : commands = [] ∨ ∃ slot config, commands = [.probe slot config]) :
    (line.follow stage commands).world = line.world := by
  obtain ⟨around, world, stage, tickInterval, pending, finishTimes⟩ := line
  obtain rfl : around = SimulatedFleet.surroundings := haround
  rcases hcommands with rfl | ⟨slot, config, rfl⟩ <;> rfl

/-- From one line to another the running system has gone through events that nothing disturbs, while
the simulated fleet has not changed. -/
structure Undisturbed (line next : Timeline SimulatedFleet) (system after : System) : Prop where
  stage : next.stage = .running after
  world : next.world = line.world
  course : ∃ moments, Course System.step? system moments after ∧ ∀ moment ∈ moments,
    moment.event.Undisturbed fun slot => (SimulatedFleet.respond slot line.world).2

namespace Undisturbed

variable {system middle after : System}

/-- The system takes no step. -/
theorem still (hstage : next.stage = .running system) (hworld : next.world = line.world) :
    Undisturbed line next system system :=
  ⟨hstage, hworld, [], .start, by simp⟩

theorem trans (hleft : Undisturbed line next system middle)
    (hright : Undisturbed next last middle after) : Undisturbed line last system after := by
  obtain ⟨early, hearly, hevents⟩ := hleft.course
  obtain ⟨late, hlate, hmore⟩ := hright.course
  rw [hleft.world] at hmore
  exact ⟨hright.stage, hright.world.trans hleft.world, early ++ late, hearly.append hlate,
    List.forall_mem_append.mpr ⟨hevents, hmore⟩⟩

/-- A single event, after which the simulated fleet is as before. -/
theorem onRun? (haround : line.around = SimulatedFleet.surroundings)
    (hstage : line.stage = .running system) {event : Event}
    (hevent : event.Undisturbed fun slot => (SimulatedFleet.respond slot line.world).2)
    {change : SimulatedFleet → SimulatedFleet} (hchange : change line.world = line.world)
    (hnext : line.onRun? event change = some next) :
    ∃ after, Undisturbed line next system after := by
  simp only [Timeline.onRun?, hstage, Option.map_eq_some_iff, Prod.exists] at hnext
  obtain ⟨after, commands, hstep, rfl⟩ := hnext
  have hcommands := System.commands_of_undisturbed hevent hstep
  refine ⟨after, stage_follow ?_ .., (world_follow ?_ _ hcommands).trans hchange,
    _, .single hstep, by simpa using hevent⟩
  · exact haround
  · exact haround

/-- An event that the running system may take, or not. -/
theorem getD (haround : line.around = SimulatedFleet.surroundings)
    (hstage : line.stage = .running system) {event : Event}
    (hevent : event.Undisturbed fun slot => (SimulatedFleet.respond slot line.world).2)
    {change : SimulatedFleet → SimulatedFleet} (hchange : change line.world = line.world) :
    ∃ after, Undisturbed line ((line.onRun? event change).getD line) system after := by
  cases hnext : line.onRun? event change with
  | none => exact ⟨system, .still hstage rfl⟩
  | some next => exact onRun? haround hstage hevent hchange hnext

/-- Late answers are those of probes. -/
theorem keep (haround : line.around = SimulatedFleet.surroundings)
    (hstage : line.stage = .running system) (hleaderless : line.world.leaderless = 0)
    {notes : List EngineNote} {promise : Promise SimulatedFleet} (hlawful : promise.Lawful notes)
    (hlate : promise.isLate = true) :
    ∃ after, Undisturbed line (line.keep promise) system after := by
  cases promise with
  | answer slot full resolve =>
      obtain rfl : full = true := hlate
      obtain rfl : resolve = SimulatedFleet.respond slot := hlawful
      change ∃ after, Undisturbed line ((line.onRun? (.answered slot _)
        fun _ => (SimulatedFleet.respond slot line.world).1).getD line) system after
      refine getD haround hstage ?_ (SimulatedFleet.respond_fst hleaderless slot)
      rfl
  | fireRoot | launched | ready | ended | call => simp [Promise.isLate] at hlate

theorem outside (hstage : line.stage = .running system) (clock : Clock) :
    ∃ after, Undisturbed line (line.outside (.time clock)) system after := by
  unfold Timeline.outside
  simp only [hstage]
  cases hstep : system.step? (.outside (.time clock)) with
  | none => exact ⟨system, .still rfl rfl⟩
  | some next => exact ⟨next.1, rfl, rfl, _, .single hstep, by simp [Event.Undisturbed]⟩

/-- A cue of a round disturbs nothing. -/
theorem of_play? {notes : List EngineNote} (mirrors : line.Mirrors settings notes)
    (hstage : line.stage = .running system) (hleaderless : line.world.leaderless = 0) {cue : Cue}
    {commands : List Command} (hround : line.OfRound cue)
    (hplay : line.play? cue = some (next, commands)) :
    ∃ after, Undisturbed line next system after := by
  simp only [play?, Option.map_eq_some_iff, Prod.mk.injEq] at hplay
  obtain ⟨found, hplay, rfl, -⟩ := hplay
  cases cue with
  | keep place =>
      obtain ⟨owed, howed, hlate⟩ := hround
      simp only [howed, Option.bind_eq_bind, Option.bind_some, Option.ite_none_right_eq_some,
        Option.some.injEq] at hplay
      obtain ⟨-, rfl⟩ := hplay
      let rest : Timeline SimulatedFleet :=
        { line with pending := line.pending.eraseIdx place }
      have hrest : Undisturbed line rest system system := .still hstage rfl
      obtain ⟨after, hkept⟩ := keep (show rest.around = _ from mirrors.around) hstage hleaderless
        (mirrors.lawful owed (List.mem_of_getElem? howed)) hlate
      exact ⟨after, hrest.trans hkept⟩
  | run event =>
      have hevent : event.Undisturbed fun slot =>
          (SimulatedFleet.respond slot line.world).2 := by
        cases event with
        | survey | join | probe => trivial
        | outside | call | advance | launched | ready | abandoned | ended | tick | quit | answered
        | drop => exact hround.elim
      simp only [Option.ite_none_right_eq_some] at hplay
      exact onRun? mirrors.around hstage hevent rfl hplay.2
  | outside event =>
      obtain rfl := Option.some.inj hplay
      cases event with
      | time clock => exact outside hstage clock
      | fireRoot | touch => exact hround.elim
  | note =>
      obtain rfl := Option.some.inj hplay
      unfold noteFinished
      simp only [hstage]
      exact ⟨system, .still rfl rfl⟩
  | start | enter | fault => exact hround.elim

theorem of_course {moments : List (Moment (Timeline SimulatedFleet) Cue)}
    (mirrors : ∃ notes, line.Mirrors settings notes) (hstage : line.stage = .running system)
    (hleaderless : line.world.leaderless = 0) (hcourse : Course play? line moments last)
    (hround : ∀ moment ∈ moments, moment.before.OfRound moment.event) :
    ∃ after, Undisturbed line last system after := by
  induction hcourse with
  | start => exact ⟨system, .still hstage rfl⟩
  | next earlier hplay ih =>
      obtain ⟨hearly, hlast⟩ := List.forall_mem_append.mp hround
      obtain ⟨middle, hbefore⟩ := ih hearly
      obtain ⟨notes, between⟩ := Mirrors.course mirrors earlier
      obtain ⟨after, hafter⟩ := of_play? between hbefore.stage
        (hbefore.world ▸ hleaderless) (hlast _ List.mem_cons_self) hplay
      exact ⟨after, hbefore.trans hafter⟩

end Undisturbed

/-- The monitor waits for its next round. -/
def Waits (line : Timeline SimulatedFleet) : Prop :=
  ∃ system, line.stage = .running system ∧ system.monitor.phase = .idle

/-- A round has gone on, and nothing else has happened. -/
def GoesOn (line next : Timeline SimulatedFleet) : Prop :=
  ∃ moments, Course play? line moments next ∧ ∀ moment ∈ moments, moment.before.OfRound moment.event

/-- A whole round of the monitor, during which nothing else happens. -/
def QuietRound (line last : Timeline SimulatedFleet) : Prop :=
  ∃ begun, line.play? (.run .tick) = some (begun, []) ∧ begun.GoesOn last ∧ last.Waits

theorem QuietRound.mirrors (hround : line.QuietRound last)
    (mirrors : ∃ notes, line.Mirrors settings notes) : ∃ notes, last.Mirrors settings notes := by
  obtain ⟨begun, htick, ⟨moments, hcourse, -⟩, -⟩ := hround
  exact Mirrors.course (Mirrors.course mirrors (.single htick)) hcourse

/-- What the running system does in such a round. -/
theorem QuietRound.exists_round (hround : line.QuietRound last)
    (mirrors : ∃ notes, line.Mirrors settings notes) (hleaderless : line.world.leaderless = 0) :
    ∃ system begun after commands, line.stage = .running system ∧
      system.step? .tick = some (begun, commands) ∧ after.monitor.phase = .idle ∧
      Undisturbed line last begun after := by
  obtain ⟨begun, htick, ⟨moments, hcourse, hcues⟩, final, hlast, hidle⟩ := hround
  have mirrorsBegun := Mirrors.course mirrors (.single htick)
  obtain ⟨notes, mirrors⟩ := mirrors
  simp only [play?, Event.isOwn, if_true, Option.map_eq_some_iff, Prod.mk.injEq, and_true,
    exists_eq_right] at htick
  cases hstage : line.stage with
  | starting start => simp [onRun?, hstage] at htick
  | running system =>
      simp only [onRun?, hstage, Option.map_eq_some_iff, Prod.exists] at htick
      obtain ⟨ticked, commands, hstep, rfl⟩ := htick
      have hevent : Event.tick.Undisturbed fun slot =>
          (SimulatedFleet.respond slot line.world).2 := trivial
      have hworld := world_follow mirrors.around (.running ticked)
        (System.commands_of_undisturbed hevent hstep)
      have hbegun := stage_follow mirrors.around (.running ticked) commands
      obtain ⟨after, hafter⟩ := Undisturbed.of_course mirrorsBegun hbegun
        ((congrArg (·.leaderless) hworld).trans hleaderless) hcourse hcues
      obtain rfl := Stage.running.inj (hlast.symm.trans hafter.stage)
      exact ⟨system, ticked, final, commands, rfl, hstep, hidle,
        (Undisturbed.still hbegun hworld).trans hafter⟩

/-- The running system takes an event by itself. -/
theorem play?_run {system after : System} (hstage : line.stage = .running system) {event : Event}
    {commands : List Command} (hstep : system.step? event = some (after, commands))
    (hown : event.isOwn = true) :
    line.play? (.run event) = some (line.follow (.running after) commands, []) := by
  simp only [play?, hown, if_true, onRun?, hstage, hstep, Option.map_some]
  rfl

namespace GoesOn

theorem refl (line : Timeline SimulatedFleet) : GoesOn line line :=
  ⟨[], .start, List.forall_mem_nil _⟩

theorem trans (hleft : GoesOn line next) (hright : GoesOn next last) : GoesOn line last := by
  obtain ⟨early, hearly, hcues⟩ := hleft
  obtain ⟨late, hlate, hmore⟩ := hright
  exact ⟨early ++ late, hearly.append hlate, List.forall_mem_append.mpr ⟨hcues, hmore⟩⟩

theorem of_play? {cue : Cue} (hplay : line.play? cue = some (next, []))
    (hround : line.OfRound cue) : GoesOn line next :=
  ⟨_, .single hplay, by simpa using hround⟩

variable {system after : System}

/-- An event of the monitor or of a probe. -/
theorem of_step? (hstage : line.stage = .running system) {event : Event} {commands : List Command}
    (hstep : system.step? event = some (after, commands)) (hevent : event.IsOfMonitor) :
    GoesOn line (line.follow (.running after) commands) := by
  cases event with
  | survey => exact .of_play? (play?_run hstage hstep rfl) trivial
  | join => exact .of_play? (play?_run hstage hstep rfl) trivial
  | probe slot => exact .of_play? (play?_run hstage hstep rfl) trivial
  | outside | call | advance | launched | ready | abandoned | ended | tick | quit | answered
  | drop => exact hevent.elim

theorem of_strolls (hstage : line.stage = .running system) (hstrolls : system.Strolls after) :
    GoesOn line { line with stage := .running after } := by
  induction hstrolls with
  | start =>
      rw [← hstage]
      exact .refl line
  | next _ hstep hevent ih => exact ih.trans (.of_step? rfl hstep hevent)

/-- A probe asks its member, and has the answer at once. -/
theorem of_ask (haround : line.around = SimulatedFleet.surroundings)
    (hstage : line.stage = .running system) {watch : Watch} {left : List Watch}
    (joining : system.Joining watch left .begun) :
    ∃ world answered phase, GoesOn line { line with world, stage := .running answered } ∧
      answered.Joining watch left phase ∧ phase.isAnswered = true := by
  obtain ⟨config, started, hask, hasking⟩ := joining.ask
  let asking := system.withFirst watch left (.asking config started)
  let answer := SimulatedFleet.respond watch.slot line.world
  let owed : Pending SimulatedFleet :=
    ⟨system.fleet.clock.instant + 0, .answer watch.slot true (SimulatedFleet.respond watch.slot)⟩
  obtain ⟨phase, hanswer, hanswered, hphase⟩ := hasking.answer answer.2
  let asked : Timeline SimulatedFleet :=
    { line with stage := .running asking, pending := line.pending ++ [owed] }
  have hasked : line.follow (.running asking) [.probe watch.slot config] = asked :=
    obey_probe { line with stage := .running asking } haround watch.slot config
  have hrun : ({ line with stage := .running asking } : Timeline SimulatedFleet).onRun?
      (.answered watch.slot answer.2) (fun _ => answer.1) = some
        { line with
          world := answer.1, stage := .running (asking.withFirst watch left phase) } := by
    simp only [onRun?, asking, hanswer, Option.map_some]
    rfl
  -- The answer is the last of what is owed, and it is due at once.
  have hkeep : asked.play? (.keep line.pending.length) = some
      ({ line with
        world := answer.1, stage := .running (asking.withFirst watch left phase) }, []) := by
    have howed : asked.pending[line.pending.length]? = some owed := List.getElem?_concat_length ..
    have hpending : asked.pending.eraseIdx line.pending.length = line.pending := by
      simp [asked, List.eraseIdx_append_of_length_le]
    have hdue : owed.due ≤ asked.now := Nat.le_refl _
    simp only [play?, howed, hpending, Option.bind_eq_bind, Option.bind_some, if_pos hdue,
      Option.map_some]
    change some ((onRun? { line with stage := .running asking } (.answered watch.slot answer.2)
      fun _ => answer.1).getD _, []) = _
    rw [hrun]
    rfl
  refine ⟨answer.1, _, phase, (hasked ▸ of_step? hstage hask trivial).trans
    (.of_play? hkeep ?_), hanswered, hphase⟩
  exact ⟨owed, List.getElem?_concat_length .., rfl⟩

end GoesOn

/-- The monitor waits until all probes have ended. -/
theorem waits_of_gathered (left : List Watch) (haround : line.around = SimulatedFleet.surroundings)
    {system : System} (hstage : line.stage = .running system) (gathered : system.Gathered left) :
    ∃ last, GoesOn line last ∧ last.Waits := by
  induction left generalizing line system with
  | nil =>
      obtain ⟨after, hstrolls, hidle⟩ := gathered.idle
      exact ⟨_, .of_strolls hstage hstrolls, after, rfl, hidle⟩
  | cons watch left ih =>
      obtain ⟨world, answered, phase, hask, hjoining, hphase⟩ :=
        GoesOn.of_ask haround hstage gathered.joining
      obtain ⟨after, hstrolls, hrest⟩ := hjoining.gathers hphase
      let rest : Timeline SimulatedFleet := { line with world, stage := .running after }
      obtain ⟨last, hgoes, hwaits⟩ := ih (show rest.around = _ from haround) rfl hrest
      exact ⟨last, (hask.trans (.of_strolls rfl hstrolls)).trans hgoes, hwaits⟩

/-- Once its time has come a round can be had in which nothing else happens, whatever the members
answer. -/
theorem exists_quietRound {notes : List EngineNote} (mirrors : line.Mirrors settings notes)
    {system : System} (hstage : line.stage = .running system)
    (hidle : system.monitor.phase = .idle)
    (hdue : system.monitor.due ≤ system.fleet.clock.instant)
    (hstop : system.fleet.stopFired = false) : ∃ last, line.QuietRound last := by
  have attended := (mirrors.mirrored hstage).attended
  obtain ⟨begun, htick, hsurveyed⟩ := System.exists_surveyed attended.tidy hidle hdue hstop
  obtain ⟨gathered, left, hstrolls, hgathered⟩ := hsurveyed.exists_gathered _ (Nat.zero_add _)
  let ticked : Timeline SimulatedFleet := { line with stage := .running begun }
  let waiting : Timeline SimulatedFleet := { line with stage := .running gathered }
  obtain ⟨last, hgoes, hwaits⟩ :=
    waits_of_gathered left (show waiting.around = _ from mirrors.around) rfl hgathered
  have hwhole : ticked.GoesOn last := (GoesOn.of_strolls rfl hstrolls).trans hgoes
  exact ⟨last, ticked, play?_run hstage htick rfl, hwhole, hwaits⟩

end Timeline

end FleetControl.Simulation
