import FleetControl.Proofs.Fleet.Ownership
import FleetControl.Proofs.Simulation.Cues

/-!
# What one cue does

The commands of a step are carried out at once, and only a process that is stopped stops a member.
So every cue is a step of the controller, with what its commands do to the simulated fleet, or it
leaves the controller as it is.
-/

namespace FleetControl

open EngineNote

namespace Simulation

/-- What simulated members promise: every process becomes ready once it was handed out, a member
answers with what it knows then, and calls are made by callers alone. -/
def Promise.Lawful (notes : List EngineNote) : Promise SimulatedFleet → Prop
  | .fireRoot => True
  | .launched .. => True
  | .ready slot handle outcome => outcome = .ok () ∧ .handed slot handle ∈ notes
  | .ended .. => True
  | .answer slot _ resolve => resolve = SimulatedFleet.respond slot
  | .call _ => False

theorem Promise.Lawful.mono {notes more : List EngineNote} (hnotes : notes ⊆ more)
    {promise : Promise SimulatedFleet} (hlawful : promise.Lawful notes) : promise.Lawful more := by
  cases promise with
  | ready slot handle outcome => exact ⟨hlawful.1, hnotes hlawful.2⟩
  | fireRoot | launched | ended | answer | call => exact hlawful

/-- From one state of a simulated fleet to another, some members have come to run. -/
structure SimulatedFleet.Gains (before after : SimulatedFleet) (gained : Nat → Prop) : Prop where
  size : after.size = before.size
  nodup : before.running.Nodup → after.running.Nodup
  running : ∀ slot, slot ∈ after.running ↔ slot ∈ before.running ∨ gained slot

namespace Timeline

variable {line next : Timeline SimulatedFleet} {commands : List Command}

/-- What the commands of one step do in a simulated fleet. -/
structure Obeyed (line : Timeline SimulatedFleet) (commands : List Command)
    (next : Timeline SimulatedFleet) : Prop where
  around : next.around = line.around
  stage : next.stage = line.stage
  size : next.world.size = line.world.size
  nodup : line.world.running.Nodup → next.world.running.Nodup
  running : line.world.running.Nodup → ∀ slot, slot ∈ next.world.running ↔
    slot ∈ line.world.running ∧ ∀ handle, .hardStop slot handle ∉ commands
  lawful : ∀ notes, (∀ slot handle, .awaitReady slot handle ∈ commands →
      .handed slot handle ∈ notes) → (∀ owed ∈ line.pending, owed.promise.Lawful notes) →
    ∀ owed ∈ next.pending, owed.promise.Lawful notes

/-- A launch leaves the files as they are, and is answered at once. -/
theorem obey_launch (line : Timeline SimulatedFleet)
    (haround : line.around = SimulatedFleet.surroundings) (slot : Nat) (config : MemberConfig) :
    line.obey (.launch slot config) =
      { line with
        world := (line.world.launch slot config).1
        pending := ⟨line.now, .launched slot (line.world.launch slot config).2⟩ ::
          line.pending } := by
  obtain ⟨around, world, stage, tickInterval, pending, finishTimes⟩ := line
  obtain rfl : around = SimulatedFleet.surroundings := haround
  cases stage <;> rfl

/-- A probe's question is answered later, with what the member knows then. -/
theorem obey_probe (line : Timeline SimulatedFleet)
    (haround : line.around = SimulatedFleet.surroundings) (slot : Nat) (config : MemberConfig) :
    line.obey (.probe slot config) =
      { line with
        pending := line.pending ++
          [⟨line.now + 0, .answer slot true (SimulatedFleet.respond slot)⟩] } := by
  obtain ⟨around, world, stage, tickInterval, pending, finishTimes⟩ := line
  obtain rfl : around = SimulatedFleet.surroundings := haround
  rfl

theorem mem_promise {delay : Nanos} {promise : Promise SimulatedFleet}
    {owed : Pending SimulatedFleet} (hmem : owed ∈ (line.promise delay promise).pending) :
    owed ∈ line.pending ∨ owed.promise = promise := by
  rcases List.mem_append.mp hmem with hold | hnew
  · exact .inl hold
  · exact .inr (congrArg Pending.promise (List.mem_singleton.mp hnew))

namespace Obeyed

theorem refl (line : Timeline SimulatedFleet) : Obeyed line [] line where
  around := rfl
  stage := rfl
  size := rfl
  nodup := id
  running := by simp
  lawful _ _ := id

theorem trans {middle : Timeline SimulatedFleet} {more : List Command}
    (hleft : Obeyed line commands middle) (hright : Obeyed middle more next) :
    Obeyed line (commands ++ more) next where
  around := hright.around.trans hleft.around
  stage := hright.stage.trans hleft.stage
  size := hright.size.trans hleft.size
  nodup hnodup := hright.nodup (hleft.nodup hnodup)
  running hnodup slot := by
    rw [hright.running (hleft.nodup hnodup), hleft.running hnodup, and_assoc]
    simp [forall_and]
  lawful notes hhanded hlawful :=
    hright.lawful notes (fun slot handle hmem => hhanded slot handle (List.mem_append_right _ hmem))
      (hleft.lawful notes
        (fun slot handle hmem => hhanded slot handle (List.mem_append_left _ hmem)) hlawful)

/-- A command that stops nothing, and adds lawful promises only. -/
theorem of_promises {command : Command} (haround : next.around = line.around)
    (hstage : next.stage = line.stage) (hsize : next.world.size = line.world.size)
    (hrunning : next.world.running = line.world.running)
    (hcommand : ∀ slot handle, .hardStop slot handle ≠ command)
    (hpending : ∀ owed ∈ next.pending, owed ∈ line.pending ∨
      ∀ notes, (∀ slot handle, .awaitReady slot handle = command → .handed slot handle ∈ notes) →
        owed.promise.Lawful notes) :
    Obeyed line [command] next := by
  refine ⟨haround, hstage, hsize, fun hnodup => hrunning ▸ hnodup, fun _ slot => ?_, ?_⟩
  · simp [hrunning, hcommand]
  · intro notes hhanded hbefore owed howed
    rcases hpending owed howed with hold | hnew
    · exact hbefore owed hold
    · exact hnew notes fun slot handle heq => hhanded slot handle (List.mem_singleton.mpr heq)

theorem obey (line : Timeline SimulatedFleet) (haround : line.around = SimulatedFleet.surroundings)
    (command : Command) : Obeyed line [command] (line.obey command) := by
  obtain ⟨around, world, stage, tickInterval, pending, finishTimes⟩ := line
  obtain rfl : around = SimulatedFleet.surroundings := haround
  cases command with
  | launch slot config =>
      have hlaunch : (world.launch slot config).1.size = world.size ∧
          (world.launch slot config).1.running = world.running := by
        unfold SimulatedFleet.launch
        dsimp only
        split <;> exact ⟨rfl, rfl⟩
      rw [obey_launch _ rfl]
      refine .of_promises rfl rfl hlaunch.1 hlaunch.2 (by simp) fun owed howed => ?_
      rcases List.mem_cons.mp howed with rfl | hold
      · exact .inr fun _ _ => trivial
      · exact .inl hold
  | awaitReady slot handle =>
      simp only [Timeline.obey, SimulatedFleet.surroundings, SimulatedFleet.ready]
      by_cases hhanging : slot ∈ world.hanging
      · rw [if_pos hhanging]
        exact .of_promises rfl rfl rfl rfl (by simp) fun _ => .inl
      · rw [if_neg hhanging]
        refine .of_promises rfl rfl rfl rfl (by simp) fun owed howed =>
          (mem_promise howed).imp_right fun hnew notes hhanded => ?_
        rw [hnew]
        exact ⟨rfl, hhanded slot handle rfl⟩
  | hardStop slot handle =>
      refine ⟨rfl, rfl, rfl, fun hnodup => hnodup.erase slot, fun hnodup other => ?_,
        fun _ _ => id⟩
      have hstopped : (∀ handle', .hardStop other handle' ∉ [Command.hardStop slot handle]) ↔
          other ≠ slot := by simp
      rw [hstopped]
      exact hnodup.mem_erase_iff.trans and_comm
  | close slot handle => exact .of_promises rfl rfl rfl rfl (by simp) fun _ => .inl
  | awaitEnd slot handle =>
      refine .of_promises rfl rfl rfl rfl (by simp) fun owed howed =>
        (mem_promise howed).imp_right fun hnew notes _ => ?_
      rw [hnew]
      trivial
  | query slot config =>
      refine .of_promises rfl rfl rfl rfl (by simp) fun owed howed =>
        (mem_promise howed).imp_right fun hnew notes _ => ?_
      rw [hnew]
      rfl
  | probe slot config =>
      refine .of_promises rfl rfl rfl rfl (by simp) fun owed howed =>
        (mem_promise howed).imp_right fun hnew notes _ => ?_
      rw [hnew]
      rfl

theorem foldl (commands : List Command) {line : Timeline SimulatedFleet}
    (haround : line.around = SimulatedFleet.surroundings) :
    Obeyed line commands (commands.foldl Timeline.obey line) := by
  induction commands generalizing line with
  | nil => exact .refl line
  | cons command rest ih =>
      have hfirst := obey line haround command
      exact hfirst.trans (ih (hfirst.around.trans haround))

end Obeyed

/-- The commands of a step leave the controller as the step has left it. -/
theorem stage_follow (haround : line.around = SimulatedFleet.surroundings) (stage : Stage)
    (commands : List Command) : (line.follow stage commands).stage = stage := by
  have hobeyed : Obeyed { line with stage } commands (line.follow stage commands) :=
    .foldl commands haround
  exact hobeyed.stage

end Timeline

namespace SimulatedFleet

namespace Gains

variable {before after : SimulatedFleet} {gained : Nat → Prop}

theorem of_same (hsize : after.size = before.size) (hrunning : after.running = before.running)
    (hnone : ∀ slot, ¬ gained slot) : before.Gains after gained :=
  ⟨hsize, fun hnodup => hrunning ▸ hnodup, fun slot => by simp [hrunning, hnone]⟩

theorem readied (sim : SimulatedFleet) (slot : Nat) {gained : Nat → Prop}
    (hgained : ∀ other, gained other ↔ other = slot) : sim.Gains (sim.readied slot) gained where
  size := rfl
  nodup hnodup := hnodup.insert
  running other := by
    rw [hgained]
    exact List.mem_insert_iff.trans or_comm

end Gains

theorem same_respond (sim : SimulatedFleet) (slot : Nat) :
    (respond slot sim).1.size = sim.size ∧ (respond slot sim).1.running = sim.running := by
  unfold respond
  split
  next => exact ⟨rfl, rfl⟩
  next =>
    split
    next => exact ⟨rfl, rfl⟩
    next =>
      dsimp only
      split <;> exact ⟨rfl, rfl⟩

theorem same_suffer (sim : SimulatedFleet) (fault : Fault) :
    (sim.suffer fault).size = sim.size ∧ (sim.suffer fault).running = sim.running := by
  cases fault <;> exact ⟨rfl, rfl⟩

end SimulatedFleet

namespace Timeline

/-- What one cue does. -/
inductive Beat (line next : Timeline SimulatedFleet) : Prop where
  /-- The controller takes no step. -/
  | still {pending : List (Pending SimulatedFleet)} {world : SimulatedFleet}
      {finishTimes : Keyed Nat Nanos} (hpending : pending ⊆ line.pending)
      (hsize : world.size = line.world.size) (hrunning : world.running = line.world.running)
      (hnext : next = { line with pending, world, finishTimes })
  /-- The start takes a step. -/
  | start {pending : List (Pending SimulatedFleet)} {world : SimulatedFleet}
      {start after : Bootstrap} {event : StartEvent} {commands : List Command}
      (hstage : line.stage = .starting start) (hstep : start.step? event = some (after, commands))
      (hpending : pending ⊆ line.pending)
      (hgains : line.world.Gains world fun slot => event = .ready slot (.ok ()))
      (hnext : next = { line with pending, world }.follow (.starting after) commands)
  /-- The start is complete, and the fleet runs from now on. -/
  | enter {pending : List (Pending SimulatedFleet)} {start : Bootstrap}
      (hstage : line.stage = .starting start) (hphase : start.phase = .started)
      (hpending : pending ⊆ line.pending)
      (hnext : next =
        { line with pending, stage := .running (.ofStart start.fleet line.tickInterval) })
  /-- The running fleet takes a step. -/
  | run {pending : List (Pending SimulatedFleet)} {world : SimulatedFleet}
      {system after : System} {event : Event} {commands : List Command}
      (hstage : line.stage = .running system) (hstep : system.step? event = some (after, commands))
      (hpending : pending ⊆ line.pending)
      (hgains : line.world.Gains world fun slot =>
        system.recorded? event = some (slot, .restart))
      (hnext : next = { line with pending, world }.follow (.running after) commands)

namespace Beat

variable {line next : Timeline SimulatedFleet} {start : Bootstrap} {system : System}
  {notes : List EngineNote}

theorem refl (line : Timeline SimulatedFleet) : Beat line line :=
  .still (List.Subset.refl _) rfl rfl rfl

/-- A promise less makes no difference. -/
theorem of_pending {pending : List (Pending SimulatedFleet)} (hpending : pending ⊆ line.pending)
    (beat : Beat { line with pending } next) : Beat line next := by
  cases beat with
  | still hmore hsize hrunning hnext =>
      exact .still (List.Subset.trans hmore hpending) hsize hrunning hnext
  | start hstage hstep hmore hgains hnext =>
      exact .start hstage hstep (List.Subset.trans hmore hpending) hgains hnext
  | enter hstage hphase hmore hnext =>
      exact .enter hstage hphase (List.Subset.trans hmore hpending) hnext
  | run hstage hstep hmore hgains hnext =>
      exact .run hstage hstep (List.Subset.trans hmore hpending) hgains hnext

/-- A start takes the event, or leaves things as they are. -/
theorem onStart? (hstage : line.stage = .starting start) {event : StartEvent}
    {change : SimulatedFleet → SimulatedFleet}
    (hgains : line.world.Gains (change line.world) fun slot => event = .ready slot (.ok ())) :
    Beat line ((line.onStart? event change).getD line) := by
  unfold Timeline.onStart?
  simp only [hstage]
  cases hstep : start.step? event with
  | none => exact refl line
  | some after => exact .start hstage hstep (List.Subset.refl _) hgains rfl

/-- A running fleet takes the event, or leaves things as they are. -/
theorem onRun? (hstage : line.stage = .running system) {event : Event}
    {change : SimulatedFleet → SimulatedFleet}
    (hgains : line.world.Gains (change line.world) fun slot =>
      system.recorded? event = some (slot, .restart)) :
    Beat line ((line.onRun? event change).getD line) := by
  unfold Timeline.onRun?
  simp only [hstage]
  cases hstep : system.step? event with
  | none => exact refl line
  | some after => exact .run hstage hstep (List.Subset.refl _) hgains rfl

theorem outside (line : Timeline SimulatedFleet) (event : Outside) :
    Beat line (line.outside event) := by
  unfold Timeline.outside
  cases hstage : line.stage with
  | starting start =>
      dsimp only
      cases hstep : start.step? (.outside event) with
      | none => exact .still (List.Subset.refl _) rfl rfl (by rw [← hstage])
      | some after =>
          obtain ⟨after, commands⟩ := after
          obtain rfl : [] = commands := by
            simp only [Bootstrap.step?, Option.map_eq_some_iff, Prod.mk.injEq] at hstep
            obtain ⟨-, -, -, hnone⟩ := hstep
            exact hnone
          exact .start hstage hstep (List.Subset.refl _) (.of_same rfl rfl (by simp)) rfl
  | running system =>
      dsimp only
      cases hstep : system.step? (.outside event) with
      | none => exact .still (List.Subset.refl _) rfl rfl (by rw [← hstage])
      | some after =>
          obtain ⟨after, commands⟩ := after
          obtain rfl : [] = commands := by
            simp only [System.step?, Option.map_eq_some_iff, Prod.mk.injEq] at hstep
            obtain ⟨-, -, -, hnone⟩ := hstep
            exact hnone
          exact .run hstage hstep (List.Subset.refl _)
            (.of_same rfl rfl (by simp [System.recorded?, Calling.recorded?])) rfl

end Beat

variable {line : Timeline SimulatedFleet} {system : System} {notes : List EngineNote}

/-- A process that a running fleet waits for was handed out for the slot of its restart. -/
theorem recorded?_of_awaiter (hstage : line.stage = .running system) (sound : system.Sound notes)
    {slot id : Nat} {handle : Handle} (hhanded : .handed slot handle ∈ notes)
    (hawaiter : line.awaiter? handle = some id) :
    system.recorded? (.ready id (.ok ())) = some (slot, .restart) := by
  simp only [awaiter?, hstage, Option.map_eq_some_iff] at hawaiter
  obtain ⟨call, hfound, rfl⟩ := hawaiter
  have hmem : call ∈ system.calling.calls := List.mem_of_find?_eq_some hfound
  have hphase : call.phase = .awaiting handle := by
    have hawaits := List.find?_some hfound
    split at hawaits
    next hphase => rwa [of_decide_eq_true hawaits] at hphase
    next => simp at hawaits
  have hcall : system.calling.call? call.id = some call := by
    obtain ⟨other, hother⟩ : ∃ other, system.calling.call? call.id = some other := by
      refine Option.isSome_iff_exists.mp (List.find?_isSome.mpr ⟨call, hmem, by simp⟩)
    rw [hother, sound.orderly.eq_of_id_eq (Calling.call?_mem hother) hmem
      (Calling.call?_id hother)]
  have hunderway := sound.orderly.underway?_eq hmem (by rw [hphase]; rfl)
  have hfits := sound.orderly.fitting call hmem
  obtain ⟨id, operation, phase⟩ := call
  subst hphase
  cases operation with
  | restart other =>
      -- The ledger tells of the process in hand, and so does the note of its handing out.
      have hledger := sound.booked.ledger
      rw [show system.underway? = _ from hunderway] at hledger
      have hheld := (hledger.held rfl).1
      have hnote := handed_mem_about.mpr hhanded
      rw [hheld] at hnote
      obtain ⟨rfl, -⟩ := EngineNote.handed.inj (List.mem_singleton.mp hnote)
      simp [System.recorded?, Calling.recorded?, hcall, Calling.slotOf]
  | stop other => exact hfits.elim
  | shutdown => exact hfits.elim

namespace Beat

/-- An answer of the surroundings goes to the start, or to the call that waits for it. -/
theorem answered {event : StartEvent} {waiter : Option Nat} {toCall : Nat → Event}
    {change : SimulatedFleet → SimulatedFleet}
    (hstart : line.world.Gains (change line.world) fun slot => event = .ready slot (.ok ()))
    (hwaiter : ∀ start, line.stage = .starting start → waiter = none)
    (hrun : ∀ system id, line.stage = .running system → waiter = some id →
      line.world.Gains (change line.world) fun slot =>
        system.recorded? (toCall id) = some (slot, .restart)) :
    Beat line (((line.onStart? event change).or
      (waiter.bind fun id => line.onRun? (toCall id) change)).getD line) := by
  cases hstage : line.stage with
  | starting start =>
      rw [hwaiter start hstage, Option.bind_none, Option.or_none]
      exact onStart? hstage hstart
  | running system =>
      have hnone : line.onStart? event change = none := by simp [Timeline.onStart?, hstage]
      rw [hnone, Option.none_or]
      cases hid : waiter with
      | none => exact refl line
      | some id => exact onRun? hstage (hrun system id hstage hid)

/-- A promise is kept, or is without effect. -/
theorem keep {promise : Promise SimulatedFleet}
    (haround : line.around = SimulatedFleet.surroundings) (hlawful : promise.Lawful notes)
    (hsound : ∀ system, line.stage = .running system → system.Sound notes) :
    Beat line (line.keep promise) := by
  cases promise with
  | fireRoot => exact outside line .fireRoot
  | launched slot outcome =>
      refine answered (.of_same rfl rfl (by simp)) ?_ fun system id _ _ => ?_
      · intro start hstage
        simp [launcher?, hstage]
      · exact .of_same rfl rfl (by simp [System.recorded?, Calling.recorded?])
  | ready slot handle outcome =>
      obtain ⟨rfl, hhanded⟩ := hlawful
      unfold Timeline.keep
      rw [haround]
      refine answered ?_ ?_ fun system id hstage hid => ?_
      · exact .readied _ slot (by simp [eq_comm])
      · intro start hstage
        simp [awaiter?, hstage]
      · rw [recorded?_of_awaiter hstage (hsound system hstage) hhanded hid]
        exact .readied _ slot (by simp [eq_comm])
  | ended slot handle =>
      unfold Timeline.keep
      rw [haround]
      refine answered (.of_same rfl rfl (by simp)) ?_ fun system id _ _ => ?_
      · intro start hstage
        simp [ender?, hstage]
      · exact .of_same rfl rfl (by simp [System.recorded?, Calling.recorded?])
  | answer slot full resolve =>
      obtain rfl : resolve = SimulatedFleet.respond slot := hlawful
      obtain ⟨hsize, hrunning⟩ := line.world.same_respond slot
      cases hstage : line.stage with
      | starting start =>
          cases full with
          | false =>
              change Beat line ((line.onStart? (.answered slot _)
                fun _ => (SimulatedFleet.respond slot line.world).1).getD line)
              refine onStart? hstage ?_
              exact .of_same hsize hrunning (by simp)
          | true => simpa [Timeline.keep, Timeline.onRun?, hstage] using refl line
      | running system =>
          cases full with
          | false => simpa [Timeline.keep, Timeline.onStart?, hstage] using refl line
          | true =>
              change Beat line ((line.onRun? (.answered slot _)
                fun _ => (SimulatedFleet.respond slot line.world).1).getD line)
              refine onRun? hstage ?_
              exact .of_same hsize hrunning (by simp [System.recorded?, Calling.recorded?])
  | call operation => exact hlawful.elim

end Beat

/-- No restart is complete but with the answer of its process. -/
theorem recorded?_of_isOwn {event : Event} (hown : event.isOwn = true) (slot : Nat) :
    system.recorded? event ≠ some (slot, .restart) := by
  cases event with
  | advance id =>
      intro hmark
      simp only [System.recorded?, Calling.recorded?, Option.bind_eq_bind,
        Option.bind_eq_some_iff] at hmark
      obtain ⟨call, -, hmark⟩ := hmark
      split at hmark
      next =>
        split at hmark
        next => simp at hmark
        next => simp at hmark
      next => simp at hmark
      next => simp at hmark
  | call | abandoned | tick | survey | join | quit | probe | drop =>
      simp [System.recorded?, Calling.recorded?]
  | outside | launched | ready | ended | answered => simp [Event.isOwn] at hown

/-- Every cue is one of the beats. -/
theorem beat_of_play? {next : Timeline SimulatedFleet} {cue : Cue} {commands : List Command}
    (haround : line.around = SimulatedFleet.surroundings)
    (hlawful : ∀ owed ∈ line.pending, owed.promise.Lawful notes)
    (hsound : ∀ system, line.stage = .running system → system.Sound notes)
    (hplay : line.play? cue = some (next, commands)) : Beat line next := by
  simp only [play?, Option.map_eq_some_iff, Prod.mk.injEq] at hplay
  obtain ⟨after, hplay, rfl, -⟩ := hplay
  cases cue with
  | keep place =>
      simp only [Option.bind_eq_bind, Option.bind_eq_some_iff] at hplay
      obtain ⟨owed, howed, hplay⟩ := hplay
      simp only [Option.ite_none_right_eq_some, Option.some.injEq] at hplay
      obtain ⟨-, rfl⟩ := hplay
      exact .of_pending (List.eraseIdx_subset ..) (.keep haround
        (hlawful owed (List.mem_of_getElem? howed)) hsound)
  | start event =>
      simp only [Option.ite_none_right_eq_some] at hplay
      obtain ⟨hown, hplay⟩ := hplay
      have hready : ∀ slot, event ≠ .ready slot (.ok ()) := by
        rintro slot rfl
        simp [StartEvent.isOwn] at hown
      cases hstage : line.stage with
      | starting start =>
          have hgains : line.world.Gains (id line.world) fun slot =>
              event = .ready slot (.ok ()) := .of_same rfl rfl hready
          have beat := Beat.onStart? hstage hgains
          rwa [hplay] at beat
      | running system => simp [onStart?, hstage] at hplay
  | enter =>
      obtain rfl := Option.some.inj hplay
      unfold enterRunning
      cases hstage : line.stage with
      | starting start =>
          dsimp only
          split
          next hphase => exact .enter hstage hphase (List.Subset.refl _) rfl
          next => exact .refl line
      | running system => exact .refl line
  | run event =>
      simp only [Option.ite_none_right_eq_some] at hplay
      obtain ⟨hown, hplay⟩ := hplay
      cases hstage : line.stage with
      | starting start => simp [onRun?, hstage] at hplay
      | running system =>
          have hgains : line.world.Gains (id line.world) fun slot =>
              system.recorded? event = some (slot, .restart) :=
            .of_same rfl rfl (recorded?_of_isOwn hown)
          have beat := Beat.onRun? hstage hgains
          rwa [hplay] at beat
  | outside event =>
      obtain rfl := Option.some.inj hplay
      exact .outside line event
  | fault fault =>
      obtain rfl := Option.some.inj hplay
      obtain ⟨hsize, hrunning⟩ := line.world.same_suffer fault
      exact .still (List.Subset.refl _) hsize hrunning rfl
  | note =>
      obtain rfl := Option.some.inj hplay
      unfold noteFinished
      split
      next => exact .refl line
      next => exact .still (List.Subset.refl _) rfl rfl rfl

end Timeline

end Simulation

end FleetControl
