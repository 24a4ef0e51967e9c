import FleetControl.Proofs.Fleet.Lineage
import FleetControl.Proofs.Fleet.Reach
import FleetControl.Proofs.Fleet.Records

/-!
# The identity of a member

A restart asks the engine for a process with the configuration that the engine gave out last, and
asks it to join the cluster. So an engine that changes nothing but the security of the channels
never meets a member under another identity, however often it is stopped and restarted and whatever
comes of that.
-/

namespace FleetControl

open ConfigNote

namespace Turn

variable {fleet after : Fleet} {underway later : Option Call} {heard : List EngineNote}
  {commands : List Command} {mark : Option Mark}

theorem endpoints_eq (hturn : Turn fleet underway heard commands mark after later) :
    after.endpoints = fleet.endpoints := by
  cases hturn <;> rfl

/-- The engine is asked for a process only with the configuration in force, and to join. -/
theorem asks_cases (hturn : Turn fleet underway heard commands mark after later) :
    asks commands = [] ∨ ∃ slot config, fleet.config? slot = some config ∧
      asks commands = [.asked slot config.joining] := by
  cases hturn with
  | @launch id slot due member hdue hmember =>
      exact .inr ⟨slot, member.config, by rw [Fleet.config?, hmember]; rfl, rfl⟩
  | rest | signal | coolStop | coolRestart | empty | stop | vanish | refuse | hand | giveUp
  | ready | ended | pass | clear | clearEnded | cleared => exact .inl rfl

end Turn

theorem Fleet.endpoints_degrade (fleet : Fleet) (slot : Nat) (seen : Nanos) (activity : String)
    (started : Int) (cause : String) :
    (fleet.degrade slot seen activity started cause).endpoints = fleet.endpoints := by
  unfold degrade
  split
  next => rfl
  next => split <;> rfl

namespace Watching.Move

variable {watching next : Watching} {commands : List Command}

theorem endpoints_eq (hmove : watching.Move next commands) :
    next.fleet.endpoints = watching.fleet.endpoints := by
  cases hmove with
  | recover => exact Fleet.endpoints_degrade ..
  | fail => exact Fleet.endpoints_degrade ..
  | tick | gather | look | refresh | note | rest | join | quit | ask | answer | word | commit
  | discard | drop => rfl

/-- The monitor asks the engine for nothing. -/
theorem asks_eq (hmove : watching.Move next commands) : asks commands = [] := by
  cases hmove <;> rfl

end Watching.Move

namespace System

variable {system next first : System} {event : Event} {commands : List Command} {slot : Nat}
  {moments : List (Moment System Event)} {configs : List MemberConfig} {notes : List ConfigNote}

/-- The configuration that the engine gives out with an event. -/
def issued (system : System) : Event → List ConfigNote
  | .launched id (.ok config) =>
      match system.calling.call? id with
      | some call => [.given (Calling.slotOf call.operation) config]
      | none => []
  | _ => []

/-- The index is made once, when the fleet is started. -/
theorem endpoints_of_step? (orderly : system.Orderly)
    (hstep : system.step? event = some (next, commands)) :
    next.fleet.endpoints = system.fleet.endpoints := by
  obtain ⟨-, hstepped⟩ := step_of_step? orderly hstep
  cases hstepped with
  | turn hturn => exact hturn.endpoints_eq
  | move hmove => exact hmove.endpoints_eq
  | outside houtside => exact Fleet.endpoints_of_outside? houtside

theorem asks_of_step? (orderly : system.Orderly)
    (hstep : system.step? event = some (next, commands)) :
    asks commands = [] ∨ ∃ slot config, system.fleet.config? slot = some config ∧
      asks commands = [.asked slot config.joining] := by
  obtain ⟨-, hstepped⟩ := step_of_step? orderly hstep
  cases hstepped with
  | turn hturn => exact hturn.asks_cases
  | move hmove => exact .inl hmove.asks_eq
  | outside _ _ hcommands => exact .inl (hcommands ▸ rfl)

/-- A configuration comes into force only when the engine gives it out. -/
theorem config_of_step? (kept : system.Kept) (hstep : system.step? event = some (next, commands))
    {config : MemberConfig} (hconfig : next.fleet.config? slot = some config) :
    system.fleet.config? slot = some config ∨ system.issued event = [.given slot config] := by
  obtain ⟨member, hmember, rfl⟩ := Option.map_eq_some_iff.mp hconfig
  have hcalm : (∀ handle, .handed slot handle ∉ system.heard event) →
      system.fleet.config? slot = some member.config := by
    intro hnone
    obtain ⟨-, hstepped⟩ := step_of_step? kept.orderly hstep
    obtain ⟨old, hold⟩ := Fleet.exists_member? (hstepped.size_eq ▸ Fleet.slot_lt hmember)
    rw [kept.config_eq hstep hold hmember (.inr hnone), Fleet.config?, hold]
    rfl
  cases event with
  | launched id outcome =>
      cases outcome with
      | error error => exact .inl (hcalm fun handle => List.not_mem_nil)
      | ok canonical =>
          simp only [step?, Calling.launched?, Option.map_eq_some_iff, Option.bind_eq_bind,
            Option.bind_eq_some_iff, Prod.exists] at hstep
          obtain ⟨calling, more, ⟨call, hcall, hlaunched⟩, hpair⟩ := hstep
          obtain ⟨rfl, rfl⟩ := Prod.mk.inj hpair
          split at hlaunched
          next =>
            obtain ⟨rfl, rfl⟩ := Prod.mk.inj (Option.some.inj hlaunched)
            rcases Fleet.member?_changeMember_cases hmember with
              ⟨rfl, old, hold, rfl⟩ | ⟨-, hold⟩
            · exact .inr (by simp only [issued, hcall]; rfl)
            · exact .inl (Option.map_eq_some_iff.mpr ⟨member, hold, rfl⟩)
          next => simp at hlaunched
  | ended => exact .inl (hcalm fun handle => by simp [heard, Calling.heard])
  | outside | call | advance | ready | abandoned | tick | survey | join | quit | probe | answered
  | drop => exact .inl (hcalm fun handle => List.not_mem_nil)

/-- What the engine gives out is no request. -/
theorem requests_issued (system : System) (event : Event) (slot : Nat) :
    requests slot (system.issued event) = [] := by
  unfold issued
  split
  next => split <;> rfl
  next => rfl

/-- A running fleet is as this layout says, and so are all processes that the engine was ever asked
for. -/
structure Continues (configs : List MemberConfig) (notes : List ConfigNote) (system : System) :
    Prop where
  laidOut : Fleet.LaidOut configs system.fleet
  size : system.fleet.members.length = configs.length
  lineages : ∀ slot founding, configs[slot]? = some founding →
    Lineage founding (requests slot notes)

namespace Continues

theorem step (continues : Continues configs notes system) (kept : system.Kept)
    (hstep : system.step? event = some (next, commands))
    (hfaithful : Faithful (notes ++ (system.issued event ++ asks commands))) :
    Continues configs (notes ++ (system.issued event ++ asks commands)) next := by
  obtain ⟨-, hstepped⟩ := step_of_step? kept.orderly hstep
  refine ⟨⟨?_, fun slot config hconfig => ?_⟩, hstepped.size_eq.trans continues.size,
    fun slot founding hfounding => ?_⟩
  · exact (endpoints_of_step? kept.orderly hstep).trans continues.laidOut.endpoints
  · rcases config_of_step? kept hstep hconfig with hold | hgiven
    · exact continues.laidOut.same slot config hold
    · have hslot : slot < configs.length := by
        obtain ⟨member, hmember, -⟩ := Option.map_eq_some_iff.mp hconfig
        rw [← continues.size, ← hstepped.size_eq]
        exact Fleet.slot_lt hmember
      have hfounding := List.getElem?_eq_getElem hslot
      rw [hgiven] at hfaithful
      exact ⟨_, hfounding, (continues.lineages slot _ hfounding).same_of_given hfaithful⟩
  · have lineage := continues.lineages slot founding hfounding
    rw [requests_append, requests_append, requests_issued, List.nil_append]
    rcases asks_of_step? kept.orderly hstep with hnone | ⟨other, config, hconfig, hasked⟩
    · rw [hnone]
      exact (List.append_nil _).symm ▸ lineage
    · rw [hasked, requests_asked]
      split
      next hother =>
        subst other
        obtain ⟨found, hfound, hsame⟩ := continues.laidOut.same slot config hconfig
        obtain rfl := Option.some.inj (hfounding.symm.trans hfound)
        exact lineage.join hsame
      next => exact (List.append_nil _).symm ▸ lineage

theorem course (continues : Continues configs notes first) (kept : first.Kept)
    (hcourse : Course step? first moments system)
    (hfaithful : Faithful (notes ++ exchanged issued moments)) :
    Continues configs (notes ++ exchanged issued moments) system := by
  induction hcourse with
  | start => simpa using continues
  | next earlier hstep ih =>
      rw [exchanged_concat, ← List.append_assoc] at hfaithful ⊢
      have hkept := earlier.preserves kept fun hstep before => before.step hstep
      exact (ih hfaithful.of_append).step hkept hstep hfaithful

end Continues

end System

/-! ### A restart of a member -/

/-- The fleet once a time has come. -/
def Fleet.waited (fleet : Fleet) (due : Nanos) : Fleet :=
  { fleet with clock := { fleet.clock with instant := max due fleet.clock.instant } }

namespace System

/-- The system with another state of its fleet and with these calls. -/
def having (system : System) (fleet : Fleet) (calls : List Call) (line : List Nat) : System :=
  { system with fleet, calls, line, made := calls.length }

variable {fleet : Fleet} {slot : Nat} {handle : Handle} {calls : List Call} {line : List Nat}

theorem having_wait (system : System) (due : Nanos) :
    (system.having fleet calls line).step?
        (.outside (.time { fleet.clock with instant := max due fleet.clock.instant })) =
      some (system.having (fleet.waited due) calls line, []) := by
  simp [step?, Fleet.outside?, having, Fleet.waited]

theorem having_call_stop (system : System) (hslot : slot < fleet.members.length) :
    (system.having fleet [] []).step? (.call (.stop slot)) =
      some (system.having fleet [⟨0, .stop slot, .queued⟩] [0], []) := by
  simp [step?, Calling.make, calling, withCalling, hslot, having]

theorem having_lock_stop (system : System) (hprocess : fleet.process? slot = some handle) :
    (system.having fleet [⟨0, .stop slot, .queued⟩] [0]).step? (.advance 0) =
      some (system.having fleet [⟨0, .stop slot, .cooling (Calling.cooledAt fleet slot)⟩] [0],
        []) := by
  simp [step?, step?.onCalling, Calling.advance?, Calling.call?, Calling.holds, Calling.onLock,
    Calling.setPhase, calling, withCalling, hprocess, having]

theorem having_cooled_stop (system : System) (hprocess : fleet.process? slot = some handle) :
    (system.having (fleet.waited (Calling.cooledAt fleet slot))
        [⟨0, .stop slot, .cooling (Calling.cooledAt fleet slot)⟩] [0]).step? (.advance 0) =
      some (system.having ((fleet.waited (Calling.cooledAt fleet slot)).release slot .stop)
        [⟨0, .stop slot, .ending handle (.ok ())⟩] [0], teardown slot handle) := by
  have hsame : (fleet.waited (Calling.cooledAt fleet slot)).process? slot = some handle :=
    hprocess
  have hdue : Calling.cooledAt fleet slot ≤
      (fleet.waited (Calling.cooledAt fleet slot)).clock.instant := Nat.le_max_left ..
  simp [step?, step?.onCalling, Calling.advance?, Calling.call?, Calling.onCooled,
    Calling.endProcess, Calling.setPhase, calling, withCalling, hsame, hdue, having]

theorem having_ended_stop (system : System) :
    (system.having fleet [⟨0, .stop slot, .ending handle (.ok ())⟩] [0]).step? (.ended 0 handle) =
      some (system.having fleet [⟨0, .stop slot, .finished (.ok ())⟩] [], []) := by
  simp [step?, Calling.ended?, Calling.call?, Calling.finish, Calling.setPhase, calling,
    withCalling, having]

theorem exists_stopped (system : System) {member : Member}
    (hmember : fleet.member? slot = some member)
    (hprocess : fleet.process? slot = some handle) :
    ∃ moments, Course step? (system.having fleet [] []) moments
        (system.having ((fleet.waited (Calling.cooledAt fleet slot)).release slot .stop)
          [⟨0, .stop slot, .finished (.ok ())⟩] []) ∧
      exchanged issued moments = [] := by
  have hcall := having_call_stop system (Fleet.slot_lt hmember)
  have hlock := having_lock_stop system hprocess
  have hstop := having_cooled_stop system hprocess
  exact ⟨_, ((((Course.single hcall).append (.single hlock)).append
    (.single (having_wait system _))).append (.single hstop)).append
    (.single (having_ended_stop system)), rfl⟩

theorem having_call_restart (system : System) (hslot : slot < fleet.members.length) :
    (system.having fleet [⟨0, .stop slot, .finished (.ok ())⟩] []).step? (.call (.restart slot)) =
      some (system.having fleet
        [⟨0, .stop slot, .finished (.ok ())⟩, ⟨1, .restart slot, .queued⟩] [1], []) := by
  simp [step?, Calling.make, calling, withCalling, hslot, having]

/-- A member is stopped, and a restart of it takes its place in the line. -/
theorem exists_restart_queued (system : System) {member : Member}
    (hmember : fleet.member? slot = some member) (hprocess : fleet.process? slot = some handle)
    (hopen : fleet.shutDown = false) :
    ∃ moments stopped clock, Course step? (system.having fleet [] []) moments
        (system.having stopped [⟨0, .stop slot, .finished (.ok ())⟩, ⟨1, .restart slot, .queued⟩]
          [1]) ∧
      exchanged issued moments = [] ∧ stopped.member? slot = some (member.markStopped clock) ∧
      stopped.process? slot = none ∧ stopped.shutDown = false ∧
      stopped.launches = fleet.launches ∧
      ∀ other, other ≠ slot → stopped.process? other = fleet.process? other := by
  obtain ⟨moments, hcourse, hnothing⟩ := exists_stopped system hmember hprocess
  let stopped := (fleet.waited (Calling.cooledAt fleet slot)).release slot .stop
  have hstopped : stopped.member? slot =
      some (member.markStopped (fleet.waited (Calling.cooledAt fleet slot)).clock) :=
    (Fleet.member?_changeMember_self ..).trans (congrArg _ hmember)
  have hempty : stopped.process? slot = none := by
    rw [Fleet.process?_release, if_pos rfl]
  have hcall := having_call_restart system (Fleet.slot_lt hstopped)
  refine ⟨_, stopped, _, hcourse.append (.single hcall), ?_, hstopped, hempty, hopen,
    rfl, fun other hother => ?_⟩
  · rw [exchanged_append, hnothing]
    rfl
  · rw [Fleet.process?_release, if_neg hother]
    rfl

section Restart

variable {call : Call} {member : Member}

theorem having_lock_restart (system : System) (hid : call.id = 0)
    (hprocess : fleet.process? slot = none) (hopen : fleet.shutDown = false) :
    (system.having fleet [call, ⟨1, .restart slot, .queued⟩] [1]).step? (.advance 1) =
      some (system.having fleet
        [call, ⟨1, .restart slot, .cooling (Calling.cooledAt fleet slot)⟩] [1], []) := by
  simp [step?, step?.onCalling, Calling.advance?, Calling.call?, Calling.holds, Calling.onLock,
    Calling.setPhase, calling, withCalling, hprocess, having, hid, hopen]

theorem having_cooled_restart (system : System) (hid : call.id = 0)
    (hmember : fleet.member? slot = some member) :
    (system.having (fleet.waited (Calling.cooledAt fleet slot))
        [call, ⟨1, .restart slot, .cooling (Calling.cooledAt fleet slot)⟩] [1]).step? (.advance 1) =
      some (system.having (fleet.waited (Calling.cooledAt fleet slot))
        [call, ⟨1, .restart slot, .launching⟩] [1], [.launch slot member.config.joining]) := by
  have hsame : (fleet.waited (Calling.cooledAt fleet slot)).member? slot = some member := hmember
  have hdue : Calling.cooledAt fleet slot ≤
      (fleet.waited (Calling.cooledAt fleet slot)).clock.instant := Nat.le_max_left ..
  simp [step?, step?.onCalling, Calling.advance?, Calling.call?, Calling.onCooled,
    Calling.setPhase, calling, withCalling, hsame, hdue, having, hid, MemberConfig.joining]

theorem having_launched_restart (system : System) (hid : call.id = 0) (config : MemberConfig) :
    (system.having fleet [call, ⟨1, .restart slot, .launching⟩] [1]).step?
        (.launched 1 (.ok config)) =
      some (system.having
        { fleet.changeMember slot (·.setConfig config) with launches := fleet.launches + 1 }
        [call, ⟨1, .restart slot, .awaiting fleet.launches⟩] [1],
        [.awaitReady slot fleet.launches]) := by
  simp [step?, step?.onCalling, Calling.launched?, Calling.call?, Calling.setPhase, calling,
    withCalling, having, hid, Calling.slotOf, Fleet.changeMember]

theorem having_abandoned_restart (system : System) (hid : call.id = 0)
    (hroot : fleet.rootFired = true) :
    (system.having fleet [call, ⟨1, .restart slot, .awaiting handle⟩] [1]).step? (.abandoned 1) =
      some (system.having fleet [call, ⟨1, .restart slot, .ending handle (.error .cancelled)⟩] [1],
        teardown slot handle) := by
  simp [step?, step?.onCalling, Calling.abandoned?, Calling.call?, Calling.endProcess,
    Calling.setPhase, calling, withCalling, having, hid, Calling.slotOf, hroot]

theorem having_ended_restart (system : System) (hid : call.id = 0) (result : Except Error Unit) :
    (system.having fleet [call, ⟨1, .restart slot, .ending handle result⟩] [1]).step?
        (.ended 1 handle) =
      some (system.having fleet [call, ⟨1, .restart slot, .finished result⟩] [], []) := by
  simp [step?, Calling.ended?, Calling.call?, Calling.finish, Calling.setPhase, calling,
    withCalling, having, hid]

/-- The engine gives out for a restart what it was asked for. -/
theorem exists_handed (system : System) (hid : call.id = 0)
    (hmember : fleet.member? slot = some member) (hprocess : fleet.process? slot = none)
    (hopen : fleet.shutDown = false) :
    ∃ moments, Course step? (system.having fleet [call, ⟨1, .restart slot, .queued⟩] [1]) moments
        (system.having
          { (fleet.waited (Calling.cooledAt fleet slot)).changeMember slot
              (·.setConfig member.config.joining) with launches := fleet.launches + 1 }
          [call, ⟨1, .restart slot, .awaiting fleet.launches⟩] [1]) ∧
      moments.head?.map (·.event) = some (.advance 1) ∧
      EngineNote.handed slot fleet.launches ∈ System.notes moments ∧
      exchanged issued moments =
        [.asked slot member.config.joining, .given slot member.config.joining] := by
  have hlock := having_lock_restart system hid hprocess hopen
  have hlaunch := having_cooled_restart system hid hmember
  have hlaunched : (system.having (fleet.waited (Calling.cooledAt fleet slot))
      [call, ⟨1, .restart slot, .launching⟩] [1]).step?
        (.launched 1 (.ok member.config.joining)) = _ :=
    having_launched_restart system hid member.config.joining
  refine ⟨_, (((Course.single hlock).append (.single (having_wait system _))).append
    (.single hlaunch)).append (.single hlaunched), rfl, ?_, ?_⟩
  · simp [System.notes, heard, Calling.heard, calling, Calling.call?, having, hid, Calling.slotOf,
      Fleet.waited]
  · simp [issued, asks, ofCommand?, calling, Calling.call?, having, hid, Calling.slotOf]

end Restart

/-- A member is stopped and launched again. -/
theorem exists_stopped_relaunched (system : System) {member : Member}
    (hmember : fleet.member? slot = some member) (hprocess : fleet.process? slot = some handle)
    (hopen : fleet.shutDown = false) :
    ∃ moments last, Course step? (system.having fleet [] []) moments last ∧
      exchanged issued moments =
        [.asked slot member.config.joining, .given slot member.config.joining] := by
  obtain ⟨early, stopped, clock, hearly, hnothing, hstopped, hempty, hstill, -⟩ :=
    exists_restart_queued system hmember hprocess hopen
  have hid : (⟨0, .stop slot, .finished (.ok ())⟩ : Call).id = 0 := rfl
  obtain ⟨late, hlate, -, -, hagain⟩ := exists_handed system hid hstopped hempty hstill
  refine ⟨early ++ late, _, hearly.append hlate, ?_⟩
  rw [exchanged_append, hnothing, hagain]
  rfl

end System

/-- The engine is asked for the only member of a fleet. -/
theorem begin_sole_asks {settings : FleetSettings} {token : String} {config : MemberConfig}
    {files after : Files} (hvalid : settings.validate = .ok ())
    (hconfigs : Layout.memberConfigs settings token = .ok [config])
    (hfiles : files.prepareDirectory settings.fleet.rootDir = (after, .ok ())) :
    ∃ first opening,
      Bootstrap.begin settings token files {} false = (after, .ok (first, opening)) ∧
      first.phase = .launching [config] ∧ first.handles = [] ∧ first.fleet.rootFired = false ∧
      asks opening = [.asked 0 config] := by
  obtain ⟨blank, hbegin, hhandles, hroot, -⟩ := Bootstrap.begin_eq hvalid hconfigs hfiles {} false
  refine ⟨_, _, hbegin, rfl, hhandles, hroot, ?_⟩
  simp [asks, ofCommand?, hhandles]

/-- A fleet of one member can be started, whatever configuration the engine gives out for it. -/
theorem exists_sole_answer {settings : FleetSettings} {token : String} {config : MemberConfig}
    {files after : Files} (hvalid : settings.validate = .ok ())
    (hconfigs : Layout.memberConfigs settings token = .ok [config])
    (hfiles : files.prepareDirectory settings.fleet.rootDir = (after, .ok ()))
    (canonical : MemberConfig) : ∃ first opening begun start,
      Bootstrap.begin settings token files {} false = (after, .ok (first, opening)) ∧
      Course Bootstrap.step? first begun start ∧ start.phase = .started ∧
      asks opening ++ exchanged Bootstrap.issued begun =
        [.asked 0 config, .given 0 canonical] := by
  obtain ⟨first, opening, hbegin, hphase, hhandles, hroot, hopening⟩ :=
    begin_sole_asks hvalid hconfigs hfiles
  obtain ⟨launched, commands, hlaunched, hsilent, hawaiting, hlength, hstill⟩ :
      ∃ launched commands, first.step? (.launched (.ok canonical)) = some (launched, commands) ∧
        asks commands = [] ∧ launched.phase = .awaiting (List.replicate (0 + 1) none) ∧
        launched.handles.length = 0 + 1 ∧ launched.fleet.rootFired = false := by
    refine ⟨_, _, Bootstrap.step?_launched hphase canonical, ?_, ?_, ?_, hroot⟩ <;>
      simp [hhandles, asks, ofCommand?]
  have hcourse := Course.single hlaunched
  obtain ⟨start, ⟨late, hlate⟩, hstarted, -⟩ := Bootstrap.awaiting_can_complete
    ((Bootstrap.Kept.begin hbegin).course hcourse) hawaiting hlength hstill
  have hlater : exchanged Bootstrap.issued late = [] :=
    (Bootstrap.exchanged_of_launched hlate (by rw [hawaiting]; rfl) (by rw [hstarted]; rfl)).2
  refine ⟨first, opening, _, start, hbegin, hcourse.append hlate, hstarted, ?_⟩
  simp [hlater, hopening, Bootstrap.issued, hsilent, hhandles]

/-- The smallest fleet can be started by an engine that gives out what it was asked for. -/
theorem exists_solo_echo : ∃ after first opening begun start config,
    Bootstrap.begin soloSettings "solo" {} {} false = (after, .ok (first, opening)) ∧
    Course Bootstrap.step? first begun start ∧ start.phase = .started ∧
    asks opening ++ exchanged Bootstrap.issued begun = [.asked 0 config, .given 0 config] := by
  obtain ⟨config, hconfigs⟩ := memberConfigs_solo "solo"
  obtain ⟨first, opening, begun, start, hanswer⟩ :=
    exists_sole_answer validate_solo hconfigs prepareDirectory_solo config
  exact ⟨_, first, opening, begun, start, config, hanswer⟩

/-! ### All that happens to a fleet -/

/-- A fleet was started with these settings and has come to this state since, and these notes were
made from the first launch on. -/
def Chronicle (settings : FleetSettings) (notes : List ConfigNote) (system : System) : Prop :=
  ∃ token files after clock rootFired first opening begun start tick moments,
    Bootstrap.begin settings token files clock rootFired = (after, .ok (first, opening)) ∧
    Course Bootstrap.step? first begun start ∧ start.phase = .started ∧
    Course System.step? (.ofStart start.fleet tick) moments system ∧
    notes = asks opening ++ exchanged Bootstrap.issued begun ++ exchanged System.issued moments

theorem Chronicle.exists_continues {settings : FleetSettings} {notes : List ConfigNote}
    {system : System} (chronicle : Chronicle settings notes system) (hfaithful : Faithful notes) :
    ∃ configs, configs.length = settings.fleet.size.toNat ∧
      system.Continues configs notes := by
  obtain ⟨token, files, after, clock, rootFired, first, opening, begun, start, tick, moments,
    hbegin, hbegun, hstarted, hcourse, rfl⟩ := chronicle
  obtain ⟨configs, -, hconfigs, hfirst, -⟩ := Bootstrap.Follows.begin hbegin
  have hlength := Layout.length_memberConfigs hconfigs
  have follows := hfirst.course (.begin hbegin) hbegun hfaithful.of_append (by rw [hstarted]; rfl)
  have hfleet : Started settings start.fleet :=
    ⟨_, _, _, _, _, _, _, _, start, hbegin, hbegun, hstarted, rfl⟩
  have continues : (System.ofStart start.fleet tick).Continues configs
      (asks opening ++ exchanged Bootstrap.issued begun) := by
    refine ⟨follows.laidOut, hfleet.size_eq.trans hlength.symm, fun slot founding hfounding => ?_⟩
    rw [follows.along.asked_of_started hstarted, hfounding]
    exact .single (follows.founds founding (List.mem_of_getElem? hfounding))
  exact ⟨configs, hlength,
    continues.course (System.kept_ofStart hfleet tick) hcourse hfaithful⟩

/-- Whatever happens to a started fleet, and however its restarts fare, as long as the engine
changes nothing of a configuration but the security of the channels: the first process of a member
founds the cluster and all later ones join it, all configurations that the engine was ever asked to
launch it with and the one in force are of the same member, and the index of the endpoints describes
the configurations in force. -/
theorem member_identity_is_stable {settings : FleetSettings} {notes : List ConfigNote}
    {system : System} (chronicle : Chronicle settings notes system)
    (hfaithful : Faithful notes) :
    (∀ slot < settings.fleet.size.toNat, ∃ founding config,
      Lineage founding (requests slot notes) ∧ system.fleet.config? slot = some config ∧
      config.SameMember founding) ∧
    system.fleet.endpoints = .ofConfigs system.fleet.configs := by
  obtain ⟨configs, hlength, continues⟩ := chronicle.exists_continues hfaithful
  refine ⟨fun slot hslot => ?_, continues.laidOut.endpoints_eq continues.size⟩
  obtain ⟨member, hmember⟩ : ∃ member, system.fleet.member? slot = some member :=
    Fleet.exists_member? (by rw [continues.size, hlength]; exact hslot)
  have hconfig : system.fleet.config? slot = some member.config := by
    rw [Fleet.config?, hmember]
    rfl
  obtain ⟨founding, hfounding, hsame⟩ := continues.laidOut.same slot _ hconfig
  exact ⟨founding, _, continues.lineages slot founding hfounding, hconfig, hsame⟩

/-- The only member of the smallest fleet is stopped and launched again. -/
theorem solo_member_identity_is_stable :
    ∃ notes system founding again config, Chronicle soloSettings notes system ∧
      requests 0 notes = [founding, again] ∧ founding.initialClusterState = .new ∧
      again.initialClusterState = .existing ∧ again.SameMember founding ∧
      system.fleet.config? 0 = some config ∧ config.SameMember founding := by
  obtain ⟨after, first, opening, begun, start, founding, hbegin, hbegun, hphase, hnotes⟩ :=
    exists_solo_echo
  have hstarted : Started soloSettings start.fleet :=
    ⟨_, _, _, _, _, _, _, _, start, hbegin, hbegun, hphase, rfl⟩
  obtain ⟨member, handle, hmember, hprocess⟩ :=
    hstarted.exists_seated (show 0 < soloSettings.fleet.size.toNat by decide)
  obtain ⟨moments, system, hcourse, hagain⟩ := System.exists_stopped_relaunched
    (System.ofStart start.fleet 0) hmember hprocess hstarted.fledgling.isOpen
  have hchronicle : Chronicle soloSettings
      ([] ++ [.asked 0 founding, .given 0 founding] ++
        [.asked 0 member.config.joining, .given 0 member.config.joining]) system :=
    ⟨_, _, _, _, _, _, _, _, start, 0, moments, hbegin, hbegun, hphase, hcourse,
      by rw [hnotes, hagain]; rfl⟩
  have hfaithful := (Faithful.nil.echo 0 founding).echo 0 member.config.joining
  obtain ⟨hmembers, -⟩ := member_identity_is_stable hchronicle hfaithful
  obtain ⟨first, config, lineage, hconfig, hsame⟩ := hmembers 0 (by decide)
  have hrequests : requests 0 ([] ++ [.asked 0 founding, .given 0 founding] ++
      [.asked 0 member.config.joining, .given 0 member.config.joining]) =
      [founding, member.config.joining] := rfl
  rw [hrequests] at lineage
  obtain rfl : founding = first := Option.some.inj lineage.first
  exact ⟨_, system, founding, _, config, hchronicle, hrequests, lineage.founds,
    lineage.joins _ (by simp), lineage.same _ (by simp), hconfig, hsame⟩

end FleetControl
