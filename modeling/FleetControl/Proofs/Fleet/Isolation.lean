import FleetControl.Fleet.View
import FleetControl.Proofs.Fleet.Identity
import FleetControl.Proofs.Fleet.Leadership

/-!
# Probes do not reach other members

While no member is stopped or restarted, a round makes of every record what the member's own answer
makes of it, and nothing else of the round has a part in that: not how the probes of the others end,
and not whether they end at all by answering. Neither the slots nor the transitions change.
-/

namespace FleetControl

open FleetControl.Number FleetControl.Text

namespace Member

/-- The record with another text in its snapshot. -/
def retold (member : Member) (stateText : String) : Member :=
  { member with status := { member.status with stateText } }

/-- The record that shows a report of the member at the endpoint in force. -/
def showing (member : Member) (report : ProbeReport) (stateText : String) : Member :=
  { member with
    status := {
      name := member.status.name
      id := hexadecimal report.status.memberId
      endpoint := member.config.clientUrl
      isLeader := decide (report.status.leaderId ≠ 0 ∧
        report.status.leaderId = report.status.memberId)
      state := if report.status.leaderId ≠ 0 ∧ report.status.leaderId = report.status.memberId
        then .leader else .follower
      stateText
      dbSize := report.status.dbSize
      dbSizeText := byteSize report.status.dbSize
      hash := report.hash } }

/-- The record of a member that is taken for stopped. The snapshot keeps the name, the id and the
endpoint; it has neither leadership nor size nor hash. -/
def degraded (member : Member) (stateText : String) : Member :=
  { member with
    status := {
      name := member.status.name
      id := member.status.id
      endpoint := member.status.endpoint
      isLeader := false
      state := .stopped
      stateText
      dbSize := 0
      dbSizeText := ""
      hash := 0 } }

end Member

/-- What a round makes of the record of a member that gives this answer, after what it has read at
its steps with the member. -/
inductive Member.Visited (readings : List Reading) (old : Member) :
    Answer ProbeReport → Member → Prop where
  /-- Of a member that does not run only the text is brought up to date. -/
  | stopped {answer : Answer ProbeReport} {reading : Reading} (hread : reading ∈ readings)
      (hstopped : old.running = false) :
      Visited readings old answer
        (old.retold (old.name ++ " has been stopped (since " ++
          relativeTime old.transition.wall reading.wall ++ ")"))
  /-- A report is written down. -/
  | reported {report : ProbeReport} {reading : Reading} (hread : reading ∈ readings)
      (hrunning : old.running = true) :
      Visited readings old (.reply (.ok report))
        (old.showing report (old.healthyText reading.wall))
  /-- A member that fails to report is degraded. -/
  | failed {fault : ProbeFault} {start reading : Reading} (hstart : start ∈ readings)
      (hread : reading ∈ readings) (hrunning : old.running = true)
      (hheard : fault.isCancelled = false) :
      Visited readings old (.reply (.error fault))
        (old.degraded
          (old.unreachableText fault.stage.activity start.wall reading.wall fault.source.message))
  /-- A probe that tells of the root signal is ignored. -/
  | cancelled {fault : ProbeFault} (hrunning : old.running = true)
      (hcancelled : fault.isCancelled = true) : Visited readings old (.reply (.error fault)) old
  /-- A member whose probe unwinds is degraded. -/
  | unwound {text : String} {reading : Reading} (hread : reading ∈ readings)
      (hrunning : old.running = true) (hroot : reading.rootFired = false) :
      Visited readings old (.unwound text)
        (old.degraded (old.unreachableText "probing" reading.wall reading.wall (unwindCause text)))
  /-- After the root signal a probe that unwinds is ignored. -/
  | ignored {text : String} {reading : Reading} (hread : reading ∈ readings)
      (hrunning : old.running = true) (hroot : reading.rootFired = true) :
      Visited readings old (.unwound text) old

namespace Member

variable (member : Member) (config : MemberConfig)

/-- What the round brings up to date of a member that does not run. -/
theorem refreshStoppedText_eq (hstopped : member.running = false) (now : Int) :
    member.refreshStoppedText now =
      member.retold (member.name ++ " has been stopped (since " ++
        relativeTime member.transition.wall now ++ ")") := by
  simp [refreshStoppedText, hstopped, updateStatus, retold]

/-- What a probe writes of a member that reports. -/
theorem updateStatus_commit (report : ProbeReport) (stateText : String) :
    member.updateStatus (·.commit member.config.clientUrl stateText report) =
      member.showing report stateText := by
  simp [updateStatus, showing, MemberStatus.commit, MemberStatus.setLeadership,
    MemberState.ofLeadership, StatusReport.isLeader, StatusReport.hasLeader,
    StatusReport.memberIdHex]

/-- What is written of a member that could not be reached. -/
theorem updateStatus_setStopped (stateText : String) :
    member.updateStatus (·.setStopped stateText) = member.degraded stateText := rfl

@[simp] theorem refreshStoppedText_setConfig (now : Int) :
    (member.setConfig config).refreshStoppedText now =
      (member.refreshStoppedText now).setConfig config := by
  unfold refreshStoppedText
  rw [show (member.setConfig config).running = member.running from rfl]
  split <;> rfl

@[simp] theorem updateStatusSince_setConfig (seen : Nanos) (f : MemberStatus → MemberStatus) :
    ((member.setConfig config).updateStatusSince seen f).1 =
      (member.updateStatusSince seen f).1.setConfig config := by
  unfold updateStatusSince
  rw [show (member.setConfig config).transition = member.transition from rfl]
  split <;> rfl

@[simp] theorem markUnreachable_setConfig (seen : Nanos) (activity : String) (started now : Int)
    (cause : String) :
    ((member.setConfig config).markUnreachable seen activity started now cause).1 =
      (member.markUnreachable seen activity started now cause).1.setConfig config :=
  member.updateStatusSince_setConfig ..

end Member

namespace Visit

/-- The state of a visit after its steps have read this. -/
def run (answer : Answer ProbeReport) (readings : List Reading) (state : Member × Visit) :
    Member × Visit :=
  readings.foldl (fun state reading => state.2.next answer reading state.1) state

theorem run_concat (answer : Answer ProbeReport) (readings : List Reading) (reading : Reading)
    (state : Member × Visit) :
    run answer (readings ++ [reading]) state =
      (run answer readings state).2.next answer reading (run answer readings state).1 := by
  simp [run]

/-- How a visit comes from a record, through what it has read, to a state. -/
inductive Traces (answer : Answer ProbeReport) (readings : List Reading) (old : Member) :
    Member × Visit → Prop where
  | ahead : Traces answer readings old (old, .ahead)
  | seenStopped (hstopped : old.running = false) : Traces answer readings old (old, .seenStopped)
  | seenRunning (hrunning : old.running = true) : Traces answer readings old (old, .seenRunning)
  | begun (hrunning : old.running = true) :
      Traces answer readings old (old, .probed old.transition.instant .begun)
  | asking {start : Reading} (hrunning : old.running = true) (hstart : start ∈ readings) :
      Traces answer readings old
        (old, .probed old.transition.instant (.asking old.config start.wall))
  | healthy {report : ProbeReport} (hrunning : old.running = true)
      (hanswer : answer = .reply (.ok report)) :
      Traces answer readings old
        (old, .probed old.transition.instant (.healthy old.config report))
  | committing {report : ProbeReport} {reading : Reading} (hrunning : old.running = true)
      (hanswer : answer = .reply (.ok report)) (hread : reading ∈ readings) :
      Traces answer readings old
        (old, .probed old.transition.instant
          (.committing old.config report (old.healthyText reading.wall)))
  | failing {fault : ProbeFault} {start : Reading} (hrunning : old.running = true)
      (hanswer : answer = .reply (.error fault)) (hheard : fault.isCancelled = false)
      (hstart : start ∈ readings) :
      Traces answer readings old
        (old, .probed old.transition.instant (.failing fault start.wall))
  | unwound {text : String} (hrunning : old.running = true) (hanswer : answer = .unwound text) :
      Traces answer readings old (old, .probed old.transition.instant (.unwound text))
  | finished {member : Member} (hrunning : old.running = true)
      (hvisited : old.Visited readings answer member) :
      Traces answer readings old (member, .probed old.transition.instant .finished)
  | done {member : Member} (hvisited : old.Visited readings answer member) :
      Traces answer readings old (member, .done)

end Visit

variable {answer : Answer ProbeReport} {readings : List Reading} {old member : Member}
  {state : Member × Visit}

/-- More may be read afterwards. -/
theorem Member.Visited.more (hvisited : old.Visited readings answer member) (reading : Reading) :
    old.Visited (readings ++ [reading]) answer member := by
  cases hvisited with
  | stopped hread hstopped => exact .stopped (List.mem_append_left _ hread) hstopped
  | reported hread hrunning => exact .reported (List.mem_append_left _ hread) hrunning
  | failed hstart hread hrunning hheard =>
      exact .failed (List.mem_append_left _ hstart) (List.mem_append_left _ hread) hrunning hheard
  | cancelled hrunning hcancelled => exact .cancelled hrunning hcancelled
  | unwound hread hrunning hroot => exact .unwound (List.mem_append_left _ hread) hrunning hroot
  | ignored hread hrunning hroot => exact .ignored (List.mem_append_left _ hread) hrunning hroot

namespace Member.Visited

variable {report : ProbeReport} {fault : ProbeFault} {text : String}

theorem eq_retold (hvisited : old.Visited readings answer member) (hstopped : old.running = false) :
    ∃ text, member = old.retold text := by
  cases hvisited with
  | stopped => exact ⟨_, rfl⟩
  | reported | failed | cancelled | unwound | ignored => simp_all

theorem eq_showing (hvisited : old.Visited readings (.reply (.ok report)) member)
    (hrunning : old.running = true) : ∃ text, member = old.showing report text := by
  cases hvisited with
  | stopped => simp_all
  | reported => exact ⟨_, rfl⟩

theorem eq_degraded_of_failed (hvisited : old.Visited readings (.reply (.error fault)) member)
    (hrunning : old.running = true) (hheard : fault.isCancelled = false) :
    ∃ text, member = old.degraded text := by
  cases hvisited with
  | stopped | cancelled => simp_all
  | failed => exact ⟨_, rfl⟩

theorem eq_of_cancelled (hvisited : old.Visited readings (.reply (.error fault)) member)
    (hrunning : old.running = true) (hcancelled : fault.isCancelled = true) : member = old := by
  cases hvisited with
  | stopped | failed => simp_all
  | cancelled => rfl

theorem eq_degraded_of_unwound (hvisited : old.Visited readings (.unwound text) member)
    (hrunning : old.running = true) (hroot : ∀ reading ∈ readings, reading.rootFired = false) :
    ∃ text, member = old.degraded text := by
  cases hvisited with
  | stopped => simp_all
  | unwound => exact ⟨_, rfl⟩
  | ignored hread _ hfired => simp [hroot _ hread] at hfired

end Member.Visited

/-- No round touches anything of a record but its snapshot. -/
theorem Member.Visited.standing_eq (hvisited : old.Visited readings answer member) :
    member.standing = old.standing := by
  cases hvisited with
  | stopped | reported | failed | cancelled | unwound | ignored => rfl

namespace Visit.Traces

/-- The visit takes its next step. -/
theorem next (htraces : Traces answer readings old state) (reading : Reading) :
    Traces answer (readings ++ [reading]) old (state.2.next answer reading state.1) := by
  have hnow : reading ∈ readings ++ [reading] := List.mem_append_right _ List.mem_cons_self
  have hearlier : ∀ other ∈ readings, other ∈ readings ++ [reading] :=
    fun other => List.mem_append_left _
  cases htraces with
  | ahead =>
      cases hrunning : old.running with
      | true => simpa [Visit.next, hrunning] using .seenRunning hrunning
      | false => simpa [Visit.next, hrunning] using .seenStopped hrunning
  | seenStopped hstopped =>
      rw [Visit.next, Member.refreshStoppedText_eq _ hstopped]
      exact .done (.stopped hnow hstopped)
  | seenRunning hrunning => exact .begun hrunning
  | begun hrunning => exact .asking hrunning hnow
  | asking hrunning hstart =>
      cases answer with
      | unwound text => exact .unwound hrunning rfl
      | reply outcome =>
          cases outcome with
          | ok report => exact .healthy hrunning rfl
          | error fault =>
              cases hcancelled : fault.isCancelled with
              | true =>
                  simpa [Visit.next, Answer.phase, hcancelled] using
                    .finished hrunning (.cancelled hrunning hcancelled)
              | false =>
                  simpa [Visit.next, Answer.phase, hcancelled] using
                    .failing hrunning rfl hcancelled (hearlier _ hstart)
  | healthy hrunning hanswer => exact .committing hrunning hanswer hnow
  | committing hrunning hanswer hread =>
      subst hanswer
      simpa [Visit.next, Member.updateStatusSince, Member.updateStatus_commit] using
        .finished hrunning (.reported (hearlier _ hread) hrunning)
  | failing hrunning hanswer hheard hstart =>
      subst hanswer
      simpa [Visit.next, Member.markUnreachable, Member.updateStatusSince,
        Member.updateStatus_setStopped] using
        .finished hrunning (.failed (hearlier _ hstart) hnow hrunning hheard)
  | unwound hrunning hanswer =>
      subst hanswer
      cases hroot : reading.rootFired with
      | true => simpa [Visit.next, hroot] using .done (.ignored hnow hrunning hroot)
      | false =>
          simpa [Visit.next, Member.markUnreachable, Member.updateStatusSince,
            Member.updateStatus_setStopped, hroot] using .done (.unwound hnow hrunning hroot)
  | finished _ hvisited => exact .done (hvisited.more reading)
  | done hvisited => exact .done (hvisited.more reading)

/-- A whole visit. -/
theorem of_run (answer : Answer ProbeReport) (readings : List Reading) (old : Member) :
    Traces answer readings old (run answer readings (old, .ahead)) := by
  induction readings using List.reverseRecOn with
  | nil => exact .ahead
  | append_singleton readings reading ih =>
      rw [run_concat]
      exact ih.next reading

/-- Nothing of a record is touched on the way but its snapshot. -/
theorem standing_eq (htraces : Traces answer readings old state) :
    state.1.standing = old.standing := by
  cases htraces with
  | finished _ hvisited => exact hvisited.standing_eq
  | done hvisited => exact hvisited.standing_eq
  | ahead | seenStopped | seenRunning | begun | asking | healthy | committing | failing
  | unwound => rfl

/-- The configuration is read only from a member that runs. -/
theorem next_setConfig (htraces : Traces answer readings old state) (reading : Reading)
    {config : MemberConfig} (hconfig : old.running = true → config = old.config) :
    state.2.next answer reading (state.1.setConfig config) =
      ((state.2.next answer reading state.1).1.setConfig config,
        (state.2.next answer reading state.1).2) := by
  cases htraces with
  | begun hrunning =>
      obtain rfl := hconfig hrunning
      rfl
  | seenStopped => simp only [Visit.next, Member.refreshStoppedText_setConfig]
  | committing => simp only [Visit.next, Member.updateStatusSince_setConfig]
  | failing => simp only [Visit.next, Member.markUnreachable_setConfig]
  | unwound =>
      simp only [Visit.next, Member.markUnreachable_setConfig]
      split <;> rfl
  | ahead | seenRunning | asking | healthy | finished | done => rfl

end Visit.Traces

/-- Without a transition the calls change at most the configuration of a record. -/
theorem Member.Turned.exists_config {slot : Nat} {clock : Clock} {mark : Option Mark}
    (hturned : old.Turned slot clock mark member) (hmark : ∀ kind, mark ≠ some (slot, kind)) :
    ∃ config, member = old.setConfig config := by
  cases hturned with
  | stopped => exact absurd rfl (hmark _)
  | restarted => exact absurd rfl (hmark _)
  | @kept _ config => exact ⟨config, rfl⟩

/-- The engine hands out no process for a slot. -/
def Unhanded (slot : Nat) (moments : List (Moment System Event)) : Prop :=
  ∀ moment ∈ moments, ∀ handle, .handed slot handle ∉ moment.before.heard moment.event

/-- What a round reads at its steps with a member. -/
def readingsOf (slot : Nat) (moments : List (Moment System Event)) : List Reading :=
  (moments.filter fun moment => moment.before.concerns slot moment.event).map
    fun moment => moment.before.watching.reading

theorem readingsOf_concat {slot : Nat} (moments : List (Moment System Event))
    (moment : Moment System Event) :
    readingsOf slot (moments ++ [moment]) =
      readingsOf slot moments ++
        if moment.before.concerns slot moment.event then [moment.before.watching.reading]
        else [] := by
  cases hconcerns : moment.before.concerns slot moment.event <;> simp [readingsOf, hconcerns]

namespace System

variable {system next first last : System} {event : Event} {commands : List Command} {slot : Nat}
  {history moments : List (Moment System Event)} {answers : Nat → Answer ProbeReport}

/-- A complete round in which no member is stopped or restarted, and in which every member that is
asked gives this answer. -/
structure SteadyRound (answers : Nat → Answer ProbeReport) (first : System)
    (moments : List (Moment System Event)) (last : System) : Prop where
  round : first.Round moments last
  unmarked : ∀ slot, Unmarked slot moments
  answered : ∀ moment ∈ moments, ∀ slot given, moment.event = .answered slot given →
    given = answers slot

namespace SteadyRound

/-- A round that nothing disturbs. -/
theorem of_undisturbed (hround : first.Round moments last)
    (hevents : ∀ moment ∈ moments, moment.event.Undisturbed answers) :
    first.SteadyRound answers moments last := by
  refine ⟨hround, unmarked_of_undisturbed hevents, fun moment hmem slot given hevent => ?_⟩
  have hgiven := hevents moment hmem
  rw [hevent] at hgiven
  exact hgiven

/-- Every moment of the round starts from a fleet that is kept. -/
theorem kept (hround : first.SteadyRound answers moments last) (kept : first.Kept) :
    ∀ moment ∈ moments, moment.before.Kept ∧
      moment.before.step? moment.event = some (moment.after, moment.commands) := by
  intro moment hmem
  obtain ⟨begun, commands, htick, hcourse⟩ := hround.round.begins
  obtain ⟨early, late, -, hearly, hstep, -⟩ := hcourse.cut hmem
  exact ⟨hearly.preserves (kept.step htick) fun hstep before => before.step hstep, hstep⟩

/-- The slots stay as they are. -/
theorem slots_eq (hround : first.SteadyRound answers moments last) (orderly : first.Orderly) :
    last.fleet.slots = first.fleet.slots := by
  obtain ⟨begun, commands, htick, hcourse⟩ := hround.round.begins
  have hbegun := (step_of_step? orderly htick).1
  have hunmarked := hround.unmarked
  suffices hpart : last.fleet.slots = begun.fleet.slots from
    hpart.trans (slots_eq_of_step? orderly htick rfl)
  clear hround htick
  induction hcourse with
  | start => rfl
  | next earlier hstep ih =>
      have hearly := fun slot => (List.forall_mem_append.mp (hunmarked slot)).1
      have hlast := fun slot => (List.forall_mem_append.mp (hunmarked slot)).2
      have hnone := Option.eq_none_iff_forall_ne_some.mpr fun mark : Mark =>
        unmarked_singleton.mp (hlast mark.1) mark.2
      exact (slots_eq_of_step? (orderly_size_of_course hbegun earlier).1 hstep hnone).trans
        (ih hearly)

/-- What the round makes of a record is what the member's own visit makes of it, but for the
configuration that the engine may hand out for a member that does not run. -/
theorem exists_member? (hround : first.SteadyRound answers moments last) (kept : first.Kept)
    (tidy : first.watching.Tidy) {old : Member} (hold : first.fleet.member? slot = some old) :
    ∃ config visited, last.fleet.member? slot = some (visited.setConfig config) ∧
      Visit.run (answers slot) (readingsOf slot moments) (old, .ahead) = (visited, .done) ∧
      (old.running = true ∨ Unhanded slot moments → config = old.config) := by
  let reached (part : List (Moment System Event)) : Member × Visit :=
    Visit.run (answers slot) (readingsOf slot part) (old, .ahead)
  have htraces : ∀ part, Visit.Traces (answers slot) (readingsOf slot part) old (reached part) :=
    fun part => .of_run ..
  have hlast := hround.round.exists_member? kept.orderly tidy hold (fun _ => answers slot)
    (fun part state => ∃ config, state = ((reached part).1.setConfig config, (reached part).2) ∧
      (old.running = true ∨ Unhanded slot part → config = old.config)) ?_ ?_ ?_ ?_
  · obtain ⟨member, hmember, config, hstate, hconfig⟩ := hlast
    obtain ⟨rfl, hdone⟩ := Prod.mk.inj hstate
    exact ⟨config, (reached moments).1, hmember, Prod.ext rfl hdone.symm, hconfig⟩
  · exact fun moment hmem given hevent => hround.answered moment hmem slot given hevent
  · exact ⟨old.config, rfl, fun _ => rfl⟩
  · rintro part moment hmem _ _ hconcerns - ⟨config, hstate, hconfig⟩
    obtain ⟨rfl, rfl⟩ := Prod.mk.inj hstate
    have hnext : reached (part ++ [moment]) = (reached part).2.next (answers slot)
        moment.before.watching.reading (reached part).1 := by
      simp only [reached, readingsOf_concat, hconcerns, if_true, Visit.run_concat]
    refine ⟨config, ?_, fun hcalm => hconfig (hcalm.imp_right fun hnone => ?_)⟩
    · rw [hnext]
      exact (htraces part).next_setConfig _ fun hrunning => hconfig (.inl hrunning)
    · exact (List.forall_mem_append.mp hnone).1
  · rintro part moment hmem _ _ after hconcerns hbefore hafter hturned ⟨config, hstate, hconfig⟩
    obtain ⟨rfl, rfl⟩ := Prod.mk.inj hstate
    have hsame : reached (part ++ [moment]) = reached part := by
      simp [reached, readingsOf_concat, hconcerns]
    obtain ⟨hkept, hstep⟩ := hround.kept kept moment hmem
    obtain ⟨other, rfl⟩ := hturned.exists_config (hround.unmarked slot moment hmem)
    refine ⟨other, by rw [hsame]; rfl, fun hcalm => ?_⟩
    -- A member that runs has a process, so that none is handed out for it.
    have hrunning : (reached part).1.running = old.running :=
      Member.running_eq (htraces part).standing_eq
    refine (hkept.config_eq hstep hbefore hafter ?_).trans (hconfig ?_)
    · exact hcalm.imp hrunning.trans fun hnone =>
        (List.forall_mem_append.mp hnone).2 moment List.mem_cons_self
    · exact hcalm.imp_right fun hnone => (List.forall_mem_append.mp hnone).1

end SteadyRound

/-- Where nothing disturbs the monitor, the engine is not heard of. -/
theorem unhanded_of_undisturbed (hevents : ∀ moment ∈ moments, moment.event.Undisturbed answers)
    (slot : Nat) : Unhanded slot moments := by
  intro moment hmem handle
  have hevent := hevents moment hmem
  cases hcase : moment.event with
  | outside | tick | survey | join | probe | answered => exact List.not_mem_nil
  | call | advance | launched | ready | abandoned | ended | quit | drop =>
      rw [hcase] at hevent
      exact hevent.elim

end System

/-- A complete round in a started fleet at any time, in which no member is stopped or restarted,
with any answers, and with the root signal fired or not. Neither a slot nor a transition nor the
flag of a member that runs changes, and a configuration at most where the engine hands out a process
for a member that does not run. Every record becomes what the member's own answer makes of it. So it
does in any other round that finds the same record, gets the same answer from the member and reads
the same at its steps with it, whatever the other members are and answer there. -/
theorem rounds_are_isolated {first last : System} {moments : List (Moment System Event)}
    {answers : Nat → Answer ProbeReport} (hreachable : first.Reachable)
    (hround : first.SteadyRound answers moments last) :
    last.fleet.slots = first.fleet.slots ∧
    last.fleet.members.length = first.fleet.members.length ∧
    ∀ slot old, first.fleet.member? slot = some old →
      ∃ member, last.fleet.member? slot = some member ∧
        member.running = old.running ∧ member.transition = old.transition ∧
        (old.running = true ∨ Unhanded slot moments → member.config = old.config) ∧
        old.Visited (readingsOf slot moments) (answers slot) (member.setConfig old.config) ∧
        ∀ (other final : System) (more : List (Moment System Event)) others, other.Reachable →
          other.SteadyRound others more final → other.fleet.member? slot = some old →
          others slot = answers slot → readingsOf slot more = readingsOf slot moments →
          final.fleet.status? slot = some member.status := by
  have orderly := hreachable.kept.orderly
  refine ⟨hround.slots_eq orderly, hround.round.size_eq orderly, ?_⟩
  intro slot old hold
  obtain ⟨config, visited, hmember, hrun, hconfig⟩ :=
    hround.exists_member? hreachable.kept hreachable.attended.tidy hold
  have htraces := Visit.Traces.of_run (answers slot) (readingsOf slot moments) old
  rw [hrun] at htraces
  have hstanding : visited.standing = old.standing := htraces.standing_eq
  have hrunning : visited.running = old.running := Member.running_eq hstanding
  have htransition : visited.transition = old.transition := Member.transition_eq hstanding
  have hsameConfig : visited.config = old.config :=
    show visited.standing.config = old.standing.config by rw [hstanding]
  have hown : (visited.setConfig config).setConfig old.config = visited := by
    rw [← hsameConfig]
    rfl
  refine ⟨_, hmember, hrunning, htransition, hconfig, ?_, ?_⟩
  · cases htraces with
    | done hvisited => exact hown.symm ▸ hvisited
  · intro other final more others hother hagain hsame hanswer hread
    obtain ⟨otherConfig, found, hfound, hfoundRun, -⟩ :=
      hagain.exists_member? hother.kept hother.attended.tidy hsame
    rw [hanswer, hread, hrun] at hfoundRun
    obtain ⟨rfl, -⟩ := Prod.mk.inj hfoundRun
    simp [Fleet.status?, hfound, Member.setConfig]

/-- One member leads, one cannot be reached, the probe of one tells of the root signal, and the
probes of all others unwind. -/
def mixedAnswer : Nat → Answer ProbeReport
  | 1 => .reply (.ok ⟨⟨7, 7, 2048⟩, 42⟩)
  | 2 => .reply (.error ⟨.dial, .transport⟩)
  | 3 => .reply (.error ⟨.status, .cancelled⟩)
  | _ => .unwound "out of memory"

/-- A fleet of five runs but for the first member, which a stop has taken out. -/
theorem exists_first_stopped :
    ∃ first : System, first.Reachable ∧ first.fleet.rootFired = false ∧
      first.fleet.stopFired = false ∧ first.monitor.phase = .idle ∧
      first.monitor.due ≤ first.fleet.clock.instant ∧
      ∀ slot < 5, ∃ member, first.fleet.member? slot = some member ∧
        member.running = decide (slot ≠ 0) := by
  have hvalid : (crewSettings 5).validate = .ok () := by decide
  have hcount : 4 + 1 = (5 : UInt64).toNat := rfl
  obtain ⟨fleet, hstarted, -, hroot⟩ := started_crew hcount hvalid
  have hseated : ∀ slot < 5, ∃ member handle, fleet.member? slot = some member ∧
      fleet.process? slot = some handle := fun slot hslot => hstarted.exists_seated hslot
  obtain ⟨member, handle, hmember, hprocess⟩ := hseated 0 (by decide)
  obtain ⟨history, hstop, -⟩ := (System.ofStart fleet 0).exists_stopped hmember hprocess
  refine ⟨_, ⟨_, fleet, 0, history, hstarted, hstop⟩, hroot, hstarted.fledgling.watched, rfl,
    Nat.le_max_right .., fun slot hlt => ?_⟩
  cases slot with
  | zero => exact ⟨_, (Fleet.member?_changeMember_self ..).trans (congrArg _ hmember), rfl⟩
  | succ slot =>
      obtain ⟨other, -, hother, -⟩ := hseated (slot + 1) hlt
      exact ⟨other, (Fleet.member?_changeMember_of_ne (Nat.succ_ne_zero slot).symm _).trans hother,
        (hstarted.running hother).trans (by simp)⟩

/-- Five members, the first of which is stopped, in a round with these answers. -/
theorem mixed_round_is_isolated :
    ∃ (first last : System) (moments : List (Moment System Event)) (old member : Nat → Member),
      first.Reachable ∧ first.SteadyRound mixedAnswer moments last ∧
      (∀ slot < 5, first.fleet.member? slot = some (old slot) ∧
        last.fleet.member? slot = some (member slot) ∧ (old slot).running = decide (slot ≠ 0)) ∧
      (∃ text, member 0 = (old 0).retold text) ∧
      (∃ text, member 1 = (old 1).showing ⟨⟨7, 7, 2048⟩, 42⟩ text) ∧
      (∃ text, member 2 = (old 2).degraded text) ∧ member 3 = old 3 ∧
      ∃ text, member 4 = (old 4).degraded text := by
  obtain ⟨first, hreachable, hroot, hwatched, hidle, hdue, hfound⟩ := exists_first_stopped
  obtain ⟨moments, last, hround, hevents⟩ := System.exists_round hreachable.attended.tidy hidle
    hdue hwatched mixedAnswer
  have hsteady := System.SteadyRound.of_undisturbed hround hevents
  have hroots := hround.rootFired_eq hreachable.kept.orderly
    ((hround.aside hevents).2.trans hroot)
  obtain ⟨-, -, hmembers⟩ := rounds_are_isolated hreachable hsteady
  have hvisits : ∀ slot < 5, ∃ old member, first.fleet.member? slot = some old ∧
      last.fleet.member? slot = some member ∧ old.running = decide (slot ≠ 0) ∧
      old.Visited (readingsOf slot moments) (mixedAnswer slot) member := by
    intro slot hslot
    obtain ⟨old, hold, hrunning⟩ := hfound slot hslot
    obtain ⟨member, hmember, -, -, hconfig, hvisited, -⟩ := hmembers slot old hold
    have hsame := hconfig (.inr (System.unhanded_of_undisturbed hevents slot))
    exact ⟨old, member, hold, hmember, hrunning, by rwa [← hsame] at hvisited⟩
  choose! old member hold hmember hrunning hvisited using hvisits
  have hruns : ∀ slot < 5, slot ≠ 0 → (old slot).running = true := fun slot hlt hslot =>
    (hrunning slot hlt).trans (decide_eq_true hslot)
  refine ⟨first, last, moments, old, member, hreachable, hsteady, fun slot hlt =>
    ⟨hold slot hlt, hmember slot hlt, hrunning slot hlt⟩, ?_, ?_, ?_, ?_, ?_⟩
  · exact (hvisited 0 (by decide)).eq_retold (hrunning 0 (by decide))
  · exact (hvisited 1 (by decide)).eq_showing (hruns 1 (by decide) (by decide))
  · exact (hvisited 2 (by decide)).eq_degraded_of_failed (hruns 2 (by decide) (by decide)) rfl
  · exact (hvisited 3 (by decide)).eq_of_cancelled (hruns 3 (by decide) (by decide)) rfl
  · refine (hvisited 4 (by decide)).eq_degraded_of_unwound (hruns 4 (by decide) (by decide))
      fun reading hread => ?_
    obtain ⟨moment, hmem, rfl⟩ := List.mem_map.mp hread
    exact hroots moment (List.mem_filter.mp hmem).1

end FleetControl
