import FleetControl.Proofs.Fleet.Visit

/-!
# At most one leader

Members may have been shown to lead for all sorts of reasons, and several at once. A round displaces
all of that: a member that runs is probed, and its answer overwrites the snapshot, unless a
transition did so before. Where the reports of a round agree on the leader, at most the member that
is this leader is shown to lead once the round is over.
-/

namespace FleetControl

/-- A member gave this report in the course of these moments. -/
def Reported (moments : List (Moment System Event)) (slot : Nat) (report : ProbeReport) : Prop :=
  ∃ moment ∈ moments, moment.event = .answered slot (.reply (.ok report))

/-- A record shows a leader only because the member reported that it leads. -/
def Member.Warranted (reported : ProbeReport → Prop) (member : Member) : Prop :=
  member.status.state = .leader →
    ∃ report, reported report ∧ report.status.isLeader = true ∧ member.status.Shows report

/-- Only a record that no transition has touched can show a leader after it. -/
theorem Member.Turned.of_leader {slot : Nat} {clock : Clock} {old member : Member}
    {mark : Option Mark} (hturned : old.Turned slot clock mark member)
    (hleader : member.status.state = .leader) :
    member.status = old.status ∧ member.transition = old.transition ∧
      member.running = old.running := by
  cases hturned with
  | stopped => simp [markStopped, MemberStatus.setStopped] at hleader
  | restarted => simp [markStarted, MemberStatus.setLeadership, MemberState.ofLeadership] at hleader
  | kept => exact ⟨rfl, rfl, rfl⟩

/-- Whoever degrades a record leaves a leader in it only if a transition came in between. -/
theorem Member.transition_ne_of_leader {member : Member} {seen : Nanos} {activity cause : String}
    {started now : Int}
    (hleader : (member.markUnreachable seen activity started now cause).1.status.state = .leader) :
    member.transition.instant ≠ seen ∧ member.status.state = .leader := by
  unfold markUnreachable updateStatusSince at hleader
  split at hleader
  next => simp [updateStatus, MemberStatus.setStopped] at hleader
  next hseen => exact ⟨hseen, hleader⟩

/-- What a visit that has come this far still leaves to the leadership that the record shows. -/
def Visit.Admits (reported : ProbeReport → Prop) (member : Member) : Visit → Prop
  | .ahead => member.status.state = .leader → member.running = true
  | .seenStopped => member.status.state ≠ .leader
  | .seenRunning => True
  | .probed _ .finished => member.Warranted reported
  | .probed seen (.healthy _ report) =>
      (member.status.state = .leader → member.transition.instant = seen) ∧ reported report
  | .probed seen (.committing _ report _) =>
      (member.status.state = .leader → member.transition.instant = seen) ∧ reported report
  | .probed seen _ => member.status.state = .leader → member.transition.instant = seen
  | .done => member.Warranted reported

namespace Visit.Admits

variable {reported : ProbeReport → Prop} {member after : Member} {visit : Visit}

/-- Transitions displace whoever was shown to lead. -/
theorem turned {slot : Nat} {clock : Clock} {mark : Option Mark}
    (hadmits : visit.Admits reported member) (hturned : member.Turned slot clock mark after) :
    visit.Admits reported after := by
  have hwarranted : member.Warranted reported → after.Warranted reported := by
    intro hbefore hleader
    obtain ⟨hstatus, -⟩ := hturned.of_leader hleader
    rw [hstatus] at hleader ⊢
    exact hbefore hleader
  have hseen : ∀ seen, (member.status.state = .leader → member.transition.instant = seen) →
      after.status.state = .leader → after.transition.instant = seen := by
    intro seen hbefore hleader
    obtain ⟨hstatus, htransition, -⟩ := hturned.of_leader hleader
    rw [htransition]
    exact hbefore (hstatus ▸ hleader)
  cases visit with
  | ahead =>
      intro hleader
      obtain ⟨hstatus, -, hrunning⟩ := hturned.of_leader hleader
      exact hrunning.trans (hadmits (hstatus ▸ hleader))
  | seenStopped => exact fun hleader => hadmits ((hturned.of_leader hleader).1 ▸ hleader)
  | seenRunning => trivial
  | done => exact hwarranted hadmits
  | probed seen phase =>
      cases phase with
      | finished => exact hwarranted hadmits
      | healthy | committing => exact ⟨hseen seen hadmits.1, hadmits.2⟩
      | begun | asking | failing | unwound => exact hseen seen hadmits

/-- Every step of the visit leaves less to it, and at the end nothing but the member's own
report. -/
theorem next {answer : Answer ProbeReport} {reading : Reading}
    (hadmits : visit.Admits reported member) (hroot : reading.rootFired = false)
    (hreport : visit.asks = true → ∀ report, answer = .reply (.ok report) → reported report)
    (hheard : visit.asks = true → ∀ fault, answer = .reply (.error fault) →
      fault.isCancelled = false) :
    (visit.next answer reading member).2.Admits reported (visit.next answer reading member).1 := by
  have hdegraded : ∀ seen activity started cause,
      (member.status.state = .leader → member.transition.instant = seen) →
      (member.markUnreachable seen activity started reading.wall cause).1.Warranted reported := by
    intro seen activity started cause hbefore hleader
    obtain ⟨hseen, hstill⟩ := Member.transition_ne_of_leader hleader
    exact absurd (hbefore hstill) hseen
  cases visit with
  | ahead =>
      cases hrunning : member.running with
      | true =>
          simp only [Visit.next, hrunning, if_true]
          trivial
      | false =>
          have hstopped : member.status.state ≠ .leader := by
            intro hleader
            simp [hadmits hleader] at hrunning
          simp only [Visit.next, hrunning, Bool.false_eq_true, if_false]
          exact hstopped
  | seenStopped =>
      intro hleader
      refine absurd ?_ hadmits
      simp only [Visit.next, Member.refreshStoppedText] at hleader
      split at hleader <;> exact hleader
  | seenRunning => exact fun _ => rfl
  | done => exact hadmits
  | probed seen phase =>
      cases phase with
      | begun => exact hadmits
      | asking config started =>
          cases answer with
          | unwound text => exact hadmits
          | reply outcome =>
              cases outcome with
              | ok report => exact ⟨hadmits, hreport rfl report rfl⟩
              | error fault =>
                  simp only [Visit.next, Answer.phase, hheard rfl fault rfl, Bool.false_eq_true,
                    if_false]
                  exact hadmits
      | healthy config report => exact hadmits
      | committing config report text =>
          obtain ⟨hseen, hreported⟩ := hadmits
          intro hleader
          simp only [Visit.next, Member.updateStatusSince] at hleader ⊢
          split at hleader
          next hnow =>
            -- The report overwrites the snapshot.
            rw [if_pos hnow]
            have hleads : MemberState.ofLeadership report.status.isLeader = .leader := hleader
            refine ⟨report, hreported, ?_, MemberStatus.shows_commit ..⟩
            cases hisLeader : report.status.isLeader with
            | true => rfl
            | false => simp [hisLeader, MemberState.ofLeadership] at hleads
          next hnow => exact absurd (hseen hleader) hnow
      | failing fault started => exact hdegraded _ _ _ _ hadmits
      | finished => exact hadmits
      | unwound text =>
          simp only [Visit.next, hroot, Bool.false_eq_true, if_false]
          exact hdegraded _ _ _ _ hadmits

end Visit.Admits

/-- The calls do not take the root signal back. -/
theorem Turn.rootFired_of_fired {fleet after : Fleet} {underway later : Option Call}
    {heard : List EngineNote} {commands : List Command} {mark : Option Mark}
    (hturn : Turn fleet underway heard commands mark after later)
    (hfired : fleet.rootFired = true) :
    after.rootFired = true := by
  cases hturn with
  | signal => rfl
  | rest | coolStop | coolRestart | empty | stop | vanish | launch | refuse | hand | giveUp | ready
  | ended | pass | clear | clearEnded | cleared => exact hfired

namespace System

variable {system next first last : System} {event : Event} {commands : List Command}
  {moments : List (Moment System Event)}

/-- Once the root signal has fired it stays so. -/
theorem rootFired_of_step? (orderly : system.Orderly)
    (hstep : system.step? event = some (next, commands)) (hfired : system.fleet.rootFired = true) :
    next.fleet.rootFired = true := by
  obtain ⟨-, hstepped⟩ := step_of_step? orderly hstep
  cases hstepped with
  | turn hturn => exact hturn.rootFired_of_fired hfired
  | move hmove => exact hmove.rootFired_eq.trans hfired
  | @outside outer houtside =>
      cases outer with
      | time clock =>
          simp only [Fleet.outside?, Option.ite_none_right_eq_some, Option.some.injEq] at houtside
          rw [← houtside.2]
          exact hfired
      | fireRoot => rw [← Option.some.inj houtside]
      | touch files =>
          rw [← Option.some.inj houtside]
          exact hfired

/-- Where it has not fired at the end of a round, it had not fired before. -/
theorem Round.rootFired_eq (hround : first.Round moments last) (orderly : first.Orderly)
    (hroot : last.fleet.rootFired = false) :
    ∀ moment ∈ moments, moment.before.fleet.rootFired = false := by
  intro moment hmem
  obtain ⟨begun, commands, htick, hcourse⟩ := hround.begins
  have hbegun := (step_of_step? orderly htick).1
  obtain ⟨early, late, -, hearly, hstep, hlate⟩ := hcourse.cut hmem
  have hbefore := (orderly_size_of_course hbegun hearly).1
  by_contra hfired
  have hlast : last.Orderly ∧ last.fleet.rootFired = true := by
    apply ((Course.single hstep).append hlate).preserves ⟨hbefore, by simpa using hfired⟩
    intro before event after commands hstep hinv
    exact ⟨(step_of_step? hinv.1 hstep).1, rootFired_of_step? hinv.1 hstep hinv.2⟩
  simp [hroot] at hlast

/-- The answer that an event of the round gives. -/
def given : Event → Answer ProbeReport
  | .answered _ answer => answer
  | _ => .unwound ""

/-- What a round without the root signal leaves of the leadership that the records showed: what the
members have reported in it. -/
theorem Round.warranted (hround : first.Round moments last) (orderly : first.Orderly)
    (tidy : first.watching.Tidy) (hroot : last.fleet.rootFired = false)
    (hheard : ∀ moment ∈ moments, ∀ slot fault,
      moment.event = .answered slot (.reply (.error fault)) → fault.isCancelled = false)
    {slot : Nat} {old member : Member} (hold : first.fleet.member? slot = some old)
    (hstopped : old.running = false → old.status.state = .stopped)
    (hmember : last.fleet.member? slot = some member) :
    member.Warranted (Reported moments slot) := by
  have hroots := hround.rootFired_eq orderly hroot
  have hfound := hround.exists_member? orderly tidy hold (fun moment => given moment.event)
    (fun _ state => state.2.Admits (Reported moments slot) state.1) ?_ ?_ ?_ ?_
  · obtain ⟨found, hfound, hadmits⟩ := hfound
    obtain rfl := Option.some.inj (hmember.symm.trans hfound)
    exact hadmits
  · intro moment _ answer hevent
    rw [hevent]
    rfl
  · intro hleader
    cases hrunning : old.running with
    | true => rfl
    | false => simp [hstopped hrunning] at hleader
  · intro _ moment hmem current visit _ hasks hadmits
    refine hadmits.next (hroots moment hmem) ?_ ?_
    · intro hask report hreport
      exact ⟨moment, hmem, (hasks hask).trans (by rw [hreport])⟩
    · intro hask fault hfault
      exact hheard moment hmem slot fault ((hasks hask).trans (by rw [hfault]))
  · intro _ moment _ current visit after _ _ _ hturned hadmits
    exact hadmits.turned hturned

end System

/-- A complete round of any fleet, at any time, with whatever transitions, failures and unwound
probes in it, as long as the root signal does not fire and no probe tells of it. Before the round
the records may show as many leaders as they like, but none in a member that does not run. If the
reports of the round carry distinct ids, and agree on the leader where they name one, at most one
record shows a leader after the round, and it is that of the member that has reported the leader's
id as its own. -/
theorem round_leaves_one_leader {fleet : Fleet} {tick : Nanos} {first last : System}
    {history moments : List (Moment System Event)}
    (hcourse : Course System.step? (System.ofStart fleet tick) history first)
    (hround : first.Round moments last) (hroot : last.fleet.rootFired = false)
    (hheard : ∀ moment ∈ moments, ∀ slot fault,
      moment.event = .answered slot (.reply (.error fault)) → fault.isCancelled = false)
    (hstopped : ∀ slot member, first.fleet.member? slot = some member → member.running = false →
      member.status.state = .stopped) {leader : Nat}
    (hleader : ∀ slot report, Reported moments slot report →
      report.status.leaderId = leader ∨ report.status.leaderId = 0)
    (hdistinct : ∀ slot other report another, Reported moments slot report →
      Reported moments other another → report.status.memberId = another.status.memberId →
      slot = other) :
    (∀ slot member, last.fleet.member? slot = some member → member.status.state = .leader →
      leader ≠ 0 ∧ ∃ report, Reported moments slot report ∧ report.status.memberId = leader ∧
        member.status.Shows report) ∧
    ∀ slot other member another, last.fleet.member? slot = some member →
      last.fleet.member? other = some another → member.status.state = .leader →
      another.status.state = .leader → slot = other := by
  obtain ⟨orderly, tidy⟩ := System.keeps_course hcourse
  have hown : ∀ slot member, last.fleet.member? slot = some member →
      member.status.state = .leader →
      leader ≠ 0 ∧ ∃ report, Reported moments slot report ∧ report.status.memberId = leader ∧
        member.status.Shows report := by
    intro slot member hmember hleads
    obtain ⟨old, hold⟩ := Fleet.exists_member?
      (hround.size_eq orderly ▸ Fleet.slot_lt hmember)
    have hwarranted := hround.warranted orderly tidy hroot hheard hold (hstopped slot old hold)
      hmember
    obtain ⟨report, hreported, hisLeader, hshows⟩ := hwarranted hleads
    obtain ⟨hknown, hsame⟩ : report.status.leaderId ≠ 0 ∧
        report.status.leaderId = report.status.memberId := by
      simpa [StatusReport.isLeader, StatusReport.hasLeader] using hisLeader
    rcases hleader slot report hreported with hnamed | hnone
    · exact ⟨hnamed ▸ hknown, report, hreported, hsame.symm.trans hnamed, hshows⟩
    · exact absurd hnone hknown
  refine ⟨hown, fun slot other member another hmember hanother hleads hothers => ?_⟩
  obtain ⟨-, report, hreported, hid, -⟩ := hown slot member hmember hleads
  obtain ⟨-, more, hmore, hsame, -⟩ := hown other another hanother hothers
  exact hdistinct slot other report more hreported hmore (hid.trans hsame.symm)

/-- A running member that is shown to lead. -/
def rival (index : Nat) : Member :=
  { index, name := "rival", config := default, transition := {}, running := true
    status := { name := "rival", endpoint := "", isLeader := true, state := .leader } }

/-- A fleet in which three members are shown to lead. -/
def rivals : Fleet := { rootDir := "", interval := 0, members := [rival 0, rival 1, rival 2] }

/-- The first of them leads; the second one fails to say so, and all others do. -/
def rivalAnswer (slot : Nat) : Answer ProbeReport :=
  if slot = 1 then .unwound "silent" else .reply (.ok ⟨⟨7 + slot, 7, 0⟩, 0⟩)

/-- At most one of the three is left after a round. -/
theorem rivals_round_leaves_one_leader :
    ∃ moments last, (System.ofStart rivals 0).Round moments last ∧
      ∀ slot other member another, last.fleet.member? slot = some member →
        last.fleet.member? other = some another → member.status.state = .leader →
        another.status.state = .leader → slot = other := by
  let first := System.ofStart rivals 0
  have hstart : Course System.step? first [] first := .start
  obtain ⟨moments, last, hround, hevents⟩ :=
    System.exists_round (System.keeps_course hstart).2 rfl (Nat.le_refl _) rfl rivalAnswer
  have hreport : ∀ slot report, Reported moments slot report →
      report.status.memberId = 7 + slot ∧ report.status.leaderId = 7 := by
    rintro slot report ⟨moment, hmem, hevent⟩
    have hgiven := hevents moment hmem
    rw [hevent] at hgiven
    have hgiven : .reply (.ok report) = rivalAnswer slot := hgiven
    unfold rivalAnswer at hgiven
    split at hgiven
    next => simp at hgiven
    next =>
      obtain rfl := Except.ok.inj (Answer.reply.inj hgiven)
      exact ⟨rfl, rfl⟩
  refine ⟨moments, last, hround, (round_leaves_one_leader hstart hround ?_ ?_ ?_
    (fun slot report hreported => .inl (hreport slot report hreported).2) ?_).2⟩
  · exact (hround.aside hevents).2
  · intro moment hmem slot fault hevent
    have hgiven := hevents moment hmem
    rw [hevent] at hgiven
    have hgiven : .reply (.error fault) = rivalAnswer slot := hgiven
    unfold rivalAnswer at hgiven
    split at hgiven <;> simp at hgiven
  · intro slot member hmember hstopped
    have hmem : member ∈ [rival 0, rival 1, rival 2] := List.mem_of_getElem? hmember
    simp only [List.mem_cons, List.not_mem_nil, or_false] at hmem
    rcases hmem with rfl | rfl | rfl <;> simp [rival] at hstopped
  · intro slot other report another hreported hmore hsame
    have hleft := (hreport slot report hreported).1
    have hright := (hreport other another hmore).1
    omega

end FleetControl
