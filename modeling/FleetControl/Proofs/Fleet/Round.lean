import FleetControl.Proofs.Fleet.Quiet

/-!
# A round in which nothing else happens

While only the monitor acts, and every member gives one and the same answer whenever it is asked, a
round brings the record of every member that runs to that answer: a report is written down, and a
member that fails to report, or unwinds the probe, is shown stopped. Whatever the record showed
before is overwritten.
-/

namespace FleetControl

/-- A snapshot shows what a member reported. -/
structure MemberStatus.Shows (status : MemberStatus) (report : ProbeReport) : Prop where
  state : status.state = .ofLeadership report.status.isLeader
  isLeader : status.isLeader = report.status.isLeader
  id : status.id = report.status.memberIdHex
  dbSize : status.dbSize = report.status.dbSize
  hash : status.hash = report.hash

/-- A snapshot shows a member's answer. -/
def MemberStatus.Reflects (status : MemberStatus) : Answer ProbeReport → Prop
  | .reply (.ok report) => status.Shows report
  | .reply (.error _) => status.Quiet
  | .unwound _ => status.Quiet

theorem MemberStatus.shows_commit (status : MemberStatus) (endpoint text : String)
    (report : ProbeReport) : (status.commit endpoint text report).Shows report :=
  ⟨rfl, rfl, rfl, rfl, rfl⟩

namespace Fleet

variable {fleet : Fleet} {slot other : Nat} {member : Member}

theorem member?_changeMember_of_ne (hother : other ≠ slot) (change : Member → Member) :
    (fleet.changeMember other change).member? slot = fleet.member? slot := by
  rw [member?_changeMember, if_neg hother]

theorem member?_changeMember_of_eq (hmember : fleet.member? slot = some member)
    (change : Member → Member) :
    (fleet.changeMember slot change).member? slot = some (change member) := by
  rw [member?_changeMember_self, hmember, Option.map_some]

/-- A member is degraded in its own record. -/
theorem member?_degrade_of_ne (hother : other ≠ slot) (seen : Nanos) (activity : String)
    (started : Int) (cause : String) :
    (fleet.degrade other seen activity started cause).member? slot = fleet.member? slot := by
  unfold degrade
  split
  next => rfl
  next =>
    split
    next => exact member?_changeMember_of_ne hother _
    next => rfl

/-- Whoever has noted the last transition degrades the member. -/
theorem member?_degrade_of_seen {seen : Nanos} (hmember : fleet.member? slot = some member)
    (hseen : member.transition.instant = seen) (activity : String) (started : Int)
    (cause : String) :
    (fleet.degrade slot seen activity started cause).member? slot =
      some (member.updateStatus (·.setStopped
        (member.unreachableText activity started fleet.clock.wall cause))) := by
  rw [degrade, hmember]
  simp only [Member.markUnreachable, Member.updateStatusSince, if_pos hseen]
  exact member?_changeMember_of_eq hmember _

theorem rootFired_degrade (fleet : Fleet) (slot : Nat) (seen : Nanos) (activity : String)
    (started : Int) (cause : String) :
    (fleet.degrade slot seen activity started cause).rootFired = fleet.rootFired := by
  unfold degrade
  split
  next => rfl
  next =>
    split
    next => rfl
    next => rfl

end Fleet

/-- What a probe has come to, if its member gives this answer. -/
def ProbePhase.Bears (answer : Answer ProbeReport) (member : Member) : ProbePhase → Prop
  | .begun => True
  | .asking .. => True
  | .healthy _ report => answer = .reply (.ok report)
  | .committing _ report _ => answer = .reply (.ok report)
  | .failing fault _ => answer = .reply (.error fault)
  | .finished => member.status.Reflects answer
  | .unwound text => answer = .unwound text

namespace Watching

variable {watching next : Watching} {slot other : Nat} {member : Member} {probe : Probe}
  {answer : Answer ProbeReport}

theorem probe?_slot (hprobe : watching.probe? slot = some probe) : probe.slot = slot := by
  simpa using List.find?_some hprobe

/-- A probe that goes on is found in the place where it was. -/
theorem probe?_setProbe_eq (slot : Nat) (later : Probe) :
    (watching.setProbe later).probe? slot =
      (watching.probe? slot).map fun p => if p.slot = later.slot then later else p := by
  have hsame : (fun p : Probe => decide (p.slot = slot)) ∘
      (fun p => if p.slot = later.slot then later else p) = fun p => decide (p.slot = slot) := by
    funext p
    simp only [Function.comp]
    split
    next hp => simp [hp]
    next => rfl
  rw [probe?, setProbe, List.find?_map, hsame, ← probe?]

theorem probe?_setProbe (hprobe : watching.probe? slot = some probe) (phase : ProbePhase) :
    (watching.setProbe { probe with phase }).probe? slot = some { probe with phase } := by
  rw [probe?_setProbe_eq, hprobe, Option.map_some, if_pos rfl]

theorem probe?_setProbe_of_ne (hother : other ≠ slot) (hprobe : watching.probe? other = some probe)
    (phase : ProbePhase) :
    (watching.setProbe { probe with phase }).probe? slot = watching.probe? slot := by
  rw [probe?_setProbe_eq]
  cases hfound : watching.probe? slot with
  | none => rfl
  | some found =>
      rw [Option.map_some, if_neg]
      rw [probe?_slot hfound, probe?_slot hprobe]
      exact Ne.symm hother

theorem probe?_dropProbe (watching : Watching) (slot : Nat) :
    (watching.dropProbe slot).probe? slot = none := by
  simp [probe?, dropProbe, List.find?_filter]

theorem probe?_dropProbe_of_ne (hother : other ≠ slot) :
    (watching.dropProbe other).probe? slot = watching.probe? slot := by
  rw [probe?, dropProbe, List.find?_filter, probe?]
  congr 1
  funext p
  by_cases hp : p.slot = slot
  · simp [hp, Ne.symm hother]
  · simp [hp]

/-- How far a round has come with a member that runs, and that gives this answer. -/
inductive Heeded (watching : Watching) (answer : Answer ProbeReport) (slot : Nat)
    (member : Member) : Prop where
  /-- The monitor is still on its way to the member. -/
  | ahead {current : Nat} (hslot : watching.monitor.phase.slot? = some current)
      (hle : current ≤ slot) (hseen : ∀ begun, watching.monitor.phase ≠ .refreshing slot begun)
      (hprobe : watching.probe? slot = none)
  /-- The monitor has begun a probe of the member. -/
  | probed {probe : Probe} (hprobe : watching.probe? slot = some probe)
      (hseen : probe.seen = member.transition.instant)
      (hpassed : ∀ current, watching.monitor.phase.slot? = some current → slot < current)
      (hwatch : ∀ watch ∈ watching.monitor.phase.pending, watch.slot = slot →
        watch.seen = member.transition.instant)
      (hbears : probe.phase.Bears answer member)
  /-- The probe has ended. -/
  | shown (hprobe : watching.probe? slot = none) (hslot : watching.monitor.phase.slot? = none)
      (hreflects : member.status.Reflects answer)

/-- The round goes on with a member that runs. -/
def Attends (watching : Watching) (answer : Answer ProbeReport) (slot : Nat) : Prop :=
  ∃ member, watching.fleet.member? slot = some member ∧ member.running = true ∧
    watching.Heeded answer slot member

namespace Attends

/-- A tick finds no probe left, and begins with the first member. -/
theorem tick (tidy : watching.Tidy) (hmember : watching.fleet.member? slot = some member)
    (hrunning : member.running = true) (hstep : watching.tick? = some next) :
    next.Attends answer slot := by
  simp only [tick?, Option.ite_none_right_eq_some, Option.some.injEq] at hstep
  obtain ⟨⟨hphase, -, -⟩, rfl⟩ := hstep
  refine ⟨member, hmember, hrunning, .ahead rfl (Nat.zero_le _) (by simp) ?_⟩
  refine List.find?_eq_none.mpr fun probe hprobe _ => ?_
  obtain ⟨watch, hwatch, -⟩ := tidy.awaited (by simp [hphase]) probe hprobe
  simp [hphase, MonitorPhase.pending] at hwatch

variable {current : Nat} {begun : List Watch}

/-- Behind the last member there is none that the monitor has not come to. -/
theorem gather (hattends : watching.Attends answer slot)
    (hphase : watching.monitor.phase = .looking current begun)
    (hcurrent : watching.fleet.member? current = none) :
    (watching.setPhase (.joining begun)).Attends answer slot := by
  obtain ⟨member, hmember, hrunning, hheeded⟩ := hattends
  refine ⟨member, hmember, hrunning, ?_⟩
  cases hheeded with
  | @ahead reached hslot hle =>
      obtain rfl : current = reached := by simpa [hphase, MonitorPhase.slot?] using hslot
      have hlt := Nat.lt_of_le_of_lt hle (Fleet.slot_lt hmember)
      obtain ⟨found, hfound⟩ := Fleet.exists_member? hlt
      simp [hfound] at hcurrent
  | probed hprobe hseen _ hwatch hbears =>
      rw [hphase] at hwatch
      exact .probed hprobe hseen (by simp [setPhase, MonitorPhase.slot?]) hwatch hbears
  | shown _ hslot => simp [hphase, MonitorPhase.slot?] at hslot

theorem look (hattends : watching.Attends answer slot) {found : Member}
    (hphase : watching.monitor.phase = .looking current begun)
    (hcurrent : watching.fleet.member? current = some found) :
    (watching.setPhase
      (if found.running then .noting current begun else .refreshing current begun)).Attends
        answer slot := by
  obtain ⟨member, hmember, hrunning, hheeded⟩ := hattends
  refine ⟨member, hmember, hrunning, ?_⟩
  cases hheeded with
  | @ahead reached hslot hle _ hprobe =>
      obtain rfl : current = reached := by simpa [hphase, MonitorPhase.slot?] using hslot
      refine .ahead ?_ hle ?_ hprobe
      · simp only [setPhase]
        split <;> rfl
      · intro begun hnext
        simp only [setPhase] at hnext
        split at hnext
        next => simp at hnext
        next hstopped =>
          -- The member itself runs, so it is another one that is seen stopped.
          obtain ⟨rfl, -⟩ := MonitorPhase.refreshing.inj hnext
          obtain rfl := Option.some.inj (hmember.symm.trans hcurrent)
          exact hstopped hrunning
  | probed hprobe hseen hpassed hwatch hbears =>
      rw [hphase] at hpassed hwatch
      refine .probed hprobe hseen ?_ ?_ hbears
      · simp only [setPhase]
        split <;> exact hpassed
      · simp only [setPhase]
        split <;> exact hwatch
  | shown _ hslot => simp [hphase, MonitorPhase.slot?] at hslot

theorem refresh (hattends : watching.Attends answer slot)
    (hphase : watching.monitor.phase = .refreshing current begun) (change : Member → Member) :
    (Watching.setPhase { watching with fleet := watching.fleet.changeMember current change }
      (.looking (current + 1) begun)).Attends answer slot := by
  obtain ⟨member, hmember, hrunning, hheeded⟩ := hattends
  cases hheeded with
  | @ahead reached hslot hle hseen hprobe =>
      obtain rfl : current = reached := by simpa [hphase, MonitorPhase.slot?] using hslot
      have hother : current ≠ slot := by
        rintro rfl
        exact hseen begun hphase
      exact ⟨member, (Fleet.member?_changeMember_of_ne hother _).trans hmember, hrunning,
        .ahead rfl (Nat.lt_of_le_of_ne hle hother) (by simp [setPhase]) hprobe⟩
  | probed hprobe hseen hpassed hwatch hbears =>
      rw [hphase] at hpassed hwatch
      have hlt := hpassed current rfl
      refine ⟨member, (Fleet.member?_changeMember_of_ne (Nat.ne_of_gt hlt) _).trans hmember,
        hrunning, .probed hprobe hseen ?_ hwatch hbears⟩
      rintro _ ⟨⟩
      exact Nat.lt_succ_of_lt hlt
  | shown _ hslot => simp [hphase, MonitorPhase.slot?] at hslot

/-- The probe that begins carries the member's last transition. -/
theorem note (hattends : watching.Attends answer slot) (tidy : watching.Tidy) {found : Member}
    (hphase : watching.monitor.phase = .noting current begun)
    (hcurrent : watching.fleet.member? current = some found) :
    (Watching.setPhase
      { watching with
        probes := watching.probes ++ [{ slot := current, seen := found.transition.instant }] }
      (.looking (current + 1) (begun ++ [⟨current, found.transition.instant⟩]))).Attends
        answer slot := by
  obtain ⟨member, hmember, hrunning, hheeded⟩ := hattends
  refine ⟨member, hmember, hrunning, ?_⟩
  cases hheeded with
  | @ahead reached hslot hle _ hprobe =>
      obtain rfl : current = reached := by simpa [hphase, MonitorPhase.slot?] using hslot
      rw [probe?] at hprobe
      by_cases hother : current = slot
      · subst current
        obtain rfl := Option.some.inj (hmember.symm.trans hcurrent)
        let own : Probe := { slot, seen := member.transition.instant }
        have hown : (watching.probes ++ [own]).find? (·.slot = slot) = some own := by
          simp [List.find?_append, hprobe, own]
        refine .probed hown rfl ?_ ?_ trivial
        · rintro _ ⟨⟩
          exact Nat.lt_succ_self _
        · intro watch hmem hslot
          rcases List.mem_append.mp hmem with hold | hnew
          · have hmem : watch ∈ watching.monitor.phase.pending := by rwa [hphase]
            exact absurd hslot (Nat.ne_of_lt (tidy.passed slot (by rw [hphase]; rfl) watch hmem))
          · rw [List.mem_singleton.mp hnew]
      · refine .ahead rfl (Nat.lt_of_le_of_ne hle hother) (by simp [setPhase]) ?_
        simp [probe?, setPhase, List.find?_append, hprobe, hother]
  | probed hprobe hseen hpassed hwatch hbears =>
      rw [hphase] at hpassed hwatch
      have hlt := hpassed current rfl
      rw [probe?] at hprobe
      refine .probed (by simp [probe?, setPhase, List.find?_append, hprobe]) hseen ?_ ?_ hbears
      · rintro _ ⟨⟩
        exact Nat.lt_succ_of_lt hlt
      · intro watch hmem hslot
        rcases List.mem_append.mp hmem with hold | hnew
        · exact hwatch watch hold hslot
        · obtain rfl := List.mem_singleton.mp hnew
          exact absurd hslot (Nat.ne_of_gt hlt)
  | shown _ hslot => simp [hphase, MonitorPhase.slot?] at hslot

/-- The monitor takes a step through the members. -/
theorem survey (hattends : watching.Attends answer slot) (tidy : watching.Tidy)
    (hstep : watching.survey? = some next) : next.Attends answer slot := by
  unfold survey? at hstep
  cases hphase : watching.monitor.phase with
  | looking current begun =>
      simp only [hphase] at hstep
      cases hcurrent : watching.fleet.member? current with
      | none =>
          simp only [hcurrent, Option.some.injEq] at hstep
          exact hstep ▸ hattends.gather hphase hcurrent
      | some found =>
          simp only [hcurrent, Option.some.injEq] at hstep
          exact hstep ▸ hattends.look hphase hcurrent
  | refreshing current begun =>
      simp only [hphase, Option.some.injEq] at hstep
      exact hstep ▸ hattends.refresh hphase _
  | noting current begun =>
      simp only [hphase] at hstep
      cases hcurrent : watching.fleet.member? current with
      | none => simp [hcurrent] at hstep
      | some found =>
          simp only [hcurrent, Option.some.injEq] at hstep
          exact hstep ▸ hattends.note tidy hphase hcurrent
  | idle => simp [hphase] at hstep
  | joining left => simp [hphase] at hstep
  | _ => simp [hphase] at hstep

/-- The end of another member's probe is noted. -/
theorem join_other (hattends : watching.Attends answer slot) {watch : Watch} {left : List Watch}
    (hphase : watching.monitor.phase = .joining (watch :: left)) (hother : watch.slot ≠ slot)
    {fleet : Fleet} (hsame : fleet.member? slot = watching.fleet.member? slot) :
    Attends { (watching.dropProbe watch.slot).setPhase (.joining left) with fleet } answer
      slot := by
  obtain ⟨member, hmember, hrunning, hheeded⟩ := hattends
  have hdrop : (Watching.mk fleet ((watching.dropProbe watch.slot).setPhase (.joining left)).monitor
      ((watching.dropProbe watch.slot).setPhase (.joining left)).probes).probe? slot =
      watching.probe? slot := probe?_dropProbe_of_ne hother
  refine ⟨member, hsame.trans hmember, hrunning, ?_⟩
  cases hheeded with
  | ahead hslot => simp [hphase, MonitorPhase.slot?] at hslot
  | probed hprobe hseen _ hwatch hbears =>
      rw [hphase] at hwatch
      refine .probed (hdrop.trans hprobe) hseen (by simp [setPhase, MonitorPhase.slot?]) ?_ hbears
      exact fun watch hmem => hwatch watch (List.mem_cons_of_mem _ hmem)
  | shown hprobe _ hreflects => exact .shown (hdrop.trans hprobe) rfl hreflects

/-- A probe that is waited for carries the last transition of its member, and bears the answer. -/
theorem bears (hattends : watching.Attends answer slot) {seen : Nanos} {left : List Watch}
    (hphase : watching.monitor.phase = .joining (⟨slot, seen⟩ :: left))
    (hprobe : watching.probe? slot = some probe) :
    ∃ member, watching.fleet.member? slot = some member ∧ member.running = true ∧
      member.transition.instant = seen ∧ probe.phase.Bears answer member := by
  obtain ⟨member, hmember, hrunning, hheeded⟩ := hattends
  cases hheeded with
  | ahead hslot => simp [hphase, MonitorPhase.slot?] at hslot
  | shown hnone => simp [hprobe] at hnone
  | probed hown _ _ hwatch hbears =>
      obtain rfl := Option.some.inj (hprobe.symm.trans hown)
      have hseen := hwatch ⟨slot, seen⟩ (by rw [hphase]; exact List.mem_cons_self) rfl
      exact ⟨member, hmember, hrunning, hseen.symm, hbears⟩

/-- The round is over. -/
theorem rest (hattends : watching.Attends answer slot)
    (hphase : watching.monitor.phase = .joining []) :
    (watching.setPhase .idle).Attends answer slot := by
  obtain ⟨member, hmember, hrunning, hheeded⟩ := hattends
  refine ⟨member, hmember, hrunning, ?_⟩
  cases hheeded with
  | ahead hslot => simp [hphase, MonitorPhase.slot?] at hslot
  | probed hprobe hseen _ _ hbears =>
      exact .probed hprobe hseen (by simp [setPhase, MonitorPhase.slot?])
        (List.forall_mem_nil _) hbears
  | shown hprobe _ hreflects => exact .shown hprobe rfl hreflects

/-- The monitor takes note of the end of a probe, or of the round. -/
theorem join (hattends : watching.Attends answer slot) (hroot : watching.fleet.rootFired = false)
    (hstep : watching.join? = some next) : next.Attends answer slot := by
  unfold join? at hstep
  cases hphase : watching.monitor.phase with
  | joining pending =>
      cases pending with
      | nil =>
          simp only [hphase, Option.some.injEq] at hstep
          exact hstep ▸ hattends.rest hphase
      | cons watch left =>
          simp only [hphase, Option.bind_eq_bind, Option.bind_eq_some_iff, hroot,
            Bool.false_eq_true, if_false] at hstep
          obtain ⟨probe, hprobe, hstep⟩ := hstep
          obtain ⟨other, seen⟩ := watch
          by_cases hother : other = slot
          · subst other
            obtain ⟨member, hmember, hrunning, hseen, hbears⟩ := hattends.bears hphase hprobe
            have hgone := probe?_dropProbe watching slot
            split at hstep
            next hfinished =>
              obtain rfl := Option.some.inj hstep
              rw [hfinished] at hbears
              exact ⟨member, hmember, hrunning, .shown hgone rfl hbears⟩
            next text hunwound =>
              obtain rfl := Option.some.inj hstep
              rw [hunwound] at hbears
              obtain rfl : answer = .unwound text := hbears
              have hdegraded := Fleet.member?_degrade_of_seen hmember hseen "probing"
                watching.fleet.clock.wall (unwindCause text)
              exact ⟨_, hdegraded, hrunning, .shown hgone rfl (MemberStatus.quiet_setStopped ..)⟩
            next => simp at hstep
          · split at hstep
            next =>
              obtain rfl := Option.some.inj hstep
              exact hattends.join_other hphase hother rfl
            next =>
              obtain rfl := Option.some.inj hstep
              exact hattends.join_other hphase hother (Fleet.member?_degrade_of_ne hother ..)
            next => simp at hstep
  | idle => simp [hphase] at hstep
  | looking current begun => simp [hphase] at hstep
  | refreshing current begun => simp [hphase] at hstep
  | noting current begun => simp [hphase] at hstep
  | _ => simp [hphase] at hstep

/-- A probe goes on, and that of the member itself bears the answer. -/
theorem proceed (hattends : watching.Attends answer slot) {probe : Probe}
    (hprobe : watching.probe? other = some probe) (phase : ProbePhase) {fleet : Fleet}
    (hsame : other ≠ slot → fleet.member? slot = watching.fleet.member? slot)
    (hown : other = slot → ∀ current, watching.fleet.member? other = some current →
      current.transition.instant = probe.seen → probe.phase.Bears answer current →
      ∃ after, fleet.member? other = some after ∧ after.standing = current.standing ∧
        phase.Bears answer after) :
    Attends { watching.setProbe { probe with phase } with fleet } answer slot := by
  obtain ⟨member, hmember, hrunning, hheeded⟩ := hattends
  by_cases hother : other = slot
  · subst other
    cases hheeded with
    | ahead _ _ _ hnone => simp [hprobe] at hnone
    | shown hnone => simp [hprobe] at hnone
    | probed hfound hseen hpassed hwatch hbears =>
        obtain rfl := Option.some.inj (hprobe.symm.trans hfound)
        obtain ⟨after, hafter, hstanding, hnext⟩ := hown rfl member hmember hseen.symm hbears
        have htransition := Member.transition_eq hstanding
        exact ⟨after, hafter, (Member.running_eq hstanding).trans hrunning,
          .probed (probe?_setProbe hprobe phase) (hseen.trans (by rw [htransition])) hpassed
            (fun watch hmem hslot => (hwatch watch hmem hslot).trans (by rw [htransition])) hnext⟩
  · have hset : (Watching.mk fleet (watching.setProbe { probe with phase }).monitor
        (watching.setProbe { probe with phase }).probes).probe? slot = watching.probe? slot :=
      probe?_setProbe_of_ne hother hprobe phase
    refine ⟨member, (hsame hother).trans hmember, hrunning, ?_⟩
    cases hheeded with
    | ahead hslot hle hseen hnone => exact .ahead hslot hle hseen (hset.trans hnone)
    | probed hfound hseen hpassed hwatch hbears =>
        exact .probed (hset.trans hfound) hseen hpassed hwatch hbears
    | shown hnone hslot hreflects => exact .shown (hset.trans hnone) hslot hreflects

/-- A probe goes on by itself. -/
theorem advance (hattends : watching.Attends answer slot) {commands : List Command}
    (hstep : watching.advance? other = some (next, commands)) : next.Attends answer slot := by
  unfold advance? at hstep
  simp only [Option.bind_eq_bind, Option.bind_eq_some_iff] at hstep
  obtain ⟨probe, hprobe, member, hmember, hstep⟩ := hstep
  cases hphase : probe.phase with
  | begun =>
      simp only [hphase] at hstep
      obtain ⟨rfl, -⟩ := Prod.mk.inj (Option.some.inj hstep)
      exact hattends.proceed hprobe _ (fun _ => rfl)
        fun _ current hcurrent _ _ => ⟨current, hcurrent, rfl, trivial⟩
  | healthy config report =>
      simp only [hphase] at hstep
      obtain ⟨rfl, -⟩ := Prod.mk.inj (Option.some.inj hstep)
      refine hattends.proceed hprobe _ (fun _ => rfl) fun _ current hcurrent _ hbears => ?_
      rw [hphase] at hbears
      exact ⟨current, hcurrent, rfl, hbears⟩
  | committing config report text =>
      simp only [hphase, Member.updateStatusSince] at hstep
      by_cases hseen : member.transition.instant = probe.seen
      · rw [if_pos hseen] at hstep
        obtain ⟨rfl, -⟩ := Prod.mk.inj (Option.some.inj hstep)
        refine hattends.proceed hprobe _
          (fun hother => Fleet.member?_changeMember_of_ne hother _)
          fun _ current hcurrent _ hbears => ?_
        obtain rfl := Option.some.inj (hmember.symm.trans hcurrent)
        rw [hphase] at hbears
        obtain rfl : answer = .reply (.ok report) := hbears
        exact ⟨_, Fleet.member?_changeMember_of_eq hcurrent _, rfl,
          MemberStatus.shows_commit ..⟩
      · rw [if_neg hseen] at hstep
        obtain ⟨rfl, -⟩ := Prod.mk.inj (Option.some.inj hstep)
        refine hattends.proceed hprobe _ (fun _ => rfl) fun _ current hcurrent hsame => ?_
        obtain rfl := Option.some.inj (hmember.symm.trans hcurrent)
        exact absurd hsame hseen
  | failing fault started =>
      simp only [hphase] at hstep
      obtain ⟨rfl, -⟩ := Prod.mk.inj (Option.some.inj hstep)
      refine hattends.proceed hprobe _
        (fun hother => Fleet.member?_degrade_of_ne hother ..)
        fun _ current hcurrent hseen hbears => ?_
      rw [hphase] at hbears
      obtain rfl : answer = .reply (.error fault) := hbears
      have hcounted : (watching.fleet.recordProbeFailure other fault.stage).member? other =
          some current := hcurrent
      exact ⟨_, Fleet.member?_degrade_of_seen hcounted hseen .., rfl,
        MemberStatus.quiet_setStopped ..⟩
  | asking config started => simp [hphase] at hstep
  | finished => simp [hphase] at hstep
  | unwound text => simp [hphase] at hstep

/-- A member gives its answer. One that fails to does not tell of the root signal. -/
theorem answered (hattends : watching.Attends answer slot) {given : Answer ProbeReport}
    (hgiven : other = slot → given = answer)
    (hheard : ∀ fault, answer = .reply (.error fault) → fault.isCancelled = false)
    (hstep : watching.answered? other given = some next) : next.Attends answer slot := by
  unfold answered? at hstep
  simp only [Option.bind_eq_bind, Option.bind_eq_some_iff] at hstep
  obtain ⟨probe, hprobe, hstep⟩ := hstep
  split at hstep
  next config started hphase =>
    obtain rfl := Option.some.inj hstep
    refine hattends.proceed hprobe _ (fun _ => rfl) fun hother current hcurrent _ _ => ?_
    refine ⟨current, hcurrent, rfl, ?_⟩
    obtain rfl := hgiven hother
    cases given with
    | unwound text => rfl
    | reply outcome =>
        cases outcome with
        | ok report => rfl
        | error fault =>
            simp only [hheard fault rfl, Bool.false_eq_true, if_false]
            rfl
  next => simp at hstep

end Attends

/-- A member that was attended shows its answer once the round is over. -/
theorem Attends.reflects (hattends : watching.Attends answer slot) (tidy : watching.Tidy)
    (hidle : watching.monitor.phase = .idle) (hmember : watching.fleet.member? slot = some member) :
    member.status.Reflects answer := by
  obtain ⟨found, hfound, -, hheeded⟩ := hattends
  obtain rfl := Option.some.inj (hmember.symm.trans hfound)
  cases hheeded with
  | ahead hslot => simp [hidle, MonitorPhase.slot?] at hslot
  | probed hprobe =>
      have hmem := List.mem_of_find?_eq_some hprobe
      obtain ⟨watch, hwatch, -⟩ := tidy.awaited (by simp [hidle]) _ hmem
      simp [hidle, MonitorPhase.pending] at hwatch
  | shown _ _ hreflects => exact hreflects

/-- The monitor does not touch the root signal. -/
theorem Move.rootFired_eq {commands : List Command} (hmove : watching.Move next commands) :
    next.fleet.rootFired = watching.fleet.rootFired := by
  cases hmove with
  | recover => exact Fleet.rootFired_degrade ..
  | fail => exact Fleet.rootFired_degrade ..
  | tick | gather | look | refresh | note | rest | join | quit | ask | answer | word | commit
  | discard | drop => rfl

end Watching

/-- An event of a round in which only the monitor acts, and every member gives its one answer. -/
def Event.Undisturbed (answers : Nat → Answer ProbeReport) : Event → Prop
  | .outside (.time _) => True
  | .tick => True
  | .survey => True
  | .join => True
  | .probe _ => True
  | .answered slot answer => answer = answers slot
  | _ => False

namespace System

variable {system next : System} {event : Event} {commands : List Command}
  {answers : Nat → Answer ProbeReport} {slot : Nat}

/-- Time passes, or the monitor moves. -/
theorem move_of_undisturbed (hevent : event.Undisturbed answers)
    (hstep : system.step? event = some (next, commands)) :
    ((∃ clock, system.fleet.outside? (.time clock) = some next.fleet) ∧ commands = []) ∨
      system.watching.Move next.watching commands := by
  cases event with
  | outside outer =>
      simp only [step?, Option.map_eq_some_iff, Prod.mk.injEq] at hstep
      obtain ⟨fleet, houtside, rfl, rfl⟩ := hstep
      cases outer with
      | time clock => exact .inl ⟨⟨clock, houtside⟩, rfl⟩
      | fireRoot => exact hevent.elim
      | touch files => exact hevent.elim
  | tick =>
      obtain ⟨watching, hwatching, rfl, rfl⟩ := exists_of_onWatching hstep
      exact .inr (Watching.move_of_tick hwatching)
  | survey =>
      obtain ⟨watching, hwatching, rfl, rfl⟩ := exists_of_onWatching hstep
      exact .inr (Watching.move_of_survey hwatching)
  | join =>
      obtain ⟨watching, hwatching, rfl, rfl⟩ := exists_of_onWatching hstep
      exact .inr (Watching.move_of_join hwatching)
  | probe slot =>
      obtain ⟨watching, hwatching, rfl⟩ := exists_of_advance? hstep
      exact .inr (Watching.move_of_advance hwatching)
  | answered slot answer =>
      obtain ⟨watching, hwatching, rfl, rfl⟩ := exists_of_onWatching hstep
      exact .inr (Watching.move_of_answered hwatching)
  | call | advance | launched | ready | abandoned | ended | quit | drop => exact hevent.elim

/-- The calls, and what belongs to them, have no part in it. -/
theorem aside_of_undisturbed (hevent : event.Undisturbed answers)
    (hstep : system.step? event = some (next, commands)) :
    system.fleet.Aside next.fleet ∧ next.fleet.rootFired = system.fleet.rootFired := by
  rcases move_of_undisturbed hevent hstep with ⟨⟨clock, houtside⟩, -⟩ | hmove
  · refine ⟨.outside houtside, ?_⟩
    simp only [Fleet.outside?, Option.ite_none_right_eq_some, Option.some.injEq] at houtside
    rw [← houtside.2]
  · exact ⟨hmove.aside, hmove.rootFired_eq⟩

/-- Nothing but a probe's question is commanded. -/
theorem commands_of_undisturbed (hevent : event.Undisturbed answers)
    (hstep : system.step? event = some (next, commands)) :
    commands = [] ∨ ∃ slot config, commands = [.probe slot config] := by
  rcases move_of_undisturbed hevent hstep with ⟨-, hnone⟩ | hmove
  · exact .inl hnone
  · exact hmove.commands_eq

theorem recorded?_of_undisturbed (hevent : event.Undisturbed answers) :
    system.recorded? event = none := by
  cases event with
  | outside | tick | survey | join | probe | answered => rfl
  | call | advance | launched | ready | abandoned | ended | quit | drop => exact hevent.elim

/-- The round goes on. -/
theorem attends_of_undisturbed (hattends : system.watching.Attends (answers slot) slot)
    (tidy : system.watching.Tidy) (hroot : system.fleet.rootFired = false)
    (hheard : ∀ fault, answers slot = .reply (.error fault) → fault.isCancelled = false)
    (hevent : event.Undisturbed answers) (hstep : system.step? event = some (next, commands)) :
    next.watching.Attends (answers slot) slot := by
  cases event with
  | outside outer =>
      simp only [step?, Option.map_eq_some_iff, Prod.mk.injEq] at hstep
      obtain ⟨fleet, houtside, rfl, rfl⟩ := hstep
      cases outer with
      | time clock =>
          simp only [Fleet.outside?, Option.ite_none_right_eq_some, Option.some.injEq] at houtside
          obtain ⟨-, rfl⟩ := houtside
          obtain ⟨member, hmember, hrunning, hheeded⟩ := hattends
          refine ⟨member, hmember, hrunning, ?_⟩
          cases hheeded with
          | ahead hslot hle hseen hprobe => exact .ahead hslot hle hseen hprobe
          | probed hprobe hseen hpassed hwatch hbears =>
              exact .probed hprobe hseen hpassed hwatch hbears
          | shown hprobe hslot hreflects => exact .shown hprobe hslot hreflects
      | fireRoot => exact hevent.elim
      | touch files => exact hevent.elim
  | tick =>
      obtain ⟨watching, hwatching, rfl, rfl⟩ := exists_of_onWatching hstep
      obtain ⟨member, hmember, hrunning, -⟩ := hattends
      exact .tick tidy hmember hrunning hwatching
  | survey =>
      obtain ⟨watching, hwatching, rfl, rfl⟩ := exists_of_onWatching hstep
      exact hattends.survey tidy hwatching
  | join =>
      obtain ⟨watching, hwatching, rfl, rfl⟩ := exists_of_onWatching hstep
      exact hattends.join hroot hwatching
  | probe other =>
      obtain ⟨watching, hwatching, rfl⟩ := exists_of_advance? hstep
      exact hattends.advance hwatching
  | answered other given =>
      obtain ⟨watching, hwatching, rfl, rfl⟩ := exists_of_onWatching hstep
      refine hattends.answered ?_ hheard hwatching
      rintro rfl
      exact hevent
  | call | advance | launched | ready | abandoned | ended | quit | drop => exact hevent.elim

variable {first last : System} {moments : List (Moment System Event)}

theorem aside_of_undisturbed_course (hcourse : Course step? first moments last)
    (hevents : ∀ moment ∈ moments, moment.event.Undisturbed answers) :
    first.fleet.Aside last.fleet ∧ last.fleet.rootFired = first.fleet.rootFired := by
  induction hcourse with
  | start => exact ⟨.refl _, rfl⟩
  | next _ hstep ih =>
      obtain ⟨hearly, hlast⟩ := List.forall_mem_append.mp hevents
      obtain ⟨haside, hroot⟩ := ih hearly
      obtain ⟨hmore, hsame⟩ := aside_of_undisturbed (hlast _ List.mem_cons_self) hstep
      exact ⟨haside.trans hmore, hsame.trans hroot⟩

theorem unmarked_of_undisturbed (hevents : ∀ moment ∈ moments, moment.event.Undisturbed answers)
    (slot : Nat) : Unmarked slot moments := by
  intro moment hmem kind
  simp [recorded?_of_undisturbed (hevents moment hmem)]

/-- A round that nothing disturbs brings the record of a member that runs to the answer that the
member gives. -/
theorem Attended.reflects_of_round (attended : first.Attended) {begun : System}
    (htick : first.step? .tick = some (begun, commands))
    (hcourse : Course step? begun moments last)
    (hevents : ∀ moment ∈ moments, moment.event.Undisturbed answers)
    (hidle : last.monitor.phase = .idle) (hroot : first.fleet.rootFired = false)
    (hheard : ∀ fault, answers slot = .reply (.error fault) → fault.isCancelled = false)
    {old member : Member} (hold : first.fleet.member? slot = some old)
    (hrunning : old.running = true) (hmember : last.fleet.member? slot = some member) :
    member.status.Reflects (answers slot) := by
  have hbegun := attended.step htick
  have hevent : Event.tick.Undisturbed answers := trivial
  have hroot := (aside_of_undisturbed hevent htick).2.trans hroot
  have hattends : begun.watching.Attends (answers slot) slot := by
    obtain ⟨watching, hwatching, rfl, rfl⟩ := exists_of_onWatching htick
    exact .tick attended.tidy hold hrunning hwatching
  -- By induction over the round, which need not be over in between.
  suffices hlast : last.watching.Attends (answers slot) slot from
    hlast.reflects (hbegun.course hcourse).tidy hidle hmember
  clear hidle hmember
  induction hcourse with
  | start => exact hattends
  | next earlier hstep ih =>
      obtain ⟨hearly, hlast⟩ := List.forall_mem_append.mp hevents
      have hsame := (aside_of_undisturbed_course earlier hearly).2
      exact attends_of_undisturbed (ih hearly) (hbegun.course earlier).tidy (hsame.trans hroot)
        hheard (hlast _ List.mem_cons_self) hstep

end System

end FleetControl
