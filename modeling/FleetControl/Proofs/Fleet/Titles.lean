import FleetControl.Proofs.Fleet.Lineage
import FleetControl.Proofs.Fleet.Reach
import FleetControl.Proofs.Fleet.Visit
import FleetControl.Proofs.Member.Snapshot

/-!
# The name of a snapshot

From the launch of a member on its snapshot bears its name. The start, the calls and the monitor
write to the snapshot, but none of them writes another name to it.
-/

namespace FleetControl

/-- The snapshot of a member bears the name of the member. -/
def Member.Titled (member : Member) : Prop := member.status.name = member.name

namespace Member

variable {member : Member}

theorem Titled.edit (titled : member.Titled) (edit : Edit) : (member.edit edit).Titled := by
  obtain ⟨hname, hstatus⟩ := member.name_edit edit
  exact hstatus.trans (titled.trans hname.symm)

theorem Titled.turned (titled : member.Titled) {slot : Nat} {clock : Clock} {mark : Option Mark}
    {after : Member} (hturned : member.Turned slot clock mark after) : after.Titled := by
  cases hturned with
  | stopped => exact titled.edit (.stop clock)
  | restarted => exact titled.edit (.start "restarted" clock)
  | kept => exact titled

/-- What a search for a leader writes is what a report says. -/
theorem Titled.take (titled : member.Titled) (search : Search) (plan : SearchPlan) (now : Nanos)
    (outcome : Except ProbeFault StatusReport) :
    (search.take plan now member outcome).2.Titled := by
  unfold Search.take
  split
  next report => split <;> exact titled.edit (.discover report)
  next => split <;> exact titled

end Member

/-- Every snapshot bears the name of its member. -/
def Fleet.Titled (fleet : Fleet) : Prop :=
  ∀ slot member, fleet.member? slot = some member → member.Titled

namespace Fleet.Titled

variable {fleet next : Fleet}

theorem changeMember (titled : fleet.Titled) {slot : Nat} {change : Member → Member}
    (hchange : ∀ member, fleet.member? slot = some member → member.Titled →
      (change member).Titled) : (fleet.changeMember slot change).Titled := by
  intro other member hmember
  rcases member?_changeMember_cases hmember with ⟨rfl, old, hold, rfl⟩ | ⟨-, hold⟩
  · exact hchange old hold (titled slot old hold)
  · exact titled other member hold

/-- A record is replaced by what was made of it. -/
theorem replace (titled : fleet.Titled) {slot : Nat} {old : Member}
    (hold : fleet.member? slot = some old) {member : Member}
    (hmember : old.Titled → member.Titled) : (fleet.changeMember slot fun _ => member).Titled :=
  titled.changeMember fun _ _ _ => hmember (titled slot old hold)

theorem degrade (titled : fleet.Titled) (slot : Nat) (seen : Nanos) (activity : String)
    (started : Int) (cause : String) : (fleet.degrade slot seen activity started cause).Titled := by
  intro other member hmember
  by_cases hother : slot = other
  · subst other
    cases hold : fleet.member? slot with
    | none => simp [Fleet.degrade, hold] at hmember
    | some old =>
        rw [member?_degrade hold] at hmember
        obtain rfl := Option.some.inj hmember
        exact (titled slot old hold).edit
          (.degrade seen activity started fleet.clock.wall cause)
  · rw [member?_degrade_of_ne hother] at hmember
    exact titled other member hmember

theorem outside (titled : fleet.Titled) {outer : Outside}
    (houtside : fleet.outside? outer = some next) : next.Titled := by
  cases outer with
  | time clock =>
      simp only [outside?, Option.ite_none_right_eq_some, Option.some.injEq] at houtside
      obtain ⟨-, rfl⟩ := houtside
      exact titled
  | fireRoot | touch =>
      obtain rfl := Option.some.inj houtside
      exact titled

theorem turn (titled : fleet.Titled) {underway later : Option Call} {heard : List EngineNote}
    {commands : List Command} {mark : Option Mark}
    (hturn : Turn fleet underway heard commands mark next later) : next.Titled := by
  intro slot member hmember
  obtain ⟨old, hold, hturned⟩ := hturn.exists_member? hmember
  exact (titled slot old hold).turned hturned

theorem move {watching after : Watching} (titled : watching.fleet.Titled)
    {commands : List Command} (hmove : watching.Move after commands) : after.fleet.Titled := by
  cases hmove with
  | tick | gather | look | note | rest | join | quit | ask | answer | word | discard | drop =>
      exact titled
  | refresh => exact titled.changeMember fun member _ hmember => hmember.edit (.refresh _)
  | recover => exact degrade titled _ _ _ _ _
  | @fail slot _ fault =>
      have hcounted : (watching.fleet.recordProbeFailure slot fault.stage).Titled := titled
      exact degrade hcounted _ _ _ _ _
  | @commit slot probe member config report text _ hmember =>
      have hwritten : (watching.fleet.changeMember slot fun _ =>
          member.updateStatus (·.commit config.clientUrl text report)).Titled :=
        titled.replace hmember id
      exact hwritten

theorem markReady (titled : fleet.Titled) (slot : Nat) (outcome : Except Error Unit) :
    (Bootstrap.markReady fleet slot outcome).Titled := by
  cases outcome with
  | error error => exact titled
  | ok =>
      have hmarked : (fleet.changeMember slot (·.markStarted "started" fleet.clock)).Titled :=
        titled.changeMember fun member _ hmember => hmember.edit (.start "started" fleet.clock)
      exact hmarked

end Fleet.Titled

namespace Bootstrap

variable {start next first : Bootstrap} {event : StartEvent} {commands : List Command}

theorem titled_enlist (titled : start.fleet.Titled) (config : MemberConfig) :
    (start.enlist config).fleet.Titled := by
  intro slot member hmember
  have hmem := List.mem_of_getElem? hmember
  rcases List.mem_append.mp hmem with hold | hnew
  · obtain ⟨other, hother⟩ := List.mem_iff_getElem?.mp hold
    exact titled other member hother
  · obtain rfl := List.mem_singleton.mp hnew
    rfl

theorem Stride.titled (stride : Stride start event commands next)
    (titled : start.phase.isDown = false → start.fleet.Titled) (hup : next.phase.isDown = false) :
    next.fleet.Titled := by
  cases stride with
  | outside houtside => exact (titled hup).outside houtside
  | fall hdown => exact absurd (hup.symm.trans hdown) Bool.false_ne_true
  | unwind => exact absurd hup.symm Bool.false_ne_true
  | launch hphase | muster hphase => exact titled_enlist (titled (by rw [hphase]; rfl)) _
  | know hphase | rally hphase => exact (titled (by rw [hphase]; rfl)).markReady _ _
  | release hphase | seek hphase | ask hphase | rest hphase => exact titled (by rw [hphase]; rfl)
  | @hear slot searches search member outcome hphase _ _ hmember
  | @complete slot searches search member outcome hphase _ _ hmember =>
      have hheard : (start.fleet.changeMember slot fun _ =>
          (search.take start.plan start.fleet.clock.instant member outcome).2).Titled :=
        (titled (by rw [hphase]; rfl)).replace hmember fun hold => hold.take ..
      exact hheard

end Bootstrap

theorem Started.titled {settings : FleetSettings} {fleet : Fleet}
    (hstarted : Started settings fleet) : fleet.Titled := by
  obtain ⟨token, files, after, clock, rootFired, first, opening, begun, start, hbegin, hcourse,
    hphase, rfl⟩ := hstarted
  obtain ⟨configs, -, -, -, hnobody⟩ := Bootstrap.Follows.begin hbegin
  have hfirst : first.fleet.Titled := by
    intro slot member hmember
    simp [Fleet.member?, hnobody] at hmember
  have hall : start.phase.isDown = false → start.fleet.Titled :=
    hcourse.preserves (fun _ => hfirst) fun hstep titled =>
      (Bootstrap.stride_of_step? hstep).titled titled
  exact hall (by rw [hphase]; rfl)

namespace System

variable {system next : System} {event : Event} {commands : List Command}

theorem titled_of_step? (orderly : system.Orderly) (titled : system.fleet.Titled)
    (hstep : system.step? event = some (next, commands)) : next.fleet.Titled := by
  obtain ⟨-, hstepped⟩ := step_of_step? orderly hstep
  cases hstepped with
  | turn hturn => exact titled.turn hturn
  | move hmove => exact Fleet.Titled.move titled hmove
  | outside houtside => exact titled.outside houtside

/-- Whatever happens to a started fleet, every snapshot bears the name of its member. -/
theorem Reachable.titled (hreachable : system.Reachable) : system.fleet.Titled := by
  obtain ⟨settings, fleet, tick, moments, hstarted, hcourse⟩ := hreachable
  suffices hlast : system.Orderly ∧ system.fleet.Titled from hlast.2
  apply hcourse.preserves ⟨orderly_ofStart fleet tick, hstarted.titled⟩
  intro before event after commands hstep hbefore
  exact ⟨(step_of_step? hbefore.1 hstep).1, titled_of_step? hbefore.1 hbefore.2 hstep⟩

end System

end FleetControl
