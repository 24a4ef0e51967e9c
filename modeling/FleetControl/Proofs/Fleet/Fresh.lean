import FleetControl.Proofs.Fleet.Stride

/-!
# What a start leaves alone

A start tells nothing to the monitor, which is not there yet, and it measures no member: the first
gauges are set by whoever comes after it.
-/

namespace FleetControl

/-- No monitor is over, and no gauge was set. -/
structure Fleet.Fresh (fleet : Fleet) : Prop where
  doneFired : fleet.doneFired = false
  states : fleet.metrics.states = []
  dbSizes : fleet.metrics.dbSizes = []

namespace Fleet.Fresh

variable {fleet next : Fleet}

theorem outside (fresh : fleet.Fresh) {outer : Outside}
    (houtside : fleet.outside? outer = some next) : next.Fresh := by
  cases outer with
  | time clock =>
      simp only [outside?, Option.ite_none_right_eq_some, Option.some.injEq] at houtside
      obtain ⟨-, rfl⟩ := houtside
      exact ⟨fresh.doneFired, fresh.states, fresh.dbSizes⟩
  | fireRoot | touch =>
      obtain rfl := Option.some.inj houtside
      exact ⟨fresh.doneFired, fresh.states, fresh.dbSizes⟩

theorem markReady (fresh : fleet.Fresh) (slot : Nat) (outcome : Except Error Unit) :
    (Bootstrap.markReady fleet slot outcome).Fresh := by
  cases outcome with
  | error error => exact fresh
  | ok => exact ⟨fresh.doneFired, fresh.states, fresh.dbSizes⟩

end Fleet.Fresh

namespace Bootstrap

variable {start next first : Bootstrap} {event : StartEvent} {commands : List Command}

theorem Stride.fresh (stride : Stride start event commands next)
    (fresh : start.phase.isDown = false → start.fleet.Fresh) (hup : next.phase.isDown = false) :
    next.fleet.Fresh := by
  cases stride with
  | outside houtside => exact (fresh hup).outside houtside
  | fall hdown => exact absurd (hup.symm.trans hdown) Bool.false_ne_true
  | unwind => exact absurd hup.symm Bool.false_ne_true
  | launch hphase | muster hphase | release hphase | seek hphase | ask hphase | rest hphase
  | hear hphase | complete hphase =>
      obtain ⟨hdone, hstates, hsizes⟩ := fresh (by rw [hphase]; rfl)
      exact ⟨hdone, hstates, hsizes⟩
  | @know slot outcome outcomes hphase =>
      exact (fresh (by rw [hphase]; rfl)).markReady slot outcome
  | @rally slot due outcomes hphase =>
      exact (fresh (by rw [hphase]; rfl)).markReady slot (.ok ())

theorem fresh_begin {settings : FleetSettings} {token : String} {files after : Files}
    {clock : Clock} {rootFired : Bool} {opening : List Command}
    (hbegin : Bootstrap.begin settings token files clock rootFired =
      (after, .ok (first, opening))) : first.fleet.Fresh := by
  unfold Bootstrap.begin at hbegin
  split at hbegin
  next => simp at hbegin
  next =>
    split at hbegin
    next => simp at hbegin
    next configs hconfigs =>
      split at hbegin
      next => simp at hbegin
      next =>
        obtain ⟨rfl, hnext⟩ := Prod.mk.inj hbegin
        obtain ⟨rfl, rfl⟩ := Prod.ext_iff.mp (Except.ok.inj hnext)
        cases configs with
        | nil | cons => exact ⟨rfl, rfl, rfl⟩

theorem fresh_of_course {moments : List (Moment Bootstrap StartEvent)}
    (hcourse : Course step? first moments start) (fresh : first.fleet.Fresh)
    (hup : start.phase.isDown = false) : start.fleet.Fresh := by
  induction hcourse with
  | start => exact fresh
  | next _ hstep ih => exact (stride_of_step? hstep).fresh ih hup

end Bootstrap

theorem Started.fresh {settings : FleetSettings} {fleet : Fleet}
    (hstarted : Started settings fleet) : fleet.Fresh := by
  obtain ⟨token, files, after, clock, rootFired, first, opening, begun, start, hbegin, hcourse,
    hphase, rfl⟩ := hstarted
  exact Bootstrap.fresh_of_course hcourse (Bootstrap.fresh_begin hbegin) (by rw [hphase]; rfl)

end FleetControl
