import FleetControl.Proofs.Fleet.Completion
import FleetControl.Proofs.Fleet.Step

/-!
# Stopping a member of a fleet that was just started

The first call to a fleet may stop any of its members. It waits for the cooldown, and the monitor
goes on meanwhile.
-/

namespace FleetControl

namespace System

/-- The time at which the first stop of a slot and the first round of the monitor are due. -/
def dueBoth (fleet : Fleet) (slot : Nat) (tick : Nanos) : Nanos :=
  max (Calling.cooledAt fleet slot) (fleet.clock.instant + tick)

/-- A fleet that was just started, once a stop of a slot has waited for the cooldown. -/
def cooled (fleet : Fleet) (slot : Nat) (tick : Nanos) : System :=
  { ofStart fleet tick with
    fleet := { fleet with clock := ⟨dueBoth fleet slot tick, fleet.clock.wall⟩ }
    calls := [⟨0, .stop slot, .cooling (Calling.cooledAt fleet slot)⟩]
    line := [0]
    made := 1 }

variable {fleet : Fleet} {slot : Nat} {handle : Handle} (tick : Nanos)

/-- The first call to a fleet may be to stop one of its members. -/
theorem course_cooled (hslot : slot < fleet.members.length)
    (hprocess : fleet.process? slot = some handle) :
    ∃ moments, Course step? (ofStart fleet tick) moments (cooled fleet slot tick) := by
  have hcall : (ofStart fleet tick).step? (.call (.stop slot)) =
      some ({ ofStart fleet tick with calls := [⟨0, .stop slot, .queued⟩], line := [0], made := 1 },
        []) := by
    simp [step?, Calling.make, calling, ofStart, withCalling, hslot]
  have hlock : ({ ofStart fleet tick with
      calls := [⟨0, .stop slot, .queued⟩], line := [0], made := 1 } : System).step? (.advance 0) =
      some ({ ofStart fleet tick with
        calls := [⟨0, .stop slot, .cooling (Calling.cooledAt fleet slot)⟩], line := [0],
        made := 1 }, []) := by
    simp [step?, step?.onCalling, Calling.advance?, Calling.call?, Calling.holds, Calling.onLock,
      Calling.setPhase, calling, ofStart, withCalling, hprocess]
  have hwait : ({ ofStart fleet tick with
      calls := [⟨0, .stop slot, .cooling (Calling.cooledAt fleet slot)⟩], line := [0],
      made := 1 } : System).step?
        (.outside (.time ⟨dueBoth fleet slot tick, fleet.clock.wall⟩)) =
      some (cooled fleet slot tick, []) := by
    have hlater : fleet.clock.instant ≤ dueBoth fleet slot tick :=
      Nat.le_trans (Nat.le_add_right ..) (Nat.le_max_right ..)
    simp [step?, Fleet.outside?, cooled, ofStart, hlater]
  exact ⟨_, ((Course.single hcall).append (.single hlock)).append (.single hwait)⟩

omit tick in
/-- A stop whose member has cooled down takes the process out of its slot. -/
theorem stops (system : System) {id : Nat} {due : Nanos}
    (hcalls : system.calls = [⟨id, .stop slot, .cooling due⟩])
    (hdue : due ≤ system.fleet.clock.instant)
    (hprocess : system.fleet.process? slot = some handle) :
    ∃ next, system.step? (.advance id) = some (next, teardown slot handle) ∧
      system.recorded? (.advance id) = some (slot, .stop) ∧
      next.watching = { system.watching with fleet := system.fleet.release slot .stop } := by
  have hcall : system.calling.call? id = some ⟨id, .stop slot, .cooling due⟩ := by
    simp [calling, Calling.call?, hcalls]
  have hdue : due ≤ system.calling.fleet.clock.instant := hdue
  have hprocess : system.calling.fleet.process? slot = some handle := hprocess
  refine ⟨system.withCalling (Calling.endProcess
    { system.calling with fleet := system.fleet.release slot .stop } id slot handle (.ok ())).1,
    ?_, ?_, rfl⟩
  · have hadvance : system.calling.advance? id =
        some (Calling.endProcess { system.calling with fleet := system.fleet.release slot .stop } id
          slot handle (.ok ())) := by
      simp only [Calling.advance?, hcall, Option.bind_eq_bind, Option.bind_some, if_pos hdue,
        Calling.onCooled, hprocess]
      rfl
    rw [step?, hadvance]
    rfl
  · simp [recorded?, Calling.recorded?, hcall, hdue, hprocess]

/-- A member of a fleet that was just started can be stopped. -/
theorem course_stopped (hslot : slot < fleet.members.length)
    (hprocess : fleet.process? slot = some handle) :
    ∃ moments last, Course step? (ofStart fleet tick)
        (moments ++ [⟨cooled fleet slot tick, .advance 0, teardown slot handle, last⟩]) last ∧
      (cooled fleet slot tick).recorded? (.advance 0) = some (slot, .stop) := by
  obtain ⟨moments, hcourse⟩ := course_cooled tick hslot hprocess
  have hdue : Calling.cooledAt fleet slot ≤ (cooled fleet slot tick).fleet.clock.instant :=
    Nat.le_max_left ..
  have hsame : (cooled fleet slot tick).fleet.process? slot = some handle := hprocess
  obtain ⟨last, hstep, hmark, -⟩ := stops (cooled fleet slot tick) rfl hdue hsame
  exact ⟨moments, last, .next hcourse hstep, hmark⟩

/-- The monitor may begin its first round while a stop of the first slot has cooled down, and see
that the member still runs. -/
theorem course_noting {member : Member} (hmember : fleet.member? 0 = some member)
    (hrunning : member.running = true) (hopen : fleet.stopFired = false) :
    ∃ moments due, Course step? (cooled fleet 0 tick) moments
      { cooled fleet 0 tick with monitor := { interval := tick, due, phase := .noting 0 [] } } := by
  have htick : (cooled fleet 0 tick).step? .tick =
      some ({ cooled fleet 0 tick with
        monitor := {
          interval := tick
          due := nextTick (fleet.clock.instant + tick) (dueBoth fleet 0 tick) tick
          phase := .looking 0 [] } }, []) := by
    have hdue : fleet.clock.instant + tick ≤ dueBoth fleet 0 tick := Nat.le_max_right ..
    simp [step?, step?.onWatching, Watching.tick?, watching, cooled, ofStart, withWatching, hopen,
      hdue]
  have hlook : ({ cooled fleet 0 tick with
      monitor := {
        interval := tick
        due := nextTick (fleet.clock.instant + tick) (dueBoth fleet 0 tick) tick
        phase := .looking 0 [] } } : System).step? .survey =
      some ({ cooled fleet 0 tick with
        monitor := {
          interval := tick
          due := nextTick (fleet.clock.instant + tick) (dueBoth fleet 0 tick) tick
          phase := .noting 0 [] } }, []) := by
    have hsame : (cooled fleet 0 tick).fleet.member? 0 = some member := hmember
    simp [step?, step?.onWatching, Watching.survey?, watching, hsame, hrunning, Watching.setPhase,
      withWatching]
  exact ⟨_, _, (Course.single htick).append (.single hlook)⟩

end System

end FleetControl
