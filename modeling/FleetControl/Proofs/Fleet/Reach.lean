import FleetControl.Proofs.Fleet.Occupation
import FleetControl.Proofs.Fleet.Ownership
import FleetControl.Proofs.Fleet.Probes

/-!
# What a started fleet can come to

From its start on, the books of a fleet are kept and its slots hold processes exactly where members
run. So a member that runs keeps both its process and its configuration until its next transition.
-/

namespace FleetControl

namespace Turn

variable {fleet after : Fleet} {underway later : Option Call} {heard : List EngineNote}
  {commands : List Command} {mark : Option Mark} {slot : Nat}

/-- A configuration changes only where the engine hands out a process. -/
theorem config_eq (hturn : Turn fleet underway heard commands mark after later)
    {old member : Member} (hold : fleet.member? slot = some old)
    (hmember : after.member? slot = some member)
    (hnone : ∀ handle, .handed slot handle ∉ heard) : member.config = old.config := by
  have hchanged : ∀ other (change : Member → Member),
      (fleet.changeMember other change).member? slot = some member →
      (∀ member, (change member).config = member.config) ∨ other ≠ slot →
      member.config = old.config := by
    intro other change hmember hsame
    rcases Fleet.member?_changeMember_cases hmember with
      ⟨rfl, found, hfound, rfl⟩ | ⟨-, hfound⟩
    · obtain rfl := Option.some.inj (hold.symm.trans hfound)
      exact hsame.resolve_right (absurd rfl) old
    · rw [Option.some.inj (hold.symm.trans hfound)]
  cases hturn with
  | rest | signal | coolStop | coolRestart | empty | vanish | launch | refuse | giveUp | ended
  | pass | clearEnded | cleared =>
      rw [Option.some.inj (hold.symm.trans hmember)]
  | stop => exact hchanged _ _ hmember (.inl fun _ => rfl)
  | clear => exact hchanged _ _ hmember (.inl fun _ => rfl)
  | ready => exact hchanged _ _ hmember (.inl fun _ => rfl)
  | @hand id other config =>
      refine hchanged _ _ hmember (.inr ?_)
      rintro rfl
      exact hnone _ List.mem_cons_self

/-- No process is handed out for a slot that has one. -/
theorem unhanded (hturn : Turn fleet underway heard commands mark after later)
    {notes : List EngineNote} (booked : Booked notes fleet underway) {process : Handle}
    (hprocess : fleet.process? slot = some process) : ∀ handle, .handed slot handle ∉ heard := by
  intro handle hhanded
  cases hturn with
  | @hand id other config =>
      obtain ⟨rfl, -⟩ := EngineNote.handed.inj (List.mem_singleton.mp hhanded)
      have hempty : fleet.process? slot = none := booked.sees _ rfl
      simp [hprocess] at hempty
  | ended | clearEnded => simp at hhanded
  | rest | signal | coolStop | coolRestart | empty | stop | vanish | launch | refuse | giveUp
  | ready | pass | clear | cleared => exact List.not_mem_nil hhanded

/-- Processes come and go only with transitions. -/
theorem slots_eq_of_unmarked (hturn : Turn fleet underway heard commands none after later) :
    after.slots = fleet.slots := by
  cases hturn with
  | rest | signal | coolStop | coolRestart | empty | vanish | launch | refuse | hand | giveUp
  | ended | pass | clearEnded | cleared => rfl

end Turn

namespace System

variable {system next : System} {event : Event} {commands : List Command} {slot : Nat}

/-- The books of a fleet are kept, and its slots hold processes exactly where members run. -/
def Kept (system : System) : Prop :=
  (∃ notes, system.Sound notes) ∧ system.fleet.Matched

namespace Kept

theorem orderly (kept : system.Kept) : system.Orderly :=
  kept.1.elim fun _ sound => sound.orderly

theorem step (kept : system.Kept) (hstep : system.step? event = some (next, commands)) :
    next.Kept := by
  obtain ⟨⟨notes, sound⟩, matched⟩ := kept
  obtain ⟨-, hstepped⟩ := step_of_step? sound.orderly hstep
  exact ⟨⟨_, sound.course (.single hstep)⟩, hstepped.matched matched sound.booked.size⟩

/-- A member that runs has a process, whatever its snapshot shows. -/
theorem exists_process? (kept : system.Kept) {member : Member}
    (hmember : system.fleet.member? slot = some member) (hrunning : member.running = true) :
    ∃ handle, system.fleet.process? slot = some handle := by
  rw [← kept.2 slot member hmember] at hrunning
  exact Option.isSome_iff_exists.mp hrunning

/-- A running member keeps its configuration, and so does any other one for which the engine hands
out no process. -/
theorem config_eq (kept : system.Kept) (hstep : system.step? event = some (next, commands))
    {old member : Member} (hold : system.fleet.member? slot = some old)
    (hmember : next.fleet.member? slot = some member)
    (hcalm : old.running = true ∨ ∀ handle, .handed slot handle ∉ system.heard event) :
    member.config = old.config := by
  obtain ⟨-, hstepped⟩ := step_of_step? kept.orderly hstep
  have haside : system.fleet.Aside next.fleet → member.config = old.config := by
    intro haside
    obtain ⟨found, hfound, hstanding⟩ := haside.exists_member? hmember
    obtain rfl := Option.some.inj (hold.symm.trans hfound)
    exact (congrArg Member.config hstanding).symm
  cases hstepped with
  | turn hturn =>
      refine hturn.config_eq hold hmember ?_
      rcases hcalm with hrunning | hnone
      · obtain ⟨process, hprocess⟩ := kept.exists_process? hold hrunning
        obtain ⟨notes, sound⟩ := kept.1
        exact hturn.unhanded sound.booked hprocess
      · exact hnone
  | move hmove => exact haside hmove.aside
  | outside houtside => exact haside (.outside houtside)

end Kept

/-- Without a transition every process stays in its slot. -/
theorem slots_eq_of_step? (orderly : system.Orderly)
    (hstep : system.step? event = some (next, commands)) (hnone : system.recorded? event = none) :
    next.fleet.slots = system.fleet.slots := by
  obtain ⟨-, hstepped⟩ := step_of_step? orderly hstep
  cases hstepped with
  | turn hturn => exact (hnone ▸ hturn).slots_eq_of_unmarked
  | move hmove => exact hmove.aside.slots
  | outside houtside => exact (Fleet.Aside.outside houtside).slots

/-- A started fleet can come to this state. -/
def Reachable (system : System) : Prop :=
  ∃ settings fleet tick moments, Started settings fleet ∧
    Course step? (ofStart fleet tick) moments system

theorem kept_ofStart {settings : FleetSettings} {fleet : Fleet} (hstarted : Started settings fleet)
    (tick : Nanos) : (ofStart fleet tick).Kept := by
  obtain ⟨notes, start, kept, hphase, rfl⟩ := hstarted.exists_kept
  exact ⟨⟨_, kept.sound hphase tick⟩, hstarted.matched⟩

/-- Whatever a started fleet goes through, its books are kept. -/
theorem Reachable.kept (hreachable : system.Reachable) : system.Kept := by
  obtain ⟨settings, fleet, tick, moments, hstarted, hcourse⟩ := hreachable
  exact hcourse.preserves (kept_ofStart hstarted tick) fun hstep before => before.step hstep

theorem Reachable.attended (hreachable : system.Reachable) : system.Attended := by
  obtain ⟨settings, fleet, tick, moments, hstarted, hcourse⟩ := hreachable
  exact (hstarted.attended tick).course hcourse

end System

end FleetControl
