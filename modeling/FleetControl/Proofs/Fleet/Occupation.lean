import FleetControl.Proofs.Fleet.Custody

/-!
# Occupied slots

The flag of a record says whether its member runs, and the slot holds the process. The two are
changed together: no turn of the calls forgets one of them, and nothing else touches either.
-/

namespace FleetControl

namespace Fleet

/-- The slots hold processes exactly where members run. -/
def Matched (fleet : Fleet) : Prop :=
  ∀ slot member, fleet.member? slot = some member →
    (fleet.process? slot).isSome = member.running

variable {fleet after : Fleet}

theorem Matched.running (hmatched : fleet.Matched) {slot : Nat} {member : Member}
    (hmember : fleet.member? slot = some member) {handle : Handle}
    (hprocess : fleet.process? slot = some handle) : member.running = true := by
  rw [← hmatched slot member hmember, hprocess]
  rfl

theorem Matched.stopped (hmatched : fleet.Matched) {slot : Nat} {member : Member}
    (hmember : fleet.member? slot = some member) (hprocess : fleet.process? slot = none) :
    member.running = false := by
  rw [← hmatched slot member hmember, hprocess]
  rfl

theorem Matched.aside (hmatched : fleet.Matched) (haside : fleet.Aside after) :
    after.Matched := by
  intro slot member hmember
  obtain ⟨old, hold, hstanding⟩ := haside.exists_member? hmember
  rw [← Member.running_eq hstanding, ← hmatched slot old hold, process?, haside.slots, process?]

theorem Matched.release (hmatched : fleet.Matched) (slot : Nat) (kind : TransitionKind) :
    (fleet.release slot kind).Matched := by
  intro other member hmember
  have hmember : (fleet.changeMember slot (·.markStopped fleet.clock)).member? other =
      some member := hmember
  rw [process?_release]
  rcases member?_changeMember_cases hmember with ⟨rfl, old, -, rfl⟩ | ⟨hother, hmember⟩
  · rw [if_pos rfl]
    rfl
  · rw [if_neg (Ne.symm hother)]
    exact hmatched other member hmember

theorem process?_occupy {slot : Nat} (hslot : slot < fleet.slots.length) (handle : Handle)
    (other : Nat) :
    (fleet.occupy slot handle).process? other =
      if other = slot then some handle else fleet.process? other := by
  rw [process?, show (fleet.occupy slot handle).slots = fleet.slots.set slot (some handle) from rfl,
    List.getElem?_set]
  by_cases hother : slot = other
  · subst hother
    rw [if_pos rfl, if_pos hslot, if_pos rfl]
    rfl
  · rw [if_neg hother, if_neg (Ne.symm hother)]
    rfl

theorem Matched.occupy (hmatched : fleet.Matched) {slot : Nat} (hslot : slot < fleet.slots.length)
    (handle : Handle) : (fleet.occupy slot handle).Matched := by
  intro other member hmember
  have hmember : (fleet.changeMember slot (·.markStarted "restarted" fleet.clock)).member? other =
      some member := hmember
  rw [process?_occupy hslot]
  rcases member?_changeMember_cases hmember with ⟨rfl, old, -, rfl⟩ | ⟨hother, hmember⟩
  · rw [if_pos rfl]
    rfl
  · rw [if_neg (Ne.symm hother)]
    exact hmatched other member hmember

end Fleet

variable {notes heard : List EngineNote} {fleet next : Fleet} {underway later : Option Call}
  {commands : List Command} {mark : Option Mark}

/-- A turn changes the flag with the slot. -/
theorem Turn.matched (hturn : Turn fleet underway heard commands mark next later)
    (hmatched : fleet.Matched) (hsize : fleet.slots.length = fleet.members.length) :
    next.Matched := by
  cases hturn with
  | stop => exact hmatched.release _ _
  | clear => exact hmatched.release _ _
  | ready hslot => exact hmatched.occupy (hsize ▸ hslot) _
  | @hand id slot config =>
      intro other member hmember
      have hmember : (fleet.changeMember slot (·.setConfig config)).member? other =
          some member := hmember
      rcases Fleet.member?_changeMember_cases hmember with ⟨rfl, old, hold, rfl⟩ | ⟨-, hmember⟩
      · exact hmatched slot old hold
      · exact hmatched other member hmember
  | rest | signal | coolStop | coolRestart | empty | vanish | launch | refuse | giveUp | ended
  | pass | clearEnded | cleared => exact hmatched

theorem Turn.emptied {slot : Nat}
    (hturn : Turn fleet underway heard commands (some (slot, .stop)) next later) :
    next.process? slot = none := by
  cases hturn
  rw [Fleet.process?_release, if_pos rfl]

theorem Turn.occupied_of_stop {slot : Nat}
    (hturn : Turn fleet underway heard commands (some (slot, .stop)) next later) :
    (fleet.process? slot).isSome := by
  cases hturn with
  | stop _ hprocess => simp [hprocess]

/-- While no call is under way the slots stay as they are. -/
theorem Turn.slots_eq (hturn : Turn fleet none heard commands mark next later) :
    next.slots = fleet.slots := by
  cases hturn with
  | rest | signal | coolStop | coolRestart | empty => rfl

/-- Only a member that runs is stopped, and only one that does not is restarted. -/
theorem Booked.running_of_turn (booked : Booked notes fleet underway) (hmatched : fleet.Matched)
    {slot : Nat} {kind : TransitionKind}
    (hturn : Turn fleet underway heard commands (some (slot, kind)) next later) {member : Member}
    (hmember : fleet.member? slot = some member) :
    (kind = .stop ∨ kind = .shutdown) ∧ member.running = true ∨
      kind = .restart ∧ member.running = false := by
  cases hturn with
  | stop _ hprocess => exact .inl ⟨.inl rfl, hmatched.running hmember hprocess⟩
  | clear hprocess => exact .inl ⟨.inr rfl, hmatched.running hmember hprocess⟩
  | ready =>
      have hempty := (booked.ledger.held rfl).2
      exact .inr ⟨rfl, hmatched.stopped hmember (Fleet.process?_eq_none_iff.mpr hempty)⟩

theorem Booked.slot_lt (booked : Booked notes fleet underway) {slot : Nat} {handle : Handle}
    (hprocess : fleet.process? slot = some handle) : slot < fleet.members.length :=
  booked.size ▸ (List.getElem?_eq_some_iff.mp (Fleet.process?_eq_some_iff.mp hprocess)).1

theorem Booked.slot_lt_of_turn (booked : Booked notes fleet underway) {slot : Nat}
    {kind : TransitionKind}
    (hturn : Turn fleet underway heard commands (some (slot, kind)) next later) :
    slot < fleet.members.length := by
  cases hturn with
  | stop _ hprocess => exact booked.slot_lt hprocess
  | clear hprocess => exact booked.slot_lt hprocess
  | ready hslot => exact hslot

theorem System.Step.matched {system after : System} {event : Event}
    (hstep : system.Step event commands after) (hmatched : system.fleet.Matched)
    (hsize : system.fleet.slots.length = system.fleet.members.length) : after.fleet.Matched := by
  cases hstep with
  | turn hturn => exact hturn.matched hmatched hsize
  | move hmove => exact hmatched.aside hmove.aside
  | outside houtside => exact hmatched.aside (.outside houtside)

theorem System.Step.slots_eq {system after : System} {event : Event}
    (hstep : system.Step event commands after) (hnone : system.underway? = none) :
    after.fleet.slots = system.fleet.slots := by
  cases hstep with
  | turn hturn => exact (hnone ▸ hturn).slots_eq
  | move hmove => exact hmove.aside.slots
  | outside houtside => exact (Fleet.Aside.outside houtside).slots

/-- In a fleet that was just started all slots are occupied and all members run. -/
theorem Started.matched {settings : FleetSettings} (hstarted : Started settings fleet) :
    fleet.Matched := by
  intro slot member hmember
  obtain ⟨handle, hprocess⟩ := hstarted.process? hmember
  rw [hprocess, hstarted.running hmember]
  rfl

end FleetControl
