import FleetControl.Proofs.Fleet.Cooldown

/-!
# The probes of a round

A probe carries the time that the monitor noted when it began the probe. No probe carries a time
later than the last transition of its member, since transitions only move forward. The monitor goes
through the slots in order and waits for all probes before the next round, so it never begins a
probe of a slot while there is another one.
-/

namespace FleetControl

/-- The probes that the monitor has begun and not yet seen the end of. -/
def MonitorPhase.pending : MonitorPhase → List Watch
  | .looking _ begun => begun
  | .refreshing _ begun => begun
  | .noting _ begun => begun
  | .joining left => left
  | .idle => []
  | .over => []

/-- The slot that the monitor has come to in its way through the members. -/
def MonitorPhase.slot? : MonitorPhase → Option Nat
  | .looking slot _ => some slot
  | .refreshing slot _ => some slot
  | .noting slot _ => some slot
  | .joining _ => none
  | .idle => none
  | .over => none

namespace Watching

variable {watching next : Watching} {commands : List Command} {slot : Nat} {probe : Probe}

theorem exists_of_mem_setProbe {old : Probe} {phase : ProbePhase}
    (hold : watching.probe? slot = some old)
    (hprobe : probe ∈ (watching.setProbe { old with phase }).probes) :
    ∃ origin ∈ watching.probes, origin.slot = probe.slot ∧ origin.seen = probe.seen := by
  obtain ⟨origin, horigin, rfl⟩ := List.mem_map.mp hprobe
  split
  next => exact ⟨old, List.mem_of_find?_eq_some hold, rfl, rfl⟩
  next => exact ⟨origin, horigin, rfl, rfl⟩

theorem mem_of_mem_dropProbe (hprobe : probe ∈ (watching.dropProbe slot).probes) :
    probe ∈ watching.probes ∧ probe.slot ≠ slot := by
  obtain ⟨hmem, hslot⟩ := List.mem_filter.mp hprobe
  exact ⟨hmem, of_decide_eq_true hslot⟩

/-- Every probe was there before the move, with the same time, or has just begun with the time of
its member's last transition. -/
theorem Move.probe_origin (hmove : watching.Move next commands) (hprobe : probe ∈ next.probes) :
    (∃ origin ∈ watching.probes, origin.slot = probe.slot ∧ origin.seen = probe.seen) ∨
      ∃ begun member, watching.monitor.phase = .noting probe.slot begun ∧
        watching.fleet.member? probe.slot = some member ∧
        member.transition.instant = probe.seen := by
  cases hmove with
  | tick | gather | look | refresh | rest => exact .inl ⟨probe, hprobe, rfl, rfl⟩
  | note hphase hmember =>
      rcases List.mem_append.mp hprobe with hold | hnew
      · exact .inl ⟨probe, hold, rfl, rfl⟩
      · obtain rfl := List.mem_singleton.mp hnew
        exact .inr ⟨_, _, hphase, hmember, rfl⟩
  | join | recover | drop =>
      exact .inl ⟨probe, (mem_of_mem_dropProbe hprobe).1, rfl, rfl⟩
  | quit =>
      obtain ⟨origin, horigin, rfl⟩ := List.mem_map.mp hprobe
      exact .inl ⟨origin, List.mem_of_mem_filter horigin, rfl, rfl⟩
  | ask hold | answer hold | word hold | commit hold | discard hold | fail hold =>
      exact .inl (exists_of_mem_setProbe hold hprobe)

/-- The monitor is about to note the last transition of a member only if it has just seen the
member run. -/
theorem Move.running_of_noting (hmove : watching.Move next commands) {begun : List Watch}
    (hnext : next.monitor.phase = .noting slot begun) :
    watching.monitor.phase = .noting slot begun ∨
      ∃ member, watching.fleet.member? slot = some member ∧ member.running = true := by
  cases hmove with
  | look hphase hmember =>
      simp only [setPhase] at hnext
      split at hnext
      next hrunning =>
        obtain ⟨rfl, -⟩ := MonitorPhase.noting.inj hnext
        exact .inr ⟨_, hmember, hrunning⟩
      next => simp at hnext
  | tick | gather | refresh | note | rest | join | recover | quit => simp [setPhase] at hnext
  | ask | answer | word | commit | discard | fail | drop => exact .inl hnext

/-- The monitor waits for every probe, and those that it has begun are in the slots before the one
that it has come to. -/
structure Tidy (watching : Watching) : Prop where
  awaited : watching.monitor.phase ≠ .over → ∀ probe ∈ watching.probes,
    ∃ watch ∈ watching.monitor.phase.pending, watch.slot = probe.slot
  passed : ∀ slot, watching.monitor.phase.slot? = some slot →
    ∀ watch ∈ watching.monitor.phase.pending, watch.slot < slot

namespace Tidy

/-- A slot whose member's transition is about to be noted has no probe. -/
theorem fresh (tidy : watching.Tidy) {begun : List Watch}
    (hphase : watching.monitor.phase = .noting slot begun) :
    ∀ probe ∈ watching.probes, probe.slot ≠ slot := by
  intro probe hprobe
  obtain ⟨watch, hwatch, hslot⟩ := tidy.awaited (by simp [hphase]) probe hprobe
  rw [← hslot]
  exact Nat.ne_of_lt (tidy.passed slot (by rw [hphase]; rfl) watch hwatch)

/-- The monitor goes on to another slot, and no probe has come. -/
theorem onward (tidy : watching.Tidy) (hbefore : watching.monitor.phase ≠ .over)
    (hprobes : next.probes = watching.probes)
    (hpending : next.monitor.phase.pending = watching.monitor.phase.pending)
    (hslot : ∀ slot, next.monitor.phase.slot? = some slot →
      ∃ past, watching.monitor.phase.slot? = some past ∧ past ≤ slot) : next.Tidy := by
  refine ⟨fun _ => ?_, fun slot hcome watch hwatch => ?_⟩
  · rw [hprobes, hpending]
    exact tidy.awaited hbefore
  · obtain ⟨past, hpast, hle⟩ := hslot slot hcome
    rw [hpending] at hwatch
    exact Nat.lt_of_lt_of_le (tidy.passed past hpast watch hwatch) hle

/-- Probes go on or end, and the monitor stays where it is. -/
theorem of_probes (tidy : watching.Tidy) (hmonitor : next.monitor = watching.monitor)
    (hprobes : ∀ probe ∈ next.probes, ∃ origin ∈ watching.probes, origin.slot = probe.slot) :
    next.Tidy := by
  refine ⟨fun hphase probe hprobe => ?_, ?_⟩
  · obtain ⟨origin, horigin, hslot⟩ := hprobes probe hprobe
    rw [hmonitor] at hphase ⊢
    exact hslot ▸ tidy.awaited hphase origin horigin
  · rw [hmonitor]
    exact tidy.passed

/-- Whoever leaves the monitor and its probes alone leaves the round tidy. -/
theorem kept (tidy : watching.Tidy) (hmonitor : next.monitor = watching.monitor)
    (hprobes : next.probes = watching.probes) : next.Tidy :=
  tidy.of_probes hmonitor fun probe hprobe => ⟨probe, hprobes ▸ hprobe, rfl⟩

/-- The monitor has seen the end of the first probe that it waits for. -/
theorem joined (tidy : watching.Tidy) {watch : Watch} {left : List Watch}
    (hphase : watching.monitor.phase = .joining (watch :: left))
    (hnext : next.monitor.phase = .joining left)
    (hprobes : next.probes = (watching.dropProbe watch.slot).probes) : next.Tidy := by
  refine ⟨fun _ probe hprobe => ?_, ?_⟩
  · rw [hprobes] at hprobe
    obtain ⟨hmem, hother⟩ := mem_of_mem_dropProbe hprobe
    obtain ⟨awaited, hawaited, hslot⟩ := tidy.awaited (by simp [hphase]) probe hmem
    rw [hphase] at hawaited
    rw [hnext]
    rcases List.mem_cons.mp hawaited with rfl | hleft
    · exact absurd hslot.symm hother
    · exact ⟨awaited, hleft, hslot⟩
  · simp [hnext, MonitorPhase.slot?]

/-- Every move of the monitor leaves its round tidy. -/
theorem move (tidy : watching.Tidy) (hmove : watching.Move next commands) : next.Tidy := by
  cases hmove with
  | tick hphase =>
      refine ⟨fun _ probe hprobe => ?_, by simp [MonitorPhase.pending]⟩
      obtain ⟨watch, hwatch, -⟩ := tidy.awaited (by simp [hphase]) probe hprobe
      simp [hphase, MonitorPhase.pending] at hwatch
  | gather hphase =>
      exact tidy.onward (by simp [hphase]) rfl (by rw [hphase]; rfl)
        (by simp [setPhase, MonitorPhase.slot?])
  | look hphase =>
      refine tidy.onward (by simp [hphase]) rfl ?_ ?_
      · rw [hphase]
        simp only [setPhase]
        split <;> rfl
      · intro slot hslot
        rw [hphase]
        refine ⟨_, rfl, ?_⟩
        simp only [setPhase] at hslot
        split at hslot <;> exact Nat.le_of_eq (Option.some.inj hslot)
  | refresh hphase =>
      refine tidy.onward (by simp [hphase]) rfl (by rw [hphase]; rfl) ?_
      rintro _ ⟨⟩
      exact ⟨_, by rw [hphase]; rfl, Nat.le_succ _⟩
  | @note slot begun member hphase hmember =>
      -- The new probe is in the slot that the monitor leaves, behind all the others.
      refine ⟨fun _ probe hprobe => ?_, ?_⟩
      · rcases List.mem_append.mp hprobe with hold | hnew
        · obtain ⟨watch, hwatch, hslot⟩ := tidy.awaited (by simp [hphase]) probe hold
          rw [hphase] at hwatch
          exact ⟨watch, List.mem_append_left _ hwatch, hslot⟩
        · obtain rfl := List.mem_singleton.mp hnew
          exact ⟨_, List.mem_append_right _ List.mem_cons_self, rfl⟩
      · rintro _ ⟨⟩ watch hwatch
        rcases List.mem_append.mp hwatch with hold | hnew
        · have hbefore := tidy.passed slot (by rw [hphase]; rfl) watch (by rw [hphase]; exact hold)
          exact Nat.lt_succ_of_lt hbefore
        · obtain rfl := List.mem_singleton.mp hnew
          exact Nat.lt_succ_self _
  | rest hphase =>
      exact tidy.onward (by simp [hphase]) rfl (by rw [hphase]; rfl)
        (by simp [setPhase, MonitorPhase.slot?])
  | join hphase => exact tidy.joined hphase rfl rfl
  | recover hphase => exact tidy.joined hphase rfl rfl
  | quit => exact ⟨fun hphase => absurd rfl hphase, by simp [setPhase, MonitorPhase.slot?]⟩
  | ask hold | answer hold | word hold | commit hold | discard hold | fail hold =>
      refine tidy.of_probes rfl fun probe hprobe => ?_
      obtain ⟨origin, horigin, hslot, -⟩ := exists_of_mem_setProbe hold hprobe
      exact ⟨origin, horigin, hslot⟩
  | drop =>
      exact tidy.of_probes rfl fun probe hprobe => ⟨probe, (mem_of_mem_dropProbe hprobe).1, rfl⟩

end Tidy

end Watching

namespace System

/-- A running fleet whose probes are in order. -/
structure Attended (system : System) : Prop where
  orderly : system.Orderly
  timed : Timed system.fleet system.underway?
  tidy : system.watching.Tidy
  noted : ∀ probe ∈ system.probes, ∀ member, system.fleet.member? probe.slot = some member →
    probe.seen ≤ member.transition.instant

namespace Attended

variable {system next : System} {event : Event} {commands : List Command}

/-- Transitions only move forward under probes that are there already. -/
theorem noted_aside (attended : system.Attended) (haside : system.fleet.Aside next.fleet)
    (hprobes : ∀ probe ∈ next.probes,
      (∃ origin ∈ system.probes, origin.slot = probe.slot ∧ origin.seen = probe.seen) ∨
        ∃ member, system.fleet.member? probe.slot = some member ∧
          member.transition.instant = probe.seen) :
    ∀ probe ∈ next.probes, ∀ member, next.fleet.member? probe.slot = some member →
      probe.seen ≤ member.transition.instant := by
  intro probe hprobe member hmember
  obtain ⟨old, hold, hstanding⟩ := haside.exists_member? hmember
  rw [← Member.transition_eq hstanding]
  rcases hprobes probe hprobe with ⟨origin, horigin, hslot, hseen⟩ | ⟨noted, hnoted, hseen⟩
  · rw [← hseen]
    exact attended.noted origin horigin old (hslot ▸ hold)
  · obtain rfl := Option.some.inj (hold.symm.trans hnoted)
    exact Nat.le_of_eq hseen.symm

theorem step (attended : system.Attended) (hstep : system.step? event = some (next, commands)) :
    next.Attended := by
  obtain ⟨horderly, hstepped⟩ := step_of_step? attended.orderly hstep
  have htimed := attended.timed.step hstepped
  cases hstepped with
  | turn hturn _ hmonitor hprobes =>
      refine ⟨horderly, htimed, attended.tidy.kept hmonitor hprobes, ?_⟩
      intro probe hprobe member hmember
      rw [hprobes] at hprobe
      obtain ⟨old, hold, hturned⟩ := hturn.exists_member? hmember
      have hnoted := attended.noted probe hprobe old hold
      exact Nat.le_trans hnoted (hturned.transition_le (attended.timed.dated probe.slot old hold))
  | move hmove =>
      refine ⟨horderly, htimed, attended.tidy.move hmove, ?_⟩
      refine attended.noted_aside hmove.aside fun probe hprobe => ?_
      rcases hmove.probe_origin hprobe with hold | ⟨begun, member, -, hmember, hseen⟩
      · exact .inl hold
      · exact .inr ⟨member, hmember, hseen⟩
  | outside houtside _ _ _ _ hmonitor hprobes =>
      refine ⟨horderly, htimed, attended.tidy.kept hmonitor hprobes, ?_⟩
      refine attended.noted_aside (.outside houtside) fun probe hprobe => ?_
      exact .inl ⟨probe, hprobes ▸ hprobe, rfl, rfl⟩

theorem course {first last : System} {moments : List (Moment System Event)}
    (attended : first.Attended) (hcourse : Course System.step? first moments last) :
    last.Attended :=
  hcourse.preserves attended fun hstep before => before.step hstep

end Attended

end System

/-- In a fleet that was just started no probe has begun. -/
theorem Started.attended {settings : FleetSettings} {fleet : Fleet}
    (hstarted : Started settings fleet) (tick : Nanos) :
    (System.ofStart fleet tick).Attended where
  orderly := System.orderly_ofStart fleet tick
  timed := hstarted.timed
  tidy := ⟨fun _ _ hprobe => absurd hprobe List.not_mem_nil, by
    simp [System.watching, System.ofStart, MonitorPhase.slot?]⟩
  noted := fun _ hprobe => absurd hprobe List.not_mem_nil

end FleetControl
