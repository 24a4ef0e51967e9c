import FleetControl.Fleet.System

/-!
# Courses of events

The machines of a fleet take one event at a time. A course is what happens to a machine from one
state to another, moment by moment; it is as long as one likes, and its events come in any order
that the machine accepts.
-/

namespace FleetControl

variable {σ ε : Type} {step? : σ → ε → Option (σ × List Command)}

/-- One event that a machine takes: the state before, what was commanded, and the state after. -/
structure Moment (σ ε : Type) where
  before : σ
  event : ε
  commands : List Command
  after : σ

/-- The machine goes from `first` to the last state through these moments. -/
inductive Course (step? : σ → ε → Option (σ × List Command)) (first : σ) :
    List (Moment σ ε) → σ → Prop where
  | start : Course step? first [] first
  | next {moments : List (Moment σ ε)} {last after : σ} {event : ε} {commands : List Command}
      (earlier : Course step? first moments last)
      (hstep : step? last event = some (after, commands)) :
      Course step? first (moments ++ [⟨last, event, commands, after⟩]) after

namespace Course

/-- What every step preserves holds at the end of every course. -/
theorem preserves {inv : σ → Prop} {first last : σ} {moments : List (Moment σ ε)}
    (hcourse : Course step? first moments last) (hfirst : inv first)
    (hstep : ∀ {before event after commands},
      step? before event = some (after, commands) → inv before → inv after) : inv last := by
  induction hcourse with
  | start => exact hfirst
  | next _ hlast ih => exact hstep hlast ih

/-- What the steps of such moments preserve holds at the end of every course of them. -/
theorem preserves_of_forall {inv : σ → Prop} {admits : Moment σ ε → Prop} {first last : σ}
    {moments : List (Moment σ ε)} (hcourse : Course step? first moments last) (hfirst : inv first)
    (hadmits : ∀ moment ∈ moments, admits moment)
    (hstep : ∀ {before event after commands}, step? before event = some (after, commands) →
      admits ⟨before, event, commands, after⟩ → inv before → inv after) : inv last := by
  induction hcourse with
  | start => exact hfirst
  | next _ hlast ih =>
      obtain ⟨hearly, hadmitted⟩ := List.forall_mem_append.mp hadmits
      exact hstep hlast (hadmitted _ List.mem_cons_self) (ih hearly)

theorem append {first middle last : σ} {early late : List (Moment σ ε)}
    (hearly : Course step? first early middle) (hlate : Course step? middle late last) :
    Course step? first (early ++ late) last := by
  induction hlate with
  | start => simpa using hearly
  | next _ hlast ih =>
      rw [← List.append_assoc]
      exact .next ih hlast

/-- A single event is a course. -/
theorem single {before after : σ} {event : ε} {commands : List Command}
    (hstep : step? before event = some (after, commands)) :
    Course step? before [⟨before, event, commands, after⟩] after :=
  .next .start hstep

/-- A course can be cut between any two of its moments. -/
theorem split {first last : σ} {early late : List (Moment σ ε)}
    (hcourse : Course step? first (early ++ late) last) :
    ∃ middle, Course step? first early middle ∧ Course step? middle late last := by
  generalize hmoments : early ++ late = moments at hcourse
  induction hcourse generalizing late with
  | start =>
      obtain ⟨rfl, rfl⟩ := List.append_eq_nil_iff.mp hmoments
      exact ⟨first, .start, .start⟩
  | @next moments last after event commands earlier hstep ih =>
      -- A course grows at its end, so the cut is looked for from there.
      rcases List.eq_nil_or_concat late with rfl | ⟨front, moment, rfl⟩
      · rw [List.append_nil] at hmoments
        subst hmoments
        exact ⟨after, .next earlier hstep, .start⟩
      · rw [List.concat_eq_append, ← List.append_assoc] at hmoments
        obtain ⟨hfront, hlast⟩ := List.append_inj' hmoments rfl
        obtain ⟨middle, hleft, hright⟩ := ih hfront
        rw [List.concat_eq_append, (List.cons.inj hlast).1]
        exact ⟨middle, hleft, .next hright hstep⟩

/-- Where nothing happens, a machine stays as it is. -/
theorem eq_of_nil {first last : σ} (hcourse : Course step? first [] last) : last = first := by
  generalize hmoments : ([] : List (Moment σ ε)) = moments at hcourse
  cases hcourse with
  | start => rfl
  | next => simp at hmoments

/-- Every moment of a course is a step of the machine, between what came before and after it. -/
theorem at_moment {first last : σ} {early late : List (Moment σ ε)} {moment : Moment σ ε}
    (hcourse : Course step? first (early ++ moment :: late) last) :
    Course step? first early moment.before ∧
      step? moment.before moment.event = some (moment.after, moment.commands) ∧
      Course step? moment.after late last := by
  rw [show early ++ moment :: late = early ++ [moment] ++ late by simp] at hcourse
  obtain ⟨after, hupto, hlate⟩ := hcourse.split
  generalize hmoments : early ++ [moment] = upto at hupto
  cases hupto with
  | start => simp at hmoments
  | next earlier hstep =>
      obtain ⟨rfl, hlast⟩ := List.append_inj' hmoments rfl
      obtain rfl := (List.cons.inj hlast).1
      exact ⟨earlier, hstep, hlate⟩

/-- A course begins with the step in its first moment. -/
theorem of_cons {first last : σ} {moment : Moment σ ε} {late : List (Moment σ ε)}
    (hcourse : Course step? first (moment :: late) last) :
    moment.before = first ∧
      step? first moment.event = some (moment.after, moment.commands) ∧
      Course step? moment.after late last := by
  obtain ⟨hnone, hstep, hlate⟩ := at_moment (show Course step? first ([] ++ moment :: late) last
    from hcourse)
  have hfirst := hnone.eq_of_nil
  exact ⟨hfirst, hfirst ▸ hstep, hlate⟩

/-- A course ends with the step in its last moment. -/
theorem of_concat {first last : σ} {moment : Moment σ ε} {early : List (Moment σ ε)}
    (hcourse : Course step? first (early ++ [moment]) last) :
    Course step? first early moment.before ∧
      step? moment.before moment.event = some (moment.after, moment.commands) ∧
      moment.after = last := by
  obtain ⟨hearly, hstep, hnone⟩ := hcourse.at_moment
  exact ⟨hearly, hstep, hnone.eq_of_nil.symm⟩

theorem cut {first last : σ} {moments : List (Moment σ ε)} {moment : Moment σ ε}
    (hcourse : Course step? first moments last) (hmem : moment ∈ moments) :
    ∃ early late, moments = early ++ moment :: late ∧ Course step? first early moment.before ∧
      step? moment.before moment.event = some (moment.after, moment.commands) ∧
      Course step? moment.after late last := by
  obtain ⟨early, late, rfl⟩ := List.append_of_mem hmem
  exact ⟨early, late, rfl, hcourse.at_moment⟩

/-- A machine goes one way with the same events. -/
theorem functional {first last other : σ} {moments more : List (Moment σ ε)}
    (hcourse : Course step? first moments last) (hother : Course step? first more other)
    (hevents : moments.map (·.event) = more.map (·.event)) : moments = more ∧ last = other := by
  induction hcourse generalizing more other with
  | start =>
      cases hother with
      | start => exact ⟨rfl, rfl⟩
      | next => simp at hevents
  | next _ hstep ih =>
      cases hother with
      | start => simp at hevents
      | next earlier hagain =>
          rw [List.map_append, List.map_append] at hevents
          obtain ⟨hfront, hlast⟩ := List.append_inj' hevents rfl
          obtain ⟨rfl, rfl⟩ := ih earlier hfront
          obtain rfl := (List.cons.inj hlast).1
          obtain ⟨rfl, rfl⟩ := Prod.mk.inj (Option.some.inj (hstep.symm.trans hagain))
          exact ⟨rfl, rfl⟩

end Course

namespace System

theorem run?_concat {system middle last : System} {events : List Event} {event : Event}
    {commands more : List Command} (hrun : system.run? events = some (middle, commands))
    (hstep : middle.step? event = some (last, more)) :
    system.run? (events ++ [event]) = some (last, commands ++ more) := by
  induction events generalizing system commands with
  | nil =>
      obtain ⟨rfl, rfl⟩ := Prod.mk.inj (Option.some.inj hrun)
      simp [run?, hstep]
  | cons head rest ih =>
      simp only [run?, Option.bind_eq_bind, Option.bind_eq_some_iff, Prod.exists] at hrun
      obtain ⟨next, now, hnow, past, later, hlater, hpure⟩ := hrun
      obtain ⟨rfl, rfl⟩ := Prod.mk.inj (Option.some.inj hpure)
      simp [run?, hnow, ih hlater]

/-- The runs of the system are its courses. -/
theorem run?_eq_some_iff {system last : System} {events : List Event}
    {commands : List Command} :
    system.run? events = some (last, commands) ↔
      ∃ moments, Course System.step? system moments last ∧
        moments.map (·.event) = events ∧ moments.flatMap (·.commands) = commands := by
  constructor
  · intro hrun
    induction events generalizing system commands with
    | nil =>
        obtain ⟨rfl, rfl⟩ := Prod.mk.inj (Option.some.inj hrun)
        exact ⟨[], .start, rfl, rfl⟩
    | cons event rest ih =>
        simp only [run?, Option.bind_eq_bind, Option.bind_eq_some_iff, Prod.exists] at hrun
        obtain ⟨next, now, hstep, past, more, hrest, hpure⟩ := hrun
        obtain ⟨rfl, rfl⟩ := Prod.mk.inj (Option.some.inj hpure)
        obtain ⟨moments, hcourse, rfl, rfl⟩ := ih hrest
        exact ⟨⟨system, event, now, next⟩ :: moments, (Course.single hstep).append hcourse,
          rfl, rfl⟩
  · rintro ⟨moments, hcourse, rfl, rfl⟩
    induction hcourse with
    | start => rfl
    | next _ hstep ih => simpa using run?_concat ih hstep

end System

end FleetControl
