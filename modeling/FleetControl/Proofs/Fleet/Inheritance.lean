import FleetControl.Proofs.Fleet.Identity

/-!
# What configurations inherit

The first process of a member is asked for with the configuration that the layout gives to its slot,
and every later one with the configuration in force, to join. So whatever the engine lets a
configuration have in common with the one that it was asked for is passed on from the layout to the
configurations in force, through any number of restarts.
-/

namespace FleetControl

open ConfigNote

/-- A property of configurations with respect to those that found their members, which passes from
what the engine is asked for to what it gives out. -/
structure Passes (rel inv : MemberConfig → MemberConfig → Prop) : Prop where
  founded {config founding : MemberConfig} (hgiven : rel config founding) : inv config founding
  rejoined {config old founding : MemberConfig} (hold : inv old founding)
    (hgiven : rel config old.joining) : inv config founding

variable {rel inv : MemberConfig → MemberConfig → Prop} {configs : List MemberConfig}
  {notes : List ConfigNote}

/-- A request for the founding process of a member, or for one that joins with what is in force. -/
inductive Due (inv : MemberConfig → MemberConfig → Prop) (founding : MemberConfig) :
    MemberConfig → Prop where
  | first : Due inv founding founding
  | again {config : MemberConfig} (hconfig : inv config founding) : Due inv founding config.joining

theorem Passes.given (passes : Passes rel inv) {config asked founding : MemberConfig}
    (due : Due inv founding asked) (hgiven : rel config asked) : inv config founding := by
  cases due with
  | first => exact passes.founded hgiven
  | again hconfig => exact passes.rejoined hconfig hgiven

/-- The fleet is searched as these configurations say, and every configuration in force has
inherited the property from the one of its slot. -/
structure Fleet.Inherits (inv : MemberConfig → MemberConfig → Prop) (configs : List MemberConfig)
    (fleet : Fleet) : Prop where
  endpoints : fleet.endpoints = .ofConfigs configs
  inherited : ∀ slot config, fleet.config? slot = some config →
    ∃ founding, configs[slot]? = some founding ∧ inv config founding

namespace Bootstrap

variable {start next first : Bootstrap} {moments : List (Moment Bootstrap StartEvent)}

theorem Along.inherits {more : List ConfigNote} (passes : Passes rel inv)
    (along : Along configs notes start)
    (hsize : start.fleet.members.length = start.handles.length)
    (inherits : start.fleet.Inherits inv configs) (pace : Pace start more next)
    (hgives : Gives rel (notes ++ more)) : next.fleet.Inherits inv configs := by
  cases pace with
  | aside hendpoints hconfigs =>
      refine ⟨hendpoints.trans along.endpoints, fun slot config hconfig => ?_⟩
      rw [Fleet.config?_eq, hconfigs, ← Fleet.config?_eq] at hconfig
      exact inherits.inherited slot config hconfig
  | @enlist config canonical todo _ hphase hendpoints hconfigs =>
      obtain ⟨hplace, -, hrequests⟩ := along.upcoming hphase
      refine ⟨hendpoints.trans along.endpoints, fun slot other hother => ?_⟩
      rcases Fleet.config?_cases_of_concat hconfigs hother with hold | ⟨rfl, rfl⟩
      · exact inherits.inherited slot other hold
      · refine ⟨config, ?_, passes.founded (hgives.given ?_)⟩
        · rw [Fleet.configs, List.length_map, hsize, hplace]
        · rw [hrequests, List.getLast?_singleton]

/-- The members of a start that has not failed inherit from its layout all the time. -/
theorem Along.inherits_course {interval : Nanos} {engineNotes : List EngineNote}
    (passes : Passes rel inv) (along : Along configs notes first)
    (kept : Kept interval engineNotes first) (inherits : first.fleet.Inherits inv configs)
    (hcourse : Course step? first moments start)
    (hgives : Gives rel (notes ++ exchanged issued moments))
    (hup : start.phase.isDown = false) : start.fleet.Inherits inv configs := by
  induction hcourse with
  | start => exact inherits
  | next earlier hstep ih =>
      rw [exchanged_concat, ← List.append_assoc] at hgives
      have hstride := stride_of_step? hstep
      have hbefore := hstride.isDown_before hup
      exact (along.course earlier hbefore).inherits passes
        (kept.course earlier).fledgling.size_eq (ih hgives.of_append hbefore) (hstride.pace hup)
        hgives

end Bootstrap

namespace System

variable {system next first : System} {event : Event} {commands : List Command}
  {moments : List (Moment System Event)}

/-- All configurations in force have inherited the property from this layout, and so will those that
the engine gives out next. -/
structure Inherits (inv : MemberConfig → MemberConfig → Prop) (configs : List MemberConfig)
    (notes : List ConfigNote) (system : System) : Prop where
  inherits : system.fleet.Inherits inv configs
  size : system.fleet.members.length = configs.length
  due : ∀ slot founding, configs[slot]? = some founding →
    ∃ asked, (requests slot notes).getLast? = some asked ∧ Due inv founding asked

namespace Inherits

theorem step (passes : Passes rel inv) (inherits : Inherits inv configs notes system)
    (kept : system.Kept) (hstep : system.step? event = some (next, commands))
    (hgives : Gives rel (notes ++ (system.issued event ++ asks commands))) :
    Inherits inv configs (notes ++ (system.issued event ++ asks commands)) next := by
  obtain ⟨-, hstepped⟩ := step_of_step? kept.orderly hstep
  have hsize : next.fleet.members.length = configs.length := hstepped.size_eq.trans inherits.size
  refine ⟨⟨(endpoints_of_step? kept.orderly hstep).trans inherits.inherits.endpoints,
    fun slot config hconfig => ?_⟩, hsize, fun slot founding hfounding => ?_⟩
  · rcases config_of_step? kept hstep hconfig with hold | hgiven
    · exact inherits.inherits.inherited slot config hold
    -- What the engine gives out answers its last request for the slot.
    · have hslot : slot < configs.length := by
        obtain ⟨member, hmember, -⟩ := Option.map_eq_some_iff.mp hconfig
        exact hsize ▸ Fleet.slot_lt hmember
      have hfounding := List.getElem?_eq_getElem hslot
      obtain ⟨asked, hasked, due⟩ := inherits.due slot _ hfounding
      rw [hgiven] at hgives
      exact ⟨_, hfounding, passes.given due (hgives.given hasked)⟩
  · obtain ⟨asked, hasked, due⟩ := inherits.due slot founding hfounding
    rw [requests_append, requests_append, requests_issued, List.nil_append]
    rcases asks_of_step? kept.orderly hstep with hnone | ⟨other, config, hconfig, hmore⟩
    · rw [hnone, requests_nil, List.append_nil]
      exact ⟨asked, hasked, due⟩
    · rw [hmore, requests_asked]
      split
      next hother =>
        subst other
        obtain ⟨found, hfound, hinherited⟩ := inherits.inherits.inherited slot config hconfig
        obtain rfl := Option.some.inj (hfounding.symm.trans hfound)
        exact ⟨config.joining, List.getLast?_concat .., .again hinherited⟩
      next =>
        rw [List.append_nil]
        exact ⟨asked, hasked, due⟩

theorem course (passes : Passes rel inv) (inherits : Inherits inv configs notes first)
    (kept : first.Kept) (hcourse : Course step? first moments system)
    (hgives : Gives rel (notes ++ exchanged issued moments)) :
    Inherits inv configs (notes ++ exchanged issued moments) system := by
  induction hcourse with
  | start => simpa using inherits
  | next earlier hstep ih =>
      rw [exchanged_concat, ← List.append_assoc] at hgives ⊢
      have hkept := earlier.preserves kept fun hstep before => before.step hstep
      exact (ih hgives.of_append).step passes hkept hstep hgives

end Inherits

end System

/-- Whatever happens to a started fleet, its configurations inherit from the layout of its settings
what the engine passes on. -/
theorem Chronicle.exists_inherits {settings : FleetSettings} {system : System}
    (chronicle : Chronicle settings notes system) (passes : Passes rel inv)
    (hgives : Gives rel notes) :
    ∃ token configs, settings.validate = .ok () ∧
      Layout.memberConfigs settings token = .ok configs ∧ system.Inherits inv configs notes := by
  obtain ⟨token, files, after, clock, rootFired, first, opening, begun, start, tick, moments,
    hbegin, hbegun, hstarted, hcourse, rfl⟩ := chronicle
  obtain ⟨configs, hvalid, hconfigs, follows, hempty⟩ := Bootstrap.Follows.begin hbegin
  have hup : start.phase.isDown = false := by rw [hstarted]; rfl
  have hfirst : first.fleet.Inherits inv configs := by
    refine ⟨follows.laidOut.endpoints, fun slot config hconfig => ?_⟩
    simp [Fleet.config?, Fleet.member?, hempty] at hconfig
  have hfleet : Started settings start.fleet :=
    ⟨_, _, _, _, _, _, _, _, start, hbegin, hbegun, hstarted, rfl⟩
  have inherits : (System.ofStart start.fleet tick).Inherits inv configs
      (asks opening ++ exchanged Bootstrap.issued begun) := by
    refine ⟨follows.along.inherits_course passes (.begin hbegin) hfirst hbegun hgives.of_append hup,
      hfleet.size_eq.trans (Layout.length_memberConfigs hconfigs).symm,
      fun slot founding hfounding => ⟨founding, ?_, .first⟩⟩
    rw [(follows.along.course hbegun hup).asked_of_started hstarted, hfounding]
    rfl
  exact ⟨token, configs, hvalid, hconfigs,
    inherits.course passes (System.kept_ofStart hfleet tick) hcourse hgives⟩

/-- A fleet of one member can be started with any configuration that the engine gives out, and its
member stopped and launched again. -/
theorem exists_sole_restart {settings : FleetSettings} {token : String} {config : MemberConfig}
    {files after : Files} (hvalid : settings.validate = .ok ())
    (hconfigs : Layout.memberConfigs settings token = .ok [config])
    (hfiles : files.prepareDirectory settings.fleet.rootDir = (after, .ok ()))
    (hsize : settings.fleet.size.toNat = 1) (canonical : MemberConfig) :
    ∃ system, Chronicle settings ([.asked 0 config, .given 0 canonical] ++
      [.asked 0 canonical.joining, .given 0 canonical.joining]) system := by
  obtain ⟨first, opening, begun, start, hbegin, hbegun, hphase, hnotes⟩ :=
    exists_sole_answer hvalid hconfigs hfiles canonical
  have hstarted : Started settings start.fleet :=
    ⟨_, _, _, _, _, _, _, _, start, hbegin, hbegun, hphase, rfl⟩
  obtain ⟨member, hmember⟩ : ∃ member, start.fleet.member? 0 = some member :=
    Fleet.exists_member? (by rw [hstarted.size_eq, hsize]; exact Nat.zero_lt_one)
  -- The configuration in force is the only one that the engine has given out.
  have hconfig : member.config = canonical := by
    have hchronicle : Chronicle settings [.asked 0 config, .given 0 canonical]
        (.ofStart start.fleet 0) :=
      ⟨_, _, _, _, _, _, _, _, start, 0, [], hbegin, hbegun, hphase, .start, by rw [hnotes]; rfl⟩
    have hgives : Gives (fun given _ => given = canonical)
        [.asked 0 config, .given 0 canonical] := Gives.nil.answer 0 rfl
    have hpasses : Passes (fun given _ => given = canonical) (fun given _ => given = canonical) :=
      ⟨id, fun _ hgiven => hgiven⟩
    obtain ⟨-, configs, -, -, inherits⟩ := hchronicle.exists_inherits hpasses hgives
    obtain ⟨-, -, hsame⟩ := inherits.inherits.inherited 0 member.config
      (Option.map_eq_some_iff.mpr ⟨member, hmember, rfl⟩)
    exact hsame
  obtain ⟨handle, hprocess⟩ := hstarted.process? hmember
  obtain ⟨moments, system, hcourse, hagain⟩ := System.exists_stopped_relaunched
    (System.ofStart start.fleet 0) hmember hprocess hstarted.fledgling.isOpen
  exact ⟨system, _, _, _, _, _, _, _, _, start, 0, moments, hbegin, hbegun, hphase, hcourse,
    by rw [hnotes, hagain, hconfig]⟩

end FleetControl
