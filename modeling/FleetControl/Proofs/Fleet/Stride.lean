import FleetControl.Proofs.Fleet.Start

/-!
# The strides of a start

Every event that a start accepts takes it one stride further: a member is launched, becomes ready,
is asked or answers, the start goes on to its next phase, or it fails. What a stride says about the
state before and after is all that a proof about starts has to know of them.
-/

namespace FleetControl

namespace StartPhase

/-- The start has failed or is about to, or a prober has unwound it. -/
def isDown : StartPhase → Bool
  | .undoing .. => true
  | .failed _ => true
  | .unwound _ => true
  | .launching _ => false
  | .awaiting _ => false
  | .settling _ => false
  | .searching _ => false
  | .started => false

end StartPhase

namespace Bootstrap

/-- The engine has handed out a process with its configuration: the member gets its record. -/
def enlist (start : Bootstrap) (config : MemberConfig) : Bootstrap :=
  { start with
    fleet := { start.fleet with
      members := start.fleet.members ++
        [Member.new start.handles.length config start.fleet.clock]
      launches := start.fleet.launches + 1 }
    handles := start.handles ++ [start.fleet.launches] }

/-- What one event does to a start. -/
inductive Stride (start : Bootstrap) : StartEvent → List Command → Bootstrap → Prop where
  | outside {outer : Outside} {fleet : Fleet} (houtside : start.fleet.outside? outer = some fleet) :
      Stride start (.outside outer) [] { start with fleet }
  /-- The start is on its way down. No process is awaited any more, and at the end, but not before,
  the directory is removed. -/
  | fall {event : StartEvent} {commands : List Command} {next : Bootstrap}
      (hdown : next.phase.isDown = true)
      (hcommands : ∀ slot handle, .awaitReady slot handle ∉ commands)
      (hroot : next.fleet.rootDir = start.fleet.rootDir)
      (hremoved : ∀ error, next.phase = .failed error →
        next.fleet.files = (start.fleet.files.removeDirectory start.fleet.rootDir).1)
      (htorn : next.phase.isLive = false)
      (hkept : (∀ error, next.phase ≠ .failed error) → next.fleet.files = start.fleet.files) :
      Stride start event commands next
  /-- A prober takes the start with it, or a count that overflows. -/
  | unwind {event : StartEvent} {searches : List Search} {text : String}
      (hphase : start.phase = .searching searches) (hsilent : start.heard event = []) :
      Stride start event [] { start with phase := .unwound text }
  /-- A member is launched, and there are more to launch. -/
  | launch {config canonical following : MemberConfig} {todo : List MemberConfig}
      (hphase : start.phase = .launching (config :: following :: todo)) :
      Stride start (.launched (.ok canonical))
        [.launch (start.enlist canonical).handles.length following]
        { start.enlist canonical with phase := .launching (following :: todo) }
  /-- The last member is launched, and all are awaited. -/
  | muster {config canonical : MemberConfig} (hphase : start.phase = .launching [config]) :
      Stride start (.launched (.ok canonical))
        ((start.enlist canonical).handles.zipIdx.map fun (handle, slot) => .awaitReady slot handle)
        { start.enlist canonical with
          phase := .awaiting ((start.enlist canonical).handles.map fun _ => none) }
  /-- A process is known to be ready or not, and others are not known yet. -/
  | know {slot : Nat} {outcome : Except Error Unit} {outcomes : List (Option (Except Error Unit))}
      (hphase : start.phase = .awaiting outcomes) (hslot : outcomes[slot]? = some none) :
      Stride start (.ready slot outcome) []
        { start with
          fleet := markReady start.fleet slot outcome
          phase := .awaiting (outcomes.set slot (some outcome)) }
  /-- The last process is ready, and so are all. -/
  | rally {slot : Nat} {due : Nanos} {outcomes : List (Option (Except Error Unit))}
      (hphase : start.phase = .awaiting outcomes) (hslot : outcomes[slot]? = some none)
      (hall : ∀ outcome ∈ outcomes.set slot (some (.ok ())), outcome = some (.ok ())) :
      Stride start (.ready slot (.ok ())) []
        { start with fleet := markReady start.fleet slot (.ok ()), phase := .settling due }
  /-- The wait for processes that are all ready is given up. -/
  | release {due : Nanos} {outcomes : List (Option (Except Error Unit))}
      (hphase : start.phase = .awaiting outcomes)
      (hall : ∀ outcome ∈ outcomes, outcome = some (.ok ())) :
      Stride start .abandoned [] { start with phase := .settling due }
  /-- The search for a leader begins. -/
  | seek {due : Nanos} (hphase : start.phase = .settling due) :
      Stride start .settled [] { start with phase := .searching (start.handles.map fun _ => {}) }
  /-- A member is asked, or its search sees the root signal. -/
  | ask {slot : Nat} {searches : List Search} {search asked : Search} {commands : List Command}
      (hphase : start.phase = .searching searches) (hsearch : searches[slot]? = some search)
      (hchecking : search.phase = .checking)
      (hasked : if start.fleet.rootFired then asked.phase = .lost .cancelled
        else asked.phase = .asking)
      (hcommands : commands = [] ∨ ∃ config, commands = [.query slot config]) :
      Stride start (.attempt slot) commands
        { start with phase := .searching (searches.set slot asked) }
  /-- A member has answered, and the search goes on. -/
  | hear {slot : Nat} {searches : List Search} {search : Search} {member : Member}
      {outcome : Except ProbeFault StatusReport} (hphase : start.phase = .searching searches)
      (hsearch : searches[slot]? = some search) (hasking : search.phase = .asking)
      (hmember : start.fleet.member? slot = some member) :
      Stride start (.answered slot (.reply outcome)) []
        { start with
          fleet := start.fleet.changeMember slot fun _ =>
            (search.take start.plan start.fleet.clock.instant member outcome).2
          phase := .searching (searches.set slot
            (search.take start.plan start.fleet.clock.instant member outcome).1) }
  /-- The last member has named a leader. -/
  | complete {slot : Nat} {searches : List Search} {search : Search} {member : Member}
      {outcome : Except ProbeFault StatusReport} (hphase : start.phase = .searching searches)
      (hsearch : searches[slot]? = some search) (hasking : search.phase = .asking)
      (hmember : start.fleet.member? slot = some member)
      (hall : ∀ other ∈ searches.set slot
        (search.take start.plan start.fleet.clock.instant member outcome).1, other.phase = .found) :
      Stride start (.answered slot (.reply outcome)) []
        { start with
          fleet := { start.fleet.changeMember slot fun _ =>
            (search.take start.plan start.fleet.clock.instant member outcome).2 with
            slots := start.handles.map some }
          phase := .started }
  /-- The pause of a search is over. -/
  | rest {slot : Nat} {due : Nanos} {searches : List Search} {search : Search}
      (hphase : start.phase = .searching searches) (hsearch : searches[slot]? = some search)
      (hresting : search.phase = .resting due) :
      Stride start (.rested slot) []
        { start with phase := .searching (searches.set slot { search with phase := .checking }) }

/-- An answer to a search is told aside of the start. -/
theorem aside_take {fleet : Fleet} {slot : Nat} {member : Member} (search : Search)
    (plan : SearchPlan) (now : Nanos) (outcome : Except ProbeFault StatusReport)
    (hmember : fleet.member? slot = some member) :
    fleet.Aside (fleet.changeMember slot fun _ => (search.take plan now member outcome).2) := by
  refine .changeMember fun old hold => ?_
  obtain rfl := Option.some.inj (hmember.symm.trans hold)
  exact search.standing_take plan now member outcome

namespace Stride

variable {start next : Bootstrap} {event : StartEvent} {commands : List Command}

theorem awaitReady_not_mem_undo (base : Bootstrap) (error : Error) (slot : Nat)
    (handle : Handle) : .awaitReady slot handle ∉ (base.undo error).2 := by
  unfold undo
  split
  next => simp
  next =>
    intro hmem
    obtain ⟨commands, hcommands, hmem⟩ := List.mem_flatten.mp hmem
    obtain ⟨⟨torn, place⟩, -, rfl⟩ := List.mem_map.mp hcommands
    simp [teardown] at hmem

/-- A start that is undone falls, whatever it did to the records before. -/
theorem of_undo {base : Bootstrap} {error : Error}
    (hcommands : ∀ slot handle, .awaitReady slot handle ∈ commands →
      .awaitReady slot handle ∈ (base.undo error).2)
    (hroot : base.fleet.rootDir = start.fleet.rootDir)
    (hfiles : base.fleet.files = start.fleet.files) :
    Stride start event commands (base.undo error).1 := by
  have hnone : ∀ slot handle, .awaitReady slot handle ∉ commands := fun slot handle hmem =>
    awaitReady_not_mem_undo base error slot handle (hcommands slot handle hmem)
  unfold undo
  split
  next =>
    refine .fall rfl hnone hroot (fun _ _ => ?_) rfl fun hup => absurd rfl (hup error)
    rw [← hroot, ← hfiles]
  next => exact .fall rfl hnone hroot (fun _ hphase => by simp at hphase) rfl fun _ => hfiles

theorem files_markReady (fleet : Fleet) (slot : Nat) (outcome : Except Error Unit) :
    (markReady fleet slot outcome).files = fleet.files ∧
      (markReady fleet slot outcome).rootDir = fleet.rootDir := by
  cases outcome <;> exact ⟨rfl, rfl⟩

/-- Searches go on, have failed, or all have found a leader. -/
theorem settleSearching_cases (base : Bootstrap) (searches : List Search) :
    base.settleSearching searches = ({ base with phase := .searching searches }, []) ∨
      (∃ error, base.settleSearching searches = base.undo error) ∨
      ((∀ search ∈ searches, search.phase = .found) ∧
        base.settleSearching searches =
          ({ base with
            fleet := { base.fleet with slots := base.handles.map some }
            phase := .started }, [])) := by
  unfold settleSearching
  dsimp only
  split
  next hended =>
    split
    next error _ => exact .inr (.inl ⟨error, rfl⟩)
    next hfirst =>
      refine .inr (.inr ⟨fun search hmem => ?_, rfl⟩)
      have hok := eq_ok_of_settled hended hfirst (List.mem_map_of_mem hmem)
      unfold Search.outcome? at hok
      split at hok
      next hphase => exact hphase
      next => simp at hok
      next => simp at hok
  next => exact .inl rfl

/-- A wait goes on, has failed, or is over because all that was waited for is ready. -/
theorem settleAwaiting_cases (base : Bootstrap) (outcomes : List (Option (Except Error Unit))) :
    base.settleAwaiting outcomes = ({ base with phase := .awaiting outcomes }, []) ∧
        ¬ outcomes.all Option.isSome ∨
      (∃ error, base.settleAwaiting outcomes = base.undo error) ∨
      ((∀ outcome ∈ outcomes, outcome = some (.ok ())) ∧
        ∃ due, base.settleAwaiting outcomes = ({ base with phase := .settling due }, [])) := by
  unfold settleAwaiting
  split
  next hknown =>
    split
    next error _ => exact .inr (.inl ⟨error, rfl⟩)
    next hfirst =>
      exact .inr (.inr ⟨fun outcome hmem => eq_ok_of_settled hknown hfirst hmem, _, rfl⟩)
  next hopen => exact .inl ⟨rfl, hopen⟩

theorem of_onLaunched {outcome : Except Error MemberConfig}
    (hstep : start.onLaunched outcome = some (next, commands)) :
    Stride start (.launched outcome) commands next := by
  unfold onLaunched at hstep
  split at hstep
  next config todo hphase =>
    cases outcome with
    | error error =>
        obtain ⟨rfl, rfl⟩ := Prod.mk.inj (Option.some.inj hstep)
        exact of_undo (fun _ _ => id) rfl rfl
    | ok canonical =>
        obtain ⟨rfl, rfl⟩ := Prod.mk.inj (Option.some.inj hstep)
        cases todo with
        | nil => exact .muster hphase
        | cons following todo => exact .launch hphase
  next => simp at hstep

theorem of_onReady {slot : Nat} {outcome : Except Error Unit}
    (hstep : start.onReady slot outcome = some (next, commands)) :
    Stride start (.ready slot outcome) commands next := by
  unfold onReady at hstep
  split at hstep
  next outcomes hphase =>
    split at hstep
    next hslot =>
      have hsettled := Option.some.inj hstep
      rcases settleAwaiting_cases { start with fleet := markReady start.fleet slot outcome }
        (outcomes.set slot (some outcome)) with
        ⟨hopen, -⟩ | ⟨error, hundone⟩ | ⟨hall, due, hover⟩
      · obtain ⟨rfl, rfl⟩ := Prod.mk.inj (hopen.symm.trans hsettled)
        exact .know hphase hslot
      · obtain ⟨rfl, rfl⟩ := Prod.ext_iff.mp (hundone.symm.trans hsettled)
        obtain ⟨hfiles, hroot⟩ := files_markReady start.fleet slot outcome
        exact of_undo (fun _ _ => id) hroot hfiles
      · obtain ⟨rfl, rfl⟩ := Prod.mk.inj (hover.symm.trans hsettled)
        have hlength : slot < outcomes.length := (List.getElem?_eq_some_iff.mp hslot).1
        obtain rfl : outcome = .ok () :=
          Option.some.inj (hall _ (List.mem_of_getElem? (List.getElem?_set_self hlength)))
        exact .rally hphase hslot hall
    next => simp at hstep
  next => simp at hstep

theorem of_onAttempt {slot : Nat} (hstep : start.onAttempt slot = some (next, commands)) :
    Stride start (.attempt slot) commands next := by
  unfold onAttempt at hstep
  split at hstep
  next searches hphase =>
    simp only [Option.bind_eq_bind, Option.bind_eq_some_iff] at hstep
    obtain ⟨search, hsearch, member, -, hstep⟩ := hstep
    split at hstep
    next => simp at hstep
    next hchecking =>
      have hchecking : search.phase = .checking := Decidable.not_not.mp hchecking
      split at hstep
      next =>
        obtain ⟨rfl, rfl⟩ := Prod.mk.inj (Option.some.inj hstep)
        exact .unwind hphase rfl
      next asked hattempt =>
        obtain ⟨rfl, rfl⟩ := Prod.mk.inj (Option.some.inj hstep)
        have hasked : if start.fleet.rootFired then asked.phase = .lost .cancelled
            else asked.phase = .asking := by
          unfold Search.attempt at hattempt
          split at hattempt
          next hroot =>
            rw [if_pos hroot, ← Except.ok.inj hattempt]
          next hroot =>
            rw [if_neg hroot]
            cases hcount : Number.addWithin Search.attemptBits search.attempts 1 with
            | error overflow => simp [hcount, bind, Except.bind] at hattempt
            | ok attempts =>
                simp only [hcount, bind, Except.bind, pure, Except.pure] at hattempt
                rw [← Except.ok.inj hattempt]
        rcases settleSearching_cases start (searches.set slot asked) with
          hopen | ⟨error, hundone⟩ | ⟨hall, -⟩
        · rw [hopen, List.append_nil]
          refine .ask hphase hsearch hchecking hasked ?_
          split
          next => exact .inr ⟨_, rfl⟩
          next => exact .inl rfl
        · rw [hundone]
          refine of_undo (fun slot handle hmem => (List.mem_append.mp hmem).resolve_left ?_) rfl rfl
          split <;> simp
        · -- The search that has just begun has not found anything.
          have hfound := hall asked (List.mem_of_getElem?
            (List.getElem?_set_self (List.getElem?_eq_some_iff.mp hsearch).1))
          split at hasked <;> simp [hfound] at hasked
  next => simp at hstep

theorem of_onAnswered {slot : Nat} {answer : Answer StatusReport}
    (hstep : start.onAnswered slot answer = some (next, commands)) :
    Stride start (.answered slot answer) commands next := by
  unfold onAnswered at hstep
  split at hstep
  next searches hphase =>
    simp only [Option.bind_eq_bind, Option.bind_eq_some_iff] at hstep
    obtain ⟨search, hsearch, member, hmember, hstep⟩ := hstep
    split at hstep
    next => simp at hstep
    next hasking =>
      have hasking : search.phase = .asking := Decidable.not_not.mp hasking
      cases answer with
      | unwound text =>
          obtain ⟨rfl, rfl⟩ := Prod.mk.inj (Option.some.inj hstep)
          exact .unwind hphase rfl
      | reply outcome =>
          have hsettled := Option.some.inj hstep
          rcases settleSearching_cases
            { start with
              fleet := start.fleet.changeMember slot fun _ =>
                (search.take start.plan start.fleet.clock.instant member outcome).2 }
            (searches.set slot
              (search.take start.plan start.fleet.clock.instant member outcome).1) with
            hopen | ⟨error, hundone⟩ | ⟨hall, hover⟩
          · obtain ⟨rfl, rfl⟩ := Prod.mk.inj (hopen.symm.trans hsettled)
            exact .hear hphase hsearch hasking hmember
          · obtain ⟨rfl, rfl⟩ := Prod.ext_iff.mp (hundone.symm.trans hsettled)
            exact of_undo (fun _ _ => id) rfl rfl
          · obtain ⟨rfl, rfl⟩ := Prod.mk.inj (hover.symm.trans hsettled)
            exact .complete hphase hsearch hasking hmember hall
  next => simp at hstep

theorem of_onRested {slot : Nat} (hstep : start.onRested slot = some (next, commands)) :
    Stride start (.rested slot) commands next := by
  unfold onRested at hstep
  split at hstep
  next searches hphase =>
    simp only [Option.bind_eq_bind, Option.bind_eq_some_iff] at hstep
    obtain ⟨search, hsearch, hstep⟩ := hstep
    split at hstep
    next hresting =>
      split at hstep
      next => simp at hstep
      next =>
        obtain ⟨rfl, rfl⟩ := Prod.mk.inj (Option.some.inj hstep)
        exact .rest hphase hsearch hresting
    next => simp at hstep
  next => simp at hstep

theorem of_onAbandoned (hstep : start.onAbandoned = some (next, commands)) :
    Stride start .abandoned commands next := by
  unfold onAbandoned at hstep
  split at hstep
  next =>
    split at hstep
    next outcomes hphase =>
      have hsettled := Option.some.inj hstep
      rcases settleAwaiting_cases start
        (outcomes.map fun outcome => some (outcome.getD (.error .cancelled))) with
        ⟨-, hopen⟩ | ⟨error, hundone⟩ | ⟨hall, due, hover⟩
      · -- Whoever gives up knows the outcome of every wait.
        refine absurd (List.all_eq_true.mpr fun outcome hmem => ?_) hopen
        obtain ⟨known, -, rfl⟩ := List.mem_map.mp hmem
        rfl
      · obtain ⟨rfl, rfl⟩ := Prod.ext_iff.mp (hundone.symm.trans hsettled)
        exact of_undo (fun _ _ => id) rfl rfl
      · obtain ⟨rfl, rfl⟩ := Prod.mk.inj (hover.symm.trans hsettled)
        refine .release hphase fun outcome hmem => ?_
        have hok := hall _ (List.mem_map_of_mem hmem)
        cases outcome with
        | none => simp at hok
        | some result => exact hok
    next =>
      obtain ⟨rfl, rfl⟩ := Prod.ext_iff.mp (Option.some.inj hstep)
      exact of_undo (fun _ _ => id) rfl rfl
    next =>
      obtain ⟨rfl, rfl⟩ := Prod.ext_iff.mp (Option.some.inj hstep)
      exact of_undo (fun _ _ => id) rfl rfl
    next => simp at hstep
  next => simp at hstep

theorem of_onEnded {handle : Handle} (hstep : start.onEnded handle = some (next, commands)) :
    Stride start (.ended handle) commands next := by
  unfold onEnded at hstep
  split at hstep
  next =>
    split at hstep
    next =>
      split at hstep
      next =>
        obtain ⟨rfl, rfl⟩ := Prod.mk.inj (Option.some.inj hstep)
        exact .fall rfl (by simp) rfl (fun _ _ => rfl) rfl fun hup => absurd rfl (hup _)
      next =>
        obtain ⟨rfl, rfl⟩ := Prod.mk.inj (Option.some.inj hstep)
        exact .fall rfl (by simp) rfl (fun _ hfailed => by simp at hfailed) rfl fun _ => rfl
    next => simp at hstep
  next => simp at hstep

end Stride

theorem stride_of_step? {start next : Bootstrap} {event : StartEvent} {commands : List Command}
    (hstep : start.step? event = some (next, commands)) : Stride start event commands next := by
  cases event with
  | outside outer =>
      simp only [step?, Option.map_eq_some_iff, Prod.mk.injEq] at hstep
      obtain ⟨fleet, houtside, rfl, rfl⟩ := hstep
      exact .outside houtside
  | launched outcome => exact .of_onLaunched hstep
  | ready slot outcome => exact .of_onReady hstep
  | settled =>
      unfold step? at hstep
      dsimp only at hstep
      split at hstep
      next due hphase =>
        split at hstep
        next => simp at hstep
        next =>
          obtain ⟨rfl, rfl⟩ := Prod.mk.inj (Option.some.inj hstep)
          exact .seek hphase
      next => simp at hstep
  | attempt slot => exact .of_onAttempt hstep
  | answered slot answer => exact .of_onAnswered hstep
  | rested slot => exact .of_onRested hstep
  | abandoned => exact .of_onAbandoned hstep
  | ended handle => exact .of_onEnded hstep

end Bootstrap

end FleetControl
