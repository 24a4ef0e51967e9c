import FleetControl.Proofs.Fleet.Ledger

/-!
# What a start keeps

Through all phases of a start its ledger stays balanced: every process is in its place until a
failure tears all of them down, and a failed start leaves none behind. A completed start hands over
a fleet whose members all run, each with the process that was launched for it.
-/

namespace FleetControl

open EngineNote

namespace StartPhase

/-- Nothing was torn down yet. -/
def isLive : StartPhase → Bool
  | .undoing .. => false
  | .failed _ => false
  | .launching _ => true
  | .awaiting _ => true
  | .settling _ => true
  | .searching _ => true
  | .unwound _ => true
  | .started => true

/-- The processes that were torn down and have not ended. -/
def alive : StartPhase → List Handle
  | .undoing _ alive => alive
  | _ => []

/-- What a phase says about the members: those that became ready run, and behind the wait for them
all do. -/
def Knows (fleet : Fleet) (handles : List Handle) : StartPhase → Prop
  | .awaiting outcomes =>
      outcomes.length = handles.length ∧
        ∀ slot member, outcomes[slot]? = some (some (.ok ())) →
          fleet.member? slot = some member → member.running = true
  | .settling _ => ∀ slot member, fleet.member? slot = some member → member.running = true
  | .searching _ => ∀ slot member, fleet.member? slot = some member → member.running = true
  | .started =>
      (∀ slot member, fleet.member? slot = some member → member.running = true) ∧
        fleet.slots = handles.map some
  | _ => True

theorem alive_of_isLive {phase : StartPhase} (hlive : phase.isLive = true) :
    phase.alive = [] := by
  cases phase with
  | undoing error alive => exact absurd hlive Bool.false_ne_true
  | launching | awaiting | settling | searching | failed | unwound | started => rfl

/-- What a phase says is not about the snapshots. -/
theorem Knows.aside {before after : Fleet} {handles : List Handle} {phase : StartPhase}
    (hknows : phase.Knows before handles) (haside : before.Aside after) :
    phase.Knows after handles := by
  have hrunning : ∀ slot, (∀ member, before.member? slot = some member →
      member.running = true) → ∀ member, after.member? slot = some member →
      member.running = true := by
    intro slot hbefore member hmember
    obtain ⟨old, hold, hstanding⟩ := haside.exists_member? hmember
    rw [← Member.running_eq hstanding]
    exact hbefore old hold
  cases phase with
  | awaiting outcomes =>
      exact ⟨hknows.1, fun slot member houtcome hmember =>
        hrunning slot (fun old => hknows.2 slot old houtcome) member hmember⟩
  | settling due => exact fun slot => hrunning slot (hknows slot)
  | searching searches => exact fun slot => hrunning slot (hknows slot)
  | started => exact ⟨fun slot => hrunning slot (hknows.1 slot), haside.slots.trans hknows.2⟩
  | launching | undoing | failed | unwound => trivial

end StartPhase

/-- The answer to a search tells only the snapshot. -/
theorem Search.standing_take (search : Search) (plan : SearchPlan) (now : Nanos)
    (member : Member) (outcome : Except ProbeFault StatusReport) :
    (search.take plan now member outcome).2.standing = member.standing := by
  cases outcome with
  | ok report =>
      unfold take
      dsimp only
      split <;> rfl
  | error fault =>
      unfold take
      dsimp only
      split <;> rfl

namespace Bootstrap

/-- What the engine says to a start with an event. -/
def heard (start : Bootstrap) : StartEvent → List EngineNote
  | .launched (.ok _) => [.handed start.handles.length start.fleet.launches]
  | .ended handle => [.ended handle]
  | _ => []

/-- All that passes between a start and the engine. -/
def notes (moments : List (Moment Bootstrap StartEvent)) : List EngineNote :=
  moments.flatMap fun moment => moment.before.heard moment.event ++ ofCommands moment.commands

/-- The processes in their places: all that were launched, until they are torn down. -/
def seats (start : Bootstrap) : List (Option Handle) :=
  if start.phase.isLive then start.handles.map some
  else List.replicate start.handles.length none

/-- The members of a fleet that is being started, before anybody else has a hand in it. -/
structure Fledgling (fleet : Fleet) (interval : Nanos) (size : Nat) : Prop where
  interval_eq : fleet.interval = interval
  size_eq : fleet.members.length = size
  dated : fleet.Dated
  isOpen : fleet.shutDown = false
  watched : fleet.stopFired = false

theorem Fledgling.aside {before after : Fleet} {interval : Nanos} {size : Nat}
    (hfledgling : Fledgling before interval size) (haside : before.Aside after) :
    Fledgling after interval size :=
  ⟨haside.interval.trans hfledgling.interval_eq, haside.size.trans hfledgling.size_eq,
    haside.dated hfledgling.dated, haside.shutDown.trans hfledgling.isOpen,
    haside.stopFired.trans hfledgling.watched⟩

/-- The books of a start, after some notes. -/
structure Kept (interval : Nanos) (notes : List EngineNote) (start : Bootstrap) : Prop where
  ledger : Ledger notes start.fleet.launches start.seats none start.phase.alive
  fledgling : Fledgling start.fleet interval start.handles.length
  knows : start.phase.Knows start.fleet start.handles

namespace Kept

variable {interval : Nanos} {notes : List EngineNote} {start next : Bootstrap}

/-- Before a failure, every process is in its place. -/
theorem liveLedger (kept : Kept interval notes start) (hlive : start.phase.isLive = true) :
    Ledger notes start.fleet.launches (start.handles.map some) none [] := by
  have hledger := kept.ledger
  rwa [StartPhase.alive_of_isLive hlive, seats, if_pos hlive] at hledger

theorem ofLive (hlive : start.phase.isLive = true)
    (hledger : Ledger notes start.fleet.launches (start.handles.map some) none [])
    (hfledgling : Fledgling start.fleet interval start.handles.length)
    (hknows : start.phase.Knows start.fleet start.handles) : Kept interval notes start := by
  refine ⟨?_, hfledgling, hknows⟩
  rwa [StartPhase.alive_of_isLive hlive, seats, if_pos hlive]

/-- A start goes on to another phase that tears nothing down. -/
theorem enter (kept : Kept interval notes start) (hlive : start.phase.isLive = true)
    (phase : StartPhase) (hphase : phase.isLive = true)
    (hknows : phase.Knows start.fleet start.handles) :
    Kept interval notes { start with phase } :=
  .ofLive hphase (kept.liveLedger hlive) kept.fledgling hknows

/-- What goes on aside of the start. -/
theorem aside (kept : Kept interval notes start) {fleet : Fleet}
    (haside : start.fleet.Aside fleet) : Kept interval notes { start with fleet } := by
  refine ⟨?_, kept.fledgling.aside haside, kept.knows.aside haside⟩
  rw [show ({ start with fleet } : Bootstrap).fleet.launches = start.fleet.launches from
    haside.launches]
  exact kept.ledger

/-- A failure tears all processes down at once. -/
theorem undo (kept : Kept interval notes start) (hlive : start.phase.isLive = true)
    (error : Error) :
    Kept interval (notes ++ ofCommands (start.undo error).2) (start.undo error).1 := by
  have hledger := kept.liveLedger hlive
  unfold Bootstrap.undo
  split
  next hhandles =>
    dsimp only
    rw [hhandles] at hledger
    refine ⟨?_, kept.fledgling.aside ⟨rfl, rfl, rfl, rfl, rfl, Nat.le_refl _, rfl, rfl⟩, trivial⟩
    simpa [seats, hhandles, StartPhase.isLive, StartPhase.alive, ofCommands] using hledger
  next =>
    refine ⟨?_, kept.fledgling, trivial⟩
    have htorn := Ledger.tearAll 0 start.handles (by simpa using hledger)
    simpa [seats, StartPhase.isLive, StartPhase.alive] using htorn

/-- The next member is to be launched, or all of them are awaited. -/
theorem launchNext (start : Bootstrap)
    (hledger : Ledger notes start.fleet.launches (start.handles.map some) none [])
    (hfledgling : Fledgling start.fleet interval start.handles.length)
    (todo : List MemberConfig) :
    Kept interval (notes ++ ofCommands (start.launchNext todo).2) (start.launchNext todo).1 := by
  cases todo with
  | cons config rest =>
      have hempty : ∀ handle, (start.handles.map some)[start.handles.length]? ≠
          some (some handle) := by
        simp
      exact .ofLive rfl (hledger.ask hempty) hfledgling trivial
  | nil =>
      have hsilent : ofCommands (start.launchNext []).2 = [] := by
        simp [Bootstrap.launchNext, ofCommands, List.filterMap_map, ofCommand?, Function.comp_def]
      rw [hsilent, List.append_nil]
      refine .ofLive rfl hledger hfledgling ⟨List.length_map .., ?_⟩
      intro slot member houtcome
      rw [List.getElem?_map, Option.map_eq_some_iff] at houtcome
      obtain ⟨handle, -, hnone⟩ := houtcome
      cases hnone

/-- A member that became ready runs. -/
theorem markReady (kept : Kept interval notes start) {outcomes : List (Option (Except Error Unit))}
    (hphase : start.phase = .awaiting outcomes) (slot : Nat) (outcome : Except Error Unit) :
    Kept interval notes
      { start with
        fleet := Bootstrap.markReady start.fleet slot outcome
        phase := .awaiting (outcomes.set slot (some outcome)) } := by
  have hlive : start.phase.isLive = true := by rw [hphase]; rfl
  obtain ⟨hlength, hknows⟩ : StartPhase.Knows start.fleet start.handles (.awaiting outcomes) :=
    hphase ▸ kept.knows
  have hlength : (outcomes.set slot (some outcome)).length = start.handles.length := by
    rw [List.length_set, hlength]
  cases outcome with
  | error error =>
      refine .ofLive rfl (kept.liveLedger hlive) kept.fledgling ⟨hlength, ?_⟩
      intro other member houtcome hmember
      rw [List.getElem?_set] at houtcome
      split at houtcome
      next => simp at houtcome
      next => exact hknows other member houtcome hmember
  | ok =>
      have hdated := kept.fledgling.dated.changeMember slot
        (·.markStarted "started" start.fleet.clock) fun _ => .inl rfl
      refine .ofLive rfl (kept.liveLedger hlive)
        ⟨kept.fledgling.interval_eq, ?_, hdated, kept.fledgling.isOpen, kept.fledgling.watched⟩
        ⟨hlength, ?_⟩
      · exact (start.fleet.size_changeMember ..).trans kept.fledgling.size_eq
      · intro other member houtcome hmember
        have hmember : (start.fleet.changeMember slot
            (·.markStarted "started" start.fleet.clock)).member? other = some member := hmember
        rcases Fleet.member?_changeMember_cases hmember with ⟨-, old, -, rfl⟩ | ⟨hother, hmember⟩
        · rfl
        · rw [List.getElem?_set, if_neg hother] at houtcome
          exact hknows other member houtcome hmember

end Kept

/-- Once every outcome is known and none is a failure, all are successes. -/
theorem eq_ok_of_settled {outcomes : List (Option (Except Error Unit))}
    (hknown : outcomes.all Option.isSome = true)
    (hfirst : ∀ error, ((outcomes.filterMap id).find? fun outcome => !outcome.isOk) ≠
      some (.error error)) {outcome : Option (Except Error Unit)} (hmem : outcome ∈ outcomes) :
    outcome = some (.ok ()) := by
  cases outcome with
  | none => simpa using List.all_eq_true.mp hknown none hmem
  | some result =>
      cases result with
      | ok => rfl
      | error error =>
          have hfound : ((outcomes.filterMap id).find? fun outcome => !outcome.isOk).isSome := by
            rw [List.find?_isSome]
            exact ⟨.error error, by simpa using hmem, rfl⟩
          obtain ⟨found, hfound⟩ := Option.isSome_iff_exists.mp hfound
          cases found with
          | error other => exact absurd hfound (hfirst other)
          | ok => simpa [Except.isOk, Except.toBool] using List.find?_some hfound

namespace Kept

variable {interval : Nanos} {notes : List EngineNote} {start next : Bootstrap}

/-- The wait for all processes goes on, is over, or has failed. -/
theorem settleAwaiting (start : Bootstrap) {outcomes : List (Option (Except Error Unit))}
    (kept : Kept interval notes { start with phase := .awaiting outcomes }) :
    Kept interval (notes ++ ofCommands (start.settleAwaiting outcomes).2)
      (start.settleAwaiting outcomes).1 := by
  unfold Bootstrap.settleAwaiting
  split
  next hknown =>
    split
    next error _ => exact kept.undo rfl error
    next hfirst =>
      dsimp only [ofCommands, List.filterMap_nil]
      rw [List.append_nil]
      refine kept.enter rfl _ rfl fun slot member hmember => ?_
      obtain ⟨hlength, hrunning⟩ := kept.knows
      have hslot : slot < outcomes.length := by
        rw [hlength]
        exact kept.fledgling.size_eq ▸ Fleet.slot_lt hmember
      refine hrunning slot member ?_ hmember
      rw [List.getElem?_eq_getElem hslot,
        eq_ok_of_settled hknown hfirst (List.getElem_mem hslot)]
  next => simpa [ofCommands] using kept

/-- The search goes on, has found a leader for every member, or has failed. -/
theorem settleSearching (start : Bootstrap) {searches : List Search}
    (kept : Kept interval notes { start with phase := .searching searches }) :
    Kept interval (notes ++ ofCommands (start.settleSearching searches).2)
      (start.settleSearching searches).1 := by
  unfold Bootstrap.settleSearching
  dsimp only
  split
  next =>
    split
    next error _ => exact kept.undo rfl error
    next =>
      have hfledgling := kept.fledgling
      dsimp only [ofCommands, List.filterMap_nil]
      rw [List.append_nil]
      exact .ofLive rfl (kept.liveLedger rfl)
        ⟨hfledgling.interval_eq, hfledgling.size_eq, hfledgling.dated, hfledgling.isOpen,
          hfledgling.watched⟩ ⟨kept.knows, rfl⟩
  next => simpa [ofCommands] using kept

/-- The launch of the next member has ended. -/
theorem onLaunched (kept : Kept interval notes start) {outcome : Except Error MemberConfig}
    {commands : List Command} (hstep : start.onLaunched outcome = some (next, commands)) :
    Kept interval (notes ++ start.heard (.launched outcome) ++ ofCommands commands) next := by
  unfold Bootstrap.onLaunched at hstep
  split at hstep
  next config todo hphase =>
    have hlive : start.phase.isLive = true := by rw [hphase]; rfl
    cases outcome with
    | error error =>
        obtain ⟨rfl, rfl⟩ := Prod.mk.inj (Option.some.inj hstep)
        have hheard : start.heard (.launched (.error error)) = [] := rfl
        rw [hheard, List.append_nil]
        exact kept.undo hlive error
    | ok config =>
        obtain ⟨rfl, rfl⟩ := Prod.mk.inj (Option.some.inj hstep)
        have hfledgling := kept.fledgling
        -- Members are launched in order, so the slot of the new process is the first free one.
        have hempty : ∀ handle, (start.handles.map some)[start.handles.length]? ≠
            some (some handle) := by
          simp
        have hledger : Ledger (notes ++ [.handed start.handles.length start.fleet.launches])
            (start.fleet.launches + 1) ((start.handles ++ [start.fleet.launches]).map some)
            none [] := by
          refine ((kept.liveLedger hlive).hand hempty).place (by simp) fun other hother => ?_
          rcases Nat.lt_or_gt_of_ne hother with hlt | hgt
          · rw [List.map_append, List.getElem?_append_left (by simpa using hlt)]
          · rw [List.getElem?_eq_none (by simp; omega), List.getElem?_eq_none (by simp; omega)]
        refine Kept.launchNext
          { start with
            fleet := { start.fleet with
              members := start.fleet.members ++
                [Member.new start.handles.length config start.fleet.clock]
              launches := start.fleet.launches + 1 }
            handles := start.handles ++ [start.fleet.launches] } hledger
          ⟨hfledgling.interval_eq, ?_, ?_, hfledgling.isOpen, hfledgling.watched⟩ todo
        · simp [hfledgling.size_eq]
        · intro slot member hmember
          -- The record of the new member carries the present time; the others are as before.
          rcases List.mem_append.mp (List.mem_of_getElem? hmember) with hold | hnew
          · obtain ⟨other, hother⟩ := List.mem_iff_getElem?.mp hold
            exact hfledgling.dated other member hother
          · rw [List.mem_singleton.mp hnew]
            exact Nat.le_refl _
  next => simp at hstep

/-- A process is ready, or never will be. -/
theorem onReady (kept : Kept interval notes start) {slot : Nat} {outcome : Except Error Unit}
    {commands : List Command} (hstep : start.onReady slot outcome = some (next, commands)) :
    Kept interval (notes ++ ofCommands commands) next := by
  unfold Bootstrap.onReady at hstep
  split at hstep
  next outcomes hphase =>
    split at hstep
    next =>
      have hsettled := Option.some.inj hstep
      have hkept := settleAwaiting
        { start with fleet := Bootstrap.markReady start.fleet slot outcome }
        (kept.markReady hphase slot outcome)
      rwa [hsettled] at hkept
    next => simp at hstep
  next => simp at hstep

/-- A search looks at the root signal and asks. -/
theorem onAttempt (kept : Kept interval notes start) {slot : Nat} {commands : List Command}
    (hstep : start.onAttempt slot = some (next, commands)) :
    Kept interval (notes ++ ofCommands commands) next := by
  unfold Bootstrap.onAttempt at hstep
  split at hstep
  next searches hphase =>
    simp only [Option.bind_eq_bind, Option.bind_eq_some_iff] at hstep
    obtain ⟨search, -, member, -, hstep⟩ := hstep
    split at hstep
    next => simp at hstep
    next =>
      have hlive : start.phase.isLive = true := by rw [hphase]; rfl
      have hknows : StartPhase.Knows start.fleet start.handles (.searching searches) :=
        hphase ▸ kept.knows
      split at hstep
      next =>
        obtain ⟨rfl, rfl⟩ := Prod.mk.inj (Option.some.inj hstep)
        simpa [ofCommands] using kept.enter hlive (.unwound _) rfl trivial
      next search' _ =>
        obtain ⟨rfl, rfl⟩ := Prod.mk.inj (Option.some.inj hstep)
        have hkept := settleSearching start
          (kept.enter hlive (.searching (searches.set slot search')) rfl hknows)
        have hsilent : ofCommands
            (if search'.phase = .asking then [.query slot member.config] else []) = [] := by
          split <;> rfl
        rwa [ofCommands_append, hsilent, List.nil_append]
  next => simp at hstep

/-- A member has answered, or its prober has unwound. -/
theorem onAnswered (kept : Kept interval notes start) {slot : Nat} {answer : Answer StatusReport}
    {commands : List Command} (hstep : start.onAnswered slot answer = some (next, commands)) :
    Kept interval (notes ++ ofCommands commands) next := by
  unfold Bootstrap.onAnswered at hstep
  split at hstep
  next searches hphase =>
    simp only [Option.bind_eq_bind, Option.bind_eq_some_iff] at hstep
    obtain ⟨search, -, member, hmember, hstep⟩ := hstep
    split at hstep
    next => simp at hstep
    next =>
      have hlive : start.phase.isLive = true := by rw [hphase]; rfl
      have hknows : StartPhase.Knows start.fleet start.handles (.searching searches) :=
        hphase ▸ kept.knows
      cases answer with
      | unwound text =>
          obtain ⟨rfl, rfl⟩ := Prod.mk.inj (Option.some.inj hstep)
          simpa [ofCommands] using kept.enter hlive (.unwound _) rfl trivial
      | reply outcome =>
          have haside : start.fleet.Aside (start.fleet.changeMember slot fun _ =>
              (search.take start.plan start.fleet.clock.instant member outcome).2) := by
            refine .changeMember fun current hcurrent => ?_
            obtain rfl := Option.some.inj (hmember.symm.trans hcurrent)
            exact search.standing_take ..
          have hkept := settleSearching _ ((kept.aside haside).enter hlive
            (.searching (searches.set slot
              (search.take start.plan start.fleet.clock.instant member outcome).1)) rfl
            (hknows.aside haside))
          have hsettled := Option.some.inj hstep
          rwa [hsettled] at hkept
  next => simp at hstep

/-- The root signal is seen. -/
theorem onAbandoned (kept : Kept interval notes start) {commands : List Command}
    (hstep : start.onAbandoned = some (next, commands)) :
    Kept interval (notes ++ ofCommands commands) next := by
  unfold Bootstrap.onAbandoned at hstep
  split at hstep
  next =>
    split at hstep
    next outcomes hphase =>
      have hlive : start.phase.isLive = true := by rw [hphase]; rfl
      obtain ⟨hlength, hknows⟩ : StartPhase.Knows start.fleet start.handles (.awaiting outcomes) :=
        hphase ▸ kept.knows
      -- Giving up adds failures only, so the members that are known to run stay the same.
      have hgiven : StartPhase.Knows start.fleet start.handles
          (.awaiting (outcomes.map fun outcome => some (outcome.getD (.error .cancelled)))) := by
        refine ⟨(List.length_map ..).trans hlength, fun slot member houtcome hmember => ?_⟩
        rw [List.getElem?_map, Option.map_eq_some_iff] at houtcome
        obtain ⟨outcome, houtcome, hok⟩ := houtcome
        cases outcome with
        | none => simp at hok
        | some result =>
            obtain rfl := Option.some.inj hok
            exact hknows slot member houtcome hmember
      have hkept := settleAwaiting start (kept.enter hlive _ rfl hgiven)
      rwa [Option.some.inj hstep] at hkept
    next due hphase =>
      have hkept := kept.undo (by rw [hphase]; rfl) .cancelled
      rwa [Option.some.inj hstep] at hkept
    next searches hphase =>
      have hkept := kept.undo (by rw [hphase]; rfl) .cancelled
      rwa [Option.some.inj hstep] at hkept
    next => simp at hstep
  next => simp at hstep

/-- A process has ended. -/
theorem onEnded (kept : Kept interval notes start) {handle : Handle} {commands : List Command}
    (hstep : start.onEnded handle = some (next, commands)) :
    Kept interval (notes ++ [.ended handle] ++ ofCommands commands) next := by
  unfold Bootstrap.onEnded at hstep
  split at hstep
  next error alive hphase =>
    split at hstep
    next hmem =>
      have hledger : Ledger (notes ++ [.ended handle]) start.fleet.launches
          (List.replicate start.handles.length none) none (alive.erase handle) := by
        have hbefore := kept.ledger
        rw [seats, hphase] at hbefore
        exact hbefore.finish hmem
      split at hstep
      next hlast =>
        obtain ⟨rfl, rfl⟩ := Prod.mk.inj (Option.some.inj hstep)
        rw [hlast] at hledger
        dsimp only [ofCommands, List.filterMap_nil]
        rw [List.append_nil]
        exact ⟨hledger, kept.fledgling.aside ⟨rfl, rfl, rfl, rfl, rfl, Nat.le_refl _, rfl, rfl⟩,
          trivial⟩
      next =>
        obtain ⟨rfl, rfl⟩ := Prod.mk.inj (Option.some.inj hstep)
        dsimp only [ofCommands, List.filterMap_nil]
        rw [List.append_nil]
        exact ⟨hledger, kept.fledgling, trivial⟩
    next => simp at hstep
  next => simp at hstep

/-- The books are kept through every step of a start. -/
theorem step? (kept : Kept interval notes start) {event : StartEvent} {commands : List Command}
    (hstep : start.step? event = some (next, commands)) :
    Kept interval (notes ++ start.heard event ++ ofCommands commands) next := by
  cases event with
  | launched outcome => exact kept.onLaunched hstep
  | ended handle => exact kept.onEnded hstep
  | outside event =>
      simp only [Bootstrap.step?, Option.map_eq_some_iff, Prod.mk.injEq] at hstep
      obtain ⟨fleet, houtside, rfl, rfl⟩ := hstep
      simpa [heard, ofCommands] using kept.aside (.outside houtside)
  | ready slot outcome => simpa [heard] using kept.onReady hstep
  | settled =>
      unfold Bootstrap.step? at hstep
      dsimp only at hstep
      split at hstep
      next due hphase =>
        split at hstep
        next => simp at hstep
        next =>
          obtain ⟨rfl, rfl⟩ := Prod.mk.inj (Option.some.inj hstep)
          have hknows : StartPhase.Knows start.fleet start.handles (.settling due) :=
            hphase ▸ kept.knows
          simpa [heard, ofCommands] using
            kept.enter (by rw [hphase]; rfl) (.searching _) rfl hknows
      next => simp at hstep
  | attempt slot => simpa [heard] using kept.onAttempt hstep
  | answered slot answer => simpa [heard] using kept.onAnswered hstep
  | rested slot =>
      simp only [Bootstrap.step?] at hstep
      unfold onRested at hstep
      split at hstep
      next searches hphase =>
        have hknows : StartPhase.Knows start.fleet start.handles (.searching searches) :=
          hphase ▸ kept.knows
        simp only [Option.bind_eq_bind, Option.bind_eq_some_iff] at hstep
        obtain ⟨search, -, hstep⟩ := hstep
        split at hstep
        next =>
          split at hstep
          next => simp at hstep
          next =>
            obtain ⟨rfl, rfl⟩ := Prod.mk.inj (Option.some.inj hstep)
            have hkept := kept.enter (by rw [hphase]; rfl)
              (.searching (searches.set slot { search with phase := .checking })) rfl
              hknows
            simpa [heard, ofCommands] using hkept
        next => simp at hstep
      next => simp at hstep
  | abandoned => simpa [heard] using kept.onAbandoned hstep

/-- Before the first launch there is nothing to keep. -/
theorem opening (hinterval : start.fleet.interval = interval) (hhandles : start.handles = [])
    (hmembers : start.fleet.members = []) (hlaunches : start.fleet.launches = 0)
    (hopen : start.fleet.shutDown = false) (hwatched : start.fleet.stopFired = false)
    (todo : List MemberConfig) :
    Kept interval (ofCommands (start.launchNext todo).2) (start.launchNext todo).1 := by
  have hledger : Ledger [] start.fleet.launches (start.handles.map some) none [] := by
    rw [hlaunches, hhandles]
    exact .blank (by simp)
  refine Kept.launchNext start hledger ⟨hinterval, ?_, ?_, hopen, hwatched⟩ todo
  · rw [hmembers, hhandles]
    rfl
  · intro slot member hmember
    simp [Fleet.member?, hmembers] at hmember

/-- A start begins with balanced books. -/
theorem begin {settings : FleetSettings} {token : String} {files after : Files} {clock : Clock}
    {rootFired : Bool} {opening : List Command}
    (hbegin : Bootstrap.begin settings token files clock rootFired =
      (after, .ok (start, opening))) :
    Kept settings.fleet.stopStartInterval (ofCommands opening) start := by
  unfold Bootstrap.begin at hbegin
  split at hbegin
  next => simp at hbegin
  next =>
    split at hbegin
    next => simp at hbegin
    next configs _ =>
      split at hbegin
      next => simp at hbegin
      next =>
        obtain ⟨rfl, hnext⟩ := Prod.mk.inj hbegin
        obtain ⟨rfl, rfl⟩ := Prod.ext_iff.mp (Except.ok.inj hnext)
        refine Kept.opening ?_ ?_ ?_ ?_ ?_ ?_ configs <;> rfl

/-- The books are kept all along a start. -/
theorem course {first : Bootstrap} {moments : List (Moment Bootstrap StartEvent)}
    (kept : Kept interval notes first) (hcourse : Course Bootstrap.step? first moments start) :
    Kept interval (notes ++ Bootstrap.notes moments) start := by
  induction hcourse with
  | start => simpa [Bootstrap.notes] using kept
  | next _ hstep ih => simpa [Bootstrap.notes] using ih.step? hstep

end Kept

end Bootstrap

/-- A fleet as a completed start with these settings leaves it. -/
def Started (settings : FleetSettings) (fleet : Fleet) : Prop :=
  ∃ token files after clock rootFired first opening begun start,
    Bootstrap.begin settings token files clock rootFired = (after, .ok (first, opening)) ∧
    Course Bootstrap.step? first begun start ∧ start.phase = .started ∧ start.fleet = fleet

namespace Started

variable {settings : FleetSettings} {fleet : Fleet}

theorem exists_kept (hstarted : Started settings fleet) :
    ∃ notes start, Bootstrap.Kept settings.fleet.stopStartInterval notes start ∧
      start.phase = .started ∧ start.fleet = fleet := by
  obtain ⟨token, files, after, clock, rootFired, first, opening, begun, start, hbegin, hcourse,
    hphase, hfleet⟩ := hstarted
  exact ⟨_, start, (Bootstrap.Kept.begin hbegin).course hcourse, hphase, hfleet⟩

theorem fledgling (hstarted : Started settings fleet) :
    Bootstrap.Fledgling fleet settings.fleet.stopStartInterval fleet.members.length := by
  obtain ⟨notes, start, kept, -, rfl⟩ := hstarted.exists_kept
  exact kept.fledgling.size_eq ▸ kept.fledgling

/-- All members of a fleet that was just started run. -/
theorem running (hstarted : Started settings fleet) {slot : Nat} {member : Member}
    (hmember : fleet.member? slot = some member) : member.running = true := by
  obtain ⟨notes, start, kept, hphase, rfl⟩ := hstarted.exists_kept
  have hknows : StartPhase.Knows start.fleet start.handles .started := hphase ▸ kept.knows
  exact hknows.1 slot member hmember

/-- All of them have their processes. -/
theorem process? (hstarted : Started settings fleet) {slot : Nat} {member : Member}
    (hmember : fleet.member? slot = some member) : ∃ handle, fleet.process? slot = some handle := by
  obtain ⟨notes, start, kept, hphase, rfl⟩ := hstarted.exists_kept
  have hknows : StartPhase.Knows start.fleet start.handles .started := hphase ▸ kept.knows
  have hslot : slot < start.handles.length :=
    kept.fledgling.size_eq ▸ Fleet.slot_lt hmember
  refine ⟨start.handles[slot], ?_⟩
  rw [Fleet.process?, hknows.2, List.getElem?_map, List.getElem?_eq_getElem hslot]
  rfl

end Started

end FleetControl
