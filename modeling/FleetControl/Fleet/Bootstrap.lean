import FleetControl.Fleet.Discovery
import FleetControl.Fleet.Layout

/-!
# Starting a fleet

A fleet is started in phases: its settings are checked and its directory prepared, the members are
launched one after the other, all of them are awaited, a pause gives them time to elect a leader,
and then every one is asked until it knows a leader. A failure in any phase tears down what was
launched and removes the directory. Phases that wait for all members report the first failure in
slot order, once all have answered.

The machine takes one event at a time and answers with commands. An event that does not fit the
phase is refused.
-/

namespace FleetControl

/-- What the start of a fleet is doing. -/
inductive StartPhase where
  /-- The first of these configurations is being launched. -/
  | launching (todo : List MemberConfig)
  /-- Every process is awaited; what is known of them, by slot. -/
  | awaiting (outcomes : List (Option (Except Error Unit)))
  /-- Waiting before the first search for a leader. -/
  | settling (due : Nanos)
  | searching (searches : List Search)
  /-- Tearing down after a failure; the processes that have not ended yet. -/
  | undoing (error : Error) (alive : List Handle)
  | failed (error : Error)
  | unwound (text : String)
  | started

/-- The start of a fleet. -/
structure Bootstrap where
  plan : SearchPlan
  fleet : Fleet
  /-- The processes launched so far, in slot order. -/
  handles : List Handle := []
  phase : StartPhase

/-- What happens to the start of a fleet. -/
inductive StartEvent where
  /-- Something that no task of the controller does. -/
  | outside (event : Outside)
  /-- The launch of the next member has ended. -/
  | launched (outcome : Except Error MemberConfig)
  /-- A process accepts connections, or never will. -/
  | ready (slot : Nat) (outcome : Except Error Unit)
  /-- The pause before the search is over. -/
  | settled
  /-- A search looks at the root signal and asks. -/
  | attempt (slot : Nat)
  /-- A member has answered, or its prober has unwound. -/
  | answered (slot : Nat) (answer : Answer StatusReport)
  /-- The pause of a search is over. -/
  | rested (slot : Nat)
  /-- The root signal is seen. -/
  | abandoned
  /-- A process has ended. -/
  | ended (handle : Handle)

namespace Bootstrap

/-- Begins to undo a start. All processes are torn down at once. -/
def undo (start : Bootstrap) (error : Error) : Bootstrap × List Command :=
  match start.handles with
  | [] =>
      let (files, _) := start.fleet.files.removeDirectory start.fleet.rootDir
      ({ start with fleet := { start.fleet with files }, phase := .failed error }, [])
  | handles =>
      ({ start with phase := .undoing error handles },
        (handles.zipIdx.map fun (handle, slot) => teardown slot handle).flatten)

/-- Launches the next member, or awaits all of them once the last one is launched. -/
def launchNext (start : Bootstrap) (todo : List MemberConfig) : Bootstrap × List Command :=
  match todo with
  | config :: _ =>
      ({ start with phase := .launching todo }, [.launch start.handles.length config])
  | [] =>
      ({ start with phase := .awaiting (start.handles.map fun _ => none) },
        start.handles.zipIdx.map fun (handle, slot) => .awaitReady slot handle)

/-- Begins the start of a fleet: checks the settings, lays out the members and prepares the
directory. The files are given as they are afterwards, also if that fails. -/
def begin (settings : FleetSettings) (token : String) (files : Files) (clock : Clock)
    (rootFired : Bool) : Files × Except Stop (Bootstrap × List Command) :=
  match settings.validate with
  | .error stop => (files, .error stop)
  | .ok () =>
      match Layout.memberConfigs settings token with
      | .error stop => (files, .error stop)
      | .ok configs =>
          match files.prepareDirectory settings.fleet.rootDir with
          | (files, .error e) => (files, .error (.error e))
          | (files, .ok ()) =>
              let endpoints := configs.zipIdx.foldl
                (fun index (config, slot) => index.insert config.clientUrl slot) {}
              let fleet : Fleet :=
                { rootDir := settings.fleet.rootDir
                  interval := settings.fleet.stopStartInterval
                  endpoints, files, clock, rootFired }
              let plan : SearchPlan :=
                { backoff := settings.monitor.leaderDiscoveryBackoff
                  maxAttempts := settings.monitor.leaderDiscoveryMaxAttempts.toNat }
              (files, .ok (launchNext { plan, fleet, phase := .launching configs } configs))

/-- Settles the wait for all processes, once every one is known: the search is scheduled, or the
first failure undoes the start. -/
def settleAwaiting (start : Bootstrap) (outcomes : List (Option (Except Error Unit))) :
    Bootstrap × List Command :=
  if outcomes.all Option.isSome then
    match (outcomes.filterMap id).find? fun outcome => !outcome.isOk with
    | some (.error error) => start.undo error
    | _ => ({ start with phase := .settling (start.fleet.clock.instant + start.plan.backoff) }, [])
  else ({ start with phase := .awaiting outcomes }, [])

/-- Settles the search, once every member's search has ended: the fleet is started, or the first
failure undoes the start. -/
def settleSearching (start : Bootstrap) (searches : List Search) : Bootstrap × List Command :=
  let outcomes := searches.map Search.outcome?
  if outcomes.all Option.isSome then
    match (outcomes.filterMap id).find? fun outcome => !outcome.isOk with
    | some (.error error) => start.undo error
    | _ =>
        let fleet := { start.fleet with slots := start.handles.map some }
        ({ start with fleet, phase := .started }, [])
  else ({ start with phase := .searching searches }, [])

/-- A member that became ready is marked started. -/
def markReady (fleet : Fleet) (slot : Nat) (outcome : Except Error Unit) : Fleet :=
  match outcome with
  | .ok () =>
      (fleet.changeMember slot (·.markStarted "started" fleet.clock)).recordTransition slot .start
  | .error _ => fleet

/-- The launch of the next member has ended. -/
def onLaunched (start : Bootstrap) (outcome : Except Error MemberConfig) :
    Option (Bootstrap × List Command) :=
  match start.phase with
  | .launching (_ :: todo) =>
      match outcome with
      | .error error => some (start.undo error)
      | .ok config =>
          let fleet := start.fleet
          let member := Member.new start.handles.length config fleet.clock
          let fleet := { fleet with
            members := fleet.members ++ [member], launches := fleet.launches + 1 }
          some (launchNext
            { start with fleet, handles := start.handles ++ [start.fleet.launches] } todo)
  | _ => none

/-- A process is ready, or never will be. -/
def onReady (start : Bootstrap) (slot : Nat) (outcome : Except Error Unit) :
    Option (Bootstrap × List Command) :=
  match start.phase with
  | .awaiting outcomes =>
      match outcomes[slot]? with
      | some none =>
          some (settleAwaiting { start with fleet := markReady start.fleet slot outcome }
            (outcomes.set slot (some outcome)))
      | _ => none
  | _ => none

/-- A search looks at the root signal and asks. -/
def onAttempt (start : Bootstrap) (slot : Nat) : Option (Bootstrap × List Command) := do
  let .searching searches := start.phase | none
  let search ← searches[slot]?
  let member ← start.fleet.member? slot
  if search.phase ≠ .checking then none
  match search.attempt start.fleet.rootFired with
  | .error overflow => some ({ start with phase := .unwound overflow.message }, [])
  | .ok next =>
      let (after, commands) := settleSearching start (searches.set slot next)
      some (after, (if next.phase = .asking then [.query slot member.config] else []) ++ commands)

/-- A member has answered. A prober that unwinds takes the start with it. -/
def onAnswered (start : Bootstrap) (slot : Nat) (answer : Answer StatusReport) :
    Option (Bootstrap × List Command) := do
  let .searching searches := start.phase | none
  let search ← searches[slot]?
  let member ← start.fleet.member? slot
  if search.phase ≠ .asking then none
  match answer with
  | .unwound text => some ({ start with phase := .unwound text }, [])
  | .reply outcome =>
      let (next, member) := search.take start.plan start.fleet.clock.instant member outcome
      let fleet := start.fleet.changeMember slot fun _ => member
      some (settleSearching { start with fleet } (searches.set slot next))

/-- The pause of a search is over. -/
def onRested (start : Bootstrap) (slot : Nat) : Option (Bootstrap × List Command) := do
  let .searching searches := start.phase | none
  let search ← searches[slot]?
  let .resting due := search.phase | none
  if start.fleet.clock.instant < due then none
  some ({ start with phase := .searching (searches.set slot { search with phase := .checking }) },
    [])

/-- The root signal is seen. A wait for processes gives up on those that are not known yet; a pause
or a search ends at once. -/
def onAbandoned (start : Bootstrap) : Option (Bootstrap × List Command) :=
  if start.fleet.rootFired then
    match start.phase with
    | .awaiting outcomes =>
        some (settleAwaiting start
          (outcomes.map fun outcome => some (outcome.getD (.error .cancelled))))
    | .settling _ => some (start.undo .cancelled)
    | .searching _ => some (start.undo .cancelled)
    | _ => none
  else none

/-- A process has ended. The last one to end completes the undoing. -/
def onEnded (start : Bootstrap) (handle : Handle) : Option (Bootstrap × List Command) :=
  match start.phase with
  | .undoing error alive =>
      if handle ∈ alive then
        match alive.erase handle with
        | [] =>
            let (files, _) := start.fleet.files.removeDirectory start.fleet.rootDir
            some ({ start with fleet := { start.fleet with files }, phase := .failed error }, [])
        | rest => some ({ start with phase := .undoing error rest }, [])
      else none
  | _ => none

/-- Takes one event. -/
def step? (start : Bootstrap) : StartEvent → Option (Bootstrap × List Command)
  | .outside event => (start.fleet.outside? event).map fun fleet => ({ start with fleet }, [])
  | .launched outcome => start.onLaunched outcome
  | .ready slot outcome => start.onReady slot outcome
  | .settled =>
      match start.phase with
      | .settling due =>
          if start.fleet.clock.instant < due then none
          else some ({ start with phase := .searching (start.handles.map fun _ => {}) }, [])
      | _ => none
  | .attempt slot => start.onAttempt slot
  | .answered slot answer => start.onAnswered slot answer
  | .rested slot => start.onRested slot
  | .abandoned => start.onAbandoned
  | .ended handle => start.onEnded handle

end Bootstrap

end FleetControl
