import FleetControl.Files.Step
import FleetControl.Keyed
import FleetControl.Simulation.Surroundings

/-!
# Scripted members

Members that behave as a script says: what the launch of their process does, how long they take,
what they answer. A script can be changed at any time. The members keep a journal of what the
controller does to them and count the questions that they are asked.
-/

namespace FleetControl.Simulation

/-- How a member behaves. -/
structure Script where
  /-- What the launch does to the files before anything else. -/
  files : List FileStep := []
  /-- Why the launch fails. -/
  startError : Option String := none
  /-- Fields of the configuration that the launch gives back. -/
  canonical : Value := .table []
  readyDelay : Nanos := Nanos.ofMillis 10
  /-- Why the process fails to become ready. -/
  readyError : Option String := none
  /-- The process never becomes ready, and never fails to. -/
  neverReady : Bool := false
  endDelay : Nanos := Nanos.ofMillis 10
  /-- The id that the member reports; by default one that follows from its slot. -/
  memberId : Option Nat := none
  dbSize : Nat := 24576
  hash : Nat := 65261
  /-- The leader that the member reports; by default the one that is elected. -/
  leader : Option Nat := none
  /-- How many of the next reports name no leader. -/
  leaderless : Nat := 0
  /-- Why every question fails. -/
  fault : Option ProbeFault := none
  /-- Why every probe fails. -/
  probeFault : Option ProbeFault := none
  probeDelay : Nanos := 0
  /-- The text with which every question unwinds. -/
  unwinds : Option String := none

/-- What happens to a member's process. -/
inductive Incident where
  | start (name : String) (state : InitialClusterState)
  | ready
  | notReady
  | hardStop
  | close
  | terminated
deriving DecidableEq, Repr

/-- A journal entry. -/
structure JournalEntry where
  instant : Nanos
  slot : Nat
  incident : Incident
deriving DecidableEq, Repr

/-- How often a member was asked. -/
structure CallCount where
  status : Nat := 0
  probe : Nat := 0
deriving DecidableEq, Repr

/-- Members with their scripts. -/
structure Ensemble where
  size : Nat
  /-- The script of every slot that has none of its own. -/
  common : Script := {}
  scripts : Keyed Nat Script := []
  /-- The names under which processes were launched. -/
  names : Keyed Nat String := []
  running : List Nat := []
  journal : List JournalEntry := []
  counts : Keyed Nat CallCount := []

/-- The slot that is elected: the lowest one that runs, as long as more than half of the fleet
runs. -/
def elected (running : List Nat) (size : Nat) : Option Nat :=
  if size < running.length * 2 then running.min? else none

/-- The failure of a question to a member that does not run. -/
def unreachableFault : ProbeFault :=
  { stage := .client, source := .timeout (Nanos.ofMillis 500) }

/-- The id of a member that follows from its slot. -/
def memberIdOf (slot : Nat) : Nat := 0x1000 + slot

namespace Ensemble

/-- The script of a slot. -/
def script (cast : Ensemble) (slot : Nat) : Script := (cast.scripts.find? slot).getD cast.common

/-- Gives a slot a script of its own. -/
def setScript (cast : Ensemble) (slot : Nat) (script : Script) : Ensemble :=
  { cast with scripts := cast.scripts.set slot script }

/-- Adds a journal entry. -/
def note (cast : Ensemble) (instant : Nanos) (slot : Nat) (incident : Incident) : Ensemble :=
  { cast with journal := cast.journal ++ [{ instant, slot, incident }] }

/-- Counts a question. -/
def count (cast : Ensemble) (slot : Nat) (full : Bool) : Ensemble :=
  { cast with
    counts := cast.counts.modify slot {} fun count =>
      if full then { count with probe := count.probe + 1 }
      else { count with status := count.status + 1 } }

/-- The id that a slot's member reports. -/
def idOf (cast : Ensemble) (slot : Nat) : Nat :=
  (cast.script slot).memberId.getD (memberIdOf slot)

/-- Launches a process. -/
def launch (cast : Ensemble) (now : Nanos) (files : Files) (slot : Nat) (config : MemberConfig) :
    Ensemble × Files × Except Error MemberConfig :=
  let script := cast.script slot
  let cast := cast.note now slot (.start config.name config.initialClusterState)
  let cast := { cast with names := cast.names.set slot config.name }
  let files := FileStep.performAll files script.files
  match script.startError with
  | some text => (cast, files, .error (.engineStart config.name (.engine text)))
  | none =>
      (cast, files, .ok
        ((MemberConfig.ofValue? (config.toValue.overlay script.canonical)).getD config))

/-- How long a process takes to become ready, and whether it does. -/
def ready (cast : Ensemble) (slot : Nat) : Option Nanos × Except Error Unit :=
  let script := cast.script slot
  let name := (cast.names.find? slot).getD ""
  (if script.neverReady then none else some script.readyDelay,
    match script.readyError with
    | some reason => .error (.engineNotReady name reason)
    | none => .ok ())

/-- A process has become ready, or has failed to. -/
def readied (cast : Ensemble) (now : Nanos) (slot : Nat) : Except Error Unit → Ensemble
  | .ok () => { cast.note now slot .ready with running := slot :: cast.running.erase slot }
  | .error _ => cast.note now slot .notReady

/-- A process is stopped at once. -/
def hardStop (cast : Ensemble) (now : Nanos) (slot : Nat) : Ensemble :=
  { cast.note now slot .hardStop with running := cast.running.erase slot }

/-- What a member that runs reports. -/
def report (cast : Ensemble) (slot : Nat) (script : Script) : Ensemble × ProbeReport :=
  let own := cast.script slot
  let answer (leaderId : Nat) : ProbeReport :=
    { status := { memberId := cast.idOf slot, leaderId, dbSize := script.dbSize }
      hash := script.hash }
  if 0 < own.leaderless then
    (cast.setScript slot { own with leaderless := own.leaderless - 1 }, answer 0)
  else
    let chosen := (elected cast.running cast.size).elim 0 cast.idOf
    (cast, answer (script.leader.getD chosen))

/-- The answer of a member whose script said so when it was asked. -/
def respond (slot : Nat) (full : Bool) (script : Script) (cast : Ensemble) :
    Ensemble × Answer ProbeReport :=
  match script.unwinds with
  | some text => (cast, .unwound text)
  | none =>
      match script.fault.or (if full then script.probeFault else none) with
      | some fault => (cast, .reply (.error fault))
      | none =>
          if slot ∈ cast.running then
            let (cast, report) := cast.report slot script
            (cast, .reply (.ok report))
          else (cast, .reply (.error unreachableFault))

/-- Asks a member. -/
def ask (cast : Ensemble) (slot : Nat) (full : Bool) :
    Ensemble × Nanos × (Ensemble → Ensemble × Answer ProbeReport) :=
  let script := cast.script slot
  (cast.count slot full, if full then script.probeDelay else 0, respond slot full script)

/-- Scripted members as surroundings. -/
def surroundings : Surroundings Ensemble where
  launch := launch
  ready := ready
  readied := readied
  hardStop := hardStop
  close cast now slot := cast.note now slot .close
  ending cast slot := (cast.script slot).endDelay
  ended cast now slot := cast.note now slot .terminated
  ask := ask

/-- The journal by time and slot. -/
def sortedJournal (cast : Ensemble) : List JournalEntry :=
  cast.journal.mergeSort fun a b =>
    a.instant < b.instant || (a.instant = b.instant && a.slot ≤ b.slot)

/-- The counts of the questions, by slot. -/
def callCounts (cast : Ensemble) : List CallCount :=
  (List.range cast.size).map fun slot => (cast.counts.find? slot).getD {}

/-- Begins a new journal and new counts. -/
def turnPage (cast : Ensemble) : Ensemble := { cast with journal := [], counts := [] }

end Ensemble

end FleetControl.Simulation
