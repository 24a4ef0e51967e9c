import FleetControl.Member.Status
import FleetControl.Network.Client
import FleetControl.Network.Deadline

/-!
# Probes of a member

A probe is up to four calls in a row: a first connection, the status call, a second connection and
the hash call. A status query is the first two of them. Every call has its own deadline and is
abandoned when the root signal fires; the first call that fails ends the probe with its own step.
-/

namespace FleetControl.Network

/-- How a call would go undisturbed: how long it takes, unless it never completes, and how it ends. -/
structure Attempt (α : Type) where
  duration : Option Nanos := some 0
  outcome : Except NetworkFault α

/-- The answer to a status call. -/
structure StatusReply where
  /-- The id in the header of the answer, if it has one. -/
  memberId : Option Nat
  leaderId : Nat
  dbSize : Int
deriving DecidableEq, Repr, Inhabited

/-- The report in the answer to a status call. Without a header there is none; a negative size counts
as zero. -/
def StatusReply.report (reply : StatusReply) : Except NetworkFault StatusReport :=
  match reply.memberId with
  | none => .error (.malformed "header")
  | some memberId => .ok { memberId, leaderId := reply.leaderId, dbSize := reply.dbSize.toNat }

/-- The four calls of a probe as they would go undisturbed. -/
structure ProbeRun where
  firstDial : Attempt Unit
  status : Attempt StatusReply
  secondDial : Attempt Unit
  hash : Attempt Nat

/-- The deadlines of connections and of calls. -/
structure Deadlines where
  dial : Nanos
  call : Nanos
deriving DecidableEq, Repr, Inhabited

/-- The root signal as a call sees it that begins when `elapsed` has passed. -/
def CancelTime.after (cancel : CancelTime) (elapsed : Nanos) : CancelTime := cancel.map (· - elapsed)

/-- The deadline of a step. -/
def Deadlines.of (deadlines : Deadlines) : ProbeStage → Nanos
  | .client | .dial => deadlines.dial
  | .status | .hash => deadlines.call

/-- How far a probe has come: its answer so far, the time that it has taken, and the calls that it
has made. -/
structure Progress (α : Type) where
  answer : Except ProbeFault α
  elapsed : Nanos := 0
  issued : List ProbeStage := []
deriving Repr

/-- The next call of a probe, which is made unless one before it failed. What it answers is joined
with what was answered before; a failure is told with the step. Once the root signal has fired, the
call is given up before it is made. -/
def Progress.call {α β γ : Type} (progress : Progress α) (stage : ProbeStage) (cancel : CancelTime)
    (deadlines : Deadlines) (attempt : Attempt β) (join : α → β → Except NetworkFault γ) :
    Progress γ :=
  match progress.answer with
  | .error fault => { progress with answer := .error fault }
  | .ok before =>
      let signal := cancel.after progress.elapsed
      let (answer, taken) :=
        withDeadline signal (deadlines.of stage) attempt.duration attempt.outcome
      { answer := (answer >>= join before).mapError fun source => ⟨stage, source⟩
        elapsed := progress.elapsed + taken
        issued := progress.issued ++ if signal = some 0 then [] else [stage] }

/-- The first connection of a probe. -/
def ProbeRun.connect (run : ProbeRun) (cancel : CancelTime) (deadlines : Deadlines) :
    Progress Unit :=
  Progress.call { answer := .ok () } .client cancel deadlines run.firstDial fun () () => .ok ()

/-- The status query of a probe. -/
def ProbeRun.queryStatus (run : ProbeRun) (cancel : CancelTime) (deadlines : Deadlines) :
    Progress StatusReport :=
  (run.connect cancel deadlines).call .status cancel deadlines run.status
    fun () reply => reply.report

/-- The second connection of a probe. -/
def ProbeRun.reconnect (run : ProbeRun) (cancel : CancelTime) (deadlines : Deadlines) :
    Progress StatusReport :=
  (run.queryStatus cancel deadlines).call .dial cancel deadlines run.secondDial
    fun status () => .ok status

/-- The full probe. -/
def ProbeRun.probe (run : ProbeRun) (cancel : CancelTime) (deadlines : Deadlines) :
    Progress ProbeReport :=
  (run.reconnect cancel deadlines).call .hash cancel deadlines run.hash
    fun status hash => .ok { status, hash }

/-- A connection to a member where the network refuses every connection: what stands in its way
before that is told first. -/
def refusedDial (files : Files) (config : MemberConfig) : Attempt Unit where
  outcome := do
    checkEndpoint config.clientUrl (← clientTls files config)
    .error .transport

/-- A probe where the network refuses every connection. It ends at its first call. -/
def refusedRun (files : Files) (config : MemberConfig) : ProbeRun where
  firstDial := refusedDial files config
  status := { outcome := .error .transport }
  secondDial := refusedDial files config
  hash := { outcome := .error .transport }

end FleetControl.Network
