import FleetControl.Error
import FleetControl.Keyed
import FleetControl.Member.Status

/-!
# Fleet metrics

Two gauges and two counters, each with one series per member and, for the counters, per kind of
event. A series exists once something was recorded in it.
-/

namespace FleetControl

/-- The kinds of structural transitions. -/
inductive TransitionKind where
  | start
  | stop
  | restart
  | shutdown
  /-- A kind known by its label only. -/
  | other (label : String)
deriving DecidableEq, Repr, Inhabited

/-- The label of a kind of transition. -/
def TransitionKind.label : TransitionKind → String
  | .start => "start"
  | .stop => "stop"
  | .restart => "restart"
  | .shutdown => "shutdown"
  | .other label => label

/-- All series recorded so far. -/
structure Metrics where
  /-- The role gauge of each member. -/
  states : Keyed String Nat := []
  /-- The data size gauge of each member. -/
  dbSizes : Keyed String Nat := []
  /-- Failed probes by member and step. -/
  probeFailures : Keyed (String × String) Nat := []
  /-- Transitions by member and kind. -/
  transitions : Keyed (String × String) Nat := []
deriving DecidableEq, Repr, Inhabited

namespace Metrics

/-- The greatest value of a size gauge. -/
def maxDbSize : Nat := 0x7fffffffffffffff

/-- Sets the gauges of a member. Sizes beyond the gauge's range are capped. -/
def recordState (metrics : Metrics) (member : String) (state : MemberState) (dbSize : Nat) :
    Metrics :=
  { metrics with
    states := metrics.states.set member state.gauge
    dbSizes := metrics.dbSizes.set member (min dbSize maxDbSize) }

/-- Counts a failed probe. -/
def recordProbeFailure (metrics : Metrics) (member : String) (stage : ProbeStage) : Metrics :=
  { metrics with
    probeFailures := metrics.probeFailures.modify (member, stage.label) 0 (· + 1) }

/-- Counts a transition. -/
def recordTransition (metrics : Metrics) (member : String) (kind : TransitionKind) : Metrics :=
  { metrics with transitions := metrics.transitions.modify (member, kind.label) 0 (· + 1) }

end Metrics

end FleetControl
