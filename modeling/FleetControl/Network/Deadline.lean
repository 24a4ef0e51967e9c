import FleetControl.Error

/-!
# Deadlines

A call to a member runs until it completes, its deadline passes or the root signal fires, whichever
comes first. Times are counted from the start of the call. A root signal that fired before the call
wins over everything; a call that completes exactly at its deadline completes.
-/

namespace FleetControl.Network

/-- When the root signal fires relative to the start of a call, if it ever does. Zero stands for a
signal that had fired before. -/
abbrev CancelTime := Option Nanos

/-- Whether the root signal comes before `moment`. A signal that had fired before the call comes
before everything. -/
def CancelTime.precedes (cancel : CancelTime) (moment : Nanos) : Bool :=
  match cancel with
  | none => false
  | some c => c = 0 || c < moment

/-- Runs a call that takes `duration` and then gives `outcome`, under a deadline and the root
signal. The answer comes with the time it took. A call that never completes has no duration. -/
def withDeadline {α : Type} (cancel : CancelTime) (deadline : Nanos) (duration : Option Nanos)
    (outcome : Except NetworkFault α) : Except NetworkFault α × Nanos :=
  let (undisturbed, finish) :=
    match duration with
    | some d => if d ≤ deadline then (outcome, d) else (.error (.timeout deadline), deadline)
    | none => (.error (.timeout deadline), deadline)
  match cancel with
  | some c => if cancel.precedes finish then (.error .cancelled, c) else (undisturbed, finish)
  | none => (undisturbed, finish)

/-- Sleeps unless the root signal fires first. The answer is whether the sleep was undisturbed, and
the time it took. -/
def sleepOrCancelled (cancel : CancelTime) (span : Nanos) : Bool × Nanos :=
  match cancel with
  | some c => if cancel.precedes span then (false, c) else (true, span)
  | none => (true, span)

end FleetControl.Network
