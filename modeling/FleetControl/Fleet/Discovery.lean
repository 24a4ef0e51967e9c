import FleetControl.Fleet.State
import FleetControl.Number.Word

/-!
# Finding a leader

After its start, a member is asked for its status until it knows a leader. Every answer updates the
member's id; the first one that names a leader also its role. Between two questions lies a pause.
The search ends with the first answer that names a leader, with the root signal, or with the last
attempt allowed; where any number is allowed, it goes on until the count of attempts overflows.
-/

namespace FleetControl

open FleetControl.Number

/-- What a search is doing. -/
inductive SearchPhase where
  /-- About to look at the root signal and then ask. -/
  | checking
  /-- Waiting for an answer. -/
  | asking
  /-- Waiting for the next attempt. -/
  | resting (due : Nanos)
  | found
  | lost (error : Error)
deriving DecidableEq, Repr

/-- The search for a leader by one member. -/
structure Search where
  attempts : Nat := 0
  phase : SearchPhase := .checking
deriving DecidableEq, Repr

/-- How often and how quickly a leader is searched for. -/
structure SearchPlan where
  backoff : Nanos
  /-- How often a member is asked; zero stands for any number. -/
  maxAttempts : Nat
deriving DecidableEq, Repr

namespace Search

/-- The bits of the count of attempts. -/
def attemptBits : Nat := 32

/-- Begins an attempt, unless the root signal fired. -/
def attempt (search : Search) (rootFired : Bool) : Except Overflow Search :=
  if rootFired then .ok { search with phase := .lost .cancelled }
  else do
    let attempts ← addWithin attemptBits search.attempts 1
    return { attempts, phase := .asking }

/-- What follows an attempt that did not settle the search. -/
def retry (search : Search) (plan : SearchPlan) (name : String) (now : Nanos) : Search :=
  if 0 < plan.maxAttempts ∧ plan.maxAttempts ≤ search.attempts then
    { search with phase := .lost (.leaderDiscovery name search.attempts) }
  else { search with phase := .resting (now + plan.backoff) }

/-- Takes the outcome of a question, and updates the member that was asked. -/
def take (search : Search) (plan : SearchPlan) (now : Nanos) (member : Member) :
    Except ProbeFault StatusReport → Search × Member
  | .ok report =>
      let member := member.updateStatus (·.discover report)
      if report.hasLeader then ({ search with phase := .found }, member)
      else (search.retry plan member.name now, member)
  | .error fault =>
      if fault.isCancelled then ({ search with phase := .lost .cancelled }, member)
      else (search.retry plan member.name now, member)

/-- The outcome of a search that has ended. -/
def outcome? (search : Search) : Option (Except Error Unit) :=
  match search.phase with
  | .found => some (.ok ())
  | .lost error => some (.error error)
  | _ => none

end Search

end FleetControl
