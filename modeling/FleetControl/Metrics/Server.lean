import FleetControl.Error
import FleetControl.Metrics.Exposition

/-!
# Serving the metrics

The one resource of the exporter. Requests are told apart by their path only: any method is
answered, a query is ignored, and a slash at the end makes no difference.
-/

namespace FleetControl.Metrics

/-- The answer to a request. -/
structure Response where
  status : Nat
  body : String
deriving DecidableEq, Repr

/-- The path of a request target, without its query. -/
def targetPath (target : String) : String :=
  String.ofList (target.toList.takeWhile (· ≠ '?'))

/-- The answer to a request for a target. -/
def respond (metrics : Metrics) (target : String) : Response :=
  if targetPath target ∈ ["/metrics", "/metrics/"] then ⟨200, exposition metrics none⟩ else ⟨404, ""⟩

/-- The answers to requests that are sent to the exporter, if there is a network to send them over. -/
def respondAll (metrics : Metrics) (networked : Bool) (targets : List String) :
    Except IoFault (List Response) :=
  if networked ∨ targets = [] then .ok (targets.map (respond metrics))
  else .error .networkUnreachable

end FleetControl.Metrics
