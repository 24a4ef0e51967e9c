import FleetControl.Metrics.Store

/-!
# Exposition of the metrics

The text in which the metrics are served: for each family that has a series, its help line, its
type line and one line per series. Families are sorted by name and series by the values of their
labels, which themselves are sorted by label name. Values pass through double precision.
-/

namespace FleetControl.Metrics

open FleetControl.Number

/-- One line of a family: labels in order, and the value. -/
structure Series where
  labels : List (String × String)
  value : Nat
deriving DecidableEq, Repr

/-- A family of series. -/
structure Family where
  name : String
  help : String
  type : String
  series : List Series
deriving DecidableEq, Repr

/-- A label value inside quotes. -/
def labelText (value : String) : String :=
  String.join (value.toList.map fun c =>
    if c = '\\' then "\\\\" else if c = '\n' then "\\n" else if c = '"' then "\\\"" else c.toString)

/-- The line of a series. -/
def Series.line (name : String) (series : Series) : String :=
  let labels := series.labels.map fun label => label.1 ++ "=\"" ++ labelText label.2 ++ "\""
  name ++ "\x7b" ++ ",".intercalate labels ++ "\x7d " ++ (Binary64.ofNat series.value).text

/-- Whether the label values of one series do not come after those of another. -/
def Series.le (a b : Series) : Bool :=
  go (a.labels.map (·.2)) (b.labels.map (·.2))
where
  /-- Compares two lists of texts in dictionary order. -/
  go : List String → List String → Bool
    | [], _ => true
    | _, [] => false
    | x :: xs, y :: ys => if x = y then go xs ys else x < y

/-- The families of a store, sorted by name. -/
def families (metrics : Metrics) : List Family :=
  let gauge (entries : Keyed String Nat) : List Series :=
    entries.map fun (member, value) => ⟨[("member", member)], value⟩
  [ { name := "fleet_member_db_size_bytes", type := "gauge"
      help := "Backend database size reported by the member"
      series := gauge metrics.dbSizes },
    { name := "fleet_member_state", type := "gauge"
      help := "Observed member state (0 stopped, 1 follower, 2 leader)"
      series := gauge metrics.states },
    { name := "fleet_probe_failures_total", type := "counter"
      help := "Failed probe rounds by failing step"
      series := metrics.probeFailures.map fun ((member, stage), count) =>
        ⟨[("member", member), ("stage", stage)], count⟩ },
    { name := "fleet_transitions_total", type := "counter"
      help := "Stop and start transitions applied to members"
      series := metrics.transitions.map fun ((member, kind), count) =>
        ⟨[("kind", kind), ("member", member)], count⟩ } ]

/-- The series lines of a family under its full name. -/
def Family.sampleLines (family : Family) (name : String) : List String :=
  (family.series.mergeSort Series.le).map (Series.line name)

/-- The series lines of all families. -/
def sampleLines (metrics : Metrics) : List String :=
  metrics.families.flatMap fun family => family.sampleLines family.name

/-- The served text. Names are preceded by the prefix and an underscore, if there is one. -/
def exposition (metrics : Metrics) (namePrefix : Option String) : String :=
  let blocks := metrics.families.filter (·.series ≠ []) |>.map fun family =>
    let name := (namePrefix.elim "" (· ++ "_")) ++ family.name
    ["# HELP " ++ name ++ " " ++ family.help, "# TYPE " ++ name ++ " " ++ family.type] ++
      family.sampleLines name
  String.join (blocks.flatten.map (· ++ "\n"))

end FleetControl.Metrics
