import FleetControl.Text.RelativeTime

/-!
# What a relative time says

A relative time counts whole units of the distance between two moments, and of the units it takes the
longest that fits. So the distance lies between the count that is named and the next one, in whole
nanoseconds, and a distance has one count and one unit. Which of the two moments is earlier decides
nothing but the last words.
-/

namespace FleetControl.Text

open FleetControl.Number

/-- The number of nanoseconds in a unit. -/
def TimeUnit.nanos (unit : TimeUnit) : Nat := unit.seconds * nanosPerSecond

/-- How many of the unit make up the next longer one. -/
def TimeUnit.inNext? : TimeUnit → Option Nat
  | .second => some 60
  | .minute => some 60
  | .hour => some 24
  | .day => none

/-- So many whole units lie in a distance of so many nanoseconds: at least one, and not enough to
make up the next longer unit. -/
structure Measures (distance count : Nat) (unit : TimeUnit) : Prop where
  least : 1 ≤ count
  lower : count * unit.nanos ≤ distance
  upper : distance < (count + 1) * unit.nanos
  short : ∀ next, unit.inNext? = some next → count < next

/-- The words for a count of units on one side of the present. -/
def phrase (count : Nat) (unit : TimeUnit) (side : String) : String :=
  decimal count ++ " " ++ unit.word ++ (if count = 1 then "" else "s") ++ " " ++ side

variable {distance count seconds : Nat} {unit : TimeUnit}

theorem TimeUnit.seconds_pos (unit : TimeUnit) : 0 < unit.seconds := by
  cases unit <;> decide

theorem nanosPerSecond_pos : 0 < nanosPerSecond := by decide

/-- The unit of a number of seconds is the one that they hold and of which they do not make up the
next. -/
theorem ofSeconds_eq_iff (hseconds : 1 ≤ seconds) :
    TimeUnit.ofSeconds seconds = unit ↔
      unit.seconds ≤ seconds ∧
        ∀ next, unit.inNext? = some next → seconds < next * unit.seconds := by
  cases unit <;> grind [TimeUnit.ofSeconds, TimeUnit.seconds, TimeUnit.inNext?]

/-- A distance has one count and one unit: those that are found by dividing whole seconds. -/
theorem measures_iff :
    Measures distance count unit ↔
      nanosPerSecond ≤ distance ∧ TimeUnit.ofSeconds (distance / nanosPerSecond) = unit ∧
        distance / nanosPerSecond / unit.seconds = count := by
  have hunit := unit.seconds_pos
  have hnanos : 0 < unit.nanos := Nat.mul_pos hunit nanosPerSecond_pos
  -- Dividing by the second and then by the unit leaves as much as dividing by both.
  have hdivide : distance / nanosPerSecond / unit.seconds = distance / unit.nanos := by
    rw [Nat.div_div_eq_div_mul, Nat.mul_comm]
    rfl
  constructor
  · intro hmeasures
    have hcount : distance / nanosPerSecond / unit.seconds = count :=
      hdivide.trans (Nat.div_eq_of_lt_le hmeasures.lower hmeasures.upper)
    have hhold : unit.seconds ≤ distance / nanosPerSecond :=
      (Nat.div_pos_iff.mp (hcount ▸ hmeasures.least)).2
    have hsecond : 1 ≤ distance / nanosPerSecond := Nat.le_trans hunit hhold
    refine ⟨(Nat.div_pos_iff.mp hsecond).2, ?_, hcount⟩
    rw [ofSeconds_eq_iff hsecond]
    refine ⟨hhold, fun next hnext => ?_⟩
    rw [← Nat.div_lt_iff_lt_mul hunit, hcount]
    exact hmeasures.short next hnext
  · rintro ⟨hsecond, hunitOf, rfl⟩
    have hsecond : 1 ≤ distance / nanosPerSecond := Nat.div_pos hsecond nanosPerSecond_pos
    obtain ⟨hhold, hnext⟩ := (ofSeconds_eq_iff hsecond).mp hunitOf
    exact {
      least := Nat.div_pos hhold hunit
      lower := hdivide ▸ Nat.div_mul_le_self distance unit.nanos
      upper := hdivide ▸ (Nat.div_lt_iff_lt_mul hnanos).mp (Nat.lt_succ_self _)
      short := fun next hlonger => (Nat.div_lt_iff_lt_mul hunit).mpr (hnext next hlonger) }

theorem countOf_append (count : Nat) (unit : TimeUnit) (side : String) :
    countOf count unit ++ " " ++ side = phrase count unit side := by
  unfold countOf phrase
  split
  next hone =>
    subst hone
    have hdecimal : decimal 1 = "1" := by decide
    rw [hdecimal, String.append_empty]
    rfl
  next => rfl

/-- No phrase is the word for the present. -/
theorem phrase_ne_now (count : Nat) (unit : TimeUnit) (side : String) :
    phrase count unit side ≠ "now" := by
  intro hnow
  have hspace : ' ' ∈ (phrase count unit side).toList := by simp [phrase]
  rw [hnow] at hspace
  simp at hspace

theorem relativeTime_of_near {t now : Int} (hnear : (now - t).natAbs < nanosPerSecond) :
    relativeTime t now = "now" := if_pos hnear

theorem relativeTime_of_measures {t now : Int}
    (hmeasures : Measures (now - t).natAbs count unit) :
    relativeTime t now = phrase count unit (if t < now then "ago" else "from now") := by
  obtain ⟨hfar, rfl, rfl⟩ := measures_iff.mp hmeasures
  have hside : t < now ↔ t ≤ now := by
    have hsecond := nanosPerSecond_pos
    omega
  rw [← countOf_append]
  simp only [hside]
  exact if_neg (Nat.not_lt.mpr hfar)

/-- Less than a second away from the present, and only there, a moment is now. Any other moment is
described by the one count and the one unit that its distance has, with an ending unless there is
exactly one, and by the side of the present on which it lies. Seen from the other moment, the words
for the side are the only ones that change. -/
theorem relative_times_bracket_distance (t now : Int) :
    (relativeTime t now = "now" ↔ (now - t).natAbs < nanosPerSecond) ∧
    (nanosPerSecond ≤ (now - t).natAbs → ∃ count unit, Measures (now - t).natAbs count unit) ∧
    ∀ count unit, Measures (now - t).natAbs count unit →
      relativeTime t now = phrase count unit (if t < now then "ago" else "from now") ∧
      relativeTime now t = phrase count unit (if t < now then "from now" else "ago") := by
  have hexists (hfar : nanosPerSecond ≤ (now - t).natAbs) :
      ∃ count unit, Measures (now - t).natAbs count unit :=
    ⟨_, _, measures_iff.mpr ⟨hfar, rfl, rfl⟩⟩
  refine ⟨⟨fun hnow => ?_, relativeTime_of_near⟩, hexists, fun count unit hmeasures => ⟨?_, ?_⟩⟩
  · refine Nat.not_le.mp fun hfar => ?_
    obtain ⟨count, unit, hmeasures⟩ := hexists hfar
    rw [relativeTime_of_measures hmeasures] at hnow
    exact phrase_ne_now _ _ _ hnow
  · exact relativeTime_of_measures hmeasures
  · have hswapped : (t - now).natAbs = (now - t).natAbs := by omega
    rw [relativeTime_of_measures (hswapped ▸ hmeasures)]
    have hapart : now < t ↔ ¬ t < now := by
      have hsecond := nanosPerSecond_pos
      have hfar := (measures_iff.mp hmeasures).1
      omega
    simp only [hapart, ite_not]

/-- A nanosecond before the first minute is over, and seen from the other side. -/
theorem last_second_of_minute :
    nanosPerSecond ≤ 59999999999 ∧ (∃ count unit, Measures 59999999999 count unit) ∧
      Measures 59999999999 59 .second ∧ relativeTime 0 59999999999 = "59 seconds ago" ∧
      relativeTime 59999999999 0 = "59 seconds from now" := by
  have hfar : nanosPerSecond ≤ 59999999999 := by decide
  have hmeasures : Measures 59999999999 59 .second := measures_iff.mpr (by decide)
  have hago : phrase 59 .second "ago" = "59 seconds ago" := by decide
  have hfrom : phrase 59 .second "from now" = "59 seconds from now" := by decide
  obtain ⟨-, hexists, hphrase⟩ := relative_times_bracket_distance 0 59999999999
  obtain ⟨hpast, hfuture⟩ := hphrase 59 .second hmeasures
  exact ⟨hfar, hexists hfar, hmeasures, hpast.trans hago, hfuture.trans hfrom⟩

end FleetControl.Text
