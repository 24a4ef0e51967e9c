import FleetControl.Settings.Basic

/-!
# Which fleets are accepted

A fleet is accepted for its members, its ports, its directory and its host. The check computes where
the ports end before it compares, and it computes with 64-bit words: a size so great that this end
is no word is neither accepted nor refused, but unwinds the task that asked.
-/

namespace FleetControl

open FleetControl.Number FleetControl.Text

namespace FleetSection

/-- A fleet can be started from this: it has a member, every port of it exists, and it has a
directory and a host. -/
structure Startable (fleet : FleetSection) : Prop where
  size : 1 ≤ fleet.size.toNat
  port : 1 ≤ fleet.rootPort.toNat
  lastPort : (fleet.rootPort.toNat : Int) + 2 * fleet.size.toNat - 1 ≤ 65535
  directory : fleet.rootDir ≠ ""
  host : ∃ c ∈ fleet.host.toList, isBlank c = false

/-- The end of the fleet's ports is looked for, and is no 64-bit word. -/
structure Boundless (fleet : FleetSection) : Prop where
  size : 1 ≤ fleet.size.toNat
  port : 1 ≤ fleet.rootPort.toNat
  pastEnd : wordCount 64 ≤ fleet.rootPort.toNat + 2 * fleet.size.toNat

variable {fleet : FleetSection}

/-- The end of few ports is a word. -/
theorem Startable.not_boundless (startable : fleet.Startable) : ¬ fleet.Boundless := by
  intro boundless
  have hword : wordCount 64 = 18446744073709551616 := rfl
  have hlast := startable.lastPort
  have hpast := boundless.pastEnd
  omega

theorem exists_of_isBlankText_eq_false {text : String} (hblank : isBlankText text = false) :
    ∃ c ∈ text.toList, isBlank c = false := by
  simpa [isBlankText] using hblank

theorem isBlankText_eq_false {text : String} {c : Char} (hmem : c ∈ text.toList)
    (hink : isBlank c = false) : isBlankText text = false :=
  List.all_eq_false.mpr ⟨c, hmem, by simp [hink]⟩

theorem one_le_of_size_ne_zero (hsize : fleet.size ≠ 0) : 1 ≤ fleet.size.toNat :=
  Nat.pos_of_ne_zero fun hzero => hsize (UInt64.toNat_inj.mp hzero)

theorem one_le_of_rootPort_ne_zero (hport : fleet.rootPort ≠ 0) : 1 ≤ fleet.rootPort.toNat :=
  Nat.pos_of_ne_zero fun hzero => hport (UInt16.toNat_inj.mp hzero)

/-- The last port is computed exactly while what lies behind it is a word. -/
theorem lastPeerPort_eq_ok_iff {last : Nat} :
    fleet.lastPeerPort = .ok last ↔
      fleet.rootPort.toNat + 2 * fleet.size.toNat < wordCount 64 ∧
        last = fleet.rootPort.toNat + 2 * fleet.size.toNat - 1 := by
  unfold lastPeerPort multiplyWithin addWithin portStride
  by_cases hspan : fleet.size.toNat * 2 < wordCount 64
  · by_cases hpast : fleet.rootPort.toNat + fleet.size.toNat * 2 < wordCount 64
    · rw [if_pos hspan]
      simp only [bind, Except.bind, if_pos hpast, pure, Except.pure, Except.ok.injEq]
      omega
    · rw [if_pos hspan]
      simp only [bind, Except.bind, if_neg hpast, reduceCtorEq, false_iff]
      omega
  · rw [if_neg hspan]
    simp only [bind, Except.bind, reduceCtorEq, false_iff]
    omega

/-- What becomes of a fleet whose settings are checked. -/
inductive Judged (fleet : FleetSection) : Except Stop Unit → Prop where
  | accepted (startable : fleet.Startable) : Judged fleet (.ok ())
  | overflowed (boundless : fleet.Boundless) (overflow : Overflow) :
      Judged fleet (.error (.unwound overflow.message))
  | refused (hunfit : ¬ fleet.Startable) (hbounded : ¬ fleet.Boundless) (reason : String) :
      Judged fleet (.error (.error (.invalidConfig reason)))

theorem judged_validate (fleet : FleetSection) : fleet.Judged fleet.validate := by
  unfold validate
  split
  next hsize =>
    exact .refused (fun startable => by simpa [hsize] using startable.size)
      (fun boundless => by simpa [hsize] using boundless.size) _
  next hsize =>
    have hsize := one_le_of_size_ne_zero hsize
    split
    next hport =>
      exact .refused (fun startable => by simpa [hport] using startable.port)
        (fun boundless => by simpa [hport] using boundless.port) _
    next hport =>
      have hport := one_le_of_rootPort_ne_zero hport
      split
      next overflow hlast =>
        -- No number is the last port, so what lies behind it is no word.
        have hpast : ¬ fleet.rootPort.toNat + 2 * fleet.size.toNat < wordCount 64 := fun hpast => by
          simp [lastPeerPort_eq_ok_iff.mpr ⟨hpast, rfl⟩] at hlast
        exact .overflowed ⟨hsize, hport, by omega⟩ overflow
      next last hlast =>
        obtain ⟨hpast, rfl⟩ := lastPeerPort_eq_ok_iff.mp hlast
        have hbounded : ¬ fleet.Boundless := fun boundless => by
          have := boundless.pastEnd
          omega
        split
        next hlong =>
          refine .refused (fun startable => ?_) hbounded _
          have := startable.lastPort
          omega
        next hshort =>
          split
          next hdirectory =>
            exact .refused (fun startable =>
              startable.directory (String.isEmpty_iff.mp hdirectory)) hbounded _
          next hdirectory =>
            split
            next hhost =>
              refine .refused (fun startable => ?_) hbounded _
              obtain ⟨c, hmem, hink⟩ := startable.host
              simp [isBlankText_eq_false hmem hink] at hhost
            next hhost =>
              exact .accepted ⟨hsize, hport, by omega,
                fun hempty => hdirectory (String.isEmpty_iff.mpr hempty),
                exists_of_isBlankText_eq_false (by simpa using hhost)⟩

/-- Whatever the fleet: it is accepted exactly if it can be started, the check unwinds exactly if
the end of its ports is no 64-bit word, and in every other case it is refused as an invalid
configuration. -/
theorem fleets_are_accepted_refused_or_boundless (fleet : FleetSection) :
    (fleet.validate = .ok () ↔ fleet.Startable) ∧
    ((∃ text, fleet.validate = .error (.unwound text)) ↔ fleet.Boundless) ∧
    ((∃ reason, fleet.validate = .error (.error (.invalidConfig reason))) ↔
      ¬ fleet.Startable ∧ ¬ fleet.Boundless) := by
  have hjudged := fleet.judged_validate
  generalize fleet.validate = verdict at hjudged
  cases hjudged with
  | accepted startable => simp [startable, startable.not_boundless]
  | overflowed boundless overflow =>
      have hunfit : ¬ fleet.Startable := fun startable => startable.not_boundless boundless
      simp [hunfit, boundless]
  | refused hunfit hbounded reason => simp [hunfit, hbounded]

/-- Half of all 64-bit sizes are neither accepted nor refused. -/
theorem not_every_fleet_is_accepted_or_refused :
    ¬ ∀ fleet : FleetSection, (fleet.validate = .ok () ↔ fleet.Startable) ∧
      (¬ fleet.Startable →
        ∃ reason, fleet.validate = .error (.error (.invalidConfig reason))) := by
  intro hsettled
  have hoverflow : ({ size := 0x8000000000000000 } : FleetSection).validate =
      .error (.unwound "attempt to multiply with overflow") := rfl
  obtain ⟨haccepted, hrefused⟩ := hsettled { size := 0x8000000000000000 }
  rw [hoverflow] at haccepted hrefused
  obtain ⟨reason, hreason⟩ := hrefused fun startable => by simpa using haccepted.mpr startable
  simp at hreason

end FleetSection

end FleetControl
