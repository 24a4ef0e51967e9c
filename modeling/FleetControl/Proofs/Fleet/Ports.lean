import FleetControl.Proofs.Fleet.Layout

/-!
# The ports of any index

A port can be asked for with any index, also with one that no member has. Sixteen bits of the index
are read, so an index that has no more is given its own port or none. A greater one is given the port
of the index that these bits make up, which another member may have.
-/

namespace FleetControl.FleetSection

open FleetControl.Number

variable {fleet : FleetSection} {index other port : Nat}

/-- What an index is given: the product of its low bits with the stride may be no port number, or
the sum with the first port may be none. -/
inductive Assigns (fleet : FleetSection) (index : Nat) : Except Overflow Nat → Prop where
  | product (hproduct : wordCount 16 ≤ 2 * (index % wordCount 16)) :
      Assigns fleet index (.error .multiply)
  | sum (hproduct : 2 * (index % wordCount 16) < wordCount 16)
      (hsum : wordCount 16 ≤ fleet.rootPort.toNat + 2 * (index % wordCount 16)) :
      Assigns fleet index (.error .add)
  | port (hsum : fleet.rootPort.toNat + 2 * (index % wordCount 16) < wordCount 16) :
      Assigns fleet index (.ok (fleet.rootPort.toNat + 2 * (index % wordCount 16)))

theorem assigns_clientPort (fleet : FleetSection) (index : Nat) :
    fleet.Assigns index (fleet.clientPort index) := by
  have hstride : index % wordCount 16 * portStride = 2 * (index % wordCount 16) := Nat.mul_comm ..
  rw [clientPort, multiplyWithin, hstride]
  by_cases hproduct : 2 * (index % wordCount 16) < wordCount 16
  · by_cases hsum : fleet.rootPort.toNat + 2 * (index % wordCount 16) < wordCount 16
    · simp only [if_pos hproduct, addWithin, if_pos hsum, bind, Except.bind]
      exact .port hsum
    · simp only [if_pos hproduct, addWithin, if_neg hsum, bind, Except.bind]
      exact .sum hproduct (Nat.not_lt.mp hsum)
  · simp only [if_neg hproduct, bind, Except.bind]
    exact .product (Nat.not_lt.mp hproduct)

theorem clientPort_eq_ok_iff :
    fleet.clientPort index = .ok port ↔
      port = fleet.rootPort.toNat + 2 * (index % wordCount 16) ∧ port < wordCount 16 := by
  have hassigns := fleet.assigns_clientPort index
  generalize fleet.clientPort index = given at hassigns
  cases hassigns with
  | product hproduct => simp only [reduceCtorEq, false_iff]; omega
  | sum _ hsum => simp only [reduceCtorEq, false_iff]; omega
  | port hsum => simp only [Except.ok.injEq]; omega

theorem clientPort_eq_error_iff :
    (∃ overflow, fleet.clientPort index = .error overflow) ↔
      wordCount 16 ≤ fleet.rootPort.toNat + 2 * (index % wordCount 16) := by
  have hassigns := fleet.assigns_clientPort index
  generalize fleet.clientPort index = given at hassigns
  cases hassigns with
  | product hproduct => simp only [Except.error.injEq, exists_eq', true_iff]; omega
  | sum _ hsum => simpa using hsum
  | port hsum => simpa using hsum

/-- A fleet whose settings are accepted gives every member its own port. An index is given its own
port or an overflow exactly if it has sixteen bits at most, or if its low sixteen bits are given an
overflow. Two indices are given one port exactly if these bits agree. -/
theorem index_has_own_port_or_none_iff (hvalid : fleet.validate = .ok ()) :
    (∀ slot < fleet.size.toNat, fleet.clientPort slot = .ok (fleet.rootPort.toNat + 2 * slot)) ∧
    (∀ index, (fleet.clientPort index = .ok (fleet.rootPort.toNat + 2 * index) ∨
        ∃ overflow, fleet.clientPort index = .error overflow) ↔
      index < wordCount 16 ∨
        wordCount 16 ≤ fleet.rootPort.toNat + 2 * (index % wordCount 16)) ∧
    ∀ index other port, fleet.clientPort index = .ok port →
      (fleet.clientPort other = .ok port ↔ other % wordCount 16 = index % wordCount 16) := by
  refine ⟨fun slot hslot => ?_, fun index => ?_, fun index other port hport => ?_⟩
  · rw [clientPort_eq hvalid hslot, Nat.mul_comm]
    rfl
  · rw [clientPort_eq_ok_iff, clientPort_eq_error_iff]
    constructor
    · rintro (⟨hown, hport⟩ | hnone)
      · exact .inl (by omega)
      · exact .inr hnone
    · rintro (hindex | hnone)
      · rw [Nat.mod_eq_of_lt hindex]
        omega
      · exact .inr hnone
  · rw [clientPort_eq_ok_iff] at hport ⊢
    omega

/-- Behind the last member of the default settings there are ports left, then there are none, and
after 2 ^ 16 indices the ports come back. -/
theorem default_fleet_ports :
    ({} : FleetSection).validate = .ok () ∧
      ({} : FleetSection).clientPort 2 = .ok 2383 ∧
      (({} : FleetSection).clientPort 31578 = .ok (2379 + 2 * 31578) ∨
        ∃ overflow, ({} : FleetSection).clientPort 31578 = .error overflow) ∧
      ({} : FleetSection).clientPort 65538 = .ok 2383 := by
  have hvalid : ({} : FleetSection).validate = .ok () := rfl
  obtain ⟨hslots, hown, hshared⟩ := index_has_own_port_or_none_iff hvalid
  have hlast := hslots 2 (by decide)
  exact ⟨hvalid, hlast, (hown 31578).mpr (.inl (by decide)),
    (hshared 2 65538 2383 hlast).mpr (by decide)⟩

/-- The first index of more than sixteen bits is given the port of the first member. -/
theorem not_every_index_has_own_port_or_none :
    ¬ ∀ (fleet : FleetSection) (index : Nat), fleet.validate = .ok () → index < wordCount 64 →
      (fleet.clientPort index = .ok (fleet.rootPort.toNat + 2 * index) ∨
        ∃ overflow, fleet.clientPort index = .error overflow) := by
  intro hown
  have hfirst : ({} : FleetSection).clientPort 65536 = .ok 2379 := rfl
  rcases hown {} 65536 rfl (by decide) with hport | ⟨overflow, hnone⟩
  · rw [hfirst] at hport
    exact absurd (Except.ok.inj hport) (by decide)
  · rw [hfirst] at hnone
    cases hnone

end FleetControl.FleetSection
