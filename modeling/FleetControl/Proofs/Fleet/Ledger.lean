import FleetControl.Proofs.Fleet.Standing

/-!
# The ledger of processes

What passes between the controller and the engine is written down note by note. A ledger says where
every process is that the engine ever handed out: in a slot, in the hands of the one call that works
on it, on its way to the end, or gone after a complete teardown. Each thing that is done to a
process moves it from one page of the ledger to another.
-/

namespace FleetControl

/-- What passes between the controller and the engine. -/
inductive EngineNote where
  /-- The engine is asked to launch a process for a slot. -/
  | asked (slot : Nat)
  /-- The engine hands out a process for a slot. -/
  | handed (slot : Nat) (handle : Handle)
  | hardStopped (slot : Nat) (handle : Handle)
  | closed (slot : Nat) (handle : Handle)
  /-- The end of a process is awaited. -/
  | awaited (slot : Nat) (handle : Handle)
  /-- A process has ended. -/
  | ended (handle : Handle)
deriving DecidableEq

namespace EngineNote

/-- The process that a note is about. -/
def handle? : EngineNote → Option Handle
  | .asked _ => none
  | .handed _ handle => some handle
  | .hardStopped _ handle => some handle
  | .closed _ handle => some handle
  | .awaited _ handle => some handle
  | .ended handle => some handle

/-- The note that a command leaves. -/
def ofCommand? : Command → Option EngineNote
  | .launch slot _ => some (.asked slot)
  | .hardStop slot handle => some (.hardStopped slot handle)
  | .close slot handle => some (.closed slot handle)
  | .awaitEnd slot handle => some (.awaited slot handle)
  | .awaitReady .. => none
  | .query .. => none
  | .probe .. => none

/-- The notes that commands leave. -/
def ofCommands (commands : List Command) : List EngineNote := commands.filterMap ofCommand?

/-- The notes about one process. -/
def about (handle : Handle) (notes : List EngineNote) : List EngineNote :=
  notes.filter fun note => note.handle? = some handle

/-- A process that was handed out, and nothing else. -/
def fresh (slot : Nat) (handle : Handle) : List EngineNote := [.handed slot handle]

/-- A process that was torn down and has not ended. -/
def torn (slot : Nat) (handle : Handle) : List EngineNote :=
  fresh slot handle ++ [.hardStopped slot handle, .closed slot handle, .awaited slot handle]

/-- A process that was torn down, each step once and in order, and has ended. -/
def gone (slot : Nat) (handle : Handle) : List EngineNote := torn slot handle ++ [.ended handle]

@[simp] theorem ofCommands_teardown (slot : Nat) (handle : Handle) :
    ofCommands (teardown slot handle) =
      [.hardStopped slot handle, .closed slot handle, .awaited slot handle] := rfl

/-- What the engine hands out is not commanded. -/
theorem handed_not_mem_ofCommands (slot : Nat) (handle : Handle) (commands : List Command) :
    .handed slot handle ∉ ofCommands commands := by
  intro hmem
  obtain ⟨command, -, hnote⟩ := List.mem_filterMap.mp hmem
  cases command <;> cases hnote

theorem ofCommands_append (commands more : List Command) :
    ofCommands (commands ++ more) = ofCommands commands ++ ofCommands more :=
  List.filterMap_append ..

@[simp] theorem about_append (handle : Handle) (notes more : List EngineNote) :
    about handle (notes ++ more) = about handle notes ++ about handle more :=
  List.filter_append ..

@[simp] theorem about_asked (handle : Handle) (slot : Nat) : about handle [.asked slot] = [] :=
  rfl

theorem about_handed (handle : Handle) (slot : Nat) (other : Handle) :
    about handle [.handed slot other] = if other = handle then fresh slot handle else [] := by
  by_cases heq : other = handle <;> simp [about, handle?, fresh, heq]

theorem about_teardown (handle : Handle) (slot : Nat) (other : Handle) :
    about handle (ofCommands (teardown slot other)) =
      if other = handle then ofCommands (teardown slot handle) else [] := by
  by_cases heq : other = handle <;> simp [about, handle?, heq]

theorem about_ended (handle other : Handle) :
    about handle [.ended other] = if other = handle then [.ended handle] else [] := by
  by_cases heq : other = handle <;> simp [about, handle?, heq]

theorem handed_mem_about {handle : Handle} {slot : Nat} {notes : List EngineNote} :
    .handed slot handle ∈ about handle notes ↔ .handed slot handle ∈ notes := by
  simp [about, handle?]

theorem ended_mem_of_gone {handle : Handle} {slot : Nat} {notes : List EngineNote}
    (hgone : about handle notes = gone slot handle) : .ended handle ∈ notes := by
  have hmem : EngineNote.ended handle ∈ about handle notes := by
    rw [hgone]
    simp [gone]
  exact (List.mem_filter.mp hmem).1

theorem slot_eq_of_fresh {slot other : Nat} {handle : Handle}
    (hfresh : fresh slot handle = fresh other handle) : slot = other := by
  simpa [fresh] using hfresh

theorem torn_ne_fresh {slot other : Nat} {handle : Handle} :
    torn slot handle ≠ fresh other handle := by
  simp [torn, fresh]

end EngineNote

open EngineNote

/-- Whenever the engine is asked for a process, every earlier process of the slot has ended. -/
def Successive (notes : List EngineNote) : Prop :=
  ∀ earlier later slot, notes = earlier ++ .asked slot :: later →
    ∀ handle, .handed slot handle ∈ earlier → .ended handle ∈ earlier

namespace Successive

theorem nil : Successive [] := by
  intro earlier later slot hnotes
  simp at hnotes

/-- A note that asks for nothing needs nothing. -/
theorem note {notes : List EngineNote} (hnotes : Successive notes) {note : EngineNote}
    (hnote : ∀ slot, note ≠ .asked slot) : Successive (notes ++ [note]) := by
  intro earlier later slot hsplit
  rcases List.eq_nil_or_concat later with rfl | ⟨front, last, rfl⟩
  · obtain ⟨-, hlast⟩ := List.append_inj' hsplit rfl
    exact absurd (List.cons.inj hlast).1 (hnote slot)
  · rw [List.concat_eq_append, ← List.cons_append, ← List.append_assoc] at hsplit
    exact hnotes earlier front slot (List.append_inj' hsplit rfl).1

theorem notes {notes more : List EngineNote} (hnotes : Successive notes)
    (hmore : ∀ note ∈ more, ∀ slot, note ≠ .asked slot) : Successive (notes ++ more) := by
  induction more generalizing notes with
  | nil => simpa using hnotes
  | cons first rest ih =>
      rw [List.append_cons]
      exact ih (hnotes.note (hmore first List.mem_cons_self))
        fun note hnote => hmore note (List.mem_cons_of_mem _ hnote)

theorem ask {notes : List EngineNote} (hnotes : Successive notes) {slot : Nat}
    (hended : ∀ handle, .handed slot handle ∈ notes → .ended handle ∈ notes) :
    Successive (notes ++ [.asked slot]) := by
  intro earlier later asked hsplit
  rcases List.eq_nil_or_concat later with rfl | ⟨front, last, rfl⟩
  · obtain ⟨rfl, hlast⟩ := List.append_inj' hsplit rfl
    obtain rfl := EngineNote.asked.inj (List.cons.inj hlast).1
    exact hended
  · rw [List.concat_eq_append, ← List.cons_append, ← List.append_assoc] at hsplit
    exact hnotes earlier front asked (List.append_inj' hsplit rfl).1

end Successive

/-- A process is in its slot and in no other one, and nothing was done to it since it was handed
out. -/
def Owned (notes : List EngineNote) (slots : List (Option Handle)) (slot : Nat)
    (handle : Handle) : Prop :=
  about handle notes = fresh slot handle ∧
    ∀ other : Nat, slots[other]? = some (some handle) ↔ other = slot

/-- A process has been through a complete teardown, and is in no slot. -/
def Released (notes : List EngineNote) (slots : List (Option Handle)) (slot : Nat)
    (handle : Handle) : Prop :=
  about handle notes = gone slot handle ∧
    ∀ other : Nat, slots[other]? ≠ some (some handle)

/-- A process is in no slot, and nothing was done to it since it was handed out. -/
def Stranded (notes : List EngineNote) (slots : List (Option Handle)) (slot : Nat)
    (handle : Handle) : Prop :=
  about handle notes = fresh slot handle ∧
    ∀ other : Nat, slots[other]? ≠ some (some handle)

/-- Where the processes are after some notes: which are in the slots, which one is held outside of
them for a slot, and which are on their way to the end. All others are gone. -/
structure Ledger (notes : List EngineNote) (launches : Nat) (slots : List (Option Handle))
    (loose : Option (Nat × Handle)) (ending : List Handle) : Prop where
  successive : Successive notes
  unborn : ∀ {handle}, launches ≤ handle → about handle notes = []
  placed : ∀ {slot handle}, slots[slot]? = some (some handle) →
    about handle notes = fresh slot handle
  held : ∀ {slot handle}, loose = some (slot, handle) →
    about handle notes = fresh slot handle ∧ ∀ process, slots[slot]? ≠ some (some process)
  torn : ∀ {handle}, handle ∈ ending → ∃ slot, about handle notes = torn slot handle
  once : ending.Nodup
  everywhere : ∀ {slot handle}, .handed slot handle ∈ notes →
    slots[slot]? = some (some handle) ∨ loose = some (slot, handle) ∨ handle ∈ ending ∨
      about handle notes = gone slot handle

namespace Ledger

variable {notes : List EngineNote} {launches : Nat} {slots : List (Option Handle)}
  {loose : Option (Nat × Handle)} {ending : List Handle}

/-- Before the engine was asked for anything. -/
theorem blank (hslots : ∀ (slot : Nat) (handle : Handle), slots[slot]? ≠ some (some handle)) :
    Ledger [] 0 slots none [] where
  successive := .nil
  unborn _ := rfl
  placed hplaced := absurd hplaced (hslots _ _)
  held hheld := by simp at hheld
  torn hmem := by simp at hmem
  once := .nil
  everywhere hmem := by simp at hmem

/-- Only processes that were handed out are told of. -/
theorem lt_launches (ledger : Ledger notes launches slots loose ending) (handle : Handle)
    (habout : about handle notes ≠ []) : handle < launches :=
  Nat.lt_of_not_le fun hle => habout (ledger.unborn hle)

/-- Two slots never hold the same process. -/
theorem slot_eq (ledger : Ledger notes launches slots loose ending) {slot other : Nat}
    {handle : Handle} (hslot : slots[slot]? = some (some handle))
    (hother : slots[other]? = some (some handle)) : slot = other :=
  slot_eq_of_fresh ((ledger.placed hslot).symm.trans (ledger.placed hother))

/-- A process that is held outside of the slots is in none of them. -/
theorem ne_of_held (ledger : Ledger notes launches slots loose ending) {slot other : Nat}
    {handle process : Handle} (hheld : loose = some (slot, handle))
    (hother : slots[other]? = some (some process)) : process ≠ handle := by
  rintro rfl
  obtain ⟨hfresh, hempty⟩ := ledger.held hheld
  obtain rfl := slot_eq_of_fresh (hfresh.symm.trans (ledger.placed hother))
  exact hempty process hother

/-- The engine is asked for a process while nothing is under way and the slot is empty. -/
theorem ask (ledger : Ledger notes launches slots none []) {slot : Nat}
    (hempty : ∀ handle, slots[slot]? ≠ some (some handle)) :
    Ledger (notes ++ [.asked slot]) launches slots none [] where
  successive := by
    refine ledger.successive.ask fun handle hmem => ?_
    rcases ledger.everywhere hmem with hplaced | hheld | htorn | hgone
    · exact absurd hplaced (hempty handle)
    · simp at hheld
    · simp at htorn
    · exact ended_mem_of_gone hgone
  unborn hle := by simpa using ledger.unborn hle
  placed hplaced := by simpa using ledger.placed hplaced
  held hheld := by simp at hheld
  torn hmem := by simp at hmem
  once := .nil
  everywhere hmem := by simpa using ledger.everywhere (by simpa using hmem)

/-- The engine hands out a new process for an empty slot. -/
theorem hand (ledger : Ledger notes launches slots none ending) {slot : Nat}
    (hempty : ∀ handle, slots[slot]? ≠ some (some handle)) :
    Ledger (notes ++ [.handed slot launches]) (launches + 1) slots (some (slot, launches))
      ending := by
  -- The handle is a new one, so no earlier note is about it.
  have hother : ∀ {handle}, about handle notes ≠ [] →
      about handle (notes ++ [.handed slot launches]) = about handle notes := by
    intro handle habout
    rw [about_append, about_handed, if_neg (Nat.ne_of_gt (ledger.lt_launches _ habout)),
      List.append_nil]
  refine ⟨ledger.successive.note (by simp), ?_, ?_, ?_, ?_, ledger.once, ?_⟩
  · intro handle hle
    rw [about_append, about_handed, if_neg (Nat.ne_of_lt hle), List.append_nil]
    exact ledger.unborn (Nat.le_of_succ_le hle)
  · intro other handle hplaced
    have hfresh := ledger.placed hplaced
    rw [hother (by simp [hfresh, fresh]), hfresh]
  · rintro other handle ⟨⟩
    rw [about_append, ledger.unborn (Nat.le_refl _), about_handed, if_pos rfl]
    exact ⟨rfl, hempty⟩
  · intro handle hmem
    obtain ⟨other, htorn⟩ := ledger.torn hmem
    exact ⟨other, by rw [hother (by simp [htorn, EngineNote.torn, fresh]), htorn]⟩
  · intro other handle hmem
    rcases List.mem_append.mp hmem with hmem | hmem
    · rcases ledger.everywhere hmem with hplaced | hheld | htorn | hgone
      · exact .inl hplaced
      · simp at hheld
      · exact .inr (.inr (.inl htorn))
      · rw [hother (by simp [hgone, gone, EngineNote.torn, fresh])]
        exact .inr (.inr (.inr hgone))
    · obtain ⟨rfl, rfl⟩ := EngineNote.handed.inj (List.mem_singleton.mp hmem)
      exact .inr (.inl rfl)

/-- The process in hand is put into its slot. -/
theorem place {slot : Nat} {handle : Handle} {after : List (Option Handle)}
    (ledger : Ledger notes launches slots (some (slot, handle)) ending)
    (hslot : after[slot]? = some (some handle))
    (hafter : ∀ other, other ≠ slot → after[other]? = slots[other]?) :
    Ledger notes launches after none ending where
  successive := ledger.successive
  unborn := ledger.unborn
  placed := by
    intro other process hplaced
    by_cases hother : other = slot
    · subst other
      obtain rfl := Option.some.inj (Option.some.inj (hslot.symm.trans hplaced))
      exact (ledger.held rfl).1
    · exact ledger.placed (hafter other hother ▸ hplaced)
  held hheld := by simp at hheld
  torn := ledger.torn
  once := ledger.once
  everywhere := by
    intro other process hmem
    rcases ledger.everywhere hmem with hplaced | hheld | htorn | hgone
    · refine .inl ?_
      rw [hafter other ?_, hplaced]
      rintro rfl
      exact (ledger.held rfl).2 process hplaced
    · obtain ⟨rfl, rfl⟩ := Prod.mk.inj (Option.some.inj hheld)
      exact .inl hslot
    · exact .inr (.inr (.inl htorn))
    · exact .inr (.inr (.inr hgone))

/-- The process in a slot is taken out. -/
theorem take {slot : Nat} {handle : Handle} {after : List (Option Handle)}
    (ledger : Ledger notes launches slots none ending)
    (hslot : slots[slot]? = some (some handle))
    (hempty : ∀ process, after[slot]? ≠ some (some process))
    (hafter : ∀ other, other ≠ slot → after[other]? = slots[other]?) :
    Ledger notes launches after (some (slot, handle)) ending where
  successive := ledger.successive
  unborn := ledger.unborn
  placed := by
    intro other process hplaced
    by_cases hother : other = slot
    · subst other
      exact absurd hplaced (hempty process)
    · exact ledger.placed (hafter other hother ▸ hplaced)
  held := by
    rintro other process ⟨⟩
    exact ⟨ledger.placed hslot, hempty⟩
  torn := ledger.torn
  once := ledger.once
  everywhere := by
    intro other process hmem
    rcases ledger.everywhere hmem with hplaced | hheld | htorn | hgone
    · by_cases hother : other = slot
      · subst other
        obtain rfl := Option.some.inj (Option.some.inj (hslot.symm.trans hplaced))
        exact .inr (.inl rfl)
      · exact .inl (hafter other hother ▸ hplaced)
    · simp at hheld
    · exact .inr (.inr (.inl htorn))
    · exact .inr (.inr (.inr hgone))

/-- The process in hand is torn down. -/
theorem tear {slot : Nat} {handle : Handle}
    (ledger : Ledger notes launches slots (some (slot, handle)) ending) :
    Ledger (notes ++ ofCommands (teardown slot handle)) launches slots none
      (ending ++ [handle]) := by
  have hfresh := (ledger.held rfl).1
  have hother : ∀ {process}, process ≠ handle →
      about process (notes ++ ofCommands (teardown slot handle)) = about process notes := by
    intro process hne
    rw [about_append, about_teardown, if_neg hne.symm, List.append_nil]
  have htorn : about handle (notes ++ ofCommands (teardown slot handle)) =
      EngineNote.torn slot handle := by
    rw [about_append, about_teardown, if_pos rfl, hfresh]
    rfl
  -- Its notes tell the process in hand from those that were torn down before.
  have hnot : handle ∉ ending := by
    intro hmem
    obtain ⟨other, hending⟩ := ledger.torn hmem
    exact torn_ne_fresh (hending.symm.trans hfresh)
  refine ⟨?_, ?_, ?_, ?_, ?_, ?_, ?_⟩
  · apply ledger.successive.notes
    simp
  · intro process hle
    have hlt := ledger.lt_launches handle (by simp [hfresh, fresh])
    rw [hother (Nat.ne_of_gt (Nat.lt_of_lt_of_le hlt hle)), ledger.unborn hle]
  · intro other process hplaced
    rw [hother (ledger.ne_of_held rfl hplaced), ledger.placed hplaced]
  · intro other process hheld
    simp at hheld
  · intro process hmem
    rcases List.mem_append.mp hmem with hmem | hmem
    · obtain ⟨other, hending⟩ := ledger.torn hmem
      exact ⟨other, by rw [hother (fun heq => hnot (heq ▸ hmem)), hending]⟩
    · obtain rfl := List.mem_singleton.mp hmem
      exact ⟨slot, htorn⟩
  · exact List.nodup_append.mpr ⟨ledger.once, by simp, by
      rintro process hmem other hother rfl
      exact hnot (List.mem_singleton.mp hother ▸ hmem)⟩
  · intro other process hmem
    have hmem : EngineNote.handed other process ∈ notes := by simpa using hmem
    rcases ledger.everywhere hmem with hplaced | hheld | hending | hgone
    · exact .inl hplaced
    · obtain ⟨rfl, rfl⟩ := Prod.mk.inj (Option.some.inj hheld)
      exact .inr (.inr (.inl (List.mem_append_right _ (List.mem_singleton.mpr rfl))))
    · exact .inr (.inr (.inl (List.mem_append_left _ hending)))
    · refine .inr (.inr (.inr ?_))
      rw [hother ?_, hgone]
      rintro rfl
      simp [gone, EngineNote.torn, fresh, hfresh] at hgone

/-- The processes in all slots from `done` on are taken out and torn down at once. -/
theorem tearAll (done : Nat) (handles : List Handle)
    (ledger : Ledger notes launches (List.replicate done none ++ handles.map some) none ending) :
    Ledger
      (notes ++ ofCommands ((handles.zipIdx done).map fun (handle, slot) =>
        teardown slot handle).flatten)
      launches (List.replicate (done + handles.length) none) none (ending ++ handles) := by
  induction handles generalizing done notes ending with
  | nil => simpa [ofCommands] using ledger
  | cons handle rest ih =>
      -- The induction is on the slots that are left; those before `done` are empty already.
      have htake : Ledger notes launches (List.replicate (done + 1) none ++ rest.map some)
          (some (done, handle)) ending := by
        refine ledger.take ?_ ?_ ?_
        · simp
        · intro process
          simp [List.replicate_succ']
        · intro other hother
          rw [List.replicate_succ', List.append_assoc]
          rcases Nat.lt_or_gt_of_ne hother with hlt | hgt
          · rw [List.getElem?_append_left (by simpa using hlt),
              List.getElem?_append_left (by simpa using hlt)]
          · obtain ⟨rest, rfl⟩ := Nat.exists_eq_add_of_lt hgt
            simp [List.getElem?_append, show ¬ done + rest + 1 < done by omega,
              show done + rest + 1 - done = rest + 1 by omega]
      have hrest := ih (done + 1) htake.tear
      rw [List.append_assoc, List.append_assoc, ← ofCommands_append, Nat.add_assoc,
        Nat.add_comm 1] at hrest
      simpa using hrest

/-- A process on its way to the end has ended. -/
theorem finish {handle : Handle} (ledger : Ledger notes launches slots loose ending)
    (hmem : handle ∈ ending) :
    Ledger (notes ++ [.ended handle]) launches slots loose (ending.erase handle) := by
  obtain ⟨slot, htorn⟩ := ledger.torn hmem
  have hother : ∀ {process}, process ≠ handle →
      about process (notes ++ [.ended handle]) = about process notes := by
    intro process hne
    rw [about_append, about_ended, if_neg hne.symm, List.append_nil]
  -- A process in its slot or in hand has not been torn down, so it is not the one that ended.
  have hne : ∀ {other process}, about process notes = fresh other process →
      process ≠ handle := by
    rintro other process hfresh rfl
    exact torn_ne_fresh (htorn.symm.trans hfresh)
  refine ⟨ledger.successive.note (by simp), ?_, ?_, ?_, ?_, ledger.once.erase handle, ?_⟩
  · intro process hle
    have hlt := ledger.lt_launches handle (by simp [htorn, EngineNote.torn, fresh])
    rw [hother (Nat.ne_of_gt (Nat.lt_of_lt_of_le hlt hle)), ledger.unborn hle]
  · intro other process hplaced
    have hfresh := ledger.placed hplaced
    rw [hother (hne hfresh), hfresh]
  · intro other process hheld
    obtain ⟨hfresh, hempty⟩ := ledger.held hheld
    exact ⟨by rw [hother (hne hfresh), hfresh], hempty⟩
  · intro process hprocess
    obtain ⟨hprocessNe, hprocess⟩ := (ledger.once.mem_erase_iff).mp hprocess
    obtain ⟨other, hending⟩ := ledger.torn hprocess
    exact ⟨other, by rw [hother hprocessNe, hending]⟩
  · intro other process hhanded
    have hhanded : EngineNote.handed other process ∈ notes := by simpa using hhanded
    by_cases hprocess : process = handle
    · subst process
      refine .inr (.inr (.inr ?_))
      have hslot : slot = other := by
        have := handed_mem_about.mpr hhanded
        simpa [htorn, EngineNote.torn, fresh, eq_comm] using this
      rw [about_append, about_ended, if_pos rfl, htorn, hslot]
      rfl
    · rw [hother hprocess]
      rcases ledger.everywhere hhanded with hplaced | hheld | hending | hgone
      · exact .inl hplaced
      · exact .inr (.inl hheld)
      · exact .inr (.inr (.inl ((ledger.once.mem_erase_iff).mpr ⟨hprocess, hending⟩)))
      · exact .inr (.inr (.inr hgone))

/-- While nothing is under way, every process is in its slot or gone. -/
theorem settled (ledger : Ledger notes launches slots none []) {slot : Nat} {handle : Handle}
    (hhanded : .handed slot handle ∈ notes) :
    Owned notes slots slot handle ∨ Released notes slots slot handle := by
  rcases ledger.everywhere hhanded with hplaced | hheld | hending | hgone
  · refine .inl ⟨ledger.placed hplaced, fun other => ⟨fun hother => ?_, ?_⟩⟩
    · exact ledger.slot_eq hother hplaced
    · rintro rfl
      exact hplaced
  · simp at hheld
  · simp at hending
  · refine .inr ⟨hgone, fun other hother => ?_⟩
    have hfresh := ledger.placed hother
    simp [gone, EngineNote.torn, fresh, hgone] at hfresh

/-- Once the slots are empty too, every process is gone. -/
theorem released (ledger : Ledger notes launches slots none [])
    (hempty : ∀ (slot : Nat) (handle : Handle), slots[slot]? ≠ some (some handle)) {slot : Nat}
    {handle : Handle} (hhanded : .handed slot handle ∈ notes) :
    Released notes slots slot handle := by
  rcases ledger.settled hhanded with howned | hreleased
  · exact absurd ((howned.2 slot).mpr rfl) (hempty slot handle)
  · exact hreleased

end Ledger

end FleetControl
