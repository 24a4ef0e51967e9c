import FleetControl.Proofs.Fleet.AllOrNothing
import FleetControl.Proofs.Fleet.Closing
import FleetControl.Proofs.Fleet.Reach
import FleetControl.Proofs.Fleet.Serial

/-!
# What a shutdown leaves behind

Nothing but the end of a shutdown removes files while a fleet runs. A shutdown that returns without
an error leaves no process, and the first one leaves no directory either. A later one says nothing
about the directory: it returns without an error even if the removal has failed.
-/

namespace FleetControl

/-- Others change the files. -/
def Event.Touches : Event → Prop
  | .outside (.touch _) => True
  | _ => False

/-- The files are as they were, or the directory was removed from them. -/
def Fleet.Cleaned (before after : Fleet) : Prop :=
  after.files = before.files ∨ after.files = (before.files.removeDirectory before.rootDir).1

theorem Fleet.files_degrade (fleet : Fleet) (slot : Nat) (seen : Nanos) (activity : String)
    (started : Int) (cause : String) :
    (fleet.degrade slot seen activity started cause).files = fleet.files := by
  unfold degrade
  split
  next => rfl
  next => split <;> rfl

/-- The monitor and its probes leave the files alone. -/
theorem Watching.Move.files_eq {watching next : Watching} {commands : List Command}
    (hmove : watching.Move next commands) : next.fleet.files = watching.fleet.files := by
  cases hmove with
  | tick | gather | look | refresh | note | rest | join | quit | ask | answer | word | commit
  | discard | drop => rfl
  | recover => exact Fleet.files_degrade ..
  | fail => exact Fleet.files_degrade ..

namespace Turn

variable {fleet next : Fleet} {underway later : Option Call} {heard : List EngineNote}
  {commands : List Command} {mark : Option Mark}

theorem rootDir_eq (hturn : Turn fleet underway heard commands mark next later) :
    next.rootDir = fleet.rootDir := by
  cases hturn <;> rfl

/-- Only the end of a shutdown removes the directory. -/
theorem cleaned (hturn : Turn fleet underway heard commands mark next later) :
    fleet.Cleaned next := by
  cases hturn with
  | cleared => exact .inr rfl
  | rest | signal | coolStop | coolRestart | empty | stop | vanish | launch | refuse | hand | giveUp
  | ready | ended | pass | clear | clearEnded => exact .inl rfl

end Turn

namespace System

variable {system next : System} {event : Event} {commands : List Command}

/-- The directory of a fleet stays where it is. -/
theorem rootDir_of_step? (orderly : system.Orderly)
    (hstep : system.step? event = some (next, commands)) :
    next.fleet.rootDir = system.fleet.rootDir := by
  obtain ⟨-, hstepped⟩ := step_of_step? orderly hstep
  cases hstepped with
  | turn hturn => exact hturn.rootDir_eq
  | move hmove => exact hmove.aside.rootDir
  | outside houtside => exact (Fleet.Aside.outside houtside).rootDir

/-- Where others leave the files alone, the most that happens to them is the removal of the
directory. -/
theorem cleaned_of_step? (orderly : system.Orderly)
    (hstep : system.step? event = some (next, commands)) (huntouched : ¬ event.Touches) :
    system.fleet.Cleaned next.fleet := by
  obtain ⟨-, hstepped⟩ := step_of_step? orderly hstep
  cases hstepped with
  | turn hturn => exact hturn.cleaned
  | move hmove => exact .inl hmove.files_eq
  | @outside outer houtside hevent =>
      subst hevent
      cases outer with
      | time clock =>
          simp only [Fleet.outside?, Option.ite_none_right_eq_some, Option.some.injEq] at houtside
          exact .inl (houtside.2 ▸ rfl)
      | fireRoot => exact .inl (Option.some.inj houtside ▸ rfl)
      | touch files => exact absurd trivial huntouched

/-- What is absent stays absent while others leave the files alone. -/
theorem absent_of_course {first last : System} {moments : List (Moment System Event)}
    (hcourse : Course step? first moments last) (orderly : first.Orderly)
    (huntouched : ∀ moment ∈ moments, ¬ moment.event.Touches)
    (habsent : first.fleet.files.Absent first.fleet.rootDir) :
    last.fleet.files.Absent last.fleet.rootDir := by
  suffices hlast : last.Orderly ∧ last.fleet.files.Absent last.fleet.rootDir from hlast.2
  induction hcourse with
  | start => exact ⟨orderly, habsent⟩
  | next earlier hstep ih =>
      obtain ⟨horderly, hstill⟩ :=
        ih fun moment hmem => huntouched moment (List.mem_append_left _ hmem)
      refine ⟨(step_of_step? horderly hstep).1, ?_⟩
      rw [rootDir_of_step? horderly hstep]
      have hevent := huntouched _ (List.mem_append_right _ List.mem_cons_self)
      rcases cleaned_of_step? horderly hstep hevent with hsame | hremoved
      · rwa [hsame]
      · rwa [hremoved, Files.removeDirectory_of_absent hstill]

theorem rootDir_of_course {first last : System} {moments : List (Moment System Event)}
    (hcourse : Course step? first moments last) (orderly : first.Orderly) :
    last.fleet.rootDir = first.fleet.rootDir := by
  suffices hlast : last.Orderly ∧ last.fleet.rootDir = first.fleet.rootDir from hlast.2
  apply hcourse.preserves ⟨orderly, rfl⟩
  intro before event after commands hstep hbefore
  exact ⟨(step_of_step? hbefore.1 hstep).1,
    (rootDir_of_step? hbefore.1 hstep).trans hbefore.2⟩

/-- A shutdown that returns leaves the fleet sealed: either it has done so itself, or the first one
had returned before. -/
theorem sealed_of_returns {notes : List EngineNote} {id : Nat} {result : Except Error Unit}
    (sound : system.Sound notes) (hstep : system.step? event = some (next, commands))
    (hserial : Serial [⟨system, event, commands, next⟩])
    (hreturns : Moment.Returns ⟨system, event, commands, next⟩ id .shutdown result) :
    Sealed next.fleet next.underway? := by
  obtain ⟨-, hstepped⟩ := step_of_step? sound.orderly hstep
  rcases shutdown_returns sound.orderly hstep hreturns with
    ⟨hcall, hshut, -⟩ | ⟨hunderway, -⟩
  · rw [sound.shutting.flag, Option.isSome_iff_exists] at hshut
    obtain ⟨first, hfirst⟩ := hshut
    have hall : system.Returned := hserial _ List.mem_cons_self _ hcall
    obtain ⟨earlier, hfinished⟩ := hall first (List.mem_of_find?_eq_some hfirst)
    exact ((sound.shutting.closed ⟨first, earlier, hfirst, hfinished⟩).step hstepped).1
  · exact ((sound.shutting.sealed_of_emptied sound.booked hunderway).step hstepped).1

/-- Where a shutdown that is the first one returns without an error, the directory is gone. -/
theorem absent_of_returns {id : Nat} (orderly : system.Orderly)
    (hstep : system.step? event = some (next, commands))
    (hreturns : Moment.Returns ⟨system, event, commands, next⟩ id .shutdown (.ok ()))
    (hfirst : ¬ Moment.Repeats ⟨system, event, commands, next⟩) :
    next.fleet.files.Absent next.fleet.rootDir := by
  rcases shutdown_returns orderly hstep hreturns with ⟨hcall, hshut, -⟩ | ⟨-, hremoved⟩
  · exact absurd ⟨hcall, hshut⟩ hfirst
  · obtain ⟨hfiles, hresult⟩ := Prod.ext_iff.mp hremoved
    dsimp only at hfiles hresult
    rw [hfiles, rootDir_of_step? orderly hstep]
    exact Files.absent_removeDirectory hresult.symm

end System

/-- In a sealed fleet no slot holds a process, and no member runs. -/
theorem Sealed.still {fleet : Fleet} {underway : Option Call} (closed : Sealed fleet underway)
    (hmatched : fleet.Matched) :
    (∀ process ∈ fleet.slots, process = none) ∧
      ∀ member ∈ fleet.members, member.running = false := by
  constructor
  · intro process hmem
    obtain ⟨slot, hslot⟩ := List.mem_iff_getElem?.mp hmem
    have hempty := closed.empty slot
    rwa [Fleet.process?, hslot] at hempty
  · intro member hmem
    obtain ⟨slot, hslot⟩ := List.mem_iff_getElem?.mp hmem
    exact hmatched.stopped hslot (closed.empty slot)

theorem Started.rootDir_eq {settings : FleetSettings} {fleet : Fleet}
    (hstarted : Started settings fleet) : fleet.rootDir = settings.fleet.rootDir := by
  obtain ⟨token, files, after, clock, rootFired, first, opening, begun, start, hbegin, hcourse,
    -, rfl⟩ := hstarted
  exact ((Bootstrap.Charted.begin hbegin).course (Bootstrap.Kept.begin hbegin) hcourse).root

/-- In a started fleet whose calls are made one after another, a shutdown that returns without an
error leaves all slots empty and no member running, whatever has become of the removals. Unless
there was a shutdown before it, the root directory does not exist then. A shutdown that is called
again touches nothing: the directory does not exist if the first shutdown has returned without an
error and nobody has changed the files since. -/
theorem successful_shutdown_leaves_no_member {settings : FleetSettings} {fleet : Fleet}
    (hstarted : Started settings fleet) {tick : Nanos} {last : System}
    {early late : List (Moment System Event)} {moment : Moment System Event}
    (hcourse : Course System.step? (System.ofStart fleet tick) (early ++ moment :: late) last)
    (hserial : Serial (early ++ moment :: late)) {id : Nat}
    (hreturns : moment.Returns id .shutdown (.ok ())) :
    (∀ process ∈ moment.after.fleet.slots, process = none) ∧
    (∀ member ∈ moment.after.fleet.members, member.running = false) ∧
    (¬ moment.Repeats → moment.after.fleet.files.Absent settings.fleet.rootDir) ∧
    (moment.Repeats → moment.after.fleet = moment.before.fleet ∧
      ∀ past first since name, early = past ++ first :: since →
        first.Returns name .shutdown (.ok ()) → ¬ first.Repeats →
        (∀ between ∈ since, ¬ between.event.Touches) →
        moment.after.fleet.files.Absent settings.fleet.rootDir) := by
  obtain ⟨notes, start, kept, hphase, rfl⟩ := hstarted.exists_kept
  have sound := kept.sound hphase tick
  obtain ⟨hearly, hstep, hlate⟩ := hcourse.at_moment
  have hreached : Course System.step? (System.ofStart start.fleet tick) (early ++ [moment])
      moment.after := .next hearly hstep
  have hroot : moment.after.fleet.rootDir = settings.fleet.rootDir :=
    (System.rootDir_of_course hreached sound.orderly).trans hstarted.rootDir_eq
  have hbefore := sound.course hearly
  have closed : Sealed moment.after.fleet moment.after.underway? := by
    refine System.sealed_of_returns hbefore hstep (fun other hother => ?_) hreturns
    obtain rfl := List.mem_singleton.mp hother
    exact hserial _ (List.mem_append_right _ List.mem_cons_self)
  have hmatched : moment.after.fleet.Matched :=
    (System.Reachable.kept ⟨_, _, _, _, hstarted, hreached⟩).2
  obtain ⟨hslots, hmembers⟩ := closed.still hmatched
  refine ⟨hslots, hmembers, fun hfirst => ?_, fun hrepeats => ?_⟩
  · exact hroot ▸ System.absent_of_returns hbefore.orderly hstep hreturns hfirst
  · have hsame : moment.after.fleet = moment.before.fleet :=
      System.fleet_of_repeats hstep hrepeats
    refine ⟨hsame, ?_⟩
    rintro past first since name rfl hdone hfirst huntouched
    obtain ⟨hpast, hlast, hsince⟩ := hearly.at_moment
    have horderly := (sound.course hpast).orderly
    have habsent := System.absent_of_returns horderly hlast hdone hfirst
    rw [← hroot, hsame]
    exact System.absent_of_course hsince (System.step_of_step? horderly hlast).1 huntouched habsent

namespace System

/-- A fleet whose monitor is over and whose only call, a shutdown, is in some phase. -/
def leaving (fleet : Fleet) (tick : Nanos) (line : List Nat) (phase : CallPhase) : System :=
  { ofStart fleet tick with
    calls := [⟨0, .shutdown, phase⟩], line, made := 1
    monitor := { (ofStart fleet tick).monitor with phase := .over } }

variable {fleet : Fleet} {handle : Handle} (tick : Nanos)

/-- No call was made before the shutdown. -/
theorem id_ne_made_ofStart (fleet : Fleet) :
    ∀ call ∈ (ofStart fleet tick).unwatched.calls, call.id ≠ (ofStart fleet tick).unwatched.made :=
  (orderly_ofStart fleet tick).id_ne_made

/-- The first call to a fleet may be a shutdown, and the monitor ends at once. -/
theorem leads_draining (hopen : fleet.shutDown = false) :
    LeadsSerially (ofStart fleet tick)
      (leaving { fleet.told with doneFired := true } tick [] .draining) := by
  have hcall := step?_call_shutdown (show (ofStart fleet tick).fleet.shutDown = false from hopen)
  have hidle : (ofStart fleet tick).monitor.phase = .idle := rfl
  have hstop : fleet.told.stopFired = true := rfl
  have hquit := step?_quit_closing hidle hstop [] .draining
  exact (LeadsSerially.of_step? hcall fun _ _ => returned_ofStart fleet tick).trans
    (.of_step? hquit (by simp))

/-- The shutdown takes the process out of its slot, and waits for its end. -/
theorem leads_emptied (hslots : fleet.slots = [some handle]) (hdone : fleet.doneFired = true) :
    LeadsSerially (leaving fleet tick [] .draining)
      (leaving (fleet.release 0 .shutdown) tick [0] (.emptying [] [])) := by
  have hprocess : fleet.process? 0 = some handle := by simp [Fleet.process?, hslots]
  have hrange : List.range fleet.slots.length = [0] := by rw [hslots]; rfl
  have hnew := id_ne_made_ofStart tick fleet
  have hqueue := step?_closing_drained hnew hdone []
  have hlock := step?_closing_lock hnew fleet
  rw [hrange] at hlock
  have hclear := step?_closing_clear hnew hprocess [0] [] []
  have hended : (leaving (fleet.release 0 .shutdown) tick [0] (.emptying [] [handle])).step?
      (.ended 0 handle) = some (leaving (fleet.release 0 .shutdown) tick [0]
        (.emptying [] ([handle].erase handle)), []) :=
    step?_closing_ended hnew List.mem_cons_self
  rw [List.erase_cons_head] at hended
  exact (((LeadsSerially.of_step? hqueue (by simp)).trans (.of_step? hlock (by simp))).trans
    (.of_step? hclear (by simp))).trans (.of_step? hended (by simp))

/-- The moment in which the shutdown removes the directory and returns. -/
def returning (fleet : Fleet) (tick : Nanos) : Moment System Event where
  before := leaving fleet tick [0] (.emptying [] [])
  event := .advance 0
  commands := []
  after := leaving { fleet with files := (fleet.files.removeDirectory fleet.rootDir).1 } tick []
    (.finished (fleet.files.removeDirectory fleet.rootDir).2)

theorem step?_returning (fleet : Fleet) :
    (returning fleet tick).before.step? (returning fleet tick).event =
      some ((returning fleet tick).after, (returning fleet tick).commands) :=
  step?_closing_finish (id_ne_made_ofStart tick fleet)

theorem returns_returning (fleet : Fleet) :
    (returning fleet tick).Returns 0 .shutdown
      (fleet.files.removeDirectory fleet.rootDir).2 where
  after := List.mem_cons_self
  before := by simp [Calling.Unreturned, calling, returning, leaving]

/-- A fleet with one member is shut down once others have changed the files. -/
theorem course_returning (hopen : fleet.shutDown = false) (hslots : fleet.slots = [some handle])
    (files : Files) :
    ∃ left early, Course step? (ofStart fleet tick) (early ++ [returning left tick])
        (returning left tick).after ∧
      Serial (early ++ [returning left tick]) ∧
      left.files = files ∧ left.rootDir = fleet.rootDir ∧ left.shutDown = true := by
  have htouch : (ofStart fleet tick).step? (.outside (.touch files)) =
      some (ofStart { fleet with files } tick, []) := rfl
  let told : Fleet := { ({ fleet with files } : Fleet).told with doneFired := true }
  have hdraining : LeadsSerially (ofStart { fleet with files } tick)
      (leaving told tick [] .draining) := leads_draining tick hopen
  have hemptied : LeadsSerially (leaving told tick [] .draining)
      (leaving (told.release 0 .shutdown) tick [0] (.emptying [] [])) :=
    leads_emptied tick hslots rfl
  obtain ⟨early, hearly, hserial⟩ :=
    ((LeadsSerially.of_step? htouch (by simp)).trans hdraining).trans hemptied
  exact ⟨told.release 0 .shutdown, early, .next hearly (step?_returning tick _),
    hserial.append (by simp [Serial, returning]), rfl, rfl, rfl⟩

/-- The moment in which a shutdown is called again, and returns at once. -/
def repeating (system : System) : Moment System Event where
  before := system
  event := .call .shutdown
  commands := []
  after := { system with
    calls := system.calls ++ [⟨system.made, .shutdown, .finished (.ok ())⟩]
    made := system.made + 1 }

theorem step?_repeating {system : System} (hshut : system.fleet.shutDown = true) :
    system.step? (.call .shutdown) = some (system.repeating.after, []) := by
  have hshut : system.calling.fleet.shutDown = true := hshut
  simp only [step?, Calling.make, if_pos hshut]
  rfl

end System

/-- A directory with a link to it that has the name of a fleet's directory. -/
def linkedFiles : Files := { entries := [(["real"], .directory), (["fleet"], .link "real")] }

theorem ofPath_slash : PathParts.ofPath "fleet/" = .ok ⟨["fleet"], true⟩ := by
  have hsize : "fleet/".utf8ByteSize = 6 := rfl
  simp [PathParts.ofPath, Path.splitSlashes, hsize]

theorem prepareDirectory_slash : ({} : Files).prepareDirectory "fleet/" =
    ({ entries := [(["fleet"], .directory)] }, .ok ()) := by
  have hsize : "fleet".utf8ByteSize = 5 := rfl
  have hwalk : ∀ follow, ({} : Files).walk follow Files.maxLinks [] ["fleet"] = .ok ["fleet"] := by
    intro follow
    simp [Files.walk, Files.entry?, Files.maxNameBytes, Keyed.find?, hsize]
  have hmissing : Files.entry? {} ["fleet"] = none := rfl
  have hstat : ({} : Files).stat false "fleet/" = .error .notFound := by
    simp only [Files.stat_eq ofPath_slash, hwalk, hmissing]
  have hmake : ({} : Files).makeDirectory "fleet/" =
      .ok { entries := [(["fleet"], .directory)] } := by
    simp only [Files.makeDirectory, ofPath_slash, hwalk, hmissing, bind, Except.bind]
    rfl
  simp [Files.prepareDirectory, Files.removeDirectory, Files.removeTree, hstat, Files.makeAll,
    Files.makeDirectories, hmake]

theorem stat_linked (follow : Bool) :
    linkedFiles.stat follow "fleet/" = .ok (["real"], .directory) := by
  have hsize : "fleet".utf8ByteSize = 5 := rfl
  have hreal : "real".utf8ByteSize = 4 := rfl
  have hwalk : linkedFiles.walk true Files.maxLinks [] ["fleet"] = .ok ["real"] := by
    simp [Files.walk, linkedFiles, Files.entry?, Files.maxNameBytes, Files.maxLinks, Keyed.find?,
      hsize, hreal, Path.isAbsolute, Path.splitSlashes]
  have hentry : linkedFiles.entry? ["real"] = some .directory := rfl
  simp only [Files.stat_eq ofPath_slash, Bool.or_true, hwalk, hentry]

theorem removeDirectory_linked : linkedFiles.removeDirectory "fleet/" =
    (linkedFiles, .error (.path "fleet/" .notADirectory)) := by
  have hroot : linkedFiles.directoryKey [] = .ok [] := by
    simp [Files.directoryKey, Files.walk, Files.entry?, bind, Except.bind]
  have hempty : linkedFiles.removeEmpty ["real"] ⟨["fleet"], true⟩ = .error .notADirectory := by
    simp [Files.removeEmpty, hroot, bind, Except.bind]
  have hbelow : linkedFiles.pruneBelow ["real"] = linkedFiles := rfl
  simp [Files.removeDirectory, Files.removeTree, stat_linked, hbelow, ofPath_slash, hempty,
    Except.bind]

/-- The smallest fleet is shut down. -/
theorem solo_successful_shutdown_leaves_no_member :
    ∃ fleet early moment last, Started soloSettings fleet ∧
      Course System.step? (System.ofStart fleet 0) (early ++ [moment]) last ∧
      Serial (early ++ [moment]) ∧ moment.Returns 0 .shutdown (.ok ()) ∧
      (∀ process ∈ moment.after.fleet.slots, process = none) ∧
      moment.after.fleet.files.Absent soloSettings.fleet.rootDir := by
  obtain ⟨fleet, member, handle, hstarted, -, hslots⟩ := started_soloAt rfl prepareDirectory_solo
  obtain ⟨left, early, hcourse, hserial, hfiles, hroot, -⟩ :=
    System.course_returning 0 hstarted.fledgling.isOpen hslots
      { entries := [(["fleet"], .directory)] }
  have hresult : (left.files.removeDirectory left.rootDir).2 = .ok () := by
    rw [hfiles, hroot, hstarted.rootDir_eq]
    exact removeDirectory_solo
  have hreturns := hresult ▸ System.returns_returning 0 left
  obtain ⟨hempty, -, habsent, -⟩ :=
    successful_shutdown_leaves_no_member hstarted hcourse hserial hreturns
  exact ⟨fleet, early, System.returning left 0, _, hstarted, hcourse, hserial, hreturns, hempty,
    habsent (by simp [Moment.Repeats, System.returning])⟩

/-- So it does not hold that the directory is gone whenever a shutdown returns without an error: the
first one may have failed to remove it. -/
theorem not_every_successful_shutdown_removes_directory :
    ¬ ∀ settings fleet tick last early late moment id, Started settings fleet →
      Course System.step? (System.ofStart fleet tick) (early ++ moment :: late) last →
      Serial (early ++ moment :: late) → moment.Returns id .shutdown (.ok ()) →
      (∀ process ∈ moment.after.fleet.slots, process = none) ∧
      (∀ member ∈ moment.after.fleet.members, member.running = false) ∧
      moment.after.fleet.files.Absent settings.fleet.rootDir := by
  intro hgone
  obtain ⟨fleet, member, handle, hstarted, -, hslots⟩ :=
    started_soloAt rfl prepareDirectory_slash
  obtain ⟨left, early, hcourse, hserial, hfiles, hroot, hshut⟩ :=
    System.course_returning 0 hstarted.fledgling.isOpen hslots linkedFiles
  have hremoved : left.files.removeDirectory left.rootDir =
      (linkedFiles, .error (.path "fleet/" .notADirectory)) := by
    rw [hfiles, hroot, hstarted.rootDir_eq]
    exact removeDirectory_linked
  -- The removal has failed, and the second shutdown returns without an error all the same.
  have hagain := Course.next hcourse (System.step?_repeating hshut)
  have hcalm : Serial (early ++ [System.returning left 0] ++
      [(System.returning left 0).after.repeating]) := by
    refine hserial.append fun moment hmem _ _ => ?_
    obtain rfl := List.mem_singleton.mp hmem
    simp [System.Returned, System.repeating, System.returning, System.leaving]
  have hreturns : (System.returning left 0).after.repeating.Returns 1 .shutdown (.ok ()) :=
    ⟨List.mem_append_right _ List.mem_cons_self, by
      simp [Calling.Unreturned, System.calling, System.repeating, System.returning,
        System.leaving]⟩
  obtain ⟨-, -, habsent⟩ := hgone _ _ _ _ _ [] _ 1 hstarted hagain hcalm hreturns
  have hfiles : (System.returning left 0).after.repeating.after.fleet.files = linkedFiles :=
    congrArg Prod.fst hremoved
  have hfound := habsent false
  rw [hfiles] at hfound
  exact absurd ((stat_linked false).symm.trans hfound) (by simp)

end FleetControl
