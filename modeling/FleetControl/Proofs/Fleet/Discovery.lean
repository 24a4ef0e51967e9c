import FleetControl.Proofs.Fleet.Search

/-!
# The outcome of a search

A start that is searching can always go on with one of its searches, whatever the replies. So a
bounded search tells its whole tale, unless the start comes down first; and one without a bound asks
again after every reply that settles nothing, until its attempts can no longer be counted.
-/

namespace FleetControl

open FleetControl.Number SearchNote

namespace Bootstrap

variable {start next first last : Bootstrap} {event : StartEvent} {commands : List Command}
  {plan : SearchPlan} {slot : Nat} {old : Member} {search : Search} {member : Member}
  {searches : List Search} {moments : List (Moment Bootstrap StartEvent)}

/-! ### Going on -/

/-- The start goes on without the root signal, and what the search does meanwhile is this. -/
def GoesOn (slot : Nat) (start : Bootstrap) (tale : List SearchNote) (next : Bootstrap) : Prop :=
  ∃ moments, Course Bootstrap.step? start moments next ∧
    (∀ moment ∈ moments, moment.event ≠ .outside .fireRoot) ∧ searchTale slot moments = tale

theorem GoesOn.trans {early late : List SearchNote} (hearly : GoesOn slot start early next)
    (hlate : GoesOn slot next late last) : GoesOn slot start (early ++ late) last := by
  obtain ⟨before, hbefore, hquiet, rfl⟩ := hearly
  obtain ⟨after, hafter, hstill, rfl⟩ := hlate
  refine ⟨before ++ after, hbefore.append hafter, fun moment hmem => ?_, searchTale_append ..⟩
  rcases List.mem_append.mp hmem with hmem | hmem
  · exact hquiet moment hmem
  · exact hstill moment hmem

theorem GoesOn.single (slot : Nat) (hstep : start.step? event = some (next, commands))
    (hfire : event ≠ .outside .fireRoot) :
    GoesOn slot start (searchNotes slot ⟨start, event, commands, next⟩) next := by
  refine ⟨_, .single hstep, fun moment hmem => ?_, ?_⟩
  · rwa [List.mem_singleton.mp hmem]
  · simp [searchTale, searchLog, Function.comp_def]

/-- A search that is about to ask can ask, if the attempt can be counted. -/
theorem goesOn_ask (hphase : start.phase = .searching searches)
    (hsearch : searches[slot]? = some search) (hmember : start.fleet.member? slot = some member)
    (hroot : start.fleet.rootFired = false) (hchecking : search.phase = .checking)
    (hword : search.attempts + 1 < wordCount Search.attemptBits) :
    ∃ next, GoesOn slot start [.asked] next ∧ next.phase.IsSearching := by
  have hattempt : search.attempt start.fleet.rootFired =
      .ok { attempts := search.attempts + 1, phase := .asking } := by
    rw [hroot]
    exact Search.attempt_eq_ok_iff.mpr ⟨hword, rfl⟩
  have hlength := (List.getElem?_eq_some_iff.mp hsearch).1
  have hstep : start.step? (.attempt slot) = some
      ({ start with
        phase := .searching
          (searches.set slot { attempts := search.attempts + 1, phase := .asking }) },
        [.query slot member.config]) := by
    simp only [Bootstrap.step?, Bootstrap.onAttempt, hphase, hsearch, hmember, Option.bind_eq_bind,
      Option.bind_some, hattempt]
    rw [if_neg (by simp [hchecking]),
      settleSearching_of_mem (List.mem_of_getElem? (List.getElem?_set_self hlength)) rfl]
    rfl
  have hgoes := GoesOn.single slot hstep (by simp)
  exact ⟨_, by simpa [searchNotes] using hgoes, _, rfl⟩

/-- An attempt that cannot be counted unwinds the start. -/
theorem unwinds_on_attempt (hphase : start.phase = .searching searches)
    (hsearch : searches[slot]? = some search) (hmember : start.fleet.member? slot = some member)
    (hroot : start.fleet.rootFired = false) (hchecking : search.phase = .checking)
    (hword : wordCount Search.attemptBits ≤ search.attempts + 1) :
    start.step? (.attempt slot) =
      some ({ start with phase := .unwound "attempt to add with overflow" }, []) := by
  have hattempt : search.attempt start.fleet.rootFired = .error .add := by
    rw [hroot]
    exact Search.attempt_eq_error hword
  simp only [Bootstrap.step?, Bootstrap.onAttempt, hphase, hsearch, hmember, Option.bind_eq_bind,
    Option.bind_some, hattempt]
  rw [if_neg (by simp [hchecking])]
  rfl

/-- A question can be answered, with any reply. -/
theorem goesOn_hear (hphase : start.phase = .searching searches)
    (hsearch : searches[slot]? = some search) (hmember : start.fleet.member? slot = some member)
    (hasking : search.phase = .asking) (reply : StatusReply) :
    ∃ next, GoesOn slot start [.heard reply] next ∧ next.phase.IsSearching ∨
      ∃ outcome, GoesOn slot start [.heard reply, .returned outcome] next := by
  have hlength := (List.getElem?_eq_some_iff.mp hsearch).1
  have hreturns : start.returnsOn? slot reply =
      (search.take start.plan start.fleet.clock.instant member reply).1.outcome? := by
    simp [returnsOn?, searchOf?, hphase, hsearch, hmember]
  obtain ⟨taken, htaken⟩ : ∃ taken,
      taken = search.take start.plan start.fleet.clock.instant member reply := ⟨_, rfl⟩
  obtain ⟨base, hbase⟩ : ∃ base : Bootstrap, base =
      { start with fleet := start.fleet.changeMember slot fun _ => taken.2 } := ⟨_, rfl⟩
  have hstep : start.step? (.answered slot (.reply reply)) =
      some (base.settleSearching (searches.set slot taken.1)) := by
    simp only [Bootstrap.step?, Bootstrap.onAnswered, hphase, hsearch, hmember, Option.bind_eq_bind,
      Option.bind_some, hbase, htaken]
    rw [if_neg (by simp [hasking])]
  rw [← htaken] at hreturns
  have settles := settles_settleSearching base (searches.set slot taken.1)
  have hopen : taken.1.outcome? = none →
      (base.settleSearching (searches.set slot taken.1)).1.phase.IsSearching := fun houtcome =>
    ⟨_, by rw [settleSearching_of_mem
      (List.mem_of_getElem? (List.getElem?_set_self hlength)) houtcome]⟩
  -- Whether the other searches are open decides what the step leads to, not what this one does.
  generalize base.settleSearching (searches.set slot taken.1) = result at hstep settles hopen
  obtain ⟨next, commands⟩ := result
  have hgoes := GoesOn.single slot hstep (by simp)
  simp only [searchNotes, settles.quiet, hreturns, List.map_nil, List.nil_append, if_true] at hgoes
  refine ⟨next, ?_⟩
  cases houtcome : taken.1.outcome? with
  | some outcome =>
      rw [houtcome] at hgoes
      exact .inr ⟨outcome, hgoes⟩
  | none =>
      rw [houtcome] at hgoes
      exact .inl ⟨hgoes, hopen houtcome⟩

/-- A pause can end. -/
theorem goesOn_rest {due : Nanos} (hphase : start.phase = .searching searches)
    (hsearch : searches[slot]? = some search) (hresting : search.phase = .resting due) :
    ∃ next, GoesOn slot start [.rested] next ∧ next.phase.IsSearching := by
  have hdue : ¬ max due start.fleet.clock.instant < due := Nat.not_lt.mpr (Nat.le_max_left ..)
  have hrested : ({ start with
      fleet := { start.fleet with clock := ⟨max due start.fleet.clock.instant, 0⟩ } } :
        Bootstrap).step? (.rested slot) =
      some ({ start with
        fleet := { start.fleet with clock := ⟨max due start.fleet.clock.instant, 0⟩ }
        phase := .searching (searches.set slot { search with phase := .checking }) }, []) := by
    simp only [Bootstrap.step?, Bootstrap.onRested, hphase, hsearch, hresting, hdue,
      Option.bind_eq_bind, Option.bind_some, if_false]
  have hgoes := (GoesOn.single slot (start.step?_time due) (by simp)).trans (.single slot hrested (by simp))
  exact ⟨_, by simpa [searchNotes] using hgoes, _, rfl⟩

/-! ### Going on to the end -/

/-- The notes that a search comes to which gets the replies of a row and is not cut short: its notes
are the beginning of these, it is not over before, and till then its attempts can be counted. -/
structure Destined (plan : SearchPlan) (old : Member) (row : Nat → StatusReply)
    (target : List SearchNote) : Prop where
  before : ∀ {notes search member}, Stage plan old notes search member →
    Replays (replies notes) row → notes.length ≤ target.length → notes <+: target
  ended : ∀ {notes search member}, Stage plan old notes search member →
    Replays (replies notes) row → search.outcome? = none ∨ notes = target
  counted : ∀ {notes search member}, Stage plan old notes search member →
    Replays (replies notes) row → notes.length < target.length → search.phase = .checking →
    search.attempts + 1 < wordCount Search.attemptBits

variable {row : Nat → StatusReply} {early : List (Nanos × SearchNote)} {target : List SearchNote}

/-- A search that has not come to its end does one thing more, or comes to its end with two. -/
theorem exists_goesOn_one (destined : Destined plan old row target)
    (pursues : Pursues plan slot old early start) (hsearching : start.phase.IsSearching)
    (hreplays : Replays (replies (early.map Prod.snd)) row)
    (hshort : (early.map Prod.snd).length < target.length) :
    (∃ note next, GoesOn slot start [note] next ∧ next.phase.IsSearching ∧
      Replays (replies (early.map Prod.snd ++ [note])) row) ∨
    ∃ notes next outcome, GoesOn slot start notes next ∧ early.map Prod.snd ++ notes = target ∧
      .returned outcome ∈ target := by
  obtain ⟨searches, hphase⟩ := hsearching
  obtain ⟨search, member, pursuit, hmember, hsearch⟩ := pursues.exists_pursuit
  have hsearch := hsearch searches hphase
  have stage := pursuit.stage
  have hopen : search.outcome? = none := by
    refine (destined.ended stage hreplays).resolve_right fun hover => ?_
    rw [hover] at hshort
    exact Nat.lt_irrefl _ hshort
  cases hnow : search.phase with
  | checking =>
      obtain ⟨next, hgoes, hgoing⟩ := goesOn_ask hphase hsearch hmember pursues.unfired hnow
        (destined.counted stage hreplays hshort hnow)
      exact .inl ⟨_, next, hgoes, hgoing, by simpa using hreplays⟩
  | resting due =>
      obtain ⟨next, hgoes, hgoing⟩ := goesOn_rest hphase hsearch hnow
      exact .inl ⟨_, next, hgoes, hgoing, by simpa using hreplays⟩
  | asking =>
      have hheard := Replays.concat hreplays
      obtain ⟨next, ⟨hgoes, hgoing⟩ | ⟨outcome, hgoes⟩⟩ := goesOn_hear hphase hsearch hmember hnow
        (row (replies (early.map Prod.snd)).length)
      · exact .inl ⟨_, next, hgoes, hgoing, by simpa using hheard⟩
      · -- The search has returned, and a search that has is at its end.
        obtain ⟨after, hafter, hquiet, htale⟩ := hgoes
        obtain ⟨search, member, pursuit, -, -⟩ := (pursues.course hafter hquiet).exists_pursuit
        have hnotes : (early ++ searchLog slot after).map Prod.snd = early.map Prod.snd ++
            [.heard (row (replies (early.map Prod.snd)).length), .returned outcome] := by
          rw [List.map_append, ← htale, searchTale]
        have stage := pursuit.stage
        rw [hnotes] at stage
        have hreturned : .returned outcome ∈ early.map Prod.snd ++
            [.heard (row (replies (early.map Prod.snd)).length), .returned outcome] := by simp
        have htarget := (destined.ended stage (by simpa using hheard)).resolve_left
          (stage.outcome?_of_returned hreturned)
        exact .inr ⟨_, next, outcome, ⟨after, hafter, hquiet, htale⟩, htarget, by simp [← htarget]⟩
  | found | lost error => simp [Search.outcome?, hnow] at hopen

/-- A search that gets the replies of a row goes on to the notes it is destined for. -/
theorem exists_goesOn (destined : Destined plan old row target)
    (pursues : Pursues plan slot old early start) (hsearching : start.phase.IsSearching)
    (hreplays : Replays (replies (early.map Prod.snd)) row)
    (hlength : (early.map Prod.snd).length ≤ target.length) :
    ∃ notes last, GoesOn slot start notes last ∧ early.map Prod.snd ++ notes = target ∧
      (last.phase.IsSearching ∨ ∃ outcome, .returned outcome ∈ target) := by
  -- By induction on the number of notes that are left.
  obtain ⟨gap, hgap⟩ := Nat.exists_eq_add_of_le hlength
  induction gap generalizing start early with
  | zero =>
      obtain ⟨search, member, pursuit, -, -⟩ := pursues.exists_pursuit
      have hsame := (destined.before pursuit.stage hreplays hlength).eq_of_length hgap.symm
      exact ⟨[], start, ⟨[], .start, by simp, rfl⟩, by simpa using hsame, .inl hsearching⟩
  | succ gap ih =>
      rcases exists_goesOn_one destined pursues hsearching hreplays (by omega) with
        ⟨note, next, ⟨more, hmore, hquiet, htale⟩, hgoing, hnext⟩ |
        ⟨notes, next, outcome, hgoes, htarget, hreturned⟩
      · have hnotes : (early ++ searchLog slot more).map Prod.snd =
            early.map Prod.snd ++ [note] := by
          rw [List.map_append, ← htale, searchTale]
        have hsize : ((early ++ searchLog slot more).map Prod.snd).length =
            (early.map Prod.snd).length + 1 := by
          rw [hnotes, List.length_append, List.length_singleton]
        obtain ⟨notes, last, hgoes, htarget, hlast⟩ := ih (pursues.course hmore hquiet) hgoing
          (by rwa [hnotes]) (by omega) (by omega)
        rw [hnotes, List.append_assoc] at htarget
        exact ⟨[note] ++ notes, last, .trans ⟨more, hmore, hquiet, htale⟩ hgoes, htarget, hlast⟩
      · exact ⟨notes, next, hgoes, htarget, .inr ⟨outcome, hreturned⟩⟩

/-- A bounded search is destined for its tale. -/
theorem destined_tale (hbound : 0 < plan.maxAttempts)
    (hword : plan.maxAttempts < wordCount Search.attemptBits) :
    Destined plan old row (tale old.name plan.maxAttempts row) where
  before stage hreplays _ := (stage.tells hbound hreplays).1
  ended stage hreplays := (stage.tells hbound hreplays).2
  counted stage _ _ hchecking := by
    have := (stage.length_of_checking hchecking).2
    omega

/-- An unbounded search whose replies settle nothing is destined for as many questions as can be
counted. -/
theorem destined_of_countable (hbound : plan.maxAttempts = 0)
    (hrow : ∀ place, (row place).settles = false)
    (htarget : target <+: fruitless (upTo row (wordCount Search.attemptBits - 1))) :
    Destined plan old row target where
  before stage hreplays hlength :=
    List.prefix_of_prefix_length_le (stage.endless hbound hrow hreplays).2 htarget hlength
  ended stage hreplays := .inl (stage.endless hbound hrow hreplays).1
  counted stage _ hshort hchecking := by
    have hnotes := (stage.length_of_checking hchecking).1
    have hlong := htarget.length_le
    rw [length_fruitless, length_upTo] at hlong
    omega

/-! ### The two kinds of searches -/

/-- Whatever the replies to a bounded search, the other searches beside it, and the instants: the
search does what its tale says, and rests between two questions for as long as was planned; the
record of its member takes up the last report and nothing else; and it can always be carried to the
end of its tale, as long as the start is searching. -/
theorem bounded_search_tells_its_tale (hbegun : first.searchOf? slot = some {})
    (hmember : first.fleet.member? slot = some old) (hroot : first.fleet.rootFired = false)
    (hbound : 0 < first.plan.maxAttempts)
    (hword : first.plan.maxAttempts < wordCount Search.attemptBits)
    (hcourse : Course Bootstrap.step? first moments last)
    (hfire : ∀ moment ∈ moments, moment.event ≠ .outside .fireRoot)
    (hreplays : Replays (replies (searchTale slot moments)) row) :
    searchTale slot moments <+: tale old.name first.plan.maxAttempts row ∧
    (searchLog slot moments).IsChain
      (fun earlier later => later.2 = .rested → earlier.1 + first.plan.backoff ≤ later.1) ∧
    last.fleet.member? slot = some (old.introduced (replies (searchTale slot moments))) ∧
    (last.phase.IsSearching → ∃ rest final, GoesOn slot last rest final ∧
      searchTale slot moments ++ rest = tale old.name first.plan.maxAttempts row) := by
  have pursues := Pursues.along hbegun hmember hroot hcourse hfire
  obtain ⟨search, member, pursuit, hlast, -⟩ := pursues.exists_pursuit
  have htells := (pursuit.stage.tells hbound hreplays).1
  refine ⟨htells, pursuit.paused.1, ?_, fun hsearching => ?_⟩
  · rw [hlast, pursuit.stage.member_eq]
    rfl
  · obtain ⟨rest, final, hgoes, htale, -⟩ := exists_goesOn (destined_tale hbound hword) pursues
      hsearching hreplays htells.length_le
    exact ⟨rest, final, hgoes, htale⟩

/-- A start that has just begun the search with its only member. -/
def soloSearch (maxAttempts : Nat) : Bootstrap where
  plan := { backoff := 5, maxAttempts }
  fleet := { rootDir := "fleet", interval := 0, members := [Member.new 0 default {}] }
  handles := [0]
  phase := .searching [{}]

/-- The replies of a member that knows its leader, which is itself, after so many questions. -/
def leadingAfter (count place : Nat) : StatusReply :=
  .ok { memberId := 17, leaderId := if place < count then 0 else 17, dbSize := 0 }

theorem solo_search_tells_its_tale :
    ∃ moments last, Course Bootstrap.step? (soloSearch 2) moments last ∧
      searchTale 0 moments = [.asked, .heard (leadingAfter 1 0), .rested, .asked,
        .heard (leadingAfter 1 1), .returned (.ok ())] ∧
      last.fleet.member? 0 = some ((Member.new 0 default {}).introduced
        [leadingAfter 1 0, leadingAfter 1 1]) := by
  have hbegun : (soloSearch 2).searchOf? 0 = some {} := rfl
  have hword : (soloSearch 2).plan.maxAttempts < wordCount Search.attemptBits := by decide
  have hunheard : Replays (replies []) (leadingAfter 1) := rfl
  obtain ⟨rest, final, ⟨moments, hcourse, hfire, hrest⟩, htale⟩ :=
    (bounded_search_tells_its_tale hbegun rfl rfl (by decide) hword .start (by simp)
      hunheard).2.2.2 ⟨_, rfl⟩
  have htold : searchTale 0 moments = [.asked, .heard (leadingAfter 1 0), .rested, .asked,
      .heard (leadingAfter 1 1), .returned (.ok ())] := hrest.trans htale
  have hheard : Replays (replies (searchTale 0 moments)) (leadingAfter 1) := by
    rw [htold]
    rfl
  have hmember := (bounded_search_tells_its_tale hbegun rfl rfl (by decide) hword hcourse hfire
    hheard).2.2.1
  rw [htold] at hmember
  exact ⟨moments, final, hcourse, htold, hmember⟩

/-- Where any number of questions may be asked and no reply settles the search, it never returns
and, as long as the start is searching, can be carried to its next question after any number of
replies whose questions can be counted. Once as many have come as can be counted, the next attempt
unwinds the start. -/
theorem unbounded_search_asks_while_countable (hbegun : first.searchOf? slot = some {})
    (hmember : first.fleet.member? slot = some old) (hroot : first.fleet.rootFired = false)
    (hbound : first.plan.maxAttempts = 0) (hrow : ∀ place, (row place).settles = false)
    (hcourse : Course Bootstrap.step? first moments last)
    (hfire : ∀ moment ∈ moments, moment.event ≠ .outside .fireRoot)
    (hreplays : Replays (replies (searchTale slot moments)) row) :
    searchTale slot moments <+: fruitless (upTo row (wordCount Search.attemptBits - 1)) ∧
    (last.phase.IsSearching →
      (∀ count, (replies (searchTale slot moments)).length ≤ count →
        count + 1 < wordCount Search.attemptBits →
        ∃ rest final, GoesOn slot last rest final ∧ final.phase.IsSearching ∧
          searchTale slot moments ++ rest = fruitless (upTo row count) ++ [.asked]) ∧
      ∃ rest final, GoesOn slot last rest final ∧
        searchTale slot moments ++ rest =
          fruitless (upTo row (wordCount Search.attemptBits - 1)) ∧
        final.step? (.attempt slot) =
          some ({ final with phase := .unwound "attempt to add with overflow" }, [])) := by
  have pursues := Pursues.along hbegun hmember hroot hcourse hfire
  obtain ⟨search, member, pursuit, hlast, -⟩ := pursues.exists_pursuit
  have hendless := pursuit.stage.endless hbound hrow hreplays
  refine ⟨hendless.2, fun hsearching => ⟨fun count hheard hcount => ?_, ?_⟩⟩
  · have htarget : fruitless (upTo row count) ++ [.asked] <+:
        fruitless (upTo row (wordCount Search.attemptBits - 1)) := by
      refine .trans ?_ (fruitless_mono (by omega : count + 1 ≤ _))
      rw [upTo_succ, fruitless_concat]
      exact (List.prefix_append_right_inj _).mpr ⟨_, rfl⟩
    have hlength : (searchTale slot moments).length ≤
        (fruitless (upTo row count) ++ [SearchNote.asked]).length := by
      have hopen := pursuit.stage.length_of_open hendless.1
      rw [List.length_append, length_fruitless, length_upTo, List.length_singleton]
      unfold searchTale at hheard ⊢
      omega
    obtain ⟨rest, final, hgoes, htale, hfinal⟩ :=
      exists_goesOn (destined_of_countable hbound hrow htarget) pursues hsearching hreplays hlength
    refine ⟨rest, final, hgoes, hfinal.resolve_right ?_, htale⟩
    rintro ⟨outcome, hreturned⟩
    simp [returned_notMem_fruitless] at hreturned
  · obtain ⟨rest, final, hgoes, htale, hfinal⟩ :=
      exists_goesOn (destined_of_countable hbound hrow List.prefix_rfl) pursues hsearching hreplays
        hendless.2.length_le
    refine ⟨rest, final, hgoes, htale, ?_⟩
    obtain ⟨searches, hphase⟩ := hfinal.resolve_right fun ⟨outcome, hreturned⟩ =>
      returned_notMem_fruitless _ _ hreturned
    -- As many notes as these leave only one stage, in which the count of attempts is at its end.
    obtain ⟨more, hmore, hquiet, rfl⟩ := hgoes
    have pursues := pursues.course hmore hquiet
    obtain ⟨search, member, pursuit, hmember, hsearch⟩ := pursues.exists_pursuit
    have hnotes : (searchLog slot moments ++ searchLog slot more).map Prod.snd =
        fruitless (upTo row (wordCount Search.attemptBits - 1)) := by
      rw [List.map_append, ← htale]
      rfl
    have stage := pursuit.stage
    rw [hnotes] at stage
    have hlength : (fruitless (upTo row (wordCount Search.attemptBits - 1))).length =
        3 * (wordCount Search.attemptBits - 1) := by rw [length_fruitless, length_upTo]
    have hchecking := stage.eq_checking
      (stage.endless hbound hrow (by rw [replies_fruitless, Replays, length_upTo])).1 hlength
    exact unwinds_on_attempt hphase (hsearch searches hphase) hmember pursues.unfired
      (by rw [hchecking]) (by rw [hchecking]; exact Nat.le_add_of_sub_le (Nat.le_refl _))

theorem solo_search_asks_while_countable :
    (∃ rest final, GoesOn 0 (soloSearch 0) rest final ∧ final.phase.IsSearching ∧
      rest = fruitless (upTo (fun _ => .error default) 3) ++ [.asked]) ∧
    ∃ rest final, GoesOn 0 (soloSearch 0) rest final ∧
      rest = fruitless (upTo (fun _ => .error default) (wordCount Search.attemptBits - 1)) ∧
      final.step? (.attempt 0) =
        some ({ final with phase := .unwound "attempt to add with overflow" }, []) := by
  have hbegun : (soloSearch 0).searchOf? 0 = some {} := rfl
  have hunheard : Replays (replies []) fun _ => .error default := rfl
  have hasks := (unbounded_search_asks_while_countable hbegun rfl rfl rfl (fun _ => rfl) .start
    (by simp) hunheard).2 ⟨_, rfl⟩
  exact ⟨hasks.1 3 (Nat.zero_le _) (by decide), hasks.2⟩

/-- No question follows that cannot be counted. -/
theorem not_goesOn_of_uncountable (hbegun : first.searchOf? slot = some {})
    (hmember : first.fleet.member? slot = some old) (hroot : first.fleet.rootFired = false)
    (hbound : first.plan.maxAttempts = 0) (hrow : ∀ place, (row place).settles = false)
    {count : Nat} (hcount : wordCount Search.attemptBits ≤ count + 1) :
    ¬ GoesOn slot first (fruitless (upTo row count) ++ [.asked]) last := by
  rintro ⟨moments, hcourse, hfire, htale⟩
  have pursues := Pursues.along hbegun hmember hroot hcourse hfire
  obtain ⟨search, member, pursuit, -, -⟩ := pursues.exists_pursuit
  have stage := pursuit.stage
  rw [show (searchLog slot moments).map Prod.snd = _ from htale] at stage
  have hlength := (stage.endless hbound hrow (by simp [Replays])).2.length_le
  simp only [List.length_append, length_fruitless, length_upTo, List.length_singleton] at hlength
  omega

theorem not_every_unbounded_search_asks_again :
    ¬ ∀ count, ∃ final, GoesOn 0 (soloSearch 0)
      (fruitless (upTo (fun _ => .error default) count) ++ [.asked]) final := by
  intro hall
  obtain ⟨final, hgoes⟩ := hall (wordCount Search.attemptBits - 1)
  have hbegun : (soloSearch 0).searchOf? 0 = some {} := rfl
  exact not_goesOn_of_uncountable hbegun rfl rfl rfl (fun _ => rfl) (Nat.le_add_of_sub_le (Nat.le_refl _)) hgoes

end Bootstrap

end FleetControl
