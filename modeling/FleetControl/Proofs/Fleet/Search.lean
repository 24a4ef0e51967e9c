import FleetControl.Proofs.Fleet.AllOrNothing
import FleetControl.Proofs.Fleet.Pursuit

/-!
# Searching for a leader

A start searches with all members at once. Whatever the other members answer, what a start does
for one of them is a pursuit of its own: a bounded search tells its tale, to the end unless the
start comes down first. An unbounded one goes on until its attempts can no longer be counted, and
unwinds the start then.
-/

namespace FleetControl

open FleetControl.Number SearchNote

namespace StartPhase

/-- Members are asked for their leader, or were. -/
def isSearchOrPast : StartPhase → Bool
  | .launching _ => false
  | .awaiting _ => false
  | .settling _ => false
  | .searching _ => true
  | .undoing .. => true
  | .failed _ => true
  | .unwound _ => true
  | .started => true

/-- Members are being asked for their leader. -/
def IsSearching (phase : StartPhase) : Prop := ∃ searches, phase = .searching searches

end StartPhase

/-- The command is the question to a slot's member. -/
def Command.isQueryOf (slot : Nat) : Command → Bool
  | .query other _ => other = slot
  | _ => false

@[simp] theorem Command.isQueryOf_query (slot other : Nat) (config : MemberConfig) :
    (Command.query other config).isQueryOf slot = decide (other = slot) := rfl

namespace Bootstrap

variable {start next base first last : Bootstrap} {event : StartEvent} {commands : List Command}
  {plan : SearchPlan} {slot : Nat} {old : Member} {notes : List (Nanos × SearchNote)}
  {search : Search} {member : Member} {searches : List Search}
  {moments : List (Moment Bootstrap StartEvent)}

/-- The search of a slot's member. -/
def searchOf? (start : Bootstrap) (slot : Nat) : Option Search :=
  match start.phase with
  | .searching searches => searches[slot]?
  | _ => none

/-- What the search of a slot's member returns on this reply, if it is over with it. -/
def returnsOn? (start : Bootstrap) (slot : Nat) (reply : StatusReply) :
    Option (Except Error Unit) := do
  let search ← start.searchOf? slot
  let member ← start.fleet.member? slot
  (search.take start.plan start.fleet.clock.instant member reply).1.outcome?

/-- What the search of a slot's member does in a moment. -/
def searchNotes (slot : Nat) (moment : Moment Bootstrap StartEvent) : List SearchNote :=
  (moment.commands.filter (·.isQueryOf slot)).map (fun _ => .asked) ++
    match moment.event with
    | .answered other (.reply reply) =>
        if other = slot then
          .heard reply :: (moment.before.returnsOn? slot reply).toList.map .returned
        else []
    | .rested other => if other = slot then [.rested] else []
    | _ => []

/-- All that the search of a slot's member does, with the instants. -/
def searchLog (slot : Nat) (moments : List (Moment Bootstrap StartEvent)) :
    List (Nanos × SearchNote) :=
  moments.flatMap fun moment =>
    (searchNotes slot moment).map fun note => (moment.before.fleet.clock.instant, note)

/-- All that the search of a slot's member does. -/
def searchTale (slot : Nat) (moments : List (Moment Bootstrap StartEvent)) : List SearchNote :=
  (searchLog slot moments).map Prod.snd

@[simp] theorem searchTale_append (early late : List (Moment Bootstrap StartEvent)) :
    searchTale slot (early ++ late) = searchTale slot early ++ searchTale slot late := by
  simp [searchTale, searchLog]

/-! ### One search among many -/

/-- A start goes on with these searches, or is past them. -/
structure Settles (base : Bootstrap) (searches : List Search)
    (result : Bootstrap × List Command) : Prop where
  plan : result.1.plan = base.plan
  members : result.1.fleet.members = base.fleet.members
  root : result.1.fleet.rootFired = base.fleet.rootFired
  past : result.1.phase.isSearchOrPast = true
  same : ∀ others, result.1.phase = .searching others → others = searches
  quiet : ∀ slot, result.2.filter (·.isQueryOf slot) = []

theorem settles_undo (base : Bootstrap) (searches : List Search) (error : Error) :
    Settles base searches (base.undo error) := by
  unfold undo
  split
  next => exact ⟨rfl, rfl, rfl, rfl, by simp, fun _ => rfl⟩
  next =>
    refine ⟨rfl, rfl, rfl, rfl, by simp, fun slot => List.filter_eq_nil_iff.mpr ?_⟩
    intro command hmem
    obtain ⟨torn, htorn, hmem⟩ := List.mem_flatten.mp hmem
    obtain ⟨⟨handle, place⟩, -, rfl⟩ := List.mem_map.mp htorn
    simp only [teardown, List.mem_cons, List.not_mem_nil, or_false] at hmem
    rcases hmem with rfl | rfl | rfl <;> simp [Command.isQueryOf]

theorem settles_settleSearching (base : Bootstrap) (searches : List Search) :
    Settles base searches (base.settleSearching searches) := by
  rcases Stride.settleSearching_cases base searches with hopen | ⟨error, hundone⟩ | ⟨-, hover⟩
  · rw [hopen]
    exact ⟨rfl, rfl, rfl, rfl, fun _ hsame => (StartPhase.searching.inj hsame).symm, fun _ => rfl⟩
  · rw [hundone]
    exact settles_undo base searches error
  · rw [hover]
    exact ⟨rfl, rfl, rfl, rfl, by simp, fun _ => rfl⟩

/-- The search of a slot's member has come to this, or was cut short at it. -/
structure Pursues (plan : SearchPlan) (slot : Nat) (old : Member)
    (notes : List (Nanos × SearchNote)) (start : Bootstrap) : Prop where
  plan_eq : start.plan = plan
  unfired : start.fleet.rootFired = false
  past : start.phase.isSearchOrPast = true
  exists_pursuit : ∃ search member, Pursuit plan old notes search member ∧
    start.fleet.member? slot = some member ∧
    ∀ searches, start.phase = .searching searches → searches[slot]? = some search

namespace Pursues

theorem begin (hbegun : first.searchOf? slot = some {})
    (hmember : first.fleet.member? slot = some old) (hroot : first.fleet.rootFired = false) :
    Pursues first.plan slot old [] first := by
  unfold searchOf? at hbegun
  split at hbegun
  next searches hphase =>
    refine ⟨rfl, hroot, by rw [hphase]; rfl, {}, old, .begin, hmember, fun others hothers => ?_⟩
    obtain rfl := StartPhase.searching.inj (hphase.symm.trans hothers)
    exact hbegun
  next => simp at hbegun

theorem of_settles {result : Bootstrap × List Command} (settles : Settles base searches result)
    (hplan : base.plan = plan) (hroot : base.fleet.rootFired = false)
    (pursuit : Pursuit plan old notes search member)
    (hmember : base.fleet.member? slot = some member) (hsearch : searches[slot]? = some search) :
    Pursues plan slot old notes result.1 := by
  refine ⟨settles.plan.trans hplan, settles.root.trans hroot, settles.past, search, member,
    pursuit, ?_, fun others hothers => settles.same others hothers ▸ hsearch⟩
  rw [Fleet.member?, settles.members]
  exact hmember

/-- What does not touch the searches and the members. -/
theorem of_members (pursues : Pursues plan slot old notes start) (hplan : next.plan = start.plan)
    (hmembers : next.fleet.members = start.fleet.members)
    (hroot : next.fleet.rootFired = start.fleet.rootFired)
    (hpast : next.phase.isSearchOrPast = true)
    (hsame : ∀ searches, next.phase = .searching searches → start.phase = .searching searches) :
    Pursues plan slot old notes next := by
  obtain ⟨search, member, pursuit, hmember, hsearch⟩ := pursues.exists_pursuit
  refine ⟨hplan.trans pursues.plan_eq, hroot.trans pursues.unfired, hpast, search, member,
    pursuit, ?_, fun searches hphase => hsearch searches (hsame searches hphase)⟩
  rw [Fleet.member?, hmembers]
  exact hmember

theorem onAttempt (pursues : Pursues plan slot old notes start) {other : Nat}
    (hstep : start.onAttempt other = some (next, commands)) :
    Pursues plan slot old
      (notes ++ (searchNotes slot ⟨start, .attempt other, commands, next⟩).map fun note =>
        (start.fleet.clock.instant, note)) next := by
  unfold Bootstrap.onAttempt at hstep
  split at hstep
  next searches hphase =>
    simp only [Option.bind_eq_bind, Option.bind_eq_some_iff] at hstep
    obtain ⟨search, hsearch, member, hmember, hstep⟩ := hstep
    split at hstep
    next => simp at hstep
    next hchecking =>
      split at hstep
      next overflow hattempt =>
        obtain ⟨rfl, rfl⟩ := Prod.mk.inj (Option.some.inj hstep)
        have hunwound : Pursues plan slot old notes
            { start with phase := .unwound overflow.message } :=
          pursues.of_members rfl rfl rfl rfl (by simp)
        simpa [searchNotes] using hunwound
      next asked hattempt =>
        rw [pursues.unfired] at hattempt
        obtain ⟨-, hasked⟩ := Search.attempt_eq_ok_iff.mp hattempt
        have hasking : asked.phase = .asking := by rw [hasked]
        obtain ⟨rfl, rfl⟩ := Prod.mk.inj (Option.some.inj hstep)
        have settles := settles_settleSearching start (searches.set other asked)
        have hlength := (List.getElem?_eq_some_iff.mp hsearch).1
        obtain ⟨own, record, pursuit, hrecord, hown⟩ := pursues.exists_pursuit
        rw [if_pos hasking]
        -- An attempt of another member's search leaves this one as it is.
        by_cases hother : other = slot
        · subst hother
          obtain rfl := Option.some.inj (hsearch.symm.trans (hown searches hphase))
          have hasks := Pursues.of_settles settles pursues.plan_eq pursues.unfired
            (pursuit.ask (Decidable.not_not.mp hchecking) hattempt start.fleet.clock.instant)
            hrecord (List.getElem?_set_self hlength)
          simpa [searchNotes, settles.quiet] using hasks
        · have hspared := Pursues.of_settles settles pursues.plan_eq pursues.unfired pursuit
            hrecord
            ((List.getElem?_set_ne hother).trans (hown searches hphase))
          simpa [searchNotes, settles.quiet, hother] using hspared
  next => simp at hstep

theorem onAnswered (pursues : Pursues plan slot old notes start) {other : Nat}
    {answer : Answer StatusReport} (hstep : start.onAnswered other answer = some (next, commands)) :
    Pursues plan slot old
      (notes ++ (searchNotes slot ⟨start, .answered other answer, commands, next⟩).map fun note =>
        (start.fleet.clock.instant, note)) next := by
  unfold Bootstrap.onAnswered at hstep
  split at hstep
  next searches hphase =>
    simp only [Option.bind_eq_bind, Option.bind_eq_some_iff] at hstep
    obtain ⟨search, hsearch, member, hmember, hstep⟩ := hstep
    split at hstep
    next => simp at hstep
    next hasking =>
      cases answer with
      | unwound text =>
          obtain ⟨rfl, rfl⟩ := Prod.mk.inj (Option.some.inj hstep)
          have hunwound : Pursues plan slot old notes { start with phase := .unwound text } :=
            pursues.of_members rfl rfl rfl rfl (by simp)
          simpa [searchNotes] using hunwound
      | reply reply =>
          have hsettled := Option.some.inj hstep
          have settles := settles_settleSearching
            { start with
              fleet := start.fleet.changeMember other fun _ =>
                (search.take start.plan start.fleet.clock.instant member reply).2 }
            (searches.set other
              (search.take start.plan start.fleet.clock.instant member reply).1)
          rw [hsettled] at settles
          have hlength := (List.getElem?_eq_some_iff.mp hsearch).1
          obtain ⟨own, record, pursuit, hrecord, hown⟩ := pursues.exists_pursuit
          have hplan := pursues.plan_eq
          -- So does a reply to another member's question, which changes that member's record only.
          by_cases hother : other = slot
          · subst hother
            obtain rfl := Option.some.inj (hsearch.symm.trans (hown searches hphase))
            obtain rfl := Option.some.inj (hmember.symm.trans hrecord)
            have hreturns : start.returnsOn? other reply =
                (search.take start.plan start.fleet.clock.instant member reply).1.outcome? := by
              simp [returnsOn?, searchOf?, hphase, hsearch, hmember]
            subst hplan
            have hhears := Pursues.of_settles settles rfl pursues.unfired
              (pursuit.hear (Decidable.not_not.mp hasking) start.fleet.clock.instant reply)
              (by rw [Fleet.member?_changeMember_self, hmember]; rfl)
              (List.getElem?_set_self hlength)
            simpa [searchNotes, settles.quiet, hreturns, Function.comp_def] using hhears
          · have hspared := Pursues.of_settles settles hplan pursues.unfired pursuit
              (by rw [Fleet.member?_changeMember, if_neg hother]; exact hrecord)
              ((List.getElem?_set_ne hother).trans (hown searches hphase))
            simpa [searchNotes, settles.quiet, hother] using hspared
  next => simp at hstep

theorem onRested (pursues : Pursues plan slot old notes start) {other : Nat}
    (hstep : start.onRested other = some (next, commands)) :
    Pursues plan slot old
      (notes ++ (searchNotes slot ⟨start, .rested other, commands, next⟩).map fun note =>
        (start.fleet.clock.instant, note)) next := by
  unfold Bootstrap.onRested at hstep
  split at hstep
  next searches hphase =>
    simp only [Option.bind_eq_bind, Option.bind_eq_some_iff] at hstep
    obtain ⟨search, hsearch, hstep⟩ := hstep
    split at hstep
    next due hresting =>
      split at hstep
      next => simp at hstep
      next hdue =>
        obtain ⟨rfl, rfl⟩ := Prod.mk.inj (Option.some.inj hstep)
        have hlength := (List.getElem?_eq_some_iff.mp hsearch).1
        obtain ⟨own, record, pursuit, hrecord, hown⟩ := pursues.exists_pursuit
        by_cases hother : other = slot
        · subst hother
          obtain rfl := Option.some.inj (hsearch.symm.trans (hown searches hphase))
          refine ⟨pursues.plan_eq, pursues.unfired, rfl, _, record, ?_, hrecord,
            fun others hothers =>
              StartPhase.searching.inj hothers ▸ List.getElem?_set_self hlength⟩
          simpa [searchNotes] using pursuit.rest hresting (Nat.not_lt.mp hdue)
        · refine ⟨pursues.plan_eq, pursues.unfired, rfl, own, record, ?_, hrecord,
            fun others hothers => StartPhase.searching.inj hothers ▸
              (List.getElem?_set_ne hother).trans (hown searches hphase)⟩
          simpa [searchNotes, hother] using pursuit
    next => simp at hstep
  next => simp at hstep

theorem onEnded (pursues : Pursues plan slot old notes start) {handle : Handle}
    (hstep : start.onEnded handle = some (next, commands)) :
    commands = [] ∧ Pursues plan slot old notes next := by
  unfold Bootstrap.onEnded at hstep
  split at hstep
  next =>
    split at hstep
    next =>
      split at hstep
      next =>
        obtain ⟨rfl, rfl⟩ := Prod.mk.inj (Option.some.inj hstep)
        exact ⟨rfl, pursues.of_members rfl rfl rfl rfl (by simp)⟩
      next =>
        obtain ⟨rfl, rfl⟩ := Prod.mk.inj (Option.some.inj hstep)
        exact ⟨rfl, pursues.of_members rfl rfl rfl rfl (by simp)⟩
    next => simp at hstep
  next => simp at hstep

theorem outside (pursues : Pursues plan slot old notes start) {outer : Outside} {fleet : Fleet}
    (houtside : start.fleet.outside? outer = some fleet) (hfire : outer ≠ .fireRoot) :
    Pursues plan slot old notes { start with fleet } := by
  have hmembers := (outside?_keeps houtside).1
  refine pursues.of_members rfl hmembers ?_ pursues.past fun _ => id
  cases outer with
  | time clock =>
      simp only [Fleet.outside?, Option.ite_none_right_eq_some, Option.some.injEq] at houtside
      exact houtside.2 ▸ rfl
  | fireRoot => exact absurd rfl hfire
  | touch files => exact Option.some.inj houtside ▸ rfl

/-- Without the root signal, every step of the start is one of the search, or spares it. -/
theorem step? (pursues : Pursues plan slot old notes start)
    (hstep : start.step? event = some (next, commands)) (hfire : event ≠ .outside .fireRoot) :
    Pursues plan slot old
      (notes ++ (searchNotes slot ⟨start, event, commands, next⟩).map fun note =>
        (start.fleet.clock.instant, note)) next := by
  have hpast := pursues.past
  cases event with
  | attempt other => exact pursues.onAttempt hstep
  | answered other answer => exact pursues.onAnswered hstep
  | rested other => exact pursues.onRested hstep
  | outside outer =>
      simp only [Bootstrap.step?, Option.map_eq_some_iff, Prod.mk.injEq] at hstep
      obtain ⟨fleet, houtside, rfl, rfl⟩ := hstep
      simpa [searchNotes] using pursues.outside houtside fun hsame => hfire (hsame ▸ rfl)
  | ended handle =>
      obtain ⟨rfl, hended⟩ := pursues.onEnded hstep
      simpa [searchNotes] using hended
  | abandoned => simp [Bootstrap.step?, onAbandoned, pursues.unfired] at hstep
  | launched outcome =>
      simp only [Bootstrap.step?] at hstep
      unfold onLaunched at hstep
      split at hstep
      next hphase => simp [hphase, StartPhase.isSearchOrPast] at hpast
      next => simp at hstep
  | ready other outcome =>
      simp only [Bootstrap.step?] at hstep
      unfold onReady at hstep
      split at hstep
      next hphase => simp [hphase, StartPhase.isSearchOrPast] at hpast
      next => simp at hstep
  | settled =>
      simp only [Bootstrap.step?] at hstep
      split at hstep
      next hphase => simp [hphase, StartPhase.isSearchOrPast] at hpast
      next => simp at hstep

theorem course {first : Bootstrap} {early : List (Nanos × SearchNote)}
    (pursues : Pursues plan slot old early first)
    (hcourse : Course Bootstrap.step? first moments last)
    (hfire : ∀ moment ∈ moments, moment.event ≠ .outside .fireRoot) :
    Pursues plan slot old (early ++ searchLog slot moments) last := by
  induction hcourse with
  | start => simpa [searchLog] using pursues
  | next _ hstep ih =>
      have hnext := (ih fun moment hmem => hfire moment (List.mem_append_left _ hmem)).step? hstep
        (hfire _ (List.mem_append_right _ (List.mem_singleton.mpr rfl)))
      simpa [searchLog] using hnext

/-- From its beginning on, the search of a member is a pursuit. -/
theorem along (hbegun : first.searchOf? slot = some {})
    (hmember : first.fleet.member? slot = some old) (hroot : first.fleet.rootFired = false)
    (hcourse : Course Bootstrap.step? first moments last)
    (hfire : ∀ moment ∈ moments, moment.event ≠ .outside .fireRoot) :
    Pursues first.plan slot old (searchLog slot moments) last :=
  (Pursues.begin hbegun hmember hroot).course hcourse hfire

end Pursues

end Bootstrap

end FleetControl
