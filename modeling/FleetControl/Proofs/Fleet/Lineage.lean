import FleetControl.Fleet.View
import FleetControl.Proofs.Fleet.AllOrNothing

/-!
# The lineage of a member

What a member is called, where it keeps its data, where it is reached and which cluster it belongs
to is settled with the layout of the fleet. The controller and the engine tell each other
configurations: the engine is asked to launch a process with one, and gives out the one that is then
in force. A start asks once for every member of the layout, and asks it to found the cluster.
-/

namespace FleetControl

namespace MemberConfig

/-- Two configurations of one member. They may differ in whether the cluster is founded and in the
security of the channels. -/
structure SameMember (config other : MemberConfig) : Prop where
  name : config.name = other.name
  dataDir : config.dataDir = other.dataDir
  walDir : config.walDir = other.walDir
  clientUrls : config.clientUrls = other.clientUrls
  peerUrls : config.peerUrls = other.peerUrls
  initialCluster : config.initialCluster = other.initialCluster
  initialClusterToken : config.initialClusterToken = other.initialClusterToken

/-- A configuration as the engine may give it back: it differs from the one that was asked for at
most in the security of the channels. -/
structure IssuedFor (config asked : MemberConfig) : Prop extends SameMember config asked where
  initialClusterState : config.initialClusterState = asked.initialClusterState

/-- A configuration with which a cluster that exists is joined. -/
def joining (config : MemberConfig) : MemberConfig :=
  { config with initialClusterState := .existing }

namespace SameMember

variable {config other third : MemberConfig}

theorem refl (config : MemberConfig) : config.SameMember config :=
  ⟨rfl, rfl, rfl, rfl, rfl, rfl, rfl⟩

theorem trans (hleft : config.SameMember other) (hright : other.SameMember third) :
    config.SameMember third :=
  ⟨hleft.name.trans hright.name, hleft.dataDir.trans hright.dataDir,
    hleft.walDir.trans hright.walDir, hleft.clientUrls.trans hright.clientUrls,
    hleft.peerUrls.trans hright.peerUrls, hleft.initialCluster.trans hright.initialCluster,
    hleft.initialClusterToken.trans hright.initialClusterToken⟩

theorem joining (hsame : config.SameMember other) : config.joining.SameMember other :=
  ⟨hsame.name, hsame.dataDir, hsame.walDir, hsame.clientUrls, hsame.peerUrls,
    hsame.initialCluster, hsame.initialClusterToken⟩

theorem clientUrl_eq (hsame : config.SameMember other) : config.clientUrl = other.clientUrl := by
  rw [clientUrl, clientUrl, hsame.clientUrls]

end SameMember

end MemberConfig

/-- The index of where these members serve their clients, each under its slot. -/
def EndpointIndex.ofConfigs (configs : List MemberConfig) : EndpointIndex :=
  configs.zipIdx.foldl (fun index (config, slot) => index.insert config.clientUrl slot) {}

/-- The index depends on the client URLs alone. -/
theorem EndpointIndex.ofConfigs_congr {configs others : List MemberConfig}
    (hurls : configs.map (·.clientUrl) = others.map (·.clientUrl)) :
    ofConfigs configs = ofConfigs others := by
  have hfold : ∀ configs : List MemberConfig, ofConfigs configs =
      (configs.map (·.clientUrl)).zipIdx.foldl
        (fun index entry => index.insert entry.1 entry.2) {} := by
    intro configs
    rw [List.zipIdx_map, List.foldl_map]
    rfl
  rw [hfold, hfold, hurls]

/-- What the controller and the engine tell each other about the configuration of a member. -/
inductive ConfigNote where
  /-- The engine is asked to launch a process with a configuration. -/
  | asked (slot : Nat) (config : MemberConfig)
  /-- The engine gives out the configuration of a process that it has launched. -/
  | given (slot : Nat) (config : MemberConfig)

namespace ConfigNote

/-- The note that a command leaves. -/
def ofCommand? : Command → Option ConfigNote
  | .launch slot config => some (.asked slot config)
  | _ => none

/-- What the engine is asked for by commands. -/
def asks (commands : List Command) : List ConfigNote := commands.filterMap ofCommand?

theorem asks_map {α : Type} {command : α → Command}
    (hnone : ∀ x, ofCommand? (command x) = none) (xs : List α) : asks (xs.map command) = [] := by
  rw [asks, List.filterMap_map]
  exact List.filterMap_eq_nil_iff.mpr fun x _ => hnone x

/-- What the controller and the engine tell each other about configurations at these moments, where
the engine gives these out with an event. -/
def exchanged {σ ε : Type} (issued : σ → ε → List ConfigNote) (moments : List (Moment σ ε)) :
    List ConfigNote :=
  moments.flatMap fun moment => issued moment.before moment.event ++ asks moment.commands

section

variable {σ ε : Type} (issued : σ → ε → List ConfigNote)

@[simp] theorem exchanged_nil : exchanged issued [] = [] := rfl

@[simp] theorem exchanged_append (moments more : List (Moment σ ε)) :
    exchanged issued (moments ++ more) = exchanged issued moments ++ exchanged issued more :=
  List.flatMap_append ..

@[simp] theorem exchanged_cons (moment : Moment σ ε) (moments : List (Moment σ ε)) :
    exchanged issued (moment :: moments) =
      issued moment.before moment.event ++ asks moment.commands ++ exchanged issued moments :=
  List.flatMap_cons ..

theorem exchanged_concat (moments : List (Moment σ ε)) (moment : Moment σ ε) :
    exchanged issued (moments ++ [moment]) =
      exchanged issued moments ++ (issued moment.before moment.event ++ asks moment.commands) := by
  simp

end

/-- The configurations with which the engine was asked for a member's processes, in order. -/
def requests (slot : Nat) (notes : List ConfigNote) : List MemberConfig :=
  notes.filterMap fun
    | .asked other config => if other = slot then some config else none
    | .given .. => none

@[simp] theorem requests_nil (slot : Nat) : requests slot [] = [] := rfl

@[simp] theorem requests_append (slot : Nat) (notes more : List ConfigNote) :
    requests slot (notes ++ more) = requests slot notes ++ requests slot more :=
  List.filterMap_append ..

theorem requests_asked (slot other : Nat) (config : MemberConfig) :
    requests slot [.asked other config] = if other = slot then [config] else [] := by
  by_cases hother : other = slot <;> simp [requests, hother]

/-- The engine gives every process a configuration that stands in this relation to the one that it
was asked for last. -/
def Gives (rel : MemberConfig → MemberConfig → Prop) (notes : List ConfigNote) : Prop :=
  ∀ earlier slot config asked, earlier ++ [.given slot config] <+: notes →
    (requests slot earlier).getLast? = some asked → rel config asked

namespace Gives

variable {rel : MemberConfig → MemberConfig → Prop} {notes more : List ConfigNote} {slot : Nat}
  {config asked : MemberConfig}

theorem of_append (hgives : Gives rel (notes ++ more)) : Gives rel notes :=
  fun earlier slot config asked hpart =>
    hgives earlier slot config asked (hpart.trans (List.prefix_append ..))

theorem given (hgives : Gives rel (notes ++ .given slot config :: more))
    (hasked : (requests slot notes).getLast? = some asked) : rel config asked :=
  hgives notes slot config asked ⟨more, (List.append_cons ..).symm⟩ hasked

theorem nil : Gives rel [] := by
  intro earlier slot config asked hpart
  simp at hpart

theorem ask (hgives : Gives rel notes) (slot : Nat) (config : MemberConfig) :
    Gives rel (notes ++ [.asked slot config]) := by
  intro earlier other given last hpart hlast
  rcases List.prefix_concat_iff.mp hpart with hwhole | hpart
  · simp at hwhole
  · exact hgives earlier other given last hpart hlast

theorem asks (hgives : Gives rel notes) (commands : List Command) :
    Gives rel (notes ++ ConfigNote.asks commands) := by
  induction commands generalizing notes with
  | nil => simpa [ConfigNote.asks] using hgives
  | cons command commands ih =>
      cases command with
      | launch slot config =>
          have hall := ih (hgives.ask slot config)
          rwa [← List.append_cons] at hall
      | _ => exact ih hgives

theorem give (hgives : Gives rel notes)
    (hissued : ∀ asked, (requests slot notes).getLast? = some asked → rel config asked) :
    Gives rel (notes ++ [.given slot config]) := by
  intro earlier other given last hpart hlast
  rcases List.prefix_concat_iff.mp hpart with hwhole | hpart
  · obtain ⟨rfl, hnote⟩ := List.append_inj' hwhole rfl
    obtain ⟨rfl, rfl⟩ := ConfigNote.given.inj (List.cons.inj hnote).1
    exact hissued last hlast
  · exact hgives earlier other given last hpart hlast

/-- A request is answered at once. -/
theorem answer (hgives : Gives rel notes) (slot : Nat) (hrel : rel config asked) :
    Gives rel (notes ++ [.asked slot asked, .given slot config]) := by
  rw [List.append_cons]
  refine (hgives.ask slot asked).give fun last hlast => ?_
  rw [requests_append, requests_asked, if_pos rfl, List.getLast?_concat] at hlast
  exact Option.some.inj hlast ▸ hrel

end Gives

/-- The engine gives every process the configuration that it was asked for last, in which it has
changed nothing but the security of the channels. -/
def Faithful (notes : List ConfigNote) : Prop :=
  ∀ earlier slot config asked, earlier ++ [.given slot config] <+: notes →
    (requests slot earlier).getLast? = some asked → config.IssuedFor asked

namespace Faithful

variable {notes more : List ConfigNote}

theorem of_append (hfaithful : Faithful (notes ++ more)) : Faithful notes :=
  Gives.of_append hfaithful

theorem nil : Faithful [] := Gives.nil

/-- An engine may give out the very configuration that it was asked for. -/
theorem echo (hfaithful : Faithful notes) (slot : Nat) (config : MemberConfig) :
    Faithful (notes ++ [.asked slot config, .given slot config]) :=
  Gives.answer hfaithful slot ⟨.refl config, rfl⟩

end Faithful

end ConfigNote

open ConfigNote

/-- The requests for the processes of one member: the first one founds the cluster, and the others
join it as the same member. -/
structure Lineage (founding : MemberConfig) (requests : List MemberConfig) : Prop where
  first : requests.head? = some founding
  founds : founding.initialClusterState = .new
  joins : ∀ config ∈ requests.tail, config.initialClusterState = .existing
  same : ∀ config ∈ requests, config.SameMember founding

namespace Lineage

variable {founding config : MemberConfig} {requests : List MemberConfig}

theorem single (hnew : founding.initialClusterState = .new) : Lineage founding [founding] where
  first := rfl
  founds := hnew
  joins config hmem := by simp at hmem
  same config hmem := by
    rw [List.mem_singleton.mp hmem]
    exact .refl founding

/-- A member that has its configuration in force is asked to join. -/
theorem join (lineage : Lineage founding requests) (hsame : config.SameMember founding) :
    Lineage founding (requests ++ [config.joining]) := by
  cases requests with
  | nil => simpa using lineage.first
  | cons first rest =>
      refine ⟨lineage.first, lineage.founds, fun other hmem => ?_, fun other hmem => ?_⟩
      · rcases List.mem_append.mp hmem with hmem | hmem
        · exact lineage.joins other hmem
        · rw [List.mem_singleton.mp hmem]
          rfl
      · rcases List.mem_append.mp hmem with hmem | hmem
        · exact lineage.same other hmem
        · rw [List.mem_singleton.mp hmem]
          exact hsame.joining

/-- What a faithful engine gives out for a member is of the same member. -/
theorem same_of_given {slot : Nat} {notes more : List ConfigNote}
    (lineage : Lineage founding (ConfigNote.requests slot notes))
    (hfaithful : Faithful (notes ++ .given slot config :: more)) :
    config.SameMember founding := by
  obtain ⟨asked, hasked⟩ : ∃ asked, (ConfigNote.requests slot notes).getLast? = some asked := by
    rw [← Option.isSome_iff_exists, List.getLast?_isSome]
    intro hnil
    simpa [hnil] using lineage.first
  have hissued := Gives.given hfaithful hasked
  exact hissued.toSameMember.trans (lineage.same asked (List.mem_of_getLast? hasked))

end Lineage

namespace Fleet

theorem config?_eq (fleet : Fleet) (slot : Nat) : fleet.config? slot = fleet.configs[slot]? :=
  (List.getElem?_map ..).symm

theorem config?_cases_of_concat {fleet after : Fleet} {config other : MemberConfig} {slot : Nat}
    (hconfigs : after.configs = fleet.configs ++ [config])
    (hother : after.config? slot = some other) :
    fleet.config? slot = some other ∨ slot = fleet.configs.length ∧ other = config := by
  rw [config?_eq, hconfigs, List.getElem?_append] at hother
  split at hother
  next => exact .inl ((fleet.config?_eq slot).trans hother)
  next hslot =>
    rw [List.getElem?_singleton] at hother
    split at hother
    next hlast => exact .inr ⟨by omega, (Option.some.inj hother).symm⟩
    next => simp at hother

theorem endpoints_of_outside? {fleet after : Fleet} {outer : Outside}
    (houtside : fleet.outside? outer = some after) : after.endpoints = fleet.endpoints := by
  cases outer with
  | time clock =>
      simp only [outside?, Option.ite_none_right_eq_some, Option.some.injEq] at houtside
      rw [← houtside.2]
  | fireRoot | touch => rw [← Option.some.inj houtside]

/-- An index of configurations describes all others with the same client URLs. -/
theorem endpoints_eq_of_clientUrl {fleet : Fleet} {configs : List MemberConfig}
    (hendpoints : fleet.endpoints = .ofConfigs configs)
    (hsize : fleet.members.length = configs.length)
    (hsame : ∀ slot config, fleet.config? slot = some config →
      ∃ founding, configs[slot]? = some founding ∧ config.clientUrl = founding.clientUrl) :
    fleet.endpoints = .ofConfigs fleet.configs := by
  rw [hendpoints]
  refine EndpointIndex.ofConfigs_congr (List.ext_getElem? fun slot => ?_)
  rw [List.getElem?_map, List.getElem?_map, ← config?_eq]
  cases hconfig : fleet.config? slot with
  | some config =>
      obtain ⟨founding, hfounding, hurl⟩ := hsame slot config hconfig
      rw [hfounding, Option.map_some, Option.map_some, hurl]
  | none =>
      have hslot : configs.length ≤ slot := by
        rw [← hsize]
        exact List.getElem?_eq_none_iff.mp (Option.map_eq_none_iff.mp hconfig)
      rw [List.getElem?_eq_none_iff.mpr hslot]

/-- The fleet is as these configurations lay it out: they say where clients are served, and every
configuration in force is of the same member. -/
structure LaidOut (configs : List MemberConfig) (fleet : Fleet) : Prop where
  endpoints : fleet.endpoints = .ofConfigs configs
  same : ∀ slot config, fleet.config? slot = some config →
    ∃ founding, configs[slot]? = some founding ∧ config.SameMember founding

namespace LaidOut

variable {configs : List MemberConfig} {fleet after : Fleet}

theorem of_eq (laidOut : LaidOut configs fleet) (hendpoints : after.endpoints = fleet.endpoints)
    (hconfigs : after.configs = fleet.configs) : LaidOut configs after where
  endpoints := hendpoints.trans laidOut.endpoints
  same slot config hconfig := by
    rw [config?_eq, hconfigs, ← config?_eq] at hconfig
    exact laidOut.same slot config hconfig

/-- One more member is launched. -/
theorem add (laidOut : LaidOut configs fleet) {config founding : MemberConfig}
    (hendpoints : after.endpoints = fleet.endpoints)
    (hconfigs : after.configs = fleet.configs ++ [config])
    (hfounding : configs[fleet.configs.length]? = some founding)
    (hsame : config.SameMember founding) : LaidOut configs after where
  endpoints := hendpoints.trans laidOut.endpoints
  same slot other hother := by
    rcases config?_cases_of_concat hconfigs hother with hold | ⟨rfl, rfl⟩
    · exact laidOut.same slot other hold
    · exact ⟨founding, hfounding, hsame⟩

/-- The index describes the configurations in force. -/
theorem endpoints_eq (laidOut : LaidOut configs fleet)
    (hsize : fleet.members.length = configs.length) :
    fleet.endpoints = .ofConfigs fleet.configs :=
  endpoints_eq_of_clientUrl laidOut.endpoints hsize fun slot config hconfig =>
    (laidOut.same slot config hconfig).imp fun _ hsame => hsame.imp_right (·.clientUrl_eq)

end LaidOut

end Fleet

/-- The configurations that are still to be launched. -/
def StartPhase.todo : StartPhase → List MemberConfig
  | .launching todo => todo
  | _ => []

namespace Bootstrap

variable {start next first : Bootstrap} {event : StartEvent} {commands : List Command}
  {moments : List (Moment Bootstrap StartEvent)} {configs : List MemberConfig}
  {notes : List ConfigNote}

/-- A start that is on its way down stays so. -/
theorem Stride.isDown_before (stride : Stride start event commands next)
    (hup : next.phase.isDown = false) : start.phase.isDown = false := by
  cases stride with
  | outside => exact hup
  | fall hdown => exact absurd hdown (by simp [hup])
  | unwind => exact absurd hup.symm Bool.false_ne_true
  | launch hphase | muster hphase | know hphase | rally hphase | release hphase | seek hphase
  | ask hphase | hear hphase | complete hphase | rest hphase =>
      rw [hphase]
      rfl

/-- The configuration that the engine gives out with an event. -/
def issued (start : Bootstrap) : StartEvent → List ConfigNote
  | .launched (.ok config) => [.given start.handles.length config]
  | _ => []

theorem length_enlist (start : Bootstrap) (config : MemberConfig) :
    (start.enlist config).handles.length = start.handles.length + 1 := by
  rw [enlist, List.length_append, List.length_singleton]

/-- What a step of a start that goes on means for its layout, with what the start and the engine
tell each other. -/
inductive Pace (start : Bootstrap) : List ConfigNote → Bootstrap → Prop where
  /-- Nothing that concerns the layout happens. -/
  | aside {next : Bootstrap} (hendpoints : next.fleet.endpoints = start.fleet.endpoints)
      (hconfigs : next.fleet.configs = start.fleet.configs)
      (hhandles : next.handles = start.handles) (htodo : next.phase.todo = start.phase.todo) :
      Pace start [] next
  /-- The engine gives out the next member, and is asked for the one that follows. -/
  | enlist {config canonical : MemberConfig} {todo : List MemberConfig} {next : Bootstrap}
      (hphase : start.phase = .launching (config :: todo))
      (hendpoints : next.fleet.endpoints = start.fleet.endpoints)
      (hconfigs : next.fleet.configs = start.fleet.configs ++ [canonical])
      (hhandles : next.handles.length = start.handles.length + 1)
      (htodo : next.phase.todo = todo) :
      Pace start (.given start.handles.length canonical ::
        (todo.head?.map (.asked (start.handles.length + 1))).toList) next

theorem Stride.pace (stride : Stride start event commands next)
    (hup : next.phase.isDown = false) : Pace start (start.issued event ++ asks commands) next := by
  cases stride with
  | outside houtside =>
      exact .aside (Fleet.endpoints_of_outside? houtside)
        ((Fleet.Aside.outside houtside).map_members fun _ => rfl) rfl rfl
  | fall hdown => exact absurd hdown (by simp [hup])
  | unwind => exact absurd hup.symm Bool.false_ne_true
  | @launch config canonical following todo hphase =>
      rw [length_enlist]
      exact .enlist hphase rfl (List.map_append ..) (length_enlist start canonical) rfl
  | @muster config canonical hphase =>
      rw [asks_map fun _ => rfl]
      exact .enlist hphase rfl (List.map_append ..) (length_enlist start canonical) rfl
  | @know slot outcome outcomes hphase hslot =>
      refine .aside ?_ (configs_markReady start.fleet slot outcome) rfl (by rw [hphase]; rfl)
      cases outcome <;> rfl
  | rally hphase =>
      exact .aside rfl (configs_markReady start.fleet _ (.ok ())) rfl (by rw [hphase]; rfl)
  | release hphase | seek hphase | rest hphase => exact .aside rfl rfl rfl (by rw [hphase]; rfl)
  | ask hphase hsearch hchecking hasked hcommands =>
      rcases hcommands with rfl | ⟨config, rfl⟩ <;>
        exact .aside rfl rfl rfl (by rw [hphase]; rfl)
  | hear hphase hsearch hasking hmember | complete hphase hsearch hasking hmember hall =>
      exact .aside rfl ((aside_take _ _ _ _ hmember).map_members fun _ => rfl) rfl
        (by rw [hphase]; rfl)

/-- A start goes along this layout, whatever the engine gives out: the index describes it, the
members not launched yet are to be launched, and the engine was asked once for each of the others
and for the one that is next. -/
structure Along (configs : List MemberConfig) (notes : List ConfigNote) (start : Bootstrap) :
    Prop where
  endpoints : start.fleet.endpoints = .ofConfigs configs
  todo : start.phase.todo = configs.drop start.handles.length
  asked : ∀ slot, requests slot notes = (configs.take (start.handles.length + 1))[slot]?.toList

namespace Along

/-- One more member of the layout shows in its own slot. -/
theorem toList_take_succ {count : Nat} {config : MemberConfig}
    (hconfig : configs[count]? = some config) (slot : Nat) :
    (configs.take (count + 1))[slot]?.toList =
      (configs.take count)[slot]?.toList ++ if count = slot then [config] else [] := by
  rw [List.getElem?_take, List.getElem?_take]
  rcases Nat.lt_trichotomy slot count with hslot | rfl | hslot
  · rw [if_pos (by omega), if_pos hslot, if_neg (by omega), List.append_nil]
  · rw [if_pos (by omega), if_neg (by omega), if_pos rfl, hconfig]
    rfl
  · rw [if_neg (by omega), if_neg (by omega), if_neg (by omega)]
    rfl

/-- The next member has its place in the layout, and the engine was asked for it alone. -/
theorem upcoming (along : Along configs notes start) {config : MemberConfig}
    {todo : List MemberConfig} (hphase : start.phase = .launching (config :: todo)) :
    configs[start.handles.length]? = some config ∧ todo = configs.drop (start.handles.length + 1) ∧
      requests start.handles.length notes = [config] := by
  have htodo := along.todo
  rw [hphase, StartPhase.todo] at htodo
  have hconfig : configs[start.handles.length]? = some config := by
    rw [← List.head?_drop, ← htodo]
    rfl
  refine ⟨hconfig, ?_, ?_⟩
  · rw [← List.tail_drop, ← htodo]
    rfl
  · rw [along.asked, toList_take_succ hconfig, if_pos rfl,
      List.getElem?_eq_none_iff.mpr (List.length_take_le ..)]
    rfl

theorem pace {more : List ConfigNote} (along : Along configs notes start)
    (pace : Pace start more next) : Along configs (notes ++ more) next := by
  cases pace with
  | aside hendpoints hconfigs hhandles htodo =>
      refine ⟨hendpoints.trans along.endpoints, ?_, ?_⟩
      · rw [htodo, hhandles, along.todo]
      · rw [hhandles, List.append_nil]
        exact along.asked
  | @enlist config canonical todo _ hphase hendpoints hconfigs hhandles hlater =>
      obtain ⟨-, htodo, -⟩ := along.upcoming hphase
      refine ⟨hendpoints.trans along.endpoints, by rw [hlater, hhandles, htodo], fun slot => ?_⟩
      rw [requests_append, along.asked, hhandles]
      cases todo with
      | nil =>
          -- There is nothing left to ask for.
          have hall : configs.length ≤ start.handles.length + 1 :=
            List.drop_eq_nil_iff.mp htodo.symm
          rw [List.take_of_length_le hall, List.take_of_length_le (Nat.le_succ_of_le hall)]
          exact List.append_nil _
      | cons following todo =>
          have hfollowing : configs[start.handles.length + 1]? = some following := by
            rw [← List.head?_drop, ← htodo]
            rfl
          rw [toList_take_succ hfollowing]
          exact congrArg _ (requests_asked slot _ following)

/-- A start goes along its layout until it fails. -/
theorem course (along : Along configs notes first) (hcourse : Course step? first moments start)
    (hup : start.phase.isDown = false) :
    Along configs (notes ++ exchanged issued moments) start := by
  induction hcourse with
  | start => simpa using along
  | next earlier hstep ih =>
      have hstride := stride_of_step? hstep
      rw [exchanged_concat, ← List.append_assoc]
      exact (ih (hstride.isDown_before hup)).pace (hstride.pace hup)

/-- In the end the engine was asked once for every member. -/
theorem asked_of_started (along : Along configs notes start) (hstarted : start.phase = .started)
    (slot : Nat) : requests slot notes = configs[slot]?.toList := by
  have hdone := along.todo
  rw [hstarted] at hdone
  have hall : configs.length ≤ start.handles.length + 1 :=
    Nat.le_succ_of_le (List.drop_eq_nil_iff.mp hdone.symm)
  rw [along.asked, List.take_of_length_le hall]

/-- An engine may give out what it was asked for, if every configuration will do for itself. -/
theorem gives_of_echoes {rel : MemberConfig → MemberConfig → Prop}
    (hrefl : ∀ config, rel config config) (along : Along configs notes first)
    (hgives : Gives rel notes) (hcourse : Course step? first moments start)
    (hechoes : ∀ moment ∈ moments, Echoes moment) (hup : start.phase.isDown = false) :
    Gives rel (notes ++ exchanged issued moments) := by
  induction hcourse with
  | start => simpa using hgives
  | @next moments before after event commands earlier hstep ih =>
      have hstride := stride_of_step? hstep
      have hbefore := hstride.isDown_before hup
      have hearlier := ih (fun moment hmem => hechoes moment (List.mem_append_left _ hmem)) hbefore
      obtain ⟨config, todo, hphase, rfl⟩ := hechoes ⟨before, event, commands, after⟩ (by simp)
      -- The last request for this slot is the only one, and it is what the engine gives out.
      obtain ⟨-, -, hrequests⟩ := (along.course earlier hbefore).upcoming hphase
      have hgiven : Gives rel (notes ++ exchanged issued moments ++
          before.issued (.launched (.ok config))) := by
        refine hearlier.give fun asked hasked => ?_
        obtain rfl : config = asked := by simpa [hrequests] using hasked
        exact hrefl config
      rw [exchanged_concat, ← List.append_assoc, ← List.append_assoc]
      exact hgiven.asks commands

end Along

/-- A start goes along this layout: the members launched so far are of it, the others are to be
launched, and the engine was asked once for each of the former and for the one that is next. -/
structure Follows (configs : List MemberConfig) (notes : List ConfigNote) (start : Bootstrap) :
    Prop where
  founds : ∀ config ∈ configs, config.initialClusterState = .new
  laidOut : Fleet.LaidOut configs start.fleet
  todo : start.phase.todo = configs.drop start.handles.length
  asked : ∀ slot, requests slot notes = (configs.take (start.handles.length + 1))[slot]?.toList

namespace Follows

theorem along (follows : Follows configs notes start) : Along configs notes start :=
  ⟨follows.laidOut.endpoints, follows.todo, follows.asked⟩

theorem pace {more : List ConfigNote} (follows : Follows configs notes start)
    (hsize : start.fleet.members.length = start.handles.length) (pace : Pace start more next)
    (hfaithful : Faithful (notes ++ more)) : Follows configs (notes ++ more) next := by
  have along := follows.along.pace pace
  refine ⟨follows.founds, ?_, along.todo, along.asked⟩
  cases pace with
  | aside hendpoints hconfigs => exact follows.laidOut.of_eq hendpoints hconfigs
  | @enlist config canonical todo _ hphase hendpoints hconfigs =>
      obtain ⟨hconfig, -, hrequests⟩ := follows.along.upcoming hphase
      have lineage : Lineage config (requests start.handles.length notes) :=
        hrequests ▸ .single (follows.founds config (List.mem_of_getElem? hconfig))
      refine follows.laidOut.add hendpoints hconfigs ?_ (lineage.same_of_given hfaithful)
      rw [Fleet.configs, List.length_map, hsize, hconfig]

/-- A start that has not failed went along its layout all the time. -/
theorem course {interval : Nanos} {engineNotes : List EngineNote}
    (kept : Kept interval engineNotes first) (follows : Follows configs notes first)
    (hcourse : Course step? first moments start)
    (hfaithful : Faithful (notes ++ exchanged issued moments))
    (hup : start.phase.isDown = false) :
    Follows configs (notes ++ exchanged issued moments) start := by
  induction hcourse with
  | start => simpa using follows
  | next earlier hstep ih =>
      rw [exchanged_concat, ← List.append_assoc] at hfaithful ⊢
      have hstride := stride_of_step? hstep
      exact (ih hfaithful.of_append (hstride.isDown_before hup)).pace
        (kept.course earlier).fledgling.size_eq (hstride.pace hup) hfaithful

/-- A start begins along the layout of its settings. -/
theorem begin {settings : FleetSettings} {token : String} {files after : Files} {clock : Clock}
    {rootFired : Bool} {opening : List Command}
    (hbegin : Bootstrap.begin settings token files clock rootFired =
      (after, .ok (first, opening))) :
    ∃ configs, settings.validate = .ok () ∧ Layout.memberConfigs settings token = .ok configs ∧
      Follows configs (asks opening) first ∧ first.fleet.members = [] := by
  unfold Bootstrap.begin at hbegin
  split at hbegin
  next => simp at hbegin
  next hvalid =>
    split at hbegin
    next => simp at hbegin
    next configs hconfigs =>
      split at hbegin
      next => simp at hbegin
      next =>
        refine ⟨configs, hvalid, hconfigs, ?_⟩
        obtain ⟨rfl, hnext⟩ := Prod.mk.inj hbegin
        obtain ⟨rfl, rfl⟩ := Prod.ext_iff.mp (Except.ok.inj hnext)
        have hfounds := Layout.state_of_memberConfigs hconfigs
        have hempty : ∀ fleet : Fleet, fleet.members = [] → fleet.endpoints = .ofConfigs configs →
            Fleet.LaidOut configs fleet := by
          intro fleet hmembers hendpoints
          refine ⟨hendpoints, fun slot config hconfig => ?_⟩
          simp [Fleet.config?, Fleet.member?, hmembers] at hconfig
        cases configs with
        | nil => exact ⟨⟨hfounds, hempty _ rfl rfl, rfl, fun slot => rfl⟩, rfl⟩
        | cons config todo =>
            refine ⟨⟨hfounds, hempty _ rfl rfl, rfl, fun slot => ?_⟩, rfl⟩
            have hconfig : (config :: todo)[0]? = some config := rfl
            exact (requests_asked slot 0 config).trans (Along.toList_take_succ hconfig slot).symm

end Follows

/-- After the last launch a start and the engine tell each other nothing more of configurations,
unless it fails. -/
theorem Pace.silent {more : List ConfigNote} (pace : Pace start more next)
    (htodo : start.phase.todo = []) : next.phase.todo = [] ∧ more = [] := by
  cases pace with
  | aside _ _ _ hsame => exact ⟨hsame.trans htodo, rfl⟩
  | enlist hphase => simp [hphase, StartPhase.todo] at htodo

theorem exchanged_of_launched (hcourse : Course step? first moments start)
    (htodo : first.phase.todo = []) (hup : start.phase.isDown = false) :
    start.phase.todo = [] ∧ exchanged issued moments = [] := by
  induction hcourse with
  | start => exact ⟨htodo, rfl⟩
  | next earlier hstep ih =>
      have hstride := stride_of_step? hstep
      obtain ⟨hlast, hnone⟩ := ih (hstride.isDown_before hup)
      obtain ⟨hnext, hsilent⟩ := (hstride.pace hup).silent hlast
      exact ⟨hnext, by rw [exchanged_concat, hnone, hsilent, List.append_nil]⟩

/-- A start that has begun can complete with a faithful engine, unless the root signal fired
before. -/
theorem begin_can_echo {settings : FleetSettings} {token : String} {files after : Files}
    {config : MemberConfig} {todo : List MemberConfig} (hvalid : settings.validate = .ok ())
    (hconfigs : Layout.memberConfigs settings token = .ok (config :: todo))
    (hfiles : files.prepareDirectory settings.fleet.rootDir = (after, .ok ())) (clock : Clock) :
    ∃ first opening moments start,
      begin settings token files clock false = (after, .ok (first, opening)) ∧
      Course step? first moments start ∧ start.phase = .started ∧
      Faithful (asks opening ++ exchanged issued moments) := by
  obtain ⟨blank, hbegin, hhandles, hroot, -⟩ := begin_eq hvalid hconfigs hfiles clock false
  obtain ⟨configs, -, -, follows, -⟩ := Follows.begin hbegin
  have hphase : (blank.launchNext (config :: todo)).1.phase = .launching (config :: todo) := rfl
  obtain ⟨early, launched, hearly, hechoes, hawaiting, hlength, hstill⟩ :=
    exists_awaiting todo hphase
  have hopening : Faithful (asks [.launch blank.handles.length config]) :=
    Gives.nil.ask blank.handles.length config
  have hfaithful := follows.along.gives_of_echoes (fun config => ⟨.refl config, rfl⟩) hopening
    hearly hechoes (by rw [hawaiting]; rfl)
  rw [hlength] at hawaiting
  obtain ⟨start, ⟨late, hlate⟩, hstarted, -⟩ := awaiting_can_complete
    ((Kept.begin hbegin).course hearly) hawaiting hlength (hstill.trans hroot)
  have hsilent := (exchanged_of_launched hlate (by rw [hawaiting]; rfl) (by rw [hstarted]; rfl)).2
  refine ⟨_, _, early ++ late, start, hbegin, hearly.append hlate, hstarted, ?_⟩
  rw [exchanged_append, hsilent, List.append_nil]
  exact hfaithful

end Bootstrap

end FleetControl
