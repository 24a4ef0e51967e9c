import FleetControl.Fleet.Discovery
import Mathlib.Data.List.Chain

/-!
# The search of one member

One member's search for a leader, told by the replies that it gets: questions, replies, and a pause
after every reply that settles nothing. How a search stands follows from its notes alone, and so
does the member's record, which only ever takes up the last report.
-/

namespace FleetControl

open FleetControl.Number

/-- The reply to the question for a member's status. -/
abbrev StatusReply := Except ProbeFault StatusReport

namespace StatusReply

/-- No search goes on after this reply: it names a leader, or the question was cancelled. -/
def settles : StatusReply → Bool
  | .ok report => report.hasLeader
  | .error fault => fault.isCancelled

/-- What a search returns that this reply has settled. -/
def verdict : StatusReply → Except Error Unit
  | .ok _ => .ok ()
  | .error _ => .error .cancelled

/-- The last report among replies. -/
def lastReport? (replies : List StatusReply) : Option StatusReport :=
  (replies.filterMap Except.toOption).getLast?

theorem lastReport?_concat_ok (replies : List StatusReply) (report : StatusReport) :
    lastReport? (replies ++ [.ok report]) = some report := by
  simp [lastReport?, Except.toOption]

theorem lastReport?_concat_error (replies : List StatusReply) (fault : ProbeFault) :
    lastReport? (replies ++ [.error fault]) = lastReport? replies := by
  simp [lastReport?, Except.toOption]

theorem mem_of_lastReport? {replies : List StatusReply} {report : StatusReport}
    (hlast : lastReport? replies = some report) : .ok report ∈ replies := by
  obtain ⟨reply, hmem, hreport⟩ := List.mem_filterMap.mp (List.mem_of_getLast? hlast)
  cases reply with
  | error fault => simp [Except.toOption] at hreport
  | ok other => rwa [← Option.some.inj hreport]

end StatusReply

open StatusReply

/-- A member that its search has got these replies from: it has the id of the last report, and its
role too if that report names a leader. All else is as before. -/
def Member.introduced (old : Member) (replies : List StatusReply) : Member :=
  match lastReport? replies with
  | none => old
  | some report =>
      { old with
        status := { old.status with
          id := hexadecimal report.memberId
          isLeader := if report.leaderId = 0 then old.status.isLeader
            else decide (report.leaderId = report.memberId)
          state := if report.leaderId = 0 then old.status.state
            else if report.leaderId = report.memberId then .leader else .follower } }

@[simp] theorem Member.introduced_nil (old : Member) : old.introduced [] = old := rfl

@[simp] theorem Member.name_introduced (old : Member) (replies : List StatusReply) :
    (old.introduced replies).name = old.name := by
  unfold introduced
  split <;> rfl

theorem Member.introduced_concat_error (old : Member) (replies : List StatusReply)
    (fault : ProbeFault) : old.introduced (replies ++ [.error fault]) = old.introduced replies := by
  rw [introduced, lastReport?_concat_error, ← introduced]

/-- The id of an earlier report is overwritten, and such a report has set nothing else. -/
theorem Member.introduced_concat_ok {old : Member} {replies : List StatusReply}
    (hopen : ∀ reply ∈ replies, reply.settles = false) (report : StatusReport) :
    old.introduced (replies ++ [.ok report]) =
      (old.introduced replies).updateStatus (·.discover report) := by
  -- Both sides change three fields of the snapshot, so the update is brought into that form first.
  have hdiscover : ∀ status : MemberStatus, status.discover report =
      { status with
        id := hexadecimal report.memberId
        isLeader := if report.leaderId = 0 then status.isLeader
          else decide (report.leaderId = report.memberId)
        state := if report.leaderId = 0 then status.state
          else if report.leaderId = report.memberId then .leader else .follower } := by
    intro status
    by_cases hleader : report.leaderId = 0
    · simp [MemberStatus.discover, StatusReport.hasLeader, StatusReport.memberIdHex, hleader]
    · simp [MemberStatus.discover, StatusReport.hasLeader, StatusReport.memberIdHex,
        StatusReport.isLeader, MemberStatus.setLeadership, MemberState.ofLeadership, hleader]
  rw [introduced, lastReport?_concat_ok, updateStatus, hdiscover]
  cases hlast : lastReport? replies with
  | none => simp only [introduced, hlast]
  | some earlier =>
      have hnone : earlier.leaderId = 0 := by
        simpa [settles, StatusReport.hasLeader] using hopen _ (mem_of_lastReport? hlast)
      simp only [introduced, hlast, hnone, if_true]

/-- What a search for a leader does. -/
inductive SearchNote where
  | asked
  | heard (reply : StatusReply)
  /-- The pause after a reply is over. -/
  | rested
  | returned (outcome : Except Error Unit)

namespace SearchNote

/-- The replies among the notes. -/
def replies (notes : List SearchNote) : List StatusReply :=
  notes.filterMap fun note =>
    match note with
    | .heard reply => some reply
    | _ => none

/-- The notes of a search whose replies have settled nothing, each followed by a pause. -/
def fruitless (replies : List StatusReply) : List SearchNote :=
  replies.flatMap fun reply => [.asked, .heard reply, .rested]

@[simp] theorem fruitless_concat (replies : List StatusReply) (reply : StatusReply) :
    fruitless (replies ++ [reply]) = fruitless replies ++ [.asked, .heard reply, .rested] := by
  simp [fruitless]

@[simp] theorem replies_nil : replies [] = [] := rfl

@[simp] theorem replies_asked (notes : List SearchNote) :
    replies (.asked :: notes) = replies notes := rfl

@[simp] theorem replies_heard (reply : StatusReply) (notes : List SearchNote) :
    replies (.heard reply :: notes) = reply :: replies notes := rfl

@[simp] theorem replies_rested (notes : List SearchNote) :
    replies (.rested :: notes) = replies notes := rfl

@[simp] theorem replies_returned (outcome : Except Error Unit) (notes : List SearchNote) :
    replies (.returned outcome :: notes) = replies notes := rfl

@[simp] theorem replies_append (early late : List SearchNote) :
    replies (early ++ late) = replies early ++ replies late := List.filterMap_append

@[simp] theorem replies_fruitless (heard : List StatusReply) :
    replies (fruitless heard) = heard := by
  induction heard with
  | nil => rfl
  | cons reply rest ih =>
      rw [fruitless, List.flatMap_cons, replies_append, ← fruitless, ih]
      rfl

theorem length_fruitless (heard : List StatusReply) :
    (fruitless heard).length = 3 * heard.length := by
  simp [fruitless, List.length_flatMap, Nat.mul_comm]

/-- A search that goes on has returned nothing. -/
theorem returned_notMem_fruitless (heard : List StatusReply) (outcome : Except Error Unit) :
    .returned outcome ∉ fruitless heard := by
  simp [fruitless]

end SearchNote

open SearchNote

/-- A search goes on like this, from its beginning on: its notes with their instants, how it stands,
and the record of its member. -/
inductive Pursuit (plan : SearchPlan) (old : Member) :
    List (Nanos × SearchNote) → Search → Member → Prop where
  | begin : Pursuit plan old [] {} old
  | ask {notes : List (Nanos × SearchNote)} {search asked : Search} {member : Member}
      (earlier : Pursuit plan old notes search member) (hchecking : search.phase = .checking)
      (hasked : search.attempt false = .ok asked) (now : Nanos) :
      Pursuit plan old (notes ++ [(now, .asked)]) asked member
  | hear {notes : List (Nanos × SearchNote)} {search : Search} {member : Member}
      (earlier : Pursuit plan old notes search member) (hasking : search.phase = .asking)
      (now : Nanos) (reply : StatusReply) :
      Pursuit plan old
        (notes ++ (now, .heard reply) :: (search.take plan now member reply).1.outcome?.toList.map
          fun outcome => (now, .returned outcome))
        (search.take plan now member reply).1 (search.take plan now member reply).2
  | rest {notes : List (Nanos × SearchNote)} {search : Search} {member : Member} {due now : Nanos}
      (earlier : Pursuit plan old notes search member) (hresting : search.phase = .resting due)
      (hdue : due ≤ now) :
      Pursuit plan old (notes ++ [(now, .rested)]) { search with phase := .checking } member

/-- How a search stands with these notes, and its member. -/
inductive Stage (plan : SearchPlan) (old : Member) : List SearchNote → Search → Member → Prop where
  | checking {heard : List StatusReply} (hopen : ∀ reply ∈ heard, reply.settles = false)
      (hmore : plan.maxAttempts = 0 ∨ heard.length < plan.maxAttempts)
      (hword : heard.length < wordCount Search.attemptBits) :
      Stage plan old (fruitless heard) { attempts := heard.length, phase := .checking }
        (old.introduced heard)
  | asking {heard : List StatusReply} (hopen : ∀ reply ∈ heard, reply.settles = false)
      (hmore : plan.maxAttempts = 0 ∨ heard.length < plan.maxAttempts)
      (hword : heard.length + 1 < wordCount Search.attemptBits) :
      Stage plan old (fruitless heard ++ [.asked])
        { attempts := heard.length + 1, phase := .asking } (old.introduced heard)
  | resting {heard : List StatusReply} {reply : StatusReply}
      (hopen : ∀ reply ∈ heard, reply.settles = false) (hreply : reply.settles = false)
      (hmore : plan.maxAttempts = 0 ∨ heard.length + 1 < plan.maxAttempts)
      (hword : heard.length + 1 < wordCount Search.attemptBits) (due : Nanos) :
      Stage plan old (fruitless heard ++ [.asked, .heard reply])
        { attempts := heard.length + 1, phase := .resting due }
        (old.introduced (heard ++ [reply]))
  | settled {heard : List StatusReply} {reply : StatusReply} {search : Search}
      (hopen : ∀ reply ∈ heard, reply.settles = false) (hreply : reply.settles = true)
      (hmore : plan.maxAttempts = 0 ∨ heard.length < plan.maxAttempts)
      (houtcome : search.outcome? = some reply.verdict) :
      Stage plan old (fruitless heard ++ [.asked, .heard reply, .returned reply.verdict]) search
        (old.introduced (heard ++ [reply]))
  | exhausted {heard : List StatusReply} {reply : StatusReply} {search : Search}
      (hopen : ∀ reply ∈ heard, reply.settles = false) (hreply : reply.settles = false)
      (hlast : heard.length + 1 = plan.maxAttempts)
      (houtcome : search.outcome? =
        some (.error (.leaderDiscovery old.name plan.maxAttempts))) :
      Stage plan old
        (fruitless heard ++ [.asked, .heard reply,
          .returned (.error (.leaderDiscovery old.name plan.maxAttempts))]) search
        (old.introduced (heard ++ [reply]))

namespace Search

variable {search asked : Search} {plan : SearchPlan} {now : Nanos} {member : Member}

/-- Without the root signal a search asks, unless the count of its attempts ends. -/
theorem attempt_eq_ok_iff :
    search.attempt false = .ok asked ↔
      search.attempts + 1 < wordCount attemptBits ∧
        asked = { attempts := search.attempts + 1, phase := .asking } := by
  unfold attempt addWithin
  by_cases hword : search.attempts + 1 < wordCount attemptBits
  · simp [hword, bind, Except.bind, pure, Except.pure, eq_comm]
  · simp [hword, bind, Except.bind]

theorem attempt_eq_error (hword : wordCount attemptBits ≤ search.attempts + 1) :
    search.attempt false = .error .add := by
  simp [attempt, addWithin, Nat.not_lt.mpr hword, bind, Except.bind]

/-- A reply that settles the search ends it. -/
theorem take_of_settles {reply : StatusReply} (hreply : reply.settles = true) :
    (search.take plan now member reply).1.outcome? = some reply.verdict := by
  cases reply with
  | ok report => simp [take, show report.hasLeader = true from hreply, outcome?, verdict]
  | error fault => simp [take, show fault.isCancelled = true from hreply, outcome?, verdict]

/-- Any other reply is followed by a pause or by giving up. -/
theorem take_of_not_settles {reply : StatusReply} (hreply : reply.settles = false) :
    (search.take plan now member reply).1 = search.retry plan member.name now := by
  cases reply with
  | ok report =>
      have hleader : report.hasLeader = false := hreply
      simp only [take, hleader, Bool.false_eq_true, if_false]
      rfl
  | error fault =>
      have hcancelled : fault.isCancelled = false := hreply
      simp only [take, hcancelled, Bool.false_eq_true, if_false]

/-- A pause is as long as it was planned. -/
theorem due_of_take {reply : StatusReply} {due : Nanos}
    (hresting : (search.take plan now member reply).1.phase = .resting due) :
    due = now + plan.backoff := by
  cases hreply : reply.settles with
  | true =>
      have houtcome : (search.take plan now member reply).1.outcome? = some reply.verdict :=
        take_of_settles hreply
      simp [outcome?, hresting] at houtcome
  | false =>
      rw [take_of_not_settles hreply, retry] at hresting
      split at hresting
      next => simp at hresting
      next => exact (SearchPhase.resting.inj hresting).symm

/-- The member takes up the report, if the reply is one. -/
theorem take_introduced {old : Member} {heard : List StatusReply}
    (hopen : ∀ reply ∈ heard, reply.settles = false) (reply : StatusReply) :
    (search.take plan now (old.introduced heard) reply).2 = old.introduced (heard ++ [reply]) := by
  cases reply with
  | ok report =>
      rw [Member.introduced_concat_ok hopen]
      unfold take
      dsimp only
      split <;> rfl
  | error fault =>
      rw [Member.introduced_concat_error]
      unfold take
      dsimp only
      split <;> rfl

end Search

namespace Pursuit

variable {plan : SearchPlan} {old member : Member} {notes : List (Nanos × SearchNote)}
  {search : Search}

/-- A question may be answered at any time, with any reply. -/
theorem stage_hear {heard : List StatusReply} (hopen : ∀ reply ∈ heard, reply.settles = false)
    (hmore : plan.maxAttempts = 0 ∨ heard.length < plan.maxAttempts)
    (hword : heard.length + 1 < wordCount Search.attemptBits)
    (hattempts : search.attempts = heard.length + 1) (now : Nanos) (reply : StatusReply) :
    Stage plan old
      (fruitless heard ++ [.asked] ++ .heard reply ::
        (search.take plan now (old.introduced heard) reply).1.outcome?.toList.map .returned)
      (search.take plan now (old.introduced heard) reply).1
      (search.take plan now (old.introduced heard) reply).2 := by
  rw [Search.take_introduced hopen, List.append_assoc]
  cases hreply : reply.settles with
  | true =>
      have houtcome : (search.take plan now (old.introduced heard) reply).1.outcome? =
          some reply.verdict := Search.take_of_settles hreply
      rw [houtcome]
      exact .settled hopen hreply hmore houtcome
  | false =>
      rw [Search.take_of_not_settles hreply, Search.retry, hattempts, Member.name_introduced]
      split
      next hlast =>
        have heq : heard.length + 1 = plan.maxAttempts := by omega
        rw [heq]
        exact .exhausted hopen hreply heq rfl
      next hgoing => exact .resting hopen hreply (by omega) hword _

/-- The notes of a search tell how it stands. -/
theorem stage (pursuit : Pursuit plan old notes search member) :
    Stage plan old (notes.map Prod.snd) search member := by
  -- What the search may do next depends on its phase, and the phase on the notes: in all stages but
  -- one the step is not possible.
  induction pursuit with
  | begin => exact @Stage.checking plan old [] (by simp) (Nat.eq_zero_or_pos _) (by decide)
  | ask earlier hchecking hasked now ih =>
      obtain ⟨hword, rfl⟩ := Search.attempt_eq_ok_iff.mp hasked
      rw [List.map_append]
      generalize List.map Prod.snd _ = acts at ih ⊢
      cases ih with
      | checking hopen hmore => exact .asking hopen hmore hword
      | asking | resting => simp at hchecking
      | settled _ _ _ houtcome | exhausted _ _ _ houtcome =>
          simp [Search.outcome?, hchecking] at houtcome
  | hear earlier hasking now reply ih =>
      rw [List.map_append, List.map_cons, List.map_map]
      generalize List.map Prod.snd _ = acts at ih ⊢
      cases ih with
      | asking hopen hmore hword => exact stage_hear hopen hmore hword rfl now reply
      | checking | resting => simp at hasking
      | settled _ _ _ houtcome | exhausted _ _ _ houtcome =>
          simp [Search.outcome?, hasking] at houtcome
  | rest earlier hresting hdue ih =>
      rw [List.map_append]
      generalize List.map Prod.snd _ = acts at ih ⊢
      cases ih with
      | @resting heard reply hopen hreply hmore hword =>
          have hstage : Stage plan old (fruitless (heard ++ [reply]))
              { attempts := (heard ++ [reply]).length, phase := .checking }
              (old.introduced (heard ++ [reply])) := by
            refine .checking (fun other hmem => ?_) (by simpa using hmore) (by simpa using hword)
            rcases List.mem_append.mp hmem with hmem | hmem
            · exact hopen other hmem
            · rwa [List.mem_singleton.mp hmem]
          simpa using hstage
      | checking | asking => simp at hresting
      | settled _ _ _ houtcome | exhausted _ _ _ houtcome =>
          simp [Search.outcome?, hresting] at houtcome

/-- Between a reply and the end of the pause after it lies the pause that was planned. -/
theorem paused (pursuit : Pursuit plan old notes search member) :
    notes.IsChain (fun earlier later => later.2 = .rested → earlier.1 + plan.backoff ≤ later.1) ∧
      ∀ due, search.phase = .resting due →
        ∃ before ∈ notes.getLast?, due = before.1 + plan.backoff := by
  -- The pause is fixed when its reply comes, so the instant at which it ends is carried along.
  induction pursuit with
  | begin => simp
  | ask earlier hchecking hasked now ih =>
      obtain ⟨-, rfl⟩ := Search.attempt_eq_ok_iff.mp hasked
      exact ⟨List.isChain_append.mpr ⟨ih.1, .singleton _, by simp⟩, by simp⟩
  | @hear notes search member earlier hasking now reply ih =>
      refine ⟨List.isChain_append.mpr ⟨ih.1, ?_, by simp⟩, fun due hresting => ?_⟩
      · cases (search.take plan now member reply).1.outcome? with
        | none => exact .singleton _
        | some outcome => exact List.isChain_pair.mpr (by simp)
      · rw [Search.outcome?, hresting]
        exact ⟨(now, .heard reply), by simp, Search.due_of_take hresting⟩
  | @rest notes search member due now earlier hresting hdue ih =>
      obtain ⟨before, hbefore, rfl⟩ := ih.2 due hresting
      refine ⟨List.isChain_append.mpr ⟨ih.1, .singleton _, fun last hlast next hnext _ => ?_⟩,
        by simp⟩
      obtain rfl := Option.mem_unique hbefore hlast
      rwa [← Option.some.inj hnext]

end Pursuit

/-! ### The whole tale of a search -/

namespace SearchNote

/-- The first replies of a row. -/
def upTo (row : Nat → StatusReply) (count : Nat) : List StatusReply := (List.range count).map row

/-- Questions that get the first replies of a row, with one pause between every two. -/
def questions (row : Nat → StatusReply) (count : Nat) : List SearchNote :=
  [.rested].intercalate ((List.range count).map fun place => [.asked, .heard (row place)])

/-- All that a search does that asks at most `bound` times and gets the replies of a row: it asks
up to the first reply that settles it and returns what that reply says, or it asks as often as it
may and gives up. -/
def tale (name : String) (bound : Nat) (row : Nat → StatusReply) : List SearchNote :=
  match (List.range bound).find? fun place => (row place).settles with
  | some place => questions row (place + 1) ++ [.returned (row place).verdict]
  | none => questions row bound ++ [.returned (.error (.leaderDiscovery name bound))]

variable {row : Nat → StatusReply} {count last bound : Nat}

@[simp] theorem length_upTo : (upTo row count).length = count := by simp [upTo]

theorem upTo_succ : upTo row (count + 1) = upTo row count ++ [row count] := by
  simp [upTo, List.range_succ]

theorem mem_upTo {reply : StatusReply} :
    reply ∈ upTo row count ↔ ∃ place < count, row place = reply := by
  simp [upTo]

/-- The replies that a search has got are the first of a row. -/
def Replays (heard : List StatusReply) (row : Nat → StatusReply) : Prop :=
  heard = upTo row heard.length

theorem Replays.concat {heard : List StatusReply} (hreplays : Replays heard row) :
    Replays (heard ++ [row heard.length]) row := by
  rw [Replays, List.length_append, List.length_singleton, upTo_succ, ← hreplays]

theorem Replays.of_concat {heard : List StatusReply} {reply : StatusReply}
    (hreplays : Replays (heard ++ [reply]) row) : Replays heard row ∧ reply = row heard.length := by
  unfold Replays at hreplays
  rw [List.length_append, List.length_singleton, upTo_succ] at hreplays
  obtain ⟨hheard, hreply⟩ := List.append_inj' hreplays rfl
  exact ⟨hheard, (List.cons.inj hreply).1⟩

theorem intercalate_concat {α : Type} (mark : List α) (parts : List (List α)) (part : List α) :
    mark.intercalate (parts ++ [part]) = parts.flatMap (· ++ mark) ++ part := by
  induction parts with
  | nil => simp [List.intercalate]
  | cons first rest ih =>
      cases rest with
      | nil => simp [List.intercalate]
      | cons next rest =>
          simp only [List.intercalate, List.cons_append, List.intersperse_cons_cons,
            List.flatten_cons, List.flatMap_cons, List.append_assoc] at ih ⊢
          rw [ih]

theorem questions_succ :
    questions row (count + 1) = fruitless (upTo row count) ++ [.asked, .heard (row count)] := by
  rw [questions, List.range_succ, List.map_append, List.map_singleton, intercalate_concat,
    fruitless, upTo, List.flatMap_map, List.flatMap_map]
  rfl

theorem fruitless_mono (hcount : count ≤ last) :
    fruitless (upTo row count) <+: fruitless (upTo row last) := by
  induction last, hcount using Nat.le_induction with
  | base => exact List.prefix_rfl
  | succ last _ ih =>
      rw [upTo_succ, fruitless_concat]
      exact ih.trans (List.prefix_append ..)

/-- A search that asks once more after `count` replies goes on as all longer ones do. -/
theorem fruitless_begins (hcount : count ≤ last) (rest : List SearchNote) :
    fruitless (upTo row count) ++ [.asked, .heard (row count)] <+:
      fruitless (upTo row last) ++ .asked :: .heard (row last) :: rest := by
  induction last, hcount using Nat.le_induction generalizing rest with
  | base => exact ⟨rest, by simp⟩
  | succ last _ ih =>
      rw [upTo_succ, fruitless_concat, List.append_assoc]
      exact ih _

/-- The reply that ends a search. -/
theorem exists_tale_eq (name : String) (hbound : 0 < bound) (row : Nat → StatusReply) :
    ∃ last < bound, (∀ place < last, (row place).settles = false) ∧
      ((row last).settles = false → last + 1 = bound) ∧
      tale name bound row = fruitless (upTo row last) ++ [.asked, .heard (row last),
        .returned (if (row last).settles then (row last).verdict
          else .error (.leaderDiscovery name bound))] := by
  unfold tale
  split
  next last hfound =>
    obtain ⟨hsettles, hlast, hopen⟩ := List.find?_range_eq_some.mp hfound
    refine ⟨last, List.mem_range.mp hlast, fun place hplace => by simpa using hopen place hplace,
      by simp [hsettles], ?_⟩
    rw [questions_succ, if_pos hsettles, List.append_assoc]
    rfl
  next hnone =>
    have hopen : ∀ place < bound, (row place).settles = false := fun place hplace => by
      simpa using List.find?_range_eq_none.mp hnone place hplace
    obtain ⟨last, rfl⟩ := Nat.exists_eq_add_one.mpr hbound
    refine ⟨last, by omega, fun place hplace => hopen place (by omega), fun _ => rfl, ?_⟩
    rw [questions_succ, if_neg (by simp [hopen last]), List.append_assoc]
    rfl

end SearchNote

namespace Stage

variable {plan : SearchPlan} {old member : Member} {notes : List SearchNote} {search : Search}
  {row : Nat → StatusReply}

/-- A search that has returned is over. -/
theorem outcome?_of_returned (stage : Stage plan old notes search member)
    {outcome : Except Error Unit} (hreturned : .returned outcome ∈ notes) :
    search.outcome? ≠ none := by
  cases stage with
  | checking => exact absurd hreturned (returned_notMem_fruitless _ _)
  | asking | resting => simp [returned_notMem_fruitless] at hreturned
  | settled _ _ _ houtcome | exhausted _ _ _ houtcome => simp [houtcome]

/-- The member's record follows from the replies. -/
theorem member_eq (stage : Stage plan old notes search member) :
    member = old.introduced (replies notes) := by
  cases stage <;> simp

/-- What a search that is about to ask has noted, and that it may. -/
theorem length_of_checking (stage : Stage plan old notes search member)
    (hchecking : search.phase = .checking) :
    notes.length = 3 * search.attempts ∧
      (plan.maxAttempts = 0 ∨ search.attempts < plan.maxAttempts) := by
  cases stage with
  | checking hopen hmore => exact ⟨length_fruitless _, hmore⟩
  | asking | resting => simp at hchecking
  | settled _ _ _ houtcome | exhausted _ _ _ houtcome =>
      simp [Search.outcome?, hchecking] at houtcome

/-- A search that is not over has noted each reply, with its question and the pause after it, and
at most one more question. -/
theorem length_of_open (stage : Stage plan old notes search member)
    (hopen : search.outcome? = none) : notes.length ≤ 3 * (replies notes).length + 1 := by
  cases stage with
  | checking | asking => simp [length_fruitless]
  | resting =>
      simp only [List.length_append, length_fruitless, replies_append, replies_fruitless,
        replies_asked, replies_heard, replies_nil, List.length_cons, List.length_nil]
      omega
  | settled _ _ _ houtcome | exhausted _ _ _ houtcome => simp [houtcome] at hopen

theorem eq_checking {count : Nat} (stage : Stage plan old notes search member)
    (hopen : search.outcome? = none) (hlength : notes.length = 3 * count) :
    search = { attempts := count, phase := .checking } := by
  cases stage with
  | @checking heard =>
      rw [length_fruitless] at hlength
      rw [Nat.eq_of_mul_eq_mul_left (by decide) hlength]
  | asking | resting =>
      simp only [List.length_append, length_fruitless, List.length_cons, List.length_nil] at hlength
      omega
  | settled _ _ _ houtcome | exhausted _ _ _ houtcome => simp [houtcome] at hopen

/-- A search that may still ask has not got to the reply that ends it. -/
theorem length_le {heard : List StatusReply} {last : Nat} (hreplays : Replays heard row)
    (hopen : ∀ reply ∈ heard, reply.settles = false) (hmore : heard.length < plan.maxAttempts)
    (hlast : (row last).settles = false → last + 1 = plan.maxAttempts) : heard.length ≤ last := by
  by_contra hbeyond
  -- Otherwise the reply that ends the search is among those that settled nothing.
  have hmem : row last ∈ heard := by
    rw [hreplays]
    exact mem_upTo.mpr ⟨last, by omega, rfl⟩
  have := hlast (hopen _ hmem)
  omega

/-- The notes of a bounded search are the beginning of its tale, and all of it once it is over. -/
theorem tells (stage : Stage plan old notes search member) (hbound : 0 < plan.maxAttempts)
    (hreplays : Replays (replies notes) row) :
    notes <+: tale old.name plan.maxAttempts row ∧
      (search.outcome? = none ∨ notes = tale old.name plan.maxAttempts row) := by
  obtain ⟨last, hlt, hearlier, hlast, htale⟩ := exists_tale_eq old.name hbound row
  rw [htale]
  cases stage with
  | @checking heard hopen hmore hword =>
      rw [replies_fruitless] at hreplays
      have hle := length_le hreplays hopen (by omega) hlast
      refine ⟨?_, .inl rfl⟩
      rw [hreplays]
      exact (List.prefix_append ..).trans (fruitless_begins hle _)
  | @asking heard hopen hmore hword =>
      simp only [replies_append, replies_fruitless, replies_asked, replies_nil, List.append_nil]
        at hreplays
      have hle := length_le hreplays hopen (by omega) hlast
      refine ⟨?_, .inl rfl⟩
      rw [hreplays]
      exact ((List.prefix_append_right_inj _).mpr ⟨_, rfl⟩).trans (fruitless_begins hle _)
  | @resting heard reply hopen hreply hmore hword due =>
      simp only [replies_append, replies_fruitless, replies_asked, replies_heard, replies_nil]
        at hreplays
      obtain ⟨hheard, rfl⟩ := hreplays.of_concat
      have hle := length_le hheard hopen (by omega) hlast
      refine ⟨?_, .inl rfl⟩
      rw [hheard, length_upTo]
      exact fruitless_begins hle _
  | @settled heard reply search hopen hreply hmore houtcome =>
      simp only [replies_append, replies_fruitless, replies_asked, replies_heard, replies_returned,
        replies_nil] at hreplays
      obtain ⟨hheard, rfl⟩ := hreplays.of_concat
      have hle := length_le hheard hopen (by omega) hlast
      obtain rfl : heard.length = last := by
        by_contra hne
        simp [hearlier heard.length (by omega)] at hreply
      rw [if_pos hreply, ← hheard]
      exact ⟨List.prefix_rfl, .inr rfl⟩
  | @exhausted heard reply search hopen hreply hall houtcome =>
      simp only [replies_append, replies_fruitless, replies_asked, replies_heard, replies_returned,
        replies_nil] at hreplays
      obtain ⟨hheard, rfl⟩ := hreplays.of_concat
      have hle := length_le hheard hopen (by omega) hlast
      obtain rfl : heard.length = last := by omega
      rw [if_neg (by simp [hreply]), ← hheard]
      exact ⟨List.prefix_rfl, .inr rfl⟩

/-- An unbounded search whose replies settle nothing is never over, and asks as often as its
attempts can be counted. -/
theorem endless (stage : Stage plan old notes search member) (hbound : plan.maxAttempts = 0)
    (hrow : ∀ place, (row place).settles = false) (hreplays : Replays (replies notes) row) :
    search.outcome? = none ∧
      notes <+: fruitless (upTo row (wordCount Search.attemptBits - 1)) := by
  cases stage with
  | @checking heard hopen hmore hword =>
      rw [replies_fruitless] at hreplays
      refine ⟨rfl, ?_⟩
      rw [hreplays]
      exact fruitless_mono (by omega)
  | @asking heard hopen hmore hword =>
      simp only [replies_append, replies_fruitless, replies_asked, replies_nil, List.append_nil]
        at hreplays
      refine ⟨rfl, .trans ?_ (fruitless_mono (by omega : heard.length + 1 ≤ _))⟩
      rw [upTo_succ, fruitless_concat, ← hreplays]
      exact (List.prefix_append_right_inj _).mpr ⟨_, rfl⟩
  | @resting heard reply hopen hreply hmore hword due =>
      simp only [replies_append, replies_fruitless, replies_asked, replies_heard, replies_nil]
        at hreplays
      obtain ⟨hheard, rfl⟩ := hreplays.of_concat
      refine ⟨rfl, .trans ?_ (fruitless_mono (by omega : heard.length + 1 ≤ _))⟩
      rw [upTo_succ, fruitless_concat, ← hheard]
      exact (List.prefix_append_right_inj _).mpr ⟨_, rfl⟩
  | @settled heard reply search hopen hreply hmore houtcome =>
      simp only [replies_append, replies_fruitless, replies_asked, replies_heard, replies_returned,
        replies_nil] at hreplays
      obtain ⟨-, rfl⟩ := hreplays.of_concat
      simp [hrow] at hreply
  | exhausted hopen hreply hlast => omega

end Stage

end FleetControl
