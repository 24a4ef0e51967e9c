import FleetControl.Member.Record
import FleetControl.Proofs.Number.Hexadecimal

/-!
# What a snapshot always shows

Six writers change a record, each some of its fields: a start or restart, a stop, the monitor where
it degrades a member or brings the text of a stopped one up to date, a probe, and the search for a
leader. They come in any order, with times that may be old. Whatever they write, the parts of the
snapshot agree with each other.
-/

namespace FleetControl

open FleetControl.Number

/-- One write to a record. -/
inductive Member.Edit where
  | start (verb : String) (now : Clock)
  | stop (now : Clock)
  | degrade (seen : Nanos) (activity : String) (started now : Int) (cause : String)
  | refresh (now : Int)
  | commit (seen : Nanos) (endpoint text : String) (report : ProbeReport)
  | discover (report : StatusReport)

namespace Member

def edit (member : Member) : Edit → Member
  | .start verb now => member.markStarted verb now
  | .stop now => member.markStopped now
  | .degrade seen activity started now cause =>
      (member.markUnreachable seen activity started now cause).1
  | .refresh now => member.refreshStoppedText now
  | .commit seen endpoint text report =>
      (member.updateStatusSince seen (·.commit endpoint text report)).1
  | .discover report => member.updateStatus (·.discover report)

/-- The report that a write carries. -/
def Edit.report? : Edit → Option StatusReport
  | .commit _ _ _ report => some report.status
  | .discover report => some report
  | .start .. => none
  | .stop _ => none
  | .degrade .. => none
  | .refresh _ => none

end Member

/-- The parts of a snapshot agree with each other, and its id was reported. -/
structure MemberStatus.Sound (status : MemberStatus) (reports : List StatusReport) : Prop where
  leads : status.isLeader = true ↔ status.state = .leader
  cleared : status.state = .stopped →
    status.dbSize = 0 ∧ status.dbSizeText = "" ∧ status.hash = 0
  measured : status.dbSizeText = Text.byteSize status.dbSize ∨
    status.dbSize = 0 ∧ status.dbSizeText = ""
  known : status.id = "" ∨ ∃ report ∈ reports, IsHexadecimal status.id report.memberId

namespace MemberStatus

theorem ofLeadership_ne_stopped (isLeader : Bool) :
    MemberState.ofLeadership isLeader ≠ .stopped := by
  cases isLeader <;> simp [MemberState.ofLeadership]

theorem ofLeadership_eq_leader (isLeader : Bool) :
    isLeader = true ↔ MemberState.ofLeadership isLeader = .leader := by
  cases isLeader <;> simp [MemberState.ofLeadership]

namespace Sound

variable {status : MemberStatus} {reports : List StatusReport}

theorem mono (sound : status.Sound reports) {more : List StatusReport} (hmore : reports ⊆ more) :
    status.Sound more :=
  ⟨sound.leads, sound.cleared, sound.measured, sound.known.imp_right
    fun ⟨report, hreport, hid⟩ => ⟨report, hmore hreport, hid⟩⟩

theorem setStateText (sound : status.Sound reports) (stateText : String) :
    { status with stateText }.Sound reports :=
  ⟨sound.leads, sound.cleared, sound.measured, sound.known⟩

theorem setId (sound : status.Sound reports) {report : StatusReport} (hreport : report ∈ reports) :
    { status with id := report.memberIdHex }.Sound reports :=
  ⟨sound.leads, sound.cleared, sound.measured,
    .inr ⟨report, hreport, isHexadecimal_hexadecimal _⟩⟩

/-- A running member may show any size, so nothing has to be cleared. -/
theorem setLeadership (sound : status.Sound reports) (isLeader : Bool) :
    (status.setLeadership isLeader).Sound reports :=
  ⟨ofLeadership_eq_leader isLeader, fun hstopped => absurd hstopped (ofLeadership_ne_stopped _),
    sound.measured, sound.known⟩

theorem setStopped (sound : status.Sound reports) (stateText : String) :
    (status.setStopped stateText).Sound reports :=
  ⟨by simp [MemberStatus.setStopped], fun _ => ⟨rfl, rfl, rfl⟩, .inr ⟨rfl, rfl⟩, sound.known⟩

theorem commit (status : MemberStatus) (endpoint stateText : String) {report : ProbeReport}
    (hreport : report.status ∈ reports) : (status.commit endpoint stateText report).Sound reports :=
  ⟨ofLeadership_eq_leader _, fun hstopped => absurd hstopped (ofLeadership_ne_stopped _), .inl rfl,
    .inr ⟨_, hreport, isHexadecimal_hexadecimal _⟩⟩

theorem discover (sound : status.Sound reports) {report : StatusReport}
    (hreport : report ∈ reports) : (status.discover report).Sound reports := by
  unfold MemberStatus.discover
  dsimp only
  split
  next => exact (sound.setId hreport).setLeadership _
  next => exact sound.setId hreport

end Sound

end MemberStatus

namespace Member

variable {member : Member} {reports : List StatusReport}

/-- A write that carries the time of an earlier transition changes nothing. -/
theorem sound_updateStatusSince (hsound : member.status.Sound reports) (seen : Nanos)
    {f : MemberStatus → MemberStatus} (hf : (f member.status).Sound reports) :
    (member.updateStatusSince seen f).1.status.Sound reports := by
  unfold updateStatusSince
  split
  next => exact hf
  next => exact hsound

theorem sound_edit (hsound : member.status.Sound reports) (edit : Edit) :
    (member.edit edit).status.Sound (reports ++ edit.report?.toList) := by
  -- An id that was reported once stays a reported one.
  have hbefore := hsound.mono (List.subset_append_left reports edit.report?.toList)
  cases edit with
  | start verb now => exact (hbefore.setLeadership false).setStateText _
  | stop now => exact hbefore.setStopped _
  | degrade seen activity started now cause =>
      exact sound_updateStatusSince hbefore seen (hbefore.setStopped _)
  | refresh now =>
      simp only [Member.edit, refreshStoppedText]
      split
      next => exact hbefore
      next => exact hbefore.setStateText _
  | commit seen endpoint text report =>
      have hreport : report.status ∈ reports ++ [report.status] := by simp
      exact sound_updateStatusSince hbefore seen (.commit _ _ _ hreport)
  | discover report =>
      have hreport : report ∈ reports ++ [report] := by simp
      exact hbefore.discover hreport

/-- No write gives a member or its snapshot another name. -/
theorem name_edit (member : Member) (edit : Edit) :
    (member.edit edit).name = member.name ∧
      (member.edit edit).status.name = member.status.name := by
  cases edit with
  | start | stop => exact ⟨rfl, rfl⟩
  | refresh =>
      simp only [Member.edit, refreshStoppedText]
      split <;> exact ⟨rfl, rfl⟩
  | degrade | commit =>
      simp only [Member.edit, markUnreachable, updateStatusSince]
      split <;> exact ⟨rfl, rfl⟩
  | discover =>
      refine ⟨rfl, ?_⟩
      simp only [Member.edit, updateStatus, MemberStatus.discover]
      split <;> rfl

theorem sound_edits (hsound : member.status.Sound reports) (edits : List Edit) :
    (edits.foldl edit member).status.Sound (reports ++ edits.filterMap Edit.report?) := by
  induction edits generalizing member reports with
  | nil => simpa using hsound
  | cons first rest ih =>
      have hrest := ih (sound_edit hsound first)
      rw [List.append_assoc] at hrest
      have hreports : first.report?.toList ++ rest.filterMap Edit.report? =
          (first :: rest).filterMap Edit.report? := by
        cases hfirst : first.report? <;> simp [hfirst]
      exact hreports ▸ hrest

theorem name_edits (member : Member) (edits : List Edit) :
    (edits.foldl edit member).name = member.name ∧
      (edits.foldl edit member).status.name = member.status.name := by
  induction edits generalizing member with
  | nil => exact ⟨rfl, rfl⟩
  | cons first rest ih =>
      obtain ⟨hname, hstatus⟩ := member.name_edit first
      exact ⟨(ih _).1.trans hname, (ih _).2.trans hstatus⟩

theorem sound_new (index : Nat) (config : MemberConfig) (now : Clock) :
    (new index config now).status.Sound [] :=
  ⟨by simp [new], fun _ => ⟨rfl, rfl, rfl⟩, .inr ⟨rfl, rfl⟩, .inl rfl⟩

/-- From the launch of a member on, whoever writes to its record, in whatever order and with
whatever times: its snapshot is that of a leader exactly if it says so, a stopped one shows no size
and no hash, the text of the size is that of the size or both are missing, the id is missing or the
hexadecimal numeral of an id that was reported, and the name stays. -/
theorem snapshot_sound (index : Nat) (config : MemberConfig) (now : Clock) (edits : List Edit) :
    (edits.foldl edit (new index config now)).status.Sound (edits.filterMap Edit.report?) ∧
      (edits.foldl edit (new index config now)).name = config.name ∧
      (edits.foldl edit (new index config now)).status.name = config.name :=
  ⟨sound_edits (sound_new index config now) edits, name_edits (new index config now) edits⟩

end Member

end FleetControl
