import FleetControl.Network.Probe
import Mathlib.Tactic.Cases

/-!
# Probes that are cut short

Undisturbed, a probe ends in one way and at one moment. The root signal either comes after that
moment and changes nothing, or before it, and then the answer tells of the signal and of nothing
else. What carries this through the calls is that a probe, after each of them, is either where the
undisturbed one is, at a moment before the signal, or has been given up after the signal.
-/

namespace FleetControl.Network

/-- The root signal as a probe sees it that begins at zero. A signal from before is one that had
fired. -/
def CancelTime.ofMoment (moment : Int) : CancelTime := some moment.toNat

/-! ### One call -/

/-- How a call ends undisturbed, and when. A call that completes at its deadline has completed. -/
inductive Attempt.Settles {α : Type} (attempt : Attempt α) (deadline : Nanos) :
    Except NetworkFault α → Nanos → Prop
  | completed {duration : Nanos} (hduration : attempt.duration = some duration)
      (hintime : duration ≤ deadline) : Settles attempt deadline attempt.outcome duration
  | late (hlate : ∀ duration, attempt.duration = some duration → deadline < duration) :
      Settles attempt deadline (.error (.timeout deadline)) deadline

section

variable {α β γ : Type} {attempt : Attempt β} {deadline finish : Nanos}
  {answer : Except NetworkFault β}

theorem Attempt.exists_settles (attempt : Attempt β) (deadline : Nanos) :
    ∃ answer finish, attempt.Settles deadline answer finish := by
  cases hduration : attempt.duration with
  | none => exact ⟨_, _, .late (by simp [hduration])⟩
  | some duration =>
      rcases Nat.lt_or_ge deadline duration with hlate | hintime
      · exact ⟨_, _, .late (by simpa [hduration] using hlate)⟩
      · exact ⟨_, _, .completed hduration hintime⟩

/-- A call ends as it would undisturbed, unless the root signal comes first. -/
theorem Attempt.Settles.withDeadline_eq (hsettles : attempt.Settles deadline answer finish)
    (cancel : CancelTime) :
    withDeadline cancel deadline attempt.duration attempt.outcome =
      if cancel.precedes finish then (.error .cancelled, cancel.getD 0) else (answer, finish) := by
  cases hsettles with
  | completed hduration hintime =>
      simp only [withDeadline, hduration, if_pos hintime]
      cases cancel <;> rfl
  | late hlate =>
      cases hduration : attempt.duration with
      | none =>
          simp only [withDeadline]
          cases cancel <;> rfl
      | some duration =>
          simp only [withDeadline, if_neg (Nat.not_le.mpr (hlate duration hduration))]
          cases cancel <;> rfl

variable {progress : Progress α} {before : α} {deadlines : Deadlines} {stage : ProbeStage}
  {join : α → β → Except NetworkFault γ}

theorem Progress.call_of_error {fault : ProbeFault} (herror : progress.answer = .error fault)
    (stage : ProbeStage) (cancel : CancelTime) (deadlines : Deadlines) (attempt : Attempt β)
    (join : α → β → Except NetworkFault γ) :
    progress.call stage cancel deadlines attempt join =
      ⟨.error fault, progress.elapsed, progress.issued⟩ := by
  rw [call, herror]

/-- Undisturbed, a call adds its time to that of the probe. -/
theorem Progress.call_of_settles (hbefore : progress.answer = .ok before)
    (hsettles : attempt.Settles (deadlines.of stage) answer finish) :
    progress.call stage none deadlines attempt join =
      ⟨(answer >>= join before).mapError fun source => ⟨stage, source⟩,
        progress.elapsed + finish, progress.issued ++ [stage]⟩ := by
  simp [call, hbefore, CancelTime.after, hsettles.withDeadline_eq, CancelTime.precedes]

/-! ### A call after another -/

theorem Progress.elapsed_le_call (progress : Progress α) (stage : ProbeStage) (cancel : CancelTime)
    (deadlines : Deadlines) (attempt : Attempt β) (join : α → β → Except NetworkFault γ) :
    progress.elapsed ≤ (progress.call stage cancel deadlines attempt join).elapsed := by
  unfold call
  split
  next => exact Nat.le_refl _
  next => exact Nat.le_add_right _ _

/-- A call that succeeded comes after others that did. -/
theorem Progress.exists_of_call_ok {cancel : CancelTime} {after : γ}
    (hcall : (progress.call stage cancel deadlines attempt join).answer = .ok after) :
    ∃ before answer, progress.answer = .ok before ∧ join before answer = .ok after := by
  cases hbefore : progress.answer with
  | error fault => simp [call_of_error hbefore] at hcall
  | ok before =>
      simp only [call, hbefore] at hcall
      cases hanswer : (withDeadline (cancel.after progress.elapsed) (deadlines.of stage)
        attempt.duration attempt.outcome).1 with
      | error source =>
          rw [hanswer] at hcall
          cases hcall
      | ok answer =>
          rw [hanswer] at hcall
          refine ⟨before, answer, rfl, ?_⟩
          cases hjoin : join before answer with
          | error source => simp [bind, Except.bind, hjoin, Except.mapError] at hcall
          | ok joined => simpa [bind, Except.bind, hjoin, Except.mapError] using hcall

/-- A probe makes a call only if all calls before it succeeded. -/
theorem Progress.mem_issued_call {cancel : CancelTime} {made : ProbeStage}
    (hmade : made ∈ (progress.call stage cancel deadlines attempt join).issued) :
    made ∈ progress.issued ∨ made = stage ∧ ∃ before, progress.answer = .ok before := by
  cases hbefore : progress.answer with
  | error fault =>
      rw [call_of_error hbefore] at hmade
      exact .inl hmade
  | ok before =>
      simp only [call, hbefore, List.mem_append] at hmade
      rcases hmade with hearlier | hnow
      · exact .inl hearlier
      · split at hnow
        · simp at hnow
        · exact .inr ⟨List.mem_singleton.mp hnow, before, rfl⟩

/-- The probe was given up for the root signal. -/
def Progress.Abandoned (progress : Progress α) : Prop :=
  ∃ stage, progress.answer = .error ⟨stage, .cancelled⟩

/-- How far a probe under a root signal at this moment has come, and how far it would have come
undisturbed. -/
inductive Progress.Agrees (moment : Nanos) (undisturbed : Progress α) : Progress α → Prop
  /-- It has come as far, and that before the signal. -/
  | through (hfired : 0 < moment) (hbefore : undisturbed.elapsed ≤ moment) :
      Agrees moment undisturbed undisturbed
  /-- It was given up, and that after the signal. -/
  | cut {progress : Progress α} (habandoned : progress.Abandoned)
      (hafter : moment ≤ undisturbed.elapsed) : Agrees moment undisturbed progress

variable {moment : Nanos}

/-- A call sees the root signal if the probe began it after the signal, or would end it after the
signal. -/
theorem CancelTime.precedes_after_iff {moment elapsed finish : Nat} :
    (CancelTime.after (some moment) elapsed).precedes finish = true ↔
      moment ≤ elapsed ∨ moment < elapsed + finish := by
  have hleft : moment - elapsed = 0 ∨ moment - elapsed < finish ↔
      moment ≤ elapsed ∨ moment < elapsed + finish := by omega
  simpa [after, precedes] using hleft

/-- A call is made as it would be undisturbed, or given up for the signal. -/
theorem Progress.agrees_of_ok (hbefore : progress.answer = .ok before) (moment : Nanos) :
    (progress.call stage none deadlines attempt join).Agrees moment
      (progress.call stage (some moment) deadlines attempt join) := by
  obtain ⟨answer, finish, hsettles⟩ := attempt.exists_settles (deadlines.of stage)
  have hcall : progress.call stage none deadlines attempt join =
      ⟨(answer >>= join before).mapError fun source => ⟨stage, source⟩,
        progress.elapsed + finish, progress.issued ++ [stage]⟩ := call_of_settles hbefore hsettles
  by_cases hfirst : (CancelTime.after (some moment) progress.elapsed).precedes finish = true
  · refine .cut ⟨stage, ?_⟩ ?_
    · simp only [call, hbefore, hsettles.withDeadline_eq, if_pos hfirst]
      rfl
    · rw [hcall]
      rcases CancelTime.precedes_after_iff.mp hfirst with hfired | hmeanwhile
      · exact Nat.le_trans hfired (Nat.le_add_right _ _)
      · exact Nat.le_of_lt hmeanwhile
  · have hlater := mt CancelTime.precedes_after_iff.mpr hfirst
    rw [not_or, Nat.not_le, Nat.not_lt] at hlater
    have hsignal : CancelTime.after (some moment) progress.elapsed ≠ some 0 := by
      simpa [CancelTime.after] using Nat.sub_ne_zero_of_lt hlater.1
    have hsame : progress.call stage (some moment) deadlines attempt join =
        progress.call stage none deadlines attempt join := by
      rw [hcall]
      simp only [call, hbefore, hsettles.withDeadline_eq, if_neg hfirst, if_neg hsignal]
    rw [hsame]
    refine .through (Nat.zero_lt_of_lt hlater.1) ?_
    rw [hcall]
    exact hlater.2

theorem Progress.Agrees.call {undisturbed : Progress α}
    (hagrees : undisturbed.Agrees moment progress) (stage : ProbeStage) (deadlines : Deadlines)
    (attempt : Attempt β) (join : α → β → Except NetworkFault γ) :
    (undisturbed.call stage none deadlines attempt join).Agrees moment
      (progress.call stage (some moment) deadlines attempt join) := by
  cases hagrees with
  | through hfired hbefore =>
      cases hanswer : progress.answer with
      | ok before => exact agrees_of_ok hanswer moment
      | error fault =>
          rw [call_of_error hanswer, call_of_error hanswer]
          exact .through hfired hbefore
  | cut habandoned hafter =>
      obtain ⟨failed, hfailed⟩ := habandoned
      rw [call_of_error hfailed]
      exact .cut ⟨failed, rfl⟩
        (Nat.le_trans hafter (undisturbed.elapsed_le_call stage none deadlines attempt join))

/-- A probe whose root signal comes before the end, or had fired before, is given up. -/
theorem Progress.Agrees.abandoned {undisturbed : Progress α}
    (hagrees : undisturbed.Agrees moment progress)
    (hearly : moment = 0 ∨ moment < undisturbed.elapsed) : progress.Abandoned := by
  cases hagrees with
  | cut habandoned => exact habandoned
  | through hfired hbefore =>
      rcases hearly with hzero | hlt
      · exact absurd hzero (Nat.ne_of_gt hfired)
      · exact absurd hbefore (Nat.not_le.mpr hlt)

/-- A root signal after the end changes nothing. -/
theorem Progress.Agrees.eq_of_lt {undisturbed : Progress α}
    (hagrees : undisturbed.Agrees moment progress) (hlate : undisturbed.elapsed < moment) :
    progress = undisturbed := by
  cases hagrees with
  | through => rfl
  | cut _ hafter => exact absurd hlate (Nat.not_lt.mpr hafter)

/-- What was answered under a root signal is answered without it. -/
theorem Progress.Agrees.eq_of_ok {undisturbed : Progress α}
    (hagrees : undisturbed.Agrees moment progress) (hok : progress.answer = .ok before) :
    progress = undisturbed := by
  cases hagrees with
  | through => rfl
  | cut habandoned =>
      obtain ⟨failed, hfailed⟩ := habandoned
      simp [hfailed] at hok

end

/-! ### The whole probe -/

namespace ProbeRun

variable {run : ProbeRun} {deadlines : Deadlines} {moment : Nanos}

/-- Undisturbed, the status query of a probe succeeds with this report at this moment. -/
inductive Reports (run : ProbeRun) (deadlines : Deadlines) : StatusReport → Nanos → Prop
  | intro {reply : StatusReply} {memberId : Nat} {dialed answered : Nanos}
      (hdial : run.firstDial.Settles deadlines.dial (.ok ()) dialed)
      (hstatus : run.status.Settles deadlines.call (.ok reply) answered)
      (hheader : reply.memberId = some memberId) :
      Reports run deadlines ⟨memberId, reply.leaderId, reply.dbSize.toNat⟩ (dialed + answered)

/-- Undisturbed, a probe ends with this answer at this moment, having made these calls. -/
inductive Ends (run : ProbeRun) (deadlines : Deadlines) :
    Except ProbeFault ProbeReport → Nanos → List ProbeStage → Prop
  | unconnected {source : NetworkFault} {ending : Nanos}
      (hdial : run.firstDial.Settles deadlines.dial (.error source) ending) :
      Ends run deadlines (.error ⟨.client, source⟩) ending [.client]
  | unanswered {source : NetworkFault} {dialed answered : Nanos}
      (hdial : run.firstDial.Settles deadlines.dial (.ok ()) dialed)
      (hstatus : run.status.Settles deadlines.call (.error source) answered) :
      Ends run deadlines (.error ⟨.status, source⟩) (dialed + answered) [.client, .status]
  | headless {reply : StatusReply} {dialed answered : Nanos}
      (hdial : run.firstDial.Settles deadlines.dial (.ok ()) dialed)
      (hstatus : run.status.Settles deadlines.call (.ok reply) answered)
      (hheader : reply.memberId = none) :
      Ends run deadlines (.error ⟨.status, .malformed "header"⟩) (dialed + answered)
        [.client, .status]
  | undialed {status : StatusReport} {source : NetworkFault} {queried dialed : Nanos}
      (hreports : run.Reports deadlines status queried)
      (hdial : run.secondDial.Settles deadlines.dial (.error source) dialed) :
      Ends run deadlines (.error ⟨.dial, source⟩) (queried + dialed) [.client, .status, .dial]
  | unhashed {status : StatusReport} {source : NetworkFault} {queried dialed hashed : Nanos}
      (hreports : run.Reports deadlines status queried)
      (hdial : run.secondDial.Settles deadlines.dial (.ok ()) dialed)
      (hhash : run.hash.Settles deadlines.call (.error source) hashed) :
      Ends run deadlines (.error ⟨.hash, source⟩) (queried + dialed + hashed)
        [.client, .status, .dial, .hash]
  | reported {status : StatusReport} {hash : Nat} {queried dialed hashed : Nanos}
      (hreports : run.Reports deadlines status queried)
      (hdial : run.secondDial.Settles deadlines.dial (.ok ()) dialed)
      (hhash : run.hash.Settles deadlines.call (.ok hash) hashed) :
      Ends run deadlines (.ok ⟨status, hash⟩) (queried + dialed + hashed)
        [.client, .status, .dial, .hash]

section

variable {connected : Except NetworkFault Unit} {reply : StatusReply} {status : StatusReport}
  {dialed elapsed finish : Nanos}

theorem connect_of_settles (hdial : run.firstDial.Settles deadlines.dial connected dialed) :
    run.connect none deadlines =
      ⟨connected.mapError fun source => ⟨.client, source⟩, dialed, [.client]⟩ := by
  rw [connect, Progress.call_of_settles rfl hdial, Nat.zero_add]
  cases connected <;> rfl

theorem queryStatus_of_settles (hdial : run.firstDial.Settles deadlines.dial (.ok ()) dialed)
    (hstatus : run.status.Settles deadlines.call (.ok reply) finish) :
    run.queryStatus none deadlines =
      ⟨reply.report.mapError fun source => ⟨.status, source⟩, dialed + finish,
        [.client, .status]⟩ := by
  rw [queryStatus, connect_of_settles hdial, Progress.call_of_settles rfl hstatus]
  rfl

theorem Reports.queryStatus_eq (hreports : run.Reports deadlines status elapsed) :
    run.queryStatus none deadlines = ⟨.ok status, elapsed, [.client, .status]⟩ := by
  cases hreports with
  | intro hdial hstatus hheader =>
      rw [queryStatus_of_settles hdial hstatus, StatusReply.report, hheader]
      rfl

theorem Reports.reconnect_eq (hreports : run.Reports deadlines status elapsed)
    (hdial : run.secondDial.Settles deadlines.dial connected dialed) :
    run.reconnect none deadlines =
      ⟨(connected.map fun () => status).mapError fun source => ⟨.dial, source⟩, elapsed + dialed,
        [.client, .status, .dial]⟩ := by
  rw [reconnect, hreports.queryStatus_eq, Progress.call_of_settles rfl hdial]
  cases connected <;> rfl

/-- Undisturbed, a query that fails is the end of the probe. -/
theorem probe_of_queryStatus {fault : ProbeFault} {issued : List ProbeStage}
    (hquery : run.queryStatus none deadlines = ⟨.error fault, elapsed, issued⟩) :
    run.probe none deadlines = ⟨.error fault, elapsed, issued⟩ := by
  rw [probe, reconnect, hquery, Progress.call_of_error rfl, Progress.call_of_error rfl]

theorem Ends.probe_eq {answer : Except ProbeFault ProbeReport} {ending : Nanos}
    {issued : List ProbeStage} (hends : run.Ends deadlines answer ending issued) :
    run.probe none deadlines = ⟨answer, ending, issued⟩ := by
  cases hends with
  | unconnected hdial =>
      apply probe_of_queryStatus
      rw [queryStatus, connect_of_settles hdial]
      exact Progress.call_of_error rfl ..
  | unanswered hdial hstatus =>
      apply probe_of_queryStatus
      rw [queryStatus, connect_of_settles hdial, Progress.call_of_settles rfl hstatus]
      rfl
  | headless hdial hstatus hheader =>
      apply probe_of_queryStatus
      rw [queryStatus_of_settles hdial hstatus, StatusReply.report, hheader]
      rfl
  | undialed hreports hdial =>
      rw [probe, hreports.reconnect_eq hdial]
      exact Progress.call_of_error rfl ..
  | unhashed hreports hdial hhash =>
      rw [probe, hreports.reconnect_eq hdial, Progress.call_of_settles rfl hhash]
      rfl
  | reported hreports hdial hhash =>
      rw [probe, hreports.reconnect_eq hdial, Progress.call_of_settles rfl hhash]
      rfl

end

/-- A probe that is left alone comes to an end. -/
theorem exists_ends (run : ProbeRun) (deadlines : Deadlines) :
    ∃ answer ending issued, run.Ends deadlines answer ending issued := by
  obtain ⟨connected, dialed, hdial⟩ := run.firstDial.exists_settles deadlines.dial
  obtain ⟨answered, replied, hstatus⟩ := run.status.exists_settles deadlines.call
  obtain ⟨again, redialed, hredial⟩ := run.secondDial.exists_settles deadlines.dial
  obtain ⟨hashed, finished, hhash⟩ := run.hash.exists_settles deadlines.call
  cases connected with
  | error source => exact ⟨_, _, _, .unconnected hdial⟩
  | ok =>
      cases answered with
      | error source => exact ⟨_, _, _, .unanswered hdial hstatus⟩
      | ok reply =>
          cases hheader : reply.memberId with
          | none => exact ⟨_, _, _, .headless hdial hstatus hheader⟩
          | some memberId =>
              have hreports := Reports.intro hdial hstatus hheader
              cases again with
              | error source => exact ⟨_, _, _, .undialed hreports hredial⟩
              | ok =>
                  cases hashed with
                  | error source => exact ⟨_, _, _, .unhashed hreports hredial hhash⟩
                  | ok hash => exact ⟨_, _, _, .reported hreports hredial hhash⟩

theorem ends_iff {answer : Except ProbeFault ProbeReport} {ending : Nanos}
    {issued : List ProbeStage} :
    run.Ends deadlines answer ending issued ↔
      run.probe none deadlines = ⟨answer, ending, issued⟩ := by
  constructor
  · exact Ends.probe_eq
  · intro hprobe
    obtain ⟨answer', ending', issued', hends⟩ := run.exists_ends deadlines
    obtain ⟨rfl, rfl, rfl⟩ := Progress.mk.inj (hends.probe_eq.symm.trans hprobe)
    exact hends

/-- A query that succeeds undisturbed has had its answer, with a header. -/
theorem exists_reports {status : StatusReport}
    (hquery : (run.queryStatus none deadlines).answer = .ok status) :
    ∃ elapsed, run.Reports deadlines status elapsed := by
  obtain ⟨_, _, _, hends⟩ := run.exists_ends deadlines
  cases hends with
  | unconnected hdial =>
      rw [queryStatus, connect_of_settles hdial, Progress.call_of_error rfl] at hquery
      cases hquery
  | unanswered hdial hstatus =>
      rw [queryStatus, connect_of_settles hdial, Progress.call_of_settles rfl hstatus] at hquery
      cases hquery
  | headless hdial hstatus hheader =>
      rw [queryStatus_of_settles hdial hstatus, StatusReply.report, hheader] at hquery
      cases hquery
  | undialed hreports | unhashed hreports | reported hreports =>
      rw [hreports.queryStatus_eq] at hquery
      obtain rfl := Except.ok.inj hquery
      exact ⟨_, hreports⟩

/-! ### The root signal -/

theorem agrees_queryStatus (run : ProbeRun) (moment : Nanos) (deadlines : Deadlines) :
    (run.queryStatus none deadlines).Agrees moment (run.queryStatus (some moment) deadlines) :=
  (Progress.agrees_of_ok rfl moment).call ..

theorem agrees_probe (run : ProbeRun) (moment : Nanos) (deadlines : Deadlines) :
    (run.probe none deadlines).Agrees moment (run.probe (some moment) deadlines) :=
  ((run.agrees_queryStatus moment deadlines).call ..).call ..

section

variable {answer : Except ProbeFault ProbeReport} {ending : Nanos} {issued : List ProbeStage}
  {signal : Int}

theorem Ends.abandoned (hends : run.Ends deadlines answer ending issued)
    (hearly : signal < (ending : Int)) : (run.probe (.ofMoment signal) deadlines).Abandoned := by
  have hmoment : ∀ ending : Nat, signal < (ending : Int) →
      signal.toNat = 0 ∨ signal.toNat < ending := by omega
  refine (run.agrees_probe signal.toNat deadlines).abandoned ?_
  rw [hends.probe_eq]
  exact hmoment ending hearly

theorem Ends.undisturbed (hends : run.Ends deadlines answer ending issued)
    (hlate : (ending : Int) < signal) :
    run.probe (.ofMoment signal) deadlines = ⟨answer, ending, issued⟩ := by
  have hmoment : ∀ ending : Nat, (ending : Int) < signal → ending < signal.toNat := by omega
  rw [← hends.probe_eq]
  refine (run.agrees_probe signal.toNat deadlines).eq_of_lt ?_
  rw [hends.probe_eq]
  exact hmoment ending hlate

end

/-- The hash call is made only if the status query succeeded, under whatever root signal. -/
theorem reports_of_issued {cancel : CancelTime}
    (hissued : .hash ∈ (run.probe cancel deadlines).issued) :
    ∃ status elapsed, run.Reports deadlines status elapsed ∧
      (run.queryStatus cancel deadlines).answer = .ok status := by
  -- Every other stage makes a call of its own name.
  have hreconnected : ∃ status, (run.reconnect cancel deadlines).answer = .ok status := by
    rcases Progress.mem_issued_call hissued with hdialed | ⟨-, hbefore⟩
    · rcases Progress.mem_issued_call hdialed with hqueried | ⟨hstage, -⟩
      · rcases Progress.mem_issued_call hqueried with hconnected | ⟨hstage, -⟩
        · rcases Progress.mem_issued_call hconnected with hnone | ⟨hstage, -⟩
          · cases hnone
          · cases hstage
        · cases hstage
      · cases hstage
    · exact hbefore
  obtain ⟨status, hstatus⟩ := hreconnected
  obtain ⟨before, -, hquery, hjoin⟩ := Progress.exists_of_call_ok hstatus
  obtain rfl := Except.ok.inj hjoin
  have hundisturbed : (run.queryStatus none deadlines).answer = .ok before := by
    cases cancel with
    | none => exact hquery
    | some moment =>
        rw [← (run.agrees_queryStatus moment deadlines).eq_of_ok hquery]
        exact hquery
  obtain ⟨elapsed, hreports⟩ := exists_reports hundisturbed
  exact ⟨before, elapsed, hreports, hquery⟩

end ProbeRun

end FleetControl.Network
