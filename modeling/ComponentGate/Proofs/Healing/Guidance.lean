import ComponentGate.Proofs.Healing.Steps

/-! What the generator is told. The first question is the request's own instruction; each later one is made
by a strategy from that instruction and the rejection just before it, and from nothing older. -/

namespace ComponentGate.Healing

namespace Trace

/-- A run whose trace is `whole` was at `earlier` when it asked the generator. -/
def AskedAt (whole earlier : Trace) (instruction : String) (reply : Option String) : Prop :=
  (earlier.add (.asked instruction reply)).events <+: whole.events

/-- How many reviews have rejected a candidate. -/
def rejectedReviews (trace : Trace) : Nat :=
  trace.attempts.countP fun attempt => attempt.stage == .validation && !attempt.isAccepted

/-- The number of the retry that follows a rejected attempt. -/
def retryAfter (trace : Trace) (attempt : Attempt) : Nat :=
  match attempt.stage with
  | .validation => trace.rejectedReviews
  | .compile => 1 + attempt.index

theorem askedAt_add_iff {trace earlier : Trace} {event : Event} {instruction : String}
    {reply : Option String} :
    (trace.add event).AskedAt earlier instruction reply ↔
      (earlier = trace ∧ event = .asked instruction reply) ∨
        trace.AskedAt earlier instruction reply :=
  add_prefix_add_iff

end Trace

/-- An instruction answers the rejection that a trace ends with. -/
structure Answering (setting : Setting ε) (base : String) (trace : Trace) (instruction : String)
    (attempt : Attempt) : Prop where
  /-- Nothing has happened since the attempt was recorded. -/
  latest : ∃ before, trace = setting.record before attempt
  rejected : attempt.outcome = .rejected
  strategy : ∃ strategy,
    setting.config.strategies[
      min (trace.retryAfter attempt) setting.config.strategies.length - 1]? = some strategy ∧
    instruction = strategy ⟨attempt.stage, trace.retryAfter attempt, base, attempt.findings⟩

/-- What the generator is to be asked at the end of a trace: `base`, if it was not asked before. -/
def Due (setting : Setting ε) (base : String) (trace : Trace) (instruction : String) : Prop :=
  if trace.instructions = [] then instruction = base
  else ∃ attempt, Answering setting base trace instruction attempt

/-- Every question to the generator was due when it was asked. -/
def Guided (setting : Setting ε) (base : String) (trace : Trace) : Prop :=
  ∀ earlier instruction reply, trace.AskedAt earlier instruction reply →
    Due setting base earlier instruction

section Runs

variable {setting : Setting ε} {base : String} {trace : Trace}

theorem guided_empty (setting : Setting ε) (base : String) : Guided setting base .empty := by
  intro earlier instruction reply asked
  simp [Trace.AskedAt, Trace.empty] at asked

/-- Only questions need to be looked at. -/
theorem Guided.add (guided : Guided setting base trace) (other : event.instruction? = none) :
    Guided setting base (trace.add event) := by
  intro earlier instruction reply asked
  rcases Trace.askedAt_add_iff.1 asked with ⟨-, rfl⟩ | before
  · simp at other
  · exact guided _ _ _ before

theorem Guided.record (guided : Guided setting base trace) (attempt : Attempt) :
    Guided setting base (setting.record trace attempt) := by
  unfold Setting.record Trace.record
  cases setting.config.observed
  · exact guided.add rfl
  · exact (guided.add rfl).add rfl

theorem Guided.asked (guided : Guided setting base trace) (due : Due setting base trace current)
    (reply : Option String) : Guided setting base (trace.add (.asked current reply)) := by
  intro earlier instruction answer asked
  rcases Trace.askedAt_add_iff.1 asked with ⟨rfl, same⟩ | before
  · cases same
    exact due
  · exact guided _ _ _ before

theorem Guided.reviewed (guided : Guided setting base trace) (due : Due setting base trace current)
    (generated : String) : Guided setting base (setting.reviewed trace current generated) :=
  (guided.asked due _).record _

theorem Guided.compiled (guided : Guided setting base trace) (draft : Candidate) (retry : Nat) :
    Guided setting base (setting.compiled trace draft retry) :=
  (guided.add rfl).record _

/-- A strategy's answer to the rejection just recorded is due. -/
theorem due_feedback {attempt : Attempt} {retry : Nat}
    (latest : ∃ before, trace = setting.record before attempt) (rejected : attempt.outcome = .rejected)
    (asked : trace.instructions ≠ []) (number : trace.retryAfter attempt = retry) :
    Due setting base trace
      (setting.config.feedback ⟨attempt.stage, retry, base, attempt.findings⟩) := by
  have inside := pred_min_length_lt setting.config.filled retry
  rw [Due, if_neg asked]
  refine ⟨attempt, latest, rejected, ?_⟩
  rw [number]
  exact ⟨_, List.getElem?_eq_getElem inside, rfl⟩

theorem rejectedReviews_reviewed (setting : Setting ε) (trace : Trace) (current generated : String) :
    (setting.reviewed trace current generated).rejectedReviews = trace.rejectedReviews +
      if (setting.examine generated).report.isValid then 0 else 1 := by
  cases judged : (setting.examine generated).report.isValid <;>
    simp [Trace.rejectedReviews, Candidate.attempt, Attempt.isAccepted, judged]

/-- After a rejected review the instruction made from its errors is due. -/
theorem due_afterReview (invalid : (setting.examine generated).report.isValid = false)
    (counted : retry = trace.rejectedReviews) :
    Due setting base (setting.reviewed trace current generated)
      (setting.afterReview base retry (setting.examine generated).report.errors) := by
  have latest : ∃ before, setting.reviewed trace current generated = setting.record before
      ((setting.examine generated).attempt (countOf .validation trace.attempts)) := ⟨_, rfl⟩
  refine due_feedback latest ?_ (by simp) ?_
  · simp [Candidate.attempt, invalid]
  · simp [Trace.retryAfter, Candidate.attempt, rejectedReviews_reviewed, invalid, counted]

/-- After a failed compilation the instruction made from its message is due. -/
theorem due_afterFault (answered : setting.answerTo draft trace = .error fault)
    (asked : trace.instructions ≠ []) :
    Due setting base (setting.compiled trace draft retry) (setting.afterFault base retry fault) := by
  have latest : ∃ before, setting.compiled trace draft retry =
      setting.record before (compileAttempt retry (.error fault)) := by
    rw [Setting.compiled, answered]
    exact ⟨_, rfl⟩
  refine due_feedback latest rfl (by simpa using asked) ?_
  simp [Trace.retryAfter, compileAttempt, Nat.add_comm]

/-- Where a run stands whose questions were all due; in the review stage the next one is due as well. -/
def OnTrack (setting : Setting ε) (base : String) : Stand ε → Prop
  | .reviewing retry _ current trace =>
    Guided setting base trace ∧ Due setting base trace current ∧ retry = trace.rejectedReviews
  | .compiling _ _ _ trace => Guided setting base trace ∧ trace.instructions ≠ []
  | .ended run => Guided setting base run.trace ∧ run.trace.instructions ≠ []

theorem OnTrack.step (along : OnTrack setting base stand) (step : setting.Step base stand next) :
    OnTrack setting base next := by
  cases step with
  | unanswered failed =>
    obtain ⟨guided, due, -⟩ := along
    exact ⟨guided.asked due _, by simp⟩
  | accepted replied valid =>
    obtain ⟨guided, due, -⟩ := along
    exact ⟨guided.reviewed due _, by simp⟩
  | rejected replied invalid room =>
    obtain ⟨guided, due, counted⟩ := along
    refine ⟨guided.reviewed due _, due_afterReview invalid counted, ?_⟩
    rw [rejectedReviews_reviewed, counted, invalid]
    rfl
  | exhausted replied invalid spent =>
    obtain ⟨guided, due, -⟩ := along
    exact ⟨guided.reviewed due _, by simp⟩
  | compiled answered =>
    obtain ⟨guided, asked⟩ := along
    exact ⟨guided.compiled _ _, by simpa using asked⟩
  | compilationsExhausted answered spent =>
    obtain ⟨guided, asked⟩ := along
    exact ⟨guided.compiled _ _, by simpa using asked⟩
  | regenerationUnanswered answered room called failed =>
    obtain ⟨guided, asked⟩ := along
    subst called
    exact ⟨(guided.compiled _ _).asked (due_afterFault answered asked) _, by simp⟩
  | regenerated answered room called replied valid =>
    obtain ⟨guided, asked⟩ := along
    subst called
    exact ⟨(guided.compiled _ _).reviewed (due_afterFault answered asked) _, by simp⟩
  | regenerationRejected answered room called replied invalid =>
    obtain ⟨guided, asked⟩ := along
    subst called
    exact ⟨(guided.compiled _ _).reviewed (due_afterFault answered asked) _, by simp⟩

theorem OnTrack.steps (along : OnTrack setting base stand)
    (steps : setting.Steps base stand next) : OnTrack setting base next :=
  Setting.Steps.holds steps along OnTrack.step

/-- The first question of a guided trace is the base instruction. -/
theorem Guided.head (guided : Guided setting base trace) (asked : trace.instructions ≠ []) :
    trace.instructions.head? = some base := by
  obtain ⟨first, rest, instructions⟩ := List.exists_cons_of_ne_nil asked
  obtain ⟨before, event, after, events, silent, shown, -⟩ :=
    List.filterMap_eq_cons_iff.1 instructions
  cases event with
  | asked instruction reply =>
    have due := guided ⟨before⟩ instruction reply ⟨after, by simp [events]⟩
    have none : Trace.instructions ⟨before⟩ = [] := List.filterMap_eq_nil_iff.2 silent
    rw [Due, if_pos none] at due
    simp only [Event.instruction?, Option.some.injEq] at shown
    rw [instructions, ← shown, due, List.head?_cons]
  | judged attempt => simp at shown
  | told attempt => simp at shown
  | compiled call answer => simp at shown

/-- A part of a run that was cut short is guided if the whole run is. -/
theorem Guided.of_part {part whole : Trace} (guided : Guided setting base whole)
    (begins : part.events <+: whole.events) : Guided setting base part := by
  intro earlier instruction reply asked
  exact guided earlier instruction reply (asked.trans begins)

end Runs

/-- A run first asks for what the request composes, if it composes anything. Each later question is made
from that and the rejection just before it, however far the run comes before an observer or a strategy
that raises cuts it short. -/
theorem run_guided (setting : Setting ε) :
    setting.run.trace.instructions.head? = setting.request.compose.toOption ∧
      ∀ base, setting.request.compose = .ok base →
        ∀ part : Trace, part.events <+: setting.run.trace.events → Guided setting base part := by
  cases composed : setting.request.compose with
  | error error =>
    rw [setting.run_of_compose_error composed]
    exact ⟨rfl, nofun⟩
  | ok base =>
    have start : OnTrack setting base (.reviewing 0 [] base .empty) :=
      ⟨guided_empty setting base, rfl, rfl⟩
    obtain ⟨guided, asked⟩ := start.steps (setting.run_steps composed)
    refine ⟨guided.head asked, ?_⟩
    rintro _ ⟨⟩ part begins
    exact guided.of_part begins

end ComponentGate.Healing
