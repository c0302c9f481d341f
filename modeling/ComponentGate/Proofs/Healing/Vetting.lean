import ComponentGate.Proofs.Healing.Steps

/-! What reaches the compiler. At each call of it the generator's latest text was repaired, passed its
review and has been prepared; a success hands out the last call with what the review said. -/

namespace ComponentGate.Healing

namespace Trace

/-- What the generator answered to each question. -/
def replies (trace : Trace) : List (Option String) := trace.events.filterMap Event.reply?

def reviews (trace : Trace) : List Attempt := trace.attempts.filter (·.stage == .validation)

/-- A run whose trace is `whole` was at `earlier` when it called the compiler. -/
def CompiledAt (whole earlier : Trace) (call : CompileCall)
    (answer : Except CompileFault Compiled) : Prop :=
  (earlier.add (.compiled call answer)).events <+: whole.events

section Views

variable (trace : Trace) (event : Event) (observed : Bool) (attempt : Attempt)

@[simp] theorem replies_add :
    (trace.add event).replies = trace.replies ++ event.reply?.toList :=
  trace.filterMap_events_add event Event.reply?

@[simp] theorem reviews_add :
    (trace.add event).reviews =
      trace.reviews ++ event.attempt?.toList.filter (·.stage == .validation) := by
  simp [reviews]

@[simp] theorem replies_record : (trace.record observed attempt).replies = trace.replies := by
  cases observed <;> simp [record]

@[simp] theorem reviews_record :
    (trace.record observed attempt).reviews =
      trace.reviews ++ [attempt].filter (·.stage == .validation) := by
  simp [reviews]

theorem length_reviews : trace.reviews.length = countOf .validation trace.attempts := rfl

end Views

theorem compiledAt_add_iff {trace earlier : Trace} {event : Event} {call : CompileCall}
    {answer : Except CompileFault Compiled} :
    (trace.add event).CompiledAt earlier call answer ↔
      (earlier = trace ∧ event = .compiled call answer) ∨ trace.CompiledAt earlier call answer :=
  add_prefix_add_iff

end Trace

/-- The generator's latest answer is `generated`; it is valid once repaired, and `verdict` is the latest
review: that of this answer, with the number of its question. -/
structure Passed (setting : Setting ε) (trace : Trace) (generated : String) (verdict : Attempt) :
    Prop where
  latest : trace.replies.getLast? = some (some generated)
  valid : (review setting.parse (repair setting.parse generated).code
    setting.request.policy Rule.standard).isValid = true
  reviewed : trace.reviews.getLast? = some verdict
  own : verdict = (setting.examine generated).attempt verdict.index
  numbered : trace.replies.length = verdict.index + 1
  accepted : verdict.isAccepted = true

/-- Every call of the compiler is made for an answer that passed. -/
def Vetted (setting : Setting ε) (trace : Trace) : Prop :=
  ∀ earlier call answer, trace.CompiledAt earlier call answer →
    ∃ generated verdict, Passed setting earlier generated verdict ∧
      call.source = setting.prepare (repair setting.parse generated).code ∧
      call.directory = setting.request.projectPath

/-- What a success hands out belongs to the last call of the compiler, made at `earlier`. -/
structure Delivered (setting : Setting ε) (trace : Trace) (success : Success) (earlier : Trace)
    (call : CompileCall) (output : Compiled) : Prop where
  called : trace.CompiledAt earlier call (.ok output)
  last : trace.compilations = earlier.compilations ++ [call]
  source : success.source = call.source
  artifact : success.artifact = output.artifact
  metadata : success.metadata = output.metadata
  warnings : ∃ generated verdict, Passed setting earlier generated verdict ∧
    success.warnings = verdict.warnings

section Runs

variable {setting : Setting ε} {trace : Trace}

theorem vetted_empty (setting : Setting ε) : Vetted setting .empty := by
  intro earlier call answer called
  simp [Trace.CompiledAt, Trace.empty] at called

/-- Only calls of the compiler need to be looked at. -/
theorem Vetted.add (vetted : Vetted setting trace) (other : event.call? = none) :
    Vetted setting (trace.add event) := by
  intro earlier call answer called
  rcases Trace.compiledAt_add_iff.1 called with ⟨-, rfl⟩ | before
  · simp at other
  · exact vetted _ _ _ before

theorem Vetted.record (vetted : Vetted setting trace) (attempt : Attempt) :
    Vetted setting (setting.record trace attempt) := by
  unfold Setting.record Trace.record
  cases setting.config.observed
  · exact vetted.add rfl
  · exact (vetted.add rfl).add rfl

theorem Vetted.reviewed (vetted : Vetted setting trace) (current generated : String) :
    Vetted setting (setting.reviewed trace current generated) :=
  (vetted.add rfl).record _

theorem Vetted.compiled (vetted : Vetted setting trace)
    (passed : Passed setting trace generated verdict) (retry : Nat) :
    Vetted setting (setting.compiled trace (setting.examine generated) retry) := by
  apply Vetted.record
  intro earlier call answer called
  rcases Trace.compiledAt_add_iff.1 called with ⟨rfl, same⟩ | before
  · cases same
    exact ⟨generated, verdict, passed, rfl, rfl⟩
  · exact vetted _ _ _ before

/-- As many reviews as questions, so that the next review has the number of the next question. -/
def InStep (trace : Trace) : Prop := trace.replies.length = trace.reviews.length

theorem InStep.reviewed (inStep : InStep trace) (setting : Setting ε) (current generated : String) :
    InStep (setting.reviewed trace current generated) := by
  unfold InStep at inStep ⊢
  simp [Setting.reviewed, Setting.record, Candidate.attempt, inStep]

theorem InStep.compiled (inStep : InStep trace) (setting : Setting ε) (draft : Candidate)
    (retry : Nat) : InStep (setting.compiled trace draft retry) := by
  unfold InStep at inStep ⊢
  cases answered : setting.answerTo draft trace <;>
    simp [Setting.compiled, Setting.record, answered, compileAttempt, inStep]

/-- An answer that is valid has passed once it is reviewed. -/
theorem passed_reviewed (inStep : InStep trace) (current : String)
    (valid : (setting.examine generated).report.isValid = true) :
    Passed setting (setting.reviewed trace current generated) generated
      ((setting.examine generated).attempt trace.reviews.length) where
  latest := by simp [Setting.reviewed, Setting.record]
  valid := valid
  reviewed := by
    rw [Trace.length_reviews]
    simp [Setting.reviewed, Setting.record, Candidate.attempt]
  own := rfl
  numbered := by
    unfold InStep at inStep
    simp [Setting.reviewed, Setting.record, Candidate.attempt, inStep]
  accepted := by simp [Attempt.isAccepted, Candidate.attempt, valid]

/-- A successful call is the last one, and what it brings is handed out. -/
theorem Passed.delivered (passed : Passed setting trace generated verdict)
    (answered : setting.answerTo (setting.examine generated) trace = .ok output) (retry : Nat)
    (attempts : List Attempt) :
    Delivered setting (setting.compiled trace (setting.examine generated) retry)
      ⟨output.artifact, output.metadata, (setting.callFor (setting.examine generated)).source,
        attempts, (setting.examine generated).report.warnings⟩
      trace (setting.callFor (setting.examine generated)) output where
  called := by
    unfold Setting.compiled Setting.record Trace.record
    rw [answered]
    cases setting.config.observed <;> simp [Trace.compiledAt_add_iff]
  last := setting.compilations_compiled _ _ _
  source := rfl
  artifact := rfl
  metadata := rfl
  warnings := by
    refine ⟨generated, verdict, passed, ?_⟩
    rw [passed.own]
    rfl

/-- Where a run stands whose calls of the compiler were all vetted. -/
def Guarded (setting : Setting ε) : Stand ε → Prop
  | .reviewing _ _ _ trace => Vetted setting trace ∧ InStep trace
  | .compiling _ _ draft trace =>
    Vetted setting trace ∧ InStep trace ∧
      ∃ generated verdict, draft = setting.examine generated ∧ Passed setting trace generated verdict
  | .ended run =>
    Vetted setting run.trace ∧
      ∀ success, run.result = .ok success →
        ∃ earlier call output, Delivered setting run.trace success earlier call output

theorem Guarded.step (guarded : Guarded setting stand) (step : setting.Step instruction stand next) :
    Guarded setting next := by
  cases step with
  | unanswered failed => exact ⟨guarded.1.add rfl, nofun⟩
  | accepted replied valid =>
    obtain ⟨vetted, inStep⟩ := guarded
    exact ⟨vetted.reviewed _ _, inStep.reviewed _ _ _, _, _, rfl, passed_reviewed inStep _ valid⟩
  | rejected replied invalid room =>
    obtain ⟨vetted, inStep⟩ := guarded
    exact ⟨vetted.reviewed _ _, inStep.reviewed _ _ _⟩
  | exhausted replied invalid spent => exact ⟨guarded.1.reviewed _ _, nofun⟩
  | compiled answered =>
    obtain ⟨vetted, inStep, generated, verdict, rfl, passed⟩ := guarded
    refine ⟨vetted.compiled passed _, ?_⟩
    rintro success ⟨⟩
    exact ⟨_, _, _, passed.delivered answered _ _⟩
  | compilationsExhausted answered spent =>
    obtain ⟨vetted, inStep, generated, verdict, rfl, passed⟩ := guarded
    exact ⟨vetted.compiled passed _, nofun⟩
  | regenerationUnanswered answered room called failed =>
    obtain ⟨vetted, inStep, generated, verdict, rfl, passed⟩ := guarded
    subst called
    exact ⟨(vetted.compiled passed _).add rfl, nofun⟩
  | regenerated answered room called replied valid =>
    obtain ⟨vetted, inStep, generated, verdict, rfl, passed⟩ := guarded
    have again := called ▸ inStep.compiled setting (setting.examine generated) _
    have kept := called ▸ vetted.compiled passed _
    exact ⟨kept.reviewed _ _, again.reviewed _ _ _, _, _, rfl, passed_reviewed again _ valid⟩
  | regenerationRejected answered room called replied invalid =>
    obtain ⟨vetted, inStep, generated, verdict, rfl, passed⟩ := guarded
    subst called
    exact ⟨(vetted.compiled passed _).reviewed _ _, nofun⟩

theorem Guarded.steps (guarded : Guarded setting stand)
    (steps : setting.Steps instruction stand next) : Guarded setting next :=
  Setting.Steps.holds steps guarded Guarded.step

end Runs

/-- A part of a run that was cut short is vetted if the whole run is. -/
theorem Vetted.of_part {setting : Setting ε} {part whole : Trace} (vetted : Vetted setting whole)
    (begins : part.events <+: whole.events) : Vetted setting part := by
  intro earlier call answer called
  exact vetted earlier call answer (called.trans begins)

/-- Only what passed its review is compiled, however far a run comes before an observer or a strategy
that raises cuts it short; and a success is about what was compiled last. -/
theorem run_vetted (setting : Setting ε) :
    (∀ part : Trace, part.events <+: setting.run.trace.events → Vetted setting part) ∧
      ∀ success, setting.run.result = .ok success →
        ∃ earlier call output, Delivered setting setting.run.trace success earlier call output := by
  cases composed : setting.request.compose with
  | error error =>
    rw [setting.run_of_compose_error composed]
    exact ⟨fun _ => (vetted_empty setting).of_part, nofun⟩
  | ok instruction =>
    have start : Guarded setting (.reviewing 0 [] instruction .empty) := ⟨vetted_empty setting, rfl⟩
    obtain ⟨vetted, delivered⟩ := start.steps (setting.run_steps composed)
    exact ⟨fun _ => vetted.of_part, delivered⟩

end ComponentGate.Healing
