import ComponentGate.Proofs.Healing.Steps
import ComponentGate.Syntax.Parse

/-! The trail of a run: which judgements come in which order, and how the calls of the generator and
the compiler keep up with them. Indices are numbers of attempts of the same stage. -/

namespace ComponentGate.Healing

/-- The stage of an attempt and how it ended. -/
abbrev Mark := Stage × Outcome

def Attempt.mark (attempt : Attempt) : Mark := (attempt.stage, attempt.outcome)

def Trace.marks (trace : Trace) : List Mark := trace.attempts.map Attempt.mark

/-- How a run ends that neither its request nor its generator stopped. -/
inductive Ending where
  | succeeded
  | exhausted (stage : Stage)
  | regenerationRejected
  deriving DecidableEq, Repr

def Failure.ending (failure : Failure) : Ending :=
  match failure.kind with
  | .exhausted _ => .exhausted failure.stage
  | .regenerationRejected => .regenerationRejected

@[simp] theorem ending_exhausted (stage : Stage) (retries : Int) (last : List String)
    (errors : Option (List String)) (attempts : List Attempt) :
    (Failure.exhausted stage retries last errors attempts).ending = .exhausted stage := rfl

@[simp] theorem ending_regenerationRejected (stage : Stage) (last : List String)
    (attempts : List Attempt) :
    (Failure.regenerationRejected stage last attempts).ending = .regenerationRejected := rfl

/-- A run's ending, with the trail that its result hands out. -/
def Run.ending? (run : Run ε) : Option (Ending × List Attempt) :=
  match run.result with
  | .ok success => some (.succeeded, success.attempts)
  | .error (.failed failure _) => some (failure.ending, failure.attempts)
  | .error _ => none

/-- Reviews that reject one candidate after the other. -/
def rejections (count : Nat) : List Mark := List.replicate count (.validation, .rejected)

/-- Failed compilations, each followed by a new candidate that the review accepts. -/
def regenerations (count : Nat) : List Mark :=
  (List.replicate count [(.compile, .rejected), (.validation, .accepted)]).flatten

/-- The trail up to a call of the compiler. -/
def opening (reviews compilations : Nat) : List Mark :=
  rejections reviews ++ (.validation, .accepted) :: regenerations compilations

/-- The trails of runs that may repeat `reviews` reviews and `compilations` compilations. -/
inductive Course (reviews compilations : Nat) : Ending → List Mark → Prop where
  | succeeded (rejected : k ≤ reviews) (failed : m ≤ compilations) :
      Course reviews compilations .succeeded (opening k m ++ [(.compile, .accepted)])
  | reviewsExhausted :
      Course reviews compilations (.exhausted .validation) (rejections (reviews + 1))
  | compilationsExhausted (rejected : k ≤ reviews) :
      Course reviews compilations (.exhausted .compile)
        (opening k compilations ++ [(.compile, .rejected)])
  | regenerationRejected (rejected : k ≤ reviews) (failed : m < compilations) :
      Course reviews compilations .regenerationRejected
        (opening k m ++ [(.compile, .rejected), (.validation, .rejected)])

/-- The indices of each stage count up from zero. -/
def Numbered (attempts : List Attempt) : Prop :=
  ∀ stage, (attempts.filter (·.stage == stage)).map Attempt.index = List.range (countOf stage attempts)

theorem countOf_append (stage : Stage) (first second : List Attempt) :
    countOf stage (first ++ second) = countOf stage first + countOf stage second := by
  simp [countOf]

theorem countOf_eq_countP (stage : Stage) (attempts : List Attempt) :
    countOf stage attempts = (attempts.map Attempt.mark).countP (·.1 == stage) := by
  rw [countOf, List.countP_map, List.countP_eq_length_filter]
  rfl

theorem numbered_nil : Numbered [] := fun _ => rfl

theorem Numbered.append (numbered : Numbered attempts)
    (next : attempt.index = countOf attempt.stage attempts) : Numbered (attempts ++ [attempt]) := by
  intro stage
  by_cases same : attempt.stage = stage
  · subst stage
    have one : countOf attempt.stage [attempt] = 1 := by simp [countOf]
    rw [List.filter_append, List.map_append, numbered, countOf_append, one, List.range_succ]
    simp [next]
  · have none : countOf stage [attempt] = 0 := by simp [countOf, same]
    rw [List.filter_append, List.map_append, numbered, countOf_append, none]
    simp [same]

section Counts

variable (stage : Stage) (outcome : Outcome) (count : Nat)

@[simp] theorem countP_rejections (counts : Mark → Bool) :
    (rejections count).countP counts =
      if counts (.validation, .rejected) then count else 0 := by
  simp [rejections, List.countP_replicate]

@[simp] theorem countP_regenerations (counts : Mark → Bool) :
    (regenerations count).countP counts =
      count * [(Stage.compile, Outcome.rejected), (.validation, .accepted)].countP counts := by
  simp [regenerations, List.countP_flatten]

theorem regenerations_succ :
    regenerations (count + 1) =
      regenerations count ++ [(.compile, .rejected), (.validation, .accepted)] := by
  simp [regenerations, List.replicate_succ']

theorem opening_succ (reviews : Nat) :
    opening reviews (count + 1) =
      opening reviews count ++ [(.compile, .rejected), (.validation, .accepted)] := by
  simp [opening, regenerations_succ]

theorem countP_opening (counts : Mark → Bool) (reviews : Nat) :
    (opening reviews count).countP counts =
      (rejections reviews).countP counts + (regenerations count).countP counts +
        (if counts (.validation, .accepted) then 1 else 0) := by
  simp only [opening, List.countP_append, List.countP_cons]
  omega

end Counts

section Kept

variable {setting : Setting ε} {trace : Trace}

/-- What is kept along a run whose generator answers every time. -/
structure Kept (setting : Setting ε) (trace : Trace) : Prop where
  numbered : Numbered trace.attempts
  asked : trace.instructions.length = countOf .validation trace.attempts
  called : trace.compilations.length = countOf .compile trace.attempts
  heard : setting.Heard trace

theorem Kept.empty (setting : Setting ε) : Kept setting .empty where
  numbered := numbered_nil
  asked := rfl
  called := rfl
  heard := by simp [Setting.Heard, Trace.news, Trace.attempts, Trace.empty]

theorem Kept.reviewed (kept : Kept setting trace) (current generated : String) :
    Kept setting (setting.reviewed trace current generated) where
  numbered := by
    rw [Setting.attempts_reviewed]
    exact kept.numbered.append rfl
  asked := by simp [kept.asked, countOf, Candidate.attempt]
  called := by simp [kept.called, countOf, Candidate.attempt]
  heard := kept.heard.reviewed _ _

theorem stage_compileAttempt (retry : Nat) (answer : Except CompileFault Compiled) :
    (compileAttempt retry answer).stage = .compile := by
  cases answer <;> rfl

theorem index_compileAttempt (retry : Nat) (answer : Except CompileFault Compiled) :
    (compileAttempt retry answer).index = retry := by
  cases answer <;> rfl

theorem Kept.compiled (kept : Kept setting trace) (draft : Candidate)
    (next : retry = countOf .compile trace.attempts) :
    Kept setting (setting.compiled trace draft retry) where
  numbered := by
    rw [Setting.attempts_compiled]
    apply kept.numbered.append
    rw [stage_compileAttempt, index_compileAttempt, next]
  asked := by simp [kept.asked, countOf, stage_compileAttempt]
  called := by simp [kept.called, countOf, stage_compileAttempt]
  heard := kept.heard.compiled _ _

theorem marks_reviewed (setting : Setting ε) (trace : Trace) (current generated : String) :
    (setting.reviewed trace current generated).marks = trace.marks ++
      [(.validation,
        if (setting.examine generated).report.isValid then .accepted else .rejected)] := by
  simp [Trace.marks, Attempt.mark, Candidate.attempt]

theorem marks_compiled_ok (answered : setting.answerTo draft trace = .ok output) (retry : Nat) :
    (Setting.compiled setting trace draft retry).marks =
      trace.marks ++ [(.compile, .accepted)] := by
  simp [Trace.marks, Attempt.mark, answered, compileAttempt]

theorem marks_compiled_error (answered : setting.answerTo draft trace = .error fault)
    (retry : Nat) :
    (Setting.compiled setting trace draft retry).marks =
      trace.marks ++ [(.compile, .rejected)] := by
  simp [Trace.marks, Attempt.mark, answered, compileAttempt]

/-- On the way through the compile stage the number of the retry is that of failed compilations. -/
theorem countOf_compile_of_marks {trace : Trace} (opened : trace.marks = opening k retry) :
    retry = countOf .compile trace.attempts := by
  rw [countOf_eq_countP, ← Trace.marks, opened, countP_opening]
  simp

/-- Where the trail of a run stands that has followed a course so far. -/
def OnCourse (setting : Setting ε) : Stand ε → Prop
  | .reviewing retry _ _ trace =>
    retry ≤ setting.config.validationCap ∧ trace.marks = rejections retry ∧ Kept setting trace
  | .compiling retry _ _ trace =>
    retry ≤ setting.config.compileCap ∧
      (∃ k ≤ setting.config.validationCap, trace.marks = opening k retry) ∧ Kept setting trace
  | .ended run =>
    (∃ ending, run.ending? = some (ending, run.trace.attempts) ∧
      Course setting.config.validationCap setting.config.compileCap ending run.trace.marks) ∧
        Kept setting run.trace

/-- The generator of a setting answers every call with a text. -/
def Answers (setting : Setting ε) : Prop :=
  ∀ number instruction, ∃ text, setting.generate number instruction = .ok text

theorem Answers.not_error (answers : Answers setting)
    (failed : setting.generate number instruction = .error error) : False := by
  obtain ⟨text, replied⟩ := answers number instruction
  rw [failed] at replied
  cases replied

theorem OnCourse.step (answers : Answers setting)
    (along : OnCourse setting stand) (step : setting.Step instruction stand next) :
    OnCourse setting next := by
  cases step with
  | unanswered failed => exact (answers.not_error failed).elim
  | accepted replied valid =>
    obtain ⟨bound, marks, kept⟩ := along
    refine ⟨Nat.zero_le _, ⟨_, bound, ?_⟩, kept.reviewed _ _⟩
    simp [marks_reviewed, marks, valid, opening, regenerations]
  | rejected replied invalid room =>
    obtain ⟨bound, marks, kept⟩ := along
    refine ⟨room, ?_, kept.reviewed _ _⟩
    simp [marks_reviewed, marks, invalid, rejections, List.replicate_succ']
  | exhausted replied invalid spent =>
    obtain ⟨bound, marks, kept⟩ := along
    refine ⟨⟨_, rfl, ?_⟩, kept.reviewed _ _⟩
    have trail : Course setting.config.validationCap setting.config.compileCap
        (.exhausted .validation) (rejections (setting.config.validationCap + 1)) :=
      .reviewsExhausted
    simpa [marks_reviewed, marks, invalid, spent, rejections, List.replicate_succ'] using trail
  | compiled answered =>
    obtain ⟨bound, ⟨k, within, marks⟩, kept⟩ := along
    refine ⟨⟨_, rfl, ?_⟩, kept.compiled _ (countOf_compile_of_marks marks)⟩
    rw [marks_compiled_ok answered, marks]
    exact .succeeded within bound
  | compilationsExhausted answered spent =>
    obtain ⟨bound, ⟨k, within, marks⟩, kept⟩ := along
    refine ⟨⟨_, rfl, ?_⟩, kept.compiled _ (countOf_compile_of_marks marks)⟩
    rw [marks_compiled_error answered, marks, spent]
    exact .compilationsExhausted within
  | regenerationUnanswered answered room called failed => exact (answers.not_error failed).elim
  | regenerated answered room called replied valid =>
    obtain ⟨bound, ⟨k, within, marks⟩, kept⟩ := along
    subst called
    refine ⟨room, ⟨k, within, ?_⟩,
      (kept.compiled _ (countOf_compile_of_marks marks)).reviewed _ _⟩
    simp [marks_reviewed, marks_compiled_error answered, marks, valid, opening_succ]
  | regenerationRejected answered room called replied invalid =>
    obtain ⟨bound, ⟨k, within, marks⟩, kept⟩ := along
    subst called
    refine ⟨⟨_, rfl, ?_⟩, (kept.compiled _ (countOf_compile_of_marks marks)).reviewed _ _⟩
    have trail := Course.regenerationRejected within room
    simpa [marks_reviewed, marks_compiled_error answered, marks, invalid] using trail

theorem OnCourse.steps (answers : Answers setting) (along : OnCourse setting stand)
    (steps : setting.Steps instruction stand next) : OnCourse setting next :=
  Setting.Steps.holds steps along fun along => along.step answers

end Kept

/-- A finished course has one review more than rejected attempts if it succeeded, and as many
otherwise. -/
theorem Course.reviews_eq (course : Course reviews compilations ending marks) :
    marks.countP (·.1 == .validation) =
      marks.countP (·.2 == .rejected) + if ending = .succeeded then 1 else 0 := by
  cases course <;> simp [countP_opening]

theorem Course.reviews_le (course : Course reviews compilations ending marks) :
    marks.countP (·.1 == .validation) ≤ 1 + reviews + compilations := by
  cases course <;> simp [countP_opening] <;> omega

theorem Course.compilations_le (course : Course reviews compilations ending marks) :
    marks.countP (·.1 == .compile) ≤ 1 + compilations := by
  cases course <;> simp [countP_opening] <;> omega

/-- What the trail of a run is like that ended in a certain way. -/
structure Followed (setting : Setting ε) (run : Run ε) (ending : Ending) : Prop where
  /-- The result hands out the whole trail. -/
  ended : run.ending? = some (ending, run.trace.attempts)
  course :
    Course setting.config.validationCap setting.config.compileCap ending run.trace.marks
  numbered : Numbered run.trace.attempts
  asked : run.trace.instructions.length = countOf .validation run.trace.attempts
  reviews_eq : countOf .validation run.trace.attempts =
    run.trace.attempts.countP (!·.isAccepted) + if ending = .succeeded then 1 else 0
  asked_le : run.trace.instructions.length ≤
    1 + setting.config.validationCap + setting.config.compileCap
  called : run.trace.compilations.length = countOf .compile run.trace.attempts
  called_le : run.trace.compilations.length ≤ 1 + setting.config.compileCap
  heard : setting.config.observed = true → run.trace.news = run.trace.attempts

theorem countP_not_isAccepted (attempts : List Attempt) :
    attempts.countP (!·.isAccepted) = (attempts.map Attempt.mark).countP (·.2 == .rejected) := by
  rw [List.countP_map]
  congr 1
  funext attempt
  cases outcome : attempt.outcome <;> simp [Attempt.isAccepted, Attempt.mark, outcome]

theorem compose_eq_ok {request : Request} (filled : Prompt.sanitized request.instruction ≠ "") :
    ∃ instruction, request.compose = .ok instruction := by
  have kept : ¬(Prompt.sanitized request.instruction).isEmpty = true := by simpa using filled
  exact ⟨_, if_neg kept⟩

/-- A run with something to ask for and a generator that answers follows one of the courses. -/
theorem run_followed (setting : Setting ε)
    (filled : Prompt.sanitized setting.request.instruction ≠ "") (answers : Answers setting) :
    ∃ ending, Followed setting setting.run ending := by
  obtain ⟨instruction, composed⟩ := compose_eq_ok filled
  have start : OnCourse setting (.reviewing 0 [] instruction .empty) :=
    ⟨Nat.zero_le _, rfl, Kept.empty setting⟩
  obtain ⟨⟨ending, ended, course⟩, kept⟩ := start.steps answers (setting.run_steps composed)
  have reviews : countOf .validation setting.run.trace.attempts =
      setting.run.trace.marks.countP (·.1 == .validation) := countOf_eq_countP _ _
  have compilations : countOf .compile setting.run.trace.attempts =
      setting.run.trace.marks.countP (·.1 == .compile) := countOf_eq_countP _ _
  refine ⟨ending, ?_⟩
  constructor
  case ended => exact ended
  case course => exact course
  case numbered => exact kept.numbered
  case asked => exact kept.asked
  case reviews_eq =>
    rw [reviews, countP_not_isAccepted]
    exact course.reviews_eq
  case asked_le =>
    rw [kept.asked, reviews]
    exact course.reviews_le
  case called => exact kept.called
  case called_le =>
    rw [kept.called, compilations]
    exact course.compilations_le
  case heard =>
    intro observed
    rw [kept.heard, observed, if_pos rfl]

/-- A generator that first writes something forbidden, and a compiler that fails at first. -/
def hardStart : Setting Empty where
  parse := Syntax.parse
  config := ⟨true, 1, 2, standardStrategies, true, false, true, by decide⟩
  request := ⟨"A table", .standard, .standard, [], none⟩
  today := ⟨2025, 1, 2, by decide, by decide, by decide⟩
  generate number _ := .ok (if number = 0 then "eval('1')" else "export const A = 1;")
  compile number call :=
    if number = 0 then .error ⟨"CompileError", "no", none⟩ else .ok ⟨call.source, []⟩

theorem hardStart_followed :
    Prompt.sanitized hardStart.request.instruction ≠ "" ∧ Answers hardStart ∧
      hardStart.run.trace.marks = opening 1 1 ++ [(.compile, .accepted)] ∧
      ∃ ending, Followed hardStart hardStart.run ending := by
  have filled : Prompt.sanitized hardStart.request.instruction ≠ "" := by decide +kernel
  have answers : Answers hardStart := fun _ _ => ⟨_, rfl⟩
  exact ⟨filled, answers, by decide +kernel, run_followed hardStart filled answers⟩

end ComponentGate.Healing
