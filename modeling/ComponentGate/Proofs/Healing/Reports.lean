import Mathlib.Tactic.ByContra
import Mathlib.Tactic.Push
import Mathlib.Tactic.SplitIfs
import ComponentGate.Proofs.Healing.Accounts
import ComponentGate.Proofs.Healing.Guidance
import ComponentGate.Proofs.Healing.Vetting

/-! What is told of a failed compilation. One text is recorded, listed in the failure and given to the
strategy. It holds the diagnostic always, and the message unless the diagnostic is a part of it. -/

namespace ComponentGate

theorem Text.occursIn_iff {part text : List Char} : Text.occursIn part text = true ↔ part <:+: text := by
  induction text with
  | nil => simp [Text.occursIn]
  | cons c text ih => simp [Text.occursIn, List.infix_cons_iff, ih]

namespace Healing

namespace CompileFault

variable {fault : CompileFault} {diagnostic : String}

theorem feedback_of_undiagnosed (undiagnosed : ∀ diagnostic ∈ fault.diagnostic, diagnostic = "") :
    fault.feedback = if fault.message = "" then fault.name else fault.message := by
  have nothing : fault.diagnostic.getD "" = "" := by
    cases given : fault.diagnostic with
    | none => rfl
    | some diagnostic => exact undiagnosed diagnostic given
  simp [feedback, nothing]

theorem feedback_of_diagnosed (given : fault.diagnostic = some diagnostic) (filled : diagnostic ≠ "") :
    fault.feedback =
      if fault.message ≠ "" ∧ Text.occursIn diagnostic.toList fault.message.toList = false then
        fault.message ++ ": " ++ diagnostic
      else diagnostic := by
  simp only [feedback, given, Option.getD_some, String.isEmpty_iff, filled, if_false, Bool.and_eq_true,
    Bool.not_eq_true', ← Bool.not_eq_true]
  rfl

/-- The diagnostic says a part of what the message says, and not all of it. -/
def IsCurtailed (fault : CompileFault) : Prop :=
  ∃ diagnostic ∈ fault.diagnostic, diagnostic ≠ "" ∧ diagnostic ≠ fault.message ∧
    diagnostic.toList <:+: fault.message.toList

theorem diagnostic_infix_feedback (given : diagnostic ∈ fault.diagnostic) :
    diagnostic.toList <:+: fault.feedback.toList := by
  by_cases filled : diagnostic = ""
  · rw [filled]
    exact List.nil_infix
  rw [feedback_of_diagnosed given filled]
  split_ifs
  · rw [String.toList_append]
    exact (List.suffix_append _ _).isInfix
  · exact List.infix_refl _

/-- What contains a part and is contained in it is the part itself. -/
theorem eq_of_infix_of_infix {first second : String} (inside : first.toList <:+: second.toList)
    (around : second.toList <:+: first.toList) : first = second :=
  String.toList_injective (inside.eq_of_length (Nat.le_antisymm inside.length_le around.length_le))

theorem message_infix_feedback_of_diagnosed (given : fault.diagnostic = some diagnostic)
    (filled : diagnostic ≠ "") :
    fault.message.toList <:+: fault.feedback.toList ↔
      ¬(diagnostic ≠ fault.message ∧ diagnostic.toList <:+: fault.message.toList) := by
  rw [feedback_of_diagnosed given filled]
  by_cases inside : diagnostic.toList <:+: fault.message.toList
  · have found := Text.occursIn_iff.2 inside
    rw [if_neg (by simp [found]), and_iff_left inside, not_not]
    constructor
    · exact eq_of_infix_of_infix inside
    · rintro rfl
      exact List.infix_refl _
  · refine iff_of_true ?_ fun parts => inside parts.2
    split_ifs with joined
    · rw [String.toList_append, String.toList_append, List.append_assoc]
      exact (List.prefix_append _ _).isInfix
    · have empty : fault.message = "" := by
        by_contra other
        exact joined ⟨other, Bool.eq_false_iff.2 fun found => inside (Text.occursIn_iff.1 found)⟩
      rw [empty]
      exact List.nil_infix

theorem message_infix_feedback_iff (fault : CompileFault) :
    fault.message.toList <:+: fault.feedback.toList ↔ ¬fault.IsCurtailed := by
  by_cases undiagnosed : ∀ diagnostic ∈ fault.diagnostic, diagnostic = ""
  · refine iff_of_true ?_ ?_
    · rw [feedback_of_undiagnosed undiagnosed]
      split_ifs with empty
      · rw [empty]
        exact List.nil_infix
      · exact List.infix_refl _
    · rintro ⟨diagnostic, given, filled, -⟩
      exact filled (undiagnosed diagnostic given)
  push Not at undiagnosed
  obtain ⟨diagnostic, given, filled⟩ := undiagnosed
  rw [message_infix_feedback_of_diagnosed given filled, not_iff_not]
  constructor
  · exact fun parts => ⟨diagnostic, given, filled, parts⟩
  · rintro ⟨other, also, -, parts⟩
    cases Option.some.inj (given.symm.trans also)
    exact parts

theorem feedback_ne_empty_iff (fault : CompileFault) :
    fault.feedback ≠ "" ↔
      fault.name ≠ "" ∨ fault.message ≠ "" ∨ ∃ diagnostic ∈ fault.diagnostic, diagnostic ≠ "" := by
  by_cases undiagnosed : ∀ diagnostic ∈ fault.diagnostic, diagnostic = ""
  · have none : ¬∃ diagnostic ∈ fault.diagnostic, diagnostic ≠ "" := by
      push Not
      exact undiagnosed
    rw [feedback_of_undiagnosed undiagnosed, or_iff_left none]
    split_ifs with empty <;> simp [empty]
  push Not at undiagnosed
  obtain ⟨diagnostic, given, filled⟩ := undiagnosed
  refine iff_of_true ?_ (.inr (.inr ⟨diagnostic, given, filled⟩))
  rw [feedback_of_diagnosed given filled]
  split_ifs with joined
  · simp [filled]
  · exact filled

end CompileFault

/-- The compiler's failure, where the event is a failed compilation. -/
@[simp] def Event.fault? : Event → Option CompileFault
  | .compiled _ (.error fault) => some fault
  | _ => none

/-- The failed compilations of a trace. -/
def Trace.faults (trace : Trace) : List CompileFault := trace.events.filterMap Event.fault?

theorem Trace.mem_faults_iff {trace : Trace} {fault : CompileFault} :
    fault ∈ trace.faults ↔ ∃ earlier call, trace.CompiledAt earlier call (.error fault) := by
  constructor
  · intro member
    obtain ⟨event, recorded, shown⟩ := List.mem_filterMap.1 member
    obtain ⟨before, after, events⟩ := List.append_of_mem recorded
    rcases event with _ | _ | _ | ⟨call, _ | output⟩ <;> cases shown
    exact ⟨⟨before⟩, call, after, by simp [events]⟩
  · rintro ⟨earlier, call, called⟩
    exact List.mem_filterMap.2 ⟨_, called.subset (List.mem_append_right _ (.head _)), rfl⟩

/-- The trace after a failed compilation was recorded with a text. -/
def Setting.reported (setting : Setting ε) (trace : Trace) (call : CompileCall) (fault : CompileFault)
    (index : Nat) (text : String) : Trace :=
  setting.record (trace.add (.compiled call (.error fault))) ⟨.compile, index, .rejected, [text], [], []⟩

section Runs

variable {setting : Setting ε} {base : String} {trace earlier : Trace} {draft : Candidate}
  {call : CompileCall} {fault : CompileFault} {answer : Except CompileFault Compiled}
  {stand next : Stand ε}

theorem compiled_eq_reported (answered : setting.answerTo draft trace = .error fault) (retry : Nat) :
    setting.compiled trace draft retry =
      setting.reported trace (setting.callFor draft) fault retry fault.feedback := by
  rw [Setting.compiled, answered]
  rfl

theorem compiledAt_record_iff {attempt : Attempt} :
    (setting.record trace attempt).CompiledAt earlier call answer ↔
      trace.CompiledAt earlier call answer := by
  unfold Setting.record Trace.record
  cases setting.config.observed <;> simp [Trace.compiledAt_add_iff]

/-- The last compilation of a trace that has just been reported, or an earlier one. -/
theorem compiledAt_reported_iff {last : CompileCall} {lastFault : CompileFault} {index : Nat}
    {text : String} :
    (setting.reported trace last lastFault index text).CompiledAt earlier call (.error fault) ↔
      (earlier = trace ∧ last = call ∧ lastFault = fault) ∨
        trace.CompiledAt earlier call (.error fault) := by
  rw [Setting.reported, compiledAt_record_iff, Trace.compiledAt_add_iff]
  simp

theorem prefix_record (setting : Setting ε) (trace : Trace) (attempt : Attempt) :
    trace.events <+: (setting.record trace attempt).events := by
  unfold Setting.record Trace.record
  cases setting.config.observed <;> simp

theorem prefix_reported (setting : Setting ε) (trace : Trace) (call : CompileCall)
    (fault : CompileFault) (index : Nat) (text : String) :
    trace.events <+: (setting.reported trace call fault index text).events :=
  (List.prefix_append _ _).trans (prefix_record setting _ _)

/-- Behind a failed compilation the strategy that was given its text made the next question. -/
def AskedAbout (setting : Setting ε) (base : String) (trace earlier : Trace) (call : CompileCall)
    (fault : CompileFault) (text : String) : Prop :=
  ∃ index reply, trace.AskedAt (setting.reported earlier call fault index text)
    (setting.config.feedback ⟨.compile, index + 1, base, [text]⟩) reply

/-- Behind a failed compilation the run failed with its text. -/
def FailedWith (setting : Setting ε) (run : Run ε) (earlier : Trace) (call : CompileCall)
    (fault : CompileFault) (text : String) : Prop :=
  ∃ index failure, run.trace = setting.reported earlier call fault index text ∧
    run.failure? = some failure ∧ failure.lastErrors = [text]

/-- All failed compilations have been asked about. -/
def Relayed (setting : Setting ε) (base : String) (trace : Trace) : Prop :=
  ∀ earlier call fault, trace.CompiledAt earlier call (.error fault) →
    AskedAbout setting base trace earlier call fault fault.feedback

theorem AskedAbout.mono {whole : Trace} {text : String}
    (asked : AskedAbout setting base trace earlier call fault text)
    (begins : trace.events <+: whole.events) :
    AskedAbout setting base whole earlier call fault text := by
  obtain ⟨index, reply, question⟩ := asked
  exact ⟨index, reply, question.trans begins⟩

theorem relayed_empty (setting : Setting ε) (base : String) : Relayed setting base .empty := by
  intro earlier call fault called
  simp [Trace.CompiledAt, Trace.empty] at called

/-- Only failed compilations need to be looked at. -/
theorem Relayed.add {event : Event} (relayed : Relayed setting base trace)
    (other : event.fault? = none) : Relayed setting base (trace.add event) := by
  intro earlier call fault called
  rcases Trace.compiledAt_add_iff.1 called with ⟨-, rfl⟩ | before
  · simp at other
  · exact (relayed _ _ _ before).mono (List.prefix_append _ _)

theorem Relayed.record (relayed : Relayed setting base trace) (attempt : Attempt) :
    Relayed setting base (setting.record trace attempt) := by
  intro earlier call fault called
  exact (relayed _ _ _ (compiledAt_record_iff.1 called)).mono (prefix_record setting trace attempt)

theorem Relayed.reviewed (relayed : Relayed setting base trace) (current generated : String) :
    Relayed setting base (setting.reviewed trace current generated) :=
  (relayed.add rfl).record _

theorem Relayed.compiled_ok {output : Compiled} (relayed : Relayed setting base trace)
    (answered : setting.answerTo draft trace = .ok output) (retry : Nat) :
    Relayed setting base (setting.compiled trace draft retry) := by
  rw [Setting.compiled, answered]
  exact (relayed.add rfl).record _

/-- The question after a failed compilation is about it. -/
theorem Relayed.asked (relayed : Relayed setting base trace)
    (answered : setting.answerTo draft trace = .error fault) (retry : Nat) (reply : Option String) :
    Relayed setting base ((setting.compiled trace draft retry).add
      (.asked (setting.afterFault base retry fault) reply)) := by
  rw [compiled_eq_reported answered]
  intro earlier call other called
  rcases Trace.compiledAt_add_iff.1 called with ⟨-, same⟩ | called
  · cases same
  rcases compiledAt_reported_iff.1 called with ⟨rfl, rfl, rfl⟩ | before
  · exact ⟨retry, reply, List.prefix_rfl⟩
  · exact (relayed _ _ _ before).mono <|
      (prefix_reported setting trace _ _ _ _).trans (List.prefix_append _ _)

/-- Where a run stands whose failed compilations have all been asked about, but for one with which it may
have ended. -/
def Relaying (setting : Setting ε) (base : String) : Stand ε → Prop
  | .reviewing _ _ _ trace => Relayed setting base trace
  | .compiling _ _ _ trace => Relayed setting base trace
  | .ended run => ∀ earlier call fault, run.trace.CompiledAt earlier call (.error fault) →
    AskedAbout setting base run.trace earlier call fault fault.feedback ∨
      FailedWith setting run earlier call fault fault.feedback

theorem Relayed.ended {run : Run ε} (relayed : Relayed setting base run.trace) :
    Relaying setting base (.ended run) := fun _ _ _ called => .inl (relayed _ _ _ called)

theorem Relaying.step (relaying : Relaying setting base stand) (step : setting.Step base stand next) :
    Relaying setting base next := by
  cases step with
  | unanswered failed => exact Relayed.ended (Relayed.add relaying rfl)
  | accepted replied valid => exact Relayed.reviewed relaying _ _
  | rejected replied invalid room => exact Relayed.reviewed relaying _ _
  | exhausted replied invalid spent => exact Relayed.ended (Relayed.reviewed relaying _ _)
  | compiled answered => exact Relayed.ended (Relayed.compiled_ok relaying answered _)
  | compilationsExhausted answered spent =>
    intro earlier call fault called
    rw [Run.trace, compiled_eq_reported answered] at called
    rcases compiledAt_reported_iff.1 called with ⟨rfl, rfl, rfl⟩ | before
    · exact .inr ⟨_, _, compiled_eq_reported answered _, rfl, rfl⟩
    · left
      refine (relaying _ _ _ before).mono ?_
      rw [Run.trace, compiled_eq_reported answered]
      exact prefix_reported ..
  | regenerationUnanswered answered room called failed =>
    subst called
    exact Relayed.ended (Relayed.asked relaying answered _ _)
  | regenerated answered room called replied valid =>
    subst called
    exact (Relayed.asked relaying answered _ _).record _
  | regenerationRejected answered room called replied invalid =>
    subst called
    exact Relayed.ended ((Relayed.asked relaying answered _ _).record _)

theorem mem_attempts_of_reported {whole : Trace} {index : Nat} {text : String}
    (begins : (setting.reported trace call fault index text).events <+: whole.events) :
    ⟨.compile, index, .rejected, [text], [], []⟩ ∈ whole.attempts := by
  have attempts : (setting.reported trace call fault index text).attempts <+: whole.attempts :=
    begins.filterMap _
  refine attempts.subset ?_
  simp [Setting.reported, Setting.record]

theorem mem_recorded {attempts : List Attempt} {index : Nat} {text : String}
    (member : ⟨.compile, index, .rejected, [text], [], []⟩ ∈ attempts) :
    text ∈ recorded .compile attempts := by
  refine List.mem_flatMap.2 ⟨_, List.mem_filter.2 ⟨member, ?_⟩, List.mem_singleton_self text⟩
  simp [Attempt.isAccepted]

end Runs

/-- What becomes of the text that tells of a failed compilation: it is recorded as what was found at the
attempt, the strategy for the next retry is given it or the run fails with it, and a compile stage that used
up its retries lists it. -/
structure Conveyed (setting : Setting ε) (base : String) (earlier : Trace) (call : CompileCall)
    (fault : CompileFault) (text : String) : Prop where
  recorded : ∃ index,
    (setting.reported earlier call fault index text).events <+: setting.run.trace.events
  passed : AskedAbout setting base setting.run.trace earlier call fault text ∨
    FailedWith setting setting.run earlier call fault text
  listed : ∀ failure, setting.run.failure? = some failure → failure.stage = .compile →
    failure.kind ≠ .regenerationRejected → text ∈ failure.errors

theorem conveyed_feedback (setting : Setting ε) {earlier : Trace} {call : CompileCall}
    {fault : CompileFault} (called : setting.run.trace.CompiledAt earlier call (.error fault)) :
    ∃ base, setting.request.compose = .ok base ∧
      Conveyed setting base earlier call fault fault.feedback := by
  cases composed : setting.request.compose with
  | error error =>
    rw [setting.run_of_compose_error composed] at called
    simp [Trace.CompiledAt, Trace.empty] at called
  | ok base =>
    have start : Relaying setting base (.reviewing 0 [] base .empty) := relayed_empty setting base
    have passed := setting.holds_at_end composed start Relaying.step earlier call fault called
    have reported : ∃ index, (setting.reported earlier call fault index fault.feedback).events <+:
        setting.run.trace.events := by
      rcases passed with ⟨index, reply, question⟩ | ⟨index, failure, ended, -⟩
      · exact ⟨index, (List.prefix_append _ _).trans question⟩
      · exact ⟨index, ended ▸ List.prefix_rfl⟩
    refine ⟨base, rfl, reported, passed, ?_⟩
    intro failure failed stage kind
    obtain ⟨index, begins⟩ := reported
    rw [(accounts_run setting failed).exhausted kind, stage]
    exact mem_recorded (mem_attempts_of_reported begins)

/-- The text that tells of a failed compilation holds the diagnostic, and it holds the message exactly when
the diagnostic is not a part of a longer message. It is empty only if the failure has no name, no message
and no diagnostic. -/
theorem fault_told_whole_iff (setting : Setting ε) {earlier : Trace} {call : CompileCall}
    {fault : CompileFault} (called : setting.run.trace.CompiledAt earlier call (.error fault)) :
    ∃ base text, setting.request.compose = .ok base ∧ Conveyed setting base earlier call fault text ∧
      (∀ diagnostic ∈ fault.diagnostic, diagnostic.toList <:+: text.toList) ∧
      (fault.message.toList <:+: text.toList ↔ ¬fault.IsCurtailed) ∧
      (text ≠ "" ↔
        fault.name ≠ "" ∨ fault.message ≠ "" ∨ ∃ diagnostic ∈ fault.diagnostic, diagnostic ≠ "") := by
  obtain ⟨base, composed, conveyed⟩ := conveyed_feedback setting called
  exact ⟨base, _, composed, conveyed, fun _ => fault.diagnostic_infix_feedback,
    fault.message_infix_feedback_iff, fault.feedback_ne_empty_iff⟩

/-- A run whose compiler fails with a fault at first. -/
def failingFirst (fault : CompileFault) : Setting Empty :=
  { hardStart with
    generate := fun _ _ => .ok "export const A = 1;"
    compile := fun number _ => if number = 0 then .error fault else .ok ⟨"built", []⟩ }

/-- Says where the bundle failed in the diagnostic alone. -/
def locatedFault : CompileFault := ⟨"CompileError", "bundle failed", some "Unexpected token at 3:7"⟩

theorem locatedFault_told_whole :
    ∃ earlier call base text,
      (failingFirst locatedFault).run.trace.CompiledAt earlier call (.error locatedFault) ∧
      Conveyed (failingFirst locatedFault) base earlier call locatedFault text ∧
      "Unexpected token at 3:7".toList <:+: text.toList ∧ "bundle failed".toList <:+: text.toList ∧
      text ≠ "" := by
  have failed : (failingFirst locatedFault).run.trace.faults = [locatedFault] := by
    decide +kernel
  obtain ⟨earlier, call, called⟩ := Trace.mem_faults_iff.1 (failed ▸ List.mem_singleton_self _)
  obtain ⟨base, text, -, conveyed, diagnostic, message, filled⟩ :=
    fault_told_whole_iff (failingFirst locatedFault) called
  have whole : ¬locatedFault.IsCurtailed := by
    rintro ⟨_, ⟨⟩, -, -, inside⟩
    exact absurd (Text.occursIn_iff.2 inside) (by decide +kernel)
  exact ⟨earlier, call, base, text, called, conveyed, diagnostic _ rfl, message.2 whole,
    filled.2 (.inl (by decide))⟩

/-- Says where the token stands in the message alone, and repeats the rest of it in the diagnostic. -/
def curtailedFault : CompileFault :=
  ⟨"CompileError", "Unexpected token at 3:7", some "Unexpected token"⟩

/-- What is recorded and passed on is the diagnostic alone. -/
theorem curtailedFault_loses_message :
    ∃ earlier call base,
      (failingFirst curtailedFault).run.trace.CompiledAt earlier call (.error curtailedFault) ∧
      Conveyed (failingFirst curtailedFault) base earlier call curtailedFault "Unexpected token" ∧
      ¬curtailedFault.message.toList <:+: "Unexpected token".toList := by
  have failed : (failingFirst curtailedFault).run.trace.faults = [curtailedFault] := by
    decide +kernel
  have told : curtailedFault.feedback = "Unexpected token" := by
    decide +kernel
  obtain ⟨earlier, call, called⟩ := Trace.mem_faults_iff.1 (failed ▸ List.mem_singleton_self _)
  obtain ⟨base, -, conveyed⟩ := conveyed_feedback (failingFirst curtailedFault) called
  refine ⟨earlier, call, base, called, told ▸ conveyed, ?_⟩
  rw [← Text.occursIn_iff]
  decide +kernel

end Healing

end ComponentGate
