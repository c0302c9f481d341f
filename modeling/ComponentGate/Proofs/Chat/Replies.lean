import Mathlib
import ComponentGate.Proofs.Chat.Repetition

/-! Replies of every shape. A body without a first message is malformed; the content of one is a text,
or parts with a text each, or says nothing, or it is something else, which no check stops. -/

namespace ComponentGate.Chat

variable {body value : Json} {values parts : List Json} {position : Nat}

/-- The content that a body offers: that of the message of its first choice, null where it has none. -/
inductive Offers : Json → Json → Prop where
  | content {entries choice message : List (String × Json)} {others : List Json}
      (choices : Entries.get? entries "choices" = some (.array (.object choice :: others)))
      (first : Entries.get? choice "message" = some (.object message)) :
      Offers (.object entries) ((Entries.get? message "content").getD .null)

/-- Contents that become a text: a text, parts whose texts are texts, and what says nothing. -/
def IsTextual : Json → Prop
  | .string _ => True
  | .array parts => ∀ entries text, .object entries ∈ parts →
      Entries.get? entries "text" = some text → ∃ characters, text = .string characters
  | value => saysNothing value = true

theorem bind_eq_ok_iff {ε α β : Type} {first : Except ε α} {next : α → Except ε β} {value : β} :
    first.bind next = .ok value ↔ ∃ middle, first = .ok middle ∧ next middle = .ok value := by
  cases first <;> simp [Except.bind]

theorem entryUnder_eq_ok_iff {key : String} :
    entryUnder key body = .ok value ↔
      ∃ entries, body = .object entries ∧ Entries.get? entries key = some value := by
  cases body with
  | object entries => cases h : Entries.get? entries key <;> simp [entryUnder, h]
  | _ => simp [entryUnder]

theorem firstOf_eq_object_iff {choice : List (String × Json)} :
    firstOf body = .ok (.object choice) ↔ ∃ others, body = .array (.object choice :: others) := by
  cases body with
  | array items => cases items <;> simp [firstOf]
  | string text => cases letters : text.toList <;> simp [firstOf, letters]
  | _ => simp [firstOf]

theorem contentOf_eq_ok_iff : contentOf body = .ok value ↔
    ∃ entries, body = .object entries ∧ (Entries.get? entries "content").getD .null = value := by
  cases body <;> simp [contentOf]

theorem content_eq_ok_iff : content body = .ok value ↔ Offers body value := by
  have steps : content body = (((entryUnder "choices" body).bind firstOf).bind
      (entryUnder "message")).bind contentOf := by
    cases choices : entryUnder "choices" body with
    | error misshape => simp [content, choices, bind, Except.bind]
    | ok list =>
      cases first : firstOf list with
      | error misshape => simp [content, choices, first, bind, Except.bind]
      | ok choice => simp [content, choices, first, bind, Except.bind]
  simp only [steps, bind_eq_ok_iff, contentOf_eq_ok_iff, entryUnder_eq_ok_iff]
  constructor
  · rintro ⟨_, ⟨_, ⟨_, ⟨entries, rfl, choices⟩, first⟩, choice, rfl, named⟩, message, rfl, rfl⟩
    obtain ⟨others, rfl⟩ := firstOf_eq_object_iff.1 first
    exact .content choices named
  · rintro ⟨choices, first⟩
    exact ⟨_, ⟨_, ⟨_, ⟨_, rfl, choices⟩, firstOf_eq_object_iff.2 ⟨_, rfl⟩⟩, _, rfl, first⟩, _, rfl, rfl⟩

theorem mem_partTexts_iff : value ∈ partTexts parts ↔
    ∃ entries, .object entries ∈ parts ∧
      (Entries.get? entries "text").getD (.string "") = value := by
  rw [partTexts, List.mem_filterMap]
  constructor
  · rintro ⟨part, listed, text⟩
    cases part with
    | object entries => exact ⟨entries, listed, Option.some.inj text⟩
    | _ => simp at text
  · rintro ⟨entries, listed, rfl⟩
    exact ⟨.object entries, listed, rfl⟩

theorem joinTexts_cases (position : Nat) (values : List Json) :
    ((∃ text, joinTexts position values = .ok text) ∧
        ∀ value ∈ values, ∃ characters, value = .string characters) ∨
      (∃ place type, joinTexts position values = .error (.partNotText place type)) ∧
        ¬∀ value ∈ values, ∃ characters, value = .string characters := by
  induction values generalizing position with
  | nil => exact .inl ⟨⟨"", rfl⟩, by simp⟩
  | cons first rest ih =>
    cases first with
    | string characters =>
      rcases ih (position + 1) with ⟨⟨text, joined⟩, textual⟩ | ⟨⟨place, type, failed⟩, other⟩
      · refine .inl ⟨⟨characters ++ text, by rw [joinTexts, joined]; rfl⟩, ?_⟩
        exact List.forall_mem_cons.2 ⟨⟨characters, rfl⟩, textual⟩
      · refine .inr ⟨⟨place, type, by rw [joinTexts, failed]; rfl⟩, fun textual => other ?_⟩
        exact (List.forall_mem_cons.1 textual).2
    | _ => exact .inr ⟨⟨position, _, rfl⟩, by simp⟩

theorem isTextual_array_iff : IsTextual (.array parts) ↔
    ∀ text ∈ partTexts parts, ∃ characters, text = .string characters := by
  simp only [IsTextual, mem_partTexts_iff]
  constructor
  · rintro textual _ ⟨entries, listed, rfl⟩
    cases given : Entries.get? entries "text" with
    | none => exact ⟨"", rfl⟩
    | some text => exact textual entries text listed given
  · intro textual entries text listed given
    exact textual text ⟨entries, listed, by rw [given]; rfl⟩

/-- What a caller is promised of a body: a text, or the error that the body is malformed. -/
def IsPromised (body : Json) (reply : Except ReplyError Json) : Prop :=
  (∃ text, reply = .ok (.string text)) ∨ ∃ misshape, reply = .error (.malformed misshape body)

/-- What the content becomes when it is textual, and when it is not. -/
theorem reply_cases (offers : Offers body value) :
    (IsTextual value ∧ ∃ text, reply body = .ok (.string text)) ∨
      ¬IsTextual value ∧ ((∀ text, value ≠ .string text) ∧ reply body = .ok value ∨
        ∃ place type, reply body = .error (.partNotText place type)) := by
  rw [reply, content_eq_ok_iff.2 offers]
  clear offers
  cases value with
  | array parts =>
    rw [isTextual_array_iff]
    rcases joinTexts_cases 0 (partTexts parts) with ⟨⟨text, joined⟩, textual⟩ | ⟨⟨_, _, failed⟩, other⟩
    · exact .inl ⟨textual, text, by simp only [joined]; rfl⟩
    · exact .inr ⟨other, .inr ⟨_, _, by simp only [failed]; rfl⟩⟩
  | string text =>
    refine .inl ⟨trivial, text, ?_⟩
    by_cases empty : text = "" <;> simp [saysNothing, empty]
  | null | bool | integer | binary | object =>
    simp only [IsTextual]
    split
    · rename_i nothing
      exact .inl ⟨nothing, "", rfl⟩
    · rename_i something
      exact .inr ⟨something, .inl ⟨by simp, rfl⟩⟩

theorem isPromised_reply_iff :
    IsPromised body (reply body) ↔ ∀ value, Offers body value → IsTextual value := by
  cases found : content body with
  | error misshape =>
    have malformed : reply body = .error (.malformed misshape body) := by rw [reply, found]
    refine iff_of_true (.inr ⟨misshape, malformed⟩) fun value offers => ?_
    rw [content_eq_ok_iff.2 offers] at found
    cases found
  | ok value =>
    have offers := content_eq_ok_iff.1 found
    have only : (∀ other, Offers body other → IsTextual other) ↔ IsTextual value := by
      refine ⟨fun all => all value offers, fun textual other offered => ?_⟩
      have same := (content_eq_ok_iff.2 offered).symm.trans found
      exact Except.ok.inj same ▸ textual
    rw [only]
    rcases reply_cases offers with ⟨textual, text, replied⟩ |
      ⟨other, ⟨noText, replied⟩ | ⟨place, type, replied⟩⟩ <;> rw [replied]
    · exact iff_of_true (.inl ⟨text, rfl⟩) textual
    · refine iff_of_false ?_ other
      rintro (⟨text, same⟩ | ⟨misshape, same⟩)
      · exact noText text (Except.ok.inj same)
      · cases same
    · refine iff_of_false ?_ other
      rintro (⟨text, same⟩ | ⟨misshape, same⟩) <;> cases same

theorem measuredReply_promised_iff :
    ((∃ text, measuredReply body = .ok (.string text)) ∨
        ∃ misshape, measuredReply body = .error (.noReply (.malformed misshape body))) ↔
      IsPromised body (reply body) := by
  rw [measuredReply]
  cases reply body with
  | error error => cases error <;> simp [IsPromised]
  | ok value => cases value <;> simp [IsPromised]

theorem Session.meaning_of_body {session : Session} {response : Response}
    (fine : response.status < 400) (read : readBody response.text = some body) :
    session.meaning (.response response) = measuredReply body := by
  rw [meaning, bodyOf, statusError?_eq_none_iff.2 fine]
  simp only [read]
  rfl

/-- A body becomes a text or the error that it is malformed exactly when the content that it offers, if
it offers one, is textual. Other contents are handed out as they are, or fail for a part whose text is
none. An exchange whose last response succeeds with the body keeps the promise in the same cases. -/
theorem replies_promised_iff (body : Json) :
    (IsPromised body (reply body) ↔ ∀ value, Offers body value → IsTextual value) ∧
      (∀ value, Offers body value → ¬IsTextual value →
        reply body = .ok value ∨ ∃ place type, reply body = .error (.partNotText place type)) ∧
      ∀ (session : Session) (jitters : Nat → Binary64) (sent : Nat) (response : Response),
        session.arrivals (sent + ((session.completeWith jitters sent).requests - 1)) =
          .response response →
        response.status < 400 → readBody response.text = some body →
        (((∃ text, (session.completeWith jitters sent).result = .ok (.string text)) ∨
            ∃ misshape, (session.completeWith jitters sent).result =
              .error (.noReply (.malformed misshape body))) ↔
          ∀ value, Offers body value → IsTextual value) := by
  refine ⟨isPromised_reply_iff, fun value offers other => ?_, ?_⟩
  · rcases reply_cases offers with ⟨textual, _⟩ | ⟨_, ⟨_, replied⟩ | failed⟩
    · exact absurd textual other
    · exact .inl replied
    · exact .inr failed
  · intro session jitters sent response last fine read
    rw [result_completeWith, last, Session.meaning_of_body fine read, measuredReply_promised_iff,
      isPromised_reply_iff]

/-- A completion whose only message has a content. -/
def completionOf (content : Json) : Json :=
  .object [("choices", .array [.object [("message", .object [("content", content)])]])]

/-- A content in three parts, one of which is no object and one of which has no text. -/
def partedContent : Json := .array [.object [("text", .string "a")], .object [], .integer 7]

def partedText : String :=
  "\x7b\"choices\":[\x7b\"message\":\x7b\"content\":[\x7b\"text\":\"a\"\x7d,\x7b\x7d,7]\x7d\x7d]\x7d"

/-- A session whose first request fails and whose second one succeeds. -/
def partedSession : Session where
  connection := ⟨.ofProvider .openai, "model", "url", "key"⟩
  attempts := 3
  jitter := .zero false
  arrivals position := .response (if position = 0 then ⟨503, [], "busy"⟩ else ⟨200, [], partedText⟩)

theorem partedContent_promised :
    readBody partedText = some (completionOf partedContent) ∧
      (partedSession.completeWith (fun _ => .zero false) 0).requests = 2 ∧
      ((∃ text, (partedSession.completeWith (fun _ => .zero false) 0).result = .ok (.string text)) ∨
        ∃ misshape, (partedSession.completeWith (fun _ => .zero false) 0).result =
          .error (.noReply (.malformed misshape (completionOf partedContent)))) := by
  have read : readBody partedText = some (completionOf partedContent) := by cbv
  have twice : (partedSession.completeWith (fun _ => .zero false) 0).requests = 2 := by
    decide +kernel
  have last : partedSession.arrivals
      (0 + ((partedSession.completeWith (fun _ => .zero false) 0).requests - 1)) =
        .response ⟨200, [], partedText⟩ := by
    rw [twice]
    rfl
  have promised := (replies_promised_iff (completionOf partedContent)).2.2 partedSession
    (fun _ => .zero false) 0 ⟨200, [], partedText⟩ last (by decide) read
  refine ⟨read, twice, promised.2 ?_⟩
  rintro _ ⟨choices, first⟩
  cases choices
  cases first
  rintro entries text listed given
  simp only [List.mem_cons, Json.object.injEq, List.not_mem_nil, reduceCtorEq, or_false] at listed
  rcases listed with rfl | rfl
  · exact ⟨"a", (Option.some.inj given).symm⟩
  · cases given

/-- A number is handed out as the reply, and a part whose text is null ends in another error. -/
theorem untextual_contents_not_promised :
    ¬IsPromised (completionOf (.integer 5)) (reply (completionOf (.integer 5))) ∧
      ¬IsPromised (completionOf (.array [.object [("text", .null)]]))
        (reply (completionOf (.array [.object [("text", .null)]]))) := by
  constructor
  · rintro (⟨text, same⟩ | ⟨misshape, same⟩) <;> cases same
  · rintro (⟨text, same⟩ | ⟨misshape, same⟩) <;> cases same

end ComponentGate.Chat
