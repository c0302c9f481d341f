import Mathlib.Data.ENat.Lattice
import ComponentGate.Chat.Completion

/-! Exchanges against the rules of repetition: a request goes out, and as long as its failure may pass
and requests are left, one wait and the same request follow. The number of requests and the result are
told from the arrivals alone. -/

namespace ComponentGate.Chat

variable {α : Type}

/-- An outcome after which another request may fare better. -/
def Passing (outcome : Except ChatError α) : Prop :=
  ∃ error, outcome = .error error ∧ error.isTransient = true

variable {outcome : Nat → Except ChatError α} {jitters : Nat → Binary64} {number retries : Nat}

theorem statusError?_eq_none_iff {provider : String} {response : Response} :
    statusError? provider response = none ↔ response.status < 400 := by
  simp only [statusError?]
  split_ifs with fine <;> simp [fine]

theorem stays_of_lasting {error : ChatError} (lasting : ¬Passing (outcome number))
    (failure : outcome number = .error error) : error.isTransient = false := by
  rw [← Bool.not_eq_true]
  exact fun passes => lasting ⟨error, failure, passes⟩

theorem exchangeFrom_of_lasting (lasting : ¬Passing (outcome number)) :
    exchangeFrom outcome jitters number retries = ⟨1, [], outcome number⟩ := by
  cases retries with
  | zero => rfl
  | succ retries =>
    rw [exchangeFrom]
    cases reply : outcome number with
    | ok value => rfl
    | error error => simp [stays_of_lasting lasting reply]

theorem exchangeFrom_of_passing {error : ChatError} (failure : outcome number = .error error)
    (passes : error.isTransient = true) :
    exchangeFrom outcome jitters number (retries + 1) =
      ⟨(exchangeFrom outcome jitters (number + 1) retries).requests + 1,
        waitAfter error number (jitters number) ::
          (exchangeFrom outcome jitters (number + 1) retries).waits,
        (exchangeFrom outcome jitters (number + 1) retries).result⟩ := by
  rw [exchangeFrom, failure]
  simp only [passes, if_true]

/-- How an exchange that begins with the request of a number follows the outcomes of its requests. -/
structure Follows (outcome : Nat → Except ChatError α) (jitters : Nat → Binary64)
    (number retries : Nat) (done : Exchange α) : Prop where
  within : done.requests ≤ retries + 1
  /-- Between two requests there is one wait. -/
  length_waits : done.waits.length + 1 = done.requests
  passing : ∀ position, position + 1 < done.requests → Passing (outcome (number + position))
  /-- The exchange ends when no retry is left, or with an outcome that stays. -/
  closed : done.requests = retries + 1 ∨ ¬Passing (outcome (number + (done.requests - 1)))
  result_eq : done.result = outcome (number + (done.requests - 1))
  waits_eq : ∀ position (isWait : position < done.waits.length), ∃ error,
    outcome (number + position) = .error error ∧
      done.waits[position] = waitAfter error (number + position) (jitters (number + position))

theorem Follows.lasting (ends : retries = 0 ∨ ¬Passing (outcome number)) :
    Follows outcome jitters number retries ⟨1, [], outcome number⟩ where
  within := Nat.le_add_left ..
  length_waits := rfl
  passing _ earlier := absurd earlier (by simp)
  closed := ends.imp (by rintro rfl; rfl) id
  result_eq := rfl
  waits_eq _ isWait := absurd isWait (by simp)

/-- The last request has the same number after one more in front. -/
theorem Follows.last {later : Exchange α}
    (follows : Follows outcome jitters (number + 1) retries later) :
    number + 1 + (later.requests - 1) = number + (later.requests + 1 - 1) := by
  have sent := follows.length_waits
  omega

/-- An exchange that follows its outcomes still does with a passing failure and a wait in front. -/
theorem Follows.again {error : ChatError} {later : Exchange α}
    (follows : Follows outcome jitters (number + 1) retries later)
    (failure : outcome number = .error error) (passes : error.isTransient = true) :
    Follows outcome jitters number (retries + 1)
      ⟨later.requests + 1, waitAfter error number (jitters number) :: later.waits, later.result⟩ where
  within := Nat.succ_le_succ follows.within
  length_waits := congrArg (· + 1) follows.length_waits
  passing position earlier := by
    cases position with
    | zero => exact ⟨error, failure, passes⟩
    | succ position =>
      rw [← Nat.add_assoc, Nat.add_right_comm]
      exact follows.passing position (Nat.lt_of_succ_lt_succ earlier)
  closed := by
    rw [← follows.last]
    exact follows.closed.imp (congrArg (· + 1)) id
  result_eq := by
    rw [← follows.last]
    exact follows.result_eq
  waits_eq position isWait := by
    cases position with
    | zero => exact ⟨error, failure, rfl⟩
    | succ position =>
      rw [← Nat.add_assoc, Nat.add_right_comm]
      exact follows.waits_eq position (Nat.lt_of_succ_lt_succ isWait)

theorem follows_exchangeFrom :
    Follows outcome jitters number retries (exchangeFrom outcome jitters number retries) := by
  induction retries generalizing number with
  | zero => exact .lasting (.inl rfl)
  | succ retries ih =>
    by_cases passing : Passing (outcome number)
    · obtain ⟨error, failure, passes⟩ := passing
      rw [exchangeFrom_of_passing failure passes]
      exact ih.again failure passes
    · rw [exchangeFrom_of_lasting passing]
      exact .lasting (.inr passing)

section Conversation

variable {attempts : Int} {body : Json} {deeds : List Deed} {result : Except ChatError α}

end Conversation

/-- What an arrival means to the one who asked. -/
def Session.meaning (session : Session) (arrival : Arrival) : Except ChatError Json :=
  (bodyOf session.connection.profile.name arrival).bind measuredReply

variable (session : Session) (sent : Nat)

theorem follows_exchange (jitters : Nat → Binary64) :
    Follows (session.outcome sent) jitters 1 (session.attempts - 1).toNat
      (exchange (session.outcome sent) jitters session.attempts) :=
  follows_exchangeFrom

theorem outcome_eq (position : Nat) : session.outcome sent (1 + position) =
    bodyOf session.connection.profile.name (session.arrivals (sent + position)) := by
  rw [Session.outcome, ← Nat.add_assoc, Nat.add_right_comm, Nat.add_sub_cancel]

theorem result_completeWith (jitters : Nat → Binary64) : (session.completeWith jitters sent).result =
    session.meaning
      (session.arrivals (sent + ((session.completeWith jitters sent).requests - 1))) := by
  rw [Session.meaning, ← outcome_eq]
  exact congrArg (·.bind measuredReply) (follows_exchange session sent jitters).result_eq

end ComponentGate.Chat
