/-!
# Dialogues

A dialogue is a computation that asks questions on the way to its result. What is asked next may
depend on the answers so far; who answers, and what happens elsewhere between a question and its
answer, is left open. `run` answers by a function, `transcript` lists what is then asked, and
`interpret` answers with effects.
-/

namespace HandleChallenge

/-- A computation that asks questions on the way to its result. -/
inductive Dialogue {Question : Type} (Answer : Question → Type) (α : Type) where
  /-- The result. -/
  | done (result : α)
  /-- A question, and how to go on with its answer. -/
  | ask (question : Question) (next : Answer question → Dialogue Answer α)

namespace Dialogue

variable {Question : Type} {Answer : Question → Type} {α β : Type}

/-- The dialogue that asks one question. -/
def question (question : Question) : Dialogue Answer (Answer question) := .ask question .done

/-- One dialogue after the other. -/
def bind : Dialogue Answer α → (α → Dialogue Answer β) → Dialogue Answer β
  | .done result, next => next result
  | .ask question rest, next => .ask question fun answer => (rest answer).bind next

instance : Monad (Dialogue Answer) where
  pure := .done
  bind := bind

/-- The result under the given answers. -/
def run (answer : (question : Question) → Answer question) : Dialogue Answer α → α
  | .done result => result
  | .ask question next => (next (answer question)).run answer

/-- The questions asked under the given answers, in order. -/
def transcript (answer : (question : Question) → Answer question) :
    Dialogue Answer α → List Question
  | .done _ => []
  | .ask question next => question :: (next (answer question)).transcript answer

/-- The result with answers that have effects. -/
def interpret {m : Type → Type} [Monad m] (answer : (question : Question) → m (Answer question)) :
    Dialogue Answer α → m α
  | .done result => pure result
  | .ask question next => do
    let reply ← answer question
    (next reply).interpret answer

/-- Whether nothing is asked. -/
def isDone : Dialogue Answer α → Bool
  | .done _ => true
  | .ask .. => false

@[simp] theorem pure_eq_done (result : α) : (pure result : Dialogue Answer α) = .done result := rfl

@[simp] theorem done_bind (result : α) (next : α → Dialogue Answer β) :
    Dialogue.done result >>= next = next result := rfl

@[simp] theorem ask_bind (question : Question) (rest : Answer question → Dialogue Answer α)
    (next : α → Dialogue Answer β) :
    Dialogue.ask question rest >>= next = .ask question fun answer => rest answer >>= next := rfl

@[simp] theorem question_bind (asked : Question) (next : Answer asked → Dialogue Answer β) :
    question asked >>= next = .ask asked next := rfl

section Answered

variable (answer : (question : Question) → Answer question)

@[simp] theorem run_done (result : α) : (Dialogue.done result).run answer = result := rfl

@[simp] theorem run_ask (question : Question) (next : Answer question → Dialogue Answer α) :
    (Dialogue.ask question next).run answer = (next (answer question)).run answer := rfl

@[simp] theorem run_bind (dialogue : Dialogue Answer α) (next : α → Dialogue Answer β) :
    (dialogue >>= next).run answer = (next (dialogue.run answer)).run answer := by
  induction dialogue with
  | done result => rfl
  | ask question rest ih => simp [ih]

@[simp] theorem transcript_done (result : α) : (Dialogue.done result).transcript answer = [] := rfl

@[simp] theorem transcript_ask (question : Question)
    (next : Answer question → Dialogue Answer α) :
    (Dialogue.ask question next).transcript answer =
      question :: (next (answer question)).transcript answer := rfl

@[simp] theorem transcript_bind (dialogue : Dialogue Answer α) (next : α → Dialogue Answer β) :
    (dialogue >>= next).transcript answer =
      dialogue.transcript answer ++ (next (dialogue.run answer)).transcript answer := by
  induction dialogue with
  | done result => rfl
  | ask question rest ih => simp [ih]

end Answered

end Dialogue

end HandleChallenge
