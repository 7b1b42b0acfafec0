import HandleChallenge.Dialogue

/-!
# Dialogues one reply at a time

A dialogue whose answers come one by one, with other things happening in between, is followed
reply by reply. `Follows` says where a dialogue stands after some replies and `Ends` with which
result it ends. `ends_bind_iff` cuts the replies to two dialogues in sequence in two, and
`run_eq_of_ends` says that replies that agree with a function lead to the result under that
function.
-/

namespace HandleChallenge.Dialogue

variable {Question : Type} {Answer : Question → Type} {α β : Type}

/-- A question with its answer. -/
abbrev Reply (Answer : Question → Type) : Type := (question : Question) × Answer question

/-- After the replies, the first dialogue goes on as the second. -/
inductive Follows : Dialogue Answer α → List (Reply Answer) → Dialogue Answer α → Prop where
  | refl (dialogue : Dialogue Answer α) : Follows dialogue [] dialogue
  | reply {question : Question} {next : Answer question → Dialogue Answer α}
      {answer : Answer question} {replies : List (Reply Answer)} {rest : Dialogue Answer α} :
      Follows (next answer) replies rest →
      Follows (.ask question next) (⟨question, answer⟩ :: replies) rest

/-- After the replies, the dialogue has its result. -/
def Ends (dialogue : Dialogue Answer α) (replies : List (Reply Answer)) (result : α) : Prop :=
  dialogue.Follows replies (.done result)

/-- The next question and its answer are one more reply. -/
theorem Follows.snoc {dialogue : Dialogue Answer α} {replies : List (Reply Answer)}
    {question : Question} {next : Answer question → Dialogue Answer α}
    (h : dialogue.Follows replies (.ask question next)) (answer : Answer question) :
    dialogue.Follows (replies ++ [⟨question, answer⟩]) (next answer) := by
  generalize hrest : Dialogue.ask question next = rest at h
  induction h with
  | refl dialogue =>
    subst hrest
    exact .reply (.refl _)
  | reply _ ih => exact .reply (ih hrest)

theorem follows_done_iff {value : α} {replies : List (Reply Answer)} {rest : Dialogue Answer α} :
    (Dialogue.done value : Dialogue Answer α).Follows replies rest ↔
      replies = [] ∧ rest = .done value := by
  constructor
  · intro h
    cases h
    exact ⟨rfl, rfl⟩
  · rintro ⟨rfl, rfl⟩
    exact .refl _

theorem ends_done_iff {value result : α} {replies : List (Reply Answer)} :
    (Dialogue.done value : Dialogue Answer α).Ends replies result ↔
      replies = [] ∧ value = result := by
  rw [Ends, follows_done_iff, Dialogue.done.injEq, eq_comm (a := result)]

theorem ends_ask_iff {question : Question} {next : Answer question → Dialogue Answer α}
    {replies : List (Reply Answer)} {result : α} :
    (Dialogue.ask question next).Ends replies result ↔
      ∃ answer rest, replies = ⟨question, answer⟩ :: rest ∧ (next answer).Ends rest result := by
  constructor
  · intro h
    cases h with
    | reply h => exact ⟨_, _, rfl, h⟩
  · rintro ⟨answer, rest, rfl, h⟩
    exact .reply h

/-- The replies to one dialogue after the other are those to the first, then those to the
second. -/
theorem ends_bind_iff {dialogue : Dialogue Answer α} {next : α → Dialogue Answer β}
    {replies : List (Reply Answer)} {result : β} :
    (dialogue >>= next).Ends replies result ↔
      ∃ first second middle, replies = first ++ second ∧ dialogue.Ends first middle ∧
        (next middle).Ends second result := by
  induction dialogue generalizing replies with
  | done value =>
    rw [done_bind]
    constructor
    · intro h
      exact ⟨[], replies, value, rfl, .refl _, h⟩
    · rintro ⟨first, second, middle, rfl, hfirst, hsecond⟩
      obtain ⟨rfl, rfl⟩ := ends_done_iff.1 hfirst
      exact hsecond
  | ask question rest ih =>
    rw [ask_bind, ends_ask_iff]
    constructor
    · rintro ⟨answer, replies, rfl, h⟩
      obtain ⟨first, second, middle, rfl, hfirst, hsecond⟩ := (ih answer).1 h
      exact ⟨⟨question, answer⟩ :: first, second, middle, rfl, .reply hfirst, hsecond⟩
    · rintro ⟨first, second, middle, rfl, hfirst, hsecond⟩
      obtain ⟨answer, others, rfl, hothers⟩ := ends_ask_iff.1 hfirst
      refine ⟨answer, others ++ second, rfl, ?_⟩
      exact (ih answer).2 ⟨others, second, middle, rfl, hothers, hsecond⟩

/-- Replies that agree with a function lead to the result under it. -/
theorem run_eq_of_ends {answer : (question : Question) → Answer question}
    {dialogue : Dialogue Answer α} {replies : List (Reply Answer)} {result : α}
    (h : dialogue.Ends replies result) (agree : ∀ reply ∈ replies, reply.2 = answer reply.1) :
    dialogue.run answer = result := by
  induction dialogue generalizing replies with
  | done value => exact (ends_done_iff.1 h).2
  | ask question next ih =>
    obtain ⟨given, rest, rfl, hrest⟩ := ends_ask_iff.1 h
    have hgiven : given = answer question := agree ⟨question, given⟩ List.mem_cons_self
    subst hgiven
    exact ih _ hrest fun reply hreply => agree reply (List.mem_cons_of_mem _ hreply)

/-- Replies that are the same lead to the same result. -/
theorem Ends.unique {dialogue : Dialogue Answer α} {replies : List (Reply Answer)}
    {result other : α} (h : dialogue.Ends replies result) (hother : dialogue.Ends replies other) :
    result = other := by
  induction dialogue generalizing replies with
  | done value => exact (ends_done_iff.1 h).2.symm.trans (ends_done_iff.1 hother).2
  | ask question next ih =>
    obtain ⟨answer, rest, rfl, hrest⟩ := ends_ask_iff.1 h
    obtain ⟨_, _, hsame, hothers⟩ := ends_ask_iff.1 hother
    cases hsame
    exact ih answer hrest hothers

/-- The replies of a function lead to the result under it. -/
theorem exists_ends_run (answer : (question : Question) → Answer question)
    (dialogue : Dialogue Answer α) : ∃ replies, dialogue.Ends replies (dialogue.run answer) := by
  induction dialogue with
  | done value => exact ⟨[], .refl _⟩
  | ask question next ih =>
    obtain ⟨replies, hends⟩ := ih (answer question)
    exact ⟨_, .reply hends⟩

end HandleChallenge.Dialogue
