/-!
Programs that ask questions of their surroundings.

A program is the tree of everything it may do: it is done, or it asks a question and goes on with
the answer. The surroundings are not part of it — `run` puts a program into surroundings that are a
state and a way of answering, and `History` lists the questions of one run with their answers.
-/

namespace BlockVolume

/-- A program that asks questions `q : Q`, each answered by an `Answer q`, and ends with an `α`. -/
inductive Program {Q : Type} (Answer : Q → Type) (α : Type) where
  | done (result : α)
  | ask (question : Q) (next : Answer question → Program Answer α)

namespace Program

variable {Q : Type} {Answer : Q → Type} {α β σ : Type}

/-- Goes on with `f` where a program is done. -/
def bind : Program Answer α → (α → Program Answer β) → Program Answer β
  | .done result, f => f result
  | .ask question next, f => .ask question fun answer => (next answer).bind f

instance : Monad (Program Answer) where
  pure := .done
  bind := .bind

/-- The program that asks one question. -/
def query (question : Q) : Program Answer (Answer question) :=
  .ask question .done

/-- Runs a program in surroundings that answer each question and change with it. -/
def run (answer : (q : Q) → σ → Answer q × σ) : Program Answer α → σ → α × σ
  | .done result, s => (result, s)
  | .ask question next, s =>
    let (reply, s) := answer question s
    (next reply).run answer s

/-- A question with the answer it got. -/
structure Exchange (Answer : Q → Type) where
  question : Q
  answer : Answer question

/-- The run of a program along given answers: its exchanges, in order, and its result. -/
inductive History : Program Answer α → List (Exchange Answer) → α → Prop where
  | done (result : α) : History (.done result) [] result
  | ask (question : Q) (next : Answer question → Program Answer α) (reply : Answer question)
      {rest : List (Exchange Answer)} {result : α} :
      History (next reply) rest result →
        History (.ask question next) (⟨question, reply⟩ :: rest) result

@[simp] theorem run_done (answer : (q : Q) → σ → Answer q × σ) (result : α) (s : σ) :
    (Program.done result).run answer s = (result, s) := rfl

/-- Running one program after the other is running the second where the first one ended. -/
theorem run_bind (answer : (q : Q) → σ → Answer q × σ) (p : Program Answer α)
    (f : α → Program Answer β) (s : σ) :
    (p.bind f).run answer s = (f (p.run answer s).1).run answer (p.run answer s).2 := by
  induction p generalizing s with
  | done result => rfl
  | ask question next ih => exact ih _ _

end Program
end BlockVolume
