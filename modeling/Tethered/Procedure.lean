/-!
# Procedures that consult their surroundings

An operation that runs commands or talks to a daemon is described as a
procedure: a tree of questions, each continued by every possible answer, with
records for the journal in between. A procedure does nothing by itself. `run`
carries it out against surroundings given as a state and an answering function,
and keeps what was asked and recorded. Properties that hold for every answering
function hold whatever the outside world does.
-/
namespace Tethered

inductive Level where
  | error
  | warn
  deriving DecidableEq, Repr

/-- A record for whoever operates the program. -/
structure Record where
  level : Level
  text : String
  deriving DecidableEq, Repr

/-- The questions that may be asked, and what answers each of them. -/
structure Interface where
  Question : Type
  Answer : Question → Type

/-- A description of questions and records that ends in a result. -/
inductive Procedure (I : Interface) (α : Type) where
  | done (result : α)
  | record (entry : Record) (rest : Procedure I α)
  | ask (question : I.Question) (resume : I.Answer question → Procedure I α)

namespace Procedure

variable {I : Interface} {α β σ : Type}

def andThen (first : Procedure I α) (next : α → Procedure I β) : Procedure I β :=
  match first with
  | done result => next result
  | record entry rest => record entry (rest.andThen next)
  | ask question resume => ask question fun answer => (resume answer).andThen next

/-- Go on only where the first procedure succeeded; a failure is passed on. -/
def onSuccess {ε : Type} (first : Procedure I (Except ε α))
    (next : α → Procedure I (Except ε β)) : Procedure I (Except ε β) :=
  first.andThen fun
    | .ok value => next value
    | .error failure => done (.error failure)

def map (f : α → β) (procedure : Procedure I α) : Procedure I β :=
  procedure.andThen fun result => done (f result)

/-- Carry out a procedure by means of procedures of another interface, one for
each question, which keep a state of their own. -/
def through {J : Interface}
    (answer : (question : I.Question) → σ → Procedure J (I.Answer question × σ)) (state : σ) :
    Procedure I α → Procedure J (α × σ)
  | done result => done (result, state)
  | record entry rest => record entry (through answer state rest)
  | ask question resume =>
      (answer question state).andThen fun reply => through answer reply.2 (resume reply.1)

/-- Surroundings with a state: how each question is answered, and what state the
answer leaves. -/
def Surroundings (I : Interface) (σ : Type) : Type :=
  (question : I.Question) → σ → I.Answer question × σ

/-- What carrying out a procedure leaves. -/
structure Outcome (I : Interface) (σ α : Type) where
  result : α
  state : σ
  asked : List I.Question
  records : List Record

/-- Carry out a procedure. Questions and records are listed in order. -/
def run (surroundings : Surroundings I σ) (state : σ) : Procedure I α → Outcome I σ α
  | done result => ⟨result, state, [], []⟩
  | record entry rest =>
      let outcome := run surroundings state rest
      { outcome with records := entry :: outcome.records }
  | ask question resume =>
      let reply := surroundings question state
      let outcome := run surroundings reply.2 (resume reply.1)
      { outcome with asked := question :: outcome.asked }

@[simp] theorem run_done (s : Surroundings I σ) (state : σ) (result : α) :
    run s state (done result) = ⟨result, state, [], []⟩ := rfl

/-- Carrying out two procedures in sequence is carrying out the second in the
state that the first leaves. -/
theorem run_andThen (s : Surroundings I σ) (state : σ) (first : Procedure I α)
    (next : α → Procedure I β) :
    run s state (first.andThen next) =
      let before := run s state first
      let after := run s before.state (next before.result)
      { after with
        asked := before.asked ++ after.asked
        records := before.records ++ after.records } := by
  induction first generalizing state with
  | done result => simp [andThen]
  | record entry rest ih => simp [andThen, run, ih]
  | ask question resume ih => simp [andThen, run, ih]

end Procedure

end Tethered
