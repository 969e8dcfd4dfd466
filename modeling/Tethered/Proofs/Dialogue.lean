import Tethered.Procedure

/-!
# The courses that procedures and systems can take

A procedure yields a result in a dialogue: the questions that it puts, in order,
each with some answer. Answers are arbitrary, so what holds of every dialogue
holds against all surroundings. A trace is the same for a system that goes from
state to state. Nothing here says which dialogues surroundings prefer.
-/
namespace Tethered

/-- A question with the answer that it got. -/
structure Exchange (I : Interface) where
  question : I.Question
  answer : I.Answer question

namespace Procedure

variable {I : Interface} {α β ε σ : Type}

/-- The dialogues in which a procedure ends, the records it leaves in each of
them, and its result. -/
inductive Yields : Procedure I α → List (Exchange I) → List Record → α → Prop
  | done (result : α) : Yields (done result) [] [] result
  | record {entry : Record} {rest : Procedure I α} {dialogue : List (Exchange I)}
      {records : List Record} {result : α} :
      Yields rest dialogue records result →
      Yields (record entry rest) dialogue (entry :: records) result
  | ask {question : I.Question} {resume : I.Answer question → Procedure I α}
      {dialogue : List (Exchange I)} {records : List Record} {result : α}
      (answer : I.Answer question) :
      Yields (resume answer) dialogue records result →
      Yields (ask question resume) (⟨question, answer⟩ :: dialogue) records result

variable {dialogue : List (Exchange I)} {records : List Record}

theorem yields_done_iff {value result : α} :
    (done value : Procedure I α).Yields dialogue records result ↔
      dialogue = [] ∧ records = [] ∧ result = value := by
  constructor
  · intro h
    cases h
    exact ⟨rfl, rfl, rfl⟩
  · rintro ⟨rfl, rfl, rfl⟩
    exact .done result

theorem yields_record_iff {entry : Record} {rest : Procedure I α} {result : α} :
    (record entry rest).Yields dialogue records result ↔
      ∃ later, records = entry :: later ∧ rest.Yields dialogue later result := by
  constructor
  · intro h
    cases h with
    | record h => exact ⟨_, rfl, h⟩
  · rintro ⟨later, rfl, h⟩
    exact .record h

theorem yields_ask_iff {question : I.Question} {resume : I.Answer question → Procedure I α}
    {result : α} :
    (ask question resume).Yields dialogue records result ↔
      ∃ answer later, dialogue = ⟨question, answer⟩ :: later ∧
        (resume answer).Yields later records result := by
  constructor
  · intro h
    cases h with
    | ask answer h => exact ⟨answer, _, rfl, h⟩
  · rintro ⟨answer, later, rfl, h⟩
    exact .ask answer h

theorem Yields.andThen {first : Procedure I α} {next : α → Procedure I β}
    {before after : List (Exchange I)} {early late : List Record} {middle : α} {result : β}
    (hfirst : first.Yields before early middle) (hnext : (next middle).Yields after late result) :
    (first.andThen next).Yields (before ++ after) (early ++ late) result := by
  induction hfirst with
  | done value => exact hnext
  | record _ ih => exact .record (ih hnext)
  | ask answer _ ih => exact .ask answer (ih hnext)

/-- A sequence of two procedures has the dialogues of the first, each continued
by a dialogue of the second. -/
theorem yields_andThen_iff {first : Procedure I α} {next : α → Procedure I β} {result : β} :
    (first.andThen next).Yields dialogue records result ↔
      ∃ before after early late middle, dialogue = before ++ after ∧ records = early ++ late ∧
        first.Yields before early middle ∧ (next middle).Yields after late result := by
  constructor
  · intro h
    induction first generalizing dialogue records with
    | done value => exact ⟨[], dialogue, [], records, value, rfl, rfl, .done value, h⟩
    | record entry rest ih =>
      obtain ⟨later, rfl, hrest⟩ := yields_record_iff.mp h
      obtain ⟨before, after, early, late, middle, rfl, rfl, hfirst, hnext⟩ := ih hrest
      exact ⟨before, after, entry :: early, late, middle, rfl, rfl, .record hfirst, hnext⟩
    | ask question resume ih =>
      obtain ⟨answer, later, rfl, hresume⟩ := yields_ask_iff.mp h
      obtain ⟨before, after, early, late, middle, rfl, rfl, hfirst, hnext⟩ := ih answer hresume
      exact ⟨⟨question, answer⟩ :: before, after, early, late, middle, rfl, rfl,
        .ask answer hfirst, hnext⟩
  · rintro ⟨before, after, early, late, middle, rfl, rfl, hfirst, hnext⟩
    exact hfirst.andThen hnext

theorem yields_map_iff {first : Procedure I α} {f : α → β} {result : β} :
    (first.map f).Yields dialogue records result ↔
      ∃ middle, first.Yields dialogue records middle ∧ result = f middle := by
  rw [Procedure.map, yields_andThen_iff]
  constructor
  · rintro ⟨before, after, early, late, middle, rfl, rfl, hfirst, hnext⟩
    obtain ⟨rfl, rfl, rfl⟩ := yields_done_iff.mp hnext
    exact ⟨middle, by simpa using hfirst, rfl⟩
  · rintro ⟨middle, hfirst, rfl⟩
    exact ⟨dialogue, [], records, [], middle, by simp, by simp, hfirst, .done _⟩

/-- A failure of the first procedure ends the sequence; the second one is not
begun and puts no question. -/
theorem yields_onSuccess_iff {first : Procedure I (Except ε α)}
    {next : α → Procedure I (Except ε β)} {result : Except ε β} :
    (first.onSuccess next).Yields dialogue records result ↔
      (∃ failure, first.Yields dialogue records (.error failure) ∧ result = .error failure) ∨
      (∃ before after early late value, dialogue = before ++ after ∧ records = early ++ late ∧
        first.Yields before early (.ok value) ∧ (next value).Yields after late result) := by
  rw [Procedure.onSuccess, yields_andThen_iff]
  constructor
  · rintro ⟨before, after, early, late, middle, rfl, rfl, hfirst, hnext⟩
    cases middle with
    | error failure =>
      obtain ⟨rfl, rfl, rfl⟩ := yields_done_iff.mp hnext
      exact .inl ⟨failure, by simpa using hfirst, rfl⟩
    | ok value => exact .inr ⟨before, after, early, late, value, rfl, rfl, hfirst, hnext⟩
  · rintro (⟨failure, hfirst, rfl⟩ | ⟨before, after, early, late, value, rfl, rfl, hfirst, hnext⟩)
    · exact ⟨dialogue, [], records, [], .error failure, by simp, by simp, hfirst, .done _⟩
    · exact ⟨before, after, early, late, .ok value, rfl, rfl, hfirst, hnext⟩

/-- To go on with a mere result is to change the result of what succeeded. -/
theorem onSuccess_done (first : Procedure I (Except ε α)) (f : α → β) :
    first.onSuccess (fun value => done (.ok (f value))) = first.map (Except.map f) := by
  refine congrArg first.andThen (funext fun result => ?_)
  cases result with
  | error failure => rfl
  | ok value => rfl

/-- Leave records and end. -/
def leaving (records : List Record) (result : α) : Procedure I α :=
  records.foldr record (done result)

theorem yields_leaving_iff {left : List Record} {value result : α} :
    (leaving left value : Procedure I α).Yields dialogue records result ↔
      dialogue = [] ∧ records = left ∧ result = value := by
  induction left generalizing records with
  | nil => exact yields_done_iff
  | cons entry left ih =>
    change (record entry (leaving left value)).Yields dialogue records result ↔ _
    rw [yields_record_iff]
    constructor
    · rintro ⟨later, rfl, h⟩
      obtain ⟨rfl, rfl, rfl⟩ := ih.mp h
      exact ⟨rfl, rfl, rfl⟩
    · rintro ⟨rfl, rfl, rfl⟩
      exact ⟨left, rfl, ih.mpr ⟨rfl, rfl, rfl⟩⟩

theorem run_leaving (s : Surroundings I σ) (state : σ) (left : List Record) (result : α) :
    run s state (leaving left result) = ⟨result, state, [], left⟩ := by
  induction left with
  | nil => rfl
  | cons entry left ih =>
    change run s state (record entry (leaving left result)) = _
    rw [run, ih]

theorem run_map (s : Surroundings I σ) (state : σ) (first : Procedure I α) (f : α → β) :
    run s state (first.map f) =
      { run s state first with result := f (run s state first).result } := by
  rw [Procedure.map, run_andThen]
  simp

/-- The dialogue of a procedure with given surroundings. -/
def dialogueWith (surroundings : Surroundings I σ) (state : σ) :
    Procedure I α → List (Exchange I)
  | done _ => []
  | record _ rest => dialogueWith surroundings state rest
  | ask question resume =>
      let reply := surroundings question state
      ⟨question, reply.1⟩ :: dialogueWith surroundings reply.2 (resume reply.1)

/-- Carrying out a procedure always ends, in one of its dialogues. -/
theorem yields_dialogueWith (s : Surroundings I σ) (state : σ) (procedure : Procedure I α) :
    procedure.Yields (dialogueWith s state procedure) (run s state procedure).records
      (run s state procedure).result := by
  induction procedure generalizing state with
  | done result => exact .done result
  | record entry rest ih => exact .record (ih state)
  | ask question resume ih => exact .ask _ (ih _ _)

end Procedure

/-- The events that lead a system from one state to another. -/
inductive Trace {State Event : Type} (step : State → Event → State → Prop) :
    State → List Event → State → Prop
  | nil (state : State) : Trace step state [] state
  | cons {first next last : State} {event : Event} {events : List Event} :
      step first event next → Trace step next events last →
      Trace step first (event :: events) last

/-- What the first of some events gives comes before what the others give. -/
theorem filterMap_cons_eq_append {Event α : Type} (given : Event → Option α) (event : Event)
    (events : List Event) :
    (event :: events).filterMap given = (given event).toList ++ events.filterMap given := by
  rw [List.filterMap_cons]
  cases given event with
  | none => rfl
  | some value => rfl

namespace Trace

variable {State Event : Type} {step : State → Event → State → Prop}
variable {first middle last : State} {earlier later : List Event}

theorem append (before : Trace step first earlier middle) (after : Trace step middle later last) :
    Trace step first (earlier ++ later) last := by
  induction before with
  | nil => exact after
  | cons hstep _ ih => exact .cons hstep (ih after)

theorem split (h : Trace step first (earlier ++ later) last) :
    ∃ middle, Trace step first earlier middle ∧ Trace step middle later last := by
  induction earlier generalizing first with
  | nil => exact ⟨first, .nil first, h⟩
  | cons event events ih =>
    cases h with
    | cons hstep hrest =>
      obtain ⟨middle, hbefore, hafter⟩ := ih hrest
      exact ⟨middle, .cons hstep hbefore, hafter⟩

theorem split_last {event : Event} (h : Trace step first (earlier ++ [event]) last) :
    ∃ middle, Trace step first earlier middle ∧ step middle event last := by
  obtain ⟨middle, hbefore, hevent⟩ := h.split
  cases hevent with
  | cons hstep hnil =>
    cases hnil
    exact ⟨middle, hbefore, hstep⟩

/-- What holds at first and is kept by every further event holds after any events. -/
theorem induction_last {motive : List Event → State → Prop} {events : List Event}
    (hfirst : motive [] first)
    (hnext : ∀ {events middle event last}, Trace step first events middle → motive events middle →
      step middle event last → motive (events ++ [event]) last)
    (h : Trace step first events last) : motive events last := by
  have hfrom {before events : List Event} {middle last : State}
      (hbefore : Trace step first before middle) (hmiddle : motive before middle)
      (hrest : Trace step middle events last) : motive (before ++ events) last := by
    induction hrest generalizing before with
    | nil => simpa using hmiddle
    | cons hstep _ ih =>
      simpa using ih (hbefore.append (.cons hstep (.nil _))) (hnext hbefore hmiddle hstep)
  exact hfrom (.nil first) hfirst h

/-- Where a step is decided by a part of its event, so is a trace. -/
theorem unique {Part : Type} {part : Event → Part}
    (hstep : ∀ {first next other : State} {event alike : Event}, step first event next →
      step first alike other → part event = part alike → event = alike ∧ next = other)
    {events others : List Event} {other : State} (h : Trace step first events last)
    (hother : Trace step first others other) (hparts : events.map part = others.map part) :
    events = others ∧ last = other := by
  induction h generalizing others with
  | nil =>
    obtain rfl := List.map_eq_nil_iff.mp hparts.symm
    cases hother
    exact ⟨rfl, rfl⟩
  | cons hevent _ ih =>
    cases hother with
    | nil => exact absurd hparts (List.cons_ne_nil _ _)
    | cons halike hrest =>
      obtain ⟨hpart, hlater⟩ := List.cons.inj hparts
      obtain ⟨rfl, rfl⟩ := hstep hevent halike hpart
      obtain ⟨rfl, rfl⟩ := ih hrest hlater
      exact ⟨rfl, rfl⟩

end Trace

end Tethered
