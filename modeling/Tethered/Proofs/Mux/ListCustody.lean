import Tethered.Proofs.Mux.RosterRun

/-!
# Who has the lists that a client hands out

A list that a client hands out stays with the roster until it is given back, which
happens right before another is asked for, or at the end. The calls on the client
alone decide where a list is: they are followed one by one, so what is said holds
between any two of them and not only between the calls on the roster.
-/
namespace Tethered.Mux.Roster

variable {Stream : Type}

/-- A call on the client that has nothing to do with lists. -/
def IsAside (exchange : Exchange (clientInterface Stream)) : Prop :=
  match exchange with
  | ⟨ClientCall.listDevices, _⟩ => False
  | ⟨ClientCall.release _, _⟩ => False
  | _ => True

/-- Where the last list is that was handed out. -/
inductive Custody where
  | free
  | holding (devices : List Device)
  /-- A list has just been given back, and nothing has been called since. -/
  | returned
  deriving DecidableEq

namespace Custody

def ofHeld : Option (List Device) → Custody
  | none => free
  | some devices => holding devices

def outstanding : Custody → Option (List Device)
  | holding devices => some devices
  | _ => none

/-- One call on the client. A list is asked for only while none is held, and behind a
list that was given back nothing but a list is asked for. -/
inductive Step : Custody → Exchange (clientInterface Stream) → Custody → Prop
  | fetch {custody : Custody} (answer : Except Failure (List Device))
      (h : custody.outstanding = none) :
      Step custody ⟨.listDevices, answer⟩ (ofHeld answer.toOption)
  | release (devices : List Device) : Step (holding devices) ⟨.release devices, ()⟩ returned
  | aside {custody : Custody} {exchange : Exchange (clientInterface Stream)}
      (hexchange : IsAside exchange) (hcustody : custody ≠ returned) :
      Step custody exchange custody

theorem outstanding_ofHeld (held : Option (List Device)) : (ofHeld held).outstanding = held := by
  cases held <;> rfl

theorem ofHeld_ne_returned (held : Option (List Device)) : ofHeld held ≠ returned := by
  cases held <;> simp [ofHeld]

variable {first next last : Custody} {exchange : Exchange (clientInterface Stream)}
variable {devices : List Device} {calls : List (Exchange (clientInterface Stream))}

theorem outside_of_isAside (h : IsAside exchange) :
    handedOut? exchange = none ∧ givenBack? exchange = none := by
  obtain ⟨question, answer⟩ := exchange
  cases question with
  | listDevices => exact h.elim
  | release => exact h.elim
  | _ => exact ⟨rfl, rfl⟩

theorem Step.account (h : Step first exchange next) :
    first.outstanding.toList ++ (handedOut? exchange).toList =
      (givenBack? exchange).toList ++ next.outstanding.toList := by
  cases h with
  | fetch answer hfirst =>
    rw [hfirst, outstanding_ofHeld]
    rfl
  | release devices => rfl
  | aside hexchange =>
    obtain ⟨hout, hback⟩ := outside_of_isAside hexchange
    simp [hout, hback]

/-- Lists are given back in the order in which they were handed out, and at most the
last of them is still out. -/
theorem account (h : Trace Step first calls last) :
    first.outstanding.toList ++ handedOut calls = givenBack calls ++ last.outstanding.toList := by
  induction h with
  | nil => simp [handedOut, givenBack]
  | @cons first next last exchange calls hstep _ ih =>
    have hhere := hstep.account
    unfold handedOut givenBack at ih ⊢
    rw [filterMap_cons_eq_append, filterMap_cons_eq_append, ← List.append_assoc, hhere,
      List.append_assoc, List.append_assoc, ih]

/-- A list that is held is given back right before the next request for a list, or
is held to the end. -/
theorem fate (h : Trace Step (holding devices) calls last) (hlast : last ≠ returned) :
    (∃ aside answer rest,
      calls = aside ++ ⟨.release devices, ()⟩ :: ⟨.listDevices, answer⟩ :: rest ∧
      ∀ exchange ∈ aside, IsAside exchange) ∨
    (last = holding devices ∧ ∀ exchange ∈ calls, IsAside exchange) := by
  induction calls with
  | nil =>
    cases h
    exact .inr ⟨rfl, by simp⟩
  | cons exchange calls ih =>
    cases h with
    | cons hstep hrest =>
      cases hstep with
      | fetch answer hnone => nomatch hnone
      | release =>
        cases hrest with
        | nil => exact absurd rfl hlast
        | cons hnext hrest =>
          cases hnext with
          | fetch answer => exact .inl ⟨[], answer, _, rfl, by simp⟩
          | aside _ hcustody => exact absurd rfl hcustody
      | aside hexchange =>
        rcases ih hrest with ⟨aside, answer, rest, rfl, haside⟩ | ⟨hheld, haside⟩
        · exact .inl ⟨exchange :: aside, answer, rest, rfl,
            List.forall_mem_cons.mpr ⟨hexchange, haside⟩⟩
        · exact .inr ⟨hheld, List.forall_mem_cons.mpr ⟨hexchange, haside⟩⟩

/-- What is held was handed out last, or held from the first. -/
theorem origin (h : Trace Step first calls (holding devices)) :
    (first = holding devices ∧ ∀ exchange ∈ calls, IsAside exchange) ∨
      ∃ before aside, calls = before ++ ⟨.listDevices, .ok devices⟩ :: aside ∧
        ∀ exchange ∈ aside, IsAside exchange := by
  induction calls generalizing first with
  | nil =>
    cases h
    exact .inl ⟨rfl, by simp⟩
  | cons exchange calls ih =>
    cases h with
    | cons hstep hrest =>
      rcases ih hrest with ⟨rfl, haside⟩ | ⟨before, aside, rfl, haside⟩
      · generalize hnext : holding devices = next at hstep
        cases hstep with
        | fetch answer =>
          cases answer with
          | error failure => nomatch hnext
          | ok given =>
            cases hnext
            exact .inr ⟨[], calls, rfl, haside⟩
        | release => nomatch hnext
        | aside hexchange =>
          exact .inl ⟨rfl, List.forall_mem_cons.mpr ⟨hexchange, haside⟩⟩
      · exact .inr ⟨exchange :: before, aside, rfl, haside⟩

end Custody

variable {roster after : Roster} {event : Event Stream} {available : Bool}
variable {history : List (Event Stream)}

theorem Performed.custody (h : Performed roster event after) :
    Trace Custody.Step (.ofHeld roster.held) event.dialogue (.ofHeld after.held) := by
  have haside {exchange : Exchange (clientInterface Stream)} (hexchange : IsAside exchange) :
      Trace Custody.Step (.ofHeld roster.held) [exchange] (.ofHeld roster.held) :=
    .cons (.aside hexchange (Custody.ofHeld_ne_returned _)) (.nil _)
  cases h with
  | listed havailable answer =>
    unfold givingBack
    cases roster.held with
    | none => exact .cons (.fetch answer rfl) (.nil _)
    | some devices => exact .cons (.release devices) (.cons (.fetch answer rfl) (.nil _))
  | dialled | disconnected | levelSet => exact haside trivial
  | _ => exact .nil _

theorem trace_custody {first last : Roster} (h : Trace Step first history last) :
    Trace Custody.Step (.ofHeld first.held) (calls history) (.ofHeld last.held) := by
  induction h with
  | nil => exact .nil _
  | cons hstep _ ih => exact hstep.performed.custody.append ih

theorem Run.custody (h : Run available history roster) :
    Trace Custody.Step .free (calls history) (.ofHeld roster.held) := by
  have htrace := trace_custody h
  rw [held_made] at htrace
  exact htrace

theorem Run.account (h : Run available history roster) :
    handedOut (calls history) = givenBack (calls history) ++ roster.held.toList := by
  have haccount := Custody.account h.custody
  rwa [Custody.outstanding_ofHeld] at haccount

/-- The calls of a run and those of its closing leave no list out. -/
theorem Run.custody_closed (h : Run available history roster) :
    ∃ last, last.outstanding = none ∧
      Trace Custody.Step .free (calls history ++ roster.givingBack) last := by
  have hrun := h.custody
  unfold givingBack
  cases hheld : roster.held with
  | none =>
    rw [hheld] at hrun
    exact ⟨.free, rfl, hrun.append (.nil _)⟩
  | some devices =>
    rw [hheld] at hrun
    exact ⟨.returned, rfl, hrun.append (.cons (.release devices) (.nil _))⟩

theorem Run.account_closed (h : Run available history roster) :
    handedOut (calls history ++ roster.givingBack) =
      givenBack (calls history ++ roster.givingBack) := by
  obtain ⟨last, hlast, htrace⟩ := h.custody_closed
  have haccount := Custody.account htrace
  rw [hlast] at haccount
  simpa [Custody.outstanding] using haccount

theorem Run.fate (h : Run available history roster)
    {early late : List (Exchange (clientInterface Stream))} {devices : List Device}
    (hcalls : calls history = early ++ ⟨.listDevices, .ok devices⟩ :: late) :
    (∃ aside answer rest,
      late = aside ++ ⟨.release devices, ()⟩ :: ⟨.listDevices, answer⟩ :: rest ∧
      ∀ exchange ∈ aside, IsAside exchange) ∨
    (roster.held = some devices ∧ ∀ exchange ∈ late, IsAside exchange) := by
  have htrace := h.custody
  rw [hcalls] at htrace
  obtain ⟨middle, -, hlate⟩ := htrace.split
  cases hlate with
  | cons hstep hrest =>
    cases hstep with
    | aside hexchange => exact hexchange.elim
    | fetch =>
      rcases Custody.fate hrest (Custody.ofHeld_ne_returned _) with hgiven | ⟨hheld, haside⟩
      · exact .inl hgiven
      · have houtstanding := congrArg Custody.outstanding hheld
        rw [Custody.outstanding_ofHeld] at houtstanding
        exact .inr ⟨houtstanding, haside⟩

theorem Run.origin (h : Run available history roster)
    {early late : List (Exchange (clientInterface Stream))} {devices : List Device}
    (hcalls : calls history = early ++ ⟨.release devices, ()⟩ :: late) :
    (∃ before aside, early = before ++ ⟨.listDevices, .ok devices⟩ :: aside ∧
      ∀ exchange ∈ aside, IsAside exchange) ∧
    ∃ answer rest, late = ⟨.listDevices, answer⟩ :: rest := by
  have htrace := h.custody
  rw [hcalls] at htrace
  obtain ⟨middle, hearly, hlate⟩ := htrace.split
  cases hlate with
  | cons hstep hrest =>
    cases hstep with
    | aside hexchange => exact hexchange.elim
    | release =>
      constructor
      · rcases Custody.origin hearly with ⟨hfree, -⟩ | horigin
        · nomatch hfree
        · exact horigin
      · -- a run does not end behind a list that was given back
        generalize hlast : Custody.ofHeld roster.held = last at hrest
        cases hrest with
        | nil => exact absurd hlast (Custody.ofHeld_ne_returned _)
        | cons hnext _ =>
          cases hnext with
          | fetch answer => exact ⟨answer, _, rfl⟩
          | aside _ hcustody => exact absurd rfl hcustody

theorem Run.held_of_failed (h : Run available history roster) {earlier : List (Event Stream)}
    {dialogue : List (Exchange (clientInterface Stream))} {records : List Record}
    {result : Except Failure Nat} {failure : Failure}
    (hhistory : history = earlier ++ [⟨.reload, dialogue, records, result⟩])
    (hlast : dialogue.getLast? = some ⟨.listDevices, .error failure⟩) : roster.held = none := by
  subst hhistory
  obtain ⟨middle, -, hstep⟩ := Trace.split_last h
  generalize hevent : (⟨.reload, dialogue, records, result⟩ : Event Stream) = event at hstep
  cases hstep.performed with
  | listed havailable answer =>
    cases hevent
    rw [List.getLast?_concat] at hlast
    cases hlast
    rfl
  | unlisted =>
    cases hevent
    nomatch hlast
  | _ => nomatch hevent

/-- At most one list is out at any moment, and between the calls on a roster it is the
one that the roster holds. Each is given back once and unchanged, right before the
next request for a list or when the roster is closed, and nothing else is given back.
A roster without a client calls none. -/
theorem custody_of_run (h : Run available history roster) :
    handedOut (calls history) = givenBack (calls history) ++ roster.held.toList ∧
    (∀ early late, calls history ++ roster.givingBack = early ++ late →
      ∃ outstanding : Option (List Device),
        handedOut early = givenBack early ++ outstanding.toList) ∧
    (∀ early late devices, calls history = early ++ ⟨.listDevices, .ok devices⟩ :: late →
      (∃ aside answer rest,
        late = aside ++ ⟨.release devices, ()⟩ :: ⟨.listDevices, answer⟩ :: rest ∧
        ∀ exchange ∈ aside, IsAside exchange) ∨
      (roster.held = some devices ∧ ∀ exchange ∈ late, IsAside exchange)) ∧
    (∀ early late devices, calls history = early ++ ⟨.release devices, ()⟩ :: late →
      (∃ before aside, early = before ++ ⟨.listDevices, .ok devices⟩ :: aside ∧
        ∀ exchange ∈ aside, IsAside exchange) ∧
      ∃ answer rest, late = ⟨.listDevices, answer⟩ :: rest) ∧
    (∀ earlier dialogue records result failure,
      history = earlier ++ [⟨.reload, dialogue, records, result⟩] →
      dialogue.getLast? = some ⟨.listDevices, .error failure⟩ → roster.held = none) ∧
    (∀ dialogue records closed,
      (roster.close : Procedure (clientInterface Stream) Roster).Yields dialogue records closed ↔
        dialogue = roster.held.toList.map (fun devices => ⟨.release devices, ()⟩) ∧
        records = [] ∧ closed = { roster with held := none }) ∧
    handedOut (calls history ++ roster.givingBack) =
      givenBack (calls history ++ roster.givingBack) ∧
    (givenBack (calls history)).length =
      (handedOut (calls history)).length - (if roster.held.isSome then 1 else 0) ∧
    (givenBack (calls history ++ roster.givingBack)).length =
      (handedOut (calls history)).length ∧
    (available = false → calls history = [] ∧
      roster.givingBack = ([] : List (Exchange (clientInterface Stream)))) := by
  have haccount := h.account
  have hclosed := h.account_closed
  have hheld : available = false → roster.held = none ∧ calls history = [] := by
    rintro rfl
    exact h.idle
  refine ⟨haccount, ?_, fun _ _ _ => h.fate, fun _ _ _ => h.origin,
    fun _ _ _ _ _ => h.held_of_failed, fun _ _ _ => h.close_iff, hclosed, ?_, ?_, ?_⟩
  · intro early late hcalls
    obtain ⟨last, -, htrace⟩ := h.custody_closed
    rw [hcalls] at htrace
    obtain ⟨middle, hearly, -⟩ := htrace.split
    exact ⟨middle.outstanding, Custody.account hearly⟩
  · rw [haccount, List.length_append]
    cases roster.held <;> simp
  · rw [← hclosed, handedOut, List.filterMap_append, ← handedOut, givingBack]
    cases roster.held <;> simp [handedOut?]
  · intro havailable
    obtain ⟨hnone, hcalls⟩ := hheld havailable
    rw [givingBack, hnone]
    exact ⟨hcalls, rfl⟩

/-- Three lists are handed out, the second request for one fails in between, and the
device of the first list is connected to. -/
def threeListsRun : List (Event Unit) × Roster :=
  preparedRun [.ok [firstDevice], .error .unavailable, .ok [secondDevice], .ok []]
    [.reload, .connect 0 80, .reload, .next, .reload, .setDebugLevel 1, .reload]

theorem custody_of_threeListsRun :
    Run true threeListsRun.1 threeListsRun.2 ∧
      handedOut (calls threeListsRun.1) = [[firstDevice], [secondDevice], []] ∧
      givenBack (calls threeListsRun.1) = [[firstDevice], [secondDevice]] ∧
      threeListsRun.2.held = some [] ∧
      givenBack (calls threeListsRun.1 ++ threeListsRun.2.givingBack) =
        [[firstDevice], [secondDevice], []] := by
  have hrun : Run true threeListsRun.1 threeListsRun.2 := run_preparedRun _ _
  obtain ⟨haccount, -, -, -, -, -, hclosed, -⟩ := custody_of_run hrun
  have hout : handedOut (calls threeListsRun.1) = [[firstDevice], [secondDevice], []] := by decide
  have hheld : threeListsRun.2.held = some [] := by decide
  have hback : givenBack (calls threeListsRun.1) = [[firstDevice], [secondDevice]] := by
    rw [hout, hheld] at haccount
    exact (List.append_cancel_right haccount).symm
  refine ⟨hrun, hout, hback, hheld, hclosed.symm.trans ?_⟩
  decide

end Tethered.Mux.Roster
