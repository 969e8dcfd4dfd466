import Tethered.Plist.Decode
import Tethered.Plist.Value

/-!
# Readers on the events of values

A reader that is given the events of a value takes exactly these, whatever follows,
or refuses the value. What it makes of a value is a function on values, so what a
reader makes of a series can be compared with what the value says. Which fault a
refusal has is left out here.
-/
namespace Tethered.Plist

theorem Value.exists_first (value : Value) :
    ∃ event rest, value.events = event :: rest ∧ event ≠ .endCollection := by
  cases value <;> exact ⟨_, _, rfl, by simp⟩

theorem toOption_ok {ε α : Type} (value : α) :
    (Except.ok value : Except ε α).toOption = some value := rfl

theorem toOption_map {ε α β : Type} (f : α → β) (result : Except ε α) :
    (result.map f).toOption = result.toOption.map f := by
  cases result <;> rfl

theorem toOption_bind {ε α β : Type} (f : α → Except ε β) (result : Except ε α) :
    (result >>= f).toOption = result.toOption.bind fun value => (f value).toOption := by
  cases result <;> rfl

/-! ## Skipping -/

section
variable (ending : Fault)

/-- What skipping leaves of the events. -/
def skipped? (places : List Place) (events : List Event) : Option (List Event) :=
  (skip ending places events).toOption.map (·.1)

/-- What skipping leaves where a value has just been skipped. -/
def skippedBehind? (places : List Place) (rest : List Event) : Option (List Event) :=
  match places with
  | [] => some rest
  | place :: outer => skipped? ending (place.next :: outer) rest

theorem map_widen {event : Event} {events : List Event} (found : Except Fault (Rest events)) :
    (found.map (@Rest.widen event events)).toOption.map (·.1) = found.toOption.map (·.1) := by
  rw [toOption_map, Option.map_map]
  rfl

theorem skipped?_scalar {event : Event} (hcollection : event.shown?.isSome = true)
    (harray : event ≠ .startArray) (hdictionary : event ≠ .startDictionary)
    (places : List Place) (rest : List Event) :
    skipped? ending places (event :: rest) = skippedBehind? ending places rest := by
  cases event with
  | startArray => exact absurd rfl harray
  | startDictionary => exact absurd rfl hdictionary
  | endCollection => exact absurd hcollection (by decide)
  | _ =>
    cases places with
    | nil => rfl
    | cons place outer => exact map_widen _

theorem skipped?_startArray (places : List Place) (rest : List Event) :
    skipped? ending places (.startArray :: rest) = skipped? ending (.element :: places) rest :=
  map_widen _

theorem skipped?_startDictionary (places : List Place) (rest : List Event) :
    skipped? ending places (.startDictionary :: rest) = skipped? ending (.key :: places) rest :=
  map_widen _

theorem skipped?_endCollection {place : Place} (h : place ≠ .value) (outer : List Place)
    (rest : List Event) :
    skipped? ending (place :: outer) (.endCollection :: rest) =
      skippedBehind? ending outer rest := by
  cases place with
  | value => exact absurd rfl h
  | _ =>
    cases outer with
    | nil => rfl
    | cons place outer => exact map_widen _

mutual

/-- Skipping steps over a whole value wherever it stands. -/
theorem skipped?_value (value : Value) (places : List Place) (rest : List Event) :
    skipped? ending places (value.events ++ rest) = skippedBehind? ending places rest := by
  match value with
  | .string text => exact skipped?_scalar ending rfl (by simp) (by simp) places rest
  | .integer n => exact skipped?_scalar ending rfl (by simp) (by simp) places rest
  | .boolean truth => exact skipped?_scalar ending rfl (by simp) (by simp) places rest
  | .array items =>
    rw [Value.events, List.cons_append, List.cons_append, List.append_assoc,
      skipped?_startArray, skipped?_items items, List.singleton_append,
      skipped?_endCollection ending (by simp)]
  | .dictionary entries =>
    rw [Value.events, List.cons_append, List.cons_append, List.append_assoc,
      skipped?_startDictionary, skipped?_entries entries, List.singleton_append,
      skipped?_endCollection ending (by simp)]

theorem skipped?_items (items : List Value) (outer : List Place) (rest : List Event) :
    skipped? ending (.element :: outer) (Value.itemEvents items ++ rest) =
      skipped? ending (.element :: outer) rest := by
  match items with
  | [] => rfl
  | item :: items =>
    rw [Value.itemEvents, List.append_assoc, skipped?_value item, skippedBehind?, Place.next,
      skipped?_items items]

theorem skipped?_entries (entries : List (String × Value)) (outer : List Place)
    (rest : List Event) :
    skipped? ending (.key :: outer) (Value.entryEvents entries ++ rest) =
      skipped? ending (.key :: outer) rest := by
  match entries with
  | [] => rfl
  | (key, value) :: entries =>
    rw [Value.entryEvents, List.cons_append, List.cons_append,
      skipped?_scalar ending rfl (by simp) (by simp), List.append_assoc, skippedBehind?,
      Place.next, skipped?_value value, skippedBehind?, Place.next, skipped?_entries entries]

end

end

/-! ## Readers -/

namespace Reader
variable {α β : Type}

/-- What a reader takes from the front of events and what it leaves. -/
def taken? (reader : Reader α) (ending : Fault) (events : List Event) :
    Option (α × List Event) :=
  (reader ending events).toOption.map fun (value, rest) => (value, rest.1)

/-- A reader makes of every value what a function makes of it, and takes the events of
the value and no more. -/
def Takes (reader : Reader α) (of? : Value → Option α) : Prop :=
  ∀ (ending : Fault) (value : Value) (rest : List Event),
    reader.taken? ending (value.events ++ rest) = (of? value).map (·, rest)

theorem Takes.map {reader : Reader α} {of? : Value → Option α} (h : reader.Takes of?)
    (f : α → β) :
    Takes (fun ending events => (reader ending events).map fun (value, rest) => (f value, rest))
      fun value => (of? value).map f := by
  intro ending value rest
  have htaken := congrArg (Option.map fun found => (f found.1, found.2)) (h ending value rest)
  simp only [taken?, Option.map_map] at htaken
  simp only [taken?, toOption_map, Option.map_map]
  exact htaken

/-- Reading the one value of a series gives what the reader makes of the value. -/
theorem Takes.whole {reader : Reader α} {of? : Value → Option α} (h : reader.Takes of?)
    (value : Value) : (reader.whole ⟨value.events, none⟩).toOption = of? value := by
  have htaken := h .endedEarly value []
  rw [List.append_nil, taken?] at htaken
  have hending : (⟨value.events, none⟩ : Series).ending = .endedEarly := rfl
  rw [Reader.whole, hending]
  cases hread : reader .endedEarly value.events with
  | error fault =>
    rw [hread] at htaken
    exact (Option.map_eq_none_iff.mp htaken.symm).symm
  | ok found =>
    obtain ⟨found, rest, hrest⟩ := found
    rw [hread] at htaken
    obtain ⟨_, hof, hfound⟩ := Option.map_eq_some_iff.mp htaken.symm
    simp only [Prod.mk.injEq] at hfound
    obtain ⟨rfl, rfl⟩ := hfound
    exact hof.symm

end Reader

/-! ## Scalars -/

def Value.unsigned? (limit : Nat) : Value → Option Nat
  | .integer value => if 0 ≤ value ∧ value < limit then some value.toNat else none
  | _ => none

def Value.unsigned32? (value : Value) : Option UInt32 :=
  (value.unsigned? 0x100000000).map Nat.toUInt32

def Value.unsigned64? (value : Value) : Option UInt64 :=
  (value.unsigned? 0x10000000000000000).map Nat.toUInt64

def Value.text? : Value → Option String
  | .string text => some text
  | _ => none

theorem takes_unsigned (wanted : Wanted) (limit : Nat) :
    (unsigned wanted limit).Takes (Value.unsigned? limit) := by
  intro ending value rest
  cases value with
  | integer n =>
    have hevents : (Value.integer n).events ++ rest = .integer n :: rest := rfl
    rw [hevents, Reader.taken?, unsigned, Value.unsigned?]
    by_cases hrange : 0 ≤ n ∧ n < limit
    · rw [if_pos hrange, if_pos hrange]
      rfl
    · rw [if_neg hrange, if_neg hrange]
      rfl
  | _ => rfl

theorem takes_unsigned32 : unsigned32.Takes Value.unsigned32? :=
  (takes_unsigned .unsigned32 0x100000000).map Nat.toUInt32

theorem takes_unsigned64 : unsigned64.Takes Value.unsigned64? :=
  (takes_unsigned .unsigned64 0x10000000000000000).map Nat.toUInt64

theorem takes_text : text.Takes Value.text? := by
  intro ending value rest
  cases value <;> rfl

/-! ## Sequences -/

section
variable {α : Type} {item : Reader α} {of? : Value → Option α}

theorem taken?_elements_cons {event : Event} (h : event ≠ .endCollection) (ending : Fault)
    (rest : List Event) :
    (elements item).taken? ending (event :: rest) =
      (item.taken? ending (event :: rest)).bind fun (value, behind) =>
        ((elements item).taken? ending behind).map fun (values, last) =>
          (value :: values, last) := by
  unfold Reader.taken?
  rw [elements]
  · simp only [toOption_bind, Option.map_bind, Option.bind_map]
    refine congrArg _ (funext fun found => ?_)
    simp only [Function.comp_apply, Option.map_map]
    cases elements item ending found.2.1 <;> rfl
  · exact h

theorem taken?_elements (h : item.Takes of?) (items : List Value) (ending : Fault)
    (rest : List Event) :
    (elements item).taken? ending (Value.itemEvents items ++ .endCollection :: rest) =
      (items.mapM of?).map (·, rest) := by
  induction items with
  | nil =>
    rw [Reader.taken?, Value.itemEvents, List.nil_append, elements]
    rfl
  | cons value items ih =>
    obtain ⟨event, behind, hevents, hevent⟩ := value.exists_first
    have htaken := h ending value (Value.itemEvents items ++ .endCollection :: rest)
    rw [hevents, List.cons_append] at htaken
    rw [Value.itemEvents, List.append_assoc, hevents, List.cons_append,
      taken?_elements_cons hevent, htaken, List.mapM_cons]
    cases of? value with
    | none => rfl
    | some found =>
      simp only [Option.map_some, Option.bind_some, ih]
      cases items.mapM of? <;> rfl

/-- What a reader of sequences makes of a value. -/
def Value.sequence? (of? : Value → Option α) : Value → Option (List α)
  | .array items => items.mapM of?
  | _ => none

theorem takes_sequence (h : item.Takes of?) : (sequence item).Takes (Value.sequence? of?) := by
  intro ending value rest
  cases value with
  | array items =>
    have htaken := taken?_elements h items ending rest
    rw [Value.sequence?, ← htaken, Value.events, List.cons_append, List.cons_append,
      List.append_assoc, List.singleton_append]
    simp only [Reader.taken?, sequence, toOption_map, Option.map_map]
    rfl
  | _ => rfl

end

/-! ## Dictionaries -/

/-- A field of a record with what its reader makes of a value: what to do to the
record, if the value is one that the field may have. -/
structure Meaning (ρ : Type) where
  field : RecordField ρ
  of? : Value → Option (ρ → ρ)
  takes : field.read.Takes of?

section
variable {ρ : Type}

theorem getElem?_fieldIndex (known : List (RecordField ρ)) (key : String) :
    known[(known.map RecordField.name).idxOf key]? =
      known.find? fun field => field.name == key := by
  induction known with
  | nil => rfl
  | cons field known ih =>
    rw [List.map_cons, List.idxOf_cons, List.find?_cons]
    cases hname : field.name == key with
    | true => simp
    | false => simpa using ih

/-- A key is read with the value behind it: a key of no field is skipped with its value,
and the key of a field must not come again. -/
theorem taken?_fields_key (known : List (RecordField ρ)) (record : ρ) (ending : Fault)
    (key : String) (rest : List Event) :
    (fields known record).taken? ending (.string key :: rest) =
      match known.find? fun field => field.name == key with
      | none =>
          (skipped? ending [] rest).bind fun behind =>
            (fields known record).taken? ending behind
      | some field =>
          if field.isSet record then none
          else (field.read.taken? ending rest).bind fun (set, behind) =>
            (fields known (set record)).taken? ending behind := by
  have hindex : fieldIndex (known.map RecordField.name) (.string key) =
      .ok ((known.map RecordField.name).idxOf key) := rfl
  rw [← getElem?_fieldIndex, Reader.taken?, fields, hindex]
  · cases hfield : known[(known.map RecordField.name).idxOf key]? with
    | none =>
      simp only [toOption_bind, toOption_ok, Option.bind_some, hfield, Option.map_bind, skipped?,
        Option.bind_map]
      refine congrArg _ (funext fun behind => ?_)
      simp only [Function.comp_apply, Reader.taken?]
      cases fields known record ending behind.1 <;> rfl
    | some field =>
      by_cases hset : field.isSet record = true
      · simp only [toOption_bind, toOption_ok, Option.bind_some, hfield, if_pos hset]
        rfl
      · simp only [toOption_bind, toOption_ok, Option.bind_some, hfield, if_neg hset,
          Option.map_bind, Reader.taken?, Option.bind_map]
        refine congrArg _ (funext fun found => ?_)
        simp only [Function.comp_apply]
        cases fields known (found.1 record) ending found.2.1 <;> rfl
  · simp

/-- The record that entries of a dictionary make of a record, read in order. -/
def recordOf? (known : List (Meaning ρ)) : ρ → List (String × Value) → Option ρ
  | record, [] => some record
  | record, (key, value) :: rest =>
      match known.find? fun meaning => meaning.field.name == key with
      | none => recordOf? known record rest
      | some meaning =>
          if meaning.field.isSet record then none
          else (meaning.of? value).bind fun set => recordOf? known (set record) rest

theorem taken?_fields (known : List (Meaning ρ)) (record : ρ) (entries : List (String × Value))
    (ending : Fault) (rest : List Event) :
    (fields (known.map Meaning.field) record).taken? ending
        (Value.entryEvents entries ++ .endCollection :: rest) =
      (recordOf? known record entries).map (·, rest) := by
  induction entries generalizing record with
  | nil =>
    rw [Reader.taken?, Value.entryEvents, List.nil_append, fields]
    rfl
  | cons entry entries ih =>
    obtain ⟨key, value⟩ := entry
    have hfind : (known.map Meaning.field).find? (fun field => field.name == key) =
        (known.find? fun meaning => meaning.field.name == key).map Meaning.field :=
      List.find?_map
    rw [Value.entryEvents, List.cons_append, List.cons_append, List.append_assoc,
      taken?_fields_key, recordOf?, hfind]
    cases known.find? fun meaning => meaning.field.name == key with
    | none =>
      simp only [Option.map_none, skipped?_value, skippedBehind?, Option.bind_some]
      exact ih record
    | some meaning =>
      simp only [Option.map_some]
      by_cases hset : meaning.field.isSet record = true
      · rw [if_pos hset, if_pos hset]
        rfl
      · rw [if_neg hset, if_neg hset, meaning.takes ending value]
        cases meaning.of? value with
        | none => rfl
        | some set => exact ih (set record)

/-- What a reader of dictionaries makes of a value. -/
def Value.record? {α : Type} (known : List (Meaning ρ)) (start : ρ)
    (finish : ρ → Except Mismatch α) : Value → Option α
  | .dictionary entries =>
      (recordOf? known start entries).bind fun record => (finish record).toOption
  | _ => none

theorem takes_dictionary {α : Type} (known : List (Meaning ρ)) (start : ρ)
    (finish : ρ → Except Mismatch α) :
    (dictionary (known.map Meaning.field) start finish).Takes
      (Value.record? known start finish) := by
  intro ending value rest
  cases value with
  | dictionary entries =>
    have htaken := taken?_fields known start entries ending rest
    rw [Value.record?, Value.events, List.cons_append, List.cons_append, List.append_assoc,
      List.singleton_append]
    generalize Value.entryEvents entries ++ .endCollection :: rest = events at htaken
    simp only [Reader.taken?, dictionary, toOption_bind, Option.map_bind]
    rw [Reader.taken?] at htaken
    cases hread : fields (known.map Meaning.field) start ending events with
    | error fault =>
      rw [hread] at htaken
      have hnone : recordOf? known start entries = none := Option.map_eq_none_iff.mp htaken.symm
      rw [hnone]
      rfl
    | ok found =>
      obtain ⟨_, last⟩ := found
      rw [hread] at htaken
      obtain ⟨record, hrecord, hfound⟩ := Option.map_eq_some_iff.mp htaken.symm
      simp only [Prod.mk.injEq] at hfound
      obtain ⟨rfl, hlast⟩ := hfound
      simp only [hrecord, toOption_ok, Option.bind_some, Function.comp_apply]
      cases finish record with
      | error cause => rfl
      | ok value =>
        rw [hlast]
        rfl
  | _ => rfl

/-- A dictionary whose entries can all be read is refused for what its record lacks. -/
theorem whole_dictionary_of_finish {α : Type} {known : List (Meaning ρ)} {start record : ρ}
    {finish : ρ → Except Mismatch α} {entries : List (String × Value)} {cause : Mismatch}
    (hrecord : recordOf? known start entries = some record)
    (hfinish : finish record = .error cause) :
    (dictionary (known.map Meaning.field) start finish).whole
        ⟨(Value.dictionary entries).events, none⟩ = .error (.mismatch cause) := by
  have htaken := taken?_fields known start entries .endedEarly []
  rw [hrecord, Reader.taken?] at htaken
  have hending : (⟨(Value.dictionary entries).events, none⟩ : Series).ending = .endedEarly := rfl
  rw [Reader.whole, hending, Value.events, List.cons_append, dictionary]
  cases hread : fields (known.map Meaning.field) start .endedEarly
      (Value.entryEvents entries ++ [.endCollection]) with
  | error fault =>
    rw [hread] at htaken
    cases htaken
  | ok found =>
    obtain ⟨read, last⟩ := found
    rw [hread] at htaken
    obtain rfl : read = record := congrArg Prod.fst (Option.some.inj htaken)
    simp only [bind, Except.bind, hfinish]

end

end Tethered.Plist
