import Tethered.Proofs.Plist.WrittenValues

/-!
# Values decoded from their events

A series is decoded with a stack of the collections that are not ended. A key that
comes again replaces the value it had. Of the values that a series can hold only those
are decoded that this library writes. What was written is decoded as it was, if no
dictionary in it has a key twice.
-/
namespace Tethered.Plist

/-- A collection that is not ended: the elements of an array so far, last first, or the
entries of a dictionary and the key that waits for its value. -/
inductive Unended where
  | array (items : List Value)
  | dictionary (entries : List (String × Value)) (key : Option String)

/-- Where decoding stands: inside collections, innermost first, or behind a value. -/
inductive Decoding where
  | inside (outer : List Unended)
  | done (value : Value)

namespace Decoding

/-- Give a key a value, in its place if it is there and at the end otherwise. -/
def insert (key : String) (value : Value) : List (String × Value) → List (String × Value)
  | [] => [(key, value)]
  | (name, content) :: rest =>
      if name = key then (key, value) :: rest else (name, content) :: insert key value rest

/-- Put a whole value where it belongs. -/
def put (value : Value) : List Unended → Option Decoding
  | [] => some (.done value)
  | .array items :: outer => some (.inside (.array (value :: items) :: outer))
  | .dictionary entries none :: outer =>
      match value with
      | .string key => some (.inside (.dictionary entries (some key) :: outer))
      | _ => none
  | .dictionary entries (some key) :: outer =>
      some (.inside (.dictionary (insert key value entries) none :: outer))

def step : Decoding → Event → Option Decoding
  | .done _, _ => none
  | .inside outer, .startArray => some (.inside (.array [] :: outer))
  | .inside outer, .startDictionary => some (.inside (.dictionary [] none :: outer))
  | .inside (.array items :: outer), .endCollection => put (.array items.reverse) outer
  | .inside (.dictionary entries none :: outer), .endCollection => put (.dictionary entries) outer
  | .inside _, .endCollection => none
  | .inside outer, .string text => put (.string text) outer
  | .inside outer, .integer value => put (.integer value) outer
  | .inside outer, .boolean value => put (.boolean value) outer
  | .inside _, .data _ | .inside _, .date _ | .inside _, .real _ => none

def value? : Decoding → Option Value
  | .done value => some value
  | .inside _ => none

end Decoding

namespace Value

/-- The value of a property list, if it is one that this library writes. -/
def ofBytes? (bytes : List UInt8) : Option Value :=
  match Series.ofBytes bytes with
  | ⟨events, none⟩ => (events.foldlM Decoding.step (.inside [])).bind Decoding.value?
  | ⟨_, some _⟩ => none

mutual

/-- Whether no dictionary in a value has a key twice. -/
def hasNoKeyTwice : Value → Bool
  | .array items => haveNoKeyTwice items
  | .dictionary entries => decide (entries.map Prod.fst).Nodup && entriesHaveNoKeyTwice entries
  | _ => true

def haveNoKeyTwice : List Value → Bool
  | [] => true
  | item :: rest => item.hasNoKeyTwice && haveNoKeyTwice rest

def entriesHaveNoKeyTwice : List (String × Value) → Bool
  | [] => true
  | (_, value) :: rest => value.hasNoKeyTwice && entriesHaveNoKeyTwice rest

end

end Value

namespace Decoding

theorem insert_of_not_mem {key : String} {entries : List (String × Value)}
    (h : key ∉ entries.map Prod.fst) (value : Value) :
    insert key value entries = entries ++ [(key, value)] := by
  induction entries with
  | nil => rfl
  | cons entry entries ih =>
    obtain ⟨name, content⟩ := entry
    obtain ⟨hname, hrest⟩ := not_or.mp (mt List.mem_cons.mpr h)
    rw [insert, if_neg (Ne.symm hname), ih hrest]
    rfl

theorem foldlM_singleton (decoding : Decoding) (event : Event) :
    [event].foldlM step decoding = step decoding event := by
  rw [List.foldlM_cons]
  exact bind_pure _

mutual

/-- The events of a value put the value where it belongs. -/
theorem foldlM_step_value (value : Value) (h : value.hasNoKeyTwice = true)
    (outer : List Unended) : value.events.foldlM step (.inside outer) = put value outer := by
  match value with
  | .string text => exact foldlM_singleton _ _
  | .integer n => exact foldlM_singleton _ _
  | .boolean truth => exact foldlM_singleton _ _
  | .array items =>
    have hitems := foldlM_step_items items h [] outer
    rw [List.append_nil] at hitems
    have hstart : step (.inside outer) .startArray = some (.inside (.array [] :: outer)) := rfl
    rw [Value.events, List.foldlM_append, List.foldlM_cons, hstart, Option.bind_eq_bind,
      Option.bind_some, hitems, Option.bind_some, foldlM_singleton, step,
      List.reverse_reverse]
  | .dictionary entries =>
    obtain ⟨hkeys, hvalues⟩ := Bool.and_eq_true_iff.mp h
    have hentries := foldlM_step_entries entries hvalues [] (of_decide_eq_true hkeys) outer
    have hstart : step (.inside outer) .startDictionary =
        some (.inside (.dictionary [] none :: outer)) := rfl
    rw [Value.events, List.foldlM_append, List.foldlM_cons, hstart, Option.bind_eq_bind,
      Option.bind_some, hentries, Option.bind_some, foldlM_singleton, step,
      List.nil_append]

theorem foldlM_step_items (items : List Value) (h : Value.haveNoKeyTwice items = true)
    (before : List Value) (outer : List Unended) :
    (Value.itemEvents items).foldlM step (.inside (.array before :: outer)) =
      some (.inside (.array (items.reverse ++ before) :: outer)) := by
  match items with
  | [] => rfl
  | item :: items =>
    obtain ⟨hitem, hitems⟩ := Bool.and_eq_true_iff.mp h
    rw [Value.itemEvents, List.foldlM_append, foldlM_step_value item hitem, put,
      Option.bind_eq_bind, Option.bind_some, foldlM_step_items items hitems]
    simp

theorem foldlM_step_entries (entries : List (String × Value))
    (h : Value.entriesHaveNoKeyTwice entries = true) (before : List (String × Value))
    (hkeys : ((before ++ entries).map Prod.fst).Nodup) (outer : List Unended) :
    (Value.entryEvents entries).foldlM step (.inside (.dictionary before none :: outer)) =
      some (.inside (.dictionary (before ++ entries) none :: outer)) := by
  match entries with
  | [] =>
    rw [List.append_nil]
    rfl
  | (key, value) :: entries =>
    obtain ⟨hvalue, hentries⟩ := Bool.and_eq_true_iff.mp h
    have hkey : key ∉ before.map Prod.fst := by
      intro hmem
      rw [List.map_append] at hkeys
      exact (List.nodup_append.mp hkeys).2.2 key hmem key List.mem_cons_self rfl
    have hsplit : before ++ (key, value) :: entries = (before ++ [(key, value)]) ++ entries := by
      simp
    have hstep : step (.inside (.dictionary before none :: outer)) (.string key) =
        some (.inside (.dictionary before (some key) :: outer)) := rfl
    rw [hsplit] at hkeys ⊢
    rw [Value.entryEvents, List.foldlM_append, List.foldlM_cons, hstep, Option.bind_eq_bind,
      Option.bind_some, foldlM_step_value value hvalue, put,
      insert_of_not_mem hkey, Option.bind_some,
      foldlM_step_entries entries hentries _ hkeys]

end

end Decoding

/-- A written value is decoded as it was. -/
theorem Value.ofBytes?_toBytes {value : Value} (hstorable : value.isStorable = true)
    (hkeys : value.hasNoKeyTwice = true) : ofBytes? value.toBytes = some value := by
  rw [ofBytes?, Series.ofBytes_toBytes hstorable]
  simp only [Decoding.foldlM_step_value value hkeys]
  rfl

end Tethered.Plist
