import Mathlib.Data.List.Pairwise
import Tethered.Proofs.Plist.ValueReading

/-!
# Records in any order

A dictionary whose keys are pairwise different is the same record in every order of
its keys, with or without entries that belong to no field: each field is looked up by
its name. For this the fields have to be kept apart, which is asked of each two of them.
-/
namespace Tethered.Plist

/-- The keys of a dictionary in order. -/
def keysOf (entries : List (String × Value)) : List String := entries.map Prod.fst

theorem lookup_of_not_mem {entries : List (String × Value)} {name : String}
    (h : name ∉ keysOf entries) : entries.lookup name = none := by
  refine List.lookup_eq_none_iff.mpr fun entry hmem => ?_
  have hne : name ≠ entry.1 := fun heq => h (heq ▸ List.mem_map_of_mem hmem)
  simpa using hne

namespace Meaning
variable {ρ : Type}

/-- Two fields that are kept apart: setting one leaves open whether the other is set,
and the order in which the two are set makes no difference. -/
structure Apart (meaning other : Meaning ρ) : Prop where
  name_ne : meaning.field.name ≠ other.field.name
  isSet_left : ∀ value set, meaning.of? value = some set →
    ∀ record, other.field.isSet (set record) = other.field.isSet record
  isSet_right : ∀ value set, other.of? value = some set →
    ∀ record, meaning.field.isSet (set record) = meaning.field.isSet record
  comm : ∀ left set right change, meaning.of? left = some set → other.of? right = some change →
    ∀ record, change (set record) = set (change record)

theorem Apart.symm {meaning other : Meaning ρ} (h : meaning.Apart other) : other.Apart meaning where
  name_ne := h.name_ne.symm
  isSet_left := h.isSet_right
  isSet_right := h.isSet_left
  comm left set right change hset hchange record :=
    (h.comm right change left set hchange hset record).symm

instance : Std.Symm (Apart (ρ := ρ)) := ⟨fun _ _ => Apart.symm⟩

/-- A field looked up in a dictionary and set if it is there. -/
def lookUp? (entries : List (String × Value)) (record : ρ) (meaning : Meaning ρ) : Option ρ :=
  match entries.lookup meaning.field.name with
  | none => some record
  | some value => (meaning.of? value).map (· record)

variable {meaning : Meaning ρ} {entries : List (String × Value)} {record : ρ}

theorem lookUp?_of_not_mem (h : meaning.field.name ∉ keysOf entries) :
    meaning.lookUp? entries record = some record := by
  rw [lookUp?, lookup_of_not_mem h]

theorem lookUp?_cons_self (value : Value) :
    meaning.lookUp? ((meaning.field.name, value) :: entries) record =
      (meaning.of? value).map (· record) := by
  rw [lookUp?, List.lookup_cons_self]

theorem lookUp?_cons_of_ne {key : String} (h : meaning.field.name ≠ key) (value : Value) :
    meaning.lookUp? ((key, value) :: entries) record = meaning.lookUp? entries record := by
  have hlookup : ((key, value) :: entries).lookup meaning.field.name =
      entries.lookup meaning.field.name := by
    rw [List.lookup_cons, beq_false_of_ne h]
  rw [lookUp?, hlookup, lookUp?]

/-- Setting a field can be moved in front of looking up fields apart from it. -/
theorem foldlM_lookUp?_set {known : List (Meaning ρ)} {value : Value} {set : ρ → ρ}
    (hapart : ∀ other ∈ known, other.Apart meaning) (hset : meaning.of? value = some set)
    (record : ρ) :
    known.foldlM (lookUp? entries) (set record) =
      (known.foldlM (lookUp? entries) record).map set := by
  induction known generalizing record with
  | nil => rfl
  | cons other known ih =>
    obtain ⟨hother, hknown⟩ := List.forall_mem_cons.mp hapart
    have hstep : other.lookUp? entries (set record) = (other.lookUp? entries record).map set := by
      unfold lookUp?
      cases entries.lookup other.field.name with
      | none => rfl
      | some found =>
        cases hchange : other.of? found with
        | none => simp [hchange]
        | some change => simp [hchange, hother.comm _ _ _ _ hchange hset]
    rw [List.foldlM_cons, List.foldlM_cons, hstep]
    cases other.lookUp? entries record with
    | none => rfl
    | some changed => exact ih hknown changed

theorem foldlM_lookUp?_congr {known : List (Meaning ρ)} {others : List (String × Value)}
    (h : ∀ other ∈ known, ∀ record, other.lookUp? entries record = other.lookUp? others record)
    (record : ρ) :
    known.foldlM (lookUp? entries) record = known.foldlM (lookUp? others) record := by
  induction known generalizing record with
  | nil => rfl
  | cons other known ih =>
    obtain ⟨hother, hknown⟩ := List.forall_mem_cons.mp h
    rw [List.foldlM_cons, List.foldlM_cons, hother]
    exact congrArg _ (funext fun changed => ih hknown changed)

/-- The value of a field can be set before any field is looked up. -/
theorem foldlM_lookUp?_cons {known : List (Meaning ρ)} (hknown : known.Pairwise Apart)
    (hmem : meaning ∈ known) (hkey : meaning.field.name ∉ keysOf entries) (value : Value)
    (record : ρ) :
    known.foldlM (lookUp? ((meaning.field.name, value) :: entries)) record =
      (meaning.of? value).bind fun set => known.foldlM (lookUp? entries) (set record) := by
  obtain ⟨before, after, rfl⟩ := List.append_of_mem hmem
  obtain ⟨-, hbehind, hfront⟩ := List.pairwise_append.mp hknown
  have hbefore : ∀ other ∈ before, other.Apart meaning :=
    fun other hother => hfront other hother meaning List.mem_cons_self
  have hafter : ∀ other ∈ after, meaning.Apart other := (List.pairwise_cons.mp hbehind).1
  have hsame {others : List (Meaning ρ)}
      (hothers : ∀ other ∈ others, other.field.name ≠ meaning.field.name) (record : ρ) :
      others.foldlM (lookUp? ((meaning.field.name, value) :: entries)) record =
        others.foldlM (lookUp? entries) record :=
    foldlM_lookUp?_congr (fun other hother _ => lookUp?_cons_of_ne (hothers other hother) value)
      record
  have hset (record : ρ) :
      (before ++ meaning :: after).foldlM (lookUp? entries) record =
        (before.foldlM (lookUp? entries) record).bind (after.foldlM (lookUp? entries)) := by
    simp only [List.foldlM_append, List.foldlM_cons, lookUp?_of_not_mem hkey]
    rfl
  have hall : (before ++ meaning :: after).foldlM
      (lookUp? ((meaning.field.name, value) :: entries)) record =
        (before.foldlM (lookUp? entries) record).bind fun record =>
          ((meaning.of? value).map (· record)).bind (after.foldlM (lookUp? entries)) := by
    simp only [List.foldlM_append, List.foldlM_cons, lookUp?_cons_self,
      hsame fun other hother => (hbefore other hother).name_ne,
      hsame fun other hother => (hafter other hother).name_ne.symm]
    rfl
  rw [hall]
  cases hof : meaning.of? value with
  | none => cases before.foldlM (lookUp? entries) record <;> rfl
  | some set =>
    rw [Option.bind_some, hset, foldlM_lookUp?_set hbefore hof]
    cases before.foldlM (lookUp? entries) record <;> rfl

end Meaning

/-- Reading the entries in their order is looking up the fields in theirs. The induction
is on the entries: the first of them belongs to no field, or to one that is not set yet. -/
theorem recordOf?_eq {ρ : Type} {known : List (Meaning ρ)}
    (hknown : known.Pairwise Meaning.Apart) {entries : List (String × Value)}
    (hkeys : (keysOf entries).Nodup) {record : ρ}
    (hfresh : ∀ meaning ∈ known, meaning.field.name ∈ keysOf entries →
      meaning.field.isSet record = false) :
    recordOf? known record entries = known.foldlM (Meaning.lookUp? entries) record := by
  induction entries generalizing record with
  | nil =>
    clear hknown hfresh
    induction known with
    | nil => rfl
    | cons meaning known ih =>
      rw [List.foldlM_cons, Meaning.lookUp?_of_not_mem (by simp [keysOf])]
      exact ih
  | cons entry entries ih =>
    obtain ⟨key, value⟩ := entry
    obtain ⟨hkey, hrest⟩ := List.nodup_cons.mp hkeys
    rw [recordOf?]
    cases hfind : known.find? fun meaning => meaning.field.name == key with
    | none =>
      have hother : ∀ meaning ∈ known, meaning.field.name ≠ key := fun meaning hmem heq =>
        List.find?_eq_none.mp hfind meaning hmem (beq_iff_eq.mpr heq)
      rw [Meaning.foldlM_lookUp?_congr fun meaning hmem record =>
        Meaning.lookUp?_cons_of_ne (hother meaning hmem) value]
      exact ih hrest fun meaning hmem hname => hfresh meaning hmem (List.mem_cons_of_mem _ hname)
    | some meaning =>
      have hmem : meaning ∈ known := List.mem_of_find?_eq_some hfind
      have hname := List.find?_some hfind
      obtain rfl : meaning.field.name = key := eq_of_beq hname
      have hunset : ¬ meaning.field.isSet record = true :=
        Bool.eq_false_iff.mp (hfresh meaning hmem List.mem_cons_self)
      rw [Meaning.foldlM_lookUp?_cons hknown hmem hkey]
      simp only [if_neg hunset]
      cases hset : meaning.of? value with
      | none => rfl
      | some set =>
        refine ih hrest fun other hother hname => ?_
        have hne : other ≠ meaning := fun heq => hkey (heq ▸ hname)
        have hapart : other.Apart meaning := hknown.forall hother hmem hne
        rw [hapart.isSet_right value set hset]
        exact hfresh other hother (List.mem_cons_of_mem _ hname)

end Tethered.Plist
