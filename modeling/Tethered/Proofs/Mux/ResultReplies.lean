import Tethered.Proofs.Mux.ListReplies

/-!
# What a result says

A reply without a list of devices is read as a result. It accepts, refuses with a number
or is of another type, in whatever order its entries come and whatever else is among them.
Where a list was asked for, the body is tried as a list first and then as a result: a
refusal is then the same refusal, and a result that accepts is still no list.
-/
namespace Tethered.Mux.Reply

open Plist

/-! ## Acceptance and refusal -/

namespace Result
variable {result : Result}

theorem check_eq_ok_iff :
    result.check = .ok () ↔ result.messageType = "Result" ∧ result.number = 0 := by
  unfold check
  split
  · next htype => simp [htype]
  · next htype =>
    split
    · next hnumber => simp [hnumber]
    · next hnumber =>
      exact iff_of_true rfl ⟨Classical.not_not.mp htype, Classical.not_not.mp hnumber⟩

theorem check_eq_refused_iff {code : UInt64} : result.check = .error (.refused code) ↔
    result.messageType = "Result" ∧ result.number = code ∧ code ≠ 0 := by
  unfold check
  split
  · next htype => simp [htype]
  · next htype =>
    split
    · next hnumber =>
      rw [Except.error.injEq, Failure.refused.injEq]
      constructor
      · rintro rfl
        exact ⟨Classical.not_not.mp htype, rfl, hnumber⟩
      · exact fun h => h.2.1
    · next hnumber =>
      refine iff_of_false (fun h => nomatch h) ?_
      rintro ⟨-, rfl, hcode⟩
      exact hnumber hcode

theorem check_eq_protocol_iff {wording : String} : result.check = .error (.protocol wording) ↔
    result.messageType ≠ "Result" ∧ wording = "unexpected reply " ++ result.messageType := by
  unfold check
  split
  · next htype => simp [htype, eq_comm]
  · next htype =>
    split <;> simp [Classical.not_not.mp htype]

end Result

/-! ## The value that the reader makes -/

def resultMeanings : List (Meaning Result.Draft) :=
  [meaningOf "MessageType" Result.Draft.messageType
      (fun draft value => { draft with messageType := some value }) takes_text,
    meaningOf "Number" Result.Draft.number
      (fun draft value => { draft with number := some value }) takes_unsigned64]

/-- The result of a record whose fields have been met. -/
def Result.finish (draft : Result.Draft) : Except Mismatch Result :=
  (require "MessageType" draft.messageType).map fun messageType =>
    ⟨messageType, draft.number.getD 0⟩

def result? : Value → Option Result :=
  Value.record? resultMeanings ⟨none, none⟩ Result.finish

theorem takes_result : Result.reader.Takes result? :=
  takes_dictionary resultMeanings ⟨none, none⟩ Result.finish

section
variable {entries : List (String × Value)} (h : (keysOf entries).Nodup)
include h

theorem result?_eq_some_iff {result : Result} :
    result? (.dictionary entries) = some result ↔
      given? Value.text? "MessageType" entries = some (some result.messageType) ∧
        ∃ number, given? Value.unsigned64? "Number" entries = some number ∧
          result.number = number.getD 0 := by
  have hapart : resultMeanings.Pairwise Meaning.Apart := by
    simp only [resultMeanings, List.pairwise_cons, List.forall_mem_cons]
    exact ⟨⟨apart_meaningOf _ _ (by decide) (fun _ _ => rfl) (fun _ _ => rfl) fun _ _ _ => rfl,
        by simp⟩,
      by simp, .nil⟩
  have hfresh : ∀ meaning ∈ resultMeanings, meaning.field.name ∈ keysOf entries →
      meaning.field.isSet ⟨none, none⟩ = false := by
    simp only [resultMeanings, List.forall_mem_cons]
    exact ⟨fun _ => rfl, fun _ => rfl, by simp⟩
  rw [result?, Value.record?, recordOf?_eq hapart h hfresh, resultMeanings]
  simp only [List.foldlM_cons, lookUp?_meaningOf]
  obtain ⟨messageType, number⟩ := result
  cases given? Value.text? "MessageType" entries with
  | none => simp
  | some found =>
  cases given? Value.unsigned64? "Number" entries with
  | none => simp
  | some given =>
    cases found <;> cases given <;>
      simp [Result.finish, require, Except.toOption, Except.map, eq_comm]

/-- A dictionary without a list is refused as a list for lacking it, whatever it has. -/
theorem listReader_whole_of_no_list (hlist : entries.lookup "DeviceList" = none) :
    listReader.whole ⟨(Value.dictionary entries).events, none⟩ =
      .error (.mismatch (.missingField "DeviceList")) := by
  have hrecord : recordOf? listMeanings none entries = some none := by
    rw [recordOf?_listMeanings h, given?, hlist]
  exact whole_dictionary_of_finish hrecord rfl

end

theorem unsigned64?_toNat (number : UInt64) :
    (Value.integer number.toNat).unsigned64? = some number := by
  have hfits : (0 : Int) ≤ number.toNat ∧ (number.toNat : Int) < (0x10000000000000000 : Nat) := by
    have := number.toNat_lt
    omega
  rw [Value.unsigned64?, Value.unsigned?, if_pos hfits, Int.toNat_natCast]
  exact congrArg some UInt64.ofNat_toNat

/-! ## Bodies without a list -/

/-- A body that is a dictionary of different keys, with a message type, a number or none,
and no list of devices. Nothing is asked of the entries under other keys. -/
structure IsResult (body : List UInt8) (entries : List (String × Value)) (messageType : String)
    (number : Option UInt64) : Prop where
  events : Series.ofBytes body = ⟨(Value.dictionary entries).events, none⟩
  keys : (keysOf entries).Nodup
  messageType : entries.lookup "MessageType" = some (.string messageType)
  number : entries.lookup "Number" = number.map fun code => .integer code.toNat
  noList : entries.lookup "DeviceList" = none

namespace IsResult
variable {body : List UInt8} {entries : List (String × Value)} {messageType : String}
  {number : Option UInt64} (h : IsResult body entries messageType number)
include h

theorem check_eq : check body = (⟨messageType, number.getD 0⟩ : Result).check := by
  have htype : given? Value.text? "MessageType" entries = some (some messageType) := by
    rw [given?, h.messageType]
    rfl
  have hnumber : given? Value.unsigned64? "Number" entries = some number := by
    rw [given?, h.number]
    cases number with
    | none => rfl
    | some code => exact congrArg (Option.map some) (unsigned64?_toNat code)
  have hresult : result? (.dictionary entries) = some ⟨messageType, number.getD 0⟩ :=
    (result?_eq_some_iff h.keys).mpr ⟨htype, number, hnumber, rfl⟩
  have hwhole := takes_result.whole (.dictionary entries)
  rw [hresult] at hwhole
  rw [check, h.events]
  cases hread : Result.reader.whole ⟨(Value.dictionary entries).events, none⟩ with
  | error fault =>
    rw [hread] at hwhole
    cases hwhole
  | ok result =>
    rw [hread] at hwhole
    obtain rfl := Option.some.inj hwhole
    rfl

/-- As a list, the body fails as it fails as a result. -/
theorem deviceList_of_failure {failure : Failure} (hcheck : check body = .error failure) :
    deviceList body = .error failure := by
  have hwhole := listReader_whole_of_no_list h.keys h.noList
  simp only [deviceList, h.events, hwhole, hcheck]

theorem deviceList_of_accepted (hcheck : check body = .ok ()) :
    deviceList body = .error (.plist (.mismatch (.missingField "DeviceList"))) := by
  have hwhole := listReader_whole_of_no_list h.keys h.noList
  simp only [deviceList, h.events, hwhole, hcheck]

end IsResult

/-- A refusal is never taken for an acceptance. A result is accepted, refused with its number
or of another type by its message type and number alone; where a list was asked for, it is
refused for the same reason, or for having no list, and is no list of devices, not even an
empty one. -/
theorem refusals_of_result {body : List UInt8} {entries : List (String × Value)}
    {messageType : String} {number : Option UInt64}
    (h : IsResult body entries messageType number) :
    (check body = .ok () ↔ messageType = "Result" ∧ (number = none ∨ number = some 0)) ∧
    (∀ code, check body = .error (.refused code) ↔
      messageType = "Result" ∧ number = some code ∧ code ≠ 0) ∧
    (∀ wording, check body = .error (.protocol wording) ↔
      messageType ≠ "Result" ∧ wording = "unexpected reply " ++ messageType) ∧
    (∀ failure, check body = .error failure → deviceList body = .error failure) ∧
    (check body = .ok () →
      deviceList body = .error (.plist (.mismatch (.missingField "DeviceList")))) ∧
    ∀ devices, deviceList body ≠ .ok devices := by
  refine ⟨?_, ?_, ?_, fun _ => h.deviceList_of_failure, h.deviceList_of_accepted, ?_⟩
  · rw [h.check_eq, Result.check_eq_ok_iff]
    cases number <;> simp
  · intro code
    rw [h.check_eq, Result.check_eq_refused_iff]
    cases number with
    | none =>
      exact iff_of_false (fun ⟨_, hzero, hcode⟩ => hcode hzero.symm) fun ⟨_, hnone, _⟩ =>
        nomatch hnone
    | some given => simp
  · intro wording
    rw [h.check_eq, Result.check_eq_protocol_iff]
  · intro devices hlisted
    cases hcheck : check body with
    | ok => cases hlisted.symm.trans (h.deviceList_of_accepted hcheck)
    | error failure => cases hlisted.symm.trans (h.deviceList_of_failure hcheck)

/-- What comes with a result that means nothing to it: another list, a nested result, and a
dictionary with a key twice. -/
def besides : List (String × Value) :=
  [("Reason", .dictionary [("MessageType", .string "Result"), ("Number", .integer 0)]),
    ("Lists", .array [.dictionary [("DeviceList", .array [])], .boolean true]),
    ("Twice", .dictionary [("Number", .integer 1), ("Number", .integer (-1))])]

/-- A result whose number stands before its type, with something between them. -/
def numbered (messageType : String) (number : UInt64) : List (String × Value) :=
  ("Number", .integer number.toNat) :: besides ++ [("MessageType", .string messageType)]

/-- A result without a number. -/
def unnumbered (messageType : String) : List (String × Value) :=
  ("MessageType", .string messageType) :: besides

/-- A result as another writer puts it, with white space and without a declaration. -/
def foreignBody : List UInt8 :=
  asciiBytes ("<plist>\n <dict>\n  <key>MessageType</key> <string>Result</string>\n" ++
    "  <key>Number</key> <integer>0x7</integer>\n </dict>\n</plist>")

theorem refusals_of_numbered :
    check (Value.dictionary (numbered "Result" 0xFFFFFFFFFFFFFFFF)).toBytes =
        .error (.refused 0xFFFFFFFFFFFFFFFF) ∧
      deviceList (Value.dictionary (numbered "Result" 0xFFFFFFFFFFFFFFFF)).toBytes =
        .error (.refused 0xFFFFFFFFFFFFFFFF) ∧
      check (Value.dictionary (unnumbered "Result")).toBytes = .ok () ∧
      deviceList (Value.dictionary (unnumbered "Result")).toBytes =
        .error (.plist (.mismatch (.missingField "DeviceList"))) ∧
      deviceList (Value.dictionary (numbered "Paired" 0)).toBytes =
        .error (.protocol "unexpected reply Paired") ∧
      deviceList foreignBody = .error (.refused 7) := by
  have hrefused : IsResult (Value.dictionary (numbered "Result" 0xFFFFFFFFFFFFFFFF)).toBytes
      (numbered "Result" 0xFFFFFFFFFFFFFFFF) "Result" (some 0xFFFFFFFFFFFFFFFF) :=
    ⟨Series.ofBytes_toBytes (by decide), by decide, rfl, rfl, rfl⟩
  have haccepted : IsResult (Value.dictionary (unnumbered "Result")).toBytes
      (unnumbered "Result") "Result" none :=
    ⟨Series.ofBytes_toBytes (by decide), by decide, rfl, rfl, rfl⟩
  have hother : IsResult (Value.dictionary (numbered "Paired" 0)).toBytes
      (numbered "Paired" 0) "Paired" (some 0) :=
    ⟨Series.ofBytes_toBytes (by decide), by decide, rfl, rfl, rfl⟩
  have hforeign : IsResult foreignBody [("MessageType", .string "Result"), ("Number", .integer 7)]
      "Result" (some 7) := ⟨by decide +kernel, by decide, rfl, rfl, rfl⟩
  obtain ⟨-, hcode, -, hsame, -⟩ := refusals_of_result hrefused
  obtain ⟨hok, -, -, -, hmissing, -⟩ := refusals_of_result haccepted
  obtain ⟨-, -, hprotocol, hsameOther, -⟩ := refusals_of_result hother
  obtain ⟨-, hforeignCode, -, hsameForeign, -⟩ := refusals_of_result hforeign
  have hrefusal := (hcode _).mpr ⟨rfl, rfl, by decide⟩
  have hacceptance := hok.mpr ⟨rfl, .inl rfl⟩
  exact ⟨hrefusal, hsame _ hrefusal, hacceptance, hmissing hacceptance,
    hsameOther _ ((hprotocol _).mpr ⟨by decide, rfl⟩),
    hsameForeign _ ((hforeignCode _).mpr ⟨rfl, rfl, by decide⟩)⟩

end Tethered.Mux.Reply
