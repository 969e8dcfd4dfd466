import Mathlib.Data.List.Flatten
import Tethered.Proofs.Adb.ForwardList
import Tethered.Proofs.Adb.TableRun

/-!
# The forwards that a tool keeps

A tool keeps its forwards in the order of their creation, prints them as rows and
answers everything else as it likes. Against such a tool the list of forwards is
what a reference says: the forwards that were asked for, in order, without those
of a device that were dropped later. Calls on a table of devices in between have
no part in it.
-/
namespace Tethered.Adb.Forward

open Tool Text

variable {σ α : Type}

/-! ## A tool that keeps forwards -/

/-- The serial number that the arguments of a command address, and the other arguments. -/
def addressee : List String → Option String × List String
  | "-s" :: serial :: arguments => (some serial, arguments)
  | arguments => (none, arguments)

/-- What the tool makes of a command: what it prints, the code it ends with and the
forwards it keeps. -/
structure Reaction where
  text : List Char
  code : Int32
  forwards : List Forward

/-- The reaction to the arguments behind `forward`. -/
def react (serial : Option String) (forwards : List Forward) : List String → Reaction
  | ["--remove-all"] =>
      ⟨[], 0, forwards.filter fun forward => forward.serial ≠ (serial.getD "").toList⟩
  | ["--list"] => ⟨printed forwards, 0, forwards⟩
  | [hostEnd, deviceEnd] =>
      match serial with
      | some serial => ⟨[], 0, forwards ++ [⟨serial.toList, hostEnd.toList, deviceEnd.toList⟩]⟩
      | none => ⟨[], 1, forwards⟩
  | _ => ⟨[], 1, forwards⟩

/-- The report of a command that printed a text and ended without delay. -/
def prompt (invocation : Invocation) (text : List Char) (code : Int32) : Report :=
  ⟨(Execution.ended (Utf8.encode text) (.exited code)).outcome invocation, ⟨0⟩⟩

/-- A tool that keeps forwards. What is not about forwards is answered by others, who keep
a state of their own. -/
def keeping (other : Procedure.Surroundings interface σ) :
    Procedure.Surroundings interface (List Forward × σ) := fun (invocation : Invocation) kept =>
  match addressee invocation.command.arguments with
  | (serial, "forward" :: words) =>
      let reaction := react serial kept.1 words
      (prompt invocation reaction.text reaction.code, reaction.forwards, kept.2)
  | _ =>
      let reply := other invocation kept.2
      (reply.1, kept.1, reply.2)

/-- A command about forwards. -/
def IsForwarding (invocation : Invocation) : Prop :=
  (addressee invocation.command.arguments).2.head? = some "forward"

variable {other : Procedure.Surroundings interface σ} {kept : List Forward × σ}
variable {config : Config} {table : SlotTable}

theorem keeping_of_forward {invocation : Invocation} {serial : Option String}
    {words : List String}
    (h : addressee invocation.command.arguments = (serial, "forward" :: words)) :
    keeping other invocation kept =
      (prompt invocation (react serial kept.1 words).text (react serial kept.1 words).code,
        (react serial kept.1 words).forwards, kept.2) := by
  simp only [keeping, h]
  rfl

theorem forwards_keeping {invocation : Invocation} (h : ¬ IsForwarding invocation) :
    (keeping other invocation kept).2.1 = kept.1 := by
  unfold keeping
  split
  · next serial words heq => exact absurd (by rw [IsForwarding, heq]; rfl) h
  · rfl

/-- Whoever asks nothing about forwards changes none. -/
theorem forwards_run (procedure : Procedure interface α)
    (h : ∀ exchange ∈ procedure.dialogueWith (keeping other) kept,
      ¬ IsForwarding exchange.question) :
    (procedure.run (keeping other) kept).state.1 = kept.1 := by
  induction procedure generalizing kept with
  | done result => rfl
  | record entry rest ih => exact ih h
  | ask question resume ih =>
    obtain ⟨hquestion, hlater⟩ := List.forall_mem_cons.mp h
    exact (ih _ hlater).trans (forwards_keeping hquestion)

/-! ## Operations -/

/-- What may be done with forwards, and with a table of devices in between. -/
inductive Operation where
  | create
  | reload
  | next
  | establish (serial : String) (hostPort devicePort : UInt16)
  | removeAll (serial : String)
  | list
  deriving DecidableEq, Repr

/-- An operation, with the table that the later ones are about. -/
def perform (config : Config) (table : SlotTable) :
    Operation → Procedure interface SlotTable
  | .create => SlotTable.create config
  | .reload => table.reload.map Prod.snd
  | .next => table.next.map Prod.snd
  | .establish serial hostPort devicePort =>
      (establish config serial hostPort devicePort).map fun _ => table
  | .removeAll serial => (removeAll config serial).map fun _ => table
  | .list => (list config).map fun _ => table

def performAll (config : Config) (table : SlotTable) :
    List Operation → Procedure interface SlotTable
  | [] => .done table
  | operation :: later =>
      (perform config table operation).andThen fun table => performAll config table later

/-- The forward that an operation asks for, if any. -/
def Operation.created : Operation → List Forward
  | .establish serial hostPort devicePort => [ofPorts serial.toList hostPort devicePort]
  | _ => []

/-- Whether an operation drops a forward that is there. -/
def Operation.drops : Operation → Forward → Bool
  | .removeAll serial, forward => forward.serial = serial.toList
  | _, _ => false

/-- The forwards that none of some operations drops. -/
def surviving (operations : List Operation) (forwards : List Forward) : List Forward :=
  forwards.filter fun forward => !operations.any fun operation => operation.drops forward

/-- The forwards that are active after operations: those that they ask for and that no later
one drops, in order. -/
def active : List Operation → List Forward
  | [] => []
  | operation :: later => surviving later operation.created ++ active later

theorem surviving_nil (forwards : List Forward) : surviving [] forwards = forwards :=
  List.filter_true forwards

theorem surviving_append_right (operations : List Operation) (forwards more : List Forward) :
    surviving operations (forwards ++ more) =
      surviving operations forwards ++ surviving operations more := List.filter_append ..

theorem surviving_append_left (operations more : List Operation) (forwards : List Forward) :
    surviving (operations ++ more) forwards = surviving more (surviving operations forwards) := by
  simp [surviving, List.filter_filter, Bool.and_comm]

theorem surviving_removeAll (serial : String) (forwards : List Forward) :
    surviving [.removeAll serial] forwards =
      forwards.filter fun forward => forward.serial ≠ serial.toList := by
  simp [surviving, Operation.drops]

theorem surviving_of_not_drops {operation : Operation}
    (h : ∀ forward, operation.drops forward = false) (forwards : List Forward) :
    surviving [operation] forwards = forwards := by
  simp [surviving, h]

/-- Active forwards are as the operations ask for them. -/
theorem exists_of_mem_active {operations : List Operation} {forward : Forward}
    (h : forward ∈ active operations) :
    ∃ serial hostPort devicePort, .establish serial hostPort devicePort ∈ operations ∧
      forward = ofPorts serial.toList hostPort devicePort := by
  induction operations with
  | nil => cases h
  | cons operation later ih =>
    rcases List.mem_append.mp h with hcreated | hlater
    · have hmem := List.mem_of_mem_filter hcreated
      cases operation with
      | establish serial hostPort devicePort =>
        exact ⟨serial, hostPort, devicePort, List.mem_cons_self, List.mem_singleton.mp hmem⟩
      | _ => cases hmem
    · obtain ⟨serial, hostPort, devicePort, hmem, heq⟩ := ih hlater
      exact ⟨serial, hostPort, devicePort, List.mem_cons_of_mem _ hmem, heq⟩

/-! ## What the commands come to -/

/-- A command about forwards comes to what the tool makes of it. -/
theorem run_forwarding {name : String} {serial : Option String} {words : List String}
    {capture : Bool} (hlimit : ("forward" :: words).length ≤ argumentLimit)
    (h : addressee (addressing serial ++ "forward" :: words) = (serial, "forward" :: words))
    (hcode : (react serial kept.1 words).code = 0) :
    let query := invocation config serial ("forward" :: words) capture
    let outcome :=
      (runChecked config name serial ("forward" :: words) capture).run (keeping other) kept
    outcome.result =
        .ok (.success (query.kept (Utf8.encode (react serial kept.1 words).text))) ∧
      outcome.state = ((react serial kept.1 words).forwards, kept.2) := by
  intro query outcome
  have houtcome : outcome = _ := run_runChecked (keeping other) kept hlimit
  have hreply : keeping other query kept = _ := keeping_of_forward h
  rw [houtcome, hreply]
  refine ⟨verdict_eq_ok_iff.mpr ?_, rfl⟩
  rw [hcode]
  exact Report.success?_of_prompt rfl _

theorem run_establish (serial : String) (hostPort devicePort : UInt16) :
    let outcome := (establish config serial hostPort devicePort).run (keeping other) kept
    outcome.result = .ok () ∧
      outcome.state = (kept.1 ++ [ofPorts serial.toList hostPort devicePort], kept.2) := by
  obtain ⟨hresult, hstate⟩ := @run_forwarding σ other kept config "adb fwd" (some serial)
    [tcpEnd hostPort, tcpEnd devicePort] false (show 3 ≤ argumentLimit by decide) rfl rfl
  rw [establish, Procedure.onSuccess_done, Procedure.run_map, ofPorts, ← toList_tcpEnd,
    ← toList_tcpEnd]
  exact ⟨congrArg (Except.map fun _ => ()) hresult, hstate⟩

theorem run_removeAll (serial : String) :
    ((removeAll config serial).run (keeping other) kept).state =
      (surviving [.removeAll serial] kept.1, kept.2) := by
  obtain ⟨-, hstate⟩ := @run_forwarding σ other kept config "adb fwd clear" (some serial)
    ["--remove-all"] false (by decide) rfl rfl
  rw [removeAll, Procedure.run_map, surviving_removeAll]
  exact hstate

theorem run_list :
    let outcome := (list config).run (keeping other) kept
    outcome.result = .ok (listing (Utf8.decodeLossy
        ((Utf8.encode (printed kept.1)).take config.outputLimit))) ∧
      outcome.state = kept := by
  obtain ⟨hresult, hstate⟩ := @run_forwarding σ other kept config "adb fwd list" none
    ["--list"] true (by decide) rfl rfl
  rw [list, Procedure.onSuccess_done, Procedure.run_map]
  exact ⟨congrArg (Except.map fun output => listing output.text) hresult, hstate⟩

/-! ## Calls on the table -/

theorem not_isForwarding_of_reloaded {dialogue : List (Exchange interface)}
    {result : Except Failure Nat} {after : SlotTable}
    (h : SlotTable.Reloaded table dialogue result after) :
    ∀ exchange ∈ dialogue, ¬ IsForwarding exchange.question := by
  cases h <;>
    simp [IsForwarding, SlotTable.reconnecting, SlotTable.devicesQuery, invocation, addressing,
      addressee]

theorem not_isForwarding_of_advanced {dialogue : List (Exchange interface)}
    {result : Option Device} {after : SlotTable}
    (h : SlotTable.Advanced table dialogue result after) :
    ∀ exchange ∈ dialogue, ¬ IsForwarding exchange.question := by
  cases h <;>
    simp [IsForwarding, SlotTable.modelQuery, invocation, addressing, addressee]

theorem not_isForwarding_of_create {dialogue : List (Exchange interface)}
    {records : List Record} {after : SlotTable}
    (h : (SlotTable.create config).Yields dialogue records after) :
    ∀ exchange ∈ dialogue, ¬ IsForwarding exchange.question := by
  obtain ⟨result, hstart, -⟩ := Procedure.yields_map_iff.mp h
  obtain ⟨report, rfl, -, -⟩ := (yields_runChecked_iff (by decide)).mp hstart
  simp [IsForwarding, invocation, addressing, addressee]

/-! ## The list after operations -/

/-- An operation drops and adds the forwards that it should. -/
theorem forwards_perform (operation : Operation) :
    ((perform config table operation).run (keeping other) kept).state.1 =
      surviving [operation] kept.1 ++ operation.created := by
  have hspared {operation : Operation} (hdrops : ∀ forward, operation.drops forward = false)
      (hcreated : operation.created = []) :
      surviving [operation] kept.1 ++ operation.created = kept.1 := by
    rw [hcreated, List.append_nil, surviving_of_not_drops hdrops]
  cases operation with
  | create =>
    rw [hspared (fun _ => rfl) rfl]
    exact forwards_run _ (not_isForwarding_of_create (Procedure.yields_dialogueWith _ _ _))
  | reload =>
    rw [hspared (fun _ => rfl) rfl, perform, Procedure.run_map]
    exact forwards_run _ (not_isForwarding_of_reloaded
      (SlotTable.reloaded_of_yields (Procedure.yields_dialogueWith _ _ table.reload)))
  | next =>
    rw [hspared (fun _ => rfl) rfl, perform, Procedure.run_map]
    exact forwards_run _ (not_isForwarding_of_advanced
      (SlotTable.advanced_of_yields (Procedure.yields_dialogueWith _ _ table.next)))
  | establish serial hostPort devicePort =>
    rw [perform, Procedure.run_map, surviving_of_not_drops fun _ => rfl]
    exact congrArg Prod.fst (run_establish serial hostPort devicePort).2
  | removeAll serial =>
    rw [perform, Procedure.run_map]
    exact (congrArg Prod.fst (run_removeAll serial)).trans (List.append_nil _).symm
  | list =>
    rw [hspared (fun _ => rfl) rfl, perform, Procedure.run_map]
    exact congrArg Prod.fst run_list.2

/-- Operations drop and add the forwards that they should. -/
theorem forwards_performAll (operations : List Operation) :
    ((performAll config table operations).run (keeping other) kept).state.1 =
      surviving operations kept.1 ++ active operations := by
  induction operations generalizing table kept with
  | nil => exact ((List.append_nil _).trans (surviving_nil kept.1)).symm
  | cons operation later ih =>
    rw [performAll, Procedure.run_andThen]
    dsimp only
    rw [ih, forwards_perform, surviving_append_right, ← surviving_append_left,
      List.append_assoc, active]
    rfl

theorem isTcp_of_mem_active {operations : List Operation}
    (hserials : ∀ serial hostPort devicePort,
      .establish serial hostPort devicePort ∈ operations → IsWord serial.toList)
    {forward : Forward} (h : forward ∈ active operations) : forward.IsTcp := by
  obtain ⟨serial, hostPort, devicePort, hmem, rfl⟩ := exists_of_mem_active h
  exact ⟨_, hostPort, devicePort, hserials serial hostPort devicePort hmem, rfl⟩

/-- Forwards that are dropped make a list no longer. -/
theorem rowAt_le_of_sublist {some all : List Forward} (h : some.Sublist all) :
    rowAt some ≤ rowAt all := by
  have hprinted : (printed some).Sublist (printed all) := h.flatMap _
  have hencoded : (Utf8.encode (printed some)).Sublist (Utf8.encode (printed all)) :=
    hprinted.flatMap _
  exact hencoded.length_le

/-- A list that fits is read as the forwards that the tool keeps. -/
theorem result_list {forwards : List Forward} {state : σ}
    (hforwards : ∀ forward ∈ forwards, forward.IsTcp)
    (hfits : rowAt forwards ≤ config.outputLimit) :
    ((list config).run (keeping other) (forwards, state)).result = .ok forwards := by
  rw [run_list.1, listing_take_of_le hforwards hfits]

/-- Against a tool that keeps forwards, operations of any kind and number leave the list that
the reference has, if it fits the limit on the output: every active forward once for each
time that it was asked for, in that order. A forward can then be added without failure, and
to drop those of one device leaves the others as they are. -/
theorem list_of_operations (other : Procedure.Surroundings interface σ) (state : σ)
    (config : Config) (table : SlotTable) (operations : List Operation)
    (hserials : ∀ serial hostPort devicePort,
      .establish serial hostPort devicePort ∈ operations → IsWord serial.toList)
    (hfits : (Utf8.encode (printed (active operations))).length ≤ config.outputLimit) :
    let after := ((performAll config table operations).run (keeping other) ([], state)).state
    ((list config).run (keeping other) after).result = .ok (active operations) ∧
    (∀ serial hostPort devicePort,
      ((establish config serial hostPort devicePort).run (keeping other) after).result = .ok ()) ∧
    ∀ serial,
      let dropped := ((removeAll config serial).run (keeping other) after).state
      ((list config).run (keeping other) dropped).result =
        .ok ((active operations).filter fun forward => forward.serial ≠ serial.toList) := by
  intro after
  have hforwards : after.1 = active operations := forwards_performAll operations
  have hactive : ∀ forward ∈ active operations, forward.IsTcp := fun forward hmem =>
    isTcp_of_mem_active hserials hmem
  have hafter : after = (active operations, after.2) := Prod.ext hforwards rfl
  refine ⟨?_, fun serial hostPort devicePort => (run_establish serial hostPort devicePort).1,
    fun serial => ?_⟩
  · rw [hafter]
    exact result_list hactive hfits
  · intro dropped
    have hsublist : ((active operations).filter fun forward =>
        forward.serial ≠ serial.toList).Sublist (active operations) := List.filter_sublist
    have hdropped : dropped = _ := run_removeAll serial
    rw [hdropped, hforwards, surviving_removeAll]
    exact result_list (fun forward hmem => hactive forward (List.mem_of_mem_filter hmem))
      ((rowAt_le_of_sublist hsublist).trans hfits)

/-- Forwards of two devices with calls on a table of one slot in between. -/
def mixedOperations : List Operation :=
  [.create, .establish "A" 8100 8100, .reload, .establish "B" 8200 8080, .next,
    .removeAll "A", .establish "A" 1 65535, .next, .establish "B" 8200 8080, .list]

theorem list_of_mixedOperations :
    let other := SlotTable.prepared
    let config := SlotTable.smallConfig 1
    let reports := [SlotTable.printed "" 0, SlotTable.printed "" 0,
      SlotTable.printed "List\nA\tdevice\n" 0, SlotTable.printed "" 1]
    let after := ((performAll config (.empty config) mixedOperations).run (keeping other)
      ([], reports)).state
    ((list config).run (keeping other) after).result =
      .ok [ofPorts ['B'] 8200 8080, ofPorts ['A'] 1 65535, ofPorts ['B'] 8200 8080] := by
  intro other config reports after
  have hserials : ∀ serial hostPort devicePort,
      .establish serial hostPort devicePort ∈ mixedOperations → IsWord serial.toList := by
    intro serial hostPort devicePort hmem
    have hserial : serial = "A" ∨ serial = "B" := by
      simp only [mixedOperations, List.mem_cons, Operation.establish.injEq, reduceCtorEq,
        List.not_mem_nil] at hmem
      tauto
    rcases hserial with rfl | rfl
    · exact isWord_singleton (by decide)
    · exact isWord_singleton (by decide)
  exact (list_of_operations other reports config (.empty config) mixedOperations hserials
    (by decide)).1

end Tethered.Adb.Forward
