import Tethered.Adb.Forward
import Tethered.Number.Numeral
import Tethered.Proofs.Adb.Checked
import Tethered.Proofs.Text.Lines

/-!
# Lists of forwards that are cut

The tool prints a forward as three words on a line, and a list that is kept whole is
read as the forwards behind it. Where the output is cut, the complete lines are read
as they should be and the last line as if it were complete. A cut inside the third
word leaves three words, so the last entry is a forward to a port that only begins
like the right one. A cut anywhere else loses forwards and no more.
-/
namespace Tethered.Adb.Forward

open Tool Text

variable {forward : Forward} {active : List Forward}

/-! ## Rows -/

/-- The forward between two TCP ports, each in its decimal digits. -/
def ofPorts (serial : List Char) (hostPort devicePort : UInt16) : Forward :=
  ⟨serial, "tcp:".toList ++ Number.decimal hostPort.toNat,
    "tcp:".toList ++ Number.decimal devicePort.toNat⟩

/-- A forward between TCP ports, of a device whose serial number is a word. -/
def IsTcp (forward : Forward) : Prop :=
  ∃ serial hostPort devicePort, IsWord serial ∧ forward = ofPorts serial hostPort devicePort

/-- What stands before the end at the device in the row of a forward. -/
def lead (forward : Forward) : List Char :=
  forward.serial ++ ' ' :: (forward.hostEnd ++ [' '])

def row (forward : Forward) : List Char := forward.lead ++ forward.deviceEnd

/-- What the tool prints as its list of forwards. -/
def printed (forwards : List Forward) : List Char :=
  forwards.flatMap fun forward => forward.row ++ ['\n']

theorem printed_append (earlier later : List Forward) :
    printed (earlier ++ later) = printed earlier ++ printed later := List.flatMap_append

theorem printed_cons (forward : Forward) (later : List Forward) :
    printed (forward :: later) = forward.row ++ '\n' :: printed later := by
  rw [printed, List.flatMap_cons, List.append_assoc]
  rfl

theorem toList_tcpEnd (port : UInt16) :
    (tcpEnd port).toList = "tcp:".toList ++ Number.decimal port.toNat := by
  rw [tcpEnd, String.toList_append]
  exact congrArg _ Nat.toList_repr

/-- A TCP port in its decimal digits has ASCII characters only and no blanks. -/
theorem of_mem_port {port : UInt16} {c : Char}
    (h : c ∈ "tcp:".toList ++ Number.decimal port.toNat) :
    isBlank c = false ∧ c.toNat < 0x80 := by
  rcases List.mem_append.mp h with hmem | hmem
  · have hall : "tcp:".toList.all (fun c => !isBlank c && decide (c.toNat < 0x80)) = true := by
      decide
    simpa using List.all_eq_true.mp hall c hmem
  · have hdigit : c.isDigit = true := Nat.isDigit_of_mem_toDigits (by decide) (by decide) hmem
    have hrange : 48 ≤ c.toNat ∧ c.toNat ≤ 57 := Char.isDigit_iff_toNat.mp hdigit
    refine ⟨Bool.eq_false_iff.mpr fun hblank => ?_, by omega⟩
    simp only [isBlank, Bool.or_eq_true, Bool.and_eq_true, decide_eq_true_eq, beq_iff_eq]
      at hblank
    omega

theorem isWord_port (port : UInt16) : IsWord ("tcp:".toList ++ Number.decimal port.toNat) :=
  ⟨List.append_ne_nil_of_left_ne_nil (by decide) _, fun _ hmem => (of_mem_port hmem).1⟩

namespace IsTcp

theorem serial (h : forward.IsTcp) : IsWord forward.serial := by
  obtain ⟨serial, hostPort, devicePort, hserial, rfl⟩ := h
  exact hserial

theorem hostEnd (h : forward.IsTcp) : IsWord forward.hostEnd := by
  obtain ⟨serial, hostPort, devicePort, -, rfl⟩ := h
  exact isWord_port hostPort

theorem deviceEnd (h : forward.IsTcp) : IsWord forward.deviceEnd := by
  obtain ⟨serial, hostPort, devicePort, -, rfl⟩ := h
  exact isWord_port devicePort

/-- Only the serial number of a row can have characters of several bytes. -/
theorem ascii (h : forward.IsTcp) :
    ∀ c ∈ ' ' :: (forward.hostEnd ++ ' ' :: forward.deviceEnd), c.toNat < 0x80 := by
  obtain ⟨serial, hostPort, devicePort, -, rfl⟩ := h
  intro c hmem
  rcases List.mem_cons.mp hmem with rfl | hmem
  · decide
  rcases List.mem_append.mp hmem with hhost | hmem
  · exact (of_mem_port hhost).2
  rcases List.mem_cons.mp hmem with rfl | hdevice
  · decide
  · exact (of_mem_port hdevice).2

end IsTcp

theorem row_eq (forward : Forward) :
    forward.row = forward.serial ++ ' ' :: (forward.hostEnd ++ ' ' :: forward.deviceEnd) := by
  simp [row, lead]

theorem words_lead_append (h : forward.IsTcp) (behind : List Char) :
    words (forward.lead ++ behind) = forward.serial :: forward.hostEnd :: words behind := by
  have hlead : forward.lead ++ behind =
      forward.serial ++ ' ' :: (forward.hostEnd ++ ' ' :: behind) := by simp [lead]
  rw [hlead, words_append_blank rfl, words_append_blank rfl, h.serial.words_eq,
    h.hostEnd.words_eq]
  rfl

/-- A third word behind the first two is taken for the end at the device. -/
theorem ofLine?_lead_append (h : forward.IsTcp) {behind : List Char} (hbehind : IsWord behind) :
    ofLine? (forward.lead ++ behind) = some { forward with deviceEnd := behind } := by
  rw [ofLine?, words_lead_append h, hbehind.words_eq]

theorem ofLine?_of_few {line : List Char} (h : (words line).length ≤ 2) :
    ofLine? line = none := by
  unfold ofLine?
  split
  · next heq => simp [heq] at h
  · rfl

theorem newline_not_mem_row (h : forward.IsTcp) : '\n' ∉ forward.row := by
  rw [row_eq]
  simp [h.serial.newline_not_mem, h.hostEnd.newline_not_mem, h.deviceEnd.newline_not_mem]

theorem listing_row_append (h : forward.IsTcp) (text : List Char) :
    listing (forward.row ++ '\n' :: text) = forward :: listing text := by
  rw [listing, lines_append_newline (newline_not_mem_row h), List.filterMap_cons, row,
    ofLine?_lead_append h h.deviceEnd]
  rfl

theorem listing_of_line {line : List Char} (h : '\n' ∉ line) :
    listing line = (ofLine? line).toList := by
  rw [listing, lines_of_not_mem h]
  cases hline : ofLine? line <;> simp [hline]

/-- The rows of forwards in front of a text are read as these forwards. -/
theorem listing_printed_append (hactive : ∀ forward ∈ active, forward.IsTcp)
    (text : List Char) : listing (printed active ++ text) = active ++ listing text := by
  induction active with
  | nil => rfl
  | cons forward later ih =>
    obtain ⟨hforward, hlater⟩ := List.forall_mem_cons.mp hactive
    rw [printed_cons, List.append_assoc, List.cons_append, listing_row_append hforward, ih hlater]
    rfl

/-! ## A row that is cut -/

/-- The forward that the first bytes of a row are read as, if they reach its third word. -/
def ofFirst? (forward : Forward) (count : Nat) : Option Forward :=
  if count ≤ (Utf8.encode forward.lead).length then none
  else some { forward with
    deviceEnd := forward.deviceEnd.take (count - (Utf8.encode forward.lead).length) }

/-- Bytes that end in a word are read without any blank. -/
theorem not_blank_of_mem_take {text : List Char} (h : IsWord text) (count : Nat) :
    ∀ c ∈ Utf8.decodeLossy ((Utf8.encode text).take count), isBlank c = false := by
  obtain ⟨common, ending, hread, hcommon, hending⟩ :=
    Utf8.exists_decodeLossy_take (Utf8.encode text) count
  rw [Utf8.decodeLossy_encode] at hcommon
  intro c hmem
  rw [hread] at hmem
  rcases List.mem_append.mp hmem with hmem | hmem
  · exact h.not_blank c (hcommon.subset hmem)
  · rcases hending with rfl | rfl
    · cases hmem
    · rw [List.mem_singleton.mp hmem]
      decide

theorem listing_of_not_blank {text : List Char} (h : ∀ c ∈ text, isBlank c = false) :
    listing text = [] := by
  have hnewline : '\n' ∉ text := fun hmem => absurd (h _ hmem) (by decide)
  have hfew := length_words_le_one h
  rw [listing_of_line hnewline, ofLine?_of_few (by omega)]
  rfl

theorem length_encode_lead (h : forward.IsTcp) :
    (Utf8.encode forward.lead).length =
      (Utf8.encode forward.serial).length + forward.hostEnd.length + 2 := by
  have hascii : ∀ c ∈ ' ' :: (forward.hostEnd ++ [' ']), c.toNat < 0x80 := fun c hmem =>
    h.ascii c (by simp only [List.mem_cons, List.mem_append] at hmem ⊢; tauto)
  rw [lead, Utf8.encode_append, List.length_append, Utf8.encode_of_ascii hascii]
  simp
  omega

/-- Behind the serial number a row is ASCII text, so it can be cut there as text. -/
theorem decodeLossy_take_row (h : forward.IsTcp) (more : Nat) :
    Utf8.decodeLossy
        ((Utf8.encode forward.row).take ((Utf8.encode forward.serial).length + (more + 1))) =
      forward.serial ++ ' ' :: (forward.hostEnd ++ ' ' :: forward.deviceEnd).take more := by
  rw [row_eq, Utf8.encode_append, List.take_length_add_append, Utf8.take_encode_of_ascii h.ascii,
    ← Utf8.encode_append, Utf8.decodeLossy_encode, List.take_succ_cons]

theorem length_words_take_le (h : forward.IsTcp) {more : Nat}
    (hmore : more ≤ forward.hostEnd.length + 1) :
    (words ((forward.hostEnd ++ ' ' :: forward.deviceEnd).take more)).length ≤ 1 := by
  by_cases hinside : more ≤ forward.hostEnd.length
  · rw [List.take_append_of_le_length hinside]
    exact length_words_le_one fun c hmem => h.hostEnd.not_blank c (List.mem_of_mem_take hmem)
  · obtain rfl : more = forward.hostEnd.length + 1 := by omega
    rw [List.take_length_add_append, List.take_succ_cons, List.take_zero, words_append_blank rfl,
      h.hostEnd.words_eq]
    exact Nat.le_refl 1

theorem isWord_take {text : List Char} (h : IsWord text) {count : Nat} (hcount : 0 < count) :
    IsWord (text.take count) := by
  refine ⟨fun hnil => ?_, fun c hmem => h.not_blank c (List.mem_of_mem_take hmem)⟩
  rcases List.take_eq_nil_iff.mp hnil with hzero | hnil
  · omega
  · exact h.ne_nil hnil

/-- A line that goes on behind the serial number has a third word once the end at the
host and two blanks are in it. -/
theorem ofLine?_cut (h : forward.IsTcp) (more : Nat) :
    ofLine? (forward.serial ++ ' ' :: (forward.hostEnd ++ ' ' :: forward.deviceEnd).take more) =
      if more ≤ forward.hostEnd.length + 1 then none
      else some { forward with
        deviceEnd := forward.deviceEnd.take (more - (forward.hostEnd.length + 1)) } := by
  by_cases hmore : more ≤ forward.hostEnd.length + 1
  · have hfew := length_words_take_le h hmore
    rw [if_pos hmore]
    apply ofLine?_of_few
    rw [words_append_blank rfl, h.serial.words_eq, List.length_append, List.length_singleton]
    omega
  · obtain ⟨third, rfl⟩ : ∃ third, more = forward.hostEnd.length + (third + 1) :=
      ⟨more - forward.hostEnd.length - 1, by omega⟩
    have hthird : IsWord (forward.deviceEnd.take third) := isWord_take h.deviceEnd (by omega)
    have hlead : forward.serial ++ ' ' :: (forward.hostEnd ++ ' ' :: forward.deviceEnd).take
        (forward.hostEnd.length + (third + 1)) = forward.lead ++ forward.deviceEnd.take third := by
      rw [List.take_length_add_append, List.take_succ_cons]
      simp [lead]
    have hcount : forward.hostEnd.length + (third + 1) - (forward.hostEnd.length + 1) = third := by
      omega
    rw [if_neg hmore, hlead, ofLine?_lead_append h hthird, hcount]

theorem newline_not_mem_cut (h : forward.IsTcp) (more : Nat) :
    '\n' ∉ forward.serial ++
      ' ' :: (forward.hostEnd ++ ' ' :: forward.deviceEnd).take more := by
  have hrow := newline_not_mem_row h
  rw [row_eq, List.mem_append, List.mem_cons, not_or, not_or] at hrow
  obtain ⟨hserial, hblank, hbehind⟩ := hrow
  rw [List.mem_append, List.mem_cons, not_or, not_or]
  exact ⟨hserial, hblank, fun hmem => hbehind (List.mem_of_mem_take hmem)⟩

/-- The first bytes of a row are read as a forward if they reach its third word. -/
theorem listing_take_row (h : forward.IsTcp) (count : Nat) :
    listing (Utf8.decodeLossy ((Utf8.encode forward.row).take count)) =
      (forward.ofFirst? count).toList := by
  have hlength := length_encode_lead h
  by_cases hserial : count ≤ (Utf8.encode forward.serial).length
  · have htake : (Utf8.encode forward.row).take count =
        (Utf8.encode forward.serial).take count := by
      rw [row_eq, Utf8.encode_append, List.take_append_of_le_length hserial]
    rw [htake, listing_of_not_blank (not_blank_of_mem_take h.serial count), ofFirst?,
      if_pos (by omega)]
    rfl
  · obtain ⟨more, rfl⟩ : ∃ more, count = (Utf8.encode forward.serial).length + (more + 1) :=
      ⟨count - (Utf8.encode forward.serial).length - 1, by omega⟩
    rw [decodeLossy_take_row h, listing_of_line (newline_not_mem_cut h more), ofLine?_cut h,
      ofFirst?, hlength]
    by_cases hmore : more ≤ forward.hostEnd.length + 1
    · rw [if_pos hmore, if_pos (by omega)]
    · rw [if_neg hmore, if_neg (by omega)]
      congr 4
      omega

/-! ## Lists that are cut -/

/-- The bytes of a list that come before the row of a forward, and before its last word. -/
def rowAt (earlier : List Forward) : Nat := (Utf8.encode (printed earlier)).length

def deviceEndAt (earlier : List Forward) (forward : Forward) : Nat :=
  rowAt earlier + (Utf8.encode forward.lead).length

/-- The bytes of a list up to the newline behind a forward. -/
def newlineAt (earlier : List Forward) (forward : Forward) : Nat :=
  rowAt earlier + (Utf8.encode forward.row).length

/-- A limit on the bytes of a list falls behind the beginning of a device's port and before
its end. -/
def CutsDeviceEnd (active : List Forward) (limit : Nat) : Prop :=
  ∃ earlier forward later, active = earlier ++ forward :: later ∧
    deviceEndAt earlier forward < limit ∧ limit < newlineAt earlier forward

theorem rowAt_cons (forward : Forward) (earlier : List Forward) :
    rowAt (forward :: earlier) = newlineAt [] forward + 1 + rowAt earlier := by
  have hnewline : (Utf8.encode ('\n' :: printed earlier)).length = 1 + rowAt earlier := by
    rw [Utf8.encode_cons, List.length_append]
    rfl
  rw [rowAt, printed_cons, Utf8.encode_append, List.length_append, hnewline, newlineAt,
    show rowAt [] = 0 from rfl]
  omega

theorem newlineAt_cons (first forward : Forward) (earlier : List Forward) :
    newlineAt (first :: earlier) forward = newlineAt [] first + 1 + newlineAt earlier forward := by
  rw [newlineAt, rowAt_cons, newlineAt.eq_1 earlier]
  omega

/-- A limit that does not reach the end of a list falls into one of its lines. -/
theorem exists_line_at {limit : Nat} (h : limit < rowAt active) :
    ∃ earlier forward later, active = earlier ++ forward :: later ∧
      rowAt earlier ≤ limit ∧ limit ≤ newlineAt earlier forward := by
  induction active generalizing limit with
  | nil => exact absurd h (Nat.not_lt_zero limit)
  | cons first rest ih =>
    by_cases hfirst : limit ≤ newlineAt [] first
    · exact ⟨[], first, rest, rfl, Nat.zero_le limit, hfirst⟩
    · rw [rowAt_cons] at h
      obtain ⟨earlier, forward, later, rfl, hlow, hhigh⟩ :=
        @ih (limit - (newlineAt [] first + 1)) (by omega)
      refine ⟨first :: earlier, forward, later, rfl, ?_, ?_⟩
      · rw [rowAt_cons]
        omega
      · rw [newlineAt_cons]
        omega

variable {earlier later : List Forward} {limit : Nat}

/-- What is kept of a list that is cut in a line: the forwards before it, and what the first
bytes of its row are read as. -/
theorem listing_take_printed (hactive : ∀ other ∈ earlier ++ forward :: later, other.IsTcp)
    (hlow : rowAt earlier ≤ limit) (hhigh : limit ≤ newlineAt earlier forward) :
    listing (Utf8.decodeLossy
        ((Utf8.encode (printed (earlier ++ forward :: later))).take limit)) =
      earlier ++ (forward.ofFirst? (limit - rowAt earlier)).toList := by
  obtain ⟨count, rfl⟩ := Nat.exists_eq_add_of_le hlow
  have hcount : count ≤ (Utf8.encode forward.row).length := by
    rw [newlineAt] at hhigh
    omega
  rw [printed_append, printed_cons, Utf8.encode_append, Utf8.encode_append, rowAt,
    List.take_length_add_append, List.take_append_of_le_length hcount,
    Utf8.decodeLossy_encode_append,
    listing_printed_append fun other hmem => hactive other (List.mem_append_left _ hmem),
    listing_take_row (hactive forward (by simp)), Nat.add_sub_cancel_left]

theorem listing_printed (hactive : ∀ forward ∈ active, forward.IsTcp) :
    listing (printed active) = active := by
  have hread := listing_printed_append hactive []
  rwa [List.append_nil, show listing [] = [] from rfl, List.append_nil] at hread

theorem listing_take_of_le (hactive : ∀ forward ∈ active, forward.IsTcp)
    (h : rowAt active ≤ limit) :
    listing (Utf8.decodeLossy ((Utf8.encode (printed active)).take limit)) = active := by
  rw [List.take_of_length_le h, Utf8.decodeLossy_encode, listing_printed hactive]

theorem newlineAt_eq (h : forward.IsTcp) (earlier : List Forward) :
    newlineAt earlier forward = deviceEndAt earlier forward + forward.deviceEnd.length := by
  have hascii : ∀ c ∈ forward.deviceEnd, c.toNat < 0x80 := fun c hmem =>
    h.ascii c (List.mem_cons_of_mem _ (List.mem_append_right _ (List.mem_cons_of_mem _ hmem)))
  rw [newlineAt, deviceEndAt, row, Utf8.encode_append, List.length_append,
    Utf8.encode_of_ascii hascii, List.length_map, Nat.add_assoc]

theorem ofFirst?_sub (earlier : List Forward) (forward : Forward) (limit : Nat) :
    forward.ofFirst? (limit - rowAt earlier) =
      if limit ≤ deviceEndAt earlier forward then none
      else some { forward with
        deviceEnd := forward.deviceEnd.take (limit - deviceEndAt earlier forward) } := by
  rw [ofFirst?, Nat.sub_sub, ← deviceEndAt]
  by_cases h : limit ≤ deviceEndAt earlier forward
  · rw [if_pos h, if_pos (by rw [deviceEndAt] at h; omega)]
  · rw [if_neg h, if_neg (by rw [deviceEndAt] at h; omega)]

/-- The first bytes of a list are read as its first forwards, unless they end inside the
port of a device. -/
theorem append_ofFirst?_prefix_iff (h : forward.IsTcp) :
    earlier ++ (forward.ofFirst? (limit - rowAt earlier)).toList <+:
        earlier ++ forward :: later ↔
      ¬ (deviceEndAt earlier forward < limit ∧ limit < newlineAt earlier forward) := by
  have hend := newlineAt_eq h earlier
  rw [ofFirst?_sub, List.prefix_append_right_inj]
  by_cases hlow : limit ≤ deviceEndAt earlier forward
  · rw [if_pos hlow]
    exact iff_of_true List.nil_prefix (by omega)
  · rw [if_neg hlow, Option.toList_some, List.cons_prefix_cons]
    constructor
    · rintro ⟨heq, -⟩ ⟨-, hlt⟩
      have hlength := congrArg (fun other => other.deviceEnd.length) heq
      simp only [List.length_take] at hlength
      omega
    · intro hnot
      have hall : forward.deviceEnd.take (limit - deviceEndAt earlier forward) =
          forward.deviceEnd := List.take_of_length_le (by omega)
      rw [hall]
      exact ⟨rfl, List.nil_prefix⟩

/-! ## What is asked of the tool -/

def forwardsQuery (config : Config) : Invocation :=
  invocation config none ["forward", "--list"] true

variable {config : Config}

theorem yields_list_iff {dialogue : List (Exchange interface)} {records : List Record}
    {result : Except Failure (List Forward)} :
    (list config).Yields dialogue records result ↔
      ∃ report : Report, dialogue = [⟨forwardsQuery config, report⟩] ∧
        records = complaints config "adb fwd list" (forwardsQuery config).command report ∧
        result = (verdict config "adb fwd list" (forwardsQuery config).command report).map
          fun output => listing output.text := by
  have hlimit : ["forward", "--list"].length ≤ argumentLimit := by decide
  rw [list, Procedure.onSuccess_done, Procedure.yields_map_iff]
  constructor
  · rintro ⟨output, hyields, rfl⟩
    obtain ⟨report, rfl, rfl, rfl⟩ := (yields_runChecked_iff hlimit).mp hyields
    exact ⟨report, rfl, rfl, rfl⟩
  · rintro ⟨report, rfl, rfl, rfl⟩
    exact ⟨_, (yields_runChecked_iff hlimit).mpr ⟨report, rfl, rfl, rfl⟩, rfl⟩

/-- Some forwards are what comes of asking for the list, where the tool writes some bytes. -/
def ListsFrom (config : Config) (bytes : List UInt8) (entries : List Forward) : Prop :=
  ∃ report records status,
    (list config).Yields [⟨forwardsQuery config, report⟩] records (.ok entries) ∧
    report.outcome = (Execution.ended bytes status).outcome (forwardsQuery config)

/-- Whatever the tool writes, its list can be asked for, and what comes of it is read from
the bytes that are kept. -/
theorem listsFrom_iff {bytes : List UInt8} {entries : List Forward} :
    ListsFrom config bytes entries ↔
      entries = listing (Utf8.decodeLossy (bytes.take config.outputLimit)) := by
  constructor
  · rintro ⟨report, records, status, hyields, houtcome⟩
    obtain ⟨given, hgiven, -, hresult⟩ := yields_list_iff.mp hyields
    cases hgiven
    cases hverdict : verdict config "adb fwd list" (forwardsQuery config).command report with
    | error failure =>
      rw [hverdict] at hresult
      cases hresult
    | ok output =>
      have houtput := (Report.success?_eq_some_iff.mp (verdict_eq_ok_iff.mp hverdict)).1.1
      rw [houtcome] at houtput
      cases houtput
      rw [hverdict] at hresult
      exact Except.ok.inj hresult
  · rintro rfl
    have hprompt := @Report.success?_of_prompt (.success (bytes.take config.outputLimit)) rfl
      config.timeLimit
    refine ⟨⟨.ok (.success (bytes.take config.outputLimit)), ⟨0⟩⟩, _, .exited 0,
      yields_list_iff.mpr ⟨_, rfl, rfl, ?_⟩, rfl⟩
    rw [verdict_eq_ok_iff.mpr hprompt]
    rfl

/-- What a limit on the output does to a list of forwards. Kept whole, the list is read as
the forwards behind it. Cut in a line, it is read as the forwards before that line, and as
one more if the cut reaches the third word of the line: that one has the port of the device
as far as it was kept. So the entries are the first forwards unless the limit cuts the port
of a device. -/
theorem entries_of_cut_list {entries : List Forward} (hactive : ∀ forward ∈ active, forward.IsTcp)
    (h : ListsFrom config (Utf8.encode (printed active)) entries) :
    let limit := config.outputLimit
    (rowAt active ≤ limit → entries = active) ∧
    (∀ earlier forward later, active = earlier ++ forward :: later →
      rowAt earlier ≤ limit → limit ≤ newlineAt earlier forward →
      entries = earlier ++ if limit ≤ deviceEndAt earlier forward then []
        else [{ forward with
          deviceEnd := forward.deviceEnd.take (limit - deviceEndAt earlier forward) }]) ∧
    entries.dropLast <+: active ∧
    (entries <+: active ↔ ¬ CutsDeviceEnd active limit) := by
  intro limit
  have hentries := listsFrom_iff.mp h
  have hwhole (hle : rowAt active ≤ limit) : entries = active :=
    hentries.trans (listing_take_of_le hactive hle)
  have hcut {earlier forward later} (heq : active = earlier ++ forward :: later)
      (hlow : rowAt earlier ≤ limit) (hhigh : limit ≤ newlineAt earlier forward) :
      entries = earlier ++ (forward.ofFirst? (limit - rowAt earlier)).toList := by
    subst heq
    exact hentries.trans (listing_take_printed hactive hlow hhigh)
  have hinitial {earlier forward later} (heq : active = earlier ++ forward :: later)
      (hlow : rowAt earlier ≤ limit) (hhigh : limit ≤ newlineAt earlier forward) :
      entries <+: active ↔
        ¬ (deviceEndAt earlier forward < limit ∧ limit < newlineAt earlier forward) := by
    have hforward : forward ∈ active := by simp [heq]
    rw [hcut heq hlow hhigh, heq]
    exact append_ofFirst?_prefix_iff (hactive forward hforward)
  refine ⟨hwhole, fun earlier forward later heq hlow hhigh => ?_, ?_, ?_, ?_⟩
  · rw [hcut heq hlow hhigh, ofFirst?_sub]
    split <;> rfl
  · by_cases hle : rowAt active ≤ limit
    · rw [hwhole hle]
      exact List.dropLast_prefix active
    · obtain ⟨earlier, forward, later, heq, hlow, hhigh⟩ := exists_line_at (Nat.lt_of_not_le hle)
      have hearlier : earlier <+: active := heq ▸ List.prefix_append earlier _
      rw [hcut heq hlow hhigh]
      cases forward.ofFirst? (limit - rowAt earlier) with
      | none =>
        rw [Option.toList_none, List.append_nil]
        exact (List.dropLast_prefix earlier).trans hearlier
      | some other =>
        rw [Option.toList_some, List.dropLast_concat]
        exact hearlier
  · rintro hentries ⟨earlier, forward, later, heq, hlow, hhigh⟩
    have hrow : rowAt earlier ≤ limit := by
      rw [deviceEndAt] at hlow
      omega
    exact (hinitial heq hrow (Nat.le_of_lt hhigh)).mp hentries ⟨hlow, hhigh⟩
  · intro hnot
    by_cases hle : rowAt active ≤ limit
    · exact hwhole hle ▸ List.prefix_rfl
    · obtain ⟨earlier, forward, later, heq, hlow, hhigh⟩ := exists_line_at (Nat.lt_of_not_le hle)
      exact (hinitial heq hlow hhigh).mpr fun hinside => hnot ⟨_, _, _, heq, hinside⟩

/-- A forward whose row has 19 bytes. -/
def shortForward : Forward := ofPorts ['A'] 8100 8100

theorem isTcp_shortForward : shortForward.IsTcp :=
  ⟨['A'], 8100, 8100, isWord_singleton (by decide), rfl⟩

/-- The first 17 bytes of its list end in the port of the device, and a forward to another
port is read. -/
theorem entries_of_shortForward :
    ∃ entries, ListsFrom { Config.standard with outputLimit := 17 }
        (Utf8.encode (printed [shortForward])) entries ∧
      entries = [{ shortForward with deviceEnd := "tcp:81".toList }] ∧
      entries.dropLast <+: [shortForward] ∧ ¬ entries <+: [shortForward] := by
  have hactive : ∀ forward ∈ [shortForward], forward.IsTcp := fun forward hmem =>
    List.mem_singleton.mp hmem ▸ isTcp_shortForward
  have hlists := (@listsFrom_iff { Config.standard with outputLimit := 17 }
    (Utf8.encode (printed [shortForward])) _).mpr rfl
  obtain ⟨-, hcut, hdropLast, hinitial⟩ := entries_of_cut_list hactive hlists
  refine ⟨_, hlists, ?_, hdropLast, ?_⟩
  · exact (hcut [] shortForward [] rfl (by decide) (by decide)).trans (by decide)
  · rw [hinitial, not_not]
    exact ⟨[], shortForward, [], rfl, by decide, by decide⟩

end Tethered.Adb.Forward
