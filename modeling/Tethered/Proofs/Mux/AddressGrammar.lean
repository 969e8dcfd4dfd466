import Tethered.Mux.Roster
import Tethered.Proofs.Dialogue
import Tethered.Proofs.Text.Decoding

/-!
# The texts that are addresses

A text is the address of a socket behind its mark, and else a host, a colon and a port;
the last colon counts, so the host may have some of its own. A port has any number of
digits as long as its value fits 16 bits. No text is two addresses, and an address shows
the text that it was read from. A roster goes without a client exactly where the
environment gives a text that is no address; bytes that are no text count as none.
-/
namespace Tethered

namespace Number

variable {digits : List Char} {n : Nat}

theorem ofDecimal?_eq_some_iff : ofDecimal? digits = some n ↔
    digits ≠ [] ∧ (∀ c ∈ digits, c.isDigit = true) ∧ Nat.ofDigitChars 10 digits 0 = n := by
  unfold ofDecimal?
  split
  · next hrefused =>
    refine iff_of_false (fun h => nomatch h) ?_
    rintro ⟨hne, hdigits, -⟩
    simp [hne, List.all_eq_true.mpr hdigits] at hrefused
  · next hread =>
    simp only [Bool.or_eq_true, List.isEmpty_iff, Bool.not_eq_true', not_or,
      Bool.not_eq_false, List.all_eq_true] at hread
    obtain ⟨hne, hdigits⟩ := hread
    rw [Option.some_inj]
    exact ⟨fun hvalue => ⟨hne, hdigits, hvalue⟩, fun h => h.2.2⟩

end Number

namespace Mux.Address

open Text

variable {text : String} {address : Address}

/-! ## Ports -/

/-- Digits of a number that is a port. -/
structure IsPortNumeral (digits : List Char) : Prop where
  ne_nil : digits ≠ []
  digit : ∀ c ∈ digits, c.isDigit = true
  value_le : Nat.ofDigitChars 10 digits 0 ≤ 65535

/-- A port is written in digits, with a plus sign before them or without. -/
inductive SpellsPort : List Char → Prop
  | plain {digits : List Char} (h : IsPortNumeral digits) : SpellsPort digits
  | signed {digits : List Char} (h : IsPortNumeral digits) : SpellsPort ('+' :: digits)

theorem any_ofDecimal?_iff {digits : List Char} :
    (Number.ofDecimal? digits).any (· < 0x10000) = true ↔ IsPortNumeral digits := by
  rw [Option.any_eq_true]
  constructor
  · rintro ⟨n, hread, hn⟩
    obtain ⟨hne, hdigits, rfl⟩ := Number.ofDecimal?_eq_some_iff.mp hread
    exact ⟨hne, hdigits, Nat.le_of_lt_succ (of_decide_eq_true hn)⟩
  · rintro ⟨hne, hdigits, hle⟩
    exact ⟨_, Number.ofDecimal?_eq_some_iff.mpr ⟨hne, hdigits, rfl⟩,
      decide_eq_true (Nat.lt_succ_of_le hle)⟩

theorem isPort_iff {port : List Char} : isPort port = true ↔ SpellsPort port := by
  unfold isPort Number.ofUnsigned?
  split
  · next digits =>
    rw [any_ofDecimal?_iff]
    refine ⟨.signed, fun h => ?_⟩
    cases h with
    | plain h => exact absurd (h.digit '+' List.mem_cons_self) (by decide)
    | signed h => exact h
  · next hunsigned =>
    rw [any_ofDecimal?_iff]
    refine ⟨.plain, fun h => ?_⟩
    cases h with
    | plain h => exact h
    | signed h => exact absurd rfl (hunsigned _)

/-! ## Hosts and ports -/

theorem ne_colon_of_mem_reverse {part : List Char} (h : ':' ∉ part) :
    ∀ c ∈ part.reverse, (c != ':') = true := by
  intro c hmem
  rw [bne_iff_ne]
  rintro rfl
  exact h (List.mem_reverse.mp hmem)

theorem isHostAndPort_of_not_mem {text : List Char} (h : ':' ∉ text) :
    isHostAndPort text = false := by
  have hnone : text.reverse.dropWhile (· != ':') = [] := by
    rw [← List.append_nil text.reverse, List.dropWhile_append_of_pos (ne_colon_of_mem_reverse h)]
    rfl
  simp only [isHostAndPort, hnone]

theorem isHostAndPort_append {host port : List Char} (hport : ':' ∉ port) :
    isHostAndPort (host ++ ':' :: port) = (!host.isEmpty && isPort port) := by
  have hclean := ne_colon_of_mem_reverse hport
  have hreverse : (host ++ ':' :: port).reverse = port.reverse ++ ':' :: host.reverse := by simp
  simp only [isHostAndPort, hreverse, List.takeWhile_append_of_pos hclean,
    List.dropWhile_append_of_pos hclean]
  simp

/-- A text is parted at the last of its colons. -/
theorem exists_last_colon {text : List Char} (h : ':' ∈ text) :
    ∃ host port, text = host ++ ':' :: port ∧ ':' ∉ port := by
  obtain ⟨port, host, hreverse, hport⟩ := List.eq_append_cons_of_mem (List.mem_reverse.mpr h)
  refine ⟨host.reverse, port.reverse, ?_, fun hmem => hport (List.mem_reverse.mp hmem)⟩
  simpa using congrArg List.reverse hreverse

theorem isHostAndPort_iff {text : List Char} : isHostAndPort text = true ↔
    ∃ host port, text = host ++ ':' :: port ∧ ':' ∉ port ∧ host ≠ [] ∧ SpellsPort port := by
  constructor
  · intro h
    have hcolon : ':' ∈ text := Classical.byContradiction fun hnone => by
      cases h.symm.trans (isHostAndPort_of_not_mem hnone)
    obtain ⟨host, port, rfl, hport⟩ := exists_last_colon hcolon
    rw [isHostAndPort_append hport, Bool.and_eq_true, isPort_iff] at h
    exact ⟨host, port, rfl, hport, by simpa using h.1, h.2⟩
  · rintro ⟨host, port, rfl, hport, hhost, hspells⟩
    rw [isHostAndPort_append hport, isPort_iff.mpr hspells]
    simpa using hhost

/-! ## Addresses -/

/-- The address that a text writes. The mark of a socket comes first: behind it even a host
and a port are a path. -/
inductive Writes : String → Address → Prop
  | socket {path : String} (h : path ≠ "") : Writes ("UNIX:" ++ path) (.socket path)
  | hostAndPort {text : String} {host port : List Char}
      (hunmarked : ∀ path, text ≠ "UNIX:" ++ path) (hsplit : text.toList = host ++ ':' :: port)
      (hlast : ':' ∉ port) (hhost : host ≠ []) (hport : SpellsPort port) :
      Writes text (.hostAndPort text)

theorem ofText_append_mark (path : String) :
    ofText ("UNIX:" ++ path) =
      if path = "" then .error (.invalidAddress ("UNIX:" ++ path)) else .ok (.socket path) := by
  have hmark : ("UNIX:" ++ path).toList = socketMark ++ path.toList := String.toList_append
  have hprefix : socketMark.isPrefixOf (socketMark ++ path.toList) = true :=
    List.isPrefixOf_iff_prefix.mpr (List.prefix_append _ _)
  rw [ofText, hmark, if_pos hprefix, List.drop_left]
  simp only [List.isEmpty_iff, String.toList_eq_nil_iff, String.ofList_toList]

theorem ofText_of_unmarked (h : ∀ path, text ≠ "UNIX:" ++ path) :
    ofText text =
      if isHostAndPort text.toList then .ok (.hostAndPort text)
      else .error (.invalidAddress text) := by
  have hprefix : ¬ socketMark.isPrefixOf text.toList = true := by
    rw [List.isPrefixOf_iff_prefix]
    rintro ⟨path, hpath⟩
    apply h (String.ofList path)
    rw [← String.toList_inj, String.toList_append, @String.toList_ofList path]
    exact hpath.symm
  rw [ofText, if_neg hprefix]

/-- A text is read as an address exactly where it writes it. -/
theorem ofText_eq_ok_iff : ofText text = .ok address ↔ Writes text address := by
  by_cases hmarked : ∃ path, text = "UNIX:" ++ path
  · obtain ⟨path, rfl⟩ := hmarked
    rw [ofText_append_mark]
    constructor
    · intro h
      split at h
      · cases h
      · next hpath =>
        cases h
        exact .socket hpath
    · intro h
      generalize htext : "UNIX:" ++ path = text at h ⊢
      cases h with
      | @socket other hother =>
        obtain rfl : path = other := (String.append_right_inj _).mp htext
        rw [if_neg hother]
      | hostAndPort hunmarked => exact absurd htext.symm (hunmarked path)
  · have hunmarked : ∀ path, text ≠ "UNIX:" ++ path := fun path heq => hmarked ⟨path, heq⟩
    rw [ofText_of_unmarked hunmarked]
    constructor
    · intro h
      split at h
      · next hread =>
        cases h
        obtain ⟨host, port, hsplit, hlast, hhost, hport⟩ := isHostAndPort_iff.mp hread
        exact .hostAndPort hunmarked hsplit hlast hhost hport
      · cases h
    · intro h
      cases h with
      | socket hpath => exact absurd rfl (hunmarked _)
      | hostAndPort _ hsplit hlast hhost hport =>
        rw [if_pos (isHostAndPort_iff.mpr ⟨_, _, hsplit, hlast, hhost, hport⟩)]

theorem failure_of_ofText {failure : Failure} (h : ofText text = .error failure) :
    failure = .invalidAddress text := by
  unfold ofText at h
  split at h
  · dsimp only at h
    split at h
    · exact (Except.error.inj h).symm
    · cases h
  · split at h
    · cases h
    · exact (Except.error.inj h).symm

/-- A text that is no address is refused under its own name, whatever is wrong with it. -/
theorem ofText_eq_error_iff {failure : Failure} : ofText text = .error failure ↔
    failure = .invalidAddress text ∧ ∀ address, ¬ Writes text address := by
  constructor
  · intro h
    refine ⟨failure_of_ofText h, fun address hwrites => ?_⟩
    cases h.symm.trans (ofText_eq_ok_iff.mpr hwrites)
  · rintro ⟨rfl, hnone⟩
    cases hread : ofText text with
    | ok address => exact absurd (ofText_eq_ok_iff.mp hread) (hnone address)
    | error failure => rw [failure_of_ofText hread]

theorem Writes.text_eq (h : Writes text address) : address.text = text := by
  cases h with
  | socket hpath =>
    rw [← String.toList_inj, Address.text, String.toList_ofList, String.toList_append,
      socketMark]
  | hostAndPort => rfl

/-! ## Addresses of the environment -/

/-- A value of the environment is a text, not the empty one, that is no address. -/
def Misnames (value : Option (List UInt8)) (text : String) : Prop :=
  value = some (Utf8.encode text.toList) ∧ text ≠ "" ∧ ∀ address, ¬ Writes text address

variable {value : Option (List UInt8)}

theorem Misnames.text_unique {other : String} (h : Misnames value text)
    (hother : Misnames value other) : text = other := by
  have hencode := Option.some.inj (h.1.symm.trans hother.1)
  have hdecode := congrArg Utf8.decode? hencode
  rw [Utf8.decode?_encode, Utf8.decode?_encode] at hdecode
  exact String.toList_inj.mp (Option.some.inj hdecode)

theorem settings_of_text (hne : text ≠ "") :
    Settings.ofEnvironment (some (Utf8.encode text.toList)) =
      (ofText text).map fun address => { Settings.standard with address := some address } := by
  obtain ⟨c, rest, htext⟩ := List.exists_cons_of_ne_nil (mt String.toList_eq_nil_iff.mp hne)
  rw [Settings.ofEnvironment, Option.bind_some, Utf8.decode?_encode, htext]
  dsimp only
  rw [← htext, String.ofList_toList]

/-- A value that is no text, or the empty one, leaves the standard settings. -/
theorem settings_of_no_text
    (h : ∀ text : String, value = some (Utf8.encode text.toList) → text = "") :
    Settings.ofEnvironment value = .ok Settings.standard := by
  have hread : value.bind Utf8.decode? = none ∨ value.bind Utf8.decode? = some [] := by
    cases hdecoded : value.bind Utf8.decode? with
    | none => exact .inl rfl
    | some read =>
      obtain ⟨bytes, rfl, hbytes⟩ := Option.bind_eq_some_iff.mp hdecoded
      have hvalue : bytes = Utf8.encode (String.ofList read).toList := by
        rw [String.toList_ofList]
        exact Utf8.decode?_eq_some_iff.mp hbytes
      have hempty := h (String.ofList read) (congrArg some hvalue)
      rw [← String.toList_eq_nil_iff, String.toList_ofList] at hempty
      exact .inr (congrArg some hempty)
  unfold Settings.ofEnvironment
  rcases hread with hnone | hempty
  · rw [hnone]
  · rw [hempty]

theorem client_of_misnamed (h : Misnames value text) :
    Client.ofEnvironment value = .error (.invalidAddress text) := by
  obtain ⟨rfl, hne, hnone⟩ := h
  rw [Client.ofEnvironment, settings_of_text hne, ofText_eq_error_iff.mpr ⟨rfl, hnone⟩]
  rfl

/-- Only a text that is no address keeps a client from being made. -/
theorem exists_client (h : ∀ text, ¬ Misnames value text) :
    ∃ client, Client.ofEnvironment value = .ok client := by
  by_cases htext : ∃ text : String, value = some (Utf8.encode text.toList) ∧ text ≠ ""
  · obtain ⟨text, rfl, hne⟩ := htext
    obtain ⟨address, hwrites⟩ : ∃ address, Writes text address :=
      Classical.not_forall_not.mp fun hnone => h text ⟨rfl, hne, hnone⟩
    rw [Client.ofEnvironment, settings_of_text hne, ofText_eq_ok_iff.mpr hwrites]
    exact ⟨_, rfl⟩
  · have hempty : ∀ text : String, value = some (Utf8.encode text.toList) → text = "" :=
      fun text hvalue => Classical.byContradiction fun hne => htext ⟨text, hvalue, hne⟩
    rw [Client.ofEnvironment, settings_of_no_text hempty]
    exact ⟨_, rfl⟩

/-! ## Rosters -/

section
variable {I : Interface} {dialogue : List (Exchange I)} {records : List Record}
  {result : Roster × Option Client}

theorem yields_of_misnamed (h : Misnames value text) :
    (Roster.ofEnvironment value : Procedure I (Roster × Option Client)).Yields
        dialogue records result ↔
      dialogue = [] ∧
        records = [⟨.warn, "usbmuxd not available: invalid usbmuxd address: " ++ text⟩] ∧
        result = (Roster.unavailable, none) := by
  have hmessage : "usbmuxd not available: " ++ (Failure.invalidAddress text).message =
      "usbmuxd not available: invalid usbmuxd address: " ++ text := by
    rw [show "usbmuxd not available: invalid usbmuxd address: " =
      "usbmuxd not available: " ++ "invalid usbmuxd address: " from rfl, String.append_assoc]
    rfl
  rw [Roster.ofEnvironment, client_of_misnamed h]
  dsimp only
  rw [hmessage, Procedure.yields_record_iff]
  constructor
  · rintro ⟨later, rfl, hdone⟩
    obtain ⟨rfl, rfl, rfl⟩ := Procedure.yields_done_iff.mp hdone
    exact ⟨rfl, rfl, rfl⟩
  · rintro ⟨rfl, rfl, rfl⟩
    exact ⟨[], rfl, .done _⟩

theorem yields_of_client {client : Client} (h : Client.ofEnvironment value = .ok client) :
    (Roster.ofEnvironment value : Procedure I (Roster × Option Client)).Yields
        dialogue records result ↔
      dialogue = [] ∧ records = [] ∧ result = (Roster.overClient, some client) := by
  rw [Roster.ofEnvironment, h]
  exact Procedure.yields_done_iff

end

/-- Texts are read as the addresses that they write and are shown as the same texts. A
roster is opened in one way: without a client, and with one warning, exactly where the
environment gives a text that is no address. -/
theorem ofText_grammar :
    (∀ text address, ofText text = .ok address ↔ Writes text address) ∧
    (∀ text failure, ofText text = .error failure ↔
      failure = .invalidAddress text ∧ ∀ address, ¬ Writes text address) ∧
    (∀ text address, ofText text = .ok address →
      address.text = text ∧ ofText address.text = .ok address) ∧
    (∀ text other address, ofText text = .ok address → ofText other = .ok address →
      text = other) ∧
    ∀ (I : Interface) (value : Option (List UInt8)), ∃ records roster client,
      (∀ dialogue left result,
        (Roster.ofEnvironment value : Procedure I (Roster × Option Client)).Yields
          dialogue left result ↔ dialogue = [] ∧ left = records ∧ result = (roster, client)) ∧
      (roster.available = false ↔ ∃ text, Misnames value text) ∧
      (roster.available = true →
        roster = Roster.overClient ∧ client.isSome = true ∧ records = []) ∧
      ∀ text, Misnames value text →
        roster = Roster.unavailable ∧ client = none ∧
        records = [⟨.warn, "usbmuxd not available: invalid usbmuxd address: " ++ text⟩] := by
  have htext {text : String} {address : Address} (h : ofText text = .ok address) :
      address.text = text := (ofText_eq_ok_iff.mp h).text_eq
  refine ⟨fun _ _ => ofText_eq_ok_iff, fun _ _ => ofText_eq_error_iff, ?_, ?_, ?_⟩
  · intro text address h
    exact ⟨htext h, (htext h).symm ▸ h⟩
  · intro text other address h hother
    exact (htext h).symm.trans (htext hother)
  · intro I value
    by_cases hmisnamed : ∃ text, Misnames value text
    · obtain ⟨text, h⟩ := hmisnamed
      refine ⟨_, _, _, fun _ _ _ => yields_of_misnamed h, iff_of_true rfl ⟨text, h⟩, ?_, ?_⟩
      · exact fun hover => nomatch hover
      · intro other hother
        obtain rfl := h.text_unique hother
        exact ⟨rfl, rfl, rfl⟩
    · have hnone : ∀ text, ¬ Misnames value text := fun text h => hmisnamed ⟨text, h⟩
      obtain ⟨client, hclient⟩ := exists_client hnone
      refine ⟨_, _, _, fun _ _ _ => yields_of_client hclient, ?_, fun _ => ⟨rfl, rfl, rfl⟩, ?_⟩
      · exact iff_of_false (fun hwithout => nomatch hwithout) hmisnamed
      · exact fun text h => absurd h (hnone text)

/-- A host with colons of its own before a signed port, a path that looks like a host and a
port, and a port that takes 17 bits. -/
theorem grammar_of_severalColons :
    (ofText "[::1]:+0027015" = .ok (.hostAndPort "[::1]:+0027015") ∧
      Writes "[::1]:+0027015" (.hostAndPort "[::1]:+0027015") ∧
      ofText (Address.hostAndPort "[::1]:+0027015").text =
        .ok (.hostAndPort "[::1]:+0027015")) ∧
    (ofText "UNIX:h:1" = .ok (.socket "h:1") ∧ Writes "UNIX:h:1" (.socket "h:1")) ∧
    (ofText "h:65536" = .error (.invalidAddress "h:65536") ∧
      ∀ address, ¬ Writes "h:65536" address) ∧
    Misnames (some (Utf8.encode "h:65536".toList)) "h:65536" ∧
    ∃ records roster client,
      (Roster.ofEnvironment (some (Utf8.encode "h:65536".toList)) :
        Procedure interface (Roster × Option Client)).Yields [] records (roster, client) ∧
      roster = Roster.unavailable ∧ client = none ∧
      records = [⟨.warn, "usbmuxd not available: invalid usbmuxd address: h:65536"⟩] := by
  obtain ⟨hok, herror, hround, -, hopen⟩ := ofText_grammar
  have hhost : ofText "[::1]:+0027015" = .ok (.hostAndPort "[::1]:+0027015") := by rfl
  have hpath : ofText "UNIX:h:1" = .ok (.socket "h:1") := by rfl
  have hrefused : ofText "h:65536" = .error (.invalidAddress "h:65536") := by rfl
  have hnone := ((herror _ _).mp hrefused).2
  have hmisnames : Misnames (some (Utf8.encode "h:65536".toList)) "h:65536" :=
    ⟨rfl, by decide, hnone⟩
  obtain ⟨records, roster, client, hyields, -, -, hwithout⟩ :=
    hopen interface (some (Utf8.encode "h:65536".toList))
  refine ⟨⟨hhost, (hok _ _).mp hhost, (hround _ _ hhost).2⟩, ⟨hpath, (hok _ _).mp hpath⟩,
    ⟨hrefused, hnone⟩, hmisnames, records, roster, client, ?_, hwithout _ hmisnames⟩
  exact (hyields _ _ _).mpr ⟨rfl, rfl, rfl⟩

end Mux.Address

end Tethered
