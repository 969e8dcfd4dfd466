import Tethered.Text.Utf8

/-!
# Reading what was written as UTF-8

Reading in one go is reading byte by byte, so a reading can be cut anywhere and taken
up again. The bytes of a text are read as that text, and bytes that are no text break
nothing but themselves: an ASCII byte is read as its character whatever stands before it.
-/
namespace Tethered.Text.Utf8

/-- The state behind some bytes, and what became complete in them. -/
def advance (state : State) : List UInt8 → State × List (Option Char)
  | [] => (state, [])
  | byte :: rest =>
      let next := step state byte.toNat
      let later := advance next.1 rest
      (later.1, next.2 ++ later.2)

theorem scanFrom_eq (state : State) (read : List (Option Char)) (bytes : List UInt8) :
    scanFrom state read bytes =
      read.reverse ++ ((advance state bytes).2 ++ finish (advance state bytes).1) := by
  induction bytes generalizing state read with
  | nil =>
    cases state with
    | between => simp [scanFrom, advance, finish]
    | inside => simp [scanFrom, advance, finish]
  | cons byte rest ih => simp [scanFrom, advance, ih]

theorem scan_eq (bytes : List UInt8) :
    scan bytes = (advance .between bytes).2 ++ finish (advance .between bytes).1 :=
  scanFrom_eq .between [] bytes

theorem advance_append (state : State) (before after : List UInt8) :
    advance state (before ++ after) =
      ((advance (advance state before).1 after).1,
        (advance state before).2 ++ (advance (advance state before).1 after).2) := by
  induction before generalizing state with
  | nil => rfl
  | cons byte rest ih => simp [advance, ih]

/-! ## One character -/

theorem toNat_ofNat_byte {n : Nat} (h : n < 256) : (UInt8.ofNat n).toNat = n := by
  rw [UInt8.toNat_ofNat']
  omega

section
variable {left low high value n : Nat} {rest : List UInt8}

/-- A byte that continues a character adds six bits to its number. -/
theorem step_inside (hlow : low ≤ n % 64 + 128) (hhigh : n % 64 + 128 ≤ high) :
    step (.inside left low high value) (UInt8.ofNat (n % 64 + 128)).toNat =
      if left ≤ 1 then (.between, [some (Char.ofNat (value * 64 + n % 64))])
      else (.inside (left - 1) 0x80 0xBF (value * 64 + n % 64), []) := by
  have hbits : (n % 64 + 128) % 64 = n % 64 := by omega
  rw [toNat_ofNat_byte (by omega), step, if_pos ⟨hlow, hhigh⟩, hbits]

theorem advance_continued (hleft : 1 < left) (hlow : low ≤ n % 64 + 128)
    (hhigh : n % 64 + 128 ≤ high) :
    advance (.inside left low high value) (UInt8.ofNat (n % 64 + 128) :: rest) =
      advance (.inside (left - 1) 0x80 0xBF (value * 64 + n % 64)) rest := by
  rw [advance, step_inside hlow hhigh, if_neg (Nat.not_le.mpr hleft)]
  rfl

theorem advance_completed (hlow : low ≤ n % 64 + 128) (hhigh : n % 64 + 128 ≤ high) :
    advance (.inside 1 low high value) [UInt8.ofNat (n % 64 + 128)] =
      (.between, [some (Char.ofNat (value * 64 + n % 64))]) := by
  rw [advance, step_inside hlow hhigh]
  rfl

end

theorem start_of_two {n : Nat} (hlow : 0x7F < n) (hhigh : n ≤ 0x7FF) :
    start (n / 64 % 32 + 192) = (.inside 1 0x80 0xBF (n / 64), []) := by
  unfold start
  rw [if_neg (by omega), if_neg (by omega), if_pos (by omega)]
  have hvalue : n / 64 % 32 + 192 - 0xC0 = n / 64 := by omega
  rw [hvalue]

/-- The bounds that the first of three bytes sets to the second admit every number
that takes three bytes and is no surrogate. -/
theorem start_of_three {n : Nat} (hlow : 0x7FF < n) (hhigh : n ≤ 0xFFFF)
    (hvalid : n < 0xD800 ∨ 0xDFFF < n) :
    ∃ low high, start (n / 4096 % 16 + 224) = (.inside 2 low high (n / 4096), []) ∧
      low ≤ n / 64 % 64 + 128 ∧ n / 64 % 64 + 128 ≤ high := by
  have hlead : n / 4096 % 16 + 224 = n / 4096 + 224 := by omega
  rw [hlead]
  by_cases hfirst : n / 4096 = 0
  · exact ⟨0xA0, 0xBF, by rw [hfirst]; rfl, by omega, by omega⟩
  by_cases hsurrogate : n / 4096 = 13
  · exact ⟨0x80, 0x9F, by rw [hsurrogate]; rfl, by omega, by omega⟩
  refine ⟨0x80, 0xBF, ?_, by omega, by omega⟩
  unfold start
  rw [if_neg (by omega), if_neg (by omega), if_neg (by omega), if_neg (by omega),
    if_neg (by omega), if_pos (by omega), Nat.add_sub_cancel]

theorem start_of_four {n : Nat} (hlow : 0xFFFF < n) (hhigh : n < 0x110000) :
    ∃ low high, start (n / 262144 % 8 + 240) = (.inside 3 low high (n / 262144), []) ∧
      low ≤ n / 4096 % 64 + 128 ∧ n / 4096 % 64 + 128 ≤ high := by
  have hlead : n / 262144 % 8 + 240 = n / 262144 + 240 := by omega
  rw [hlead]
  by_cases hfirst : n / 262144 = 0
  · exact ⟨0x90, 0xBF, by rw [hfirst]; rfl, by omega, by omega⟩
  by_cases hlast : n / 262144 = 4
  · exact ⟨0x80, 0x8F, by rw [hlast]; rfl, by omega, by omega⟩
  refine ⟨0x80, 0xBF, ?_, by omega, by omega⟩
  unfold start
  rw [if_neg (by omega), if_neg (by omega), if_neg (by omega), if_neg (by omega),
    if_neg (by omega), if_neg (by omega), if_neg (by omega), if_pos (by omega),
    Nat.add_sub_cancel]

theorem advance_start {n : Nat} {state : State} {rest : List UInt8} (hbyte : n < 256)
    (hstart : start n = (state, [])) :
    advance .between (UInt8.ofNat n :: rest) = advance state rest := by
  rw [advance, toNat_ofNat_byte hbyte, step, hstart]
  rfl

theorem advance_encodeChar (c : Char) :
    advance .between (String.utf8EncodeChar c) = (.between, [some c]) := by
  have hvalid : c.toNat < 0xD800 ∨ 0xDFFF < c.toNat ∧ c.toNat < 0x110000 := c.valid
  have hlast {n : Nat} (h : n = c.toNat) : Char.ofNat n = c := h ▸ Char.ofNat_toNat c
  have hencode := String.utf8EncodeChar.eq_1 c
  rw [show c.val.toNat = c.toNat from rfl] at hencode
  rw [hencode]
  by_cases hone : c.toNat ≤ 127
  · have hstart : start c.toNat = (.between, [some (Char.ofNat c.toNat)]) := if_pos (by omega)
    rw [if_pos hone, advance, toNat_ofNat_byte (by omega), step, hstart, hlast rfl]
    rfl
  by_cases htwo : c.toNat ≤ 2047
  · rw [if_neg hone, if_pos htwo,
      advance_start (by omega) (start_of_two (Nat.lt_of_not_le hone) htwo),
      advance_completed (by omega) (by omega), hlast (by omega)]
  by_cases hthree : c.toNat ≤ 65535
  · obtain ⟨low, high, hstart, hlow, hhigh⟩ :=
      start_of_three (Nat.lt_of_not_le htwo) hthree (by omega)
    rw [if_neg hone, if_neg htwo, if_pos hthree, advance_start (by omega) hstart,
      advance_continued (by omega) hlow hhigh, advance_completed (by omega) (by omega),
      hlast (by omega)]
  · obtain ⟨low, high, hstart, hlow, hhigh⟩ :=
      start_of_four (Nat.lt_of_not_le hthree) (by omega)
    rw [if_neg hone, if_neg htwo, if_neg hthree, advance_start (by omega) hstart,
      advance_continued (by omega) hlow hhigh, advance_continued (by omega) (by omega) (by omega),
      advance_completed (by omega) (by omega), hlast (by omega)]

/-- Only an ASCII character has an ASCII byte, and then it is the character's number. -/
theorem toNat_eq_of_mem_encodeChar {c : Char} {byte : UInt8} (h : byte ∈ String.utf8EncodeChar c)
    (hbyte : byte.toNat < 0x80) : c.toNat = byte.toNat := by
  have hhigh {n : Nat} (hlow : 0x80 ≤ n) (hlt : n < 256) (heq : byte = UInt8.ofNat n) : False := by
    rw [heq, toNat_ofNat_byte hlt] at hbyte
    omega
  have hvalid : c.toNat < 0xD800 ∨ 0xDFFF < c.toNat ∧ c.toNat < 0x110000 := c.valid
  have hencode := String.utf8EncodeChar.eq_1 c
  rw [show c.val.toNat = c.toNat from rfl] at hencode
  rw [hencode] at h
  split at h
  · rw [List.mem_singleton.mp h, toNat_ofNat_byte (by omega)]
  split at h
  · simp only [List.mem_cons, List.not_mem_nil, or_false] at h
    rcases h with h | h <;> exact (hhigh (by omega) (by omega) h).elim
  split at h
  · simp only [List.mem_cons, List.not_mem_nil, or_false] at h
    rcases h with h | h | h <;> exact (hhigh (by omega) (by omega) h).elim
  · simp only [List.mem_cons, List.not_mem_nil, or_false] at h
    rcases h with h | h | h | h <;> exact (hhigh (by omega) (by omega) h).elim

/-! ## Texts -/

@[simp] theorem encode_nil : encode [] = [] := rfl

theorem encode_cons (c : Char) (text : List Char) :
    encode (c :: text) = String.utf8EncodeChar c ++ encode text := List.flatMap_cons

@[simp] theorem encode_append (s t : List Char) : encode (s ++ t) = encode s ++ encode t :=
  List.flatMap_append

theorem mem_of_mem_encode {text : List Char} {byte : UInt8} (h : byte ∈ encode text)
    (hbyte : byte.toNat < 0x80) : Char.ofNat byte.toNat ∈ text := by
  obtain ⟨c, hmem, hc⟩ := List.mem_flatMap.mp h
  rw [← toNat_eq_of_mem_encodeChar hc hbyte, Char.ofNat_toNat]
  exact hmem

theorem encode_ne_nil {text : List Char} (h : text ≠ []) : encode text ≠ [] := by
  cases text with
  | nil => exact absurd rfl h
  | cons c text =>
    rw [encode_cons]
    exact List.append_ne_nil_of_left_ne_nil String.utf8EncodeChar_ne_nil _

theorem advance_encode (text : List Char) :
    advance .between (encode text) = (.between, text.map some) := by
  induction text with
  | nil => rfl
  | cons c text ih =>
    rw [encode_cons, advance_append, advance_encodeChar, ih]
    rfl

theorem decode?_encode (text : List Char) : decode? (encode text) = some text := by
  rw [decode?, scan_eq, advance_encode, finish, List.append_nil]
  induction text with
  | nil => rfl
  | cons c text ih => simp [List.mapM_cons, ih]

/-- A text in front of some bytes is read as that text, and the bytes as they would be alone. -/
theorem decodeLossy_encode_append (text : List Char) (bytes : List UInt8) :
    decodeLossy (encode text ++ bytes) = text ++ decodeLossy bytes := by
  have hread : scan (encode text ++ bytes) = text.map some ++ scan bytes := by
    rw [scan_eq, advance_append, advance_encode, scan_eq, List.append_assoc]
  rw [decodeLossy, hread, List.map_append, List.map_map, ← decodeLossy]
  exact congrArg (· ++ _) (List.map_id text)

theorem decodeLossy_encode (text : List Char) : decodeLossy (encode text) = text := by
  have hread := decodeLossy_encode_append text []
  rwa [List.append_nil, show decodeLossy [] = [] from rfl, List.append_nil] at hread

/-! ## ASCII bytes among others -/

/-- Inside a character no ASCII byte is awaited, and the number under way is too great for an
ASCII character. -/
def State.Wide : State → Prop
  | .between => True
  | .inside left low high value =>
      0x80 ≤ low ∧ high ≤ 0xBF ∧ 2 ≤ value * 64 + low % 64 ∧
        (left ≤ 1 → 0x80 ≤ value * 64 + low % 64)

theorem wide_start (byte : Nat) : (start byte).1.Wide := by
  unfold start
  repeat' split
  all_goals simp only [State.Wide]
  all_goals omega

theorem State.Wide.step {state : State} (h : state.Wide) (byte : Nat) :
    (step state byte).1.Wide := by
  cases state with
  | between => exact wide_start byte
  | inside left low high value =>
    obtain ⟨hlow, hhigh, htwo, -⟩ := h
    simp only [Utf8.step]
    split
    · split
      · exact trivial
      · simp only [State.Wide]
        omega
    · exact wide_start byte

theorem State.Wide.advance {state : State} (h : state.Wide) (bytes : List UInt8) :
    (advance state bytes).1.Wide := by
  induction bytes generalizing state with
  | nil => exact h
  | cons byte rest ih => exact ih (h.step byte.toNat)

/-- An ASCII byte is a character whatever comes before it: it breaks off what is under way. -/
theorem State.Wide.step_ascii {state : State} (h : state.Wide) {byte : Nat} (hbyte : byte < 0x80) :
    Utf8.step state byte = (.between, finish state ++ [some (Char.ofNat byte)]) := by
  have hstart : start byte = (.between, [some (Char.ofNat byte)]) := if_pos hbyte
  cases state with
  | between => exact hstart
  | inside left low high value =>
    have hlow : ¬ (low ≤ byte ∧ byte ≤ high) := by
      have := h.1
      omega
    rw [Utf8.step, if_neg hlow, hstart]
    rfl

/-- What stands before an ASCII byte and what stands behind it are read apart. -/
theorem decodeLossy_append_ascii {byte : UInt8} (h : byte.toNat < 0x80)
    (before after : List UInt8) :
    decodeLossy (before ++ byte :: after) =
      decodeLossy before ++ Char.ofNat byte.toNat :: decodeLossy after := by
  have hwide := (show State.between.Wide from trivial).advance before
  have hread : scan (before ++ byte :: after) =
      scan before ++ some (Char.ofNat byte.toNat) :: scan after := by
    rw [scan_eq, advance_append, advance, hwide.step_ascii h, scan_eq before, scan_eq after]
    simp only [List.append_assoc, List.cons_append, List.nil_append]
  simp only [decodeLossy, hread, List.map_append, List.map_cons, Option.getD_some]

theorem toNat_ofNat_of_valid {n : Nat} (h : n.isValidChar) : (Char.ofNat n).toNat = n := by
  have hofNat : Char.ofNat n = Char.ofNatAux n h := dif_pos h
  exact congrArg Char.toNat hofNat

theorem toNat_of_ofNat {n : Nat} (h : 0 < (Char.ofNat n).toNat) : (Char.ofNat n).toNat = n := by
  by_cases hvalid : n.isValidChar
  · exact toNat_ofNat_of_valid hvalid
  · have hzero : (Char.ofNat n).toNat = 0 := congrArg Char.toNat (dif_neg hvalid)
    omega

variable {c : Char}

theorem toNat_eq_of_mem_start {byte : Nat} (h : some c ∈ (start byte).2) (hpos : 0 < c.toNat) :
    c.toNat = byte := by
  unfold start at h
  split at h
  · cases List.mem_singleton.mp h
    exact toNat_of_ofNat hpos
  · repeat' split at h
    all_goals simp at h

/-- An ASCII character becomes complete in its own byte only. -/
theorem State.Wide.toNat_eq {state : State} (h : state.Wide) {byte : Nat}
    (hmem : some c ∈ (Utf8.step state byte).2) (hpos : 0 < c.toNat) (hascii : c.toNat < 0x80) :
    c.toNat = byte := by
  cases state with
  | between => exact toNat_eq_of_mem_start hmem hpos
  | inside left low high value =>
    obtain ⟨hlow, hhigh, -, hlast⟩ := h
    simp only [Utf8.step] at hmem
    split at hmem
    · split at hmem
      · cases List.mem_singleton.mp hmem
        rw [toNat_of_ofNat hpos] at hascii
        omega
      · cases hmem
    · rcases List.mem_cons.mp hmem with hbroken | hmem
      · cases hbroken
      · exact toNat_eq_of_mem_start hmem hpos

theorem State.Wide.exists_byte {state : State} (h : state.Wide) {bytes : List UInt8}
    (hmem : some c ∈ (Utf8.advance state bytes).2) (hpos : 0 < c.toNat) (hascii : c.toNat < 0x80) :
    ∃ byte ∈ bytes, byte.toNat = c.toNat := by
  induction bytes generalizing state with
  | nil => cases hmem
  | cons byte rest ih =>
    rcases List.mem_append.mp hmem with hnow | hlater
    · exact ⟨byte, List.mem_cons_self, (h.toNat_eq hnow hpos hascii).symm⟩
    · obtain ⟨other, hother, heq⟩ := ih (h.step byte.toNat) hlater
      exact ⟨other, List.mem_cons_of_mem _ hother, heq⟩

/-- No ASCII character is read where its byte is not. -/
theorem exists_byte_of_mem_decodeLossy {bytes : List UInt8} (h : c ∈ decodeLossy bytes)
    (hpos : 0 < c.toNat) (hascii : c.toNat < 0x80) : ∃ byte ∈ bytes, byte.toNat = c.toNat := by
  obtain ⟨read, hmem, rfl⟩ := List.mem_map.mp h
  cases read with
  | none => exact absurd hascii (by decide)
  | some c =>
    rw [scan_eq] at hmem
    rcases List.mem_append.mp hmem with hread | hend
    · exact (show State.between.Wide from trivial).exists_byte hread hpos hascii
    · cases hstate : (advance .between bytes).1 with
      | between => rw [hstate] at hend; cases hend
      | inside => rw [hstate] at hend; simp [finish] at hend

/-! ## Bytes that are cut -/

theorem encodeChar_of_ascii {c : Char} (h : c.toNat < 0x80) :
    String.utf8EncodeChar c = [UInt8.ofNat c.toNat] := by
  rw [String.utf8EncodeChar.eq_1, show c.val.toNat = c.toNat from rfl, if_pos (by omega)]

/-- An ASCII text has a byte for each character. -/
theorem encode_of_ascii {text : List Char} (h : ∀ c ∈ text, c.toNat < 0x80) :
    encode text = text.map fun c => UInt8.ofNat c.toNat := by
  induction text with
  | nil => rfl
  | cons c text ih =>
    obtain ⟨hc, htext⟩ := List.forall_mem_cons.mp h
    rw [encode_cons, encodeChar_of_ascii hc, ih htext]
    rfl

/-- An ASCII text can be cut behind any of its bytes. -/
theorem take_encode_of_ascii {text : List Char} (h : ∀ c ∈ text, c.toNat < 0x80) (count : Nat) :
    (encode text).take count = encode (text.take count) := by
  rw [encode_of_ascii h, encode_of_ascii fun c hmem => h c (List.mem_of_mem_take hmem),
    List.map_take]

/-- What is read of the first bytes is read of all of them, but for one broken stretch
where a character is cut. -/
theorem exists_decodeLossy_take (bytes : List UInt8) (count : Nat) :
    ∃ common ending, decodeLossy (bytes.take count) = common ++ ending ∧
      common <+: decodeLossy bytes ∧ (ending = [] ∨ ending = ['\uFFFD']) := by
  obtain ⟨state, hstate⟩ : ∃ state, state = (advance .between (bytes.take count)).1 := ⟨_, rfl⟩
  have hwhole : scan bytes = (advance .between (bytes.take count)).2 ++
      ((advance state (bytes.drop count)).2 ++ finish (advance state (bytes.drop count)).1) := by
    have hadvance := advance_append .between (bytes.take count) (bytes.drop count)
    rw [List.take_append_drop, ← hstate] at hadvance
    rw [scan_eq, hadvance, List.append_assoc]
  refine ⟨(advance .between (bytes.take count)).2.map (·.getD '\uFFFD'),
    (finish state).map (·.getD '\uFFFD'), ?_, ?_, ?_⟩
  · rw [decodeLossy, scan_eq, List.map_append, hstate]
  · rw [decodeLossy, hwhole, List.map_append]
    exact List.prefix_append _ _
  · cases state with
    | between => exact .inl rfl
    | inside => exact .inr rfl

end Tethered.Text.Utf8
