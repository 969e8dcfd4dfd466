import Tethered.Proofs.Text.Encoding

/-!
# Bytes that are a text

Read strictly, bytes are a text only where nothing in them is broken. A reader inside a
character keeps the bits of its number that have come and bounds on the next byte; these
fix the bytes of the character that have been read. So a character that becomes complete
is written in the bytes it was read from, and bytes that are read as a text are the bytes
of that text: no other form of it is let through.
-/
namespace Tethered.Text.Utf8

/-- The bytes of the character under way, by how many there are and how many are to come. -/
inductive Begun : State → List UInt8 → Prop
  | between : Begun .between []
  | firstOfTwo {value : Nat} {a : UInt8} (ha : a.toNat = value + 0xC0) (hlow : 2 ≤ value)
      (hhigh : value < 0x20) : Begun (.inside 1 0x80 0xBF value) [a]
  | firstOfThree {low high value : Nat} {a : UInt8} (ha : a.toNat = value + 0xE0)
      (hvalue : value < 0x10) (hrange : 0x80 ≤ low ∧ high ≤ 0xBF)
      (hbounds : (value = 0 → 0xA0 ≤ low) ∧ (value = 0xD → high ≤ 0x9F)) :
      Begun (.inside 2 low high value) [a]
  | secondOfThree {value : Nat} {a b : UInt8} (ha : a.toNat = value / 64 + 0xE0)
      (hb : b.toNat = value % 64 + 0x80) (hlow : 0x20 ≤ value) (hhigh : value < 0x400)
      (hsurrogate : value < 0x360 ∨ 0x380 ≤ value) : Begun (.inside 1 0x80 0xBF value) [a, b]
  | firstOfFour {low high value : Nat} {a : UInt8} (ha : a.toNat = value + 0xF0)
      (hvalue : value ≤ 4) (hrange : 0x80 ≤ low ∧ high ≤ 0xBF)
      (hbounds : (value = 0 → 0x90 ≤ low) ∧ (value = 4 → high ≤ 0x8F)) :
      Begun (.inside 3 low high value) [a]
  | secondOfFour {value : Nat} {a b : UInt8} (ha : a.toNat = value / 64 + 0xF0)
      (hb : b.toNat = value % 64 + 0x80) (hlow : 0x10 ≤ value) (hhigh : value < 0x110) :
      Begun (.inside 2 0x80 0xBF value) [a, b]
  | thirdOfFour {value : Nat} {a b c : UInt8} (ha : a.toNat = value / 4096 + 0xF0)
      (hb : b.toNat = value / 64 % 64 + 0x80) (hc : c.toNat = value % 64 + 0x80)
      (hlow : 0x400 ≤ value) (hhigh : value < 0x4400) :
      Begun (.inside 1 0x80 0xBF value) [a, b, c]

theorem step_inside_eq {left low high value byte : Nat} {next : State} {read : List (Option Char)}
    (hstep : step (.inside left low high value) byte = (next, read)) (hread : none ∉ read) :
    (low ≤ byte ∧ byte ≤ high) ∧
      (if left ≤ 1 then (.between, [some (Char.ofNat (value * 64 + byte % 64))])
        else (.inside (left - 1) 0x80 0xBF (value * 64 + byte % 64), [])) = (next, read) := by
  simp only [step] at hstep
  split at hstep
  · next hbounds => exact ⟨hbounds, hstep⟩
  · cases hstep
    exact absurd List.mem_cons_self hread

theorem ofNat_of_toNat {byte : UInt8} {n : Nat} (h : byte.toNat = n) : UInt8.ofNat n = byte :=
  h ▸ UInt8.ofNat_toNat

variable {state next : State} {begun : List UInt8} {byte : UInt8} {read : List (Option Char)}

/-- A byte between two characters is one by itself or begins one of several bytes. -/
theorem begun_start (hstep : start byte.toNat = (next, read)) (hread : none ∉ read) :
    (read = [] ∧ Begun next [byte]) ∨
      ∃ c, read = [some c] ∧ next = .between ∧ String.utf8EncodeChar c = [byte] := by
  unfold start at hstep
  split at hstep
  · next hascii =>
    cases hstep
    refine .inr ⟨_, rfl, rfl, ?_⟩
    have hnumber : (Char.ofNat byte.toNat).toNat = byte.toNat :=
      toNat_ofNat_of_valid (.inl (by omega))
    rw [encodeChar_of_ascii (hnumber.symm ▸ hascii), hnumber, UInt8.ofNat_toNat]
  split at hstep
  · cases hstep
    exact absurd List.mem_cons_self hread
  split at hstep
  · cases hstep
    exact .inl ⟨rfl, .firstOfTwo (by omega) (by omega) (by omega)⟩
  split at hstep
  · cases hstep
    exact .inl ⟨rfl, .firstOfThree (by omega) (by omega) (by omega) (by omega)⟩
  split at hstep
  · cases hstep
    exact .inl ⟨rfl, .firstOfThree (by omega) (by omega) (by omega) (by omega)⟩
  split at hstep
  · cases hstep
    exact .inl ⟨rfl, .firstOfThree (by omega) (by omega) (by omega) (by omega)⟩
  split at hstep
  · cases hstep
    exact .inl ⟨rfl, .firstOfFour (by omega) (by omega) (by omega) (by omega)⟩
  split at hstep
  · cases hstep
    exact .inl ⟨rfl, .firstOfFour (by omega) (by omega) (by omega) (by omega)⟩
  split at hstep
  · cases hstep
    exact .inl ⟨rfl, .firstOfFour (by omega) (by omega) (by omega) (by omega)⟩
  · cases hstep
    exact absurd List.mem_cons_self hread

/-- The byte that completes a character is the last of its bytes. -/
theorem encodeChar_of_completed {value : Nat} (h : Begun (.inside 1 0x80 0xBF value) begun)
    (hbounds : 0x80 ≤ byte.toNat ∧ byte.toNat ≤ 0xBF) :
    String.utf8EncodeChar (Char.ofNat (value * 64 + byte.toNat % 64)) = begun ++ [byte] := by
  obtain ⟨n, hn⟩ : ∃ n, n = value * 64 + byte.toNat % 64 := ⟨_, rfl⟩
  have hvalid : n < 0xD800 ∨ 0xDFFF < n ∧ n < 0x110000 := by cases h <;> omega
  have hencode := String.utf8EncodeChar.eq_1 (Char.ofNat n)
  rw [show (Char.ofNat n).val.toNat = n from toNat_ofNat_of_valid hvalid] at hencode
  have hbyte : UInt8.ofNat (n % 64 + 128) = byte := ofNat_of_toNat (by omega)
  rw [← hn, hencode, hbyte]
  cases h with
  | firstOfTwo ha =>
    rw [if_neg (by omega), if_pos (by omega),
      @ofNat_of_toNat _ (n / 64 % 32 + 192) (ha.trans (by omega))]
    rfl
  | secondOfThree ha hb =>
    rw [if_neg (by omega), if_neg (by omega), if_pos (by omega),
      @ofNat_of_toNat _ (n / 4096 % 16 + 224) (ha.trans (by omega)),
      @ofNat_of_toNat _ (n / 64 % 64 + 128) (hb.trans (by omega))]
    rfl
  | thirdOfFour ha hb hc =>
    rw [if_neg (by omega), if_neg (by omega), if_neg (by omega),
      @ofNat_of_toNat _ (n / 262144 % 8 + 240) (ha.trans (by omega)),
      @ofNat_of_toNat _ (n / 4096 % 64 + 128) (hb.trans (by omega)),
      @ofNat_of_toNat _ (n / 64 % 64 + 128) (hc.trans (by omega))]
    rfl

/-- A byte that breaks nothing goes on with the character under way or completes it. -/
theorem Begun.step (h : Begun state begun) (hstep : Utf8.step state byte.toNat = (next, read))
    (hread : none ∉ read) :
    (read = [] ∧ Begun next (begun ++ [byte])) ∨
      ∃ c, read = [some c] ∧ next = .between ∧ String.utf8EncodeChar c = begun ++ [byte] := by
  cases h with
  | between => exact begun_start hstep hread
  | firstOfTwo ha hlow hhigh =>
    obtain ⟨hbounds, heq⟩ := step_inside_eq hstep hread
    cases heq
    exact .inr ⟨_, rfl, rfl, encodeChar_of_completed (.firstOfTwo ha hlow hhigh) hbounds⟩
  | secondOfThree ha hb hlow hhigh hsurrogate =>
    obtain ⟨hbounds, heq⟩ := step_inside_eq hstep hread
    cases heq
    exact .inr ⟨_, rfl, rfl,
      encodeChar_of_completed (.secondOfThree ha hb hlow hhigh hsurrogate) hbounds⟩
  | thirdOfFour ha hb hc hlow hhigh =>
    obtain ⟨hbounds, heq⟩ := step_inside_eq hstep hread
    cases heq
    exact .inr ⟨_, rfl, rfl, encodeChar_of_completed (.thirdOfFour ha hb hc hlow hhigh) hbounds⟩
  | firstOfThree ha hvalue hrange hbounds =>
    obtain ⟨hbyte, heq⟩ := step_inside_eq hstep hread
    cases heq
    exact .inl ⟨rfl, .secondOfThree (by omega) (by omega) (by omega) (by omega) (by omega)⟩
  | firstOfFour ha hvalue hrange hbounds =>
    obtain ⟨hbyte, heq⟩ := step_inside_eq hstep hread
    cases heq
    exact .inl ⟨rfl, .secondOfFour (by omega) (by omega) (by omega) (by omega)⟩
  | secondOfFour ha hb hlow hhigh =>
    obtain ⟨hbounds, heq⟩ := step_inside_eq hstep hread
    cases heq
    exact .inl ⟨rfl, .thirdOfFour (by omega) (by omega) (by omega) (by omega) (by omega)⟩

/-- Bytes that break nothing and leave no character under way are the characters read. -/
theorem Begun.advance {bytes : List UInt8} {text : List Char} (h : Begun state begun)
    (hadvance : Utf8.advance state bytes = (.between, text.map some)) :
    begun ++ bytes = encode text := by
  induction bytes generalizing state begun text with
  | nil =>
    obtain ⟨rfl, hnil⟩ := Prod.mk.inj hadvance
    rw [List.map_eq_nil_iff.mp hnil.symm]
    cases h
    rfl
  | cons byte bytes ih =>
    obtain ⟨⟨next, read⟩, hstep⟩ : ∃ result, Utf8.step state byte.toNat = result := ⟨_, rfl⟩
    simp only [Utf8.advance, hstep, Prod.mk.injEq] at hadvance
    obtain ⟨hstate, hmap⟩ := hadvance
    obtain ⟨now, later, rfl, rfl, hlater⟩ := List.append_eq_map_iff.mp hmap
    have hread : none ∉ now.map some := by simp
    have hrest : Utf8.advance next bytes = (.between, later.map some) :=
      Prod.ext hstate hlater.symm
    rcases h.step hstep hread with ⟨hnone, hbegun⟩ | ⟨c, hone, rfl, hencode⟩
    · rw [List.map_eq_nil_iff.mp hnone, List.nil_append, ← ih hbegun hrest, List.append_assoc]
      rfl
    · obtain rfl : now = [c] := by simpa using hone
      rw [encode_append, ← ih .between hrest, encode_cons, hencode, encode_nil]
      simp

theorem eq_map_some_of_mapM {read : List (Option Char)} {text : List Char}
    (h : read.mapM id = some text) : read = text.map some := by
  induction read generalizing text with
  | nil =>
    cases h
    rfl
  | cons first read ih =>
    cases first with
    | none => cases h
    | some c =>
      rw [List.mapM_cons] at h
      obtain ⟨_, ⟨⟩, hrest⟩ := Option.bind_eq_some_iff.mp h
      obtain ⟨later, hlater, ⟨⟩⟩ := Option.bind_eq_some_iff.mp hrest
      rw [ih hlater, List.map_cons]

/-- Bytes are read as a text exactly where they are its bytes. -/
theorem decode?_eq_some_iff {bytes : List UInt8} {text : List Char} :
    decode? bytes = some text ↔ bytes = encode text := by
  constructor
  · intro h
    have hscan := eq_map_some_of_mapM h
    rw [scan_eq] at hscan
    obtain ⟨⟨state, read⟩, hadvance⟩ : ∃ result, advance .between bytes = result := ⟨_, rfl⟩
    rw [hadvance] at hscan
    cases state with
    | between =>
      rw [finish, List.append_nil] at hscan
      exact Begun.between.advance (hadvance.trans (congrArg _ hscan))
    | inside left low high value =>
      have hbroken : none ∈ text.map some := hscan ▸ List.mem_append_right _ List.mem_cons_self
      simp at hbroken
  · rintro rfl
    exact decode?_encode text

end Tethered.Text.Utf8
