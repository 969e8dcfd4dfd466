import Tethered.Mux.Frame

/-!
# Streams of frames

What is written frame by frame is read back frame by frame, and whatever follows
stays in the stream. A writer accepts longer bodies than a reader: the reader
stops at the first of them, with the frames before it in hand.
-/
namespace Tethered.Mux

namespace Frame

/-! ## One frame -/

theorem length_header (length version messageType tag : Nat) :
    (header length version messageType tag).length = headerLength := by
  simp [header, headerLength]

theorem wordAt_append {before after : List UInt8} {n : Nat} (h : n < lengthLimit) :
    wordAt before.length (before ++ (littleEndian 4 n ++ after)) = n := by
  unfold wordAt
  rw [List.drop_left, List.take_left' (length_littleEndian 4 n), ofLittleEndian_littleEndian h]

/-- What a reader makes of a header by its words, and of what comes behind it. -/
theorem read_header_append {length foundVersion foundType tag : Nat} (rest : List UInt8)
    (hlength : length < lengthLimit) (hversion : foundVersion < lengthLimit)
    (htype : foundType < lengthLimit) (htag : tag < lengthLimit) :
    read (header length foundVersion foundType tag ++ rest) =
      if length < headerLength ∨ length - headerLength > bodyLimit then
        (.error (.protocol ("bad message length " ++ toString length)), rest)
      else if foundVersion ≠ version ∨ foundType ≠ messageType then
        (.error (.protocol ("unsupported message version=" ++ toString foundVersion ++
          " type=" ++ toString foundType)), rest)
      else if rest.length < length - headerLength then (.error (.io .earlyEof), [])
      else (.ok ⟨tag.toUInt32, rest.take (length - headerLength)⟩,
        rest.drop (length - headerLength)) := by
  have hhead := length_header length foundVersion foundType tag
  have hword0 : wordAt 0 (header length foundVersion foundType tag) = length := by
    have h := @wordAt_append [] (littleEndian 4 foundVersion ++ littleEndian 4 foundType ++
      littleEndian 4 tag) length hlength
    simpa [header] using h
  have hword4 : wordAt 4 (header length foundVersion foundType tag) = foundVersion := by
    have h := @wordAt_append (littleEndian 4 length)
      (littleEndian 4 foundType ++ littleEndian 4 tag) foundVersion hversion
    simpa [header] using h
  have hword8 : wordAt 8 (header length foundVersion foundType tag) = foundType := by
    have h := @wordAt_append (littleEndian 4 length ++ littleEndian 4 foundVersion)
      (littleEndian 4 tag) foundType htype
    simpa [header] using h
  have hword12 : wordAt 12 (header length foundVersion foundType tag) = tag := by
    have h := @wordAt_append (littleEndian 4 length ++ littleEndian 4 foundVersion ++
      littleEndian 4 foundType) [] tag htag
    simpa [header] using h
  unfold read
  rw [List.take_left' hhead, List.drop_left' hhead]
  simp only [hhead, Nat.lt_irrefl, if_false, hword0, hword4, hword8, hword12]
  have hbody : (rest.take (length - headerLength)).length < length - headerLength ↔
      rest.length < length - headerLength := by
    rw [List.length_take]
    omega
  simp only [hbody]

/-- What a reader accepts a writer can write. -/
theorem lt_lengthLimit {frame : Frame} (h : frame.body.length ≤ bodyLimit) :
    headerLength + frame.body.length < lengthLimit := by
  have hlimits : headerLength + bodyLimit < lengthLimit := by decide
  omega

/-- What a reader makes of what a writer made of a frame. -/
theorem read_encode_append {frame : Frame} (rest : List UInt8)
    (h : headerLength + frame.body.length < lengthLimit) :
    read (frame.encode ++ rest) =
      if frame.body.length ≤ bodyLimit then (.ok frame, rest)
      else (.error (.protocol ("bad message length " ++
        toString (headerLength + frame.body.length))), frame.body ++ rest) := by
  have htag : frame.tag.toNat < lengthLimit := frame.tag.toNat_lt
  unfold encode
  rw [List.append_assoc, read_header_append _ h (by decide) (by decide) htag,
    Nat.add_sub_cancel_left]
  by_cases hfit : frame.body.length ≤ bodyLimit
  · -- the whole body has come, whatever follows it
    rw [if_pos hfit, if_neg (by omega), if_neg (by decide), if_neg (by simp),
      List.take_left, List.drop_left, Nat.toUInt32, UInt32.ofNat_toNat]
  · rw [if_neg hfit, if_pos (by omega)]

theorem exists_word (bytes : List UInt8) (h : 4 ≤ bytes.length) :
    ∃ n rest, n < lengthLimit ∧ bytes = littleEndian 4 n ++ rest := by
  obtain ⟨a, b, c, d, rest, rfl⟩ : ∃ a b c d rest, bytes = a :: b :: c :: d :: rest := by
    match bytes, h with
    | a :: b :: c :: d :: rest, _ => exact ⟨a, b, c, d, rest, rfl⟩
  have ha := a.toNat_lt
  have hb := b.toNat_lt
  have hc := c.toNat_lt
  have hd := d.toNat_lt
  refine ⟨a.toNat + 256 * (b.toNat + 256 * (c.toNat + 256 * d.toNat)), rest, ?_, ?_⟩
  · unfold lengthLimit
    omega
  · simp only [littleEndian, List.cons_append, List.nil_append, List.cons.injEq, and_true]
    refine ⟨?_, ?_, ?_, ?_⟩ <;>
      apply UInt8.toNat_inj.mp <;>
      simp only [UInt8.toNat_ofNat'] <;>
      omega

/-- Any sixteen bytes are a header of some four words. -/
theorem exists_header {stream : List UInt8} (h : headerLength ≤ stream.length) :
    ∃ length foundVersion foundType tag rest, length < lengthLimit ∧ foundVersion < lengthLimit ∧
      foundType < lengthLimit ∧ tag < lengthLimit ∧
      stream = header length foundVersion foundType tag ++ rest := by
  have hlength : 16 ≤ stream.length := h
  obtain ⟨length, first, hlt, rfl⟩ := exists_word stream (by omega)
  simp only [List.length_append, length_littleEndian] at hlength
  obtain ⟨foundVersion, second, hversion, rfl⟩ := exists_word first (by omega)
  simp only [List.length_append, length_littleEndian] at hlength
  obtain ⟨foundType, third, htype, rfl⟩ := exists_word second (by omega)
  simp only [List.length_append, length_littleEndian] at hlength
  obtain ⟨tag, rest, htag, rfl⟩ := exists_word third (by omega)
  refine ⟨length, foundVersion, foundType, tag, rest, hlt, hversion, htype, htag, ?_⟩
  simp only [header, List.append_assoc]

theorem read_of_short {stream : List UInt8} (h : stream.length < headerLength) :
    read stream = (.error (.io .earlyEof), []) := by
  have hhead : (stream.take headerLength).length < headerLength := by
    rw [List.length_take]
    omega
  exact if_pos hhead

/-- A reader accepts nothing but the frames that a writer makes, up to its limit. -/
theorem read_eq_ok_iff {stream rest : List UInt8} {frame : Frame} :
    read stream = (.ok frame, rest) ↔
      frame.body.length ≤ bodyLimit ∧ stream = frame.encode ++ rest := by
  constructor
  · intro hread
    by_cases hshort : stream.length < headerLength
    · rw [read_of_short hshort] at hread
      cases hread
    · obtain ⟨length, foundVersion, foundType, tag, behind, hlength, hversion, htype, htag, rfl⟩ :=
        exists_header (Nat.le_of_not_lt hshort)
      rw [read_header_append behind hlength hversion htype htag] at hread
      split at hread
      · cases hread
      rename_i hfits
      split at hread
      · cases hread
      rename_i hkind
      split at hread
      · cases hread
      rename_i hcomplete
      obtain ⟨rfl, rfl⟩ : foundVersion = version ∧ foundType = messageType := by
        simpa using hkind
      cases hread
      have hbody : (behind.take (length - headerLength)).length = length - headerLength := by
        rw [List.length_take]
        omega
      refine ⟨by rw [hbody]; omega, ?_⟩
      have htagword : tag.toUInt32.toNat = tag := Nat.mod_eq_of_lt htag
      have hwhole : headerLength + (length - headerLength) = length := by omega
      simp only [encode, hbody, htagword, hwhole, List.append_assoc, List.take_append_drop]
  · rintro ⟨hfit, rfl⟩
    rw [read_encode_append rest (lt_lengthLimit hfit), if_pos hfit]

/-! ## Streams -/

/-- What writing frames one after another puts into a stream, if all can be written. -/
def writeAll : List Frame → Except Failure (List UInt8)
  | [] => .ok []
  | frame :: frames =>
      match frame.write with
      | .error failure => .error failure
      | .ok bytes => (writeAll frames).map (bytes ++ ·)

/-- Read a number of frames one after another: the frames, the failure that ended
the reading early, and what has not been taken from the stream. -/
def readMany : Nat → List UInt8 → List Frame × Option Failure × List UInt8
  | 0, stream => ([], none, stream)
  | count + 1, stream =>
      match read stream with
      | (.error failure, rest) => ([], some failure, rest)
      | (.ok frame, rest) =>
          let later := readMany count rest
          (frame :: later.1, later.2)

theorem write_eq_encode {frame : Frame} (h : headerLength + frame.body.length < lengthLimit) :
    frame.write = .ok frame.encode := if_pos h

theorem writeAll_eq_flatMap {frames : List Frame}
    (h : ∀ frame ∈ frames, headerLength + frame.body.length < lengthLimit) :
    writeAll frames = .ok (frames.flatMap encode) := by
  induction frames with
  | nil => rfl
  | cons frame frames ih =>
    have hrest := ih fun later hmem => h later (List.mem_cons_of_mem _ hmem)
    rw [writeAll, write_eq_encode (h frame (List.mem_cons_self ..)), hrest]
    rfl

/-- Frames that fit are read back, and the reader goes on right behind them. -/
theorem readMany_append {frames : List Frame} (count : Nat) (rest : List UInt8)
    (h : ∀ frame ∈ frames, frame.body.length ≤ bodyLimit) :
    readMany (frames.length + count) (frames.flatMap encode ++ rest) =
      (frames ++ (readMany count rest).1, (readMany count rest).2) := by
  induction frames with
  | nil => simp
  | cons frame frames ih =>
    have hfit := h frame (List.mem_cons_self ..)
    have hrest := ih fun later hmem => h later (List.mem_cons_of_mem _ hmem)
    rw [List.length_cons, Nat.succ_add, List.flatMap_cons, List.append_assoc, readMany,
      read_encode_append _ (lt_lengthLimit hfit), if_pos hfit]
    simp only [hrest, List.cons_append]

theorem exists_first_too_long {frames : List Frame}
    (h : ∃ frame ∈ frames, bodyLimit < frame.body.length) :
    ∃ before long after, frames = before ++ long :: after ∧
      (∀ frame ∈ before, frame.body.length ≤ bodyLimit) ∧ bodyLimit < long.body.length := by
  cases hfind : frames.find? fun frame => bodyLimit < frame.body.length with
  | none =>
    obtain ⟨frame, hmem, hlong⟩ := h
    have hnone := List.find?_eq_none.mp hfind frame hmem
    exact absurd (decide_eq_true hlong) hnone
  | some long =>
    obtain ⟨hlong, before, after, heq, hbefore⟩ := List.find?_eq_some_iff_append.mp hfind
    refine ⟨before, long, after, heq, fun frame hmem => ?_, of_decide_eq_true hlong⟩
    simpa using hbefore frame hmem

/-- Frames that fit come back in order, and what follows them is left alone. Where
one of them is too long for a reader, those before the first such frame come back
and then its length is refused. -/
theorem readMany_writeAll (frames : List Frame) (trailing : List UInt8) :
    ((∀ frame ∈ frames, frame.body.length ≤ bodyLimit) →
      ∃ written, writeAll frames = .ok written ∧
        readMany frames.length (written ++ trailing) = (frames, none, trailing)) ∧
    ((∀ frame ∈ frames, headerLength + frame.body.length < lengthLimit) →
      (∃ frame ∈ frames, bodyLimit < frame.body.length) →
      ∃ written before long after, writeAll frames = .ok written ∧
        frames = before ++ long :: after ∧
        (∀ frame ∈ before, frame.body.length ≤ bodyLimit) ∧ bodyLimit < long.body.length ∧
        readMany frames.length (written ++ trailing) =
          (before, some (.protocol ("bad message length " ++
            toString (headerLength + long.body.length))),
            long.body ++ (after.flatMap encode ++ trailing))) := by
  constructor
  · intro hfit
    have hwritten := writeAll_eq_flatMap fun frame hmem => lt_lengthLimit (hfit frame hmem)
    refine ⟨_, hwritten, ?_⟩
    have hread := readMany_append 0 trailing hfit
    rw [Nat.add_zero] at hread
    rw [hread]
    simp only [readMany, List.append_nil]
  · intro hshort hlong
    obtain ⟨before, long, after, rfl, hbefore, hfirst⟩ := exists_first_too_long hlong
    refine ⟨_, before, long, after, writeAll_eq_flatMap hshort, rfl, hbefore, hfirst, ?_⟩
    have hread := readMany_append (after.length + 1)
      ((long :: after).flatMap encode ++ trailing) hbefore
    have hwritable := hshort long (List.mem_append_right _ (List.mem_cons_self ..))
    rw [List.flatMap_append, List.append_assoc, List.length_append, List.length_cons, hread,
      List.flatMap_cons, List.append_assoc, readMany, read_encode_append _ hwritable,
      if_neg (Nat.not_le_of_lt hfirst)]
    simp only [List.append_nil]

def shortFrame : Frame := ⟨0xFFFFFFFF, [1, 2, 3]⟩

def longFrame : Frame := ⟨7, List.replicate (bodyLimit + 1) 0⟩

theorem length_longFrame : longFrame.body.length = bodyLimit + 1 := List.length_replicate

/-- Two short frames are read back and two more bytes are left. A long frame behind
a short one is refused. -/
theorem readMany_longFrame :
    (∃ written, writeAll [shortFrame, shortFrame] = .ok written ∧
      readMany 2 (written ++ [9, 9]) = ([shortFrame, shortFrame], none, [9, 9])) ∧
    ∃ written unread, writeAll [shortFrame, longFrame] = .ok written ∧
      readMany 2 (written ++ [9, 9]) =
        ([shortFrame], some (.protocol "bad message length 1048593"), unread) := by
  constructor
  · exact (readMany_writeAll [shortFrame, shortFrame] [9, 9]).1 (by decide)
  · have hshort : ∀ frame ∈ [shortFrame, longFrame],
        headerLength + frame.body.length < lengthLimit := by
      refine List.forall_mem_cons.mpr ⟨by decide, List.forall_mem_singleton.mpr ?_⟩
      rw [length_longFrame]
      decide
    have hlong : bodyLimit < longFrame.body.length := by
      rw [length_longFrame]
      exact Nat.lt_succ_self bodyLimit
    obtain ⟨written, before, long, after, hwritten, heq, hbefore, hfirst, hread⟩ :=
      (readMany_writeAll [shortFrame, longFrame] [9, 9]).2 hshort
        ⟨longFrame, List.mem_cons_of_mem _ (List.mem_cons_self ..), hlong⟩
    refine ⟨written, long.body ++ (after.flatMap encode ++ [9, 9]), hwritten, hread.trans ?_⟩
    cases before with
    | nil =>
      obtain ⟨rfl, -⟩ := List.cons.inj heq
      exact absurd hfirst (by decide)
    | cons first rest =>
      obtain ⟨rfl, hrest⟩ := List.cons.inj heq
      cases rest with
      | nil =>
        obtain ⟨rfl, -⟩ := List.cons.inj hrest
        rw [length_longFrame]
        rfl
      | cons second rest =>
        have hlength := congrArg List.length hrest
        simp at hlength

end Frame

end Tethered.Mux
