import Tethered.Proofs.Mux.FrameStream

/-!
# What a reader makes of any stream

A stream begins with a frame that a writer makes, or ends before such a frame is
complete, or is refused by its first sixteen bytes. The three exclude each other, and
only the second can change when more bytes come. A writer's longer frames are
refused like any other header that a reader does not accept.
-/
namespace Tethered.Mux.Frame

/-- A stream with a frame in front that a reader accepts, as a writer makes it. -/
def BeginsWith (stream : List UInt8) (frame : Frame) (rest : List UInt8) : Prop :=
  frame.body.length ≤ bodyLimit ∧ ∃ written, frame.write = .ok written ∧ stream = written ++ rest

/-- A stream that ends inside a frame that a reader accepts. -/
def CutShort (stream : List UInt8) : Prop :=
  ∃ (frame : Frame) (written : List UInt8), frame.body.length ≤ bodyLimit ∧
    frame.write = .ok written ∧ stream <+: written ∧ stream ≠ written

variable {stream rest : List UInt8} {frame : Frame}

theorem beginsWith_iff :
    BeginsWith stream frame rest ↔
      frame.body.length ≤ bodyLimit ∧ stream = frame.encode ++ rest := by
  constructor
  · rintro ⟨hfit, written, hwritten, rfl⟩
    rw [write_eq_encode (lt_lengthLimit hfit)] at hwritten
    cases hwritten
    exact ⟨hfit, rfl⟩
  · rintro ⟨hfit, hstream⟩
    exact ⟨hfit, frame.encode, write_eq_encode (lt_lengthLimit hfit), hstream⟩

theorem cutShort_iff :
    CutShort stream ↔
      ∃ frame : Frame, frame.body.length ≤ bodyLimit ∧ stream <+: frame.encode ∧
        stream ≠ frame.encode := by
  constructor
  · rintro ⟨frame, written, hfit, hwritten, hcut⟩
    rw [write_eq_encode (lt_lengthLimit hfit)] at hwritten
    cases hwritten
    exact ⟨frame, hfit, hcut⟩
  · rintro ⟨frame, hfit, hcut⟩
    exact ⟨frame, frame.encode, hfit, write_eq_encode (lt_lengthLimit hfit), hcut⟩

/-! ## Streams of sixteen bytes or more -/

/-- The words with which a reader goes on to the body. -/
structure Acceptable (length foundVersion foundType : Nat) : Prop where
  least : headerLength ≤ length
  most : length - headerLength ≤ bodyLimit
  version_eq : foundVersion = version
  type_eq : foundType = messageType

section
variable {length foundVersion foundType tag : Nat}

theorem read_of_acceptable (h : Acceptable length foundVersion foundType)
    (htag : tag < lengthLimit) (rest : List UInt8) :
    read (header length foundVersion foundType tag ++ rest) =
      if rest.length < length - headerLength then (.error (.io .earlyEof), [])
      else (.ok ⟨tag.toUInt32, rest.take (length - headerLength)⟩,
        rest.drop (length - headerLength)) := by
  obtain ⟨hleast, hmost, rfl, rfl⟩ := h
  have hlength : length < lengthLimit := by
    have hlimits : headerLength + bodyLimit < lengthLimit := by decide
    omega
  rw [read_header_append rest hlength (by decide) (by decide) htag, if_neg (by omega),
    if_neg (by decide)]

/-- A header that is not acceptable is refused, whatever follows it. -/
theorem read_of_not_acceptable (h : ¬ Acceptable length foundVersion foundType)
    (hlength : length < lengthLimit) (hversion : foundVersion < lengthLimit)
    (htype : foundType < lengthLimit) (htag : tag < lengthLimit) :
    ∃ wording, ∀ rest, read (header length foundVersion foundType tag ++ rest) =
      (.error (.protocol wording), rest) := by
  have hread rest := read_header_append rest hlength hversion htype htag
  by_cases hbound : length < headerLength ∨ length - headerLength > bodyLimit
  · exact ⟨_, fun rest => (hread rest).trans (if_pos hbound)⟩
  by_cases hkind : foundVersion ≠ version ∨ foundType ≠ messageType
  · exact ⟨_, fun rest => (hread rest).trans ((if_neg hbound).trans (if_pos hkind))⟩
  · obtain ⟨hversionEq, htypeEq⟩ : foundVersion = version ∧ foundType = messageType := by
      simpa using hkind
    exact absurd ⟨by omega, by omega, hversionEq, htypeEq⟩ h

/-- Behind an acceptable header a body that is not complete could still become so. -/
theorem cutShort_of_acceptable (h : Acceptable length foundVersion foundType)
    (htag : tag < lengthLimit) (hshort : rest.length < length - headerLength) :
    CutShort (header length foundVersion foundType tag ++ rest) := by
  obtain ⟨hleast, hmost, rfl, rfl⟩ := h
  let missing := List.replicate (length - headerLength - rest.length) (0 : UInt8)
  have hbody : (rest ++ missing).length = length - headerLength := by
    rw [List.length_append, List.length_replicate]
    omega
  have hencode : encode ⟨tag.toUInt32, rest ++ missing⟩ =
      header length version messageType tag ++ rest ++ missing := by
    have htagword : tag.toUInt32.toNat = tag := Nat.mod_eq_of_lt htag
    have hwhole : headerLength + (length - headerLength) = length := by omega
    simp only [encode, hbody, htagword, hwhole, List.append_assoc]
  refine cutShort_iff.mpr ⟨⟨tag.toUInt32, rest ++ missing⟩, ?_, ?_, ?_⟩
  · show (rest ++ missing).length ≤ bodyLimit
    rwa [hbody]
  · rw [hencode]
    exact List.prefix_append _ _
  · intro heq
    rw [hencode, List.self_eq_append_right, List.replicate_eq_nil_iff] at heq
    omega

end

/-! ## The three outcomes -/

/-- A stream that has its header but not its whole body leaves a reader waiting. -/
theorem read_of_cutShort (h : CutShort stream) : (read stream).1 = .error (.io .earlyEof) := by
  obtain ⟨frame, hfit, hbegins, hne⟩ := cutShort_iff.mp h
  by_cases hshort : stream.length < headerLength
  · rw [read_of_short hshort]
  · -- what has come of the body is a proper beginning of it
    have hheader := length_header (headerLength + frame.body.length) version messageType
      frame.tag.toNat
    have hlt : stream.length < frame.encode.length :=
      Nat.lt_of_le_of_ne hbegins.length_le fun hlength => hne (hbegins.eq_of_length hlength)
    have hencode : frame.encode.length = headerLength + frame.body.length := by
      rw [encode, List.length_append, hheader]
    have hstream : stream = header (headerLength + frame.body.length) version messageType
        frame.tag.toNat ++ frame.body.take (stream.length - headerLength) := by
      have htake := List.prefix_iff_eq_take.mp hbegins
      rwa [encode, List.take_append, hheader, List.take_of_length_le (by omega)] at htake
    have hacceptable : Acceptable (headerLength + frame.body.length) version messageType :=
      ⟨by omega, by omega, rfl, rfl⟩
    rw [hstream, read_of_acceptable hacceptable frame.tag.toNat_lt, if_pos]
    rw [List.length_take]
    omega

theorem read_eq_earlyEof_iff :
    (read stream).1 = .error (.io .earlyEof) ↔ stream.length < headerLength ∨ CutShort stream := by
  constructor
  · intro hread
    by_cases hshort : stream.length < headerLength
    · exact .inl hshort
    · obtain ⟨length, foundVersion, foundType, tag, rest, hlength, hversion, htype, htag, rfl⟩ :=
        exists_header (Nat.le_of_not_lt hshort)
      by_cases hacceptable : Acceptable length foundVersion foundType
      · rw [read_of_acceptable hacceptable htag] at hread
        split at hread
        · exact .inr (cutShort_of_acceptable hacceptable htag ‹_›)
        · cases hread
      · obtain ⟨wording, hrefused⟩ := read_of_not_acceptable hacceptable hlength hversion htype htag
        rw [hrefused] at hread
        cases hread
  · rintro (hshort | hcut)
    · rw [read_of_short hshort]
    · exact read_of_cutShort hcut

/-- What neither begins with a frame nor can still become one is refused by its header, and
goes on being refused. -/
theorem read_of_refused (hframe : ∀ frame rest, ¬ BeginsWith stream frame rest)
    (hcut : ¬ (stream.length < headerLength ∨ CutShort stream)) :
    headerLength ≤ stream.length ∧ ∃ wording, ∀ more,
      read (stream ++ more) = (.error (.protocol wording), stream.drop headerLength ++ more) := by
  obtain ⟨hlong, hcut⟩ := not_or.mp hcut
  have hlong := Nat.le_of_not_lt hlong
  refine ⟨hlong, ?_⟩
  obtain ⟨length, foundVersion, foundType, tag, rest, hlength, hversion, htype, htag, rfl⟩ :=
    exists_header hlong
  by_cases hacceptable : Acceptable length foundVersion foundType
  · -- an acceptable header would be followed by a body, or by a part of one
    by_cases hshort : rest.length < length - headerLength
    · exact absurd (cutShort_of_acceptable hacceptable htag hshort) hcut
    · have hread := read_of_acceptable hacceptable htag rest
      rw [if_neg hshort] at hread
      exact absurd (beginsWith_iff.mpr (read_eq_ok_iff.mp hread)) (hframe _ _)
  · obtain ⟨wording, hrefused⟩ := read_of_not_acceptable hacceptable hlength hversion htype htag
    refine ⟨wording, fun more => ?_⟩
    rw [List.append_assoc, hrefused, List.drop_left' (length_header ..)]

theorem read_append_of_ok (h : read stream = (.ok frame, rest)) (more : List UInt8) :
    read (stream ++ more) = (.ok frame, rest ++ more) := by
  obtain ⟨hfit, rfl⟩ := read_eq_ok_iff.mp h
  exact read_eq_ok_iff.mpr ⟨hfit, List.append_assoc ..⟩

theorem read_append_of_protocol {wording : String}
    (h : read stream = (.error (.protocol wording), rest)) (more : List UInt8) :
    read (stream ++ more) = (.error (.protocol wording), rest ++ more) := by
  have hframe (frame : Frame) (later : List UInt8) : ¬ BeginsWith stream frame later := by
    intro hbegins
    rw [read_eq_ok_iff.mpr (beginsWith_iff.mp hbegins)] at h
    cases h
  have hcut : ¬ (stream.length < headerLength ∨ CutShort stream) := by
    intro hcut
    rw [← read_eq_earlyEof_iff, h] at hcut
    cases hcut
  obtain ⟨-, given, hrefused⟩ := read_of_refused hframe hcut
  have hsame := hrefused []
  rw [List.append_nil, List.append_nil, h] at hsame
  cases hsame
  exact hrefused more

theorem eq_of_encode_prefix {first second : Frame} (hfirst : first.body.length ≤ bodyLimit)
    (hsecond : second.body.length ≤ bodyLimit) (h : first.encode <+: second.encode) :
    first = second := by
  obtain ⟨more, hmore⟩ := h
  have hread : read second.encode = (.ok first, more) :=
    read_eq_ok_iff.mpr ⟨hfirst, hmore.symm⟩
  have hself : read second.encode = (.ok second, []) :=
    read_eq_ok_iff.mpr ⟨hsecond, (List.append_nil _).symm⟩
  rw [hself] at hread
  cases hread
  rfl

/-- A reader accepts a stream exactly where it begins with a frame that a writer makes, up
to the reader's limit, and takes no byte more. It meets the end of the stream exactly where
less than a header has come, or a proper part of such a frame. Everything else it refuses
with the header taken. More bytes change only the second outcome, and no frame that a reader
accepts is a part of another. -/
theorem read_of_any :
    (∀ stream : List UInt8,
      (∀ frame rest, read stream = (.ok frame, rest) ↔ BeginsWith stream frame rest) ∧
      ((read stream).1 = .error (.io .earlyEof) ↔
        stream.length < headerLength ∨ CutShort stream) ∧
      ((∀ frame rest, ¬ BeginsWith stream frame rest) →
        ¬ (stream.length < headerLength ∨ CutShort stream) →
        headerLength ≤ stream.length ∧
          ∃ wording, read stream = (.error (.protocol wording), stream.drop headerLength)) ∧
      ∀ more : List UInt8,
        (∀ frame rest, read stream = (.ok frame, rest) →
          read (stream ++ more) = (.ok frame, rest ++ more)) ∧
        ∀ wording rest, read stream = (.error (.protocol wording), rest) →
          read (stream ++ more) = (.error (.protocol wording), rest ++ more)) ∧
    ∀ (first second : Frame) (written other : List UInt8),
      first.body.length ≤ bodyLimit → second.body.length ≤ bodyLimit →
      first.write = .ok written → second.write = .ok other → written <+: other →
      first = second := by
  constructor
  · intro stream
    refine ⟨fun frame rest => read_eq_ok_iff.trans beginsWith_iff.symm, read_eq_earlyEof_iff, ?_,
      fun more => ⟨fun frame rest h => read_append_of_ok h more,
        fun wording rest h => read_append_of_protocol h more⟩⟩
    intro hframe hcut
    obtain ⟨hlong, wording, hrefused⟩ := read_of_refused hframe hcut
    have hread := hrefused []
    rw [List.append_nil, List.append_nil] at hread
    exact ⟨hlong, wording, hread⟩
  · intro first second written other hfirst hsecond hwritten hother hbegins
    rw [write_eq_encode (lt_lengthLimit hfirst)] at hwritten
    rw [write_eq_encode (lt_lengthLimit hsecond)] at hother
    cases hwritten
    cases hother
    exact eq_of_encode_prefix hfirst hsecond hbegins

/-- A header of another version, with a body as long as it says. -/
def otherVersion : List UInt8 := header 19 2 messageType 7 ++ [1, 2, 3]

/-- A frame with a byte behind it, the same frame without its last byte, a frame with a part
of its body, and a header of another version, which further bytes do not make acceptable. -/
theorem read_of_otherVersion :
    read (shortFrame.encode ++ [9]) = (.ok shortFrame, [9]) ∧
      CutShort (shortFrame.encode.take 18) ∧
      ¬ encode ⟨shortFrame.tag, [1, 2]⟩ <+: shortFrame.encode ∧
      ∃ wording, read (otherVersion ++ [9, 9]) = (.error (.protocol wording), [1, 2, 3, 9, 9]) := by
  obtain ⟨hstreams, hapart⟩ := read_of_any
  obtain ⟨hbegins, -, -, -⟩ := hstreams (shortFrame.encode ++ [9])
  obtain ⟨-, hends, -, -⟩ := hstreams (shortFrame.encode.take 18)
  obtain ⟨hother, heof, hrefused, hmore⟩ := hstreams otherVersion
  refine ⟨(hbegins shortFrame [9]).mpr ⟨by decide, _, rfl, rfl⟩,
    (hends.mp rfl).resolve_left (by decide), fun hpart => ?_, ?_⟩
  · have hsame :=
      hapart ⟨shortFrame.tag, [1, 2]⟩ shortFrame _ _ (by decide) (by decide) rfl rfl hpart
    cases congrArg Frame.body hsame
  have hframe (frame : Frame) (rest : List UInt8) : ¬ BeginsWith otherVersion frame rest := by
    rw [← hother frame rest]
    intro hread
    exact nomatch congrArg Prod.fst hread
  have hcut : ¬ (otherVersion.length < headerLength ∨ CutShort otherVersion) := by
    rw [← heof]
    exact fun hread => nomatch hread
  obtain ⟨-, wording, hread⟩ := hrefused hframe hcut
  exact ⟨wording, (hmore [9, 9]).2 wording _ hread⟩

end Tethered.Mux.Frame
