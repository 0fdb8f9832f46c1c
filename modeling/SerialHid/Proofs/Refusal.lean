/-
SerialHid.Proofs.Refusal — what is no frame is refused, and why.

* `Refused : List UInt8 → FrameError → Prop` — the ways in which bytes fail to be a frame, each with
  its refusal; by `Frame.parse_eq_error_iff` there are no others.
* `FrameError.IsTrueOf` — what a refusal says is so; `Frame.refusals_true` finds the one kind of
  bytes of which it is not.
* `checksum_set_ne` — a byte that changes changes the checksum.
* `Frame.eq_of_bytes_isPrefix` — no frame begins another one.
* `Frame.damage_detected` — a frame with a byte changed, bytes missing or bytes added is none.
-/
import SerialHid.Proofs.Codec

namespace SerialHid

/-! ## The refusals -/

/-- The ways in which bytes fail to be a frame, in the order in which they are looked for. -/
inductive Refused : List UInt8 → FrameError → Prop where
  | short (bytes : List UInt8) (hshort : bytes.length < partialHeaderSize) :
      Refused bytes (.insufficientData partialHeaderSize bytes.length)
  | header (b0 b1 b2 command declared : UInt8) (rest : List UInt8)
      (hheader : [b0, b1, b2] ≠ frameHeader) :
      Refused (b0 :: b1 :: b2 :: command :: declared :: rest) (.badHeader b0 b1 b2)
  /-- Behind the header there must be the announced payload and one byte more. -/
  | length (h : FrameHeader) (rest : List UInt8) (hlength : rest.length ≠ h.remaining) :
      Refused (frameHeader ++ h.command :: h.declared :: rest)
        (.payloadLengthMismatch h.declared.toNat (rest.length - 1))
  | sum (f : Frame) (last : UInt8) (hsum : f.checksum ≠ last) :
      Refused (f.body ++ [last]) (.checksumMismatch f.checksum last)

namespace FrameHeader

variable {bytes : List UInt8} {h : FrameHeader} {e : FrameError}

theorem exists_of_le_length (hlong : partialHeaderSize ≤ bytes.length) :
    ∃ b0 b1 b2 command declared rest, bytes = b0 :: b1 :: b2 :: command :: declared :: rest := by
  rcases bytes with _ | ⟨b0, _ | ⟨b1, _ | ⟨b2, _ | ⟨command, _ | ⟨declared, rest⟩⟩⟩⟩⟩
  case cons.cons.cons.cons.cons => exact ⟨b0, b1, b2, command, declared, rest, rfl⟩
  all_goals exact absurd hlong (by simp [partialHeaderSize])

theorem parse_of_short (hshort : bytes.length < partialHeaderSize) :
    parse bytes = .error (.insufficientData partialHeaderSize bytes.length) := by
  unfold parse
  split
  · simp only [List.length_cons, partialHeaderSize] at hshort
    omega
  · rfl

/-- A header is refused for being too short or for its first three bytes. -/
theorem refused_of_parse (hparse : parse bytes = .error e) : Refused bytes e := by
  by_cases hshort : bytes.length < partialHeaderSize
  · rw [parse_of_short hshort] at hparse
    cases hparse
    exact .short bytes hshort
  obtain ⟨b0, b1, b2, command, declared, rest, rfl⟩ := exists_of_le_length (Nat.le_of_not_lt hshort)
  by_cases hheader : [b0, b1, b2] = frameHeader
  · rw [parse, if_pos hheader] at hparse
    cases hparse
  · rw [parse, if_neg hheader] at hparse
    cases hparse
    exact .header b0 b1 b2 command declared rest hheader

end FrameHeader

namespace Frame

variable {f g : Frame} {bytes : List UInt8} {e : FrameError}

theorem parse_of_headerParse_error (h : FrameHeader.parse bytes = .error e) :
    parse bytes = .error e := by
  unfold parse
  rw [h]

theorem parse_of_length_ne {h : FrameHeader} (hheader : FrameHeader.parse bytes = .ok h)
    (hlength : bytes.length ≠ h.frameLength) :
    parse bytes =
      .error (.payloadLengthMismatch h.declared.toNat (bytes.length - minFrameSize)) := by
  unfold parse
  rw [hheader]
  exact dif_neg hlength

/-- The length of bytes that open like a frame, and of what stands behind the opening. -/
theorem length_opened (h : FrameHeader) (rest : List UInt8) :
    (frameHeader ++ h.command :: h.declared :: rest).length = rest.length + partialHeaderSize := by
  simp [frameHeader, partialHeaderSize]

/-- **Why bytes are no frame.** They are refused exactly in these ways. -/
theorem parse_eq_error_iff : parse bytes = .error e ↔ Refused bytes e := by
  constructor
  · intro hparse
    cases hheader : FrameHeader.parse bytes with
    | error e' =>
      rw [parse_of_headerParse_error hheader] at hparse
      cases hparse
      exact FrameHeader.refused_of_parse hheader
    | ok h =>
      by_cases hlength : bytes.length = h.frameLength
      · obtain ⟨f, last, -, rfl⟩ := exists_body_concat hheader hlength
        rw [parse_body_concat] at hparse
        split at hparse
        · cases hparse
        · rename_i hsum
          cases hparse
          exact .sum f last hsum
      · rw [parse_of_length_ne hheader hlength] at hparse
        cases hparse
        obtain ⟨rest, rfl⟩ := FrameHeader.parse_eq_ok_iff.mp hheader
        rw [length_opened] at hlength ⊢
        refine .length h rest fun hremaining => hlength ?_
        rw [hremaining, Nat.add_comm]
        rfl
  · intro hrefused
    cases hrefused with
    | short bytes hshort => exact parse_of_headerParse_error (FrameHeader.parse_of_short hshort)
    | header b0 b1 b2 command declared rest hheader =>
      exact parse_of_headerParse_error (if_neg hheader)
    | length h rest hlength =>
      rw [parse_of_length_ne (FrameHeader.parse_append h rest), length_opened]
      · rfl
      · rw [length_opened]
        intro hwhole
        refine hlength (Nat.add_right_cancel (hwhole.trans ?_))
        exact Nat.add_comm ..
    | sum f last hsum => rw [parse_body_concat, if_neg hsum]

end Frame

/-! ## What a refusal says -/

/-- What a refusal says of the bytes is so: how many there are and that more are needed, how they
open, what their length byte announces, or what they sum up to and what their last byte is. -/
def FrameError.IsTrueOf (bytes : List UInt8) : FrameError → Prop
  | .insufficientData needed available => available = bytes.length ∧ available < needed
  | .badHeader b0 b1 b2 => bytes.take 3 = [b0, b1, b2] ∧ [b0, b1, b2] ≠ [0x57, 0xAB, 0x00]
  | .payloadLengthMismatch declared available =>
    bytes[4]?.map UInt8.toNat = some declared ∧ declared ≠ available
  | .checksumMismatch expected actual =>
    bytes.getLast? = some actual ∧
      expected.toNat = (bytes.dropLast.map UInt8.toNat).sum % 256 ∧ expected ≠ actual

/-- The opening of a frame without payload, and nothing behind it. -/
def IsOpeningAlone (bytes : List UInt8) : Prop := ∃ command, bytes = [0x57, 0xAB, 0x00, command, 0]

theorem isOpeningAlone_iff {h : FrameHeader} {rest : List UInt8} :
    IsOpeningAlone (frameHeader ++ h.command :: h.declared :: rest) ↔
      h.declared = 0 ∧ rest = [] := by
  simp [IsOpeningAlone, frameHeader]

/-- **A refusal tells the truth**, unless the bytes are the opening of a frame without payload and
lack no more than the checksum: they are refused because no payload was announced and none is
there. -/
theorem Frame.refusals_true (bytes : List UInt8) (e : FrameError)
    (hparse : Frame.parse bytes = .error e) :
    (e.IsTrueOf bytes ↔ ¬ IsOpeningAlone bytes) ∧
      (IsOpeningAlone bytes → e = .payloadLengthMismatch 0 0) := by
  have hrefused := parse_eq_error_iff.mp hparse
  constructor
  · cases hrefused with
    | short bytes hshort =>
      refine iff_of_true ⟨rfl, hshort⟩ ?_
      rintro ⟨command, rfl⟩
      exact absurd hshort (by simp [partialHeaderSize])
    | header b0 b1 b2 command declared rest hheader =>
      refine iff_of_true ⟨rfl, hheader⟩ ?_
      rintro ⟨command', hbytes⟩
      simp_all [frameHeader]
    | length h rest hlength =>
      have hannounced : h.declared.toNat = rest.length - 1 ↔ h.declared = 0 ∧ rest = [] := by
        simp only [FrameHeader.remaining] at hlength
        rw [← UInt8.toNat_inj, ← List.length_eq_zero_iff]
        simp only [UInt8.toNat_zero]
        omega
      rw [isOpeningAlone_iff, ← hannounced]
      exact ⟨And.right, fun hne => ⟨rfl, hne⟩⟩
    | sum f last hsum =>
      refine iff_of_true ⟨by simp, ?_, hsum⟩ ?_
      · rw [List.dropLast_concat]
        exact checksum_toNat f.body
      · rintro ⟨command, hbytes⟩
        have hlength := congrArg List.length hbytes
        simp [length_body] at hlength
  · rintro ⟨command, rfl⟩
    cases hparse
    rfl

/-- The opening of an answer without payload: none is announced, none is there, and that is the
reason given. -/
theorem refusal_of_opening_alone :
    Frame.parse [0x57, 0xAB, 0x00, 0x81, 0x00] = .error (.payloadLengthMismatch 0 0) ∧
      ¬ (FrameError.payloadLengthMismatch 0 0).IsTrueOf [0x57, 0xAB, 0x00, 0x81, 0x00] :=
  ⟨by decide, fun htrue => htrue.2 rfl⟩

/-- The same of an answer that announces a payload. -/
theorem refusals_true_opening :
    Frame.parse [0x57, 0xAB, 0x00, 0x81, 0x08] = .error (.payloadLengthMismatch 8 0) ∧
      ((FrameError.payloadLengthMismatch 8 0).IsTrueOf [0x57, 0xAB, 0x00, 0x81, 0x08] ↔
        ¬ IsOpeningAlone [0x57, 0xAB, 0x00, 0x81, 0x08]) ∧
      (IsOpeningAlone [0x57, 0xAB, 0x00, 0x81, 0x08] →
        FrameError.payloadLengthMismatch 8 0 = .payloadLengthMismatch 0 0) := by
  have hparse : Frame.parse [0x57, 0xAB, 0x00, 0x81, 0x08] =
      .error (.payloadLengthMismatch 8 0) := by decide
  exact ⟨hparse, Frame.refusals_true _ _ hparse⟩

/-! ## A changed byte -/

theorem checksum_set_ne {bytes : List UInt8} {i : Nat} (hi : i < bytes.length) {b : UInt8}
    (hb : b ≠ bytes[i]) : checksum (bytes.set i b) ≠ checksum bytes := by
  induction bytes generalizing i with
  | nil => exact absurd hi (Nat.not_lt_zero i)
  | cons c bytes ih =>
    cases i with
    | zero =>
      intro hsum
      exact hb ((UInt8.add_left_inj _).mp hsum)
    | succ i =>
      intro hsum
      exact ih (Nat.lt_of_succ_lt_succ hi) hb ((UInt8.add_right_inj _).mp hsum)

/-- The refusal that a changed byte at this place brings about. -/
def FrameError.Betrays (place : Nat) : FrameError → Prop
  | .insufficientData .. => False
  | .badHeader .. => place < 3
  | .payloadLengthMismatch .. => place = 4
  | .checksumMismatch .. => place = 3 ∨ 5 ≤ place

namespace Frame

variable {f g : Frame} {bytes : List UInt8} {i : Nat} {b : UInt8}

theorem bytes_eq (f : Frame) :
    f.bytes =
      frameHeader ++ f.header.command :: f.header.declared :: (f.payload ++ [f.checksum]) := by
  simp [bytes, body_eq]

/-- Whichever byte is changed, the last one is no longer the sum of the others. -/
theorem exists_unsummed (hi : i < f.bytes.length) (hb : b ≠ f.bytes[i]) :
    ∃ body last, f.bytes.set i b = body ++ [last] ∧ SerialHid.checksum body ≠ last := by
  by_cases hbody : i < f.body.length
  · refine ⟨f.body.set i b, f.checksum, List.set_append_left _ _ hbody, checksum_set_ne hbody ?_⟩
    rwa [← List.getElem_append_left hbody]
  · have hlast : i = f.body.length := by
      simp only [bytes, List.length_append, List.length_cons, List.length_nil] at hi
      omega
    subst hlast
    refine ⟨f.body, b, by simp [bytes], ?_⟩
    intro hsum
    exact hb (by simp [bytes, ← hsum, Frame.checksum])

theorem verifies_set (hi : i < f.bytes.length) (hb : b ≠ f.bytes[i]) :
    verifies (f.bytes.set i b) = false := by
  obtain ⟨body, last, hbytes, hsum⟩ := exists_unsummed hi hb
  rw [hbytes]
  simp [verifies, hsum]

theorem parse_set_header (hi : i < 3) (hlength : i < f.bytes.length) (hb : b ≠ f.bytes[i]) :
    ∃ b0 b1 b2, parse (f.bytes.set i b) = .error (.badHeader b0 b1 b2) := by
  have hshape := f.bytes_eq
  simp only [parse_eq_error_iff, hshape, frameHeader] at hb ⊢
  obtain rfl | rfl | rfl : i = 0 ∨ i = 1 ∨ i = 2 := by omega
  · exact ⟨b, 0xAB, 0x00, .header b 0xAB 0x00 _ _ _ (by simpa [frameHeader] using hb)⟩
  · exact ⟨0x57, b, 0x00, .header 0x57 b 0x00 _ _ _ (by simpa [frameHeader] using hb)⟩
  · exact ⟨0x57, 0xAB, b, .header 0x57 0xAB b _ _ _ (by simpa [frameHeader] using hb)⟩

theorem parse_set_declared (hb : b ≠ f.header.declared) :
    parse (f.bytes.set 4 b) = .error (.payloadLengthMismatch b.toNat f.payload.length) := by
  have hne : (f.payload ++ [f.checksum]).length ≠ b.toNat + 1 := by
    rw [List.length_append, ← toNat_declared]
    intro hlength
    exact hb (UInt8.toNat_inj.mp (Nat.succ.inj hlength)).symm
  have hrefused := Refused.length ⟨f.command, b⟩ (f.payload ++ [f.checksum]) hne
  have hbytes : f.bytes.set 4 b = frameHeader ++ f.command :: b :: (f.payload ++ [f.checksum]) := by
    rw [bytes_eq]
    rfl
  rw [hbytes, parse_eq_error_iff.mpr hrefused]
  simp

theorem headerParse_set (hi : i = 3 ∨ 5 ≤ i) (b : UInt8) :
    ∃ command, FrameHeader.parse (f.bytes.set i b) = .ok ⟨command, f.header.declared⟩ := by
  simp only [FrameHeader.parse_eq_ok_iff]
  rw [bytes_eq]
  rcases hi with rfl | hi
  · exact ⟨b, f.payload ++ [f.checksum], rfl⟩
  · obtain ⟨k, rfl⟩ := Nat.exists_eq_add_of_le' hi
    exact ⟨f.command, (f.payload ++ [f.checksum]).set k b, rfl⟩

theorem parse_set_summed (hi : i = 3 ∨ 5 ≤ i) (hlength : i < f.bytes.length) (hb : b ≠ f.bytes[i]) :
    ∃ expected actual, parse (f.bytes.set i b) = .error (.checksumMismatch expected actual) := by
  obtain ⟨command, hheader⟩ := headerParse_set hi b (f := f)
  have hwhole : (f.bytes.set i b).length =
      (⟨command, f.header.declared⟩ : FrameHeader).frameLength := by
    rw [List.length_set, ← frameLength_header]
    rfl
  obtain ⟨g, last, -, hbytes⟩ := exists_body_concat hheader hwhole
  obtain ⟨body, last', hbytes', hsum⟩ := exists_unsummed hlength hb
  obtain ⟨rfl, hlast⟩ := List.append_inj' (hbytes'.symm.trans hbytes) rfl
  obtain rfl : last' = last := by simpa using hlast
  rw [hbytes]
  exact ⟨g.checksum, last', parse_eq_error_iff.mpr (.sum g last' hsum)⟩

/-- Where the changed byte stands decides what betrays it. -/
theorem exists_betrays (hi : i < f.bytes.length) (hb : b ≠ f.bytes[i]) :
    ∃ e, parse (f.bytes.set i b) = .error e ∧ e.Betrays i := by
  obtain hheader | rfl | hsummed : i < 3 ∨ i = 4 ∨ (i = 3 ∨ 5 ≤ i) := by omega
  · obtain ⟨b0, b1, b2, hparse⟩ := parse_set_header hheader hi hb
    exact ⟨_, hparse, hheader⟩
  · have hdeclared : f.bytes[4] = f.header.declared := by simp [bytes_eq, frameHeader]
    exact ⟨_, parse_set_declared (hdeclared ▸ hb), rfl⟩
  · obtain ⟨expected, actual, hparse⟩ := parse_set_summed hsummed hi hb
    exact ⟨_, hparse, hsummed⟩

/-! ## Missing and added bytes -/

/-- The opening of a frame tells its length, so no frame begins another one. -/
theorem eq_of_bytes_isPrefix (h : f.bytes <+: g.bytes) : f = g := by
  have hf : FrameHeader.parse f.bytes = .ok f.header := f.headerParse_body_append _
  have hg : FrameHeader.parse g.bytes = .ok g.header := g.headerParse_body_append _
  have hlong : partialHeaderSize ≤ f.bytes.length := by
    rw [length_bytes, minFrameSize, partialHeaderSize]
    omega
  have hheader : f.header = g.header :=
    Except.ok.inj (hf.symm.trans (FrameHeader.parse_of_isPrefix hg h hlong))
  refine bytes_inj.mp (h.eq_of_length ?_)
  rw [← frameLength_header, ← frameLength_header, hheader]

theorem exists_error (h : ∀ g, parse bytes ≠ .ok g) : ∃ e, parse bytes = .error e := by
  cases hparse : parse bytes with
  | error e => exact ⟨e, rfl⟩
  | ok g => exact absurd hparse (h g)

/-- A frame of which bytes at the end are missing is none. -/
theorem exists_error_of_isPrefix {start : List UInt8} (h : start <+: f.bytes)
    (hmissing : start ≠ f.bytes) : ∃ e, parse start = .error e := by
  refine exists_error fun g hparse => ?_
  obtain rfl := bytes_of_parse hparse
  exact hmissing (congrArg bytes (eq_of_bytes_isPrefix h))

/-- A frame with bytes added at the end is none. -/
theorem exists_error_of_append {rest : List UInt8} (hadded : rest ≠ []) :
    ∃ e, parse (f.bytes ++ rest) = .error e := by
  refine exists_error fun g hparse => ?_
  have hbytes := bytes_of_parse hparse
  obtain rfl := eq_of_bytes_isPrefix (f := f) (g := g) ⟨rest, hbytes.symm⟩
  exact hadded (by simpa using hbytes)

/-- **A damaged frame is never taken for one.** Whichever of its bytes is changed into whatever
other one, the sum no longer holds and the bytes are refused: for their first three bytes, for their
length or for their sum, by the place of the change. They are also refused if bytes at the end are
missing or added, so that no frame begins another one. -/
theorem damage_detected (f : Frame) :
    (∀ (i : Nat) (hi : i < f.bytes.length) (b : UInt8), b ≠ f.bytes[i] →
      verifies (f.bytes.set i b) = false ∧
        ∃ e, parse (f.bytes.set i b) = .error e ∧ e.Betrays i) ∧
    (∀ start, start <+: f.bytes → start ≠ f.bytes → ∃ e, parse start = .error e) ∧
    (∀ rest, rest ≠ [] → ∃ e, parse (f.bytes ++ rest) = .error e) ∧
    ∀ g : Frame, f.bytes <+: g.bytes → f = g :=
  ⟨fun _ hi _ hb => ⟨verifies_set hi hb, exists_betrays hi hb⟩,
    fun _ => exists_error_of_isPrefix,
    fun _ => exists_error_of_append,
    fun _ => eq_of_bytes_isPrefix⟩

/-- The frame of `statusBytes`. -/
def statusAnswer : Frame := ⟨0x81, [0x30, 0x01, 0x05], by decide⟩

/-- Its length byte grown by one, its last byte lost, one byte gained, and read as it stands. -/
theorem damage_detected_status :
    (∃ hi : 4 < statusAnswer.bytes.length, (4 : UInt8) ≠ statusAnswer.bytes[4]) ∧
    verifies (statusAnswer.bytes.set 4 4) = false ∧
    (∃ e, parse (statusAnswer.bytes.set 4 4) = .error e ∧ e.Betrays 4) ∧
    statusAnswer.bytes.dropLast <+: statusAnswer.bytes ∧
    statusAnswer.bytes.dropLast ≠ statusAnswer.bytes ∧
    (∃ e, parse statusAnswer.bytes.dropLast = .error e) ∧
    ([0x00] : List UInt8) ≠ [] ∧ (∃ e, parse (statusAnswer.bytes ++ [0x00]) = .error e) ∧
    ∃ g, parse statusBytes = .ok g ∧ statusAnswer.bytes <+: g.bytes ∧ statusAnswer = g := by
  obtain ⟨hchanged, hstart, hadded, hbegins⟩ := damage_detected statusAnswer
  obtain ⟨hlength, hb⟩ :
      ∃ hi : 4 < statusAnswer.bytes.length, (4 : UInt8) ≠ statusAnswer.bytes[4] := by decide
  obtain ⟨hsum, hrefused⟩ := hchanged 4 hlength 4 hb
  have hprefix : statusAnswer.bytes.dropLast <+: statusAnswer.bytes := List.dropLast_prefix _
  have hmissing : statusAnswer.bytes.dropLast ≠ statusAnswer.bytes := by decide
  have hone : ([0x00] : List UInt8) ≠ [] := by decide
  have hwhole : statusAnswer.bytes <+: statusAnswer.bytes := List.prefix_rfl
  exact ⟨⟨hlength, hb⟩, hsum, hrefused, hprefix, hmissing, hstart _ hprefix hmissing, hone,
    hadded _ hone, statusAnswer, by decide, hwhole, hbegins _ hwhole⟩

end Frame

end SerialHid
