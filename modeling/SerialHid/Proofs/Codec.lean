/-
SerialHid.Proofs.Codec — writing a frame and reading it are inverse to each other.

* `checksum_toNat` — the checksum is the sum of the bytes, modulo 256.
* `FrameHeader.parse_eq_ok_iff` — the byte lists that begin like a frame, and what is read off them.
* `Frame.parse_bytes`, `Frame.bytes_of_parse` — one direction of the inverse and the other; together
  `Frame.parse_eq_ok_iff`.
* `WireForm : UInt8 → List UInt8 → List UInt8 → Prop` — the format place by place, said without
  the functions that write and read it.
* `Frame.codec_exact` — what can be read is exactly what can be written.
-/
import Mathlib.Algebra.GroupWithZero.Nat
import Mathlib.Data.List.Basic
import SerialHid.Frame

namespace SerialHid

/-! ## The checksum -/

theorem checksum_toNat (bytes : List UInt8) :
    (checksum bytes).toNat = (bytes.map UInt8.toNat).sum % 256 := by
  induction bytes with
  | nil => rfl
  | cons b bs ih =>
    rw [checksum, UInt8.toNat_add, ih, List.map_cons, List.sum_cons]
    exact Nat.add_mod_mod ..

/-! ## The partial header -/

namespace FrameHeader

/-- What follows the five bytes is not looked at. -/
theorem parse_append (h : FrameHeader) (rest : List UInt8) :
    parse (frameHeader ++ h.command :: h.declared :: rest) = .ok h := by
  simp [parse, frameHeader]

theorem parse_eq_ok_iff {bytes : List UInt8} {h : FrameHeader} :
    parse bytes = .ok h ↔ ∃ rest, bytes = frameHeader ++ h.command :: h.declared :: rest := by
  constructor
  · intro hparse
    unfold parse at hparse
    split at hparse
    · rename_i b0 b1 b2 command declared rest
      split at hparse
      · rename_i hheader
        cases hparse
        exact ⟨rest, by rw [← hheader]; rfl⟩
      · cases hparse
    · cases hparse
  · rintro ⟨rest, rfl⟩
    exact parse_append h rest

/-- A part of a frame that is long enough to hold the header says the same as the whole. -/
theorem parse_of_isPrefix {start bytes : List UInt8} {h : FrameHeader} (hparse : parse bytes = .ok h)
    (hstart : start <+: bytes) (hlong : partialHeaderSize ≤ start.length) :
    parse start = .ok h := by
  obtain ⟨rest, rfl⟩ := parse_eq_ok_iff.mp hparse
  have hheader : frameHeader ++ [h.command, h.declared] <+: start := by
    refine List.prefix_of_prefix_length_le ?_ hstart hlong
    exact ⟨rest, by simp⟩
  obtain ⟨rest', rfl⟩ := hheader
  simpa using parse_append h rest'

end FrameHeader

/-! ## Frames -/

namespace Frame

variable {f : Frame} {bytes : List UInt8}

/-- The header of the frame. -/
def header (f : Frame) : FrameHeader := ⟨f.command, UInt8.ofNat f.payload.length⟩

theorem body_eq (f : Frame) :
    f.body = frameHeader ++ f.header.command :: f.header.declared :: f.payload := rfl

theorem toNat_declared (f : Frame) : f.header.declared.toNat = f.payload.length :=
  UInt8.toNat_ofNat_of_lt' (Nat.lt_succ_of_le f.payload_le)

theorem length_body (f : Frame) : f.body.length = f.payload.length + 5 := by
  simp [body_eq, frameHeader]

theorem length_bytes (f : Frame) : f.bytes.length = f.payload.length + minFrameSize := by
  simp [bytes, length_body, minFrameSize]

theorem frameLength_header (f : Frame) : f.header.frameLength = f.bytes.length := by
  simp only [FrameHeader.frameLength, FrameHeader.remaining, toNat_declared, length_bytes,
    partialHeaderSize, minFrameSize]
  omega

theorem headerParse_body_append (f : Frame) (rest : List UInt8) :
    FrameHeader.parse (f.body ++ rest) = .ok f.header :=
  FrameHeader.parse_eq_ok_iff.mpr ⟨f.payload ++ rest, by simp [body_eq]⟩

/-- Once header and length are right, the last byte decides. -/
theorem parse_body_concat (f : Frame) (last : UInt8) :
    parse (f.body ++ [last]) =
      if f.checksum = last then .ok f else .error (.checksumMismatch f.checksum last) := by
  have hlength : (f.body ++ [last]).length = f.header.frameLength := by
    rw [frameLength_header, bytes, List.length_append, List.length_append]
    rfl
  have hdrop : f.body.drop partialHeaderSize = f.payload := by
    simp [body_eq, frameHeader, partialHeaderSize]
  have hsum : SerialHid.checksum f.body = f.checksum := rfl
  simp only [parse, headerParse_body_append, hlength, List.dropLast_concat, List.getLastD_concat,
    hdrop, hsum, dif_pos]
  rfl

/-- Bytes of the announced length are a body and one byte more. -/
theorem exists_body_concat {h : FrameHeader} (hheader : FrameHeader.parse bytes = .ok h)
    (hlength : bytes.length = h.frameLength) :
    ∃ f last, header f = h ∧ bytes = f.body ++ [last] := by
  obtain ⟨rest, rfl⟩ := FrameHeader.parse_eq_ok_iff.mp hheader
  have hrest : rest.length = h.declared.toNat + 1 := by
    simp only [FrameHeader.frameLength, FrameHeader.remaining, partialHeaderSize, frameHeader,
      List.length_append, List.length_cons, List.length_nil] at hlength
    omega
  obtain ⟨payload, last, rfl⟩ : ∃ payload last, rest = payload ++ [last] := by
    refine ⟨rest.dropLast, rest.getLast ?_, (List.dropLast_append_getLast _).symm⟩
    rintro rfl
    cases hrest
  have hpayload : payload.length = h.declared.toNat := by simpa using hrest
  have hfits : payload.length ≤ 255 := by
    have := h.declared.toNat_lt
    omega
  have hdeclared : UInt8.ofNat payload.length = h.declared := by rw [hpayload, UInt8.ofNat_toNat]
  refine ⟨⟨h.command, payload, hfits⟩, last, by rw [header, hdeclared], ?_⟩
  simp [body, hdeclared]

/-- What is written is read back. -/
theorem parse_bytes (f : Frame) : parse f.bytes = .ok f := by
  rw [bytes, parse_body_concat, if_pos rfl]

/-- What is read is what was written. -/
theorem bytes_of_parse (h : parse bytes = .ok f) : f.bytes = bytes := by
  have hshape : ∃ g last, bytes = body g ++ [last] := by
    unfold parse at h
    split at h
    · cases h
    rename_i hd hheader
    split at h
    · rename_i hlength
      obtain ⟨g, last, -, hbytes⟩ := exists_body_concat hheader hlength
      exact ⟨g, last, hbytes⟩
    · cases h
  obtain ⟨g, last, rfl⟩ := hshape
  rw [parse_body_concat] at h
  split at h
  · rename_i hsum
    cases h
    rw [bytes, hsum]
  · cases h

theorem parse_eq_ok_iff : parse bytes = .ok f ↔ f.bytes = bytes :=
  ⟨bytes_of_parse, fun h => h ▸ parse_bytes f⟩

theorem bytes_inj {g : Frame} : f.bytes = g.bytes ↔ f = g :=
  ⟨fun h => Except.ok.inj (f.parse_bytes.symm.trans (h ▸ g.parse_bytes)), congrArg bytes⟩

theorem verifies_bytes (f : Frame) : verifies f.bytes = true := by
  have hlong : minFrameSize ≤ f.bytes.length := by rw [length_bytes]; omega
  have hsum : SerialHid.checksum f.bytes.dropLast = f.bytes.getLastD 0 := by
    rw [bytes, List.dropLast_concat, List.getLastD_concat]
    rfl
  simp [verifies, hlong, hsum]

theorem ofPayload?_eq_some_iff {command : UInt8} {payload : List UInt8} :
    ofPayload? command payload = some f ↔ f.command = command ∧ f.payload = payload := by
  unfold ofPayload?
  split
  · rename_i hfits
    rw [Option.some.injEq]
    constructor
    · rintro rfl
      exact ⟨rfl, rfl⟩
    · rintro ⟨rfl, rfl⟩
      rfl
  · rename_i hfits
    simp only [reduceCtorEq, false_iff, not_and]
    rintro - rfl
    exact hfits f.payload_le

end Frame

/-! ## The format -/

/-- The bytes of a frame with this command and payload, place by place: the header, the command,
the length of the payload, the payload, and the low byte of the sum of all that precedes. -/
structure WireForm (command : UInt8) (payload bytes : List UInt8) : Prop where
  size : bytes.length = payload.length + 6
  header : bytes.take 3 = [0x57, 0xAB, 0x00]
  command : bytes[3]? = some command
  announced : bytes[4]?.map UInt8.toNat = some payload.length
  payload : (bytes.drop 5).dropLast = payload
  sum : bytes.getLast?.map UInt8.toNat = some ((bytes.dropLast.map UInt8.toNat).sum % 256)

theorem Frame.wireForm (f : Frame) : WireForm f.command f.payload f.bytes where
  size := f.length_bytes
  header := by simp [bytes, body_eq, frameHeader]
  command := by simp [bytes, body_eq, frameHeader, Frame.header]
  announced := by
    have hplace : f.bytes[4]? = some f.header.declared := by simp [bytes, body_eq, frameHeader]
    rw [hplace, Option.map_some, toNat_declared]
  payload := by simp [bytes, body_eq, frameHeader]
  sum := by
    rw [bytes, List.getLast?_concat, List.dropLast_concat, Option.map_some, Frame.checksum,
      checksum_toNat]

/-- **What can be read is exactly what can be written.** A command and a payload of at most 255
bytes have one frame, in the wire form of the two, and it is read back from its bytes. A byte list
can be read exactly if it is the bytes of such a frame; then writing what was read gives the same
bytes again, every part of them that holds the header tells the command and the whole length, and
the checksum holds. -/
theorem Frame.codec_exact :
    (∀ command payload, payload.length ≤ 255 → ∃ f, Frame.ofPayload? command payload = some f ∧
      Frame.parse f.bytes = .ok f ∧ f.command = command ∧ f.payload = payload ∧
      f.bytes.getLast? = some f.checksum ∧ WireForm command payload f.bytes) ∧
    (∀ bytes, (∃ f, Frame.parse bytes = .ok f) ↔
      ∃ command payload f, payload.length ≤ 255 ∧ Frame.ofPayload? command payload = some f ∧
        f.bytes = bytes) ∧
    ∀ bytes f, Frame.parse bytes = .ok f →
      (Frame.ofPayload? f.command f.payload).map Frame.bytes = some bytes ∧
      (∀ start, start <+: bytes → 5 ≤ start.length → ∃ h, FrameHeader.parse start = .ok h ∧
        h.command = f.command ∧ h.frameLength = bytes.length) ∧
      verifies bytes = true := by
  refine ⟨?_, ?_, ?_⟩
  · intro command payload hfits
    let f : Frame := ⟨command, payload, hfits⟩
    refine ⟨f, ofPayload?_eq_some_iff.mpr ⟨rfl, rfl⟩, f.parse_bytes, rfl, rfl, ?_, f.wireForm⟩
    rw [bytes, List.getLast?_concat]
  · intro bytes
    constructor
    · rintro ⟨f, hparse⟩
      exact ⟨f.command, f.payload, f, f.payload_le, ofPayload?_eq_some_iff.mpr ⟨rfl, rfl⟩,
        bytes_of_parse hparse⟩
    · rintro ⟨-, -, f, -, -, rfl⟩
      exact ⟨f, f.parse_bytes⟩
  · intro bytes f hparse
    obtain rfl := bytes_of_parse hparse
    refine ⟨?_, ?_, f.verifies_bytes⟩
    · rw [ofPayload?_eq_some_iff.mpr ⟨rfl, rfl⟩, Option.map_some]
    · intro start hstart hlong
      have hheader : FrameHeader.parse f.bytes = .ok f.header := f.headerParse_body_append _
      exact ⟨f.header, FrameHeader.parse_of_isPrefix hheader hstart hlong, rfl, f.frameLength_header⟩

/-- An answer that tells the status: version 1.0, connected, number and scroll lock lit. -/
def statusBytes : List UInt8 := [0x57, 0xAB, 0x00, 0x81, 0x03, 0x30, 0x01, 0x05, 0xBC]

theorem Frame.codec_exact_status :
    ([0x30, 0x01, 0x05] : List UInt8).length ≤ 255 ∧
    (∃ f, Frame.ofPayload? 0x81 [0x30, 0x01, 0x05] = some f ∧ Frame.parse f.bytes = .ok f ∧
      f.command = 0x81 ∧ f.payload = [0x30, 0x01, 0x05] ∧ f.bytes.getLast? = some f.checksum ∧
      WireForm 0x81 [0x30, 0x01, 0x05] f.bytes) ∧
    ∃ f, Frame.parse statusBytes = .ok f ∧
      (Frame.ofPayload? f.command f.payload).map Frame.bytes = some statusBytes ∧
      (statusBytes.take 5 <+: statusBytes ∧ 5 ≤ (statusBytes.take 5).length ∧
        ∃ h, FrameHeader.parse (statusBytes.take 5) = .ok h ∧ h.command = f.command ∧
          h.frameLength = statusBytes.length) ∧
      verifies statusBytes = true := by
  obtain ⟨hwrite, -, hread⟩ := Frame.codec_exact
  have hfits : ([0x30, 0x01, 0x05] : List UInt8).length ≤ 255 := by decide
  have hparse : Frame.parse statusBytes = .ok ⟨0x81, [0x30, 0x01, 0x05], by decide⟩ := by decide
  obtain ⟨hrebuilt, hstart, hverified⟩ := hread statusBytes _ hparse
  have htake : statusBytes.take 5 <+: statusBytes := List.take_prefix ..
  exact ⟨hfits, hwrite 0x81 _ hfits, _, hparse, hrebuilt,
    ⟨htake, by decide, hstart _ htake (by decide)⟩, hverified⟩

end SerialHid
