/-
SerialHid.Proofs.Reader — one answer is read, however its bytes are cut into pieces.

* `delivered`, `stopping` — the bytes that come before the line stops, and the reads from that point
  on; `lineFailure?` is the reason, where the line stops because it fails.
* `answerTo : Option String → List UInt8 → Answer` — the answer that belongs to these bytes, said
  without pieces.
* `Reader.collect_of_le`, `Reader.collect_of_lt` — so many bytes are collected, or those that come.
* `Reader.response_exact` — an answer is read as its bytes have it, and no byte after it is touched.
-/
import SerialHid.Proofs.Codec
import SerialHid.Reader

namespace SerialHid

/-! ## The bytes on the line -/

/-- The bytes that come before the line stops. -/
def delivered : List ReadEvent → List UInt8
  | .data chunk :: rest => if chunk.isEmpty then [] else chunk ++ delivered rest
  | .interrupted :: rest => delivered rest
  | _ => []

/-- The reads from the one at which the line stops: a read in which nothing comes in time, the end
of the stream, or a failure. -/
def stopping : List ReadEvent → List ReadEvent
  | .data chunk :: rest => if chunk.isEmpty then .data chunk :: rest else stopping rest
  | .interrupted :: rest => stopping rest
  | events => events

/-- Why the line fails, if that is how it stops. -/
def lineFailure? (events : List ReadEvent) : Option String :=
  match stopping events with
  | .failed reason :: _ => some reason
  | _ => none

/-- The answer when the line stops too early. -/
def brokenOff (failure : Option String) (expected received : Nat) : Answer :=
  match failure with
  | some reason => .error (.io reason)
  | none => .error (.shortRead expected received)

theorem brokenOff_ne_ok (failure : Option String) (expected received : Nat) (frame : List UInt8) :
    brokenOff failure expected received ≠ .ok frame := by
  intro h
  unfold brokenOff at h
  split at h <;> cases h

theorem brokenOff_ne_badFrame (failure : Option String) (expected received : Nat)
    (reason : FrameError) : brokenOff failure expected received ≠ .error (.badFrame reason) := by
  intro h
  unfold brokenOff at h
  split at h <;> cases h

theorem received_of_brokenOff {failure : Option String} {n m expected received : Nat}
    (h : brokenOff failure n m = .error (.shortRead expected received)) :
    expected = n ∧ received = m := by
  unfold brokenOff at h
  split at h
  · cases h
  · cases h
    exact ⟨rfl, rfl⟩

/-- The answer that belongs to the bytes before the line stops: five of them tell how many there
must be. -/
def answerTo (failure : Option String) (bytes : List UInt8) : Answer :=
  match bytes with
  | b0 :: b1 :: b2 :: _ :: declared :: _ =>
    if [b0, b1, b2] = [0x57, 0xAB, 0x00] then
      if 6 + declared.toNat ≤ bytes.length then .ok (bytes.take (6 + declared.toNat))
      else brokenOff failure (6 + declared.toNat) bytes.length
    else .error (.badFrame (.badHeader b0 b1 b2))
  | _ => brokenOff failure 5 bytes.length

/-- Just so many bytes were taken from the line, and it is otherwise as before. -/
def Consumed (n : Nat) (events rest : List ReadEvent) : Prop :=
  delivered rest = (delivered events).drop n ∧ stopping rest = stopping events

theorem lineFailure?_of_consumed {n : Nat} {events rest : List ReadEvent}
    (h : Consumed n events rest) : lineFailure? rest = lineFailure? events := by
  unfold lineFailure?
  rw [h.2]

theorem Consumed.trans {m n : Nat} {events between rest : List ReadEvent}
    (h : Consumed m events between) (h' : Consumed n between rest) :
    Consumed (m + n) events rest := by
  obtain ⟨hbytes, hstop⟩ := h
  obtain ⟨hbytes', hstop'⟩ := h'
  refine ⟨?_, hstop'.trans hstop⟩
  rw [hbytes', hbytes, List.drop_drop]

theorem delivered_data {chunk : List UInt8} (rest : List ReadEvent) (h : chunk ≠ []) :
    delivered (.data chunk :: rest) = chunk ++ delivered rest := by
  simp [delivered, h]

theorem stopping_data {chunk : List UInt8} (rest : List ReadEvent) (h : chunk ≠ []) :
    stopping (.data chunk :: rest) = stopping rest := by
  simp [stopping, h]

theorem lineFailure?_data {chunk : List UInt8} (rest : List ReadEvent) (h : chunk ≠ []) :
    lineFailure? (.data chunk :: rest) = lineFailure? rest := by
  unfold lineFailure?
  rw [stopping_data rest h]

namespace Reader

/-! ## Collecting -/

theorem consumed_leftover {chunk : List UInt8} (rest : List ReadEvent) (n : Nat)
    (hchunk : chunk ≠ []) (h : n ≤ chunk.length) :
    Consumed n (.data chunk :: rest) (leftover (chunk.drop n) rest) := by
  unfold Consumed
  rw [delivered_data rest hchunk, stopping_data rest hchunk, List.drop_append_of_le_length h]
  by_cases hdrop : chunk.drop n = []
  · rw [hdrop]
    exact ⟨rfl, rfl⟩
  · have hleft : leftover (chunk.drop n) rest = .data (chunk.drop n) :: rest := by
      rw [leftover, if_neg]
      simpa using hdrop
    rw [hleft]
    exact ⟨delivered_data rest hdrop, stopping_data rest hdrop⟩

/-- Where enough bytes come, just so many are taken. -/
theorem collect_of_le (n : Nat) (events : List ReadEvent) (h : n ≤ (delivered events).length) :
    ∃ rest, collect n events = ⟨(delivered events).take n, none, rest⟩ ∧
      Consumed n events rest := by
  induction events generalizing n with
  | nil =>
    obtain rfl : n = 0 := by simpa [delivered] using h
    exact ⟨[], rfl, rfl, rfl⟩
  | cons e events ih =>
    cases n with
    | zero => exact ⟨e :: events, rfl, rfl, rfl⟩
    | succ n =>
      cases e with
      | data chunk =>
        by_cases hchunk : chunk = []
        · simp [delivered, hchunk] at h
        have hnonempty : chunk.isEmpty = false := by simpa using hchunk
        rw [delivered_data events hchunk, List.length_append] at h
        rw [delivered_data events hchunk]
        by_cases hlong : chunk.length ≤ n
        · obtain ⟨rest, hcollect, hbytes, hstop⟩ := ih (n + 1 - chunk.length) (by omega)
          refine ⟨rest, ?_, ?_, ?_⟩
          · simp only [collect, hnonempty, hcollect, if_pos hlong, Bool.false_eq_true, if_false]
            rw [List.take_append, List.take_of_length_le (by omega : chunk.length ≤ n + 1)]
          · rw [hbytes, delivered_data events hchunk, List.drop_append,
              List.drop_of_length_le (by omega : chunk.length ≤ n + 1), List.nil_append]
          · rw [hstop, stopping_data events hchunk]
        · refine ⟨leftover (chunk.drop (n + 1)) events, ?_, ?_⟩
          · simp only [collect, hnonempty, if_neg hlong, Bool.false_eq_true, if_false]
            rw [List.take_append_of_le_length (by omega)]
          · exact consumed_leftover events (n + 1) hchunk (by omega)
      | interrupted => exact ih (n + 1) h
      | timedOut => simp [delivered] at h
      | failed reason => simp [delivered] at h

/-- Where the line stops before, all bytes that come are taken. -/
theorem collect_of_lt (n : Nat) (events : List ReadEvent) (h : (delivered events).length < n) :
    ∃ rest, collect n events = ⟨delivered events, lineFailure? events, rest⟩ := by
  induction events generalizing n with
  | nil =>
    obtain ⟨n, rfl⟩ := Nat.exists_eq_succ_of_ne_zero (Nat.ne_of_gt (Nat.zero_lt_of_lt h))
    exact ⟨[], rfl⟩
  | cons e events ih =>
    obtain ⟨n, rfl⟩ := Nat.exists_eq_succ_of_ne_zero (Nat.ne_of_gt (Nat.zero_lt_of_lt h))
    cases e with
    | data chunk =>
      by_cases hchunk : chunk = []
      · subst hchunk
        exact ⟨events, rfl⟩
      have hnonempty : chunk.isEmpty = false := by simpa using hchunk
      rw [delivered_data events hchunk, List.length_append] at h
      obtain ⟨rest, hcollect⟩ := ih (n + 1 - chunk.length) (by omega)
      refine ⟨rest, ?_⟩
      have hlong : chunk.length ≤ n := by omega
      simp only [collect, hnonempty, hcollect, if_pos hlong, Bool.false_eq_true, if_false]
      rw [delivered_data events hchunk, lineFailure?_data events hchunk]
    | interrupted => exact ih (n + 1) h
    | timedOut => exact ⟨events, rfl⟩
    | failed reason => exact ⟨events, rfl⟩

theorem part_of_le (n : Nat) (events : List ReadEvent) (h : n ≤ (delivered events).length) :
    ∃ rest, part n events = ⟨.ok ((delivered events).take n), [], rest⟩ ∧
      Consumed n events rest := by
  obtain ⟨rest, hcollect, hrest⟩ := collect_of_le n events h
  refine ⟨rest, ?_, hrest⟩
  have hlength : ((delivered events).take n).length = n := by
    rw [List.length_take]
    omega
  simp only [part, hcollect, hlength, Nat.lt_irrefl, if_false]

theorem part_of_lt (n : Nat) (events : List ReadEvent) (h : (delivered events).length < n) :
    (part n events).answer = brokenOff (lineFailure? events) n (delivered events).length := by
  obtain ⟨rest, hcollect⟩ := collect_of_lt n events h
  unfold part brokenOff
  cases hfailure : lineFailure? events with
  | some reason => simp only [hcollect, hfailure]
  | none => simp only [hcollect, hfailure, if_pos h]

/-! ## One answer -/

/-- A line that stops before the length is known. -/
theorem response_of_short {events : List ReadEvent} (h : (delivered events).length < 5) :
    (response events).answer = brokenOff (lineFailure? events) 5 (delivered events).length := by
  have hpart : (part partialHeaderSize events).answer =
      brokenOff (lineFailure? events) 5 (delivered events).length := part_of_lt _ events h
  obtain ⟨e, he⟩ : ∃ e, (part partialHeaderSize events).answer = .error e := by
    rw [hpart]
    unfold brokenOff
    split <;> exact ⟨_, rfl⟩
  rw [← hpart]
  simp only [response, he]

variable {events : List ReadEvent} {b0 b1 b2 command declared : UInt8} {more : List UInt8}

/-- Five bytes that do not open a frame. -/
theorem response_of_badHeader
    (hbytes : delivered events = b0 :: b1 :: b2 :: command :: declared :: more)
    (hheader : [b0, b1, b2] ≠ frameHeader) :
    (response events).answer = .error (.badFrame (.badHeader b0 b1 b2)) ∧
      Consumed 5 events (response events).rest := by
  have hlong : partialHeaderSize ≤ (delivered events).length := by
    rw [hbytes]
    simp [partialHeaderSize]
  obtain ⟨rest, hpart, hrest⟩ := part_of_le _ events hlong
  have hparse : FrameHeader.parse ((delivered events).take partialHeaderSize) =
      .error (.badHeader b0 b1 b2) := by
    rw [hbytes]
    exact if_neg hheader
  have hresponse : response events =
      ⟨.error (.badFrame (.badHeader b0 b1 b2)), [], rest⟩ := by
    simp only [response, hpart, hparse]
  rw [hresponse]
  exact ⟨rfl, hrest⟩

/-- Five bytes that open a frame: the rest of it is read against its announced length. -/
theorem response_of_header
    (hbytes : delivered events = b0 :: b1 :: b2 :: command :: declared :: more)
    (hheader : [b0, b1, b2] = frameHeader) :
    ((response events).answer =
      if 6 + declared.toNat ≤ (delivered events).length then
        .ok ((delivered events).take (6 + declared.toNat))
      else brokenOff (lineFailure? events) (6 + declared.toNat) (delivered events).length) ∧
    (6 + declared.toNat ≤ (delivered events).length →
      Consumed (6 + declared.toNat) events (response events).rest) := by
  let h : FrameHeader := ⟨command, declared⟩
  have hlong : partialHeaderSize ≤ (delivered events).length := by
    rw [hbytes]
    simp [partialHeaderSize]
  obtain ⟨between, hpart, hbetween⟩ := part_of_le _ events hlong
  have hparse : FrameHeader.parse ((delivered events).take partialHeaderSize) = .ok h := by
    rw [hbytes]
    exact if_pos hheader
  have hresponse : response events =
      { part h.remaining between with
        answer := ((part h.remaining between).answer.map
          ((delivered events).take partialHeaderSize ++ ·)).mapError (wholeFrame h)
        notices := [] ++ (part h.remaining between).notices } := by
    simp only [response, hpart, hparse]
  have hneed : partialHeaderSize + h.remaining = 6 + declared.toNat := by
    change 5 + (declared.toNat + 1) = 6 + declared.toNat
    omega
  have hlength : (delivered between).length = (delivered events).length - partialHeaderSize := by
    rw [hbetween.1, List.length_drop]
  rw [hresponse]
  by_cases henough : 6 + declared.toNat ≤ (delivered events).length
  · obtain ⟨rest, hsecond, hrest⟩ := part_of_le h.remaining between (by omega)
    rw [hsecond, if_pos henough, ← hneed]
    refine ⟨?_, fun _ => hbetween.trans hrest⟩
    change Except.ok (_ ++ _) = _
    rw [hbetween.1, ← List.take_add]
  · have hsecond := part_of_lt h.remaining between (by omega)
    rw [lineFailure?_of_consumed hbetween] at hsecond
    refine ⟨?_, fun hle => absurd hle henough⟩
    rw [if_neg henough, ← hneed]
    change ((part h.remaining between).answer.map _).mapError (wholeFrame h) = _
    rw [hsecond, hlength]
    unfold brokenOff
    cases lineFailure? events with
    | some reason => rfl
    | none =>
      -- What came in the second part is counted together with the five bytes before it.
      have hreceived : partialHeaderSize + ((delivered events).length - partialHeaderSize) =
          (delivered events).length := by omega
      change Except.error (LinkError.shortRead h.frameLength _) = _
      rw [hreceived]
      rfl

/-- The answer depends on the bytes alone, and a whole answer or a wrong header takes no byte more
than it needs. -/
theorem response_answer (events : List ReadEvent) :
    (response events).answer = answerTo (lineFailure? events) (delivered events) ∧
    (∀ reason, (response events).answer = .error (.badFrame reason) →
      Consumed 5 events (response events).rest) ∧
    ∀ frame, (response events).answer = .ok frame →
      Consumed frame.length events (response events).rest := by
  by_cases hshort : (delivered events).length < 5
  · have hanswer := response_of_short hshort
    refine ⟨?_, ?_, ?_⟩
    · rw [hanswer]
      unfold answerTo
      split
      · rename_i hbytes
        simp only [hbytes, List.length_cons] at hshort
        omega
      · rfl
    · intro reason hreason
      exact absurd (hanswer.symm.trans hreason) (brokenOff_ne_badFrame _ _ _ _)
    · intro frame hframe
      exact absurd (hanswer.symm.trans hframe) (brokenOff_ne_ok _ _ _ _)
  obtain ⟨b0, b1, b2, command, declared, more, hbytes⟩ :
      ∃ b0 b1 b2 command declared more,
        delivered events = b0 :: b1 :: b2 :: command :: declared :: more := by
    rcases hbytes : delivered events with _ | ⟨b0, _ | ⟨b1, _ | ⟨b2, _ | ⟨b3, _ | ⟨b4, more⟩⟩⟩⟩⟩
    all_goals first
      | exact ⟨_, _, _, _, _, _, rfl⟩
      | exact absurd (by simp [hbytes]) hshort
  by_cases hheader : [b0, b1, b2] = frameHeader
  · obtain ⟨hanswer, hrest⟩ := response_of_header hbytes hheader
    have hspec : answerTo (lineFailure? events) (delivered events) =
        if 6 + declared.toNat ≤ (delivered events).length then
          .ok ((delivered events).take (6 + declared.toNat))
        else brokenOff (lineFailure? events) (6 + declared.toNat) (delivered events).length := by
      rw [hbytes]
      exact if_pos hheader
    rw [hanswer]
    refine ⟨hspec.symm, ?_, ?_⟩
    · intro reason hreason
      split at hreason
      · cases hreason
      · exact absurd hreason (brokenOff_ne_badFrame _ _ _ _)
    · intro frame hframe
      split at hframe
      · rename_i henough
        cases hframe
        rw [List.length_take, Nat.min_eq_left henough]
        exact hrest henough
      · exact absurd hframe (brokenOff_ne_ok _ _ _ _)
  · obtain ⟨hanswer, hrest⟩ := response_of_badHeader hbytes hheader
    rw [hanswer]
    refine ⟨?_, fun _ _ => hrest, fun frame hframe => by cases hframe⟩
    rw [hbytes]
    exact (if_neg hheader).symm

end Reader

/-! ## What an answer is worth -/

/-- Where too few bytes came, fewer came than were expected. -/
theorem answerTo_shortRead {failure : Option String} {bytes : List UInt8}
    {expected received : Nat}
    (h : answerTo failure bytes = .error (.shortRead expected received)) : received < expected := by
  unfold answerTo at h
  split at h
  · split at h
    · split at h
      · cases h
      · obtain ⟨rfl, rfl⟩ := received_of_brokenOff h
        omega
    · cases h
  · rename_i hfew
    obtain ⟨rfl, rfl⟩ := received_of_brokenOff h
    rcases bytes with _ | ⟨b0, _ | ⟨b1, _ | ⟨b2, _ | ⟨b3, _ | ⟨b4, more⟩⟩⟩⟩⟩
    all_goals first
      | exact absurd rfl (hfew _ _ _ _ _ _)
      | simp

/-- Where an answer is whole, it is a frame but for its last byte. -/
theorem answerTo_ok {failure : Option String} {bytes frame : List UInt8}
    (h : answerTo failure bytes = .ok frame) :
    ∃ (f : Frame) (last : UInt8), frame = f.body ++ [last] := by
  unfold answerTo at h
  split at h
  · rename_i b0 b1 b2 command declared more
    split at h
    · rename_i hheader
      split at h
      · rename_i henough
        cases h
        have hheader' : [b0, b1, b2] = frameHeader := hheader
        have hparse : FrameHeader.parse
            ((b0 :: b1 :: b2 :: command :: declared :: more).take (6 + declared.toNat)) =
            .ok ⟨command, declared⟩ := by
          rw [show 6 + declared.toNat = declared.toNat + 1 + 5 by omega]
          exact if_pos hheader'
        obtain ⟨f, last, -, hframe⟩ := Frame.exists_body_concat hparse (by
          rw [List.length_take, Nat.min_eq_left henough]
          change 6 + declared.toNat = 5 + (declared.toNat + 1)
          omega)
        exact ⟨f, last, hframe⟩
      · exact absurd h (brokenOff_ne_ok _ _ _ _)
    · cases h
  · exact absurd h (brokenOff_ne_ok _ _ _ _)

/-- **An answer is read exactly.** Whatever pieces its bytes come in, and however often a read is
interrupted, the answer is the one that belongs to the bytes before the line stops; five bytes are
taken if they do not open a frame, and no byte beyond the frame if it is whole. Bytes that are
missing are counted against all that were expected, and a whole answer is a frame unless its last
byte is not the checksum. -/
theorem Reader.response_exact (events : List ReadEvent) :
    (response events).answer = answerTo (lineFailure? events) (delivered events) ∧
    (∀ reason, (response events).answer = .error (.badFrame reason) →
      Consumed 5 events (response events).rest) ∧
    (∀ frame, (response events).answer = .ok frame →
      Consumed frame.length events (response events).rest) ∧
    (∀ others, delivered others = delivered events → lineFailure? others = lineFailure? events →
      (response others).answer = (response events).answer) ∧
    (∀ expected received, (response events).answer = .error (.shortRead expected received) →
      received < expected) ∧
    ∀ frame, (response events).answer = .ok frame →
      ((∃ reason, Frame.parse frame = .error reason) ↔
        frame.getLast? ≠ some (checksum frame.dropLast)) ∧
      ∀ reason, Frame.parse frame = .error reason →
        ∃ expected actual, reason = .checksumMismatch expected actual := by
  obtain ⟨hanswer, hheader, hwhole⟩ := response_answer events
  refine ⟨hanswer, hheader, hwhole, ?_, ?_, ?_⟩
  · intro others hbytes hfailure
    rw [hanswer, (response_answer others).1, hbytes, hfailure]
  · intro expected received hshort
    exact answerTo_shortRead (hanswer.symm.trans hshort)
  · intro frame hframe
    obtain ⟨f, last, rfl⟩ := answerTo_ok (hanswer.symm.trans hframe)
    have hsum : SerialHid.checksum f.body = f.checksum := rfl
    rw [Frame.parse_body_concat, List.getLast?_concat, List.dropLast_concat, hsum]
    by_cases hlast : f.checksum = last
    · rw [if_pos hlast, hlast]
      simp
    · rw [if_neg hlast]
      refine ⟨?_, ?_⟩
      · simp [Ne.symm hlast]
      · intro reason hreason
        cases hreason
        exact ⟨_, _, rfl⟩

/-- A status answer in four pieces, the last of which holds bytes of another answer. -/
def piecewise : List ReadEvent :=
  [.data [0x57], .interrupted, .data [0xAB, 0x00, 0x81, 0x03, 0x30], .interrupted, .interrupted,
    .data [0x01], .data [0x05, 0xBC, 0x57, 0xAB], .timedOut, .data [0x00]]

example : (Reader.response piecewise).answer = .ok statusBytes := by decide

theorem Reader.response_exact_piecewise :
    (response piecewise).answer = .ok statusBytes ∧
    Consumed 9 piecewise (response piecewise).rest ∧
    (delivered [.data (statusBytes ++ [0x57, 0xAB])] = delivered piecewise ∧
      lineFailure? [.data (statusBytes ++ [0x57, 0xAB])] = lineFailure? piecewise ∧
      (response [.data (statusBytes ++ [0x57, 0xAB])]).answer = (response piecewise).answer) := by
  obtain ⟨-, -, hwhole, hsame, -⟩ := response_exact piecewise
  have hanswer : (response piecewise).answer = .ok statusBytes := by decide
  exact ⟨hanswer, hwhole statusBytes hanswer, by decide, by decide, hsame _ (by decide) (by decide)⟩

end SerialHid
