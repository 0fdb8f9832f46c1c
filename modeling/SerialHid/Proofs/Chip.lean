/-
SerialHid.Proofs.Chip — a simulated chip takes each fault once, and its record is exact.

* `Chip.Reads` — what somebody finds who reads an answer as a frame, by the fault in it.
* `Chip.Takes` — which of the faults that wait a request takes, said of the queue alone.
* `Chip.Exchanged` — what one request leads to; by `Chip.exchanged_exchange` the chip goes by it.
* `ChipBench.trail` — the steps of a run, each with what stood before it; what was recorded, queued
  and taken in the run is read off it.
* `ChipBench.Booked` — the record, the faults and the connections after a run. One step more books
  one more entry: `ChipBench.Booked.step`.
* `ChipBench.record_exact` — that all of this holds, for every chip and for every run.
-/
import Mathlib.Data.List.Induction
import SerialHid.Chip
import SerialHid.Event
import SerialHid.Proofs.Refusal

namespace SerialHid

namespace Chip

/-! ## Answers as frames -/

theorem xor_ne (b : UInt8) : b ≠ b ^^^ 0xFF := by
  intro h
  have hzero : b ^^^ b = b ^^^ (b ^^^ 0xFF) := congrArg (b ^^^ ·) h
  rw [UInt8.xor_self, ← UInt8.xor_assoc, UInt8.xor_self, UInt8.zero_xor] at hzero
  exact absurd hzero (by decide)

theorem parse_invertChecksum (f : Frame) :
    Frame.parse (invertChecksum f) = .error (.checksumMismatch f.checksum (f.checksum ^^^ 0xFF)) :=
  Frame.parse_eq_error_iff.mpr (.sum f _ (xor_ne f.checksum))

theorem parse_clearFirst (f : Frame) :
    Frame.parse (clearFirst f) = .error (.badHeader 0x00 0xAB 0x00) := by
  have hrefused := Refused.header 0x00 0xAB 0x00 f.command f.header.declared
    (f.payload ++ [f.checksum]) (by decide)
  rw [← Frame.parse_eq_error_iff] at hrefused
  rw [← hrefused, clearFirst, Frame.bytes_eq]
  rfl

/-- What an answer to a request with this command is to who reads it as a frame, by the fault in
it. -/
inductive Reads (command : UInt8) : Option ChipFault → Answer → Prop where
  | good {bytes : List UInt8} {f : Frame} (hparse : Frame.parse bytes = .ok f)
      (hcommand : f.command = command + 0x80) : Reads command none (.ok bytes)
  | silent : Reads command (some .shortRead) (.error (.shortRead 5 0))
  | badChecksum {bytes : List UInt8} {expected actual : UInt8}
      (hparse : Frame.parse bytes = .error (.checksumMismatch expected actual)) :
      Reads command (some .badChecksum) (.ok bytes)
  | badHeader {bytes : List UInt8} {b0 b1 b2 : UInt8}
      (hparse : Frame.parse bytes = .error (.badHeader b0 b1 b2)) :
      Reads command (some .badHeader) (.ok bytes)
  | deviceError {bytes : List UInt8} {f : Frame} {code : UInt8}
      (hparse : Frame.parse bytes = .ok f) (hcommand : f.command = command + 0xC0)
      (hpayload : f.payload = [code]) : Reads command (some (.deviceError code)) (.ok bytes)
  | wrongAck {bytes : List UInt8} {f : Frame} (hparse : Frame.parse bytes = .ok f)
      (hcommand : f.command = command + 0x80 + 1) : Reads command (some .wrongAck) (.ok bytes)

theorem command_goodAnswer (chip : Chip) (command : UInt8) :
    (chip.goodAnswer command).command = command + 0x80 := by
  rw [goodAnswer]
  split
  · rename_i h
    rw [h]
    rfl
  · rfl

/-- Only the faults that garble an answer keep it from being a frame, whatever the command. -/
theorem reads_respond (chip : Chip) (command : UInt8) (fault : Option ChipFault) :
    Reads command fault (chip.respond command fault) := by
  match fault with
  | none => exact .good (Frame.parse_bytes _) (command_goodAnswer chip command)
  | some .shortRead => exact .silent
  | some .badChecksum => exact .badChecksum (parse_invertChecksum _)
  | some .badHeader => exact .badHeader (parse_clearFirst _)
  | some (.deviceError code) => exact .deviceError (Frame.parse_bytes _) rfl rfl
  | some .wrongAck => exact .wrongAck (Frame.parse_bytes _) rfl

/-! ## Faults that wait -/

/-- A fault with this target is for the command: it is for any command, or for this one. -/
def IsFor (command : UInt8) (target : Option UInt8) : Prop := target = none ∨ target = some command

/-- Of the faults that wait the earliest one for the command is taken, and the others stay in their
order. -/
inductive Takes (command : UInt8) (faults : List (Option UInt8 × ChipFault)) :
    Option (Option UInt8 × ChipFault) → List (Option UInt8 × ChipFault) → Prop where
  | earliest {before after : List (Option UInt8 × ChipFault)} {taken : Option UInt8 × ChipFault}
      (hfaults : faults = before ++ taken :: after) (hbefore : ∀ w ∈ before, ¬ IsFor command w.1)
      (htaken : IsFor command taken.1) : Takes command faults (some taken) (before ++ after)
  | none (h : ∀ w ∈ faults, ¬ IsFor command w.1) : Takes command faults none faults

/-- What an exchange leads to: which of the faults that wait it takes, its answer, and the chip
afterwards. -/
inductive Exchanged (chip : Chip) (request : List UInt8) :
    Option (Option UInt8 × ChipFault) → Answer → Chip → Prop where
  | refused {shown : String} (h : checkRequest request = .error (.invalidRequest shown)) :
      Exchanged chip request none (.error (.invalidRequest shown)) chip
  /-- Where no fault waits for the command, the persistent one is used, if there is one. -/
  | recorded {taken : Option (Option UInt8 × ChipFault)}
      {rest : List (Option UInt8 × ChipFault)} (h : checkRequest request = .ok ())
      (htakes : Takes (commandOf request) chip.faults taken rest) :
      Exchanged chip request taken
        (chip.respond (commandOf request) (taken.map Prod.snd <|> chip.persistent))
        { chip with faults := rest, requests := chip.requests ++ [request] }

section Faults

variable {command : UInt8} {chip : Chip} {request : List UInt8}
  {faults rest : List (Option UInt8 × ChipFault)} {taken : Option (Option UInt8 × ChipFault)}

/-- The fault waits for a request with this command. -/
def waitsFor (command : UInt8) (w : Option UInt8 × ChipFault) : Bool := concerns command w.1

theorem waitsFor_iff {w : Option UInt8 × ChipFault} :
    waitsFor command w = true ↔ IsFor command w.1 := by
  rw [waitsFor]
  cases w.1 <;> simp [concerns, IsFor]

/-- The first one that waits for the command, and the queue without it. -/
theorem takeFault_eq (command : UInt8) (faults : List (Option UInt8 × ChipFault)) :
    takeFault command faults =
      ((faults.find? (waitsFor command)).map Prod.snd, faults.eraseP (waitsFor command)) := by
  induction faults with
  | nil => rfl
  | cons w faults ih =>
    cases h : concerns command w.1 with
    | true => simp [takeFault, waitsFor, h]
    | false => simp [takeFault, waitsFor, h, ih]

theorem takes_find? (command : UInt8) (faults : List (Option UInt8 × ChipFault)) :
    Takes command faults (faults.find? (waitsFor command)) (faults.eraseP (waitsFor command)) := by
  cases h : faults.find? (waitsFor command) with
  | none =>
    have hnone := List.find?_eq_none.mp h
    rw [List.eraseP_of_forall_not hnone]
    exact .none fun w hw hfor => hnone w hw (waitsFor_iff.mpr hfor)
  | some taken =>
    obtain ⟨htaken, before, after, rfl, hbefore⟩ := List.find?_eq_some_iff_append.mp h
    have hpast : ∀ w ∈ before, ¬ waitsFor command w = true := by simpa using hbefore
    rw [List.eraseP_append_right _ hpast, List.eraseP_cons_of_pos htaken]
    exact .earliest rfl (fun w hw hfor => hpast w hw (waitsFor_iff.mpr hfor))
      (waitsFor_iff.mp htaken)

/-- No fault is lost, and none is made. -/
theorem Takes.perm (h : Takes command faults taken rest) :
    faults.Perm (taken.toList ++ rest) := by
  cases h with
  | earliest hfaults =>
    rw [hfaults]
    exact List.perm_middle
  | none => exact List.Perm.refl _

theorem Takes.sublist (h : Takes command faults taken rest) : rest.Sublist faults := by
  cases h with
  | earliest hfaults =>
    rw [hfaults]
    exact (List.sublist_cons_self _ _).append_left _
  | none => exact List.Sublist.refl _

/-- The fault that waits for a request and is taken by it. -/
def takenBy (chip : Chip) (request : List UInt8) : Option (Option UInt8 × ChipFault) :=
  match checkRequest request with
  | .error _ => none
  | .ok () => chip.faults.find? (waitsFor (commandOf request))

theorem exchanged_exchange (chip : Chip) (request : List UInt8) :
    Exchanged chip request (chip.takenBy request) (chip.exchange request).1
      (chip.exchange request).2 := by
  rw [exchange, takenBy]
  by_cases hrequest :
      minFrameSize ≤ request.length ∧ request.take frameHeader.length = frameHeader
  · have hcheck : checkRequest request = .ok () := if_pos hrequest
    rw [hcheck]
    dsimp only
    rw [takeFault_eq]
    exact .recorded hcheck (takes_find? _ _)
  · have hcheck : checkRequest request = .error (.invalidRequest (Hex.spaced request)) :=
      if_neg hrequest
    rw [hcheck]
    exact .refused hcheck

end Faults

end Chip

/-! ## Runs -/

namespace ChipBench

open Chip (Exchanged Reads)

/-- The steps of a run, each with what stood before it. -/
def trail (b : ChipBench) : List ChipStep → List (ChipBench × ChipStep)
  | [] => []
  | s :: rest => (b, s) :: trail (b.step s).2 rest

/-- The request that a step brings before the chip. -/
def asked? : ChipBench × ChipStep → Option (List UInt8)
  | (b, .exchange id request) => if b.isOpen id then some request else none
  | _ => none

/-- The request that a step leaves in the record. -/
def recorded? (s : ChipBench × ChipStep) : Option (List UInt8) :=
  (asked? s).filter fun request => checkRequest request = .ok ()

/-- The fault that waits before a step and is taken by it. -/
def taken? (s : ChipBench × ChipStep) : Option (Option UInt8 × ChipFault) :=
  (asked? s).bind s.1.chip.takenBy

/-- The fault that a step adds to those that wait. -/
def queued? : ChipStep → Option (Option UInt8 × ChipFault)
  | .action (.fault target f) => some (target, f)
  | _ => none

/-- The step is an opening that fails. -/
def isFailedOpening : ChipBench × ChipStep → Bool
  | (b, .openLink) => (b.step .openLink).1.isSome
  | _ => false

/-- How the books of a fresh chip stand after these steps. -/
structure Booked (steps : List ChipStep) (b : ChipBench) : Prop where
  /-- What is recorded are the requests that were good, in their order. -/
  requests : b.chip.requests = (initial.trail steps).filterMap recorded?
  /-- Of the faults that were ever queued each was taken by one step, or waits. -/
  faults : (steps.filterMap queued?).Perm ((initial.trail steps).filterMap taken? ++ b.chip.faults)
  /-- Those that wait are in the order in which they came. -/
  order : b.chip.faults.Sublist (steps.filterMap queued?)
  live : b.chip.opens = b.chip.closes + b.liveLinks
  failed : b.chip.openAttempts = b.chip.opens + (initial.trail steps).countP isFailedOpening

variable {b b' : ChipBench} {s : ChipStep} {steps : List ChipStep}

theorem run_concat (b : ChipBench) (steps : List ChipStep) (s : ChipStep) :
    b.run (steps ++ [s]) = ((b.run steps).step s).2 := by
  rw [run, List.foldl_concat]
  rfl

theorem trail_concat (b : ChipBench) (steps : List ChipStep) (s : ChipStep) :
    b.trail (steps ++ [s]) = b.trail steps ++ [(b.run steps, s)] := by
  induction steps generalizing b with
  | nil => rfl
  | cons s' steps ih => rw [List.cons_append, trail, ih, trail]; rfl

/-- What one step does to the books. -/
structure Books (b : ChipBench) (s : ChipStep) (b' : ChipBench) : Prop where
  requests : b'.chip.requests = b.chip.requests ++ (recorded? (b, s)).toList
  faults : (b.chip.faults ++ (queued? s).toList).Perm ((taken? (b, s)).toList ++ b'.chip.faults)
  order : b'.chip.faults.Sublist (b.chip.faults ++ (queued? s).toList)
  live : b.chip.opens + b'.chip.closes + b'.liveLinks = b'.chip.opens + b.chip.closes + b.liveLinks
  failed : b'.chip.openAttempts + b.chip.opens =
    b.chip.openAttempts + b'.chip.opens + if isFailedOpening (b, s) then 1 else 0

theorem step_exchange {id : Nat} (hopen : b.isOpen id = true) (request : List UInt8) :
    b.step (.exchange id request) =
      (some (b.chip.exchange request).1, { b with chip := (b.chip.exchange request).2 }) := by
  rw [step, if_pos hopen]

/-- A connection that is closed was one of the live ones. -/
theorem liveLinks_close {id : Nat} (hopen : b.isOpen id = true) :
    (b.links.set id false).count true + 1 = b.liveLinks := by
  obtain ⟨hid, hlive⟩ : ∃ hid : id < b.links.length, b.links[id] = true := by
    rw [isOpen, List.getD_eq_getElem?_getD] at hopen
    cases hget : b.links[id]? with
    | none => simp [hget] at hopen
    | some live =>
      obtain ⟨hid, hlive⟩ := List.getElem?_eq_some_iff.mp hget
      rw [hget, Option.getD_some] at hopen
      exact ⟨hid, hlive.trans hopen⟩
  have hpos : 0 < b.links.count true :=
    List.count_pos_iff.mpr (hlive ▸ List.getElem_mem hid)
  rw [liveLinks, List.count_set hid, hlive]
  exact Nat.sub_add_cancel hpos

/-- A step that neither records a request nor touches the faults that wait. -/
theorem Books.quiet (hrecorded : recorded? (b, s) = none) (htaken : taken? (b, s) = none)
    (hqueued : queued? s = none) (hrequests : b'.chip.requests = b.chip.requests)
    (hfaults : b'.chip.faults = b.chip.faults)
    (hlive : b.chip.opens + b'.chip.closes + b'.liveLinks =
      b'.chip.opens + b.chip.closes + b.liveLinks)
    (hfailed : b'.chip.openAttempts + b.chip.opens =
      b.chip.openAttempts + b'.chip.opens + if isFailedOpening (b, s) then 1 else 0) :
    Books b s b' where
  requests := by simp [hrecorded, hrequests]
  faults := by simp [htaken, hqueued, hfaults]
  order := by simp [hqueued, hfaults]
  live := hlive
  failed := hfailed

theorem books_action (b : ChipBench) (a : Chip.Action) :
    Books b (.action a) { b with chip := b.chip.perform a } := by
  cases a with
  | fault target f =>
    exact ⟨(List.append_nil _).symm, List.Perm.refl _, List.Sublist.refl _, rfl, rfl⟩
  | _ => exact .quiet rfl rfl rfl rfl rfl rfl rfl

theorem books_openLink (b : ChipBench) : Books b .openLink (b.step .openLink).2 := by
  cases hfail : b.chip.failOpen with
  | true =>
    have hstep : b.step .openLink = (some (.error Chip.openFailure),
        { b with chip := { b.chip with openAttempts := b.chip.openAttempts + 1 } }) := by
      simp only [step, Chip.openLink, hfail, if_true]
    have hfailed : isFailedOpening (b, .openLink) = true := by rw [isFailedOpening, hstep]; rfl
    rw [hstep]
    refine .quiet rfl rfl rfl rfl rfl rfl ?_
    rw [if_pos hfailed]
    exact Nat.add_right_comm ..
  | false =>
    have hstep : b.step .openLink = (none, ⟨{ b.chip with
        openAttempts := b.chip.openAttempts + 1, opens := b.chip.opens + 1 },
        b.links ++ [true]⟩) := by
      simp only [step, Chip.openLink, hfail, Bool.false_eq_true, if_false]
    have hfailed : ¬ isFailedOpening (b, .openLink) = true := by rw [isFailedOpening, hstep]; simp
    have hlive : (b.links ++ [true]).count true = b.liveLinks + 1 := by
      rw [List.count_append, List.count_singleton_self]
      rfl
    rw [hstep]
    refine .quiet rfl rfl rfl rfl rfl ?_ ?_
    · show b.chip.opens + b.chip.closes + (b.links ++ [true]).count true =
        b.chip.opens + 1 + b.chip.closes + b.liveLinks
      omega
    · rw [if_neg hfailed]
      exact Nat.add_right_comm ..

theorem books_exchange (b : ChipBench) (id : Nat) (request : List UInt8) :
    Books b (.exchange id request) (b.step (.exchange id request)).2 := by
  cases hopen : b.isOpen id with
  | false =>
    have hstep : b.step (.exchange id request) = (none, b) := by
      simp only [step, hopen, Bool.false_eq_true, if_false]
    have hasked : asked? (b, .exchange id request) = none := by
      simp only [asked?, hopen, Bool.false_eq_true, if_false]
    rw [hstep]
    exact .quiet (by rw [recorded?, hasked]; rfl) (by rw [taken?, hasked]; rfl) rfl rfl rfl rfl rfl
  | true =>
    have hasked : asked? (b, .exchange id request) = some request := if_pos hopen
    have htaken : taken? (b, .exchange id request) = b.chip.takenBy request := by
      rw [taken?, hasked, Option.bind_some]
    have hexchanged := Chip.exchanged_exchange b.chip request
    rw [step_exchange hopen]
    generalize b.chip.exchange request = outcome at hexchanged
    obtain ⟨answer, chip⟩ := outcome
    dsimp only at hexchanged ⊢
    rw [← htaken] at hexchanged
    generalize htaken' : taken? (b, .exchange id request) = taken at hexchanged
    cases hexchanged with
    | refused h =>
      refine .quiet ?_ htaken' rfl rfl rfl rfl rfl
      rw [recorded?, hasked, Option.filter_some, if_neg (by simp [h])]
    | recorded h htakes =>
      have hrecorded : recorded? (b, .exchange id request) = some request := by
        rw [recorded?, hasked, Option.filter_some, if_pos (by simp [h])]
      refine ⟨by rw [hrecorded]; rfl, ?_, ?_, rfl, rfl⟩
      · rw [htaken']
        exact (List.Perm.of_eq (List.append_nil _)).trans htakes.perm
      · exact htakes.sublist.trans (List.sublist_append_left _ _)

theorem books_close (b : ChipBench) (id : Nat) : Books b (.close id) (b.step (.close id)).2 := by
  cases hopen : b.isOpen id with
  | false =>
    have hstep : b.step (.close id) = (none, b) := by
      simp only [step, hopen, Bool.false_eq_true, if_false]
    rw [hstep]
    exact .quiet rfl rfl rfl rfl rfl rfl rfl
  | true =>
    have hstep : b.step (.close id) = (none, ⟨b.chip.closeLink, b.links.set id false⟩) := by
      simp only [step, hopen, if_true]
    have hlive := liveLinks_close hopen
    rw [hstep]
    refine .quiet rfl rfl rfl rfl rfl ?_ rfl
    show b.chip.opens + (b.chip.closes + 1) + (b.links.set id false).count true =
      b.chip.opens + b.chip.closes + b.liveLinks
    omega

theorem books_step (b : ChipBench) (s : ChipStep) : Books b s (b.step s).2 := by
  cases s with
  | action a => exact books_action b a
  | openLink => exact books_openLink b
  | exchange id request => exact books_exchange b id request
  | close id => exact books_close b id

/-! ### All steps -/

theorem filterMap_concat {α β : Type} (f : α → Option β) (l : List α) (x : α) :
    (l ++ [x]).filterMap f = l.filterMap f ++ (f x).toList := by
  cases h : f x <;> simp [h]

theorem Booked.step (h : Booked steps b) (hb : initial.run steps = b) (hbooks : Books b s b') :
    Booked (steps ++ [s]) b' := by
  have htrail : initial.trail (steps ++ [s]) = initial.trail steps ++ [(b, s)] :=
    hb ▸ trail_concat initial steps s
  refine ⟨?requests, ?faults, ?order, ?live, ?failed⟩
  case requests => rw [htrail, filterMap_concat, ← h.requests, hbooks.requests]
  case faults =>
    rw [htrail, filterMap_concat, filterMap_concat]
    calc steps.filterMap queued? ++ (queued? s).toList
        |>.Perm (((initial.trail steps).filterMap taken? ++ b.chip.faults) ++ (queued? s).toList) :=
          h.faults.append_right _
      _ |>.Perm ((initial.trail steps).filterMap taken? ++
            (b.chip.faults ++ (queued? s).toList)) := .of_eq (List.append_assoc ..)
      _ |>.Perm ((initial.trail steps).filterMap taken? ++
            ((taken? (b, s)).toList ++ b'.chip.faults)) := hbooks.faults.append_left _
      _ |>.Perm (((initial.trail steps).filterMap taken? ++ (taken? (b, s)).toList) ++
            b'.chip.faults) := .of_eq (List.append_assoc ..).symm
  case order =>
    rw [filterMap_concat]
    exact hbooks.order.trans (h.order.append_right _)
  case live =>
    have hlive := h.live
    have hlive' := hbooks.live
    omega
  case failed =>
    have hfailed := h.failed
    have hfailed' := hbooks.failed
    rw [htrail, List.countP_append, List.countP_singleton]
    omega

theorem booked_run (steps : List ChipStep) : Booked steps (initial.run steps) := by
  induction steps using List.reverseRecOn with
  | nil => exact ⟨rfl, List.Perm.refl _, List.Sublist.refl _, rfl, rfl⟩
  | append_singleton steps s ih =>
    rw [run_concat]
    exact ih.step rfl (books_step _ s)

/-- **The books of a chip are exact.** An exchange over an open connection is refused without a
trace, or it is recorded and takes the earliest fault that waits for its command; where none does,
it has the persistent fault, or none. Its answer is garbled by the fault as that says, and is a
frame otherwise. After any run the record holds the good requests in their order, each fault that
was queued was taken by one exchange or still waits in its place, and the numbers of openings and
closings say how many connections live and how many openings failed. -/
theorem record_exact :
    (∀ (b : ChipBench) (id : Nat) (request : List UInt8), b.isOpen id = true →
      ∃ answer chip, b.step (.exchange id request) = (some answer, { b with chip }) ∧
        Exchanged b.chip request (taken? (b, .exchange id request)) answer chip) ∧
    (∀ (chip : Chip) (command : UInt8) (fault : Option ChipFault),
      Reads command fault (chip.respond command fault)) ∧
    ∀ steps : List ChipStep, Booked steps (initial.run steps) := by
  refine ⟨fun b id request hopen => ?_, Chip.reads_respond, booked_run⟩
  refine ⟨_, _, step_exchange hopen request, ?_⟩
  rw [taken?, asked?, if_pos hopen, Option.bind_some]
  exact Chip.exchanged_exchange b.chip request

/-- Two connections, of which the first is closed again, an opening that fails, and two faults. A
request for the status passes the earlier one by. -/
def twoLinks : List ChipStep :=
  [.openLink, .openLink, .action (.fault (some 0x02) .badChecksum),
    .action (.fault none .wrongAck), .close 0, .action (.failOpen true), .openLink]

theorem record_exact_two_links :
    (initial.run twoLinks).isOpen 1 = true ∧
    (∃ answer chip, (initial.run twoLinks).step (.exchange 1 getInfoFrame.bytes) =
        (some answer, { initial.run twoLinks with chip }) ∧
      Exchanged (initial.run twoLinks).chip getInfoFrame.bytes (some (none, .wrongAck)) answer
        chip) ∧
    Reads 0x01 (some .wrongAck) ((initial.run twoLinks).chip.respond 0x01 (some .wrongAck)) ∧
    Booked twoLinks (initial.run twoLinks) := by
  obtain ⟨hexchange, hreads, hbooked⟩ := record_exact
  have hopen : (initial.run twoLinks).isOpen 1 = true := by decide
  have htaken : taken? (initial.run twoLinks, .exchange 1 getInfoFrame.bytes) =
      some (none, .wrongAck) := by decide
  exact ⟨hopen, htaken ▸ hexchange _ 1 getInfoFrame.bytes hopen, hreads _ _ _, hbooked twoLinks⟩

end ChipBench

end SerialHid
