/-
SerialHid.Proofs.Absorption — the faults of a chip that the budgets of a request absorb.

* `ChipFault.isSilence`, `ChipFault.isGarbling` — what a fault makes of an answer, said of the fault
  alone; `Chip.temporary_respond` says that the answer is such.
* `Fares` — how a request ends that meets with these faults, and how many of them it takes.
* `Beset.attempt` — one attempt takes one fault. `Bench.fares_of_carry` concludes from that, by
  induction on the faults, how a request fares with all of them.
* `Bench.faults_absorbed` — a request succeeds exactly if there are fewer faults than the budgets
  allow, and what the chip has recorded then.

The probes that follow garbled answers go to the same chip. They take none of the faults, because
these wait for the command of the request.
-/
import SerialHid.Bench
import SerialHid.Proofs.Chip
import SerialHid.Proofs.Ending
import SerialHid.Proofs.Sent

namespace SerialHid

/-! ## Requests that are acknowledged -/

/-- A connection takes these bytes for a request with this command, which is one of those that the
chip merely acknowledges. -/
structure IsAcked (request : List UInt8) (code : UInt8) : Prop where
  check_eq : checkRequest request = .ok ()
  code_eq : request[3]? = some code
  low : 0x02 ≤ code
  high : code ≤ 0x0F

theorem IsAcked.of_frame {f : Frame} (hlow : 0x02 ≤ f.command) (hhigh : f.command ≤ 0x0F) :
    IsAcked f.bytes f.command where
  check_eq := checkRequest_bytes f
  code_eq := rfl
  low := hlow
  high := hhigh

section IsAcked

variable {request : List UInt8} {code : UInt8}

theorem IsAcked.ne_probe (h : IsAcked request code) : getInfoFrame.bytes ≠ request := by
  rintro rfl
  obtain rfl : (0x01 : UInt8) = code := Option.some.inj h.code_eq
  exact absurd h.low (by decide)

theorem IsAcked.commandOf_eq (h : IsAcked request code) : Chip.commandOf request = code := by
  rw [Chip.commandOf, List.getD_eq_getElem?_getD, show commandIndex = 3 from rfl, h.code_eq]
  rfl

/-- It is no read of custom data, which any frame would complete. -/
theorem IsAcked.ne_readCustomHid (h : IsAcked request code) : code ≠ 0x87 := by
  rintro rfl
  exact absurd h.high (by decide)

theorem IsAcked.length_ge (h : IsAcked request code) : 4 ≤ request.length := by
  obtain ⟨hlong, -⟩ := List.getElem?_eq_some_iff.mp h.code_eq
  exact hlong

end IsAcked

/-! ## What a fault makes of an answer -/

/-- There is no answer. -/
def ChipFault.isSilence : ChipFault → Bool
  | shortRead => true
  | _ => false

/-- The answer is no frame. -/
def ChipFault.isGarbling : ChipFault → Bool
  | badChecksum => true
  | badHeader => true
  | _ => false

namespace Chip

variable {request : List UInt8} {code : UInt8} {fault : ChipFault}

/-- The answer without a fault completes the request. -/
theorem settles_respond (h : IsAcked request code) (chip : Chip) :
    Settles request (chip.respond code none) := by
  have hinfo : code ≠ Command.getInfo.code := by
    rintro rfl
    exact absurd h.low (by decide)
  have hgood : chip.respond code none = .ok (ack (ackOf code)).bytes := by
    simp only [respond, goodAnswer, if_neg hinfo]
  rw [hgood]
  refine ⟨_, Answer.mem_frame?.mpr ⟨_, rfl, Frame.parse_bytes _⟩, code, h.code_eq,
    .inr (.inr ⟨h.low, h.high, ?_⟩)⟩
  have hsum : (ackOf code).toNat = (code.toNat + 0x80) % 256 := UInt8.toNat_add ..
  have hsmall : code.toNat ≤ 0x0F := UInt8.le_iff_toNat_le.mp h.high
  show (ackOf code).toNat = code.toNat + 0x80
  omega

/-- A frame that is not the acknowledgement of the request neither completes it nor rules that
out. -/
theorem temporary_frame (h : IsAcked request code) {f : Frame}
    (hforeign : f.command ≠ ackOf code) :
    Temporary request (.ok f.bytes) ∧
      Answer.isSilent (.ok f.bytes) = false ∧ Answer.isMalformed (.ok f.bytes) = false := by
  have hframe : Answer.frame? (.ok f.bytes) = some f :=
    Answer.mem_frame?.mpr ⟨_, rfl, f.parse_bytes⟩
  refine ⟨⟨?_, ?_⟩, rfl, by simp [Answer.isMalformed, hframe]⟩
  · rintro ⟨f', hf', code', hcode', hack⟩
    obtain rfl := Option.some.inj (hframe.symm.trans hf')
    obtain rfl := Option.some.inj (h.code_eq.symm.trans hcode')
    exact hforeign (hack.command_eq h.ne_readCustomHid).1
  · rintro (hrefused | ⟨-, hshort⟩)
    · exact Bool.false_ne_true hrefused
    · exact absurd h.length_ge (Nat.not_le_of_lt hshort)

/-- Nor do bytes that are no frame. -/
theorem temporary_garbled {bytes : List UInt8} {e : FrameError}
    (hparse : Frame.parse bytes = .error e) :
    Temporary request (.ok bytes) ∧
      Answer.isSilent (.ok bytes) = false ∧ Answer.isMalformed (.ok bytes) = true := by
  have hmalformed : Answer.isMalformed (.ok bytes) = true := by
    simp [Answer.isMalformed, Answer.frame?, hparse, Except.toOption]
  refine ⟨⟨fun hs => ?_, not_hopeless_of_malformed hmalformed⟩, rfl, hmalformed⟩
  rw [not_malformed_of_settles hs] at hmalformed
  exact Bool.false_ne_true hmalformed

/-- An answer with a fault neither completes the request nor rules that out. -/
theorem temporary_respond (h : IsAcked request code) (chip : Chip) (fault : ChipFault) :
    Temporary request (chip.respond code (some fault)) ∧
      (chip.respond code (some fault)).isSilent = fault.isSilence ∧
      (chip.respond code (some fault)).isMalformed = fault.isGarbling := by
  cases fault with
  | shortRead =>
    refine ⟨⟨?_, ?_⟩, rfl, rfl⟩
    · rintro ⟨f, hf, -⟩
      cases hf
    · rintro (hrefused | ⟨hframe, -⟩)
      · exact Bool.false_ne_true hrefused
      · exact Bool.false_ne_true hframe
  | badChecksum => exact temporary_garbled (parse_invertChecksum _)
  | badHeader => exact temporary_garbled (parse_clearFirst _)
  | deviceError status =>
    refine temporary_frame h fun hsame => ?_
    exact absurd ((UInt8.add_right_inj code).mp hsame) (by decide)
  | wrongAck =>
    refine temporary_frame h fun hsame => ?_
    have hzero : ackOf code + 1 = ackOf code + 0 := by rwa [UInt8.add_zero]
    exact absurd ((UInt8.add_right_inj _).mp hzero) (by decide)

/-! ## What an exchange makes of the chip -/

theorem takeFault_eq_none {command : UInt8} {faults : List (Option UInt8 × ChipFault)}
    (h : ∀ x ∈ faults, concerns command x.1 = false) :
    takeFault command faults = (none, faults) := by
  have hnone : ∀ x ∈ faults, ¬ waitsFor command x = true := fun x hx => by
    simp [waitsFor, h x hx]
  rw [takeFault_eq, List.find?_eq_none.mpr hnone, List.eraseP_of_forall_not hnone]
  rfl

/-- A request that no fault waits for is answered without one. -/
theorem exchange_of_unconcerned {chip : Chip} (hcheck : checkRequest request = .ok ())
    (hfaults : ∀ x ∈ chip.faults, concerns (commandOf request) x.1 = false)
    (hpersistent : chip.persistent = none) :
    chip.exchange request = (chip.respond (commandOf request) none,
      { chip with requests := chip.requests ++ [request] }) := by
  simp only [exchange, hcheck, takeFault_eq_none hfaults, hpersistent]
  rfl

/-- A fault that waits for the request is taken. -/
theorem exchange_of_fault {chip : Chip} {target : Option UInt8}
    {rest : List (Option UInt8 × ChipFault)} (hcheck : checkRequest request = .ok ())
    (hfaults : chip.faults = (target, fault) :: rest)
    (htarget : concerns (commandOf request) target = true) :
    chip.exchange request = (chip.respond (commandOf request) (some fault),
      { chip with faults := rest, requests := chip.requests ++ [request] }) := by
  simp only [exchange, hcheck, hfaults, takeFault, htarget, if_true]
  rfl

end Chip

/-! ## How a request fares -/

/-- How many of the faults are silence. -/
def silencesOf (faults : List ChipFault) : Nat := faults.countP ChipFault.isSilence

/-- So many faults use a budget up. -/
def Spends (common read : Nat) (faults : List ChipFault) (k : Nat) : Prop :=
  k = common ∨ silencesOf (faults.take k) = read

/-- How a request ends that meets with these faults, one at each attempt, and how many of them it
takes. -/
inductive Fares (common read : Nat) (faults : List ChipFault) : Bool → Nat → Prop where
  /-- It takes all of them, and the next attempt succeeds. -/
  | absorbed (hcommon : faults.length < common) (hread : silencesOf faults < read) :
      Fares common read faults true faults.length
  /-- It takes the first ones, up to the one that uses a budget up. -/
  | spent (k : Nat) (hk : k ≤ faults.length) (hspent : Spends common read faults k)
      (hbefore : ∀ m < k, ¬ Spends common read faults m) : Fares common read faults false k

section Fares

variable {common read k : Nat} {fault : ChipFault} {faults : List ChipFault} {ok : Bool}

theorem silencesOf_cons (fault : ChipFault) (faults : List ChipFault) :
    silencesOf (fault :: faults) = silencesOf faults + if fault.isSilence then 1 else 0 :=
  List.countP_cons

theorem Fares.of_spent (h : common = 0 ∨ read = 0) : Fares common read faults false 0 := by
  refine .spent 0 (Nat.zero_le _) ?_ fun m hm => absurd hm (Nat.not_lt_zero m)
  rcases h with rfl | rfl
  · exact .inl rfl
  · exact .inr rfl

theorem spends_cons (hcommon : common ≠ 0) (hread : read ≠ 0) :
    Spends common read (fault :: faults) (k + 1) ↔
      Spends (common - 1) (if fault.isSilence then read - 1 else read) faults k := by
  simp only [Spends, List.take_succ_cons, silencesOf_cons]
  cases fault.isSilence <;> simp only [Bool.false_eq_true, if_false, if_true] <;> omega

/-- One fault more, and one attempt more to take it. -/
theorem Fares.cons (hcommon : common ≠ 0) (hread : read ≠ 0)
    (h : Fares (common - 1) (if fault.isSilence then read - 1 else read) faults ok k) :
    Fares common read (fault :: faults) ok (k + 1) := by
  cases h with
  | absorbed hcommon' hread' =>
    refine .absorbed ?_ ?_
    · rw [List.length_cons]
      omega
    · rw [silencesOf_cons]
      cases hsilence : fault.isSilence <;>
        simp only [hsilence, Bool.false_eq_true, if_false, if_true] at hread' ⊢ <;> omega
  | spent k hk hspent hbefore =>
    refine .spent (k + 1) (Nat.succ_le_succ hk) ((spends_cons hcommon hread).mpr hspent) ?_
    intro m hm
    cases m with
    | zero =>
      rintro (hzero | hzero)
      · exact hcommon hzero.symm
      · exact hread hzero.symm
    | succ m => exact mt (spends_cons hcommon hread).mp (hbefore m (Nat.lt_of_succ_lt_succ hm))

/-- It ends well if the faults use neither budget up. -/
theorem Fares.ok_iff (h : Fares common read faults ok k) :
    ok = true ↔ faults.length < common ∧ silencesOf faults < read := by
  cases h with
  | absorbed hcommon hread => exact ⟨fun _ => ⟨hcommon, hread⟩, fun _ => rfl⟩
  | spent k hk hspent hbefore =>
    refine ⟨nofun, ?_⟩
    rintro ⟨hcommon, hread⟩
    have hfew : silencesOf (faults.take k) ≤ silencesOf faults :=
      (List.take_sublist k faults).countP_le
    rcases hspent with hspent | hspent <;> omega

end Fares

/-! ## On a bench without a script -/

/-- What the chip records of an attempt that meets with a fault: the request, and the probe if the
answer is garbled. -/
def recordsOf (request : List UInt8) (fault : ChipFault) : List (List UInt8) :=
  request :: if fault.isGarbling then [getInfoFrame.bytes] else []

/-- The request is recorded once for each of the faults. -/
theorem count_records {request : List UInt8} (hprobe : getInfoFrame.bytes ≠ request)
    (faults : List ChipFault) :
    (faults.flatMap (recordsOf request)).count request = faults.length := by
  have hone : ∀ fault, (recordsOf request fault).count request = 1 := by
    intro fault
    cases h : fault.isGarbling <;> simp [recordsOf, h, hprobe]
  simp [List.count_flatMap, Function.comp_def, hone]

namespace Bench

/-- Nothing is scripted. -/
def IsPlain (b : Bench) : Prop := b.replies = [] ∧ b.script = []

variable {settings : Settings} {request : List UInt8} {j : Job} {d : Desk} {b : Bench}

/-- The bench after the chip has answered. -/
def asked (b : Bench) (request : List UInt8) : Bench :=
  { b with chip := (b.chip.exchange request).2, exchanges := b.exchanges + 1 }

theorem IsPlain.asked (h : b.IsPlain) (request : List UInt8) : (b.asked request).IsPlain := h

/-- The chip answers, and nobody does anything else. -/
theorem exchange_of_isPlain (h : b.IsPlain) (request : List UInt8) :
    b.exchange request = ([], .answer (b.chip.exchange request).1, b.asked request) := by
  obtain ⟨hreplies, hscript⟩ := h
  simp [exchange, scripted, hscript, hreplies, perform, Bench.asked]

/-- A request that waits for an answer goes on with the chip's. -/
theorem carry_of_underway (h : b.IsPlain) (hpending : j.pending? = some request) {j' : Job}
    {d' : Desk} (hstep : j.step? settings d (.answer (b.chip.exchange request).1) =
      some (.underway j', d')) (fuel : Nat) :
    carry settings (fuel + 1) j d b = carry settings fuel j' d' (b.asked request) := by
  simp only [carry, hpending, exchange_of_isPlain h, Desk.acts_nil, hstep]

/-- It returns if the answer ends it. -/
theorem carry_of_returned (h : b.IsPlain) (hpending : j.pending? = some request) {ok : Bool}
    {d' : Desk} (hstep : j.step? settings d (.answer (b.chip.exchange request).1) =
      some (.returned ok, d')) (fuel : Nat) :
    carry settings (fuel + 1) j d b = some (ok, d', b.asked request) := by
  simp only [carry, hpending, exchange_of_isPlain h, Desk.acts_nil, hstep]

theorem carry_of_exhausted {first : Bool} (hstage : j.stage = .ready first)
    (hspent : j.exhausted = true) (fuel : Nat) :
    carry settings (fuel + 1) j d b = some (false, (j.finish false d).2, b) := by
  simp only [carry, Job.pending?, Job.step?, Job.attempt, hstage, hspent, if_true]
  rfl

/-- The bench after an attempt: a garbled answer is followed by the probe. -/
def attempted (b : Bench) (request : List UInt8) : Bench :=
  if (b.chip.exchange request).1.isMalformed then (b.asked request).asked getInfoFrame.bytes
  else b.asked request

theorem IsPlain.attempted (h : b.IsPlain) (request : List UInt8) :
    (b.attempted request).IsPlain := by
  unfold Bench.attempted
  split <;> exact h

section Attempt

variable {first : Bool} (hnoop : settings.noop = false) (hstage : j.stage = .ready first)
  (hleft : j.exhausted = false) (hstop : d.stop = false)
include hnoop hstage hleft hstop

/-- A request that has budget left and is not to stop goes out. -/
theorem carry_of_ready (fuel : Nat) :
    carry settings (fuel + 1) j d b =
      carry settings fuel { j with stage := .asked }
        (d.record (.sent j.request false d.state)) b := by
  simp [carry, Job.pending?, Job.step?, Job.attempt, hstage, hleft, hstop, hnoop]

/-- An answer that completes the request ends it well. -/
theorem carry_of_settles (h : b.IsPlain)
    (hsettles : Settles j.request (b.chip.exchange j.request).1) (fuel : Nat) :
    ∃ d', carry settings (fuel + 2) j d b = some (true, d', b.asked j.request) := by
  obtain ⟨d', hreceive, -⟩ := Job.receive_of_settles (j := { j with stage := .asked }) hsettles
    (d.record (.sent j.request false d.state))
  have hstep : Job.step? settings { j with stage := .asked }
      (d.record (.sent j.request false d.state)) (.answer (b.chip.exchange j.request).1) =
        some (.returned true, d') := congrArg some hreceive
  exact ⟨d', (carry_of_ready hnoop hstage hleft hstop _).trans (carry_of_returned h rfl hstep fuel)⟩

/-- An answer that fails the attempt, though another one may help, is charged. -/
theorem carry_of_temporary (h : b.IsPlain)
    (htemporary : Temporary j.request (b.chip.exchange j.request).1) (fuel : Nat) :
    ∃ n d' f, fuel ≤ n ∧ d'.stop = false ∧
      f.isShortRead = (b.chip.exchange j.request).1.isSilent ∧
      carry settings (fuel + 3) j d b =
        carry settings n (j.charge f) d' (b.attempted j.request) := by
  rw [carry_of_ready hnoop hstage hleft hstop, attempted]
  have hsent : (d.record (.sent j.request false d.state)).stop = false := hstop
  cases hmalformed : (b.chip.exchange j.request).1.isMalformed with
  | true =>
    obtain ⟨f, d₁, hsilent, htransient, hreceive, -, hstop₁⟩ :=
      Job.receive_of_malformed (j := { j with stage := .asked }) hmalformed
        (d.record (.sent j.request false d.state))
    obtain ⟨d₂, hresume, -, hstop₂⟩ :=
      Job.resume_of_temporary htransient { j with stage := .probing f }
        ((b.asked j.request).chip.exchange getInfoFrame.bytes).1 d₁
    have hstep : Job.step? settings { j with stage := .asked }
        (d.record (.sent j.request false d.state)) (.answer (b.chip.exchange j.request).1) =
          some (.underway { j with stage := .probing f }, d₁) := congrArg some hreceive
    have hprobed : Job.step? settings { j with stage := .probing f } d₁
        (.answer ((b.asked j.request).chip.exchange getInfoFrame.bytes).1) =
          some (.underway (j.charge f), d₂) := congrArg some hresume
    refine ⟨fuel, d₂, f, Nat.le_refl fuel, hstop₂.trans (hstop₁.trans hsent), hsilent, ?_⟩
    rw [carry_of_underway h rfl hstep]
    exact carry_of_underway (h.asked _) rfl hprobed fuel
  | false =>
    obtain ⟨f, d₁, hsilent, hreceive, -, hstop₁⟩ :=
      Job.receive_of_failure (j := { j with stage := .asked }) htemporary.1 htemporary.2 hmalformed
        (d.record (.sent j.request false d.state))
    have hstep : Job.step? settings { j with stage := .asked }
        (d.record (.sent j.request false d.state)) (.answer (b.chip.exchange j.request).1) =
          some (.underway (j.charge f), d₁) := congrArg some hreceive
    refine ⟨fuel + 1, d₁, f, Nat.le_succ fuel, hstop₁.trans hsent, hsilent, ?_⟩
    exact carry_of_underway h rfl hstep (fuel + 1)

end Attempt

end Bench

/-! ## All attempts -/

/-- These faults wait, each for a request with this command, and no others. -/
structure Beset (chip : Chip) (code : UInt8) (faults : List ChipFault) : Prop where
  faults_eq : chip.faults = faults.map (some code, ·)
  persistent_eq : chip.persistent = none

section Beset

variable {request : List UInt8} {code : UInt8} {chip : Chip} {fault : ChipFault}
  {faults : List ChipFault}

/-- With no fault left, the answer completes the request. -/
theorem Beset.exchange_nil (h : Beset chip code []) (hrequest : IsAcked request code) :
    Settles request (chip.exchange request).1 ∧
      (chip.exchange request).2 = { chip with requests := chip.requests ++ [request] } := by
  have hnone : ∀ x ∈ chip.faults, Chip.concerns (Chip.commandOf request) x.1 = false := by
    simp [h.faults_eq]
  rw [Chip.exchange_of_unconcerned hrequest.check_eq hnone h.persistent_eq, hrequest.commandOf_eq]
  exact ⟨Chip.settles_respond hrequest chip, rfl⟩

/-- The request takes the first fault. -/
theorem Beset.exchange_cons (h : Beset chip code (fault :: faults))
    (hrequest : IsAcked request code) :
    chip.exchange request = (chip.respond code (some fault),
      { chip with
        faults := faults.map (some code, ·)
        requests := chip.requests ++ [request] }) := by
  have htarget : Chip.concerns (Chip.commandOf request) (some code) = true := by
    simp [Chip.concerns, hrequest.commandOf_eq]
  rw [Chip.exchange_of_fault hrequest.check_eq h.faults_eq htarget, hrequest.commandOf_eq]

/-- A probe takes none. -/
theorem Beset.exchange_probe (h : Beset chip code faults) (hlow : 0x02 ≤ code) :
    (chip.exchange getInfoFrame.bytes).2 =
      { chip with requests := chip.requests ++ [getInfoFrame.bytes] } := by
  have hother : code ≠ Chip.commandOf getInfoFrame.bytes := by
    rintro rfl
    exact absurd hlow (by decide)
  have hnone : ∀ x ∈ chip.faults,
      Chip.concerns (Chip.commandOf getInfoFrame.bytes) x.1 = false := by
    simp [h.faults_eq, Chip.concerns, hother]
  rw [Chip.exchange_of_unconcerned (checkRequest_bytes _) hnone h.persistent_eq]

/-- One attempt takes one fault, and pays for it. -/
theorem Beset.attempt {b : Bench} (h : Beset b.chip code (fault :: faults))
    (hrequest : IsAcked request code) :
    Temporary request (b.chip.exchange request).1 ∧
      (b.chip.exchange request).1.isSilent = fault.isSilence ∧
      (b.attempted request).chip =
        { b.chip with
          faults := faults.map (some code, ·)
          requests := b.chip.requests ++ recordsOf request fault } := by
  have hexchange := h.exchange_cons hrequest
  obtain ⟨htemporary, hsilent, hmalformed⟩ :=
    Chip.temporary_respond hrequest b.chip fault
  have hanswer : (b.chip.exchange request).1 = b.chip.respond code (some fault) := by rw [hexchange]
  refine ⟨hanswer ▸ htemporary, hanswer ▸ hsilent, ?_⟩
  have hasked : (b.asked request).chip =
      { b.chip with
        faults := faults.map (some code, ·)
        requests := b.chip.requests ++ [request] } := by rw [Bench.asked, hexchange]
  rw [Bench.attempted, hanswer, hmalformed, recordsOf]
  cases fault.isGarbling with
  | false => exact hasked
  | true =>
    have hrest : Beset (b.asked request).chip code faults := by
      rw [hasked]
      exact ⟨rfl, h.persistent_eq⟩
    simp only [if_true]
    rw [Bench.asked, hrest.exchange_probe hrequest.low, hasked]
    simp

end Beset

theorem Job.exhausted_iff (j : Job) : j.exhausted = true ↔ j.common = 0 ∨ j.read = 0 := by
  simp [Job.exhausted]

theorem Job.not_exhausted_iff (j : Job) : j.exhausted = false ↔ j.common ≠ 0 ∧ j.read ≠ 0 := by
  simp [Job.exhausted]

/-- How a request ends that meets with these faults, how many of them it takes, and what the chip
keeps and has recorded then. -/
structure Fared (j : Job) (code : UInt8) (faults : List ChipFault) (chip : Chip) (ok : Bool)
    (k : Nat) (chip' : Chip) : Prop where
  fares : Fares j.common j.read faults ok k
  chip_eq : chip' =
    { chip with
      faults := (faults.drop k).map (some code, ·)
      requests := chip.requests ++ (faults.take k).flatMap (recordsOf j.request) ++
        if ok then [j.request] else [] }

section Fared

variable {j : Job} {code : UInt8} {faults : List ChipFault} {chip chip' : Chip}
  {fault : ChipFault} {f : Failure} {ok : Bool} {k : Nat}

theorem Fared.of_exhausted (hbeset : Beset chip code faults) (hspent : j.exhausted = true) :
    Fared j code faults chip false 0 chip where
  fares := .of_spent (j.exhausted_iff.mp hspent)
  chip_eq := by simp [← hbeset.faults_eq]

theorem Fared.of_settled (hbeset : Beset chip code []) (hleft : j.exhausted = false) :
    Fared j code [] chip true 0 { chip with requests := chip.requests ++ [j.request] } where
  fares := by
    obtain ⟨hcommon, hread⟩ := j.not_exhausted_iff.mp hleft
    exact .absorbed (Nat.pos_of_ne_zero hcommon) (Nat.pos_of_ne_zero hread)
  chip_eq := by simp [hbeset.faults_eq]

/-- One fault more, and one failure more to pay for. -/
theorem Fared.cons (hleft : j.exhausted = false) (hshort : f.isShortRead = fault.isSilence)
    (h : Fared (j.charge f) code faults
      { chip with
        faults := faults.map (some code, ·)
        requests := chip.requests ++ recordsOf j.request fault } ok k chip') :
    Fared j code (fault :: faults) chip ok (k + 1) chip' where
  fares := by
    obtain ⟨hcommon, hread⟩ := j.not_exhausted_iff.mp hleft
    have hfares := h.fares
    simp only [Job.charge, hshort] at hfares
    exact .cons hcommon hread hfares
  chip_eq := by
    rw [h.chip_eq]
    simp [Job.charge]

end Fared

namespace Bench

variable {settings : Settings} {j : Job} {d : Desk} {b : Bench} {code : UInt8}
  {faults : List ChipFault}

/-- However many faults wait, a request fares as they and its budgets have it. -/
theorem fares_of_carry (hnoop : settings.noop = false) (hplain : b.IsPlain)
    (hrequest : IsAcked j.request code) {first : Bool} (hstage : j.stage = .ready first)
    (hstop : d.stop = false) (hbeset : Beset b.chip code faults) {fuel : Nat}
    (hfuel : 3 * j.common + 2 ≤ fuel) :
    ∃ ok k d' b', carry settings fuel j d b = some (ok, d', b') ∧
      Fared j code faults b.chip ok k b'.chip := by
  induction faults generalizing j d b first fuel with
  | nil =>
    obtain ⟨fuel, rfl⟩ : ∃ n, fuel = n + 2 := ⟨fuel - 2, by omega⟩
    cases hspent : j.exhausted with
    | true => exact ⟨_, 0, _, _, carry_of_exhausted hstage hspent _, .of_exhausted hbeset hspent⟩
    | false =>
      obtain ⟨hsettles, hchip⟩ := hbeset.exchange_nil hrequest
      obtain ⟨d', hcarry⟩ := carry_of_settles hnoop hstage hspent hstop hplain hsettles fuel
      refine ⟨_, 0, _, _, hcarry, ?_⟩
      rw [asked, hchip]
      exact .of_settled hbeset hspent
  | cons fault faults ih =>
    cases hspent : j.exhausted with
    | true =>
      obtain ⟨fuel, rfl⟩ : ∃ n, fuel = n + 1 := ⟨fuel - 1, by omega⟩
      exact ⟨_, 0, _, _, carry_of_exhausted hstage hspent _, .of_exhausted hbeset hspent⟩
    | false =>
      have hcommon := (j.not_exhausted_iff.mp hspent).1
      obtain ⟨fuel, rfl⟩ : ∃ n, fuel = n + 3 := ⟨fuel - 3, by omega⟩
      obtain ⟨htemporary, hsilent, hchip⟩ := hbeset.attempt hrequest
      obtain ⟨n, d₁, f, hn, hstop₁, hshort, hcarry⟩ :=
        carry_of_temporary hnoop hstage hspent hstop hplain htemporary fuel
      have hrest : Beset (b.attempted j.request).chip code faults := by
        rw [hchip]
        exact ⟨rfl, hbeset.persistent_eq⟩
      have henough : 3 * (j.charge f).common + 2 ≤ n := by
        show 3 * (j.common - 1) + 2 ≤ n
        omega
      obtain ⟨ok, k, d', b', hcarried, hfared⟩ :=
        ih (j := j.charge f) (hplain.attempted j.request) hrequest rfl hstop₁ hrest henough
      rw [hchip] at hfared
      exact ⟨ok, k + 1, d', b', hcarry.trans hcarried, hfared.cons hspent (hshort.trans hsilent)⟩

/-- **The budgets absorb the faults, as far as they go.** A request whose command lies between
`0x02` and `0x0F` succeeds against a chip with these faults for it exactly if there are fewer of
them than attempts, and fewer silences among them than the other budget has room for. The chip has
recorded the request once for every fault and once more, with a probe right after each garbled
answer. If the request fails, the chip has recorded it as often as it took faults, which is the
least number of them that uses a budget up; the other faults still wait. -/
theorem faults_absorbed (settings : Settings) (hnoop : settings.noop = false) (f : Frame)
    (hlow : 0x02 ≤ f.command) (hhigh : f.command ≤ 0x0F) (d : Desk) (hstop : d.stop = false)
    (chip : Chip) (line : BenchLine) (faults : List ChipFault)
    (hbeset : Beset chip f.command faults) :
    ∃ ok d' b', rehearse settings f.bytes d (.plain chip line) = some (ok, d', b') ∧
      (ok = true ↔
        faults.length < settings.commonRetries ∧ silencesOf faults < settings.readRetries) ∧
      (ok = true →
        b'.chip =
          { chip with
            faults := []
            requests := chip.requests ++ faults.flatMap (recordsOf f.bytes) ++ [f.bytes] } ∧
        b'.chip.requests.count f.bytes = chip.requests.count f.bytes + (faults.length + 1)) ∧
      (ok = false →
        ∃ k ≤ faults.length, Spends settings.commonRetries settings.readRetries faults k ∧
          (∀ m < k, ¬ Spends settings.commonRetries settings.readRetries faults m) ∧
          b'.chip =
            { chip with
              faults := (faults.drop k).map (some f.command, ·)
              requests := chip.requests ++ (faults.take k).flatMap (recordsOf f.bytes) } ∧
          b'.chip.requests.count f.bytes = chip.requests.count f.bytes + k) := by
  have hrequest : IsAcked f.bytes f.command := .of_frame hlow hhigh
  have hprobe := hrequest.ne_probe
  obtain ⟨ok, k, d', b', hcarry, hfared⟩ :=
    fares_of_carry (j := .start settings f.bytes) (b := .plain chip line) hnoop ⟨rfl, rfl⟩ hrequest
      rfl hstop hbeset (Nat.le_refl (carryFuel settings))
  have hchip := hfared.chip_eq
  refine ⟨ok, d', b', hcarry, hfared.fares.ok_iff, ?_⟩
  cases hfared.fares with
  | absorbed hcommon hread =>
    refine ⟨fun _ => ?_, nofun⟩
    simp only [List.drop_length, List.take_length, List.map_nil, if_true] at hchip
    refine ⟨hchip, ?_⟩
    simp [hchip, count_records hprobe, plain, Job.start]
  | spent k hk hspent hbefore =>
    simp only [Bool.false_eq_true, if_false, List.append_nil] at hchip
    refine ⟨nofun, fun _ => ⟨k, hk, hspent, hbefore, hchip, ?_⟩⟩
    simp [hchip, count_records hprobe, plain, Job.start, hk]

/-- The press of a key, with a budget of four attempts and two silences, against a chip that first
garbles its answer, then falls silent and then reports an error. -/
theorem faults_absorbed_press :
    let settings : Settings := { commonRetries := 4, readRetries := 2 }
    let press := (Event.key .keyA true).frame
    let faults : List ChipFault := [.badChecksum, .shortRead, .deviceError 0xE5]
    let chip : Chip := { Chip.initial with faults := faults.map (some press.command, ·) }
    settings.noop = false ∧ 0x02 ≤ press.command ∧ press.command ≤ 0x0F ∧
      Desk.initial.stop = false ∧ Beset chip press.command faults ∧
      ∃ d' b', rehearse settings press.bytes .initial (.plain chip .none) = some (true, d', b') ∧
        b'.chip.faults = [] ∧
        b'.chip.requests =
          [press.bytes, getInfoFrame.bytes, press.bytes, press.bytes, press.bytes] := by
  intro settings press faults chip
  have hbeset : Beset chip press.command faults := ⟨rfl, rfl⟩
  obtain ⟨ok, d', b', hrehearse, hok, habsorbed, -⟩ :=
    faults_absorbed settings rfl press (by decide) (by decide) .initial rfl chip .none faults
      hbeset
  obtain rfl : ok = true := hok.mpr (by decide)
  obtain ⟨hchip, -⟩ := habsorbed rfl
  refine ⟨rfl, by decide, by decide, rfl, hbeset, d', b', hrehearse, ?_⟩
  rw [hchip]
  exact ⟨rfl, rfl⟩

end Bench

end SerialHid
