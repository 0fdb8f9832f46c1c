/-
SerialHid.Proofs.Verdict — the verdict on an attempt is the one that the protocol prescribes.

* `Acknowledges : UInt8 → Frame → Prop` — the frames that complete a request with this command.
* `Settles : List UInt8 → Answer → Prop` — the answers that complete a request.
* `Hopeless : List UInt8 → Answer → Prop` — the answers after which no other attempt can help.
* `Answer.isSilent`, `Answer.isMalformed` — the answers that end too early, and those that are
  no frame.
* `statusReport?` — the two bytes that a settled request for the status brings.

`judge` looks at an answer in a fixed order: is it a frame, is the request long enough, is it a
read, does the response lie above `C0`, above `80`, and so on. The conditions above are stated
without that order, and the lemmas below tie each of them to one feature of the verdict.
-/
import SerialHid.Verdict

namespace SerialHid

/-! ## The protocol's side -/

/-- The frame that came back, if one did. -/
def Answer.frame? : Answer → Option Frame
  | .ok bytes => (Frame.parse bytes).toOption
  | .error _ => none

/-- The connection would not send the request. -/
def Answer.isRefused : Answer → Bool
  | .error (.invalidRequest _) => true
  | _ => false

/-- The chip fell silent before the answer was complete. -/
def Answer.isSilent : Answer → Bool
  | .error (.shortRead ..) => true
  | _ => false

/-- What came back is no frame. -/
def Answer.isMalformed : Answer → Bool
  | .ok bytes => (Answer.frame? (.ok bytes)).isNone
  | .error (.badFrame _) => true
  | .error _ => false

/-- The frames that complete a request with this command. A read of custom data takes any frame,
a request for the status its acknowledgement with at least three bytes, and the other simple
commands their acknowledgement; no other command can be completed. -/
def Acknowledges (code : UInt8) (f : Frame) : Prop :=
  code = 0x87 ∨
  (code = 0x01 ∧ f.command = 0x81 ∧ 3 ≤ f.payload.length) ∨
  (0x02 ≤ code ∧ code ≤ 0x0F ∧ f.command.toNat = code.toNat + 0x80)

instance (code : UInt8) (f : Frame) : Decidable (Acknowledges code f) :=
  inferInstanceAs (Decidable (_ ∨ _ ∨ _))

/-- The answers that complete a request. -/
def Settles (request : List UInt8) (a : Answer) : Prop :=
  ∃ f ∈ a.frame?, ∃ code ∈ request[3]?, Acknowledges code f

instance (request : List UInt8) (a : Answer) : Decidable (Settles request a) :=
  inferInstanceAs (Decidable (∃ f ∈ a.frame?, ∃ code ∈ request[3]?, Acknowledges code f))

/-- The answers after which no other attempt can help: the request was refused, or it has no
command that an answer could belong to. -/
def Hopeless (request : List UInt8) (a : Answer) : Prop :=
  a.isRefused = true ∨ a.frame?.isSome = true ∧ request.length < 4

instance (request : List UInt8) (a : Answer) : Decidable (Hopeless request a) :=
  inferInstanceAs (Decidable (_ ∨ _ ∧ _))

/-- Bytes 1 and 2 of a payload that has them. -/
def reportBytes? : List UInt8 → Option (UInt8 × UInt8)
  | _ :: usb :: lights :: _ => some (usb, lights)
  | _ => none

/-- The connection byte and the lights byte that an answer brings to a request for the status,
if it completes one. -/
def statusReport? (request : List UInt8) (a : Answer) : Option (UInt8 × UInt8) :=
  match a.frame? with
  | some f =>
    if request[3]? = some 0x01 ∧ f.command = 0x81 then reportBytes? f.payload else none
  | none => none

/-- The attempt was completed. -/
def Verdict.isSuccess : Verdict → Bool
  | settled => true
  | status _ => true
  | failed _ => false

/-! ## What an answer is -/

theorem Answer.mem_frame? {a : Answer} {f : Frame} :
    f ∈ a.frame? ↔ ∃ bytes, a = .ok bytes ∧ Frame.parse bytes = .ok f := by
  cases a with
  | error e => simp [Answer.frame?]
  | ok bytes => cases h : Frame.parse bytes <;> simp [Answer.frame?, h, Except.toOption]

theorem Answer.isRefused_iff {a : Answer} :
    a.isRefused = true ↔ ∃ shown, a = .error (.invalidRequest shown) := by
  rcases a with (_ | _ | _ | _) | _ <;> simp [Answer.isRefused]

theorem Answer.isSilent_iff {a : Answer} :
    a.isSilent = true ↔ ∃ expected received, a = .error (.shortRead expected received) := by
  rcases a with (_ | _ | _ | _) | _ <;> simp [Answer.isSilent]

/-- No answer both completes a request and rules its completion out. -/
theorem not_settles_of_hopeless {request : List UInt8} {a : Answer} (h : Hopeless request a) :
    ¬ Settles request a := by
  rintro ⟨f, hf, code, hcode, -⟩
  obtain ⟨bytes, rfl, hparse⟩ := Answer.mem_frame?.mp hf
  obtain ⟨hlong, -⟩ := List.getElem?_eq_some_iff.mp hcode
  rcases h with hrefused | ⟨-, hshort⟩
  · exact absurd hrefused (by simp [Answer.isRefused])
  · omega

theorem not_malformed_of_settles {request : List UInt8} {a : Answer} (h : Settles request a) :
    a.isMalformed = false := by
  obtain ⟨f, hf, -⟩ := h
  obtain ⟨bytes, rfl, -⟩ := Answer.mem_frame?.mp hf
  rw [Answer.isMalformed, Option.mem_def.mp hf]
  rfl

theorem not_silent_of_settles {request : List UInt8} {a : Answer} (h : Settles request a) :
    a.isSilent = false := by
  obtain ⟨f, hf, -⟩ := h
  obtain ⟨bytes, rfl, -⟩ := Answer.mem_frame?.mp hf
  rfl

theorem not_silent_of_hopeless {request : List UInt8} {a : Answer} (h : Hopeless request a) :
    a.isSilent = false := by
  cases a with
  | ok bytes => rfl
  | error e =>
    cases e with
    | shortRead expected received => simp [Hopeless, Answer.isRefused, Answer.frame?] at h
    | _ => rfl

theorem not_hopeless_of_malformed {request : List UInt8} {a : Answer}
    (h : a.isMalformed = true) : ¬ Hopeless request a := by
  rintro (hrefused | ⟨hframe, -⟩)
  · obtain ⟨shown, rfl⟩ := Answer.isRefused_iff.mp hrefused
    exact Bool.false_ne_true h
  · cases a with
    | error e => exact Bool.false_ne_true hframe
    | ok bytes =>
      rw [Answer.isMalformed, Option.isNone_iff_eq_none] at h
      simp [h] at hframe

/-! ## Acknowledgements -/

theorem Status.ofPayload?_eq (payload : List UInt8) :
    Status.ofPayload? payload = (reportBytes? payload).map fun r =>
      ⟨payload.headD 0, r.1 != 0, .ofByte r.2⟩ := by
  rcases payload with _ | ⟨_, _ | ⟨_, _ | ⟨_, rest⟩⟩⟩ <;> rfl

theorem isSome_reportBytes? (payload : List UInt8) :
    (reportBytes? payload).isSome = true ↔ 3 ≤ payload.length := by
  rcases payload with _ | ⟨_, _ | ⟨_, _ | ⟨_, rest⟩⟩⟩ <;> simp [reportBytes?]

theorem Status.isSome_ofPayload? (payload : List UInt8) :
    (Status.ofPayload? payload).isSome = true ↔ 3 ≤ payload.length := by
  rw [ofPayload?_eq, Option.isSome_map, isSome_reportBytes?]

theorem Verdict.isSuccess_ofAck (code : UInt8) (f : Frame) :
    (Verdict.ofAck code f).isSuccess = true ↔
      code = 0x01 ∧ 3 ≤ f.payload.length ∨ code ≠ 0x01 ∧ code < 0x10 := by
  have hpayload := Status.isSome_ofPayload? f.payload
  unfold Verdict.ofAck
  by_cases hinfo : code = Command.getInfo.code
  · have hcode : code = 0x01 := hinfo
    rw [if_pos hinfo]
    cases hs : Status.ofPayload? f.payload <;> simp_all [isSuccess]
  · have hcode : code ≠ 0x01 := hinfo
    rw [if_neg hinfo]
    by_cases hlimit : code < simpleCommandLimit
    · have hlt : code < 0x10 := hlimit
      simp [if_pos hlimit, isSuccess, hcode, hlt]
    · have hlt : ¬ code < 0x10 := hlimit
      simp [if_neg hlimit, isSuccess, hcode, hlt]

/-- The test for an acknowledgement, over numbers that do not wrap. -/
theorem isAck_iff (code response : UInt8) :
    (response > ackOffset ∧ response = ackOf code) ↔
      0x80 < response.toNat ∧ response.toNat = (code.toNat + 0x80) % 256 := by
  have hsum : (ackOf code).toNat = (code.toNat + 0x80) % 256 := UInt8.toNat_add ..
  rw [← UInt8.toNat_inj, hsum]
  exact and_congr_left fun _ => UInt8.lt_iff_toNat_lt

theorem Verdict.isSuccess_ofFrame (request : List UInt8) (code : UInt8) (f : Frame) :
    (Verdict.ofFrame request code f).isSuccess = true ↔ Acknowledges code f := by
  have hcode := code.toNat_lt
  unfold Verdict.ofFrame Acknowledges
  by_cases hread : code = Command.readCustomHid.code
  · have h87 : code = 0x87 := hread
    rw [if_pos hread]
    simp [isSuccess, h87]
  have h87 : code.toNat ≠ 0x87 := fun h => hread (UInt8.toNat_inj.mp h)
  rw [if_neg hread]
  by_cases herror : f.command > errorAckOffset
  · have hlt : 0xC0 < f.command.toNat := UInt8.lt_iff_toNat_lt.mp herror
    rw [if_pos herror]
    -- A command up to `0F` has its acknowledgement below `90`, so both sides are false.
    split <;>
      simp only [isSuccess, UInt8.le_iff_toNat_le, ← UInt8.toNat_inj, UInt8.reduceToNat,
        Bool.false_eq_true, false_iff] <;> omega
  rw [if_neg herror]
  by_cases hack : f.command > ackOffset ∧ f.command = ackOf code
  · obtain ⟨hlt, hsum⟩ := (isAck_iff code f.command).mp hack
    rw [if_pos hack, isSuccess_ofAck]
    simp only [ne_eq, UInt8.le_iff_toNat_le, UInt8.lt_iff_toNat_lt, ← UInt8.toNat_inj,
      UInt8.reduceToNat]
    omega
  · have hno := mt (isAck_iff code f.command).mpr hack
    rw [if_neg hack]
    simp only [isSuccess, UInt8.le_iff_toNat_le, ← UInt8.toNat_inj, UInt8.reduceToNat,
      Bool.false_eq_true, false_iff]
    omega

/-- What completes a request other than a read is the acknowledgement of its own command, below
the error acknowledgements, and neither command byte has wrapped around. -/
theorem Acknowledges.command_eq {code : UInt8} {f : Frame} (h : Acknowledges code f)
    (h87 : code ≠ 0x87) :
    f.command = ackOf code ∧ f.command ≠ errorAckOf code ∧ f.command < 0xC0 ∧ code < 0x80 := by
  have hack : (ackOf code).toNat = (code.toNat + 0x80) % 256 := UInt8.toNat_add ..
  have herror : (errorAckOf code).toNat = (code.toNat + 0xC0) % 256 := UInt8.toNat_add ..
  rcases h with h | ⟨rfl, hcommand, -⟩ | ⟨hlow, hhigh, hcommand⟩
  · exact absurd h h87
  · rw [hcommand]
    decide
  · simp only [UInt8.le_iff_toNat_le, UInt8.lt_iff_toNat_lt, ← UInt8.toNat_inj, ne_eq,
      UInt8.reduceToNat] at *
    omega

/-- A failure that an answered request can have: worth another attempt, and nothing that the
transport would have reported. -/
theorem Verdict.failed_ofFrame {request : List UInt8} {code : UInt8} {f : Frame} {e : Failure}
    (h : Verdict.ofFrame request code f = .failed e) :
    e.isPermanent = false ∧ e.isShortRead = false ∧ e.isGarbled = false := by
  unfold Verdict.ofFrame Verdict.ofAck at h
  repeat' split at h
  all_goals cases h <;> exact ⟨rfl, rfl, rfl⟩

/-! ## The verdict -/

theorem judge_isSuccess_iff (request : List UInt8) (a : Answer) :
    (judge request a).isSuccess = true ↔ Settles request a := by
  unfold judge Settles
  cases a with
  | error e => simp [Answer.frame?, Verdict.isSuccess]
  | ok bytes =>
    cases hparse : Frame.parse bytes with
    | error reason => simp [Answer.frame?, hparse, Except.toOption, Verdict.isSuccess]
    | ok f =>
      cases hcode : request[commandIndex]? with
      | none =>
        have h3 : request[3]? = none := hcode
        simp [hparse, h3, Verdict.isSuccess]
      | some code =>
        have h3 : request[3]? = some code := hcode
        simp [Answer.frame?, hparse, Except.toOption, h3, Verdict.isSuccess_ofFrame]

/-- What a failure costs, and what follows it, is decided by the answer alone. -/
theorem judge_failed {request : List UInt8} {a : Answer} {e : Failure}
    (h : judge request a = .failed e) :
    (e.isPermanent = true ↔ Hopeless request a) ∧
      e.isShortRead = a.isSilent ∧ e.isGarbled = a.isMalformed := by
  unfold judge at h
  unfold Hopeless
  cases a with
  | error reason =>
    obtain rfl := Verdict.failed.inj h
    cases reason <;>
      simp [Failure.ofLink, Failure.isPermanent, Failure.isShortRead, Failure.isGarbled,
        Answer.isRefused, Answer.frame?, Answer.isSilent, Answer.isMalformed]
  | ok bytes =>
    cases hparse : Frame.parse bytes with
    | error reason =>
      simp only [hparse] at h
      obtain rfl := Verdict.failed.inj h
      simp [Failure.isPermanent, Failure.isShortRead, Failure.isGarbled, Answer.isRefused,
        Answer.frame?, Answer.isSilent, Answer.isMalformed, hparse, Except.toOption]
    | ok f =>
      have hshape : Answer.isRefused (.ok bytes) = false ∧ (Answer.frame? (.ok bytes)).isSome ∧
          Answer.isSilent (.ok bytes) = false ∧ Answer.isMalformed (.ok bytes) = false := by
        simp [Answer.isRefused, Answer.frame?, Answer.isSilent, Answer.isMalformed, hparse,
          Except.toOption]
      obtain ⟨hrefused, hframe, hsilent, hformed⟩ := hshape
      rw [hrefused, hframe, hsilent, hformed]
      simp only [hparse] at h
      cases hcode : request[commandIndex]? with
      | none =>
        have hshort : request.length ≤ 3 := List.getElem?_eq_none_iff.mp hcode
        simp only [hcode] at h
        obtain rfl := Verdict.failed.inj h
        simp [Failure.isPermanent, Failure.isShortRead, Failure.isGarbled]
        omega
      | some code =>
        obtain ⟨hlong, -⟩ := List.getElem?_eq_some_iff.mp hcode
        have hlong : 3 < request.length := hlong
        simp only [hcode] at h
        obtain ⟨hperm, hshort, hgarbled⟩ := Verdict.failed_ofFrame h
        simp [hperm, hshort, hgarbled]
        omega

theorem judge_permanent_iff (request : List UInt8) (a : Answer) :
    (∃ e, judge request a = .failed e ∧ e.isPermanent = true) ↔ Hopeless request a := by
  constructor
  · rintro ⟨e, he, hperm⟩
    exact (judge_failed he).1.mp hperm
  · intro h
    have hno := mt (judge_isSuccess_iff request a).mp (not_settles_of_hopeless h)
    cases hjudge : judge request a with
    | settled => simp [hjudge, Verdict.isSuccess] at hno
    | status s => simp [hjudge, Verdict.isSuccess] at hno
    | failed e => exact ⟨e, rfl, (judge_failed hjudge).1.mpr h⟩

/-! ## Status answers -/

/-- The requests for the status that are completed are the ones that bring a report. -/
theorem isSome_statusReport? (request : List UInt8) (a : Answer) :
    (statusReport? request a).isSome = true ↔ request[3]? = some 0x01 ∧ Settles request a := by
  unfold statusReport? Settles
  cases hf : a.frame? with
  | none => simp
  | some f =>
    have hread : (0x01 : UInt8) ≠ 0x87 := by decide
    have hlow : ¬ (0x02 : UInt8) ≤ 0x01 := by decide
    by_cases hcode : request[3]? = some 0x01
    · by_cases hcommand : f.command = 0x81 <;>
        simp [hcode, hcommand, isSome_reportBytes?, Acknowledges, hread, hlow]
    · simp [hcode]

theorem judge_of_frame {request : List UInt8} {a : Answer} {f : Frame} {code : UInt8}
    (hf : f ∈ a.frame?) (hcode : request[3]? = some code) :
    judge request a = .ofFrame request code f := by
  obtain ⟨bytes, rfl, hparse⟩ := Answer.mem_frame?.mp hf
  have hindex : request[commandIndex]? = some code := hcode
  simp only [judge, hparse, hindex]

/-- Only a request for the status is answered by one. -/
theorem Verdict.status_of_ofFrame {request : List UInt8} {code : UInt8} {f : Frame} {s : Status}
    (h : Verdict.ofFrame request code f = .status s) :
    code = 0x01 ∧ f.command = 0x81 ∧ Status.ofPayload? f.payload = some s := by
  unfold Verdict.ofFrame Verdict.ofAck at h
  repeat' split at h
  all_goals cases h
  rename_i hack hinfo _ hs
  have hcode : code = 0x01 := hinfo
  subst hcode
  exact ⟨rfl, hack.2, hs⟩

/-- A request for the status is completed by nothing else. -/
theorem Verdict.ne_info_of_settled {request : List UInt8} {code : UInt8} {f : Frame}
    (h : Verdict.ofFrame request code f = .settled) : code ≠ 0x01 := by
  rintro rfl
  have hread : (0x01 : UInt8) ≠ Command.readCustomHid.code := by decide
  have hinfo : (0x01 : UInt8) = Command.getInfo.code := rfl
  simp only [Verdict.ofFrame, Verdict.ofAck, if_neg hread, if_pos hinfo] at h
  repeat' split at h
  all_goals cases h

theorem judge_status {request : List UInt8} {a : Answer} {s : Status}
    (h : judge request a = .status s) :
    ∃ r, statusReport? request a = some r ∧ s.online = (r.1 != 0) ∧ s.leds = .ofByte r.2 := by
  obtain ⟨f, hf, code, hcode, -⟩ := (judge_isSuccess_iff request a).mp (by rw [h]; rfl)
  rw [judge_of_frame hf hcode] at h
  obtain ⟨rfl, hcommand, hs⟩ := Verdict.status_of_ofFrame h
  rw [Status.ofPayload?_eq] at hs
  obtain ⟨r, hr, rfl⟩ := Option.map_eq_some_iff.mp hs
  refine ⟨r, ?_, rfl, rfl⟩
  simp [statusReport?, Option.mem_def.mp hf, Option.mem_def.mp hcode, hcommand, hr]

theorem judge_settled {request : List UInt8} {a : Answer} (h : judge request a = .settled) :
    statusReport? request a = none := by
  obtain ⟨f, hf, code, hcode, -⟩ := (judge_isSuccess_iff request a).mp (by rw [h]; rfl)
  rw [judge_of_frame hf hcode] at h
  have hinfo := Verdict.ne_info_of_settled h
  simp [statusReport?, Option.mem_def.mp hf, Option.mem_def.mp hcode, hinfo]

theorem judge_failed_report {request : List UInt8} {a : Answer} {e : Failure}
    (h : judge request a = .failed e) : statusReport? request a = none := by
  cases hr : statusReport? request a with
  | none => rfl
  | some r =>
    have hsettles := ((isSome_statusReport? request a).mp (by simp [hr])).2
    have hsuccess := (judge_isSuccess_iff request a).mpr hsettles
    simp [h, Verdict.isSuccess] at hsuccess

/-! ## The protocol -/

/-- **The verdict is the protocol's.** An attempt succeeds exactly on a frame that acknowledges
the command of its request, and fails for good exactly if the request was refused or a frame
answers a request without a command. Any other outcome is worth another attempt, and is charged as
silence exactly if the chip fell silent. An error acknowledgement, an acknowledgement of another
command or one whose command byte wraps around never completes a request but a read. -/
theorem judge_matches_protocol (request : List UInt8) (a : Answer) :
    ((judge request a).isSuccess = true ↔
      ∃ bytes f code, a = .ok bytes ∧ Frame.parse bytes = .ok f ∧
        request[3]? = some code ∧ Acknowledges code f) ∧
    ((∃ e, judge request a = .failed e ∧ e.isPermanent = true) ↔
      (∃ shown, a = .error (.invalidRequest shown)) ∨
      ∃ bytes f, a = .ok bytes ∧ Frame.parse bytes = .ok f ∧ request.length < 4) ∧
    ((judge request a).isSuccess = true ∨ ∃ e, judge request a = .failed e ∧
      (e.isShortRead = true ↔ ∃ expected received, a = .error (.shortRead expected received))) ∧
    ∀ bytes f code, a = .ok bytes ∧ Frame.parse bytes = .ok f ∧ request[3]? = some code ∧
      code ≠ 0x87 ∧ (f.command = errorAckOf code ∨ 0xC0 ≤ f.command ∨ f.command ≠ ackOf code ∨
        0x80 ≤ code) →
      (judge request a).isSuccess = false := by
  refine ⟨?_, ?_, ?_, ?_⟩
  · rw [judge_isSuccess_iff]
    constructor
    · rintro ⟨f, hf, code, hcode, hack⟩
      obtain ⟨bytes, ha, hparse⟩ := Answer.mem_frame?.mp hf
      exact ⟨bytes, f, code, ha, hparse, hcode, hack⟩
    · rintro ⟨bytes, f, code, ha, hparse, hcode, hack⟩
      exact ⟨f, Answer.mem_frame?.mpr ⟨bytes, ha, hparse⟩, code, hcode, hack⟩
  · rw [judge_permanent_iff, Hopeless, Answer.isRefused_iff, Option.isSome_iff_exists]
    simp only [← Option.mem_def, Answer.mem_frame?]
    grind
  · cases hjudge : judge request a with
    | settled => exact .inl rfl
    | status s => exact .inl rfl
    | failed e => exact .inr ⟨e, rfl, by rw [(judge_failed hjudge).2.1, Answer.isSilent_iff]⟩
  · rintro bytes f code ⟨rfl, hparse, hcode, h87, hforeign⟩
    rw [Bool.eq_false_iff, ne_eq, judge_isSuccess_iff]
    rintro ⟨f', hf', code', hcode', hack⟩
    obtain ⟨bytes', hbytes, hparse'⟩ := Answer.mem_frame?.mp hf'
    obtain rfl := Except.ok.inj hbytes
    obtain rfl := Except.ok.inj (hparse.symm.trans hparse')
    obtain rfl := Option.some.inj (hcode.symm.trans hcode')
    obtain ⟨hown, hnoerror, hlow, hsmall⟩ := hack.command_eq h87
    rcases hforeign with h | h | h | h
    · exact hnoerror h
    · exact absurd hlow (UInt8.not_lt.mpr h)
    · exact h hown
    · exact absurd hsmall (UInt8.not_lt.mpr h)

end SerialHid
