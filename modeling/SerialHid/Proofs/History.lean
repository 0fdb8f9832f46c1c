/-
SerialHid.Proofs.History — the published state is a function of what happened.

* `Mark` — what a step can mean for the published state: a status answer was taken over, an
  attempt failed, a reset that was asked for began.
* `Worker.mark? : Config × Move → Option Mark` — what a step means, read off the answers and off
  the point that the worker is at.
* `Recounts : DeviceState → List Mark → DeviceState → Prop` — the state that belongs to a history,
  said of the latest status answer and of what came after it.
* `Worker.state_recounts_history` — every run publishes the state of its history, and shows no
  other.
-/
import SerialHid.Proofs.Verdict
import SerialHid.Proofs.Worker

namespace SerialHid

/-! ## Histories -/

/-- What a step means for the published state. -/
inductive Mark where
  /-- A status answer was taken over, with these bytes 1 and 2 of its payload. -/
  | status (usb lights : UInt8)
  /-- An attempt at a request failed, and not for good. -/
  | failure
  /-- A reset that was asked for began. -/
  | reset
  deriving DecidableEq, Repr

/-- The bytes of a status answer. -/
def Mark.status? : Mark → Option (UInt8 × UInt8)
  | status usb lights => some (usb, lights)
  | _ => none

/-- The bytes of the latest status answer. -/
def latestStatus? (history : List Mark) : Option (UInt8 × UInt8) :=
  history.reverse.findSome? Mark.status?

/-- What came after the latest status answer, the latest first. -/
def sinceStatus (history : List Mark) : List Mark :=
  history.reverse.takeWhile fun k => k.status?.isNone

/-- The state that belongs to a history which began in the state `s₀`. -/
structure Recounts (s₀ : DeviceState) (history : List Mark) (s : DeviceState) : Prop where
  leds : s.leds = match latestStatus? history with
    | some (_, lights) =>
      ⟨lights.toNat.testBit 0, lights.toNat.testBit 1, lights.toNat.testBit 2⟩
    | none => s₀.leds
  busy : s.busy = true ↔
    .reset ∈ sinceStatus history ∨ latestStatus? history = none ∧ s₀.busy = true
  online : s.online = true ↔
    .failure ∉ sinceStatus history ∧ match latestStatus? history with
      | some (usb, _) => usb ≠ 0
      | none => s₀.online = true

/-! ## What a step means -/

/-- What an answer means that a request waits for. A malformed one means nothing yet: the attempt
is over only when its probe is, whatever that brings. -/
def Job.mark? (j : Job) (a : Answer) : Option Mark :=
  match j.stage with
  | .ready _ => none
  | .asked =>
    match statusReport? j.request a with
    | some (usb, lights) => some (.status usb lights)
    | none =>
      if Settles j.request a ∨ Hopeless j.request a ∨ a.isMalformed = true then none
      else some .failure
  | .probing _ => some .failure

/-- What a step means. -/
def Worker.mark? : Config × Move → Option Mark
  | (⟨_, .session (.request _ j)⟩, .reply (.answer a)) => j.mark? a
  | (⟨d, .session .resetCheck⟩, .proceed) => if d.resetWanted then some .reset else none
  | _ => none

/-- What happened in a run. -/
def Worker.history (setup : Setup) (c : Config) (ms : List Move) : List Mark :=
  (trail setup c ms).filterMap mark?

/-! ## Marks and states -/

/-- The state after a mark. -/
def Mark.apply : Mark → DeviceState → DeviceState
  | status usb lights, _ => .setStatus (usb != 0) (.ofByte lights)
  | failure, s => s.setOnline false
  | reset, s => s.setBusy true

/-- The state after a step, given what the step means. -/
def DeviceState.marked (s : DeviceState) : Option Mark → DeviceState
  | some k => k.apply s
  | none => s

theorem and_ne_zero_eq_testBit (b mask : UInt8) (i : Nat) (hmask : mask.toNat = 1 <<< i) :
    (b &&& mask != 0) = b.toNat.testBit i := by
  have hand : (b &&& mask).toNat = b.toNat &&& 1 <<< i := by rw [UInt8.toNat_and, hmask]
  rw [Bool.eq_iff_iff, bne_iff_ne, ne_eq, ← UInt8.toNat_inj, hand,
    Nat.one_shiftLeft]
  constructor
  · intro hne
    cases hbit : b.toNat.testBit i with
    | true => rfl
    | false =>
      refine absurd (Nat.eq_of_testBit_eq fun k => ?_) hne
      by_cases hk : i = k
      · subst hk
        simpa using hbit
      · simp [Nat.testBit_two_pow_of_ne hk]
  · intro hbit hzero
    have hsame := congrArg (Nat.testBit · i) hzero
    simp [Nat.testBit_two_pow_self, hbit] at hsame

theorem Leds.ofByte_eq (b : UInt8) :
    Leds.ofByte b = ⟨b.toNat.testBit 0, b.toNat.testBit 1, b.toNat.testBit 2⟩ := by
  rw [ofByte, and_ne_zero_eq_testBit b 1 0 rfl, and_ne_zero_eq_testBit b 2 1 rfl,
    and_ne_zero_eq_testBit b 4 2 rfl]

section Append

variable {s₀ s : DeviceState} {history : List Mark}

theorem latestStatus?_concat (history : List Mark) (k : Mark) :
    latestStatus? (history ++ [k]) = k.status?.or (latestStatus? history) := by
  cases hk : k.status? <;> simp [latestStatus?, hk]

theorem sinceStatus_concat (history : List Mark) (k : Mark) :
    sinceStatus (history ++ [k]) = if k.status?.isNone then k :: sinceStatus history else [] := by
  cases hk : k.status? <;> simp [sinceStatus, hk]

theorem Recounts.start (s₀ : DeviceState) : Recounts s₀ [] s₀ where
  leds := rfl
  busy := by simp [sinceStatus, latestStatus?]
  online := by simp [sinceStatus, latestStatus?]

/-- One more mark changes the state as it says. -/
theorem Recounts.concat (h : Recounts s₀ history s) (k : Mark) :
    Recounts s₀ (history ++ [k]) (k.apply s) := by
  obtain ⟨hleds, hbusy, honline⟩ := h
  constructor
  all_goals rw [latestStatus?_concat]
  · cases k with
    | status usb lights => exact Leds.ofByte_eq lights
    | failure => exact hleds
    | reset => exact hleds
  · rw [sinceStatus_concat]
    cases k with
    | status usb lights => simp [Mark.status?, Mark.apply, DeviceState.setStatus]
    | failure => simpa [Mark.status?, Mark.apply, DeviceState.setOnline] using hbusy
    | reset => simp [Mark.status?, Mark.apply, DeviceState.setBusy]
  · rw [sinceStatus_concat]
    cases k with
    | status usb lights => simp [Mark.status?, Mark.apply, DeviceState.setStatus]
    | failure => simp [Mark.status?, Mark.apply, DeviceState.setOnline]
    | reset => simpa [Mark.status?, Mark.apply, DeviceState.setBusy] using honline

/-- A step that means nothing leaves the state of the history in place. -/
theorem Recounts.concat? (h : Recounts s₀ history s) (k : Option Mark) :
    Recounts s₀ (history ++ k.toList) (s.marked k) := by
  cases k with
  | none => simpa [DeviceState.marked] using h
  | some k => exact h.concat k

end Append

/-! ## One step -/

namespace Job

variable {settings : Settings} {j : Job} {d : Desk} {a : Answer} {pd : Progress × Desk}

/-- By itself a request changes the state only if it is pretended. -/
theorem Turn.state_of_proceed (hnoop : settings.noop = false)
    (h : Turn settings j d .proceed pd) : pd.2.state = d.state := by
  cases h with
  | exhausted | abandoned => simp
  | pretended first hstage hleft hpretend => simp [hnoop] at hpretend
  | sent => rfl

/-- An answer changes the state as it says. -/
theorem Turn.state_of_answer (hprobe : ∀ f, j.stage = .probing f → f.isPermanent = false)
    (h : Turn settings j d (.answer a) pd) : pd.2.state = d.state.marked (j.mark? a) := by
  cases h with
  | settled _ hstage hjudge =>
    have hsettles : Settles j.request a := (judge_isSuccess_iff ..).mp (by rw [hjudge]; rfl)
    simp [mark?, hstage, judge_settled hjudge, hsettles, DeviceState.marked]
  | status _ s hstage hjudge =>
    obtain ⟨⟨usb, lights⟩, hreport, honline, hleds⟩ := judge_status hjudge
    simp [mark?, hstage, hreport, DeviceState.marked, Mark.apply, honline, hleds]
  | garbled _ f hstage hjudge hgarbled =>
    have hmalformed : a.isMalformed = true := (judge_failed hjudge).2.2 ▸ hgarbled
    simp [mark?, hstage, judge_failed_report hjudge, hmalformed, DeviceState.marked]
  | failed _ f hstage hjudge hformed =>
    obtain ⟨hpermanent, -, hgarbled⟩ := judge_failed hjudge
    have hsettles : ¬ Settles j.request a := fun hs => by
      simpa [hjudge, Verdict.isSuccess] using (judge_isSuccess_iff ..).mpr hs
    have hmalformed : a.isMalformed = false := hgarbled ▸ hformed
    simp only [fail_fields, tell_fields, mark?, hstage, judge_failed_report hjudge, hsettles,
      hmalformed, ← hpermanent]
    cases f.isPermanent <;> rfl
  | resumed _ f hstage =>
    -- No probe would follow a failure for good, which leaves the state alone.
    have hfail (d' : Desk) : (j.fail f d').2.state = d'.state.setOnline false := by
      simp [hprobe f hstage]
    rw [mark?, hstage]
    rcases resume_eq j f a d with heq | ⟨n, heq⟩ <;> rw [heq, hfail] <;> rfl

end Job

/-- A request that waits for a probe has not failed for good. -/
def Point.ProbesInHope : Point → Prop
  | .session (.request _ j) => ∀ f, j.stage = .probing f → f.isPermanent = false
  | _ => True

namespace Worker

variable {setup : Setup} {d : Desk} {p : Point} {m : Move} {c' : Config}

theorem probesInHope_begin (setup : Setup) (q : Purpose) (d : Desk) :
    (begin setup q d).point.ProbesInHope :=
  fun _ h => nomatch h

theorem Transition.probesInHope (h : Transition setup d p m c') (hp : p.ProbesInHope) :
    c'.point.ProbesInHope := by
  have hfollow : ∀ {q j i pd}, Job.Turn setup.settings j d i pd →
      (follow q pd).point.ProbesInHope := by
    intro q j i pd hturn
    rcases pd with ⟨j' | ok, d'⟩
    · exact fun f hstage => hturn.probing rfl hstage
    · cases q <;> cases ok <;> trivial
  cases h with
  | others => exact hp
  | opened | chipReset | received | idled => exact probesInHope_begin _ _ _
  | requestWent q j pd hturn => exact hfollow hturn
  | requestAnswered q j a pd hturn => exact hfollow hturn
  | waited | headed => split <;> trivial
  | _ => trivial

@[simp] theorem mark?_outside (c : Config) (a : Act) : mark? (c, .outside a) = none := by
  rcases c with ⟨d, _ | _ | _ | _ | _ | _ | (_ | _ | _) | _ | _ | _ | _⟩ <;> rfl

/-- A step of the worker changes the state as it says. -/
theorem Transition.state_eq (hnoop : setup.settings.noop = false)
    (halone : ∀ s, m ≠ .outside (.publish s)) (hp : p.ProbesInHope)
    (h : Transition setup d p m c') : c'.desk.state = d.state.marked (mark? (⟨d, p⟩, m)) := by
  have hfollow : ∀ q pd, (follow q pd).desk.state = pd.2.state := by
    rintro q ⟨j | ok, d'⟩ <;> rfl
  have hpulse : ∀ pulse, (tellPulse pulse d).state = d.state := by
    rintro (_ | _ | e) <;> rfl
  cases h with
  | others q a =>
    rw [mark?_outside]
    exact d.state_act fun s hs => halone s (congrArg _ hs)
  | requestWent q j pd hturn => exact (hfollow q pd).trans (hturn.state_of_proceed hnoop)
  | requestAnswered q j a pd hturn => exact (hfollow q pd).trans (hturn.state_of_answer hp)
  | initialPulsed pulse | linePulsed pulse => exact hpulse pulse
  | noReset hwanted => simp [mark?, hwanted, DeviceState.marked]
  | lineReset hwanted | chipReset hwanted =>
    simp [mark?, hwanted, DeviceState.marked, Mark.apply, begin]
  | emptied | flushed => simp [mark?, DeviceState.marked]
  | _ => rfl

/-- What a step shows is the state that it leaves behind. -/
theorem Traffic.shows {d' : Desk} (h : Traffic d p m d') : d.Adds (Entry.shows d'.state) d' := by
  have hdiscard {s : DeviceState} : d.Adds (Entry.shows s) d.discard :=
    (Desk.Adds.of_eq rfl).discard (fun _ => rfl) fun _ => rfl
  cases h with
  | others p a =>
    refine (d.adds_act a).mono fun e he => ?_
    cases e <;> first | rfl | cases he
  | routine p m d' hqueue hadds =>
    exact hadds.mono fun e he => ((Bool.and_eq_true ..).mp he).1
  | handed e es hqueue => exact ⟨[_], rfl, by simp [Entry.shows, Entry.shown?]⟩
  | flushed | emptied => exact hdiscard

/-! ## Runs -/

/-- What is true of the worker after every run. -/
structure Chronicled (s₀ : DeviceState) (t : List (Config × Move)) (c : Config) : Prop where
  probes : c.point.ProbesInHope
  recounts : Recounts s₀ (t.filterMap mark?) c.desk.state

theorem Chronicled.step {s₀ : DeviceState} {t : List (Config × Move)} {c : Config}
    (hnoop : setup.settings.noop = false) (halone : ∀ s, m ≠ .outside (.publish s))
    (h : Chronicled s₀ t c) (hstep : Transition setup c.desk c.point m c') :
    Chronicled s₀ (t ++ [(c, m)]) c' where
  probes := hstep.probesInHope h.probes
  recounts := by
    have hmark : [(c, m)].filterMap mark? = (mark? (c, m)).toList := by
      cases hk : mark? (c, m) <;> simp [hk]
    rw [List.filterMap_append, hmark, hstep.state_eq hnoop halone h.probes]
    exact h.recounts.concat? (mark? (c, m))

theorem chronicled_of_run {d : Desk} {ms : List Move} {c : Config}
    (hnoop : setup.settings.noop = false) (halone : ∀ s, .outside (.publish s) ∉ ms)
    (hrun : run setup (initial d) ms = some c) :
    Chronicled d.state (trail setup (initial d) ms) c := by
  refine run_induction ⟨trivial, .start d.state⟩ ?_ hrun
  intro t m c c' hm h hstep
  exact h.step hnoop (fun s hs => halone s (hs ▸ hm)) hstep

end Worker

/-- **The published state is a function of the history.** After every run of the worker in which
nobody else publishes a state, the published one is the one that `Recounts` gives for what happened
in the run. And so it is at every moment at which the state is shown: whatever step comes next, the
entries that it adds show no state but the one that belongs to the history up to and including that
step. -/
theorem Worker.state_recounts_history (setup : Setup) (hnoop : setup.settings.noop = false)
    (d : Desk) (ms : List Move) (halone : ∀ s, .outside (.publish s) ∉ ms) (c : Config)
    (hrun : run setup (initial d) ms = some c) :
    Recounts d.state (history setup (initial d) ms) c.desk.state ∧
    ∀ m c', (∀ s, m ≠ .outside (.publish s)) → step? setup c m = some c' →
      ∃ added, c'.desk.journal = added ++ c.desk.journal ∧
        ∀ e ∈ added, ∀ s, e.shown? = some s →
          Recounts d.state (history setup (initial d) (ms ++ [m])) s := by
  have hrecounts := chronicled_of_run hnoop halone hrun
  refine ⟨hrecounts.recounts, ?_⟩
  intro m c' hm hstep
  have hturn := transition_of_step? hstep
  obtain ⟨added, hadded, hshows⟩ := hturn.traffic.shows
  refine ⟨added, hadded, ?_⟩
  intro e he s hs
  obtain rfl : s = c'.desk.state := by
    simpa [Entry.shows, hs] using hshows e he
  rw [history, trail_concat hrun hstep]
  exact (hrecounts.step hnoop hm hturn).recounts

namespace Worker

/-- A session in which the status is learned, and then a reset is asked for. -/
def resetSession : List Move :=
  [.proceed, .proceed, .pulse .done, .presence true, .opened none, .proceed,
    .reply (.answer (.ok [0x57, 0xAB, 0x00, 0x81, 0x03, 0x30, 0x01, 0x05, 0xBC])),
    .outside .askReset, .proceed, .proceed]

example : history ⟨{}, false, 1⟩ (initial .initial) resetSession = [.status 0x01 0x05, .reset] := by
  decide

theorem state_recounts_history_reset :
    ({} : Settings).noop = false ∧ (∀ s, .outside (.publish s) ∉ resetSession) ∧
    ∃ c, run ⟨{}, false, 1⟩ (initial .initial) resetSession = some c ∧
      Recounts .initial (history ⟨{}, false, 1⟩ (initial .initial) resetSession) c.desk.state ∧
      ∀ m c', (∀ s, m ≠ .outside (.publish s)) → step? ⟨{}, false, 1⟩ c m = some c' →
        ∃ added, c'.desk.journal = added ++ c.desk.journal ∧
          ∀ e ∈ added, ∀ s, e.shown? = some s → Recounts .initial
            (history ⟨{}, false, 1⟩ (initial .initial) (resetSession ++ [m])) s := by
  have halone : ∀ s, .outside (.publish s) ∉ resetSession := by simp [resetSession]
  obtain ⟨c, hrun⟩ : ∃ c, run ⟨{}, false, 1⟩ (initial .initial) resetSession = some c :=
    Option.isSome_iff_exists.mp (by decide)
  exact ⟨rfl, halone, c, hrun,
    state_recounts_history ⟨{}, false, 1⟩ rfl .initial resetSession halone c hrun⟩

end Worker

end SerialHid
