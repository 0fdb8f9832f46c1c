/-
SerialHid.Proofs.Effect — what one request makes of the published state.

* `Untold` — what attempts do that bring no status: they may take the chip offline, and do nothing
  else.
* `NetEffect` — the whole effect of a request, for each of its outcomes.
* `net_effect` — every request has this effect if nobody else writes the state meanwhile.

The state after `n` attempts is the fold `netState` of their verdicts, so only two things are left
to say about it: what verdicts that are no status add up to, and that a status overwrites all that
came before.
-/
import SerialHid.Proofs.Ending
import SerialHid.Proofs.History

namespace SerialHid

/-- The effect of attempts that bring no status. -/
structure Untold (request : List UInt8) (rounds : Nat → Round) (n : Nat)
    (s s' : DeviceState) : Prop where
  busy_eq : s'.busy = s.busy
  leds_eq : s'.leds = s.leds
  offline : (∃ k < n, Temporary request (rounds k).answer) → s'.online = false
  online_eq : (∀ k < n, ¬ Temporary request (rounds k).answer) → s'.online = s.online

/-- The effect of a request on the state `s`, of which `s'` is left after `n` attempts. -/
structure NetEffect (request : List UInt8) (rounds : Nat → Round) (n : Nat) (ok : Bool)
    (s s' : DeviceState) : Prop where
  /-- A request for the status that succeeded leaves what its last answer tells, and nothing of
  what was there. -/
  told : ok = true → request[3]? = some 0x01 → 1 ≤ n ∧
    ∃ f ∈ (rounds (n - 1)).answer.frame?, ∃ usb lights,
      f.payload[1]? = some usb ∧ f.payload[2]? = some lights ∧
      s' = ⟨usb != 0, false,
        ⟨lights.toNat.testBit 0, lights.toNat.testBit 1, lights.toNat.testBit 2⟩⟩
  untold : ¬ (ok = true ∧ request[3]? = some 0x01) → Untold request rounds n s s'
  /-- A request without a temporary failure is one without an attempt, or one whose first attempt
  decided it. -/
  untroubled : (∀ k < n, ¬ Temporary request (rounds k).answer) →
    n = 0 ∨ n = 1 ∧ (Settles request (rounds 0).answer ∨ Hopeless request (rounds 0).answer)

variable {settings : Settings} {request : List UInt8} {d : Desk} {rounds : Nat → Round} {n : Nat}
  {a : Answer} {f : Failure}

/-! ## Verdicts that are no status -/

/-- Attempts that bring no status. -/
theorem untold_netState (s : DeviceState)
    (h : ∀ k < n, ∀ told, judge request (rounds k).answer ≠ .status told) :
    Untold request rounds n s (netState request rounds s n) := by
  induction n with
  | zero => exact ⟨rfl, rfl, by simp, fun _ => rfl⟩
  | succ n ih =>
    have hbefore := ih fun k hk => h k (Nat.lt_succ_of_lt hk)
    -- An attempt that leaves the state alone is none of the temporary failures.
    have hsame (happly : (judge request (rounds n).answer).apply = id)
        (hlast : ¬ Temporary request (rounds n).answer) :
        Untold request rounds (n + 1) s (netState request rounds s (n + 1)) := by
      rw [netState_succ, happly]
      refine ⟨hbefore.busy_eq, hbefore.leds_eq, ?_, ?_⟩
      · intro hfailed
        obtain ⟨k, hk, htemporary⟩ := hfailed
        rcases Nat.lt_succ_iff_lt_or_eq.mp hk with hk | rfl
        · exact hbefore.offline ⟨k, hk, htemporary⟩
        · exact absurd htemporary hlast
      · intro hnone
        exact hbefore.online_eq fun k hk => hnone k (Nat.lt_succ_of_lt hk)
    cases hjudge : judge request (rounds n).answer with
    | settled =>
      refine hsame (by rw [hjudge]; rfl) fun htemporary => htemporary.1 ?_
      rw [← judge_isSuccess_iff, hjudge]
      rfl
    | status told => exact absurd hjudge (h n (Nat.lt_succ_self n) told)
    | failed f =>
      have htemporary := temporary_iff_of_failed hjudge
      cases hf : f.isPermanent with
      | true =>
        exact hsame (by rw [hjudge, Verdict.apply_of_permanent hf]) (by simp [htemporary, hf])
      | false =>
        rw [netState_succ, hjudge, Verdict.apply_of_temporary hf]
        refine ⟨hbefore.busy_eq, hbefore.leds_eq, fun _ => rfl, ?_⟩
        intro hnone
        exact absurd (htemporary.mpr hf) (hnone n (Nat.lt_succ_self n))

/-! ## A status -/

theorem reportBytes?_eq_some {payload : List UInt8} {usb lights : UInt8}
    (h : reportBytes? payload = some (usb, lights)) :
    payload[1]? = some usb ∧ payload[2]? = some lights := by
  rcases payload with _ | ⟨_, _ | ⟨_, _ | ⟨_, rest⟩⟩⟩ <;> simp_all [reportBytes?]

/-- A completed request for the status is answered by one. -/
theorem judge_of_info (hsettles : Settles request a) (hinfo : request[3]? = some 0x01) :
    ∃ told, judge request a = .status told := by
  have hreport := (isSome_statusReport? request a).mpr ⟨hinfo, hsettles⟩
  cases hjudge : judge request a with
  | settled => simp [judge_settled hjudge] at hreport
  | status told => exact ⟨told, rfl⟩
  | failed f => simp [judge_failed_report hjudge] at hreport

/-- Such an answer leaves nothing but what its payload tells. -/
theorem apply_status (hsettles : Settles request a) (hinfo : request[3]? = some 0x01)
    (s : DeviceState) :
    ∃ f ∈ a.frame?, ∃ usb lights, f.payload[1]? = some usb ∧ f.payload[2]? = some lights ∧
      (judge request a).apply s = ⟨usb != 0, false,
        ⟨lights.toNat.testBit 0, lights.toNat.testBit 1, lights.toNat.testBit 2⟩⟩ := by
  obtain ⟨told, hjudge⟩ := judge_of_info hsettles hinfo
  obtain ⟨⟨usb, lights⟩, hreport, honline, hleds⟩ := judge_status hjudge
  obtain ⟨f, hf, -⟩ := hsettles
  have hcommand : f.command = 0x81 ∧ reportBytes? f.payload = some (usb, lights) := by
    simpa [statusReport?, Option.mem_def.mp hf, hinfo] using hreport
  obtain ⟨husb, hlights⟩ := reportBytes?_eq_some hcommand.2
  refine ⟨f, hf, usb, lights, husb, hlights, ?_⟩
  rw [hjudge, ← Leds.ofByte_eq, ← hleds, ← honline]
  rfl

/-- Only a request for the status that succeeds is told one. -/
theorem Ended.no_status {ok : Bool} {j : Job} {d₁ : Desk}
    (h : Ended settings request d rounds n ok j d₁)
    (huntold : ¬ (ok = true ∧ request[3]? = some 0x01)) :
    ∀ k < n, ∀ told, judge request (rounds k).answer ≠ .status told := by
  intro k hk told hjudge
  obtain ⟨r, hreport, -⟩ := judge_status hjudge
  obtain ⟨hinfo, hsettles⟩ := (isSome_statusReport? request _).mp (by rw [hreport]; rfl)
  exact huntold ⟨h.ok_of_settles hk hsettles, hinfo⟩

/-- Where nobody else writes the state, this is what a request leaves of it. -/
theorem Ended.netEffect {ok : Bool} {j : Job} {d₁ : Desk}
    (h : Ended settings request d rounds n ok j d₁) (hnoop : settings.noop = false)
    (halone : ∀ k s, .publish s ∉ (rounds k).acts) :
    NetEffect request rounds n ok d.state (j.finish ok d₁).2.state := by
  have hstate : (j.finish ok d₁).2.state = netState request rounds d.state n := by
    simp [h.accounts.state_eq hnoop halone]
  rw [hstate]
  refine ⟨?_, ?_, ?_⟩
  · intro hok hinfo
    obtain ⟨hpos, hsettles⟩ : 1 ≤ n ∧ Settles request (rounds (n - 1)).answer := by
      simpa [hnoop] using h.ok_iff.mp hok
    obtain ⟨n, rfl⟩ : ∃ m, n = m + 1 := ⟨n - 1, by omega⟩
    refine ⟨hpos, ?_⟩
    rw [netState_succ]
    exact apply_status hsettles hinfo _
  · intro huntold
    exact untold_netState d.state (h.no_status huntold)
  · intro hnone
    rcases n with _ | _ | n
    · exact .inl rfl
    · have hdecided := hnone 0 Nat.one_pos
      simp only [Temporary, not_and_or, not_not] at hdecided
      exact .inr ⟨rfl, hdecided⟩
    · exact absurd (h.attempted.undecided (k := 0) (by omega)) (hnone 0 (by omega))

/-- **The effect of a request.** A request for the status that succeeds leaves the state that its
last answer tells, whatever was there and whatever failed before. Any other request leaves the
busy flag and the lights alone, and takes the chip offline exactly if an attempt failed
temporarily. This holds for every budget, every list of answers, and whenever the engine is told
to stop; the answers to probes leave no trace. -/
theorem net_effect (settings : Settings) (hnoop : settings.noop = false) (request : List UInt8)
    (d : Desk) (rounds : Nat → Round) (halone : ∀ k s, .publish s ∉ (rounds k).acts) :
    ∃ n ok d', AttemptsMade settings request d rounds n ∧
      (∀ k, n < k → Job.after settings request d rounds k = (.returned ok, d')) ∧
      NetEffect request rounds n ok d.state d'.state := by
  obtain ⟨n, ok, j, d₁, h⟩ := ended settings request d rounds
  refine ⟨n, ok, (j.finish ok d₁).2, ?_, h.after_eq, h.netEffect hnoop halone⟩
  simpa [Attempted, hnoop] using h.attempted

/-- A connection that garbles its first answer, tells of all three lights when it is probed, and
from then on of the number lock alone. Meanwhile a reset is asked for. -/
def recoveringRounds (k : Nat) : Round where
  before := []
  asking := [.askReset]
  answer := if k = 0 then .error (.badFrame (.badHeader 0x00 0xAB 0x00))
    else .ok [0x57, 0xAB, 0x00, 0x81, 0x03, 0x30, 0x01, 0x01, 0xB8]
  probing := []
  probe := .ok [0x57, 0xAB, 0x00, 0x81, 0x03, 0x30, 0x00, 0x07, 0xBD]

/-- A desk while the chip is being reset, with a light on that will go out. -/
def resettingDesk : Desk := { Desk.initial with state := ⟨false, true, ⟨false, true, false⟩⟩ }

example : (Job.after {} getInfoFrame.bytes resettingDesk recoveringRounds 2).2.state =
    ⟨true, false, ⟨true, false, false⟩⟩ := by decide

/-- What a request for the status leaves of that over such a connection. -/
theorem net_effect_recovering :
    ({} : Settings).noop = false ∧ (∀ k s, .publish s ∉ (recoveringRounds k).acts) ∧
    ∃ n ok d', AttemptsMade {} getInfoFrame.bytes resettingDesk recoveringRounds n ∧
      (∀ k, n < k → Job.after {} getInfoFrame.bytes resettingDesk recoveringRounds k =
        (.returned ok, d')) ∧
      NetEffect getInfoFrame.bytes recoveringRounds n ok resettingDesk.state d'.state := by
  have halone : ∀ k s, .publish s ∉ (recoveringRounds k).acts := by
    simp [recoveringRounds, Round.acts]
  exact ⟨rfl, halone, net_effect {} rfl getInfoFrame.bytes resettingDesk recoveringRounds halone⟩

end SerialHid
