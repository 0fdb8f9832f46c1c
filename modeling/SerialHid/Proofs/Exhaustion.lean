/-
SerialHid.Proofs.Exhaustion — when the log tells that a request was given up for lack of budget.

* `RanOut` — the budget ran out: there was none, or a temporary failure took the last of it.
* `FailedOnLast` — the last attempt that the budget allows failed for good.
* `Ended.exhausted_iff` — a counter is at zero in the end in these two cases, and in no other.
* `exhaustion_told` — the line stands in the log in the same two cases, once and last.
* `told_of_refused` — the second case: one attempt is allowed, the request is refused for good, and
  yet the line is there.

A failure is charged before anyone asks whether another attempt could help. So the line also follows
a failure for good, if no more than one attempt was left.
-/
import SerialHid.Proofs.Ending

namespace SerialHid

section Spec

variable (settings : Settings) (request : List UInt8) (rounds : Nat → Round) (n : Nat)

/-- The request was given up after `n` attempts because a budget ran out: there was none from the
start, or the last attempt failed temporarily and took the last of it. -/
def RanOut : Prop :=
  settings.commonRetries = 0 ∨ settings.readRetries = 0 ∨
  1 ≤ n ∧ Temporary request (rounds (n - 1)).answer ∧
    (n = settings.commonRetries ∨ silences rounds n = settings.readRetries)

instance : Decidable (RanOut settings request rounds n) := inferInstanceAs (Decidable (_ ∨ _ ∨ _))

/-- The request was ended for good by the last attempt that it had. -/
def FailedOnLast : Prop :=
  1 ≤ n ∧ Hopeless request (rounds (n - 1)).answer ∧ n = settings.commonRetries

instance : Decidable (FailedOnLast settings request rounds n) :=
  inferInstanceAs (Decidable (_ ∧ _ ∧ _))

end Spec

variable {settings : Settings} {request : List UInt8} {d d₁ : Desk} {rounds : Nat → Round} {n : Nat}
  {ok : Bool} {j : Job}

/-- Silence that spends the budget for reads comes with the last attempt. -/
theorem Attempted.silent_at_last (h : Attempted settings request d rounds (n + 1))
    (hspent : silences rounds (n + 1) = settings.readRetries) (hread : settings.readRetries ≠ 0) :
    (rounds n).answer.isSilent = true := by
  by_contra hheard
  have hsame : silences rounds n = settings.readRetries := by
    simpa [silences_succ, hheard] using hspent
  unfold Attempted at h
  split at h
  · omega
  obtain ⟨-, hzero⟩ | ⟨-, -, -, hbefore⟩ := h
  · omega
  · refine hbefore n (Nat.lt_succ_self n) ⟨?_, .inr (.inr (.inr (.inl hsame)))⟩
    rcases Nat.eq_zero_or_pos n with rfl | hpos
    · exact absurd hsame.symm hread
    · exact hpos

/-- A request that succeeded has budget left, and did not fail. -/
theorem Ended.not_ranOut_of_ok (h : Ended settings request d rounds n true j d₁) :
    ¬ RanOut settings request rounds n ∧ ¬ FailedOnLast settings request rounds n := by
  obtain ⟨hcommon, hread⟩ : j.common ≠ 0 ∧ j.read ≠ 0 := by simpa [Job.exhausted] using h.left rfl
  have hc := h.accounts.common_eq
  have hr := h.accounts.read_eq
  have hlast : 1 ≤ n → Settles request (rounds (n - 1)).answer := by
    intro hpos
    obtain ⟨hnoop, -⟩ | ⟨-, hsettles⟩ := h.ok_iff.mp rfl
    · have hzero : n = 0 := by simpa [Attempted, hnoop] using h.attempted
      omega
    · exact hsettles
  constructor
  · intro hran
    rcases hran with hzero | hzero | ⟨hpos, htemporary, -⟩
    · omega
    · omega
    · exact htemporary.1 (hlast hpos)
  · intro hfailed
    obtain ⟨hpos, hhopeless, -⟩ := hfailed
    exact not_settles_of_hopeless hhopeless (hlast hpos)

/-- One that failed is without budget in just these cases. -/
theorem Ended.exhausted_iff_of_failed (h : Ended settings request d rounds n false j d₁) :
    j.exhausted = true ↔
      RanOut settings request rounds n ∨ FailedOnLast settings request rounds n := by
  have hunsettled : ∀ k < n, ¬ Settles request (rounds k).answer :=
    fun k hk hs => Bool.false_ne_true (h.ok_of_settles hk hs)
  have hc := h.accounts.common_eq
  have hr := h.accounts.read_eq
  rw [length_failuresOf hunsettled] at hc
  have hspent : j.exhausted = true ↔ j.common = 0 ∨ j.read = 0 := by simp [Job.exhausted]
  rw [hspent]
  constructor
  · intro hzero
    rcases n with _ | n
    · simp only [silences, List.range_zero, List.countP_nil] at hr
      exact .inl (by rcases hzero with hzero | hzero <;> simp [RanOut] <;> omega)
    · have hlast : Temporary request (rounds n).answer ∨ Hopeless request (rounds n).answer := by
        by_cases hh : Hopeless request (rounds n).answer
        · exact .inr hh
        · exact .inl ⟨hunsettled n (Nat.lt_succ_self n), hh⟩
      by_cases hread : settings.readRetries = 0
      · exact .inl (.inr (.inl hread))
      rcases hzero with hzero | hzero
      · rcases hlast with htemporary | hhopeless
        · exact .inl (.inr (.inr ⟨by omega, htemporary, .inl (by omega)⟩))
        · exact .inr ⟨by omega, hhopeless, by omega⟩
      · have hsilent := h.attempted.silent_at_last (by omega) hread
        have htemporary := hlast.resolve_right fun hh => by
          simp [not_silent_of_hopeless hh] at hsilent
        exact .inl (.inr (.inr ⟨by omega, htemporary, .inr (by omega)⟩))
  · intro hcases
    rcases hcases with (hzero | hzero | ⟨-, -, hlast | hlast⟩) | ⟨-, -, hlast⟩ <;> omega

/-- A counter is at zero in the end in just these cases. -/
theorem Ended.exhausted_iff (h : Ended settings request d rounds n ok j d₁) :
    j.exhausted = true ↔
      RanOut settings request rounds n ∨ FailedOnLast settings request rounds n := by
  cases ok with
  | true => simp [h.left rfl, h.not_ranOut_of_ok]
  | false => exact h.exhausted_iff_of_failed

/-- **When the log tells that the budget is spent.** The line stands in the log exactly if the
budget ran out, or the last attempt that it allows failed for good; it stands there once, after all
others, and about this request. It never follows a success, and never a request that was given up
with budget left, be it that the engine stops or that no attempt could help. -/
theorem exhaustion_told (settings : Settings) (request : List UInt8) (d : Desk)
    (rounds : Nat → Round) :
    ∃ n ok d' rest, Attempted settings request d rounds n ∧
      (∀ k, n < k → Job.after settings request d rounds k = (.returned ok, d')) ∧
      d'.journal =
        (if RanOut settings request rounds n ∨ FailedOnLast settings request rounds n
          then [.notice (.exhausted request)] else []) ++ rest ++ d.journal ∧
      (∀ e ∈ rest, e.isExhausted = false) ∧
      (ok = true → ¬ RanOut settings request rounds n ∧ ¬ FailedOnLast settings request rounds n) ∧
      (n < settings.commonRetries → silences rounds n < settings.readRetries →
        ¬ RanOut settings request rounds n ∧ ¬ FailedOnLast settings request rounds n) := by
  obtain ⟨n, ok, j, d₁, h⟩ := ended settings request d rounds
  obtain ⟨added, hadded, hunspent⟩ := h.accounts.unspent
  have hjournal := (j.finish_fields ok d₁).2.2.2.2.2
  refine ⟨n, ok, (j.finish ok d₁).2,
    ((j.burst.finish.map Notice.attemptFailed).map .notice).reverse ++ added, h.attempted,
    h.after_eq, ?_, ?_, ?_, ?_⟩
  · rw [hjournal, hadded, Job.lastNotices, h.accounts.request_eq, ← List.append_assoc,
      ← List.append_assoc]
    simp only [h.exhausted_iff]
  · intro e he
    rcases List.mem_append.mp he with hheld | hearlier
    · simp only [List.mem_reverse, List.mem_map] at hheld
      obtain ⟨-, ⟨f, -, rfl⟩, rfl⟩ := hheld
      rfl
    · simpa using hunspent e hearlier
  · intro hok
    subst hok
    exact h.not_ranOut_of_ok
  · intro hcommon hread
    constructor
    · intro hran
      rcases hran with hzero | hzero | ⟨-, -, hlast | hlast⟩ <;> omega
    · intro hfailed
      have hlast := hfailed.2.2
      omega

/-- Bytes that are no frame. -/
def noFrame : List UInt8 := [1, 2, 3, 4, 5, 6]

/-- A connection that will not send them. -/
def refusingRounds (_ : Nat) : Round where
  before := []
  asking := []
  answer := .error (.invalidRequest (Hex.spaced noFrame))
  probing := []
  probe := .error (.shortRead 5 0)

/-- One attempt is allowed and made, the request is refused for good, so that no budget ran out; and
yet the line is there. -/
theorem told_of_refused :
    AttemptsMade { commonRetries := 1 } noFrame .initial refusingRounds 1 ∧
    Hopeless noFrame (refusingRounds 0).answer ∧
    ¬ RanOut { commonRetries := 1 } noFrame refusingRounds 1 ∧
    ∃ d', (∀ k, 1 ≤ k →
        Job.after { commonRetries := 1 } noFrame .initial refusingRounds k = (.returned false, d')) ∧
      .notice (.exhausted noFrame) ∈ d'.journal := by
  have hhopeless : Hopeless noFrame (refusingRounds 0).answer := by decide
  have hlast : IsLastAttempt { commonRetries := 1 } noFrame .initial refusingRounds 1 :=
    ⟨by decide, .inr (.inl hhopeless)⟩
  refine ⟨.inr ⟨by decide, by decide, hlast, ?_⟩, hhopeless, by decide,
    (Job.after { commonRetries := 1 } noFrame .initial refusingRounds 1).2, ?_, ?_⟩
  · intro m hm hearlier
    exact absurd hearlier.1 (by omega)
  · intro k hk
    exact after_of_returned (n := 1) rfl hk
  · exact List.mem_cons_self

end SerialHid
