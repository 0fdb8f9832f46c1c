/-
SerialHid.Proofs.Burst — where the messages are that a burst has taken.

* `Burst.after : Nat → List α → Burst α` — the burst that has taken these messages.
* `Burst.told : Nat → List α → List α` — those of them that it has let out: none up to the
  threshold, and all of them above it.
* `Burst.record_after`, `Burst.told_append_finish` — one more message, and the end.
* `Burst.due : Nat → List α → α → List α` — what one more message lets out.
* `Burst.kept_once_in_order` — what each message of a list lets out, and that together with the end
  this is the list again.
-/
import SerialHid.Burst

namespace SerialHid.Burst

variable {α : Type}

/-- The burst that has taken these messages. -/
def after (threshold : Nat) (messages : List α) : Burst α where
  threshold := threshold
  held := if messages.length ≤ threshold then messages else []
  live := threshold < messages.length

/-- The messages that were let out: all or none, as there are too many of them or not. -/
def told (threshold : Nat) (messages : List α) : List α :=
  if messages.length ≤ threshold then [] else messages

variable (threshold : Nat) (messages : List α) (message : α)

theorem start_eq_after : start threshold = after threshold ([] : List α) := by
  simp [start, after]

theorem told_nil : told threshold ([] : List α) = [] := by simp [told]

/-- One more message: what is due for it is what was not let out before. -/
theorem record_after :
    told threshold messages ++ ((after threshold messages).record message).1 =
        told threshold (messages ++ [message]) ∧
      ((after threshold messages).record message).2 = after threshold (messages ++ [message]) := by
  by_cases hheld : messages.length ≤ threshold
  · -- Nothing was let out yet; the message may be the one that is too many.
    have hlive : ¬ threshold < messages.length := by omega
    by_cases hnext : messages.length + 1 ≤ threshold
    · have hstill : ¬ threshold < messages.length + 1 := by omega
      simp [after, told, record, hheld, hlive, hnext, hstill]
    · have hover : threshold < messages.length + 1 := by omega
      simp [after, told, record, hheld, hlive, hnext, hover]
  · have hlive : threshold < messages.length := by omega
    have hover : ¬ messages.length + 1 ≤ threshold := by omega
    have hlive' : threshold < messages.length + 1 := by omega
    simp [after, told, record, hheld, hlive, hover, hlive']

/-- What was let out and what is still held is all there was. -/
theorem told_append_finish :
    told threshold messages ++ (after threshold messages).finish = messages := by
  by_cases hheld : messages.length ≤ threshold <;> simp [told, after, finish, hheld]

/-! ## All messages -/

/-- What is due for a message, by those that came before it. -/
def due (threshold : Nat) (earlier : List α) (message : α) : List α :=
  if earlier.length < threshold then []
  else if earlier.length = threshold then earlier ++ [message]
  else [message]

/-- One more message lets out nothing, all that was held, or itself: what the messages so far lack
of those that are let out with it. -/
theorem record_after_fst :
    ((after threshold messages).record message).1 = due threshold messages message := by
  have hdue := (record_after threshold messages message).1
  rcases Nat.lt_trichotomy messages.length threshold with hlt | heq | hgt
  · simpa [told, due, hlt, Nat.le_of_lt hlt, Nat.succ_le_of_lt hlt] using hdue
  · have hnext : ¬ threshold + 1 ≤ threshold := by omega
    simpa [told, due, heq, hnext] using hdue
  · have htold : told threshold messages = messages := if_neg (by omega)
    have htold' : told threshold (messages ++ [message]) = messages ++ [message] :=
      if_neg (by simp; omega)
    rw [htold, htold', List.append_cancel_left_eq] at hdue
    rw [hdue, due, if_neg (by omega), if_neg (by omega)]

theorem recordAll_cons_after (earlier : List α) :
    (after threshold earlier).recordAll (message :: messages) =
      (due threshold earlier message ::
          ((after threshold (earlier ++ [message])).recordAll messages).1,
        ((after threshold (earlier ++ [message])).recordAll messages).2) := by
  rw [← record_after_fst, ← (record_after threshold earlier message).2]
  rfl

/-- Each message is recorded by a burst that has taken the earlier ones; the induction is over the
messages, for any that came before. -/
theorem recordAll_after (earlier : List α) :
    (after threshold earlier).recordAll messages =
      (messages.mapIdx fun i m => due threshold (earlier ++ messages.take i) m,
        after threshold (earlier ++ messages)) := by
  induction messages generalizing earlier with
  | nil => rw [List.append_nil]; rfl
  | cons m messages ih =>
    rw [recordAll_cons_after, ih]
    simp [List.mapIdx_cons]

/-- What a list of messages lets out continues what was let out before. -/
theorem told_append_flatten (earlier : List α) :
    told threshold earlier ++ ((after threshold earlier).recordAll messages).1.flatten =
      told threshold (earlier ++ messages) := by
  induction messages generalizing earlier with
  | nil => simp [recordAll]
  | cons m messages ih =>
    have hdue := (record_after threshold earlier m).1
    rw [record_after_fst] at hdue
    rw [recordAll_cons_after, List.flatten_cons, ← List.append_assoc, hdue, ih,
      List.append_assoc, List.singleton_append]

/-- **Every message is let out once, in its order.** The message at place `i` (counted from zero)
lets out nothing below the threshold, all messages so far at the threshold, and itself alone above
it. At the end the messages are still held if the threshold was not passed, and else none; and what
was let out together with those held at the end are all messages. -/
theorem kept_once_in_order :
    ((start threshold).recordAll messages).1 = (messages.mapIdx fun i m =>
      if i < threshold then [] else if i = threshold then messages.take (threshold + 1) else [m]) ∧
    ((start threshold).recordAll messages).2.finish =
      (if messages.length ≤ threshold then messages else []) ∧
    ((start threshold).recordAll messages).1.flatten ++
      ((start threshold).recordAll messages).2.finish = messages := by
  have hall := recordAll_after threshold messages []
  have hflatten := told_append_flatten threshold messages []
  rw [← start_eq_after] at hall hflatten
  rw [told_nil, List.nil_append, List.nil_append] at hflatten
  rw [List.nil_append] at hall
  refine ⟨?each, ?rest, ?all⟩
  case each =>
    rw [hall, List.mapIdx_eq_mapIdx_iff]
    intro i hi
    have hlength : (messages.take i).length = i := List.length_take_of_le (Nat.le_of_lt hi)
    rw [List.nil_append, due, hlength]
    by_cases hat : i = threshold
    · rw [← hat, List.take_append_getElem hi]
    · rw [if_neg hat, if_neg hat]
  case rest =>
    rw [hall]
    rfl
  case all =>
    rw [hflatten, hall]
    exact told_append_finish threshold messages

end SerialHid.Burst
