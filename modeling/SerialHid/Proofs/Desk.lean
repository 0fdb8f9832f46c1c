/-
SerialHid.Proofs.Desk — what each operation on the desk changes, and what it leaves alone.

* `Desk.record_fields`, `write_fields`, `notes_fields`, `discard_fields` — the operations of the
  worker, field by field.
* `Desk.stop_acts`, `state_acts`, `resetWanted_acts`, `queue_acts` — what others can do to each of
  them; nobody takes back that the worker is to end.
* `Desk.Adds` — the journal grew by entries of one kind; `Desk.adds_acts` for those of others.
* `Entry.shows`, `Entry.isOfQueue` — what an entry tells of the state and of the queue.
* `Desk.exchanges` — the requests that went out, the earliest first.
-/
import SerialHid.Desk

namespace SerialHid

/-- An entry about what others did. -/
def Entry.isOfOthers : Entry → Bool
  | .resetAsked => true
  | .queued _ => true
  | .cleared _ => true
  | _ => false

/-- The state that an entry shows: looks for the device, attempts to open it, pulses, requests
that go out, the end of a connection, and the end of a request. -/
def Entry.shown? : Entry → Option DeviceState
  | .sent _ _ s => some s
  | .looked _ s => some s
  | .opened _ s => some s
  | .pulsed s => some s
  | .closed s => some s
  | .returned _ _ s => some s
  | _ => none

/-- The entry shows no state but `s`. -/
def Entry.shows (s : DeviceState) (e : Entry) : Bool := e.shown?.all (· = s)

/-- An entry about an event that comes to the queue or leaves it. -/
def Entry.isOfQueue : Entry → Bool
  | .queued _ => true
  | .cleared _ => true
  | .discarded _ => true
  | .began (.event _) => true
  | _ => false

/-- The event that an act queues. -/
def Act.queued? : Act → Option Event
  | .queue e => some e
  | _ => none

/-- The request that went out. -/
def Entry.request? : Entry → Option (List UInt8)
  | .sent request _ _ => some request
  | _ => none

namespace Desk

/-! ## Operations of the worker -/

@[simp] theorem record_fields (d : Desk) (e : Entry) :
    (d.record e).state = d.state ∧ (d.record e).stop = d.stop ∧
      (d.record e).resetWanted = d.resetWanted ∧ (d.record e).queue = d.queue ∧
      (d.record e).accepting = d.accepting ∧ (d.record e).journal = e :: d.journal :=
  ⟨rfl, rfl, rfl, rfl, rfl, rfl⟩

@[simp] theorem note_eq (d : Desk) (n : Notice) : d.note n = d.record (.notice n) := rfl

@[simp] theorem write_fields (d : Desk) (change : DeviceState → DeviceState) :
    (d.write change).state = change d.state ∧ (d.write change).stop = d.stop ∧
      (d.write change).resetWanted = d.resetWanted ∧ (d.write change).queue = d.queue ∧
      (d.write change).accepting = d.accepting ∧ (d.write change).journal = d.journal :=
  ⟨rfl, rfl, rfl, rfl, rfl, rfl⟩

theorem notes_eq (d : Desk) (ns : List Notice) :
    d.notes ns = { d with journal := (ns.map .notice).reverse ++ d.journal } := by
  induction ns generalizing d with
  | nil => rfl
  | cons n ns ih =>
    have hcons : d.notes (n :: ns) = (d.note n).notes ns := rfl
    rw [hcons, ih]
    simp

@[simp] theorem notes_fields (d : Desk) (ns : List Notice) :
    (d.notes ns).state = d.state ∧ (d.notes ns).stop = d.stop ∧
      (d.notes ns).resetWanted = d.resetWanted ∧ (d.notes ns).queue = d.queue ∧
      (d.notes ns).accepting = d.accepting ∧
      (d.notes ns).journal = (ns.map .notice).reverse ++ d.journal := by
  rw [notes_eq]
  exact ⟨rfl, rfl, rfl, rfl, rfl, rfl⟩

/-- The line that tells how many events were thrown away, if there were any. -/
def discardNotices (d : Desk) : List Entry :=
  if d.queue.isEmpty then [] else [.notice (.dropped d.queue.length)]

@[simp] theorem discard_fields (d : Desk) :
    d.discard.state = d.state ∧ d.discard.stop = d.stop ∧
      d.discard.resetWanted = d.resetWanted ∧ d.discard.queue = [] ∧
      d.discard.accepting = d.accepting ∧
      d.discard.journal = d.discardNotices ++ .discarded d.queue :: d.journal := by
  cases hq : d.queue <;>
    simp only [discard, discardNotices, hq, List.isEmpty_nil, List.isEmpty_cons, if_true,
      Bool.false_eq_true, if_false] <;>
    exact ⟨rfl, rfl, rfl, rfl, rfl, rfl⟩

/-! ## Entries of one kind -/

/-- The journal grew, and only by entries of one kind. -/
def Adds (kind : Entry → Bool) (d d' : Desk) : Prop :=
  ∃ added, d'.journal = added ++ d.journal ∧ ∀ e ∈ added, kind e = true

variable {kind : Entry → Bool} {d d' d'' : Desk}

theorem Adds.of_eq (h : d'.journal = d.journal) : d.Adds kind d' := ⟨[], h, by simp⟩

/-- Whatever was added is of that kind. -/
theorem Adds.of_mem (h : d.Adds kind d') {added : List Entry}
    (hadded : d'.journal = added ++ d.journal) {e : Entry} (he : e ∈ added) : kind e = true := by
  obtain ⟨added', hadded', hkind⟩ := h
  obtain rfl : added = added' := List.append_cancel_right (hadded.symm.trans hadded')
  exact hkind e he

theorem Adds.trans (h : d.Adds kind d') (h' : d'.Adds kind d'') : d.Adds kind d'' := by
  obtain ⟨added, hadded, hkind⟩ := h
  obtain ⟨added', hadded', hkind'⟩ := h'
  refine ⟨added' ++ added, by rw [hadded', hadded, List.append_assoc], ?_⟩
  intro e he
  exact (List.mem_append.mp he).elim (hkind' e) (hkind e)

theorem Adds.mono {kind' : Entry → Bool} (h : d.Adds kind d')
    (hkind : ∀ e, kind e = true → kind' e = true) : d.Adds kind' d' := by
  obtain ⟨added, hadded, hall⟩ := h
  exact ⟨added, hadded, fun e he => hkind e (hall e he)⟩

theorem Adds.record (h : d.Adds kind d') (e : Entry) (he : kind e = true) :
    d.Adds kind (d'.record e) :=
  h.trans ⟨[e], rfl, by simpa using he⟩

theorem Adds.write (h : d.Adds kind d') (change : DeviceState → DeviceState) :
    d.Adds kind (d'.write change) :=
  h.trans (.of_eq rfl)

theorem Adds.notes_of_mem (h : d.Adds kind d') {ns : List Notice}
    (hnotice : ∀ n ∈ ns, kind (.notice n) = true) : d.Adds kind (d'.notes ns) := by
  refine h.trans ⟨_, (d'.notes_fields ns).2.2.2.2.2, ?_⟩
  intro e he
  simp only [List.mem_reverse, List.mem_map] at he
  obtain ⟨n, hn, rfl⟩ := he
  exact hnotice n hn

theorem Adds.notes (h : d.Adds kind d') (hnotice : ∀ n, kind (.notice n) = true)
    (ns : List Notice) : d.Adds kind (d'.notes ns) :=
  h.notes_of_mem fun n _ => hnotice n

theorem Adds.discard (h : d.Adds kind d') (hnotice : ∀ n, kind (.notice n) = true)
    (hdiscarded : ∀ es, kind (.discarded es) = true) : d.Adds kind d'.discard := by
  refine h.trans ⟨d'.discardNotices ++ [.discarded d'.queue], by simp, ?_⟩
  intro e he
  unfold discardNotices at he
  split at he
  · simp_all
  · simp only [List.cons_append, List.nil_append, List.mem_cons, List.not_mem_nil, or_false] at he
    rcases he with rfl | rfl
    · exact hnotice _
    · exact hdiscarded _

/-- What is read off entries of other kinds stays the same. -/
theorem Adds.filterMap_eq {α : Type} {read : Entry → Option α} (h : d.Adds kind d')
    (hread : ∀ e, kind e = true → read e = none) :
    d'.journal.reverse.filterMap read = d.journal.reverse.filterMap read := by
  obtain ⟨added, hadded, hkind⟩ := h
  have hnone : added.reverse.filterMap read = [] := by
    rw [List.filterMap_eq_nil_iff]
    intro e he
    exact hread e (hkind e (List.mem_reverse.mp he))
  simp [hadded, hnone]

/-! ## Acts of others -/

@[simp] theorem acts_nil (d : Desk) : d.acts [] = d := rfl

@[simp] theorem acts_cons (d : Desk) (a : Act) (as : List Act) :
    d.acts (a :: as) = (d.act a).acts as := rfl

theorem stop_act (d : Desk) (a : Act) :
    (d.act a).stop = true ↔ d.stop = true ∨ a = .stop := by
  cases a <;> simp [act, apply_ite Desk.stop]

theorem stop_acts (d : Desk) (as : List Act) :
    (d.acts as).stop = true ↔ d.stop = true ∨ .stop ∈ as := by
  induction as generalizing d with
  | nil => simp
  | cons a as ih => rw [acts_cons, ih, stop_act, List.mem_cons, or_assoc, eq_comm (a := a)]

/-- The state changes only if another one is published. -/
theorem state_act (d : Desk) {a : Act} (h : ∀ s, a ≠ .publish s) : (d.act a).state = d.state := by
  cases a with
  | publish s => exact absurd rfl (h s)
  | _ => simp [act, apply_ite Desk.state]

theorem state_acts (d : Desk) {as : List Act} (h : ∀ s, .publish s ∉ as) :
    (d.acts as).state = d.state := by
  induction as generalizing d with
  | nil => rfl
  | cons a as ih =>
    have hrest : ∀ s, .publish s ∉ as := fun s hs => h s (List.mem_cons_of_mem a hs)
    rw [acts_cons, ih _ hrest]
    exact d.state_act fun s hs => h s (hs ▸ List.mem_cons_self)

theorem resetWanted_act (d : Desk) (a : Act) :
    (d.act a).resetWanted = true ↔ d.resetWanted = true ∨ a = .askReset := by
  cases a <;> cases hwanted : d.resetWanted <;>
    simp [act, apply_ite Desk.resetWanted, hwanted]

theorem resetWanted_acts (d : Desk) (as : List Act) :
    (d.acts as).resetWanted = true ↔ d.resetWanted = true ∨ .askReset ∈ as := by
  induction as generalizing d with
  | nil => simp
  | cons a as ih => rw [acts_cons, ih, resetWanted_act, List.mem_cons, or_assoc, eq_comm (a := a)]

theorem queue_act (d : Desk) (a : Act) : (d.act a).queue.Sublist (d.queue ++ a.queued?.toList) := by
  cases a with
  | queue e => cases haccepting : d.accepting <;> simp [act, Act.queued?, haccepting]
  | clear => exact List.nil_sublist _
  | _ => simp [act, Act.queued?, apply_ite Desk.queue]

/-- What waits after several acts waited before, or was queued by one of them. -/
theorem queue_acts (d : Desk) (as : List Act) :
    (d.acts as).queue.Sublist (d.queue ++ as.filterMap Act.queued?) := by
  induction as generalizing d with
  | nil => simp
  | cons a as ih =>
    have hsplit : (a :: as).filterMap Act.queued? =
        a.queued?.toList ++ as.filterMap Act.queued? := by
      cases hqueued : a.queued? <;> simp [hqueued]
    rw [acts_cons, hsplit, ← List.append_assoc]
    exact (ih (d.act a)).trans ((d.queue_act a).append_right _)

/-- An act adds to the journal at most what it did. -/
theorem adds_act (d : Desk) (a : Act) : d.Adds Entry.isOfOthers (d.act a) := by
  cases a with
  | stop => exact .of_eq rfl
  | askReset =>
    unfold act
    cases h : d.resetWanted with
    | true => exact .of_eq rfl
    | false => exact ⟨[.resetAsked], rfl, by simp [Entry.isOfOthers]⟩
  | queue e =>
    unfold act
    cases h : d.accepting with
    | true => exact ⟨[.queued e], rfl, by simp [Entry.isOfOthers]⟩
    | false => exact .of_eq rfl
  | closeQueue => exact .of_eq rfl
  | publish s => exact .of_eq rfl
  | clear => exact ⟨[.cleared d.queue], rfl, by simp [Entry.isOfOthers]⟩

theorem adds_acts (d : Desk) (as : List Act) : d.Adds Entry.isOfOthers (d.acts as) := by
  induction as generalizing d with
  | nil => exact .of_eq rfl
  | cons a as ih => exact (d.adds_act a).trans (ih (d.act a))

/-! ## What went out -/

/-- The requests that went out, the earliest first. -/
def exchanges (d : Desk) : List (List UInt8) := d.journal.reverse.filterMap Entry.request?

@[simp] theorem exchanges_record (d : Desk) (e : Entry) :
    (d.record e).exchanges = d.exchanges ++ e.request?.toList := by
  cases h : e.request? <;> simp [exchanges, h]

@[simp] theorem exchanges_write (d : Desk) (change : DeviceState → DeviceState) :
    (d.write change).exchanges = d.exchanges := rfl

@[simp] theorem exchanges_notes (d : Desk) (ns : List Notice) :
    (d.notes ns).exchanges = d.exchanges := by
  simp [exchanges, Function.comp_def, Entry.request?]

@[simp] theorem exchanges_acts (d : Desk) (as : List Act) :
    (d.acts as).exchanges = d.exchanges := by
  refine (d.adds_acts as).filterMap_eq fun e he => ?_
  cases e <;> simp_all [Entry.isOfOthers, Entry.request?]

end Desk

end SerialHid
