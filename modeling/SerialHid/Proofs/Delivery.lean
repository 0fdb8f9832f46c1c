/-
SerialHid.Proofs.Delivery — every event that is queued is accounted for.

* `arrivals`, `departures`, `handedOver` — read off the journal: the events that joined the queue,
  those that left it, each with its `Fate`, and those that were handed over.
* `DulyDiscarded` — when events may be thrown away, and which ones. After a fault others may act
  before the worker tells it, so `AtFault` looks past what they did.
* `Worker.Accounted` — the books of a run; `Accounted.step` keeps them over every step.
* `Worker.events_accounted` — what left and what still waits is, in order, what was queued.
* `Worker.Conveyed` — what remains of that where others throw events away too, by
  `Worker.conveyed_of_run`.
-/
import SerialHid.Proofs.Worker

namespace SerialHid

/-! ## The books -/

/-- What becomes of an event that leaves the queue. -/
inductive Fate where
  /-- The worker turned to its request. -/
  | handed
  /-- It was thrown away. -/
  | discarded
  deriving DecidableEq, Repr

/-- The event that joined the queue. -/
def Entry.arrival? : Entry → Option Event
  | .queued e => some e
  | _ => none

/-- The events that left the queue, with what became of them. -/
def Entry.departures : Entry → List (Event × Fate)
  | .began (.event e) => [(e, .handed)]
  | .discarded es => es.map (·, .discarded)
  | _ => []

/-- The event that was handed over. -/
def Entry.handed? : Entry → Option Event
  | .began (.event e) => some e
  | _ => none

section Books

variable (journal : List Entry)

/-- The events that joined the queue, the earliest first. -/
def arrivals : List Event := journal.reverse.filterMap Entry.arrival?

/-- The events that left the queue, the earliest first. -/
def departures : List (Event × Fate) := journal.reverse.flatMap Entry.departures

/-- The events that were handed over, the earliest first. -/
def handedOver : List Event := journal.reverse.filterMap Entry.handed?

/-- The latest thing that the worker did is that the request of an event failed. -/
def AfterFailure : Prop :=
  ∃ between e s before, journal = between ++ .returned (.event e) false s :: before ∧
    ∀ x ∈ between, x.isOfOthers = true

end Books

/-- Since events were thrown away the worker told how many there were, and nothing else; the rest
is what others did. -/
def Counted (since : List Entry) (es : List Event) : Prop :=
  since.filter (!·.isOfOthers) = if es.isEmpty then [] else [.notice (.dropped es.length)]

/-- Events were thrown away at a fault. The worker is about to tell it, or it is what the worker
told next. -/
inductive AtFault : Point → List Entry → List Event → Prop where
  | untold (f : Fault) (later : List Entry) (es : List Event) (hcounted : Counted later es) :
      AtFault (.telling f) later es
  | told (p : Point) (newer : List Entry) (f : Fault) (between : List Entry) (es : List Event)
      (hcounted : Counted between es) : AtFault p (newer ++ .notice (.fault f) :: between) es

/-- What was thrown away at one place of the journal of a worker that now stands at `p` was all that
waited, and there was a reason: the request of an event had just failed, or there was a fault. -/
structure DulyDiscarded (p : Point) (waiting : List Event) (later : List Entry) (es : List Event)
    (earlier : List Entry) : Prop where
  all : (departures earlier).map Prod.fst ++ es = waiting ++ arrivals earlier
  cause : AfterFailure earlier ∨ AtFault p later es

/-- What is promised of the events in a run that began with some of them waiting. -/
structure Delivers (waiting : List Event) (journal : List Entry) (c : Config) : Prop where
  /-- What left the queue and what still waits is, one after the other, what there was at first
  and what came. -/
  accounts : (departures journal).map Prod.fst ++ c.desk.queue = waiting ++ arrivals journal
  /-- Events are handed over in the order in which they came, and none of them twice. -/
  ordered : (handedOver journal).Sublist (waiting ++ arrivals journal)
  discards : ∀ later es earlier, journal = later ++ .discarded es :: earlier →
    DulyDiscarded c.point waiting later es earlier
  /-- Without a failed event, and without a fault that was told or is about to be, nothing is thrown
  away. -/
  intact : (∀ e s, .returned (.event e) false s ∉ journal) → (∀ f, .notice (.fault f) ∉ journal) →
    (∀ f, c.point ≠ .telling f) → (∀ es, .discarded es ∉ journal) ∧
      handedOver journal ++ c.desk.queue = waiting ++ arrivals journal

/-! ## Journals in parts -/

section Parts

variable {journal added : List Entry}

theorem arrivals_append (added journal : List Entry) :
    arrivals (added ++ journal) = arrivals journal ++ arrivals added := by
  simp [arrivals]

theorem departures_append (added journal : List Entry) :
    departures (added ++ journal) = departures journal ++ departures added := by
  simp [departures]

theorem handedOver_append (added journal : List Entry) :
    handedOver (added ++ journal) = handedOver journal ++ handedOver added := by
  simp [handedOver]

theorem arrivals_of_routine (h : ∀ e ∈ added, e.isOfQueue = false) : arrivals added = [] := by
  rw [arrivals, List.filterMap_eq_nil_iff]
  intro e he
  have hquiet := h e (List.mem_reverse.mp he)
  cases e <;> first | rfl | cases hquiet

theorem departures_of_routine (h : ∀ e ∈ added, e.isOfQueue = false) : departures added = [] := by
  rw [departures, List.flatMap_eq_nil_iff]
  intro e he
  have hquiet := h e (List.mem_reverse.mp he)
  cases e with
  | began p => cases p <;> first | rfl | cases hquiet
  | _ => first | rfl | cases hquiet

theorem Entry.handed?_toList (x : Entry) :
    x.handed?.toList = (x.departures.filter (·.2 = .handed)).map Prod.fst := by
  have hthrown (es : List Event) :
      (es.map (·, Fate.discarded)).filter (·.2 = .handed) = [] := by simp
  cases x with
  | began p => cases p <;> rfl
  | discarded es => rw [departures, hthrown]; rfl
  | _ => rfl

/-- The events that were handed over are those whose fate it was. -/
theorem handedOver_eq (journal : List Entry) :
    handedOver journal = ((departures journal).filter (·.2 = .handed)).map Prod.fst := by
  unfold handedOver departures
  induction journal.reverse with
  | nil => rfl
  | cons x xs ih =>
    rw [List.flatMap_cons, List.filter_append, List.map_append, ← ih, ← x.handed?_toList]
    cases hx : x.handed? <;> simp [hx]

theorem handedOver_sublist (journal : List Entry) :
    (handedOver journal).Sublist ((departures journal).map Prod.fst) := by
  rw [handedOver_eq]
  exact List.filter_sublist.map Prod.fst

/-- Where nothing was thrown away, every event that left was handed over. -/
theorem handedOver_of_no_discard {journal : List Entry} (h : ∀ es, .discarded es ∉ journal) :
    handedOver journal = (departures journal).map Prod.fst := by
  rw [handedOver_eq, List.filter_eq_self.mpr]
  intro d hd
  obtain ⟨x, hx, hd⟩ := List.mem_flatMap.mp hd
  cases x with
  | began p => cases p <;> simp_all [Entry.departures]
  | discarded es => exact absurd (List.mem_reverse.mp hx) (h es)
  | _ => cases hd

theorem split_of_append {later earlier : List Entry} {x : Entry}
    (h : added ++ journal = later ++ x :: earlier) :
    (∃ before, later = added ++ before ∧ journal = before ++ x :: earlier) ∨
      ∃ rest, added = later ++ x :: rest ∧ earlier = rest ++ journal := by
  rcases List.append_eq_append_iff.mp h with ⟨before, rfl, hjournal⟩ | ⟨between, rfl, hjournal⟩
  · exact .inl ⟨before, rfl, hjournal⟩
  · rcases List.append_eq_cons_iff.mp hjournal.symm with ⟨rfl, rfl⟩ | ⟨rest, rfl, rfl⟩
    · exact .inl ⟨[], by simp, rfl⟩
    · exact .inr ⟨rest, rfl, rfl⟩

theorem eq_of_last_discarded {told later earlier : List Entry} {queue es : List Event}
    (htold : ∀ e ∈ told, e.isOfQueue = false)
    (h : told ++ [.discarded queue] = later ++ .discarded es :: earlier) :
    told = later ∧ queue = es ∧ earlier = [] := by
  rcases split_of_append h with ⟨before, rfl, hlast⟩ | ⟨rest, rfl, -⟩
  · cases before with
    | nil =>
      cases hlast
      simp
    | cons x before => simp at hlast
  · exact Bool.noConfusion (htold (.discarded es) (by simp))

theorem AfterFailure.append (h : AfterFailure journal) (hadded : ∀ x ∈ added, x.isOfOthers = true) :
    AfterFailure (added ++ journal) := by
  obtain ⟨between, e, s, before, rfl, hbetween⟩ := h
  refine ⟨added ++ between, e, s, before, by simp, ?_⟩
  intro x hx
  exact (List.mem_append.mp hx).elim (hadded x) (hbetween x)

theorem Counted.append {later : List Entry} {es : List Event} (h : Counted later es)
    (hadded : ∀ x ∈ added, x.isOfOthers = true) : Counted (added ++ later) es := by
  have hnone : added.filter (!·.isOfOthers) = [] := by simpa using hadded
  rw [Counted, List.filter_append, hnone, List.nil_append, h]

theorem counted_discardNotices (d : Desk) : Counted d.discardNotices d.queue := by
  unfold Counted Desk.discardNotices
  split <;> rfl

end Parts

/-! ## One step -/

namespace Worker

variable {setup : Setup} {d d' : Desk} {p : Point} {m : Move} {c c' : Config}

/-- What a step does to the books: what it adds to the journal accounts for the change of the
queue, and if events are thrown away, it is all that waited, for a reason. -/
structure Booked (d : Desk) (p : Point) (added : List Entry) (d' : Desk) : Prop where
  journal : d'.journal = added ++ d.journal
  queue : (departures added).map Prod.fst ++ d'.queue = d.queue ++ arrivals added
  discard : ∀ later es earlier, added = later ++ .discarded es :: earlier →
    earlier = [] ∧ es = d.queue ∧ Counted later es ∧
      (p = .session .flushing ∨ ∃ f, p = .faulted f)

theorem Booked.of_no_discard {added : List Entry} (hjournal : d'.journal = added ++ d.journal)
    (hqueue : (departures added).map Prod.fst ++ d'.queue = d.queue ++ arrivals added)
    (hnone : ∀ es, .discarded es ∉ added) : Booked d p added d' where
  journal := hjournal
  queue := hqueue
  discard := by
    rintro later es earlier rfl
    exact absurd (by simp) (hnone es)

theorem Booked.of_routine {added : List Entry} (hjournal : d'.journal = added ++ d.journal)
    (hqueue : d'.queue = d.queue) (hroutine : ∀ e ∈ added, e.isOfQueue = false) :
    Booked d p added d' := by
  refine .of_no_discard hjournal ?_ fun es hes => Bool.noConfusion (hroutine _ hes)
  rw [departures_of_routine hroutine, arrivals_of_routine hroutine, hqueue]
  simp

theorem isOfQueue_of_mem_discardNotices {e : Entry} (h : e ∈ d.discardNotices) :
    e.isOfQueue = false := by
  unfold Desk.discardNotices at h
  split at h
  · cases h
  · rw [List.mem_singleton.mp h]
    rfl

/-- Events are thrown away, for one of the two reasons. -/
theorem Booked.of_discard (hcause : p = .session .flushing ∨ ∃ f, p = .faulted f) :
    Booked d p (d.discardNotices ++ [.discarded d.queue]) d.discard where
  journal := by simp
  queue := by
    have hleft : departures [.discarded d.queue] = d.queue.map (·, .discarded) := by
      simp [departures, Entry.departures]
    rw [departures_append, arrivals_append,
      departures_of_routine fun _ => isOfQueue_of_mem_discardNotices,
      arrivals_of_routine fun _ => isOfQueue_of_mem_discardNotices, hleft]
    simp [arrivals, Entry.arrival?, Function.comp_def]
  discard := by
    intro later es earlier hsplit
    obtain ⟨rfl, rfl, rfl⟩ :=
      eq_of_last_discarded (fun _ => isOfQueue_of_mem_discardNotices) hsplit
    exact ⟨rfl, rfl, counted_discardNotices d, hcause⟩

theorem booked_act {a : Act} (hkept : a ≠ .clear) : ∃ added, Booked d p added (d.act a) := by
  cases a with
  | clear => exact absurd rfl hkept
  | queue e =>
    simp only [Desk.act]
    split
    · refine ⟨[.queued e], .of_no_discard rfl ?_ (by simp)⟩
      simp [departures, Entry.departures, arrivals, Entry.arrival?]
    · exact ⟨[], .of_routine rfl rfl (by simp)⟩
  | askReset =>
    simp only [Desk.act]
    split
    · exact ⟨[], .of_routine rfl rfl (by simp)⟩
    · exact ⟨[.resetAsked], .of_routine rfl rfl (by simp [Entry.isOfQueue])⟩
  | stop | closeQueue | publish => exact ⟨[], .of_routine rfl rfl (by simp)⟩

theorem Traffic.booked (hkept : m ≠ .outside .clear) (h : Traffic d p m d') :
    ∃ added, Booked d p added d' := by
  cases h with
  | others p a => exact booked_act fun ha => hkept (congrArg _ ha)
  | routine p m d' hqueue hadds =>
    obtain ⟨added, hadded, hroutine⟩ := hadds
    refine ⟨added, .of_routine hadded hqueue ?_⟩
    intro e he
    simpa using ((Bool.and_eq_true ..).mp (hroutine e he)).2
  | handed e es hqueue =>
    refine ⟨[.began (.event e)], .of_no_discard rfl ?_ (by simp)⟩
    simp [hqueue, departures, Entry.departures, arrivals, Entry.arrival?]
  | flushed => exact ⟨_, .of_discard (.inl rfl)⟩
  | emptied f => exact ⟨_, .of_discard (.inr ⟨f, rfl⟩)⟩

/-- The worker comes to throw events away only by the failure of an event. -/
theorem Transition.flushing (h : Transition setup d p m c')
    (hpoint : c'.point = .session .flushing) :
    (p = .session .flushing ∧ d.Adds Entry.isOfOthers c'.desk) ∨
      ∃ e s added, c'.desk.journal = .returned (.event e) false s :: (added ++ d.journal) := by
  have hfollow : ∀ {q j i pd}, Job.Turn setup.settings j d i pd →
      (follow q pd).point = .session .flushing →
      ∃ e s added,
        (follow q pd).desk.journal = .returned (.event e) false s :: (added ++ d.journal) := by
    intro q j i pd hturn hpoint
    obtain ⟨added, hadded, -⟩ := hturn.adds
    rcases pd with ⟨j' | ok, d'⟩
    · cases hpoint
    · cases q <;> cases ok <;> cases hpoint
      exact ⟨_, d'.state, added, congrArg _ hadded⟩
  cases h with
  | others _ a => exact .inl ⟨hpoint, d.adds_act a⟩
  | requestWent q j pd hturn | requestAnswered q j a pd hturn => exact .inr (hfollow hturn hpoint)
  | waited | headed => simp only at hpoint; split at hpoint <;> cases hpoint
  | _ => cases hpoint

/-- After a fault events are thrown away only by the step that comes to tell it. -/
theorem Transition.point_of_discarded {f : Fault} {added : List Entry} {es : List Event}
    (h : Transition setup d (.faulted f) m c') (hadded : c'.desk.journal = added ++ d.journal)
    (hes : .discarded es ∈ added) : c'.point = .telling f := by
  cases h with
  | others p a => exact Bool.noConfusion ((d.adds_act a).of_mem hadded hes)
  | emptied => rfl

/-- Events that were thrown away at a fault remain so: until it is told, only others act. -/
theorem Transition.atFault {later added : List Entry} {es : List Event}
    (hstep : Transition setup d p m c') (hadded : c'.desk.journal = added ++ d.journal)
    (h : AtFault p later es) : AtFault c'.point (added ++ later) es := by
  cases h with
  | told p newer f between es hcounted =>
    rw [← List.append_assoc]
    exact .told c'.point (added ++ newer) f between es hcounted
  | untold f later es hcounted =>
    cases hstep with
    | others p a =>
      exact .untold f _ es (hcounted.append fun x hx => (d.adds_act a).of_mem hadded hx)
    | faultTold =>
      obtain rfl : [.notice (.fault f)] = added := List.append_cancel_right hadded
      exact .told .pausing [] f later es hcounted

/-! ## Runs -/

/-- The books of a run that began with these events waiting. -/
structure Accounted (waiting : List Event) (journal : List Entry) (c : Config) : Prop where
  queue : (departures journal).map Prod.fst ++ c.desk.queue = waiting ++ arrivals journal
  discards : ∀ later es earlier, journal = later ++ .discarded es :: earlier →
    DulyDiscarded c.point waiting later es earlier
  flushing : c.point = .session .flushing → AfterFailure journal

theorem Accounted.start (d : Desk) : Accounted d.queue [] (initial d) where
  queue := by simp [departures, arrivals, initial]
  discards := by simp
  flushing := fun h => nomatch h

theorem Accounted.step {waiting : List Event} {journal : List Entry}
    (hkept : m ≠ .outside .clear) (h : Accounted waiting journal c)
    (hstep : Transition setup c.desk c.point m c') :
    ∃ added, c'.desk.journal = added ++ c.desk.journal ∧
      Accounted waiting (added ++ journal) c' := by
  obtain ⟨added, hbooked⟩ := hstep.traffic.booked hkept
  refine ⟨added, hbooked.journal, ?_, ?_, ?_⟩
  · rw [departures_append, arrivals_append, List.map_append, List.append_assoc, hbooked.queue,
      ← List.append_assoc, h.queue, List.append_assoc]
  · intro later es earlier hsplit
    -- The entry is an old one, with more entries after it now, or this step made it.
    rcases split_of_append hsplit with ⟨before, rfl, hbefore⟩ | ⟨rest, hadded, rfl⟩
    · obtain ⟨hall, hcause⟩ := h.discards before es earlier hbefore
      exact ⟨hall, hcause.imp_right (hstep.atFault hbooked.journal)⟩
    · obtain ⟨rfl, rfl, hcounted, hcause⟩ := hbooked.discard later es rest hadded
      refine ⟨h.queue, ?_⟩
      rcases hcause with hflushing | ⟨f, hfault⟩
      · exact .inl (h.flushing hflushing)
      · rw [hfault] at hstep
        have hmem : .discarded c.desk.queue ∈ added := by simp [hadded]
        rw [hstep.point_of_discarded hbooked.journal hmem]
        exact .inr (.untold f later _ hcounted)
  · intro hpoint
    rcases hstep.flushing hpoint with ⟨hbefore, added', hadded, hothers⟩ | ⟨e, s, added', hadded⟩
    · obtain rfl : added = added' :=
        List.append_cancel_right (hbooked.journal.symm.trans hadded)
      exact (h.flushing hbefore).append hothers
    · obtain rfl : added = .returned (.event e) false s :: added' :=
        List.append_cancel_right (hbooked.journal.symm.trans hadded)
      exact ⟨[], e, s, added' ++ journal, rfl, by simp⟩

theorem accounted_of_run {ms : List Move} (hkept : .outside .clear ∉ ms)
    (hrun : run setup (initial d) ms = some c) :
    ∃ journal, c.desk.journal = journal ++ d.journal ∧ Accounted d.queue journal c := by
  refine run_induction (P := fun _ c => ∃ journal, c.desk.journal = journal ++ d.journal ∧
    Accounted d.queue journal c) ⟨[], rfl, .start d⟩ ?_ hrun
  rintro - m c c' hm ⟨journal, hjournal, h⟩ hstep
  obtain ⟨added, hadded, h'⟩ := h.step (fun hclear => hkept (hclear ▸ hm)) hstep
  exact ⟨added ++ journal, by rw [hadded, hjournal, List.append_assoc], h'⟩

/-! ## Runs in which others throw events away -/

/-- What was handed over, and then what waits, came in this order; some of what came may have been
thrown away. -/
def Conveyed (waiting : List Event) (journal : List Entry) (pending : List Event) : Prop :=
  (handedOver journal ++ pending).Sublist (waiting ++ arrivals journal)

theorem Conveyed.trans {waiting between pending : List Event} {journal added : List Entry}
    (h : Conveyed waiting journal between) (h' : Conveyed between added pending) :
    Conveyed waiting (added ++ journal) pending := by
  have hlate : (handedOver journal ++ (handedOver added ++ pending)).Sublist
      (handedOver journal ++ (between ++ arrivals added)) := List.Sublist.append_left h' _
  have hearly : ((handedOver journal ++ between) ++ arrivals added).Sublist
      ((waiting ++ arrivals journal) ++ arrivals added) := List.Sublist.append_right h _
  rw [Conveyed, handedOver_append, arrivals_append, List.append_assoc, ← List.append_assoc waiting]
  exact hlate.trans (by rwa [← List.append_assoc])

theorem Booked.conveyed {added : List Entry} (h : Booked d p added d') :
    Conveyed d.queue added d'.queue := by
  rw [Conveyed, ← h.queue]
  exact (handedOver_sublist added).append_right d'.queue

theorem Transition.conveyed (h : Transition setup d p m c') :
    ∃ added, c'.desk.journal = added ++ d.journal ∧ Conveyed d.queue added c'.desk.queue := by
  by_cases hclear : m = .outside .clear
  · subst hclear
    cases h
    exact ⟨[.cleared d.queue], rfl, List.nil_sublist _⟩
  · obtain ⟨added, hbooked⟩ := h.traffic.booked hclear
    exact ⟨added, hbooked.journal, hbooked.conveyed⟩

theorem conveyed_of_run {ms : List Move} (hrun : run setup c ms = some c') :
    ∃ journal, c'.desk.journal = journal ++ c.desk.journal ∧
      Conveyed c.desk.queue journal c'.desk.queue := by
  refine run_induction (P := fun _ c' => ∃ journal, c'.desk.journal = journal ++ c.desk.journal ∧
    Conveyed c.desk.queue journal c'.desk.queue) ⟨[], rfl, ?_⟩ ?_ hrun
  · simp [Conveyed, handedOver]
  · rintro - m c₁ c₂ - ⟨journal, hjournal, h⟩ hstep
    obtain ⟨added, hadded, h'⟩ := hstep.conveyed
    exact ⟨added ++ journal, by rw [hadded, hjournal, List.append_assoc], h.trans h'⟩

end Worker

/-- **Every event is accounted for, in order.** In every run of the worker in which nobody else
throws events away, each event that came is handed over, thrown away or still waiting, once and in
the order of the queue, also across faults and new connections; and events are thrown away only
right after the request of an event failed, or at a fault, and then all that wait at that moment
are. Others may queue more between that and the moment at which the fault is told; those stay. -/
theorem Worker.events_accounted (setup : Setup) (d : Desk) (ms : List Move)
    (hkept : .outside .clear ∉ ms) (c : Config) (hrun : run setup (initial d) ms = some c) :
    ∃ journal, c.desk.journal = journal ++ d.journal ∧
      Delivers d.queue journal c := by
  obtain ⟨journal, hjournal, h⟩ := accounted_of_run hkept hrun
  refine ⟨journal, hjournal, h.queue, ?_, h.discards, ?_⟩
  · rw [← h.queue]
    exact (handedOver_sublist journal).trans (List.sublist_append_left ..)
  · intro hfailure hfault huntold
    have hnone : ∀ es, .discarded es ∉ journal := by
      intro es hes
      obtain ⟨later, earlier, hsplit⟩ := List.append_of_mem hes
      rcases (h.discards later es earlier hsplit).cause with
        ⟨between, e, s, before, rfl, -⟩ | hcause
      · exact hfailure e s (by simp [hsplit])
      · generalize hpoint : c.point = p at hcause
        cases hcause with
        | untold f => exact huntold f hpoint
        | told p newer f between => exact hfault f (by simp [hsplit])
    exact ⟨hnone, handedOver_of_no_discard hnone ▸ h.queue⟩

namespace Worker

/-- A session in which the second event is refused by the connection while two others wait. -/
def refusedSession : List Move :=
  [.proceed, .proceed, .pulse .done, .presence true, .opened none, .proceed,
    .reply (.answer (.ok [0x57, 0xAB, 0x00, 0x81, 0x03, 0x30, 0x01, 0x05, 0xBC])),
    .proceed, .proceed, .outside (.queue (.wheel 0 2)), .proceed, .proceed,
    .reply (.answer (.ok [0x57, 0xAB, 0x00, 0x85, 0x01, 0x00, 0x88])),
    .proceed, .proceed, .outside (.queue (.wheel 0 3)), .proceed, .proceed,
    .reply (.answer (.error (.invalidRequest "no"))), .outside (.queue (.wheel 0 4)), .proceed]

/-- The desk at which a first event waits. -/
def oneWaits : Desk := { Desk.initial with queue := [.wheel 0 1] }

example :
    (run ⟨{}, false, 1⟩ (initial oneWaits) refusedSession).map (departures ·.desk.journal) =
      some [(.wheel 0 1, .handed), (.wheel 0 2, .handed), (.wheel 0 3, .discarded),
        (.wheel 0 4, .discarded)] := by
  decide

theorem events_accounted_refused :
    .outside .clear ∉ refusedSession ∧
    ∃ c, run ⟨{}, false, 1⟩ (initial oneWaits) refusedSession = some c ∧
      ∃ journal, c.desk.journal = journal ++ oneWaits.journal ∧
        Delivers oneWaits.queue journal c := by
  have hkept : .outside .clear ∉ refusedSession := by simp [refusedSession]
  obtain ⟨c, hrun⟩ : ∃ c, run ⟨{}, false, 1⟩ (initial oneWaits) refusedSession = some c :=
    Option.isSome_iff_exists.mp (by decide)
  exact ⟨hkept, c, hrun, events_accounted ⟨{}, false, 1⟩ oneWaits refusedSession hkept c hrun⟩

end Worker

end SerialHid
