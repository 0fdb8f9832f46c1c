/-
SerialHid.Proofs.Shutdown — what a worker still does once it is to end.

* `WindsDown` — what is promised: so many requests, openings and moves at most, and an end.
* `Point.exchangesLeft`, `Point.openingsLeft`, `Point.movesLeft` — how much of each is left from a
  point, with so many events waiting, and with a reset wanted or not; `exchangesLeft_le` and
  `movesLeft_le` bound them by the number of events.
* `RunsDown` — a step takes what it does from what is left, by `Transition.runsDown`.
* `FaultLast` — after a fault nothing is done.
* `nextMove` — only at the end there is no move left.
* `Worker.winds_down` — all of it of every run.
-/
import SerialHid.Proofs.Due

namespace SerialHid

/-! ## What is promised -/

def Deed.isSending : Deed → Bool
  | .sent _ => true
  | _ => false

def Deed.isOpening : Deed → Bool
  | .opened _ => true
  | _ => false

def Deed.isFault : Deed → Bool
  | .fault _ => true
  | _ => false

/-- How many requests went out. -/
def sendings (w : List Deed) : Nat := w.countP Deed.isSending

/-- How often the transport was opened, or could not be. -/
def openings (w : List Deed) : Nat := w.countP Deed.isOpening

/-- How many faults were told. -/
def faults (w : List Deed) : Nat := w.countP Deed.isFault

/-- The move is one of the worker, or of the device it deals with. -/
def Move.isOwn : Move → Bool
  | .outside _ => false
  | _ => true

/-- Others give the worker more to do: an event joins the queue, or a reset is asked for that was
not wanted yet. -/
def bringsWork (s : Config × Move) : Bool := (accepted? s).isSome || asksAnew s

/-- What is promised of a worker that is to end at `c`, after more moves that led it to `c'`, in
which `w` was done. -/
structure WindsDown (setup : Setup) (c : Config) (ms : List Move) (c' : Config) (w : List Deed) :
    Prop where
  exchanges : sendings w ≤ 2 * c.desk.queue.length + 4
  /-- The frame of an event goes out at most once for each event that was in hand or waited, in
  their order. -/
  once : (eventFrames w).Sublist c.due
  transport : openings w ≤ 1
  /-- After a fault there is only the pause. -/
  fault : ∀ before f after, w = before ++ .fault f :: after → after = []
  /-- There is an end to the moves of the worker, -/
  moves : ms.countP Move.isOwn ≤ 10 * c.desk.queue.length + 27
  /-- and until it has ended there is another one. -/
  goesOn : c'.point ≠ .ended → ∃ m c'', m.isOwn = true ∧ Worker.step? setup c' m = some c''
  /-- Where the worker waits for its surroundings, they may respond in any way. -/
  accepts : ∀ m, m.isResponse = true → c'.point.awaits m = true →
    ∃ c'', Worker.step? setup c' m = some c''

/-! ## What is left -/

/-- What may still be sent if the worker is going to take an event, or to ask for the status. Each
request may be followed by a probe. -/
def exchangesToServe (n : Nat) : Nat := max (2 * n) 2

/-- What may still be sent from the head of the loop. With events in the queue a reset may come
first. -/
def exchangesToDrain (n : Nat) (wanted : Bool) : Nat :=
  if n = 0 then 0 else 2 * wanted.toNat + exchangesToServe n

/-- What may still be sent for a request that is tried no second time. -/
def Stage.exchangesLeft : Stage → Nat
  | .ready first => 2 * first.toNat
  | .asked => 1
  | .probing _ => 0

def Purpose.exchangesAfter (n : Nat) (wanted : Bool) : Purpose → Nat
  | .chipReset => exchangesToServe n
  | _ => exchangesToDrain n wanted

/-- What may still be sent, with so many events waiting, and with a reset wanted or not. -/
def Session.exchangesLeft (n : Nat) (wanted : Bool) : Session → Nat
  | .request q j => j.stage.exchangesLeft + q.exchangesAfter n wanted
  | .head | .drained | .checking => exchangesToDrain n wanted
  | .resetCheck | .receiving => 2 * wanted.toNat + exchangesToServe n
  | .linePulse | .resetEnd => exchangesToServe n
  | .flushing => 0

def Point.exchangesLeft (n : Nat) (wanted : Bool) : Point → Nat
  | .initialPulse | .looking _ | .opening => 2 + exchangesToDrain n wanted
  | .session s => s.exchangesLeft n wanted
  | .starting | .top | .absent _ | .faulted _ | .telling _ | .pausing | .ended => 0

/-- How often the transport may still be opened. -/
def Point.openingsLeft : Point → Nat
  | .initialPulse | .looking _ | .opening => 1
  | _ => 0

/-- How many moves it takes to end if the worker is going to take an event. -/
def movesToServe (n : Nat) (wanted : Bool) : Nat := 10 * n + 5 * wanted.toNat + 10

/-- How many moves it takes from the head of the loop. -/
def movesToDrain (n : Nat) (wanted : Bool) : Nat := if n = 0 then 3 else movesToServe n wanted + 3

/-- How many moves it takes at most to get a request over with. -/
def Stage.movesLeft : Stage → Nat
  | .ready first => if first then 4 else 1
  | .asked => 3
  | .probing _ => 2

def Purpose.movesAfter (n : Nat) (wanted : Bool) : Purpose → Nat
  | .chipReset => movesToServe n false + 1
  | _ => movesToDrain n wanted + 2

/-- How many moves it takes to end, with so many events waiting, and with a reset wanted or
not. -/
def Session.movesLeft (n : Nat) (wanted : Bool) : Session → Nat
  | .request q j => j.stage.movesLeft + q.movesAfter n wanted
  | .head => movesToDrain n wanted
  | .drained => movesToDrain n wanted - 1
  | .resetCheck => movesToServe n wanted + 1
  | .receiving => movesToServe n wanted
  | .linePulse => movesToServe n false + 2
  | .resetEnd => movesToServe n false + 1
  | .flushing => 5
  | .checking => movesToDrain n wanted + 1

def Point.movesLeft (n : Nat) (wanted : Bool) : Point → Nat
  | .starting | .absent _ | .pausing => 2
  | .top => 1
  | .initialPulse => movesToDrain n wanted + 9
  | .looking _ => movesToDrain n wanted + 8
  | .opening => movesToDrain n wanted + 7
  | .session s => s.movesLeft n wanted
  | .faulted _ => 4
  | .telling _ => 3
  | .ended => 0

section Bounds

variable (n : Nat) (wanted : Bool)

theorem exchangesToServe_le : exchangesToServe n ≤ 2 * n + 2 := by
  rw [exchangesToServe]
  omega

theorem exchangesToDrain_le : exchangesToDrain n wanted ≤ 2 * n + 2 := by
  have hwanted := Bool.toNat_le wanted
  unfold exchangesToDrain exchangesToServe
  split <;> omega

/-- An event, or the status, costs a request and a probe. -/
theorem exchangesToServe_ge :
    exchangesToDrain (n - 1) wanted + 2 ≤ 2 * wanted.toNat + exchangesToServe n := by
  unfold exchangesToDrain exchangesToServe
  split <;> omega

theorem movesToServe_le : movesToServe n wanted ≤ 10 * n + 15 := by
  have hwanted := Bool.toNat_le wanted
  rw [movesToServe]
  omega

theorem movesToDrain_le : 3 ≤ movesToDrain n wanted ∧ movesToDrain n wanted ≤ 10 * n + 18 := by
  have hserve := movesToServe_le n wanted
  unfold movesToDrain
  split <;> omega

theorem movesToServe_ge : movesToDrain (n - 1) wanted + 7 ≤ movesToServe n wanted := by
  unfold movesToDrain movesToServe
  split <;> omega

theorem Stage.exchangesLeft_le (s : Stage) : s.exchangesLeft ≤ 2 := by
  rcases s with (_ | _) | _ | _ <;> simp [exchangesLeft]

theorem Stage.movesLeft_le (s : Stage) : 1 ≤ s.movesLeft ∧ s.movesLeft ≤ 4 := by
  rcases s with (_ | _) | _ | _ <;> simp [movesLeft]

theorem Purpose.exchangesAfter_le (q : Purpose) : q.exchangesAfter n wanted ≤ 2 * n + 2 := by
  have hdrain := exchangesToDrain_le n wanted
  have hserve := exchangesToServe_le n
  cases q <;> simp only [exchangesAfter] <;> omega

theorem Purpose.movesAfter_le (q : Purpose) : q.movesAfter n wanted ≤ 10 * n + 20 := by
  have hdrain := movesToDrain_le n wanted
  have hserve := movesToServe_le n false
  cases q <;> simp only [movesAfter] <;> omega

theorem Purpose.movesAfter_ge (q : Purpose) : 5 ≤ q.movesAfter n wanted := by
  have hdrain := movesToDrain_le n wanted
  cases q <;> simp only [movesAfter, movesToServe] <;> omega

theorem Point.exchangesLeft_le (p : Point) : p.exchangesLeft n wanted ≤ 2 * n + 4 := by
  have hdrain := exchangesToDrain_le n wanted
  have hserve := exchangesToServe_le n
  have hwanted := Bool.toNat_le wanted
  cases p with
  | session s =>
    cases s with
    | request q j =>
      have hstage := j.stage.exchangesLeft_le
      have hafter := q.exchangesAfter_le n wanted
      simp only [exchangesLeft, Session.exchangesLeft]
      omega
    | _ =>
      simp only [exchangesLeft, Session.exchangesLeft]
      omega
  | _ =>
    simp only [exchangesLeft]
    omega

theorem Point.movesLeft_le (p : Point) : p.movesLeft n wanted ≤ 10 * n + 27 := by
  have hdrain := movesToDrain_le n wanted
  have hserve := movesToServe_le n
  have hwanted := hserve wanted
  have hclear := hserve false
  cases p with
  | session s =>
    cases s with
    | request q j =>
      have hstage := j.stage.movesLeft_le
      have hafter := q.movesAfter_le n wanted
      simp only [movesLeft, Session.movesLeft]
      omega
    | _ =>
      simp only [movesLeft, Session.movesLeft]
      omega
  | _ =>
    simp only [movesLeft]
    omega

variable {n n' : Nat}

theorem exchangesToServe_mono (h : n' ≤ n) : exchangesToServe n' ≤ exchangesToServe n := by
  unfold exchangesToServe
  omega

theorem exchangesToDrain_mono (h : n' ≤ n) :
    exchangesToDrain n' wanted ≤ exchangesToDrain n wanted := by
  unfold exchangesToDrain exchangesToServe
  split <;> split <;> omega

theorem movesToServe_mono (h : n' ≤ n) : movesToServe n' wanted ≤ movesToServe n wanted := by
  unfold movesToServe
  omega

theorem movesToDrain_mono (h : n' ≤ n) : movesToDrain n' wanted ≤ movesToDrain n wanted := by
  unfold movesToDrain movesToServe
  split <;> split <;> omega

theorem Point.openingsLeft_le (p : Point) : p.openingsLeft ≤ 1 := by
  cases p <;> simp [openingsLeft]

theorem Point.exchangesLeft_mono (p : Point) (h : n' ≤ n) :
    p.exchangesLeft n' wanted ≤ p.exchangesLeft n wanted := by
  have hserve := exchangesToServe_mono h
  have hdrain := exchangesToDrain_mono wanted h
  cases p with
  | session s =>
    cases s with
    | request q j =>
      cases q <;> simp only [exchangesLeft, Session.exchangesLeft, Purpose.exchangesAfter] <;>
        omega
    | _ =>
      simp only [exchangesLeft, Session.exchangesLeft]
      omega
  | _ =>
    simp only [exchangesLeft]
    omega

theorem Point.movesLeft_mono (p : Point) (h : n' ≤ n) :
    p.movesLeft n' wanted ≤ p.movesLeft n wanted := by
  have hserve := movesToServe_mono wanted h
  have hserve' := movesToServe_mono false h
  have hdrain := movesToDrain_mono wanted h
  cases p with
  | session s =>
    cases s with
    | request q j =>
      cases q <;> simp only [movesLeft, Session.movesLeft, Purpose.movesAfter] <;> omega
    | _ =>
      simp only [movesLeft, Session.movesLeft]
      omega
  | _ =>
    simp only [movesLeft]
    omega

end Bounds

/-! ## One step -/

theorem accepted?_eq_none {s : Config × Move} (h : bringsWork s = false) :
    accepted? s = none := by
  obtain ⟨hnone, -⟩ := Bool.or_eq_false_iff.mp h
  exact Option.isNone_iff_eq_none.mp (Option.isSome_eq_false_iff.mp hnone)

@[simp] theorem sendings_append (v w : List Deed) : sendings (v ++ w) = sendings v + sendings w :=
  List.countP_append

@[simp] theorem faults_append (v w : List Deed) : faults (v ++ w) = faults v + faults w :=
  List.countP_append

@[simp] theorem openings_append (v w : List Deed) : openings (v ++ w) = openings v + openings w :=
  List.countP_append

namespace Worker

def exchangesLeft (c : Config) : Nat :=
  c.point.exchangesLeft c.desk.queue.length c.desk.resetWanted

def movesLeft (c : Config) : Nat := c.point.movesLeft c.desk.queue.length c.desk.resetWanted

/-- A step of a worker that is to end: what it does is taken from what was left. -/
structure RunsDown (c : Config) (m : Move) (c' : Config) : Prop where
  exchanges : sendings c'.desk.deeds + exchangesLeft c' ≤ sendings c.desk.deeds + exchangesLeft c
  transport : openings c'.desk.deeds + c'.point.openingsLeft ≤
    openings c.desk.deeds + c.point.openingsLeft
  moves : movesLeft c' + m.isOwn.toNat ≤ movesLeft c

variable {setup : Setup} {d : Desk} {p : Point} {m : Move} {c c' : Config}

theorem exchangesLeft_request (d : Desk) (q : Purpose) (j : Job) :
    exchangesLeft ⟨d, .session (.request q j)⟩ =
      j.stage.exchangesLeft + q.exchangesAfter d.queue.length d.resetWanted := rfl

theorem movesLeft_request (d : Desk) (q : Purpose) (j : Job) :
    movesLeft ⟨d, .session (.request q j)⟩ =
      j.stage.movesLeft + q.movesAfter d.queue.length d.resetWanted := rfl

theorem exchangesLeft_begin (setup : Setup) (q : Purpose) (d : Desk) :
    exchangesLeft (begin setup q d) = 2 + q.exchangesAfter d.queue.length d.resetWanted := rfl

theorem movesLeft_begin (setup : Setup) (q : Purpose) (d : Desk) :
    movesLeft (begin setup q d) = 4 + q.movesAfter d.queue.length d.resetWanted := rfl

theorem exchangesLeft_afterRequest (q : Purpose) (ok : Bool) (n : Nat) (wanted : Bool) :
    (afterRequest q ok).exchangesLeft n wanted ≤ q.exchangesAfter n wanted := by
  cases q <;> cases ok <;> simp [afterRequest, Session.exchangesLeft, Purpose.exchangesAfter]

theorem movesLeft_afterRequest (q : Purpose) (ok : Bool) (n : Nat) (wanted : Bool) :
    (afterRequest q ok).movesLeft n wanted ≤ q.movesAfter n wanted := by
  have hdrain := movesToDrain_le n wanted
  cases q <;> cases ok <;> simp only [afterRequest, Session.movesLeft, Purpose.movesAfter] <;> omega

theorem RunsDown.of_deeds {w : List Deed} (hdeeds : c'.desk.deeds = c.desk.deeds ++ w)
    (hexchanges : sendings w + exchangesLeft c' ≤ exchangesLeft c)
    (htransport : openings w + c'.point.openingsLeft ≤ c.point.openingsLeft)
    (hmoves : movesLeft c' + m.isOwn.toNat ≤ movesLeft c) : RunsDown c m c' where
  exchanges := by
    rw [hdeeds, sendings_append]
    omega
  transport := by
    rw [hdeeds, openings_append]
    omega
  moves := hmoves

theorem RunsDown.follow {q : Purpose} {j : Job} {i : Job.Input} {pd : Progress × Desk}
    (hstop : d.stop = true) (hturn : Job.Turn setup.settings j d i pd) (hm : m.isOwn = true) :
    RunsDown ⟨d, .session (.request q j)⟩ m (follow q pd) := by
  obtain ⟨-, hwanted, hqueue, -⟩ := hturn.frame
  -- The request goes on, with less left for it than before.
  have hon {j' : Job} {d' : Desk} {w : List Deed} (hpd : pd = (.underway j', d'))
      (hdeeds : d'.deeds = d.deeds ++ w)
      (hexchanges : sendings w + j'.stage.exchangesLeft ≤ j.stage.exchangesLeft)
      (htransport : openings w = 0) (hmoves : j'.stage.movesLeft + 1 ≤ j.stage.movesLeft) :
      RunsDown ⟨d, .session (.request q j)⟩ m (Worker.follow q pd) := by
    subst hpd
    simp only at hwanted hqueue
    refine .of_deeds hdeeds ?_ (Nat.le_of_eq htransport) ?_
    · simp only [Worker.follow, exchangesLeft, Point.exchangesLeft, Session.exchangesLeft, hqueue,
        hwanted]
      omega
    · simp only [Worker.follow, movesLeft, Point.movesLeft, Session.movesLeft, hqueue, hwanted, hm,
        Bool.toNat_true]
      omega
  cases hturn.course with
  | goesOut first d' hstage hgo hdeeds =>
    obtain rfl : first = true := by simpa [hstop] using hgo
    exact hon rfl hdeeds (by simp [hstage, Stage.exchangesLeft, sendings, Deed.isSending])
      rfl (by simp [hstage, Stage.movesLeft])
  | probes f d' hstage hdeeds =>
    exact hon rfl hdeeds (by simp [hstage, Stage.exchangesLeft, sendings, Deed.isSending])
      rfl (by simp [hstage, Stage.movesLeft])
  | fails f d' hstage hdeeds =>
    refine hon (w := []) rfl (by simpa using hdeeds) ?_ rfl ?_
    · simp [sendings, Job.charge, Stage.exchangesLeft]
    · rcases hstage with hstage | hstage <;> simp [hstage, Job.charge, Stage.movesLeft]
  | returns ok d' hdeeds hunsent =>
    have hafter := exchangesLeft_afterRequest q ok d.queue.length d.resetWanted
    have hafter' := movesLeft_afterRequest q ok d.queue.length d.resetWanted
    have hstage := j.stage.movesLeft_le
    have hreturned : (d'.record (.returned q ok d'.state)).deeds = d.deeds ++ [.returned q ok] := by
      simp [hdeeds, Entry.deed?]
    simp only at hwanted hqueue
    have hexchanges : exchangesLeft (Worker.follow q (.returned ok, d')) =
        (afterRequest q ok).exchangesLeft d.queue.length d.resetWanted :=
      hqueue ▸ hwanted ▸ rfl
    have hmoves : movesLeft (Worker.follow q (.returned ok, d')) =
        (afterRequest q ok).movesLeft d.queue.length d.resetWanted :=
      hqueue ▸ hwanted ▸ rfl
    refine .of_deeds hreturned ?_ (Nat.le_refl _) ?_
    · have hquiet : sendings [.returned q ok] = 0 := rfl
      rw [hexchanges, exchangesLeft_request, hquiet]
      omega
    · rw [hmoves, movesLeft_request, hm, Bool.toNat_true]
      omega

theorem RunsDown.begun {w : List Deed} {q : Purpose} {d' : Desk}
    (hdeeds : d'.deeds = d.deeds ++ w) (hsent : sendings w = 0)
    (hopened : openings w ≤ p.openingsLeft)
    (hexchanges : q.exchangesAfter d'.queue.length d'.resetWanted + 2 ≤ exchangesLeft ⟨d, p⟩)
    (hmoves : q.movesAfter d'.queue.length d'.resetWanted + 5 ≤ movesLeft ⟨d, p⟩) :
    RunsDown ⟨d, p⟩ m (begin setup q d') := by
  have hbegun : (begin setup q d').desk.deeds = d.deeds ++ (w ++ [.began q]) := by
    rw [deeds_begin, hdeeds, List.append_assoc]
  refine .of_deeds hbegun ?_ ?_ ?_
  · have hquiet : sendings [.began q] = 0 := rfl
    rw [sendings_append, hsent, hquiet, exchangesLeft_begin]
    omega
  · rw [openings_append]
    exact hopened
  · have hown := Bool.toNat_le m.isOwn
    rw [movesLeft_begin]
    omega

/-- What others do adds nothing to what is left, if it brings no work. -/
theorem RunsDown.act {a : Act} (hquiet : bringsWork (⟨d, p⟩, .outside a) = false) :
    RunsDown ⟨d, p⟩ (.outside a) ⟨d.act a, p⟩ := by
  have hdeeds : (d.act a).deeds = d.deeds ++ [] := by simp
  have hwanted : (d.act a).resetWanted = d.resetWanted := by
    cases a <;> simp_all [Desk.act, bringsWork, accepted?, asksAnew]
  have hqueue : (d.act a).queue.length ≤ d.queue.length := by
    cases a <;> simp_all [Desk.act, bringsWork, accepted?, asksAnew]
  have hexchanges : exchangesLeft ⟨d.act a, p⟩ ≤ exchangesLeft ⟨d, p⟩ := by
    rw [exchangesLeft, exchangesLeft, hwanted]
    exact p.exchangesLeft_mono _ hqueue
  have hmoves : movesLeft ⟨d.act a, p⟩ ≤ movesLeft ⟨d, p⟩ := by
    rw [movesLeft, movesLeft, hwanted]
    exact p.movesLeft_mono _ hqueue
  exact .of_deeds hdeeds (by simpa [sendings] using hexchanges)
    (Nat.le_of_eq (Nat.zero_add _)) hmoves

/-- Every step of a worker that is to end runs down. -/
theorem Transition.runsDown (hstop : d.stop = true) (hquiet : bringsWork (⟨d, p⟩, m) = false)
    (h : Transition setup d p m c') : RunsDown ⟨d, p⟩ m c' := by
  have hdrain := movesToDrain_le d.queue.length d.resetWanted
  have hserve := exchangesToServe_ge d.queue.length d.resetWanted
  have hserve' := movesToServe_ge d.queue.length d.resetWanted
  cases h with
  | others p a => exact .act hquiet
  | requestWent q j pd hturn => exact .follow hstop hturn rfl
  | requestAnswered q j a pd hturn => exact .follow hstop hturn rfl
  | passBegan hgo => exact Bool.noConfusion (hgo.symm.trans hstop)
  | opened =>
    refine .begun (w := [.opened true]) (by simp [Entry.deed?]) rfl (Nat.le_refl 1) ?_ ?_
    · exact Nat.le_of_eq (Nat.add_comm ..)
    · exact Nat.le_refl _
  | chipReset hwanted hwired =>
    refine .begun (w := [.resetBegan]) (by simp [Entry.deed?]) rfl (Nat.le_refl 0) ?_ ?_
    · simp only [exchangesLeft, Point.exchangesLeft, Session.exchangesLeft, hwanted,
        Purpose.exchangesAfter, Bool.toNat_true]
      exact Nat.le_of_eq (Nat.add_comm ..)
    · simp only [movesLeft, Point.movesLeft, Session.movesLeft, hwanted, Purpose.movesAfter,
        movesToServe, Bool.toNat_true, Bool.toNat_false]
      exact Nat.le_refl _
  | received e es hqueue =>
    rw [hqueue] at hserve hserve'
    refine .begun (w := []) (List.append_nil d.deeds).symm rfl (Nat.le_refl 0) ?_ ?_
    · rw [exchangesLeft, hqueue]
      exact hserve
    · rw [movesLeft, hqueue]
      exact hserve'
  | idled hqueue hopen =>
    have hnone : d.queue.length - 1 = d.queue.length := by rw [hqueue]; rfl
    rw [hnone] at hserve hserve'
    exact .begun (w := []) (List.append_nil _).symm rfl (Nat.le_refl 0) hserve hserve'
  | crashed q j message request hpending =>
    have hstage := j.stage.movesLeft_le
    have hafter := q.movesAfter_ge d.queue.length d.resetWanted
    refine .of_deeds (w := [.closed]) (by simp [Entry.deed?]) (Nat.zero_le _)
      (Nat.le_refl _) ?_
    simp only [movesLeft, Point.movesLeft, Session.movesLeft, Move.isOwn, Bool.toNat_true]
    omega
  | draining hqueue =>
    have hsome : d.queue.length ≠ 0 := by simpa using hqueue
    refine .of_deeds (w := []) (List.append_nil _).symm ?_ (Nat.le_refl _) ?_
    · simp [sendings, exchangesLeft, Point.exchangesLeft, Session.exchangesLeft, exchangesToDrain,
        hsome]
    · simp [movesLeft, Point.movesLeft, Session.movesLeft, movesToDrain, hsome, Move.isOwn]
  | lineReset hwanted hwired =>
    refine .of_deeds (w := [.resetBegan, .pulsed]) (by simp [Entry.deed?]) ?_
      (Nat.le_refl _) ?_
    · simp [sendings, Deed.isSending, exchangesLeft, Point.exchangesLeft, Session.exchangesLeft]
    · simp [movesLeft, Point.movesLeft, Session.movesLeft, movesToServe, hwanted, Move.isOwn]
  | resetEnded =>
    refine .of_deeds (w := [.resetDone]) (Desk.deeds_record _ .resetDone) ?_
      (Nat.le_refl _) ?_
    · simp [sendings, Deed.isSending, exchangesLeft, Point.exchangesLeft, Session.exchangesLeft]
    · simp [movesLeft, Point.movesLeft, Session.movesLeft, Move.isOwn]
  | queueClosed hqueue hclosed =>
    refine .of_deeds (deeds_queueClosed d) (Nat.zero_le _) (Nat.le_refl _) ?_
    simp only [leave, movesLeft, Point.movesLeft, Session.movesLeft, Move.isOwn, Bool.toNat_true]
    omega
  | flushed =>
    refine .of_deeds (w := []) (by simp) ?_ (Nat.le_refl _) ?_
    · simp [sendings, exchangesLeft, Point.exchangesLeft, Session.exchangesLeft, exchangesToDrain]
    · simp [movesLeft, Point.movesLeft, Session.movesLeft, movesToDrain, Move.isOwn]
  | drained hqueue =>
    refine .of_deeds (deeds_leave d) (Nat.zero_le _) (Nat.le_refl _) ?_
    simp only [leave, movesLeft, Point.movesLeft, Session.movesLeft, Move.isOwn, Bool.toNat_true]
    omega
  | disappeared =>
    refine .of_deeds (w := [.looked false, .closed]) (by simp [leave, Entry.deed?])
      (Nat.zero_le _) (Nat.le_refl _) ?_
    simp only [leave, movesLeft, Point.movesLeft, Session.movesLeft, Move.isOwn, Bool.toNat_true]
    omega
  | headed =>
    rw [hstop, if_pos rfl]
    refine .of_deeds (w := []) (List.append_nil _).symm ?_ (Nat.le_refl _) ?_
    · exact Nat.le_of_eq (Nat.zero_add _)
    · simp only [movesLeft, Point.movesLeft, Session.movesLeft, Move.isOwn, Bool.toNat_true]
      omega
  | started | stopped | initialPulsed | gaveUp | found | notFound | waited | openFailed
  | emptied | faultTold | rested | noReset | linePulsed | stillThere =>
    refine ⟨?_, ?_, ?_⟩
    · simp [sendings, Deed.isSending, Entry.deed?, hstop, exchangesLeft,
        Point.exchangesLeft, Session.exchangesLeft]
    · simp [openings, Deed.isOpening, Entry.deed?, hstop, Point.openingsLeft]
    · simp [movesLeft, Point.movesLeft, Session.movesLeft, hstop, Move.isOwn]

/-! ## Faults -/

/-- Between two passes a worker that is to end does nothing any more. -/
theorem Transition.stays_idle (hstop : d.stop = true) (hidle : p.isIdle = true)
    (h : Transition setup d p m c') : c'.desk.deeds = d.deeds ∧ c'.point.isIdle = true := by
  cases h with
  | others p a => exact ⟨d.deeds_act a, hidle⟩
  | started | stopped => exact ⟨by simp [Entry.deed?], rfl⟩
  | rested => exact ⟨rfl, rfl⟩
  | passBegan hgo => exact Bool.noConfusion (hgo.symm.trans hstop)
  | _ => cases hidle

/-- A step tells no fault, or does nothing else; then it leads to the pause. -/
theorem Transition.fault (h : Transition setup d p m c') :
    faults c'.desk.deeds = faults d.deeds ∨
      ∃ f, c'.desk.deeds = d.deeds ++ [.fault f] ∧ c'.point = .pausing := by
  cases h with
  | faultTold f => exact .inr ⟨f, by simp [Entry.deed?], rfl⟩
  | requestWent q j pd hturn | requestAnswered q j a pd hturn =>
    left
    cases hturn.course with
    | goesOut first d' hstage hgo hdeeds | probes f d' hstage hdeeds | fails f d' hstage hdeeds =>
      simp [follow, hdeeds, faults, Deed.isFault]
    | returns ok d' hdeeds hunsent => simp [follow, hdeeds, faults, Entry.deed?, Deed.isFault]
  | queueClosed hqueue hclosed =>
    left
    rw [deeds_queueClosed]
    simp [faults, Deed.isFault]
  | received e es hqueue =>
    left
    rw [deeds_begin]
    simp [faults, Deed.isFault]
    rfl
  | resetEnded =>
    left
    rw [Desk.deeds_record]
    simp [faults, Deed.isFault, Entry.deed?]
    rfl
  | _ => exact .inl (by simp [faults, Deed.isFault, Entry.deed?])

/-- No fault was told, or one, and nothing was done since. -/
def FaultLast (w : List Deed) (p : Point) : Prop :=
  faults w = 0 ∨ ∃ v f, w = v ++ [.fault f] ∧ faults v = 0 ∧ p.isIdle = true

theorem FaultLast.step {v w : List Deed} (hv : FaultLast v p) (hstop : d.stop = true)
    (hstep : Transition setup d p m c') (hw : c'.desk.deeds = d.deeds ++ w) :
    FaultLast (v ++ w) c'.point := by
  rcases hv with hnone | ⟨u, f, rfl, hnone, hidle⟩
  · rcases hstep.fault with hquiet | ⟨f, hfault, hpoint⟩
    · left
      rw [hw, faults, List.countP_append] at hquiet
      rw [faults, List.countP_append]
      rw [faults] at hnone hquiet
      omega
    · obtain rfl : w = [.fault f] := List.append_cancel_left (hw.symm.trans hfault)
      exact .inr ⟨v, f, rfl, hnone, hpoint ▸ rfl⟩
  · obtain ⟨hsame, hidle'⟩ := hstep.stays_idle hstop hidle
    obtain rfl : w = [] := List.append_cancel_left (hw.symm.trans (by rw [hsame, List.append_nil]))
    exact .inr ⟨u, f, List.append_nil _, hnone, hidle'⟩

theorem FaultLast.eq_nil {before after : List Deed} {f : Fault}
    (h : FaultLast (before ++ .fault f :: after) p) : after = [] := by
  rcases h with hnone | ⟨v, f', hw, hnone, -⟩
  · simp [faults, Deed.isFault] at hnone
  · rcases List.eq_nil_or_concat after with rfl | ⟨rest, x, rfl⟩
    · rfl
    · have hsplit : (before ++ .fault f :: rest) ++ [x] = v ++ [.fault f'] := by simpa using hw
      have hv := List.append_inj_left' hsplit rfl
      rw [← hv] at hnone
      simp [faults, Deed.isFault] at hnone

/-! ## The way to the end -/

/-- The move that comes next if others leave the worker alone, the device is there and can be
opened, and the connection gives this answer. -/
def nextMove (a : Answer) (c : Config) : Move :=
  match c.point with
  | .initialPulse | .session .linePulse => .pulse .done
  | .looking (_ + 1) | .session .checking => .presence true
  | .opening => .opened none
  | .session .receiving => if c.desk.queue.isEmpty && c.desk.accepting then .timeout else .proceed
  | .session (.request _ j) => if j.pending?.isSome then .reply (.answer a) else .proceed
  | _ => .proceed

theorem isOwn_nextMove (a : Answer) (c : Config) : (nextMove a c).isOwn = true := by
  unfold nextMove
  split <;> (try split) <;> rfl

/-- Only at the end does the worker stand still. -/
theorem exists_step?_nextMove (setup : Setup) (a : Answer) (hpoint : c.point ≠ .ended) :
    ∃ c', step? setup c (nextMove a c) = some c' := by
  obtain ⟨d, p⟩ := c
  cases p with
  | ended => exact absurd rfl hpoint
  | looking left => cases left <;> exact ⟨_, rfl⟩
  | session s =>
    cases s with
    | request q j =>
      rcases hstage : j.stage with first | _ | f <;>
        simp [nextMove, step?, proceed?, proceedSession?, reply?, Job.pending?, Job.step?, hstage]
    | receiving =>
      cases hqueue : d.queue with
      | cons e es =>
        simp [nextMove, step?, proceed?, proceedSession?, receive?, hqueue]
      | nil =>
        cases hopen : d.accepting <;>
          simp [nextMove, step?, proceed?, proceedSession?, receive?, timeout?, hqueue, hopen]
    | _ => exact ⟨_, rfl⟩
  | _ => exact ⟨_, rfl⟩

/-! ## Runs -/

/-- How a worker that is to end stands after some steps more. -/
structure Wound (setup : Setup) (c : Config) (steps : List (Config × Move)) (c' : Config) :
    Prop where
  stop : c'.desk.stop = true
  passes : ∃ v, InPasses setup v c'.point
  exchanges : sendings c'.desk.deeds + exchangesLeft c' ≤ sendings c.desk.deeds + exchangesLeft c
  transport : openings c'.desk.deeds + c'.point.openingsLeft ≤
    openings c.desk.deeds + c.point.openingsLeft
  moves : movesLeft c' + steps.countP (·.2.isOwn) ≤ movesLeft c
  frames : c'.frames.Sublist c.frames
  faults : ∃ w, c'.desk.deeds = c.desk.deeds ++ w ∧ FaultLast w c'.point

theorem Wound.start (hstop : c.desk.stop = true) (hpasses : ∃ v, InPasses setup v c.point) :
    Wound setup c [] c where
  stop := hstop
  passes := hpasses
  exchanges := Nat.le_refl _
  transport := Nat.le_refl _
  moves := Nat.le_refl _
  frames := List.Sublist.refl _
  faults := ⟨[], (List.append_nil _).symm, .inl rfl⟩

theorem Wound.step {steps : List (Config × Move)} {c₁ c₂ : Config} (h : Wound setup c steps c₁)
    (hquiet : bringsWork (c₁, m) = false) (hstep : Transition setup c₁.desk c₁.point m c₂) :
    Wound setup c (steps ++ [(c₁, m)]) c₂ := by
  obtain ⟨v, hpasses⟩ := h.passes
  obtain ⟨added, hadded, hpasses'⟩ := hpasses.step hstep
  obtain ⟨w, hw, hfaults⟩ := h.faults
  have hdown : RunsDown c₁ m c₂ := hstep.runsDown h.stop hquiet
  refine ⟨hstep.stop_of_stop h.stop, ⟨_, hpasses'⟩, Nat.le_trans hdown.exchanges h.exchanges,
    Nat.le_trans hdown.transport h.transport, ?_, ?_, ?_⟩
  · have hcount : (steps ++ [(c₁, m)]).countP (·.2.isOwn) =
        steps.countP (·.2.isOwn) + m.isOwn.toNat := by
      cases hown : m.isOwn <;> simp [hown]
    have hleft := hdown.moves
    have hbefore := h.moves
    rw [hcount]
    omega
  · refine List.Sublist.trans ?_ h.frames
    have hhandover : Handover setup c₁.desk c₁.point m c₂ := hstep.handover hpasses.faithful
    obtain ⟨d₁, p₁⟩ := c₁
    cases hhandover with
    | kept p m c₂ hnone hsame => exact hsame ▸ List.Sublist.refl _
    | queued p e hopen =>
      have hnone := accepted?_eq_none hquiet
      simp only [accepted?] at hnone
      rw [if_pos hopen] at hnone
      cases hnone
    | lost p m c₂ hless hcause => exact hless
    | resent q j c₂ hstage hgo => exact Bool.noConfusion (hgo.symm.trans h.stop)
  · exact ⟨w ++ added, by rw [hadded, hw, List.append_assoc], hfaults.step h.stop hstep hadded⟩

theorem wound_of_run {early late : List Move} (hearly : run setup (initial d) early = some c)
    (hstop : c.desk.stop = true) (hlate : run setup c late = some c')
    (hquiet : ∀ s ∈ trail setup c late, bringsWork s = false) :
    Wound setup c (trail setup c late) c' := by
  obtain ⟨v, -, hpasses⟩ := inPasses_of_run hearly
  refine run_induction (P := fun steps c' => (∀ s ∈ steps, bringsWork s = false) →
    Wound setup c steps c') (fun _ => .start hstop ⟨v, hpasses⟩) ?_ hlate hquiet
  intro steps m c₁ c₂ _ h hstep hquiet
  obtain ⟨hbefore, hnow⟩ := List.forall_mem_append.mp hquiet
  exact (h hbefore).step (hnow _ (List.mem_singleton_self _)) hstep

theorem Wound.countP_isOwn {late : List Move} (h : Wound setup c (trail setup c late) c')
    (hlate : run setup c late = some c') :
    late.countP Move.isOwn ≤ 10 * c.desk.queue.length + 27 := by
  have hmoves := h.moves
  have hbound : movesLeft c ≤ 10 * c.desk.queue.length + 27 := c.point.movesLeft_le _ _
  have hcount : ((trail setup c late).map Prod.snd).countP Move.isOwn =
      (trail setup c late).countP (·.2.isOwn) := List.countP_map
  rw [map_snd_trail hlate] at hcount
  omega

end Worker

/-- **A worker that is to end does.** After its end was asked for, and if nobody gives it more to
do, it sends no more than four requests and two for each event that waits, the frame of each event
at most once and in order, and opens the transport at most once. Whatever the device does, and it
may do anything wherever the worker waits for it, the worker makes so many moves and has ended then,
at the latest after one fault and the pause that follows it. -/
theorem Worker.winds_down (setup : Setup) (d : Desk) (early late : List Move) (c c' : Config)
    (hearly : run setup (initial d) early = some c) (hstop : c.desk.stop = true)
    (hlate : run setup c late = some c')
    (hquiet : ∀ s ∈ trail setup c late, bringsWork s = false) :
    ∃ w, c'.desk.deeds = c.desk.deeds ++ w ∧ WindsDown setup c late c' w := by
  have h := wound_of_run hearly hstop hlate hquiet
  obtain ⟨w, hw, hfault⟩ := h.faults
  refine ⟨w, hw, ?_, ?_, ?_, ?_, ?_, ?_, fun m hm => (accepted_iff_awaits hm).mpr⟩
  · have hsent := h.exchanges
    have hbound : exchangesLeft c ≤ 2 * c.desk.queue.length + 4 := c.point.exchangesLeft_le _ _
    rw [hw, sendings_append] at hsent
    omega
  · have hframes := h.frames
    rw [Config.frames, Config.frames, hw, eventFrames_append, List.append_assoc] at hframes
    exact (List.sublist_append_left ..).trans ((List.append_sublist_append_left _).mp hframes)
  · have hopened := h.transport
    have hbound := c.point.openingsLeft_le
    rw [hw, openings_append] at hopened
    omega
  · rintro before f after rfl
    exact hfault.eq_nil
  · exact h.countP_isOwn hlate
  · intro hpoint
    obtain ⟨c'', hstep⟩ := exists_step?_nextMove setup (.ok []) hpoint
    exact ⟨_, c'', isOwn_nextMove _ _, hstep⟩

namespace Worker

/-- The end is asked for while the status is awaited; two events wait, and a reset is wanted. -/
def stoppedEarly : List Move :=
  [.outside (.queue (.wheel 0 1)), .outside (.queue (.wheel 0 2)), .outside .askReset, .proceed,
    .proceed, .pulse .done, .presence true, .opened none, .proceed, .outside .stop]

/-- The answer is garbled, the reset meets with silence, and the connection collapses after the
first event. -/
def garbledEnd : List Move :=
  [.reply (.answer (.ok [0x00])), .reply (.answer (.ok [0x00])), .proceed, .proceed, .proceed,
    .proceed, .proceed, .outside .askReset, .reply (.answer (.error (.shortRead 5 0))), .proceed,
    .proceed, .proceed, .proceed, .reply (.answer (.ok [0x00])), .reply (.crash none), .proceed,
    .proceed, .proceed, .proceed]

example :
    ((run ⟨{}, false, 1⟩ (initial .initial) stoppedEarly).bind
        (run ⟨{}, false, 1⟩ · garbledEnd)).map (fun c => (c.desk.deeds.drop 5, c.point)) =
      some ([.sent getInfoFrame.bytes, .returned .entry false, .resetBegan, .began .chipReset,
        .sent resetFrame.bytes, .returned .chipReset false, .resetDone,
        .began (.event (.wheel 0 1)), .sent (Event.wheel 0 1).frame.bytes,
        .sent getInfoFrame.bytes, .closed, .fault (.crash none)], .ended) := by
  decide

theorem winds_down_garbled :
    ∃ c c', run ⟨{}, false, 1⟩ (initial .initial) stoppedEarly = some c ∧ c.desk.stop = true ∧
      run ⟨{}, false, 1⟩ c garbledEnd = some c' ∧
      (∀ s ∈ trail ⟨{}, false, 1⟩ c garbledEnd, bringsWork s = false) ∧
      ∃ w, c'.desk.deeds = c.desk.deeds ++ w ∧ WindsDown ⟨{}, false, 1⟩ c garbledEnd c' w := by
  obtain ⟨c, hearly⟩ : ∃ c, run ⟨{}, false, 1⟩ (initial .initial) stoppedEarly = some c :=
    Option.isSome_iff_exists.mp (by decide)
  have hfits : (run ⟨{}, false, 1⟩ (initial .initial) stoppedEarly).all (fun c =>
      c.desk.stop && (run ⟨{}, false, 1⟩ c garbledEnd).isSome &&
        (trail ⟨{}, false, 1⟩ c garbledEnd).all fun s => !bringsWork s) = true := by
    decide
  rw [hearly, Option.all_some, Bool.and_eq_true, Bool.and_eq_true] at hfits
  obtain ⟨⟨hstop, hlate⟩, hquiet⟩ := hfits
  obtain ⟨c', hlate⟩ := Option.isSome_iff_exists.mp hlate
  have hquiet : ∀ s ∈ trail ⟨{}, false, 1⟩ c garbledEnd, bringsWork s = false := by
    simpa using hquiet
  exact ⟨c, c', hearly, hstop, hlate, hquiet,
    winds_down ⟨{}, false, 1⟩ .initial stoppedEarly garbledEnd c c' hearly hstop hlate hquiet⟩

end Worker

end SerialHid
