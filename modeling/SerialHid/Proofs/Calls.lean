/-
SerialHid.Proofs.Calls — the calls of a producer work on a list.

* `Producer.Op` — everything that a producer can call for; `Op.call` is the call.
* `Op.Hands`, `Op.Refused` — what a call hands in, and why it is refused, said of its values alone.
* `Op.Works` — what a call does to the list of the events that wait, and what it answers; by
  `Op.comes` no call does anything else.
* `Producer.play`, `Producer.answers` — calls between the moves of the worker and of the others.
* `Producer.OnList` — the same steps on a list; `Producer.calls_work_on_list` says that they agree.
-/
import Mathlib.Data.List.Forall2
import SerialHid.Producer
import SerialHid.Proofs.Delivery
import SerialHid.Proofs.Event

namespace SerialHid

namespace Producer

/-! ## The calls -/

/-- What a producer can call for. -/
inductive Op where
  | keys (keys : List (String × Bool))
  | button (name : String) (pressed : Bool)
  | move (x y : Int)
  | relative (dx dy : Int)
  | wheel (dx dy : Int)
  /-- An event made elsewhere, in place of all that waits or behind it. -/
  | queue (e : Event) (alone : Bool)
  | clear
  deriving DecidableEq, Repr

/-- The call, made at a desk. -/
def Op.call (d : Desk) : Op → Call
  | .keys ks => sendKeys d ks
  | .button name pressed => sendButton d name pressed
  | .move x y => sendMove d x y
  | .relative dx dy => sendRelative d dx dy
  | .wheel dx dy => sendWheel d dx dy
  | .queue e alone => queueEvent d e alone
  | .clear => Producer.clear d

/-- The events of a call whose values are all good. -/
inductive Op.Hands : Op → List Event → Prop where
  | keys {keys : List (String × Bool)} {es : List Event}
      (h : List.Forall₂ (fun k e => ∃ key : Key, key.name = k.1 ∧ e = .key key k.2) keys es) :
      Hands (.keys keys) es
  | button (b : Button) (pressed : Bool) : Hands (.button b.name pressed) [.button b pressed]
  | move (x y : Int16) : Hands (.move x.toInt y.toInt) [.move x y]
  | relative {dx dy : Int8} (hx : -127 ≤ dx.toInt) (hy : -127 ≤ dy.toInt) :
      Hands (.relative dx.toInt dy.toInt) [.relative dx dy]
  | wheel {dx dy : Int8} (hx : -127 ≤ dx.toInt) (hy : -127 ≤ dy.toInt) :
      Hands (.wheel dx.toInt dy.toInt) [.wheel dx dy]
  | queue (e : Event) (alone : Bool) : Hands (.queue e alone) [e]

/-- The refusal of a call with a bad value: the first one is named. -/
inductive Op.Refused : Op → EventError → Prop where
  | keys {before after : List (String × Bool)} {name : String} {pressed : Bool}
      (hbefore : ∀ k ∈ before, ∃ key : Key, key.name = k.1)
      (hname : ∀ key : Key, key.name ≠ name) :
      Refused (.keys (before ++ (name, pressed) :: after)) (.unknownKey name)
  | button {name : String} {pressed : Bool} (hname : ∀ b : Button, b.name ≠ name) :
      Refused (.button name pressed) (.unknownButton name)
  | move {x y : Int} {e : EventError} (h : FirstOutside .toX .toY (-32768) 32767 x y e) :
      Refused (.move x y) e
  | relative {dx dy : Int} {e : EventError}
      (h : FirstOutside .deltaX .deltaY (-127) 127 dx dy e) : Refused (.relative dx dy) e
  | wheel {dx dy : Int} {e : EventError}
      (h : FirstOutside .deltaX .deltaY (-127) 127 dx dy e) : Refused (.wheel dx dy) e

/-- The call throws away what waits before it hands in an event. -/
def Op.isAlone : Op → Bool
  | .queue _ alone => alone
  | _ => false

/-- What a call answers, which events come of it, and what waits then; `live` says whether an
event would still reach the worker. -/
inductive Op.Works (live : Bool) (waiting : List Event) :
    Op → Except EventError Unit → List Event → List Event → Prop where
  /-- A call with a bad value changes nothing, whether events reach the worker or not. -/
  | refused {op : Op} {e : EventError} (h : op.Refused e) :
      Works live waiting op (.error e) [] waiting
  | appended {op : Op} {es : List Event} (hlive : live = true) (hbehind : op.isAlone = false)
      (h : op.Hands es) : Works live waiting op (.ok ()) es (waiting ++ es)
  | alone {op : Op} {es : List Event} (hlive : live = true) (halone : op.isAlone = true)
      (h : op.Hands es) : Works live waiting op (.ok ()) es es
  /-- Nothing is thrown away either. -/
  | ignored {op : Op} {es : List Event} (hshut : live = false) (h : op.Hands es) :
      Works live waiting op (.ok ()) [] waiting
  | cleared : Works live waiting .clear (.ok ()) [] []

/-! ## The values of a call -/

theorem keyEvents_eq_ok_iff {ks : List (String × Bool)} {es : List Event} :
    keyEvents ks = .ok es ↔
      List.Forall₂ (fun k e => ∃ key : Key, key.name = k.1 ∧ e = .key key k.2) ks es := by
  induction ks generalizing es with
  | nil => simp [keyEvents, eq_comm]
  | cons k ks ih =>
    rw [List.forall₂_cons_left_iff]
    simp only [← ih]
    simp only [← Event.ofKey_eq_ok_iff]
    rw [keyEvents]
    cases Event.ofKey k.1 k.2 <;> cases keyEvents ks <;> simp [eq_comm]

/-- A list of keys is refused at its first bad name. -/
theorem keyEvents_eq_error_iff {ks : List (String × Bool)} {e : EventError} :
    keyEvents ks = .error e ↔
      ∃ before name pressed after, ks = before ++ (name, pressed) :: after ∧
        (∀ k ∈ before, ∃ key : Key, key.name = k.1) ∧ (∀ key : Key, key.name ≠ name) ∧
        e = .unknownKey name := by
  induction ks with
  | nil => simp [keyEvents]
  | cons k ks ih =>
    obtain ⟨name, pressed⟩ := k
    rw [keyEvents]
    constructor
    · intro h
      cases hkey : Event.ofKey name pressed with
      | error e' =>
        obtain ⟨hname, rfl⟩ := Event.ofKey_eq_error_iff.mp hkey
        simp only [hkey] at h
        cases h
        exact ⟨[], name, pressed, ks, rfl, by simp, hname, rfl⟩
      | ok e' =>
        obtain ⟨key, hname, -⟩ := Event.ofKey_eq_ok_iff.mp hkey
        simp only [hkey] at h
        have hrest : keyEvents ks = .error e := by
          cases hks : keyEvents ks <;> simp_all
        obtain ⟨before, bad, down, after, rfl, hbefore, hbad, rfl⟩ := ih.mp hrest
        refine ⟨(name, pressed) :: before, bad, down, after, rfl, ?_, hbad, rfl⟩
        exact List.forall_mem_cons.mpr ⟨⟨key, hname⟩, hbefore⟩
    · rintro ⟨before, bad, down, after, hsplit, hbefore, hbad, rfl⟩
      cases before with
      | nil =>
        cases hsplit
        rw [Event.ofKey_eq_error_iff.mpr ⟨hbad, rfl⟩]
      | cons k before =>
        cases hsplit
        obtain ⟨⟨key, hname⟩, hbefore⟩ := List.forall_mem_cons.mp hbefore
        rw [Event.ofKey_eq_ok_iff.mpr ⟨key, hname, rfl⟩,
          ih.mpr ⟨before, bad, down, after, rfl, hbefore, hbad, rfl⟩]

/-- The events of a call, or its refusal. -/
def Op.made : Op → Except EventError (List Event)
  | .keys ks => keyEvents ks
  | .button name pressed => (Event.ofButton name pressed).map ([·])
  | .move x y => (Event.ofMove x y).map ([·])
  | .relative dx dy => (Event.ofRelative dx dy).map ([·])
  | .wheel dx dy => (Event.ofWheel dx dy).map ([·])
  | .queue e _ => .ok [e]
  | .clear => .ok []

theorem map_eq_ok_iff {made : Except EventError Event} {es : List Event} :
    made.map ([·]) = .ok es ↔ ∃ e, made = .ok e ∧ es = [e] := by
  cases made <;> simp [Except.map, eq_comm]

theorem map_eq_error_iff {made : Except EventError Event} {refused : EventError} :
    made.map ([·]) = .error refused ↔ made = .error refused := by
  cases made <;> simp [Except.map]

theorem Op.made_eq_ok_iff {op : Op} {es : List Event} (hop : op ≠ .clear) :
    op.made = .ok es ↔ op.Hands es := by
  cases op with
  | keys ks =>
    rw [made, keyEvents_eq_ok_iff]
    exact ⟨.keys, fun | .keys h => h⟩
  | button name pressed =>
    simp only [made, map_eq_ok_iff, Event.ofButton_eq_ok_iff]
    constructor
    · rintro ⟨_, ⟨b, rfl, rfl⟩, rfl⟩
      exact .button b pressed
    · rintro (_ | ⟨b, _⟩)
      exact ⟨_, ⟨b, rfl, rfl⟩, rfl⟩
  | move x y =>
    simp only [made, map_eq_ok_iff, Event.ofMove_eq_ok_iff]
    constructor
    · rintro ⟨_, ⟨a, b, rfl, rfl, rfl⟩, rfl⟩
      exact .move a b
    · rintro (_ | _ | ⟨a, b⟩)
      exact ⟨_, ⟨a, b, rfl, rfl, rfl⟩, rfl⟩
  | relative dx dy =>
    simp only [made, map_eq_ok_iff, Event.ofRelative_eq_ok_iff]
    constructor
    · rintro ⟨_, ⟨a, b, ⟨rfl, hx⟩, ⟨rfl, hy⟩, rfl⟩, rfl⟩
      exact .relative hx hy
    · rintro (_ | _ | _ | ⟨hx, hy⟩)
      exact ⟨_, ⟨_, _, ⟨rfl, hx⟩, ⟨rfl, hy⟩, rfl⟩, rfl⟩
  | wheel dx dy =>
    simp only [made, map_eq_ok_iff, Event.ofWheel_eq_ok_iff]
    constructor
    · rintro ⟨_, ⟨a, b, ⟨rfl, hx⟩, ⟨rfl, hy⟩, rfl⟩, rfl⟩
      exact .wheel hx hy
    · rintro (_ | _ | _ | _ | ⟨hx, hy⟩)
      exact ⟨_, ⟨_, _, ⟨rfl, hx⟩, ⟨rfl, hy⟩, rfl⟩, rfl⟩
  | queue e alone =>
    constructor
    · rintro ⟨⟩
      exact .queue e alone
    · rintro ⟨⟩
      rfl
  | clear => exact absurd rfl hop

theorem Op.made_eq_error_iff {op : Op} {e : EventError} : op.made = .error e ↔ op.Refused e := by
  cases op with
  | keys ks =>
    rw [made, keyEvents_eq_error_iff]
    constructor
    · rintro ⟨before, name, pressed, after, rfl, hbefore, hname, rfl⟩
      exact .keys hbefore hname
    · rintro ⟨hbefore, hname⟩
      exact ⟨_, _, _, _, rfl, hbefore, hname, rfl⟩
  | button name pressed =>
    rw [made, map_eq_error_iff, Event.ofButton_eq_error_iff]
    constructor
    · rintro ⟨hname, rfl⟩
      exact .button hname
    · rintro (_ | hname)
      exact ⟨hname, rfl⟩
  | move x y =>
    rw [made, map_eq_error_iff, Event.ofMove_eq_error_iff]
    exact ⟨.move, fun | .move h => h⟩
  | relative dx dy =>
    rw [made, map_eq_error_iff, Event.ofRelative_eq_error_iff]
    exact ⟨.relative, fun | .relative h => h⟩
  | wheel dx dy =>
    rw [made, map_eq_error_iff, Event.ofWheel_eq_error_iff]
    exact ⟨.wheel, fun | .wheel h => h⟩
  | queue | clear => exact ⟨(nomatch ·), (nomatch ·)⟩

/-! ## One call -/

/-- Events that are queued one after the other at an open queue. -/
theorem acts_queue (d : Desk) (hopen : d.accepting = true) (es : List Event) :
    d.acts (es.map .queue) =
      { d with
        queue := d.queue ++ es
        journal := (es.map .queued).reverse ++ d.journal } := by
  induction es generalizing d with
  | nil => simp
  | cons e es ih =>
    have hact : d.act (.queue e) =
        { d with queue := d.queue ++ [e], journal := .queued e :: d.journal } := by
      simp [Desk.act, hopen, Desk.record]
    rw [List.map_cons, Desk.acts_cons, hact,
      ih { d with queue := d.queue ++ [e], journal := .queued e :: d.journal } hopen]
    simp

theorem arrivals_queued (es : List Event) : arrivals (es.map .queued).reverse = es := by
  simp [arrivals, Entry.arrival?, Function.comp_def]

/-- What a call comes to at a desk. -/
def Op.Comes (op : Op) (d : Desk) : Prop :=
  ∃ added, ((op.call d).on d).journal = added ++ d.journal ∧
    op.Works (isOpen d) d.queue (op.call d).result (arrivals added) ((op.call d).on d).queue

/-- The calls that check their values and then queue what they made. -/
theorem Op.comes_of_sendAll {op : Op} {d : Desk} (hcall : op.call d = sendAll d op.made)
    (hop : op ≠ .clear) (hbehind : op.isAlone = false) : op.Comes d := by
  rw [Comes, hcall]
  cases hmade : op.made with
  | error e => exact ⟨[], rfl, .refused (made_eq_error_iff.mp hmade)⟩
  | ok es =>
    have hhands : op.Hands es := (made_eq_ok_iff hop).mp hmade
    cases hlive : isOpen d with
    | false =>
      simp only [sendAll, hlive]
      exact ⟨[], rfl, .ignored rfl hhands⟩
    | true =>
      have hopen : d.accepting = true := by
        simp only [isOpen, Bool.and_eq_true] at hlive
        exact hlive.1
      simp only [sendAll, hlive, if_true, Call.on, acts_queue d hopen]
      refine ⟨(es.map .queued).reverse, rfl, ?_⟩
      rw [arrivals_queued]
      exact .appended rfl hbehind hhands

theorem queueEvent_eq_sendAll (d : Desk) (e : Event) :
    queueEvent d e false = sendAll d (.ok [e]) := by
  unfold queueEvent sendAll
  cases isOpen d <;> rfl

/-- No call does anything but what it should. -/
theorem Op.comes (op : Op) (d : Desk) : op.Comes d := by
  cases op with
  | keys | button | move | relative | wheel => exact comes_of_sendAll rfl (by simp) rfl
  | queue e alone =>
    cases alone with
    | false => exact comes_of_sendAll (queueEvent_eq_sendAll d e) (by simp) rfl
    | true =>
      rw [Comes, call]
      cases hlive : isOpen d with
      | false =>
        simp only [queueEvent, hlive]
        exact ⟨[], rfl, .ignored rfl (.queue e true)⟩
      | true =>
        have hopen : d.accepting = true := by
          simp only [isOpen, Bool.and_eq_true] at hlive
          exact hlive.1
        have hacts : d.acts [.clear, .queue e] =
            { d with queue := [e], journal := .queued e :: .cleared d.queue :: d.journal } := by
          simp [Desk.act, hopen, Desk.record]
        simp only [queueEvent, hlive, Bool.not_true, Bool.false_eq_true, if_false, if_true, Call.on,
          hacts]
        exact ⟨[.queued e, .cleared d.queue], rfl, .alone rfl rfl (.queue e true)⟩
  | clear => exact ⟨[.cleared d.queue], rfl, .cleared⟩

end Producer

/-! ## Calls and moves -/

/-- An act that only a call makes. -/
def Move.isCall : Move → Bool
  | .outside (.queue _) => true
  | .outside .clear => true
  | _ => false

/-- From now on no event reaches the worker: it is to end, or no more events come. -/
def Move.isShutting : Move → Bool
  | .outside .stop => true
  | .outside .closeQueue => true
  | _ => false

namespace Producer

/-- What happens between a producer, the worker and the others. -/
inductive Step where
  | call (op : Op)
  | move (m : Move)
  deriving Repr

/-- One step; none where the move does not fit, or belongs to a call. -/
def step? (setup : Setup) (c : Config) : Step → Option Config
  | .call op => some ⟨(op.call c.desk).on c.desk, c.point⟩
  | .move m => if m.isCall then none else Worker.step? setup c m

/-- Steps in their order; none if one of them does not fit. -/
def play (setup : Setup) (c : Config) : List Step → Option Config
  | [] => some c
  | s :: steps => (step? setup c s).bind (play setup · steps)

/-- What the calls answer. -/
def answers (setup : Setup) (c : Config) : List Step → List (Except EventError Unit)
  | [] => []
  | .call op :: steps =>
    (op.call c.desk).result :: answers setup ⟨(op.call c.desk).on c.desk, c.point⟩ steps
  | .move m :: steps =>
    match step? setup c (.move m) with
    | none => []
    | some c' => answers setup c' steps

/-- Steps, with the answers of the calls, as they go on a list of waiting events: a call does what
`Op.Works` says, and between the calls events are taken from the front only. -/
inductive OnList : Bool → List Event → List Step → List (Except EventError Unit) → Bool →
    List Event → Prop where
  | nil (live : Bool) (waiting : List Event) : OnList live waiting [] [] live waiting
  | call {live live' : Bool} {waiting came left waiting' : List Event} {op : Op}
      {answer : Except EventError Unit} {steps : List Step}
      {answers : List (Except EventError Unit)} (hworks : op.Works live waiting answer came left)
      (hrest : OnList live left steps answers live' waiting') :
      OnList live waiting (.call op :: steps) (answer :: answers) live' waiting'
  | move {live live' : Bool} {waiting left waiting' : List Event} {m : Move}
      {steps : List Step} {answers : List (Except EventError Unit)} (hleft : left <:+ waiting)
      (hrest : OnList (live && !m.isShutting) left steps answers live' waiting') :
      OnList live waiting (.move m :: steps) answers live' waiting'

variable {setup : Setup} {d : Desk} {c c' : Config} {steps : List Step}

/-- Only others shut the queue: the worker does so where it is shut already. -/
theorem isOpen_of_transition {p : Point} {m : Move}
    (h : Worker.Transition setup d p m c') : isOpen c'.desk = (isOpen d && !m.isShutting) := by
  have hsame {d' : Desk} {m : Move} (hstop : d'.stop = d.stop) (hopen : d'.accepting = d.accepting)
      (hm : m.isShutting = false) : isOpen d' = (isOpen d && !m.isShutting) := by
    simp [isOpen, hstop, hopen, hm]
  cases h with
  | others p a =>
    cases a with
    | stop | closeQueue => simp [isOpen, Desk.act, Move.isShutting]
    | _ => refine hsame ?_ ?_ rfl <;> simp [Desk.act, apply_ite Desk.stop, apply_ite Desk.accepting]
  | requestWent q j pd hturn | requestAnswered q j a pd hturn =>
    obtain ⟨hstop, -, -, hopen⟩ := hturn.frame
    rcases pd with ⟨_ | _, d'⟩ <;> exact hsame hstop hopen rfl
  | initialPulsed hit | linePulsed hit => exact hsame (by simp) (by simp) rfl
  | emptied | flushed => exact hsame (by simp) (by simp) rfl
  | queueClosed hqueue hclosed => simp [isOpen, Worker.leave, hclosed]
  | _ => exact hsame rfl rfl rfl

/-- Between calls events only leave, from the front. -/
theorem queue_of_traffic {p : Point} {m : Move} {d' : Desk} (hcall : m.isCall = false)
    (h : Worker.Traffic d p m d') : d'.queue <:+ d.queue := by
  cases h with
  | others p a => cases a <;> simp_all [Move.isCall, Desk.act, apply_ite Desk.queue]
  | routine p m d' hqueue => exact hqueue ▸ List.suffix_refl _
  | handed e es hqueue => exact hqueue ▸ List.suffix_cons e es
  | flushed | emptied => simp

theorem isCall_of_sendAll {made : Except EventError (List Event)} {a : Act}
    (h : a ∈ (sendAll d made).acts) : (Move.outside a).isCall = true := by
  cases made with
  | error e => cases h
  | ok es =>
    cases hlive : isOpen d with
    | false => simp [sendAll, hlive, nothing] at h
    | true =>
      simp only [sendAll, hlive, if_true, List.mem_map] at h
      obtain ⟨e, -, rfl⟩ := h
      rfl

theorem isCall_of_call {op : Op} {a : Act} (h : a ∈ (op.call d).acts) :
    (Move.outside a).isCall = true := by
  cases op with
  | keys | button | move | relative | wheel => exact isCall_of_sendAll h
  | queue e alone =>
    cases alone with
    | false =>
      rw [Op.call, queueEvent_eq_sendAll] at h
      exact isCall_of_sendAll h
    | true =>
      cases hlive : isOpen d with
      | false => simp [Op.call, queueEvent, hlive, nothing] at h
      | true =>
        simp [Op.call, queueEvent, hlive] at h
        rcases h with rfl | rfl <;> rfl
  | clear =>
    obtain rfl := List.mem_singleton.mp h
    rfl

/-- A call makes no difference to whether events still reach the worker. -/
theorem isOpen_call (op : Op) (d : Desk) : isOpen ((op.call d).on d) = isOpen d := by
  have hacts : ∀ (acts : List Act) (d : Desk), (∀ a ∈ acts, (Move.outside a).isCall = true) →
      isOpen (d.acts acts) = isOpen d := by
    intro acts
    induction acts with
    | nil => exact fun _ _ => rfl
    | cons a acts ih =>
      intro d hall
      obtain ⟨ha, hall⟩ := List.forall_mem_cons.mp hall
      rw [Desk.acts_cons, ih _ hall]
      cases a with
      | queue | clear => simp [isOpen, Desk.act, apply_ite Desk.stop, apply_ite Desk.accepting]
      | _ => cases ha
  exact hacts _ d fun a => isCall_of_call

theorem onList_of_play (hplay : play setup c steps = some c') :
    OnList (isOpen c.desk) c.desk.queue steps (answers setup c steps) (isOpen c'.desk)
      c'.desk.queue := by
  induction steps generalizing c with
  | nil =>
    cases hplay
    exact .nil _ _
  | cons s steps ih =>
    obtain ⟨c₁, hstep, hrest⟩ := Option.bind_eq_some_iff.mp hplay
    have hnext := ih hrest
    cases s with
    | call op =>
      cases hstep
      obtain ⟨added, -, hworks⟩ := op.comes c.desk
      rw [isOpen_call] at hnext
      exact .call hworks hnext
    | move m =>
      simp only [answers, hstep]
      cases hcall : m.isCall with
      | true => simp [step?, hcall] at hstep
      | false =>
        have hturn := Worker.transition_of_step? (by simpa [step?, hcall] using hstep)
        rw [isOpen_of_transition hturn] at hnext
        exact .move (queue_of_traffic hcall hturn.traffic) hnext

/-- Calls among the moves are a run in which others act. -/
theorem exists_run_of_play (hplay : play setup c steps = some c') :
    ∃ ms, Worker.run setup c ms = some c' := by
  induction steps generalizing c with
  | nil => exact ⟨[], hplay⟩
  | cons s steps ih =>
    obtain ⟨c₁, hstep, hrest⟩ := Option.bind_eq_some_iff.mp hplay
    obtain ⟨ms, hrun⟩ := ih hrest
    cases s with
    | call op =>
      cases hstep
      have hcall := Worker.run_outside setup c (op.call c.desk).acts
      exact ⟨_, (Worker.run_append hcall ms).1.trans hrun⟩
    | move m =>
      cases hcall : m.isCall with
      | true => simp [step?, hcall] at hstep
      | false =>
        have hmove : Worker.step? setup c m = some c₁ := by simpa [step?, hcall] using hstep
        exact ⟨m :: ms, by simp [Worker.run, hmove, hrun]⟩

theorem play_append {early late : List Step} (hplay : play setup c (early ++ late) = some c') :
    ∃ c₁, play setup c early = some c₁ ∧ play setup c₁ late = some c' := by
  induction early generalizing c with
  | nil => exact ⟨c, rfl, hplay⟩
  | cons s early ih =>
    obtain ⟨c₂, hstep, hrest⟩ := Option.bind_eq_some_iff.mp hplay
    obtain ⟨c₁, hearly, hlate⟩ := ih hrest
    exact ⟨c₁, by simp [play, hstep, hearly], hlate⟩

/-- **Calls work on a list.** Whatever calls a producer makes, between whatever moves of the worker
and of others: each call does to the list of the waiting events what `Op.Works` says of it, and
between the calls events are taken from the front only. And no event that waited when the list was
cleared is handed over later: what is handed over from then on, and what still waits in the end, is
of what came after. -/
theorem calls_work_on_list (setup : Setup) (d : Desk) (steps : List Step) (c : Config)
    (hplay : play setup (Worker.initial d) steps = some c) :
    OnList (isOpen d) d.queue steps (answers setup (Worker.initial d) steps) (isOpen c.desk)
      c.desk.queue ∧
    ∀ early late, steps = early ++ .call .clear :: late →
      ∃ c₁ added, play setup (Worker.initial d) (early ++ [.call .clear]) = some c₁ ∧
        c.desk.journal = added ++ c₁.desk.journal ∧
        (handedOver added ++ c.desk.queue).Sublist (arrivals added) := by
  refine ⟨onList_of_play hplay, ?_⟩
  rintro early late rfl
  have hcut : play setup (Worker.initial d) ((early ++ [.call .clear]) ++ late) = some c := by
    simpa using hplay
  obtain ⟨c₁, hearly, hlate⟩ := play_append hcut
  obtain ⟨ms, hrun⟩ := exists_run_of_play hlate
  obtain ⟨added, hadded, hconveyed⟩ := Worker.conveyed_of_run hrun
  refine ⟨c₁, added, hearly, hadded, ?_⟩
  have hempty : c₁.desk.queue = [] := by
    obtain ⟨c₂, -, hclear⟩ := play_append hearly
    cases hclear
    rfl
  simpa [Worker.Conveyed, hempty] using hconveyed

/-- Calls before and after the stop, some of them with a bad value. -/
def mixedCalls : List Step :=
  [.call (.keys [("KeyA", true), ("KeyB", true)]), .move .proceed,
    .call (.keys [("KeyA", false), ("Moon", true)]), .call (.relative (-128) 0),
    .call (.queue (.wheel 0 1) true), .call .clear, .call (.wheel 0 2), .move (.outside .stop),
    .call (.queue (.wheel 0 3) true), .call (.button "left" true), .call (.button "up" true)]

example :
    (play ⟨{}, false, 1⟩ (Worker.initial .initial) mixedCalls).map (·.desk.queue) =
      some [.wheel 0 2] := by
  decide

theorem calls_work_on_list_mixed :
    ∃ c, play ⟨{}, false, 1⟩ (Worker.initial .initial) mixedCalls = some c ∧
      OnList true [] mixedCalls (answers ⟨{}, false, 1⟩ (Worker.initial .initial) mixedCalls)
        (isOpen c.desk) c.desk.queue ∧
      ∀ early late, mixedCalls = early ++ .call .clear :: late →
        ∃ c₁ added, play ⟨{}, false, 1⟩ (Worker.initial .initial) (early ++ [.call .clear]) =
            some c₁ ∧
          c.desk.journal = added ++ c₁.desk.journal ∧
          (handedOver added ++ c.desk.queue).Sublist (arrivals added) := by
  obtain ⟨c, hplay⟩ : ∃ c, play ⟨{}, false, 1⟩ (Worker.initial .initial) mixedCalls = some c :=
    Option.isSome_iff_exists.mp (by decide)
  exact ⟨c, hplay, calls_work_on_list ⟨{}, false, 1⟩ .initial mixedCalls c hplay⟩

end Producer

end SerialHid
