/-
SerialHid.Proofs.Due — the frames of events, from the queue to the wire.

* `Job.Course` — what a step of a request sends, and how the request goes on; `Job.Turn.course`
  says that there is nothing else.
* `eventFrames` — the frames of events among the things that were done.
* `Config.due` — the frames that are still to be sent: of the event in hand, and of those that
  wait. `Config.frames` puts them behind the frames that were sent.
* `Worker.Handover` — what a step does to that list, by `Transition.handover`: it stays as it is
  when a frame goes out, grows when an event is queued, and loses what is given up.
-/
import SerialHid.Proofs.Reset

namespace SerialHid

/-! ## Requests -/

namespace Job

/-- What a step of a request sends, and how the request goes on. -/
inductive Course (settings : Settings) (j : Job) (d : Desk) : Progress × Desk → Prop where
  /-- The request goes out; not again, if the worker is to end. -/
  | goesOut (first : Bool) (d' : Desk) (hstage : j.stage = .ready first)
      (hgo : first = true ∨ d.stop = false) (hdeeds : d'.deeds = d.deeds ++ [.sent j.request]) :
      Course settings j d (.underway { j with stage := .asked }, d')
  /-- The probe goes out. -/
  | probes (f : Failure) (d' : Desk) (hstage : j.stage = .asked)
      (hdeeds : d'.deeds = d.deeds ++ [.sent getInfoFrame.bytes]) :
      Course settings j d (.underway { j with stage := .probing f }, d')
  /-- The attempt failed, and another one may follow. -/
  | fails (f : Failure) (d' : Desk) (hstage : j.stage = .asked ∨ j.stage = .probing f)
      (hdeeds : d'.deeds = d.deeds) : Course settings j d (.underway (j.charge f), d')
  /-- The request is over; one that was never sent had no budget, or is only pretended. -/
  | returns (ok : Bool) (d' : Desk) (hdeeds : d'.deeds = d.deeds)
      (hunsent : j.stage = .ready true → j.exhausted = true ∨ settings.noop = true) :
      Course settings j d (.returned ok, d')

variable {settings : Settings} {j : Job} {d d' : Desk} {i : Input} {pd : Progress × Desk}

theorem Course.of_fail {f : Failure} (hstage : j.stage = .asked ∨ j.stage = .probing f)
    (hdeeds : d'.deeds = d.deeds) : Course settings j d (j.fail f d') := by
  have hsame : (j.fail f d').2.deeds = d.deeds := (deeds_fail j f d').trans hdeeds
  have hfst := fail_fst j f d'
  rcases hfail : j.fail f d' with ⟨progress, d''⟩
  rw [hfail] at hsame hfst
  cases hpermanent : f.isPermanent with
  | true =>
    obtain rfl : progress = .returned false := by simpa [hpermanent] using hfst
    refine .returns false d'' hsame fun hready => ?_
    rcases hstage with hstage | hstage <;> exact Stage.noConfusion (hready.symm.trans hstage)
  | false =>
    obtain rfl : progress = .underway (j.charge f) := by simpa [hpermanent] using hfst
    exact .fails f d'' hstage hsame

theorem Turn.stage_of_answer {a : Answer} (h : Turn settings j d (.answer a) pd) (first : Bool) :
    j.stage ≠ .ready first := by
  intro hready
  cases h with
  | settled _ hstage | status _ _ hstage | garbled _ _ hstage | failed _ _ hstage
  | resumed _ _ hstage => cases hready.symm.trans hstage

/-- Every step does one of these things. -/
theorem Turn.course (h : Turn settings j d i pd) : Course settings j d pd := by
  have hover {ok : Bool} {d' : Desk} (hdeeds : d'.deeds = d.deeds)
      (hunsent : j.stage = .ready true → j.exhausted = true ∨ settings.noop = true) :
      Course settings j d (j.finish ok d') :=
    .returns ok _ ((deeds_finish j ok d').trans hdeeds) hunsent
  cases h with
  | exhausted first hstage hspent => exact hover rfl fun _ => .inl hspent
  | abandoned hstage hleft hstop =>
    refine hover (by simp [Entry.deed?]) fun hready => ?_
    cases hready.symm.trans hstage
  | pretended first hstage hleft hnoop =>
    exact hover (by simp [Entry.deed?]) fun _ => .inr hnoop
  | sent first hstage hleft hgo hnoop => exact .goesOut first _ hstage hgo (by simp [Entry.deed?])
  | settled a hstage hjudge =>
    refine hover (deeds_tell j a d) fun hready => ?_
    cases hready.symm.trans hstage
  | status a s hstage hjudge =>
    refine hover (by simp [Entry.deed?]) fun hready => ?_
    cases hready.symm.trans hstage
  | garbled a f hstage hjudge hgarbled => exact .probes f _ hstage (by simp [Entry.deed?])
  | failed a f hstage hjudge hformed => exact .of_fail (.inl hstage) (deeds_tell j a d)
  | resumed a f hstage =>
    cases a with
    | ok _ => exact .of_fail (.inr hstage) rfl
    | error e => exact .of_fail (.inr hstage) (by simp [Entry.deed?])

end Job

/-! ## Frames -/

/-- The frame of an event that goes out: what is sent and is neither the request for the status
nor the chip's own reset. -/
def Deed.eventFrame? : Deed → Option (List UInt8)
  | .sent r => if r = getInfoFrame.bytes ∨ r = resetFrame.bytes then none else some r
  | _ => none

/-- The frames of events among the things that were done. -/
def eventFrames (w : List Deed) : List (List UInt8) := w.filterMap Deed.eventFrame?

/-- The event that has left the queue and was not sent yet. -/
def Point.inHand : Point → List Event
  | .session (.request (.event e) j) => if j.stage = .ready true then [e] else []
  | _ => []

/-- The frames that are still to be sent, the next one first. -/
def Config.due (c : Config) : List (List UInt8) :=
  (c.point.inHand ++ c.desk.queue).map (·.frame.bytes)

/-- The frames of events that were sent, and behind them those that are due. -/
def Config.frames (c : Config) : List (List UInt8) := eventFrames c.desk.deeds ++ c.due

/-- The event that joins the queue. -/
def accepted? : Config × Move → Option Event
  | (c, .outside (.queue e)) => if c.desk.accepting then some e else none
  | _ => none

/-- The events that joined the queue in the steps of a run. -/
def accepted (steps : List (Config × Move)) : List Event := steps.filterMap accepted?

@[simp] theorem eventFrames_append (v w : List Deed) :
    eventFrames (v ++ w) = eventFrames v ++ eventFrames w :=
  List.filterMap_append

@[simp] theorem eventFrames_getInfo : eventFrames [.sent getInfoFrame.bytes] = [] := by
  simp [eventFrames, Deed.eventFrame?]

theorem eventFrames_event (e : Event) : eventFrames [.sent e.frame.bytes] = [e.frame.bytes] := by
  have hinfo : e.frame.bytes ≠ getInfoFrame.bytes := e.bytes_ne (by decide)
  have hreset : e.frame.bytes ≠ resetFrame.bytes := e.bytes_ne (by decide)
  simp [eventFrames, Deed.eventFrame?, hinfo, hreset]

/-- What a request sends of its own is the frame of the event that it is made for. -/
theorem eventFrames_request {q : Purpose} {j : Job} (hstage : j.stage = .ready true) :
    eventFrames [.sent q.request] =
      (Point.session (.request q j)).inHand.map (·.frame.bytes) := by
  cases q with
  | event e =>
    rw [Purpose.request, eventFrames_event]
    simp [Point.inHand, hstage]
  | _ => simp [Point.inHand, eventFrames, Deed.eventFrame?, Purpose.request]

theorem Point.inHand_request {q : Purpose} {j : Job} (hstage : j.stage ≠ .ready true) :
    (Point.session (.request q j)).inHand = [] := by
  cases q <;> simp [inHand, hstage]

theorem Point.inHand_afterRequest (q : Purpose) (ok : Bool) :
    (Point.session (Worker.afterRequest q ok)).inHand = [] := by
  cases q <;> cases ok <;> rfl

namespace Worker

variable {setup : Setup} {d : Desk} {p : Point} {m : Move} {c c' : Config}

/-- The bytes of the request under way are those that its purpose asks for. -/
def Faithful (p : Point) : Prop := ∀ q j, p = .session (.request q j) → j.request = q.request

theorem InPasses.faithful {w : List Deed} (h : InPasses setup w p) : Faithful p := by
  rintro q j rfl
  obtain ⟨passes, current, -, -, n, -, body, -, s, v, -, -, -, hj⟩ := h
  exact hj

/-- Where frames that are due are given up. -/
inductive GivesUp (setup : Setup) : Point → Move → Prop where
  /-- Others throw away what waits. -/
  | cleared (p : Point) : GivesUp setup p (.outside .clear)
  /-- An event failed. -/
  | flushed : GivesUp setup (.session .flushing) .proceed
  /-- There was a fault. -/
  | faulted (f : Fault) : GivesUp setup (.faulted f) .proceed
  /-- There is no budget, or the request is only pretended. -/
  | unsent (q : Purpose) (j : Job) (h : j.exhausted = true ∨ setup.settings.noop = true) :
      GivesUp setup (.session (.request q j)) .proceed

/-- What a step does to the frames that were sent or are due. -/
inductive Handover (setup : Setup) (d : Desk) : Point → Move → Config → Prop where
  /-- They stay what they are, though one may go out. -/
  | kept (p : Point) (m : Move) (c' : Config) (hnone : accepted? (⟨d, p⟩, m) = none)
      (h : c'.frames = Config.frames ⟨d, p⟩) : Handover setup d p m c'
  /-- An event joins the queue. -/
  | queued (p : Point) (e : Event) (hopen : d.accepting = true) :
      Handover setup d p (.outside (.queue e)) ⟨d.act (.queue e), p⟩
  /-- Some are given up. -/
  | lost (p : Point) (m : Move) (c' : Config) (h : c'.frames.Sublist (Config.frames ⟨d, p⟩))
      (hcause : GivesUp setup p m) : Handover setup d p m c'
  /-- One goes out once more; it does not, if the worker is to end. -/
  | resent (q : Purpose) (j : Job) (c' : Config) (hstage : j.stage = .ready false)
      (hstop : d.stop = false) : Handover setup d (.session (.request q j)) .proceed c'

/-- No frame goes out. -/
theorem Handover.quiet (hnone : accepted? (⟨d, p⟩, m) = none)
    (hquiet : eventFrames c'.desk.deeds = eventFrames d.deeds)
    (hsame : c'.point.inHand ++ c'.desk.queue = p.inHand ++ d.queue) :
    Handover setup d p m c' := by
  refine .kept _ _ _ hnone ?_
  rw [Config.frames, Config.frames, Config.due, Config.due, hquiet, hsame]

/-- No frame goes out, and not all of them remain due. -/
theorem Handover.dropped (hcause : GivesUp setup p m)
    (hquiet : eventFrames c'.desk.deeds = eventFrames d.deeds)
    (hless : (c'.point.inHand ++ c'.desk.queue).Sublist (p.inHand ++ d.queue)) :
    Handover setup d p m c' := by
  refine .lost _ _ _ ?_ hcause
  rw [Config.frames, Config.frames, Config.due, Config.due, hquiet]
  exact (hless.map _).append_left _

theorem Handover.act (a : Act) : Handover setup d p (.outside a) ⟨d.act a, p⟩ := by
  have hdeeds : eventFrames (d.act a).deeds = eventFrames d.deeds := by rw [d.deeds_act a]
  have hquiet (hnone : accepted? (⟨d, p⟩, .outside a) = none)
      (hqueue : (d.act a).queue = d.queue) : Handover setup d p (.outside a) ⟨d.act a, p⟩ :=
    .quiet hnone hdeeds (congrArg _ hqueue)
  cases a with
  | queue e =>
    cases hopen : d.accepting with
    | true => exact .queued p e hopen
    | false => exact hquiet (by simp [accepted?, hopen]) (by simp [Desk.act, hopen])
  | clear =>
    refine .dropped (.cleared p) hdeeds ?_
    exact (List.nil_sublist d.queue).append_left p.inHand
  | askReset => exact hquiet rfl (by simp [Desk.act, apply_ite Desk.queue])
  | stop | closeQueue | publish => exact hquiet rfl rfl

theorem Handover.follow {q : Purpose} {j : Job} {i : Job.Input} {pd : Progress × Desk}
    (hrequest : j.request = q.request) (hturn : Job.Turn setup.settings j d i pd)
    (hnone : accepted? (⟨d, .session (.request q j)⟩, m) = none)
    (hm : ∀ first, j.stage = .ready first → m = .proceed) :
    Handover setup d (.session (.request q j)) m (follow q pd) := by
  obtain ⟨-, -, hqueue, -⟩ := hturn.frame
  have hsame (hhand : (Worker.follow q pd).point.inHand = (Point.session (.request q j)).inHand) :
      (Worker.follow q pd).point.inHand ++ (Worker.follow q pd).desk.queue =
        (Point.session (.request q j)).inHand ++ d.queue := by
    have hwaiting : (Worker.follow q pd).desk.queue = d.queue := by
      rcases pd with ⟨progress, d'⟩
      cases progress <;> exact hqueue
    rw [hhand, hwaiting]
  cases hturn.course with
  | goesOut first d' hstage hgo hdeeds =>
    cases first with
    | true =>
      have hsent : eventFrames [.sent j.request] =
          (Point.session (.request q j)).inHand.map (·.frame.bytes) :=
        hrequest ▸ eventFrames_request hstage
      have hafter : (Point.session (.request q { j with stage := .asked })).inHand = [] :=
        Point.inHand_request Stage.noConfusion
      have hwaiting : d'.queue = d.queue := hqueue
      refine .kept _ _ _ hnone ?_
      simp only [Worker.follow, Config.frames, Config.due, hdeeds, eventFrames_append, hsent,
        hafter, hwaiting, List.nil_append, List.map_append, List.append_assoc]
    | false =>
      obtain rfl := hm false hstage
      exact .resent q j _ hstage (hgo.resolve_left Bool.noConfusion)
  | probes f d' hstage hdeeds =>
    refine .quiet hnone (by simp [Worker.follow, hdeeds]) (hsame ?_)
    rw [Worker.follow, Point.inHand_request Stage.noConfusion, Point.inHand_request]
    simp [hstage]
  | fails f d' hstage hdeeds =>
    refine .quiet hnone (by simp [Worker.follow, hdeeds]) (hsame ?_)
    rw [Worker.follow, Point.inHand_request (by simp [Job.charge]), Point.inHand_request]
    rcases hstage with hstage | hstage <;> simp [hstage]
  | returns ok d' hdeeds hunsent =>
    have hreturned : eventFrames (d'.record (.returned q ok d'.state)).deeds =
        eventFrames d.deeds := by
      simp [hdeeds, eventFrames, Entry.deed?, Deed.eventFrame?]
    by_cases hstage : j.stage = .ready true
    · obtain rfl := hm true hstage
      refine .dropped (.unsent q j (hunsent hstage)) hreturned ?_
      have hwaiting : d'.queue = d.queue := hqueue
      simp [Worker.follow, Point.inHand_afterRequest, hwaiting]
    · refine .quiet hnone hreturned (hsame ?_)
      rw [Worker.follow, Point.inHand_afterRequest, Point.inHand_request hstage]

/-- Every step does one of these things to them. -/
theorem Transition.handover (hfaithful : Faithful p) (h : Transition setup d p m c') :
    Handover setup d p m c' := by
  have hidle {c' : Config} (hnone : accepted? (⟨d, p⟩, m) = none)
      (hquiet : eventFrames c'.desk.deeds = eventFrames d.deeds)
      (hhand : c'.point.inHand = p.inHand) (hqueue : c'.desk.queue = d.queue) :
      Handover setup d p m c' := .quiet hnone hquiet (by rw [hhand, hqueue])
  cases h with
  | others p a => exact .act a
  | requestWent q j pd hturn => exact .follow (hfaithful q j rfl) hturn rfl fun _ _ => rfl
  | requestAnswered q j a pd hturn =>
    exact .follow (hfaithful q j rfl) hturn rfl fun first hstage =>
      absurd hstage (hturn.stage_of_answer first)
  | crashed q j message request hpending =>
    refine hidle rfl (by simp [eventFrames, Entry.deed?, Deed.eventFrame?]) ?_ rfl
    refine (Point.inHand_request fun hready => ?_).symm
    simp [Job.pending?, hready] at hpending
  | emptied f =>
    refine .dropped (.faulted f) (by simp) ?_
    simp [Point.inHand]
  | flushed =>
    refine .dropped .flushed (by simp) ?_
    simp [Point.inHand]
  | received e es hqueue =>
    refine .quiet rfl ?_ (by simp [begin, Point.inHand, Job.start, hqueue])
    rw [deeds_begin, eventFrames_append]
    exact List.append_nil _
  | waited left | headed =>
    refine hidle rfl rfl ?_ rfl
    cases d.stop <;> rfl
  | initialPulsed hit | linePulsed hit =>
    refine hidle rfl (by simp) rfl ?_
    cases hit <;> rfl
  | queueClosed hqueue hclosed =>
    refine hidle rfl ?_ rfl rfl
    rw [deeds_queueClosed, eventFrames_append]
    exact List.append_nil _
  | resetEnded =>
    refine hidle rfl ?_ rfl rfl
    rw [Desk.deeds_record, eventFrames_append]
    exact List.append_nil _
  | _ => exact hidle rfl (by simp [eventFrames, Entry.deed?, Deed.eventFrame?]) rfl rfl

end Worker

end SerialHid
