/-
SerialHid.Proofs.Deeds — what the worker does with the device, as it can be told from the journal.

* `Deed` — one dealing of the worker: a pulse, a look, the opening and the end of a connection, the
  beginning of a request, what goes out for it, and its end, the two ends of a reset, a fault.
* `Desk.deeds` — all of them, the earliest first; the lemmas beside it say what each operation on
  the desk adds.
* `Job.Turn.deeds` — a step of a request sends at most one thing: the request, or the probe.
* `track` — a flag carried along a list of deeds.
* `Placed` — what stands around a deed wherever it occurs; `Placed.append`, `Placed.flatten` put
  lists of deeds together.
-/
import Mathlib.Data.List.Basic
import SerialHid.Proofs.Job
import SerialHid.Worker

namespace SerialHid

/-- One dealing of the worker. -/
inductive Deed where
  /-- The reset line is pulsed. -/
  | pulsed
  /-- The device is looked for. -/
  | looked (present : Bool)
  /-- The transport is opened, or cannot be. -/
  | opened (ok : Bool)
  /-- The worker turns to a request. -/
  | began (p : Purpose)
  /-- Bytes go out. -/
  | sent (request : List UInt8)
  /-- The request is over. -/
  | returned (p : Purpose) (ok : Bool)
  /-- The connection is closed. -/
  | closed
  /-- The worker turns to a reset that was asked for. -/
  | resetBegan
  /-- That reset is over. -/
  | resetDone
  /-- A fault is told. -/
  | fault (f : Fault)
  deriving DecidableEq, Repr

/-- The dealing that an entry is about. -/
def Entry.deed? : Entry → Option Deed
  | .pulsed _ => some .pulsed
  | .looked present _ => some (.looked present)
  | .opened ok _ => some (.opened ok)
  | .began p => some (.began p)
  | .sent request _ _ => some (.sent request)
  | .returned p ok _ => some (.returned p ok)
  | .closed _ => some .closed
  | .resetBegan => some .resetBegan
  | .resetDone => some .resetDone
  | .notice (.fault f) => some (.fault f)
  | _ => none

namespace Desk

/-- The dealings of the worker, the earliest first. -/
def deeds (d : Desk) : List Deed := d.journal.reverse.filterMap Entry.deed?

@[simp] theorem deeds_record (d : Desk) (e : Entry) :
    (d.record e).deeds = d.deeds ++ e.deed?.toList := by
  cases h : e.deed? <;> simp [deeds, h]

@[simp] theorem deeds_write (d : Desk) (change : DeviceState → DeviceState) :
    (d.write change).deeds = d.deeds := rfl

theorem deeds_of_journal {d d' : Desk} {added : List Entry}
    (hadded : d'.journal = added ++ d.journal) (hquiet : ∀ e ∈ added, e.deed? = none) :
    d'.deeds = d.deeds := by
  have hnone : added.reverse.filterMap Entry.deed? = [] := by
    rw [List.filterMap_eq_nil_iff]
    intro e he
    exact hquiet e (List.mem_reverse.mp he)
  simp [deeds, hadded, hnone]

@[simp] theorem deeds_notes_attemptFailed (d : Desk) (fs : List Failure) :
    (d.notes (fs.map .attemptFailed)).deeds = d.deeds := by
  refine deeds_of_journal (d.notes_fields _).2.2.2.2.2 ?_
  intro e he
  simp only [List.mem_reverse, List.mem_map] at he
  obtain ⟨n, ⟨f, -, rfl⟩, rfl⟩ := he
  rfl

@[simp] theorem deeds_discard (d : Desk) : d.discard.deeds = d.deeds := by
  have hjournal : d.discard.journal = (d.discardNotices ++ [.discarded d.queue]) ++ d.journal := by
    simp
  refine deeds_of_journal hjournal ?_
  intro e he
  rcases List.mem_append.mp he with he | he
  · unfold discardNotices at he
    split at he
    · cases he
    · obtain rfl := List.mem_singleton.mp he
      rfl
  · obtain rfl := List.mem_singleton.mp he
    rfl

@[simp] theorem deeds_act (d : Desk) (a : Act) : (d.act a).deeds = d.deeds := by
  refine (d.adds_act a).filterMap_eq fun e he => ?_
  cases e <;> first | rfl | cases he

@[simp] theorem deeds_acts (d : Desk) (as : List Act) : (d.acts as).deeds = d.deeds := by
  refine (d.adds_acts as).filterMap_eq fun e he => ?_
  cases e <;> first | rfl | cases he

end Desk

/-! ## Requests -/

namespace Job

variable {settings : Settings} {j : Job} {d : Desk} {i : Input} {pd : Progress × Desk}

@[simp] theorem deeds_tell (j : Job) (a : Answer) (d : Desk) : (j.tell a d).deeds = d.deeds := by
  rcases tell_eq j a d with h | ⟨n, h⟩
  · rw [h]
  · cases a <;> simp [tell, Entry.deed?]

@[simp] theorem deeds_finish (j : Job) (ok : Bool) (d : Desk) :
    (j.finish ok d).2.deeds = d.deeds := by
  unfold finish
  cases j.exhausted <;> simp [Entry.deed?]

@[simp] theorem deeds_fail (j : Job) (f : Failure) (d : Desk) :
    (j.fail f d).2.deeds = d.deeds := by
  unfold fail
  cases f.isPermanent <;> simp [Entry.deed?]

@[simp] theorem deeds_resume (j : Job) (f : Failure) (a : Answer) (d : Desk) :
    (j.resume f a d).2.deeds = d.deeds := by
  cases a <;> simp [resume, Entry.deed?]

/-- What a request sends. -/
def Sends (j : Job) (r : List UInt8) : Prop := r = j.request ∨ r = getInfoFrame.bytes

/-- A step of a request that goes on sends the request, the probe or nothing; one that ends it
sends nothing. -/
theorem Turn.deeds (h : Turn settings j d i pd) :
    (∃ j', pd.1 = .underway j' ∧ j'.request = j.request ∧
      (pd.2.deeds = d.deeds ∨ ∃ r, j.Sends r ∧ pd.2.deeds = d.deeds ++ [.sent r])) ∨
    ∃ ok, pd.1 = .returned ok ∧ pd.2.deeds = d.deeds := by
  have hfail : ∀ f d', (j.fail f d').1 = .underway (j.charge f) ∨
      (j.fail f d').1 = .returned false := by
    intro f d'
    cases hf : f.isPermanent <;> simp [hf]
  cases h with
  | exhausted | settled => exact .inr ⟨_, rfl, by simp⟩
  | abandoned | pretended | status => exact .inr ⟨_, rfl, by simp [Entry.deed?]⟩
  | sent =>
    refine .inl ⟨_, rfl, rfl, .inr ⟨j.request, .inl rfl, ?_⟩⟩
    simp [Entry.deed?]
  | garbled a =>
    refine .inl ⟨_, rfl, rfl, .inr ⟨getInfoFrame.bytes, .inr rfl, ?_⟩⟩
    simp [Entry.deed?]
  | failed a f =>
    rcases hfail f (j.tell a d) with hpd | hpd
    · exact .inl ⟨j.charge f, hpd, rfl, .inl (by simp)⟩
    · exact .inr ⟨false, hpd, by simp⟩
  | resumed a f =>
    have hpd : ∃ d', j.resume f a d = j.fail f d' := by
      rcases resume_eq j f a d with heq | ⟨n, heq⟩ <;> exact ⟨_, heq⟩
    obtain ⟨d', hpd⟩ := hpd
    rcases hfail f d' with hfst | hfst
    · exact .inl ⟨j.charge f, by rw [hpd, hfst], rfl, .inl (by simp)⟩
    · exact .inr ⟨false, by rw [hpd, hfst], by simp⟩

end Job

/-! ## The worker -/

namespace Worker

@[simp] theorem deeds_begin (setup : Setup) (p : Purpose) (d : Desk) :
    (begin setup p d).desk.deeds = d.deeds ++ [.began p] := by
  simp [begin, Entry.deed?]

@[simp] theorem deeds_leave (d : Desk) : (leave d).desk.deeds = d.deeds ++ [.closed] := by
  simp [leave, Entry.deed?]

@[simp] theorem deeds_queueClosed (d : Desk) :
    (leave { d.note .queueClosed with stop := true }).desk.deeds = d.deeds ++ [.closed] := by
  have hnoted : (d.note .queueClosed).deeds = d.deeds := by simp [Entry.deed?]
  rw [deeds_leave, ← hnoted]
  rfl

@[simp] theorem deeds_tellPulse (p : Pulse) (d : Desk) : (tellPulse p d).deeds = d.deeds := by
  cases p <;> simp [tellPulse, Entry.deed?]

end Worker

/-! ## Flags -/

/-- A flag that is carried along the deeds; none where a deed is out of place. -/
def track (next : Bool → Deed → Option Bool) (b : Bool) (w : List Deed) : Option Bool :=
  w.foldlM next b

section Track

variable {next : Bool → Deed → Option Bool} {b b' : Bool} {v w : List Deed}

@[simp] theorem track_nil : track next b [] = some b := rfl

@[simp] theorem track_cons (x : Deed) :
    track next b (x :: w) = (next b x).bind (track next · w) := rfl

@[simp] theorem track_append : track next b (v ++ w) = (track next b v).bind (track next · w) :=
  List.foldlM_append

/-- What holds of a list holds of its beginning. -/
theorem exists_track_of_append (h : track next b (v ++ w) = some b') :
    ∃ b₁, track next b v = some b₁ ∧ track next b₁ w = some b' :=
  Option.bind_eq_some_iff.mp (track_append ▸ h)

theorem track_flatten {vs : List (List Deed)} (h : ∀ v ∈ vs, track next b v = some b) :
    track next b vs.flatten = some b := by
  induction vs with
  | nil => rfl
  | cons v vs ih =>
    rw [List.flatten_cons, track_append, h v (by simp)]
    exact ih fun v' hv' => h v' (by simp [hv'])

end Track

/-! ## What stands around a deed -/

/-- Wherever the deed occurs, `F` holds of what comes before and of what comes after. -/
def Placed (x : Deed) (F : List Deed → List Deed → Prop) (w : List Deed) : Prop :=
  ∀ before after, w = before ++ x :: after → F before after

/-- What holds in a part holds in the whole. -/
def Extends (F : List Deed → List Deed → Prop) : Prop :=
  ∀ before after b a, F before after → F (b ++ before) (after ++ a)

section Placed

variable {x : Deed} {F : List Deed → List Deed → Prop} {v w : List Deed}

theorem Placed.of_notMem (h : x ∉ w) : Placed x F w := by
  rintro before after rfl
  exact absurd (by simp) h

/-- The only place where the deed occurs is known. -/
theorem Placed.single (hv : x ∉ v) (hw : x ∉ w) (hF : F v w) : Placed x F (v ++ x :: w) := by
  intro before after heq
  obtain ⟨rfl, -, rfl⟩ := (List.append_cons_inj_of_notMem hv hw).mp heq
  exact hF

theorem Placed.append (hF : Extends F) (hv : Placed x F v) (hw : Placed x F w) :
    Placed x F (v ++ w) := by
  intro before after heq
  obtain ⟨as, rfl, hw'⟩ | ⟨bs, rfl, hbs⟩ := List.append_eq_append_iff.mp heq
  · have hpart := hF _ _ v [] (hw as after hw')
    rwa [List.append_nil] at hpart
  · cases bs with
    | nil =>
      have hpart := hF _ _ before [] (hw [] after hbs.symm)
      simpa using hpart
    | cons y bs =>
      obtain ⟨rfl, rfl⟩ := List.cons_eq_cons.mp hbs
      exact hF _ _ [] w (hv before bs rfl)

theorem Placed.flatten {vs : List (List Deed)} (hF : Extends F) (h : ∀ v ∈ vs, Placed x F v) :
    Placed x F vs.flatten := by
  induction vs with
  | nil => exact .of_notMem (by simp)
  | cons v vs ih =>
    rw [List.flatten_cons]
    exact (h v (by simp)).append hF (ih fun v' hv' => h v' (by simp [hv']))

end Placed

end SerialHid
