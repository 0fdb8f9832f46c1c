/-
SerialHid.Proofs.Board — who follows the published state is told what its values tell.

* `Follower.Sound` — what a call that is left waiting relies on: if its version is the current one,
  it was told the current state.
* `Follower.next_refines` — a call of a follower, which goes by versions, is a look of a poller,
  which goes by values.
* `Broadcast.boardOf`, `Broadcast.joined` — the board and the number of followers after a history,
  read off its steps; calls mean nothing for them.
* `Broadcast.found`, `Broadcast.told` — what the next call of a follower finds, and what its calls
  told it so far.
* `Broadcast.found_eq` — the one is a function of the other and of the board.
* `Broadcast.followers_told` — what follows from that for every history.
-/
import Mathlib.Data.List.Chain
import SerialHid.Board

namespace SerialHid

/-! ## One call -/

namespace Follower

variable {f : Follower} {cell : Watch DeviceState}

theorem await_of_seen (h : f.seen = cell.version) :
    f.await cell =
      if cell.live then (.pending, { f with waiting := f.patient })
      else (.ended, { f with waiting := false }) := by
  have hchanged : cell.changed f.seen = if cell.live then .unchanged else .closed := by
    rw [Watch.changed, if_neg]
    simpa using h
  rw [await]
  cases hlive : cell.live with
  | true =>
    rw [hlive] at hchanged
    split <;> simp_all
  | false =>
    rw [hlive] at hchanged
    split <;> simp_all

theorem await_of_unseen (h : f.seen ≠ cell.version) :
    f.await cell = { f with seen := cell.version }.look cell := by
  have hchanged : cell.changed f.seen = .newer cell.version := by rw [Watch.changed, if_pos h]
  rw [await]
  split <;> simp_all

/-- The state that the follower was not told last. -/
theorem look_of_new (h : f.last ≠ some cell.value) :
    f.look cell = (.state cell.value,
      { f with seen := cell.version, last := some cell.value, waiting := false }) := by
  rw [look, if_pos h]

/-- The state that it was told last. The version just looked at has been seen. -/
theorem look_of_told (h : f.last = some cell.value) :
    f.look cell =
      if cell.live then (.pending, { f with seen := cell.version, waiting := f.patient })
      else (.ended, { f with seen := cell.version, waiting := false }) := by
  rw [look, if_neg (not_not_intro h)]
  exact await_of_seen rfl

/-- What a call that is left waiting relies on. -/
def Sound (cell : Watch DeviceState) (f : Follower) : Prop :=
  f.waiting = true →
    f.seen ≤ cell.version ∧ (f.seen = cell.version → f.last = some cell.value)

/-- What a poller finds that was told the same, and what it was told last then. -/
def asPoller (f : Follower) (cell : Watch DeviceState) : Poll × Poller :=
  (Poller.mk f.last).next ⟨cell.value, cell.live⟩

theorem look_refines (f : Follower) (cell : Watch DeviceState) :
    (f.look cell).1 = (f.asPoller cell).1 ∧ (f.look cell).2.last = (f.asPoller cell).2.last ∧
      (f.look cell).2.Sound cell := by
  unfold asPoller Poller.next Sound
  by_cases h : f.last = some cell.value
  · rw [look_of_told h]
    cases cell.live <;> simp [h]
  · rw [look_of_new h]
    simp [h]

/-- A call goes by the values alone. -/
theorem next_refines (h : f.Sound cell) :
    (f.next cell).1 = (f.asPoller cell).1 ∧ (f.next cell).2.last = (f.asPoller cell).2.last ∧
      (f.next cell).2.Sound cell := by
  unfold next
  cases hwaiting : f.waiting with
  | false =>
    simp only [Bool.false_eq_true, if_false]
    exact look_refines f cell
  | true =>
    simp only [if_true]
    obtain ⟨-, hlast⟩ := h hwaiting
    by_cases hseen : f.seen = cell.version
    · have htold := hlast hseen
      rw [await_of_seen hseen]
      unfold asPoller Poller.next Sound
      cases cell.live <;> simp [htold, hseen]
    · rw [await_of_unseen hseen]
      exact look_refines { f with seen := cell.version } cell

end Follower

/-- The state that a call tells. -/
def Poll.state? : Poll → Option DeviceState
  | state s => some s
  | pending => none
  | ended => none

namespace Broadcast

/-! ## Histories -/

namespace Step

/-- What a step means for the board. -/
def on : Step → Board → Board
  | write change, board => if board.live then { board with state := change board.state } else board
  | drop, board => { board with live := false }
  | _, board => board

/-- One more follower. -/
def isJoin : Step → Bool
  | subscribe => true
  | stream => true
  | _ => false

/-- A call of this follower. -/
def isCallOf (id : Nat) : Step → Bool
  | next caller => caller == id
  | _ => false

/-- A call of another follower. -/
def isCallOfOther (id : Nat) : Step → Bool
  | next caller => caller != id
  | _ => false

end Step

/-- The board after a history. -/
def boardOf (history : List Step) : Board := history.foldl (fun b s => s.on b) ⟨.initial, true⟩

/-- How many came to follow. -/
def joined (history : List Step) : Nat := history.countP Step.isJoin

/-- What the calls of a follower find, one after the other. -/
def polls (id : Nat) : Broadcast → List Step → List Poll
  | _, [] => []
  | b, s :: rest =>
    (if s.isCallOf id then (b.step s).1.toList else []) ++ polls id (b.step s).2 rest

/-- What the next call of a follower finds. -/
def found (history : List Step) (id : Nat) : Option Poll :=
  ((initial.run history).step (.next id)).1

/-- The states that its calls told a follower so far. -/
def told (history : List Step) (id : Nat) : List DeviceState :=
  (polls id initial history).filterMap Poll.state?

variable {history more : List Step} {s : Step} {id : Nat}

theorem run_concat (b : Broadcast) (history : List Step) (s : Step) :
    b.run (history ++ [s]) = ((b.run history).step s).2 := by
  simp [run]

theorem boardOf_append (history more : List Step) :
    boardOf (history ++ more) = more.foldl (fun b s => s.on b) (boardOf history) :=
  List.foldl_append

theorem boardOf_concat (history : List Step) (s : Step) :
    boardOf (history ++ [s]) = s.on (boardOf history) :=
  boardOf_append history [s]

theorem joined_append (history more : List Step) :
    joined (history ++ more) = joined history + joined more :=
  List.countP_append

theorem polls_concat (b : Broadcast) (history : List Step) (s : Step) (id : Nat) :
    polls id b (history ++ [s]) =
      polls id b history ++ if s.isCallOf id then ((b.run history).step s).1.toList else [] := by
  induction history generalizing b with
  | nil => simp [polls, run]
  | cons s' history ih =>
    have hrun : b.run (s' :: history) = (b.step s').2.run history := rfl
    rw [List.cons_append, polls, ih, polls, hrun, List.append_assoc]

theorem Step.eq_next_of_isCallOf (h : s.isCallOf id = true) : s = .next id := by
  cases s with
  | next caller =>
    rw [isCallOf, beq_iff_eq] at h
    rw [h]
  | _ => cases h

theorem polls_call (history : List Step) (id : Nat) :
    polls id initial (history ++ [.next id]) =
      polls id initial history ++ (found history id).toList := by
  rw [polls_concat, if_pos (by simp [Step.isCallOf])]
  rfl

theorem polls_of_not_call (history : List Step) (h : s.isCallOf id = false) :
    polls id initial (history ++ [s]) = polls id initial history := by
  rw [polls_concat, h]
  simp

theorem told_call (history : List Step) (id : Nat) :
    told (history ++ [.next id]) id =
      told history id ++ (found history id).toList.filterMap Poll.state? := by
  rw [told, polls_call, List.filterMap_append]
  rfl

theorem told_of_not_call (history : List Step) (h : s.isCallOf id = false) :
    told (history ++ [s]) id = told history id := by
  rw [told, polls_of_not_call history h]
  rfl

/-! ## Values and versions agree -/

/-- What is kept by versions after a history is what its steps say by values. -/
structure Agrees (history : List Step) : Prop where
  sameBoard : (initial.run history).board = boardOf history
  count : (initial.run history).followers.length = joined history
  follower : ∀ id f, (initial.run history).followers[id]? = some f →
    f.Sound (initial.run history).cell ∧ f.last = (told history id).getLast?
  silent : ∀ id, joined history ≤ id → told history id = []

theorem Agrees.start : Agrees [] where
  sameBoard := rfl
  count := rfl
  follower := by simp [initial, run]
  silent := fun _ _ => rfl

/-- A step of the publisher leaves the followers alone. -/
theorem Agrees.publisher (h : Agrees history) (cell : Watch DeviceState)
    (hcall : ∀ id, s.isCallOf id = false) (hjoin : joined [s] = 0)
    (hstep : ((initial.run history).step s).2 = { initial.run history with cell })
    (hboard : ⟨cell.value, cell.live⟩ = s.on (boardOf history))
    (hsound : ∀ f : Follower, f.Sound (initial.run history).cell → f.Sound cell) :
    Agrees (history ++ [s]) := by
  have hrun : initial.run (history ++ [s]) = { initial.run history with cell } := by
    rw [run_concat, hstep]
  have hjoined : joined (history ++ [s]) = joined history := by
    rw [joined_append, hjoin, Nat.add_zero]
  have htold (id : Nat) : told (history ++ [s]) id = told history id :=
    told_of_not_call history (hcall id)
  refine ⟨?_, ?_, ?_, ?_⟩
  · rw [hrun, boardOf_concat]
    exact hboard
  · rw [hrun, hjoined]
    exact h.count
  · intro id f hf
    rw [hrun] at hf ⊢
    rw [htold]
    obtain ⟨hf, hlast⟩ := h.follower id f hf
    exact ⟨hsound f hf, hlast⟩
  · intro id hid
    rw [htold]
    exact h.silent id (hjoined ▸ hid)

/-- A write moves the version on just if it changes the state. -/
theorem sound_publish {cell : Watch DeviceState} {f : Follower} (h : f.Sound cell)
    (change : DeviceState → DeviceState) : f.Sound (publish cell change) := by
  intro hwaiting
  obtain ⟨hle, hlast⟩ := h hwaiting
  by_cases hsame : change cell.value = cell.value
  · have hcell : publish cell change = cell := by simp [publish, Watch.modify, hsame]
    rw [hcell]
    exact ⟨hle, hlast⟩
  · have hversion : (publish cell change).version = cell.version + 1 := by
      simp [publish, Watch.modify, hsame]
    rw [hversion]
    exact ⟨by omega, fun hseen => by omega⟩

theorem Agrees.write (h : Agrees history) (change : DeviceState → DeviceState) :
    Agrees (history ++ [.write change]) := by
  have hboard := h.sameBoard
  cases hlive : (initial.run history).cell.live with
  | true =>
    refine h.publisher (publish (initial.run history).cell change) (fun _ => rfl) rfl ?_ ?_ ?_
    · rw [step, if_pos hlive]
    · rw [← hboard, Step.on, board, if_pos hlive]
      rfl
    · intro f hf
      exact sound_publish hf change
  | false =>
    refine h.publisher (initial.run history).cell (fun _ => rfl) rfl ?_ ?_ (fun _ => id)
    · rw [step, hlive]
      rfl
    · rw [← hboard, Step.on, board, hlive]
      rfl

theorem Agrees.drop (h : Agrees history) : Agrees (history ++ [.drop]) := by
  refine h.publisher (initial.run history).cell.close (fun _ => rfl) rfl rfl ?_ ?_
  · rw [← h.sameBoard]
    rfl
  · intro f hf
    exact hf

/-- Whoever comes to follow was told nothing yet. -/
theorem Agrees.join (h : Agrees history) (patient : Bool) (hcall : ∀ id, s.isCallOf id = false)
    (hjoin : joined [s] = 1) (hboard : s.on (boardOf history) = boardOf history)
    (hstep : ((initial.run history).step s).2 = (initial.run history).join patient) :
    Agrees (history ++ [s]) := by
  have hrun : initial.run (history ++ [s]) = (initial.run history).join patient := by
    rw [run_concat, hstep]
  have hjoined : joined (history ++ [s]) = joined history + 1 := by rw [joined_append, hjoin]
  have htold (id : Nat) : told (history ++ [s]) id = told history id :=
    told_of_not_call history (hcall id)
  refine ⟨?_, ?_, ?_, ?_⟩
  · rw [hrun, boardOf_concat, hboard]
    exact h.sameBoard
  · rw [hrun, hjoined, ← h.count]
    simp [Broadcast.join]
  · intro id f hf
    rw [hrun] at hf ⊢
    rw [htold]
    rw [Broadcast.join, List.getElem?_append] at hf
    split at hf
    · exact h.follower id f hf
    · rename_i hid
      rw [h.count] at hid
      have hnone := h.silent id (Nat.le_of_not_lt hid)
      obtain rfl : f = ⟨(initial.run history).cell.version, none, patient, false⟩ := by
        have hmem := List.mem_of_getElem? hf
        exact List.mem_singleton.mp hmem
      rw [hnone]
      exact ⟨fun hwaiting => (Bool.false_ne_true hwaiting).elim, rfl⟩
  · intro id hid
    rw [htold]
    exact h.silent id (by omega)

/-- What a call finds of a poller that was told this last. -/
def answer (board : Board) (last : Option DeviceState) : Poll := ((Poller.mk last).next board).1

/-- What the calls of a follower find is a matter of the board and of what it was told. -/
theorem Agrees.found (h : Agrees history) (id : Nat) :
    Broadcast.found history id =
      if id < joined history then some (answer (boardOf history) (told history id).getLast?)
      else none := by
  unfold Broadcast.found
  rw [step]
  cases hf : (initial.run history).followers[id]? with
  | none =>
    have hid : ¬ id < joined history := by
      rw [← h.count]
      exact Nat.not_lt.mpr (List.getElem?_eq_none_iff.mp hf)
    rw [if_neg hid]
  | some f =>
    obtain ⟨hlt, -⟩ := List.getElem?_eq_some_iff.mp hf
    rw [h.count] at hlt
    obtain ⟨hsound, hlast⟩ := h.follower id f hf
    rw [if_pos hlt, ← hlast, ← h.sameBoard]
    exact congrArg some (Follower.next_refines hsound).1

/-- What a look tells is what the poller was told last from then on. -/
theorem getLast?_told (states : List DeviceState) (p : Poller) (board : Board)
    (h : states.getLast? = p.last) :
    (states ++ [(p.next board).1].filterMap Poll.state?).getLast? = (p.next board).2.last := by
  unfold Poller.next
  split
  · simp [Poll.state?]
  · split <;> simpa [Poll.state?] using h

theorem isCallOf_next {caller : Nat} (h : caller ≠ id) :
    (Step.next caller).isCallOf id = false := by
  simpa [Step.isCallOf] using h

theorem Agrees.call (h : Agrees history) (caller : Nat) : Agrees (history ++ [.next caller]) := by
  have hjoined : joined (history ++ [.next caller]) = joined history :=
    joined_append history [.next caller]
  have hboard : boardOf (history ++ [.next caller]) = boardOf history :=
    boardOf_concat history (.next caller)
  have hother {id : Nat} (hid : caller ≠ id) :
      told (history ++ [.next caller]) id = told history id :=
    told_of_not_call history (isCallOf_next hid)
  have hsilent : ∀ id, joined history ≤ id → told (history ++ [.next caller]) id = [] := by
    intro id hid
    by_cases hcaller : caller = id
    · subst hcaller
      rw [told_call, h.found, if_neg (Nat.not_lt.mpr hid), h.silent caller hid]
      rfl
    · rw [hother hcaller, h.silent id hid]
  cases hf : (initial.run history).followers[caller]? with
  | none =>
    have hrun : initial.run (history ++ [.next caller]) = initial.run history := by
      rw [run_concat, step, hf]
    refine ⟨by rw [hrun, hboard, h.sameBoard], by rw [hrun, hjoined, h.count], ?_, ?_⟩
    · intro id f hid
      rw [hrun] at hid ⊢
      have hcaller : caller ≠ id := by
        rintro rfl
        rw [hf] at hid
        cases hid
      rw [hother hcaller]
      exact h.follower id f hid
    · exact fun id hid => hsilent id (hjoined ▸ hid)
  | some f =>
    obtain ⟨hlt, -⟩ := List.getElem?_eq_some_iff.mp hf
    obtain ⟨hsound, hlast⟩ := h.follower caller f hf
    obtain ⟨-, hlast', hsound'⟩ := Follower.next_refines hsound
    have hrun : initial.run (history ++ [.next caller]) = { initial.run history with
        followers := (initial.run history).followers.set caller
          (f.next (initial.run history).cell).2 } := by
      rw [run_concat, step, hf]
    refine ⟨?_, ?_, ?_, ?_⟩
    · rw [hrun, hboard, ← h.sameBoard]
      rfl
    · rw [hrun, hjoined, ← h.count]
      simp
    · intro id f' hid
      rw [hrun] at hid ⊢
      by_cases hcaller : caller = id
      · subst hcaller
        rw [List.getElem?_set_self hlt] at hid
        cases hid
        refine ⟨hsound', ?_⟩
        have hfound : Broadcast.found history caller =
            some (f.asPoller (initial.run history).cell).1 := by
          rw [h.found, if_pos (h.count ▸ hlt), ← hlast, ← h.sameBoard]
          rfl
        rw [hlast', told_call, hfound]
        exact (getLast?_told _ (Poller.mk f.last) _ hlast.symm).symm
      · rw [List.getElem?_set_ne hcaller] at hid
        rw [hother hcaller]
        exact h.follower id f' hid
    · exact fun id hid => hsilent id (hjoined ▸ hid)

theorem agrees (history : List Step) : Agrees history := by
  -- On the steps of the history, the latest last.
  induction history using List.reverseRecOn with
  | nil => exact .start
  | append_singleton history s ih =>
    cases s with
    | write change => exact ih.write change
    | subscribe => exact ih.join false (fun _ => rfl) rfl rfl rfl
    | stream => exact ih.join true (fun _ => rfl) rfl rfl rfl
    | next caller => exact ih.call caller
    | drop => exact ih.drop

/-! ## What follows for every history -/

theorem found_eq (h : id < joined history) :
    found history id = some (answer (boardOf history) (told history id).getLast?) := by
  rw [(agrees history).found, if_pos h]

theorem answer_eq (board : Board) (last : Option DeviceState) :
    answer board last =
      if last = some board.state then (if board.live then .pending else .ended)
      else .state board.state := by
  unfold answer Poller.next
  by_cases h : last = some board.state
  · cases board.live <;> simp [h]
  · simp [h]

theorem found_ended_iff (h : id < joined history) :
    found history id = some .ended ↔
      (told history id).getLast? = some (boardOf history).state ∧
        (boardOf history).live = false := by
  rw [found_eq h, answer_eq]
  by_cases hlast : (told history id).getLast? = some (boardOf history).state
  · cases (boardOf history).live <;> simp [hlast]
  · simp [hlast]

theorem told_isChain (history : List Step) (id : Nat) : (told history id).IsChain (· ≠ ·) := by
  induction history using List.reverseRecOn with
  | nil => exact List.isChain_nil
  | append_singleton history s ih =>
    cases hs : s.isCallOf id with
    | false =>
      rw [told_of_not_call history hs]
      exact ih
    | true =>
      obtain rfl := Step.eq_next_of_isCallOf hs
      rw [told_call]
      by_cases hid : id < joined history
      · rw [found_eq hid, answer_eq]
        by_cases hlast : (told history id).getLast? = some (boardOf history).state
        · cases (boardOf history).live <;> simpa [hlast, List.filterMap_cons, Poll.state?] using ih
        · simp only [if_neg hlast, Option.toList_some]
          refine List.isChain_append.mpr ⟨ih, List.isChain_singleton _, ?_⟩
          rintro x hx y hy rfl
          obtain rfl : (boardOf history).state = x := by simpa [Poll.state?] using hy
          exact hlast hx
      · rw [(agrees history).found, if_neg hid]
        simpa using ih

/-- Once the publisher is gone the board stays as it is. -/
theorem Step.on_of_gone {board : Board} (h : board.live = false) (s : Step) :
    s.on board = board := by
  obtain ⟨state, live⟩ := board
  cases s with
  | write change => simp_all [on]
  | drop => simp_all [on]
  | _ => rfl

theorem joined_mono (h : id < joined history) (more : List Step) :
    id < joined (history ++ more) := by
  rw [joined_append]
  omega

/-- A follower that has come to the end stays there. -/
theorem ended_append (h : id < joined history) (hended : found history id = some .ended)
    (more : List Step) : found (history ++ more) id = some .ended := by
  induction more using List.reverseRecOn with
  | nil => rwa [List.append_nil]
  | append_singleton more s ih =>
    have hid := joined_mono h more
    obtain ⟨hlast, hgone⟩ := (found_ended_iff hid).mp ih
    rw [← List.append_assoc]
    refine (found_ended_iff (joined_mono hid [s])).mpr ?_
    rw [boardOf_concat, Step.on_of_gone hgone]
    refine ⟨?_, hgone⟩
    cases hs : s.isCallOf id with
    | false => rw [told_of_not_call _ hs, hlast]
    | true =>
      obtain rfl := Step.eq_next_of_isCallOf hs
      rw [told_call, ih]
      simpa [Poll.state?] using hlast

/-- What happened between two calls is of no account if it left the board as it was. -/
theorem polls_of_same_board (h : id < joined history) {between : List Step}
    (hcall : ∀ s ∈ between, s.isCallOf id = false)
    (hboard : boardOf (history ++ between) = boardOf history) (more : List Step) :
    polls id initial (history ++ between ++ more) = polls id initial (history ++ more) := by
  induction more using List.reverseRecOn with
  | nil =>
    rw [List.append_nil, List.append_nil]
    clear hboard
    induction between using List.reverseRecOn with
    | nil => rw [List.append_nil]
    | append_singleton between s ih =>
      rw [← List.append_assoc, polls_of_not_call _ (hcall s (by simp))]
      exact ih fun s' hs' => hcall s' (by simp [hs'])
  | append_singleton more s ih =>
    rw [← List.append_assoc, ← List.append_assoc]
    cases hs : s.isCallOf id with
    | false => rw [polls_of_not_call _ hs, polls_of_not_call _ hs, ih]
    | true =>
      obtain rfl := Step.eq_next_of_isCallOf hs
      have hsame : boardOf (history ++ between ++ more) = boardOf (history ++ more) := by
        rw [boardOf_append, hboard, ← boardOf_append]
      have htold : told (history ++ between ++ more) id = told (history ++ more) id := by
        rw [told, ih]
        rfl
      rw [polls_call, polls_call, found_eq (joined_mono (joined_mono h between) more),
        found_eq (joined_mono h more), hsame, htold, ih]

/-- The history without the calls of other followers. -/
def own (id : Nat) (history : List Step) : List Step := history.filter (!·.isCallOfOther id)

theorem own_concat (history : List Step) (s : Step) :
    own id (history ++ [s]) = own id history ++ if s.isCallOfOther id then [] else [s] := by
  rw [own, List.filter_append]
  cases hs : s.isCallOfOther id <;> simp [own, hs]

theorem boardOf_own (id : Nat) (history : List Step) :
    boardOf (own id history) = boardOf history := by
  induction history using List.reverseRecOn with
  | nil => rfl
  | append_singleton history s ih =>
    rw [own_concat, boardOf_concat]
    cases hs : s.isCallOfOther id with
    | false => rw [if_neg Bool.false_ne_true, boardOf_concat, ih]
    | true =>
      rw [if_pos rfl, List.append_nil, ih]
      cases s <;> first | rfl | cases hs

theorem joined_own (id : Nat) (history : List Step) : joined (own id history) = joined history := by
  rw [joined, own, List.countP_filter]
  refine List.countP_congr fun s _ => ?_
  cases s <;> simp [Step.isJoin, Step.isCallOfOther]

/-- Without the calls of others a follower finds the same. -/
theorem polls_own (id : Nat) (history : List Step) :
    polls id initial (own id history) = polls id initial history := by
  induction history using List.reverseRecOn with
  | nil => rfl
  | append_singleton history s ih =>
    rw [own_concat]
    cases hother : s.isCallOfOther id with
    | true =>
      have hs : s.isCallOf id = false := by
        cases s <;> simp_all [Step.isCallOf, Step.isCallOfOther]
      rw [if_pos rfl, List.append_nil, polls_of_not_call history hs, ih]
    | false =>
      rw [if_neg Bool.false_ne_true]
      cases hs : s.isCallOf id with
      | false => rw [polls_of_not_call _ hs, polls_of_not_call _ hs, ih]
      | true =>
        obtain rfl := Step.eq_next_of_isCallOf hs
        have htold : told (own id history) id = told history id := by
          rw [told, ih]
          rfl
        rw [polls_call, polls_call, (agrees _).found, (agrees _).found, boardOf_own, joined_own,
          htold, ih]

/-- What is promised to a follower after a history. -/
structure FollowsBoard (history : List Step) (id : Nat) : Prop where
  /-- A call tells the current state if the follower was not told this one last. -/
  yields : ∀ s, found history id = some (.state s) ↔
    s = (boardOf history).state ∧ (told history id).getLast? ≠ some s
  /-- Otherwise there is nothing, as long as the publisher may still write. -/
  pending : found history id = some .pending ↔
    (told history id).getLast? = some (boardOf history).state ∧ (boardOf history).live = true
  /-- And it is the end once the publisher is gone. -/
  ended : found history id = some .ended ↔
    (told history id).getLast? = some (boardOf history).state ∧ (boardOf history).live = false
  answered : (found history id).isSome = true
  unrepeated : (told history id).IsChain (· ≠ ·)
  /-- A state not seen when the publisher goes is told before the end. -/
  parting : (told history id).getLast? ≠ some (boardOf history).state →
    found (history ++ [.drop]) id = some (.state (boardOf history).state) ∧
      found (history ++ [.drop, .next id]) id = some .ended
  permanent : found history id = some .ended →
    ∀ more, found (history ++ more) id = some .ended
  /-- Writes that end at the state at which they began, and whatever else may happen between two
  calls, leave no trace. -/
  invisible : ∀ between more, (∀ s ∈ between, s.isCallOf id = false) →
    boardOf (history ++ between) = boardOf history →
    polls id initial (history ++ between ++ more) = polls id initial (history ++ more)
  /-- The calls of others change nothing, for this follower or for the board. -/
  alone : polls id initial (own id history) = polls id initial history ∧
    (initial.run (own id history)).board = (initial.run history).board
  published : (initial.run history).board = boardOf history

/-- **A follower is told what the values tell.** After every history of writes, of followers that
come and call, and of the publisher's going, a call tells the current state just if the follower was
not told this one last; otherwise it finds nothing while the publisher is there, and the end when it
is gone. -/
theorem followers_told (history : List Step) (id : Nat) (hid : id < joined history) :
    FollowsBoard history id where
  yields := by
    intro s
    rw [found_eq hid, answer_eq]
    by_cases hlast : (told history id).getLast? = some (boardOf history).state
    · cases (boardOf history).live <;> simp_all [eq_comm]
    · simp only [if_neg hlast, Option.some.injEq, Poll.state.injEq]
      constructor
      · rintro rfl
        exact ⟨rfl, hlast⟩
      · rintro ⟨rfl, -⟩
        rfl
  pending := by
    rw [found_eq hid, answer_eq]
    by_cases hlast : (told history id).getLast? = some (boardOf history).state
    · cases (boardOf history).live <;> simp [hlast]
    · simp [hlast]
  ended := found_ended_iff hid
  answered := by rw [found_eq hid]; rfl
  unrepeated := told_isChain history id
  parting := by
    intro hlast
    have hfound : found (history ++ [.drop]) id = some (.state (boardOf history).state) := by
      rw [found_eq (joined_mono hid [.drop]), answer_eq, told_of_not_call history rfl,
        boardOf_concat]
      exact congrArg some (if_neg hlast)
    refine ⟨hfound, ?_⟩
    have hsplit : history ++ [.drop, .next id] = history ++ [.drop] ++ [.next id] := by simp
    rw [hsplit]
    refine (found_ended_iff (joined_mono (joined_mono hid [.drop]) [.next id])).mpr ?_
    rw [told_call, hfound, boardOf_concat, boardOf_concat]
    simp [Poll.state?, Step.on]
  permanent := ended_append hid
  invisible := fun _ more hcall hboard => polls_of_same_board hid hcall hboard more
  alone := ⟨polls_own id history, by
    rw [(agrees _).sameBoard, (agrees _).sameBoard, boardOf_own]⟩
  published := (agrees history).sameBoard

/-- Two followers, a reset that is over before the first one calls again, and the end. -/
def resetUnseen : List Step :=
  [.subscribe, .next 0, .write (·.setBusy true), .stream, .next 1, .write (·.setBusy false),
    .next 0, .write (·.setOnline true), .drop]

example : told resetUnseen 0 = [.initial] := by cbv

example : found resetUnseen 0 = some (.state ⟨true, false, ⟨false, false, false⟩⟩) := by cbv

theorem followers_told_reset : 0 < joined resetUnseen ∧ FollowsBoard resetUnseen 0 :=
  ⟨by decide, followers_told resetUnseen 0 (by decide)⟩

end Broadcast

end SerialHid
