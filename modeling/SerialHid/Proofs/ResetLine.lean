/-
SerialHid.Proofs.ResetLine — a reset line rests, unless a failure was reported.

* `Files.recorded`, `Files.faulty` — files that keep a record of every write that is tried, and
  files of which any write may be made to fail.
* `Made` — writes in order until one fails. Both operations go by it: `opened_prepare` and
  `pulsed_reset`.
* `ResetLine.usage` — the line is made ready and then pulsed, on record.
* `Files.Mirrors` — files that cannot tell two ways of writing apart; a tree of files cannot tell
  one level from the other.
* `ResetLine.rests_unless_failed` — all of it, for every line, all files and every number of
  pulses.
-/
import Mathlib.Data.List.Induction
import SerialHid.FileTree

namespace SerialHid

/-! ## Writes on record -/

/-- A write that was tried. -/
structure TriedWrite where
  write : FileWrite
  /-- What the system said, if the write failed. -/
  refusal : Option String
  deriving DecidableEq, Repr

namespace Files

variable {σ : Type}

/-- The same files, with a record of all writes that were tried, the earliest first. -/
def recorded (files : Files σ) : Files (σ × List TriedWrite) where
  present s p := files.present s.1 p
  write w s :=
    let (refusal, rest) := files.write w s.1
    (refusal, rest, s.2 ++ [⟨w, refusal⟩])

/-- The same files, of which some of the writes to come are made to fail. -/
def faulty (files : Files σ) : Files (σ × List (Option String)) where
  present s p := files.present s.1 p
  write w s :=
    match s.2 with
    | some reason :: faults => (some reason, s.1, faults)
    | faults =>
      let (refusal, rest) := files.write w s.1
      (refusal, rest, faults.tail)

theorem present_recorded (files : Files σ) (s : σ × List TriedWrite) (p : Path) :
    files.recorded.present s p = files.present s.1 p := rfl

end Files

/-- Writes are tried in order until one fails, and that is the failure reported. -/
inductive Made : List FileWrite → Option ResetError → List TriedWrite → Prop where
  | nil : Made [] none []
  | refused (w : FileWrite) (ws : List FileWrite) (reason : String) :
      Made (w :: ws) (some ⟨pathText w.path, reason⟩) [⟨w, some reason⟩]
  | next {w : FileWrite} {ws : List FileWrite} {failure : Option ResetError}
      {tried : List TriedWrite} (h : Made ws failure tried) :
      Made (w :: ws) failure (⟨w, none⟩ :: tried)

section Writes

variable {σ : Type} {failure : Option ResetError} {tried : List TriedWrite} {v w : FileWrite}

/-- The record changes nothing, and is of what was done. -/
theorem writeAll_recorded (files : Files σ) (ws : List FileWrite) (s : σ) (log : List TriedWrite) :
    ∃ tried, files.recorded.writeAll ws (s, log) =
        ((files.writeAll ws s).1, (files.writeAll ws s).2, log ++ tried) ∧
      Made ws (files.writeAll ws s).1 tried := by
  induction ws generalizing s log with
  | nil => exact ⟨[], by rw [List.append_nil]; rfl, .nil⟩
  | cons w ws ih =>
    cases hwrite : files.write w s with
    | mk refusal rest =>
      cases refusal with
      | some reason =>
        refine ⟨[⟨w, some reason⟩], ?_, ?_⟩
        · simp [Files.writeAll, Files.recorded, hwrite]
        · simpa [Files.writeAll, hwrite] using Made.refused w ws reason
      | none =>
        obtain ⟨tried, hall, hmade⟩ := ih rest (log ++ [⟨w, none⟩])
        refine ⟨⟨w, none⟩ :: tried, ?_, ?_⟩
        · have hstep : files.recorded.writeAll (w :: ws) (s, log) =
              files.recorded.writeAll ws (rest, log ++ [⟨w, none⟩]) := by
            simp [Files.writeAll, Files.recorded, hwrite]
          rw [hstep, hall]
          simp [Files.writeAll, hwrite]
        · simpa [Files.writeAll, hwrite] using Made.next hmade

/-- Two writes: the first fails, only the second fails, or none. -/
theorem Made.pair (h : Made [v, w] failure tried) :
    (∃ reason, failure = some ⟨pathText v.path, reason⟩ ∧ tried = [⟨v, some reason⟩]) ∨
    (∃ reason, failure = some ⟨pathText w.path, reason⟩ ∧
      tried = [⟨v, none⟩, ⟨w, some reason⟩]) ∨
    failure = none ∧ tried = [⟨v, none⟩, ⟨w, none⟩] := by
  cases h with
  | refused reason => exact .inl ⟨_, rfl, rfl⟩
  | next h =>
    cases h with
    | refused reason => exact .inr (.inl ⟨_, rfl, rfl⟩)
    | next h =>
      cases h
      exact .inr (.inr ⟨rfl, rfl⟩)

end Writes

/-! ## Operations on record -/

/-- What is seen of an operation on a line. -/
structure LineRecord where
  failure : Option ResetError
  notices : List Notice
  /-- The writes that it tried, in order. -/
  tried : List TriedWrite

namespace Driven

variable {σ : Type}

def record (d : Driven (σ × List TriedWrite)) : LineRecord := ⟨d.failure, d.notices, d.files.2⟩

/-- The operation without its record. -/
def unrecorded (d : Driven (σ × List TriedWrite)) : Driven σ := ⟨d.failure, d.notices, d.files.1⟩

end Driven

namespace ResetLine

variable {σ : Type}

/-- The file for the level. -/
def valuePath (line : ResetLine) : Path := line.directory ++ ["value"]

/-- The level that holds the chip in reset: low on an inverted line. -/
def holding (line : ResetLine) : String := if line.inverted then "0" else "1"

/-- The level at which the chip runs: high on an inverted line. -/
def resting (line : ResetLine) : String := if line.inverted then "1" else "0"

/-- What a pulse comes to. -/
inductive Pulsed (line : ResetLine) : LineRecord → Prop where
  | done : Pulsed line ⟨none, [.pinPulsed line.pin],
      [⟨⟨line.valuePath, line.holding⟩, none⟩, ⟨⟨line.valuePath, line.resting⟩, none⟩]⟩
  /-- The level could not be changed, and nothing more was tried. -/
  | untouched (reason : String) :
      Pulsed line ⟨some ⟨pathText line.valuePath, reason⟩, [.pinPulsed line.pin],
        [⟨⟨line.valuePath, line.holding⟩, some reason⟩]⟩
  /-- The level could not be changed back. -/
  | leftHolding (reason : String) :
      Pulsed line ⟨some ⟨pathText line.valuePath, reason⟩, [.pinPulsed line.pin],
        [⟨⟨line.valuePath, line.holding⟩, none⟩, ⟨⟨line.valuePath, line.resting⟩, some reason⟩]⟩

/-- The pin is made available unless it is so already. -/
def exported (line : ResetLine) (available : Bool) : List TriedWrite :=
  if available then [] else [⟨line.exportPin, none⟩]

/-- What comes of making the line ready. -/
inductive Opened (line : ResetLine) (available : Bool) : LineRecord → Prop where
  | ready : Opened line available ⟨none, [.pinReady line.pin], line.exported available ++
      [⟨line.setDirection, none⟩, ⟨⟨line.valuePath, line.resting⟩, none⟩]⟩
  | unavailable (reason : String) (h : available = false) :
      Opened line available ⟨some ⟨pathText line.exportPin.path, reason⟩, [],
        [⟨line.exportPin, some reason⟩]⟩
  | undirected (reason : String) :
      Opened line available ⟨some ⟨pathText line.setDirection.path, reason⟩, [],
        line.exported available ++ [⟨line.setDirection, some reason⟩]⟩
  | unset (reason : String) :
      Opened line available ⟨some ⟨pathText line.valuePath, reason⟩, [],
        line.exported available ++
          [⟨line.setDirection, none⟩, ⟨⟨line.valuePath, line.resting⟩, some reason⟩]⟩

theorem setLevel_true (line : ResetLine) :
    line.setLevel true = ⟨line.valuePath, line.holding⟩ := by
  cases h : line.inverted <;> simp [setLevel, level, valuePath, holding, h]

theorem setLevel_false (line : ResetLine) :
    line.setLevel false = ⟨line.valuePath, line.resting⟩ := by
  cases h : line.inverted <;> simp [setLevel, level, valuePath, resting, h]

theorem reset_eq (files : Files σ) (line : ResetLine) (s : σ) :
    line.reset files s = ⟨(files.writeAll line.resetWrites s).1, [.pinPulsed line.pin],
      (files.writeAll line.resetWrites s).2⟩ := rfl

/-- The last notice is given only when all went right. -/
theorem prepare_eq (files : Files σ) (line : ResetLine) (s : σ) :
    line.prepare files s =
      ⟨(files.writeAll (line.openWrites (files.present s line.directory)) s).1,
        if (files.writeAll (line.openWrites (files.present s line.directory)) s).1 = none
          then [.pinReady line.pin] else [],
        (files.writeAll (line.openWrites (files.present s line.directory)) s).2⟩ := by
  rw [prepare]
  rcases files.writeAll (line.openWrites (files.present s line.directory)) s with ⟨_ | e, rest⟩ <;>
    rfl

theorem unrecorded_reset (files : Files σ) (line : ResetLine) (s : σ) (log : List TriedWrite) :
    (line.reset files.recorded (s, log)).unrecorded = line.reset files s := by
  obtain ⟨tried, hall, -⟩ := writeAll_recorded files line.resetWrites s log
  rw [reset_eq, hall]
  rfl

theorem unrecorded_prepare (files : Files σ) (line : ResetLine) (s : σ) (log : List TriedWrite) :
    (line.prepare files.recorded (s, log)).unrecorded = line.prepare files s := by
  obtain ⟨tried, hall, -⟩ :=
    writeAll_recorded files (line.openWrites (files.present s line.directory)) s log
  rw [prepare_eq, prepare_eq, Files.present_recorded, hall]
  rfl

theorem pulsed_reset (files : Files σ) (line : ResetLine) (s : σ) :
    Pulsed line (line.reset files.recorded (s, [])).record := by
  obtain ⟨tried, hall, hmade⟩ := writeAll_recorded files line.resetWrites s []
  rw [reset_eq, hall, List.nil_append]
  generalize (files.writeAll line.resetWrites s).1 = failure at hmade
  rw [resetWrites, setLevel_true, setLevel_false] at hmade
  obtain ⟨reason, rfl, rfl⟩ | ⟨reason, rfl, rfl⟩ | ⟨rfl, rfl⟩ := hmade.pair
  · exact .untouched reason
  · exact .leftHolding reason
  · exact .done

theorem opened_prepare (files : Files σ) (line : ResetLine) (s : σ) :
    Opened line (files.present s line.directory)
      (line.prepare files.recorded (s, [])).record := by
  rw [prepare_eq, Files.present_recorded]
  generalize files.present s line.directory = available
  obtain ⟨tried, hall, hmade⟩ := writeAll_recorded files (line.openWrites available) s []
  rw [hall, List.nil_append]
  generalize (files.writeAll (line.openWrites available) s).1 = failure at hmade
  rw [openWrites, setLevel_false] at hmade
  -- The first write is there only if the pin was missing; the other two always are.
  have hrest (tried : List TriedWrite)
      (h : Made [line.setDirection, ⟨line.valuePath, line.resting⟩] failure tried) :
      Opened line available ⟨failure, if failure = none then [.pinReady line.pin] else [],
        line.exported available ++ tried⟩ := by
    obtain ⟨reason, rfl, rfl⟩ | ⟨reason, rfl, rfl⟩ | ⟨rfl, rfl⟩ := h.pair
    · exact .undirected reason
    · exact .unset reason
    · exact .ready
  cases available with
  | true => exact hrest _ hmade
  | false =>
    cases hmade with
    | refused reason => exact .unavailable _ rfl
    | next h => exact hrest _ h

/-! ## A line in use -/

/-- Pulses, one after the other. -/
def pulses (files : Files σ) (line : ResetLine) : Nat → σ → List LineRecord
  | 0, _ => []
  | n + 1, s =>
    let d := line.reset files.recorded (s, [])
    d.record :: pulses files line n d.files.1

/-- The line is made ready and, if that went right, pulsed so many times. -/
def usage (files : Files σ) (line : ResetLine) (n : Nat) (s : σ) :
    LineRecord × List LineRecord :=
  let d := line.prepare files.recorded (s, [])
  (d.record, if d.failure = none then line.pulses files n d.files.1 else [])

/-- The level that a write sets, if it goes through. -/
def levelSet? (line : ResetLine) (t : TriedWrite) : Option String :=
  if t.refusal = none ∧ t.write.path = line.valuePath then some t.write.content else none

/-- The levels that operations set, in order. -/
def levels (line : ResetLine) (rs : List LineRecord) : List String :=
  (rs.flatMap LineRecord.tried).filterMap line.levelSet?

/-- No write of these operations went through. -/
def AllRefused (rs : List LineRecord) : Prop := ∀ r ∈ rs, ∀ t ∈ r.tried, t.refusal ≠ none

/-- What can be relied on while a line is in use. -/
structure Kept (line : ResetLine) (available : Bool) (n : Nat) (opening : LineRecord)
    (pulses : List LineRecord) : Prop where
  opened : Opened line available opening
  exported_iff : (∃ t ∈ opening.tried, t.write = line.exportPin) ↔ available = false
  length : pulses.length = if opening.failure = none then n else 0
  pulsed : ∀ r ∈ pulses, Pulsed line r
  /-- The line rests after every operation that went right. -/
  rests : ∀ (earlier : List LineRecord) (r : LineRecord), earlier ++ [r] <+: opening :: pulses →
    r.failure = none → (line.levels (earlier ++ [r])).getLast? = some line.resting
  /-- The chip is held in reset only by a pulse that reported a failure, and by that only until
  the next write that goes through. -/
  holds : ∀ earlier : List LineRecord, earlier <+: pulses →
    (line.levels (opening :: earlier)).getLast? = some line.holding →
    ∃ before r after, earlier = before ++ r :: after ∧ line.levels [r] = [line.holding] ∧
      r.failure ≠ none ∧ AllRefused after

section Levels

variable {line : ResetLine} {available : Bool} {r opening : LineRecord} {rs : List LineRecord}

theorem resting_ne_holding (line : ResetLine) : line.resting ≠ line.holding := by
  cases h : line.inverted <;> simp [resting, holding, h]

@[simp] theorem levelSet?_value (line : ResetLine) (level : String) :
    line.levelSet? ⟨⟨line.valuePath, level⟩, none⟩ = some level := if_pos ⟨rfl, rfl⟩

@[simp] theorem levelSet?_refused (line : ResetLine) (w : FileWrite) (reason : String) :
    line.levelSet? ⟨w, some reason⟩ = none := if_neg (by simp)

@[simp] theorem levelSet?_exportPin (line : ResetLine) (refusal : Option String) :
    line.levelSet? ⟨line.exportPin, refusal⟩ = none :=
  if_neg (by simp [exportPin, valuePath, directory])

@[simp] theorem levelSet?_setDirection (line : ResetLine) (refusal : Option String) :
    line.levelSet? ⟨line.setDirection, refusal⟩ = none :=
  if_neg (by simp [setDirection, valuePath])

theorem levels_append (line : ResetLine) (rs qs : List LineRecord) :
    line.levels (rs ++ qs) = line.levels rs ++ line.levels qs := by simp [levels]

theorem Pulsed.levels_eq (h : Pulsed line r) :
    r.failure = none ∧ line.levels [r] = [line.holding, line.resting] ∨
    r.failure ≠ none ∧
      (line.levels [r] = [] ∧ AllRefused [r] ∨ line.levels [r] = [line.holding]) := by
  cases h with
  | done => exact .inl (by simp [levels])
  | untouched reason => exact .inr (by simp [levels, AllRefused])
  | leftHolding reason => exact .inr (by simp [levels])

theorem Opened.levels_eq (h : Opened line available r) :
    line.levels [r] = if r.failure = none then [line.resting] else [] := by
  cases h <;> cases available <;> simp [levels, exported]

theorem Opened.exported_iff (h : Opened line available r) :
    (∃ t ∈ r.tried, t.write = line.exportPin) ↔ available = false := by
  have hdirection : line.setDirection ≠ line.exportPin := by
    simp [setDirection, exportPin, directory]
  have hvalue (level : String) : (⟨line.valuePath, level⟩ : FileWrite) ≠ line.exportPin := by
    simp [valuePath, exportPin, directory]
  cases h <;> cases available <;> simp_all [exported]

theorem getLast?_levels_of_ok (earlier : List LineRecord)
    (hr : Opened line available r ∨ Pulsed line r) (hok : r.failure = none) :
    (line.levels (earlier ++ [r])).getLast? = some line.resting := by
  rw [levels_append, List.getLast?_append]
  obtain hopened | hpulsed := hr
  · rw [hopened.levels_eq, if_pos hok]
    rfl
  · obtain ⟨-, hlevels⟩ | ⟨hfailed, -⟩ := hpulsed.levels_eq
    · rw [hlevels]
      rfl
    · exact absurd hok hfailed

theorem AllRefused.append {qs : List LineRecord} (hr : AllRefused rs) (hq : AllRefused qs) :
    AllRefused (rs ++ qs) := by
  intro r hmem
  exact (List.mem_append.mp hmem).elim (hr r) (hq r)

/-- Induction on the pulses, the last one first: it brought the line to rest, or it left the level
as it was, or it is the one that is asked for. -/
theorem exists_of_getLast?_holding (hopening : Opened line available opening)
    (hpulsed : ∀ r ∈ rs, Pulsed line r)
    (hlast : (line.levels (opening :: rs)).getLast? = some line.holding) :
    ∃ before r after, rs = before ++ r :: after ∧ line.levels [r] = [line.holding] ∧
      r.failure ≠ none ∧ AllRefused after := by
  induction rs using List.reverseRecOn with
  | nil =>
    rw [hopening.levels_eq] at hlast
    split at hlast
    · exact absurd (Option.some.inj hlast) (resting_ne_holding line)
    · cases hlast
  | append_singleton rs r ih =>
    rw [← List.cons_append, levels_append, List.getLast?_append] at hlast
    obtain ⟨-, hlevels⟩ | ⟨hfailed, ⟨hlevels, hrefused⟩ | hlevels⟩ :=
      (hpulsed r (by simp)).levels_eq
    · rw [hlevels] at hlast
      exact absurd (Option.some.inj hlast) (resting_ne_holding line)
    · rw [hlevels] at hlast
      obtain ⟨before, q, after, rfl, hq, hqfailed, hafter⟩ :=
        ih (fun q hq => hpulsed q (List.mem_append_left _ hq)) hlast
      exact ⟨before, q, after ++ [r], by simp, hq, hqfailed, hafter.append hrefused⟩
    · exact ⟨rs, r, [], rfl, hlevels, hfailed, by simp [AllRefused]⟩

end Levels

section Usage

variable (files : Files σ) (line : ResetLine) (n : Nat) (s : σ)

theorem length_pulses : (line.pulses files n s).length = n := by
  induction n generalizing s with
  | zero => rfl
  | succ n ih => rw [pulses, List.length_cons, ih]

theorem pulsed_of_mem_pulses {r : LineRecord} (h : r ∈ line.pulses files n s) :
    Pulsed line r := by
  induction n generalizing s with
  | zero => cases h
  | succ n ih =>
    obtain rfl | h := List.mem_cons.mp h
    · exact pulsed_reset files line s
    · exact ih _ h

theorem pulsed_of_mem_usage {r : LineRecord} (h : r ∈ (line.usage files n s).2) :
    Pulsed line r := by
  rw [usage] at h
  dsimp only at h
  split at h
  · exact pulsed_of_mem_pulses files line n _ h
  · cases h

theorem kept_usage : Kept line (files.present s line.directory) n
    (line.usage files n s).1 (line.usage files n s).2 where
  opened := opened_prepare files line s
  exported_iff := (opened_prepare files line s).exported_iff
  length := by
    rw [usage]
    dsimp only [Driven.record]
    rw [apply_ite List.length, length_pulses]
    rfl
  pulsed r hr := pulsed_of_mem_usage files line n s hr
  rests earlier r hinit hok := by
    have hmem : r ∈ (line.usage files n s).1 :: (line.usage files n s).2 :=
      hinit.subset (by simp)
    have hr : Opened line (files.present s line.directory) r ∨ Pulsed line r := by
      obtain rfl | hmem := List.mem_cons.mp hmem
      · exact .inl (opened_prepare files line s)
      · exact .inr (pulsed_of_mem_usage files line n s hmem)
    exact getLast?_levels_of_ok earlier hr hok
  holds earlier hinit hlast :=
    exists_of_getLast?_holding (opened_prepare files line s)
      (fun r hr => pulsed_of_mem_usage files line n s (hinit.subset hr)) hlast

end Usage

end ResetLine

/-! ## The other polarity -/

/-- The same attempt at another write. -/
def TriedWrite.through (image : FileWrite → FileWrite) (t : TriedWrite) : TriedWrite :=
  ⟨image t.write, t.refusal⟩

namespace Files

variable {σ : Type}

/-- Files that take a write and its image for the same: both go through or fail alike, and what
comes after them is again indistinguishable. -/
structure Mirrors (files : Files σ) (image : FileWrite → FileWrite) (Like : σ → σ → Prop) :
    Prop where
  path : ∀ w, (image w).path = w.path
  present : ∀ {s t} (p : Path), Like s t → files.present t p = files.present s p
  write : ∀ {s t} (w : FileWrite), Like s t →
    (files.write (image w) t).1 = (files.write w s).1 ∧
      Like (files.write w s).2 (files.write (image w) t).2

variable {files : Files σ} {image : FileWrite → FileWrite} {Like : σ → σ → Prop} {s t : σ}

theorem Mirrors.faulty (h : files.Mirrors image Like) :
    files.faulty.Mirrors image fun s t => Like s.1 t.1 ∧ t.2 = s.2 where
  path := h.path
  present p hst := h.present p hst.1
  write := by
    rintro ⟨s, faults⟩ ⟨t, faults'⟩ w ⟨hst, hfaults⟩
    obtain rfl : faults' = faults := hfaults
    obtain ⟨hrefusal, hrest⟩ := h.write w hst
    match faults' with
    | some reason :: faults => exact ⟨rfl, hst, rfl⟩
    | none :: faults => exact ⟨hrefusal, hrest, rfl⟩
    | [] => exact ⟨hrefusal, hrest, rfl⟩

theorem Mirrors.recorded (h : files.Mirrors image Like) :
    files.recorded.Mirrors image fun s t => Like s.1 t.1 ∧ t.2 = s.2.map (.through image) where
  path := h.path
  present p hst := h.present p hst.1
  write := by
    rintro ⟨s, log⟩ ⟨t, log'⟩ w ⟨hst, hlog⟩
    obtain ⟨hrefusal, hrest⟩ := h.write w hst
    refine ⟨hrefusal, hrest, ?_⟩
    obtain rfl : log' = log.map (.through image) := hlog
    show log.map (.through image) ++ [TriedWrite.mk (image w) (files.write (image w) t).1] =
      (log ++ [TriedWrite.mk w (files.write w s).1]).map (.through image)
    rw [hrefusal, List.map_append]
    rfl

theorem Mirrors.writeAll (h : files.Mirrors image Like) (ws : List FileWrite) (hst : Like s t) :
    (files.writeAll (ws.map image) t).1 = (files.writeAll ws s).1 ∧
      Like (files.writeAll ws s).2 (files.writeAll (ws.map image) t).2 := by
  induction ws generalizing s t with
  | nil => exact ⟨rfl, hst⟩
  | cons w ws ih =>
    obtain ⟨hrefusal, hrest⟩ := h.write w hst
    cases hs : files.write w s with
    | mk refusal s' =>
      cases ht : files.write (image w) t with
      | mk refusal' t' =>
        rw [hs, ht] at hrefusal hrest
        obtain rfl : refusal' = refusal := hrefusal
        cases refusal' with
        | some reason => simpa [Files.writeAll, hs, ht, h.path] using hrest
        | none => simpa [Files.writeAll, hs, ht] using ih hrest

end Files

/-- The node is a directory, and not a file or a pipe. -/
def FileNode.isDirectory : FileNode → Bool
  | .directory => true
  | _ => false

namespace FileTree

variable {t u : FileTree}

/-- Something is in the same places, and directories are. -/
def SameShape (t u : FileTree) : Prop :=
  ∀ p, (u.find? p).map FileNode.isDirectory = (t.find? p).map FileNode.isDirectory

theorem find?_filter_ne (t : FileTree) {p q : Path} (h : q ≠ p) :
    find? (t.filter fun e => e.1 != p) q = t.find? q := by
  induction t with
  | nil => rfl
  | cons e t ih =>
    by_cases he : e.1 = p
    · have hq : (q == e.1) = false := beq_eq_false_iff_ne.mpr (he ▸ h)
      rw [List.filter_cons_of_neg (by simp [he]), ih, find?, find?, List.lookup_cons, hq]
    · rw [List.filter_cons_of_pos (by simp [he]), find?, find?, List.lookup_cons, List.lookup_cons]
      cases q == e.1 with
      | true => rfl
      | false => exact ih

theorem find?_put (t : FileTree) (p q : Path) (n : FileNode) :
    (t.put p n).find? q = if q = p then some n else t.find? q := by
  by_cases h : q = p
  · simp [put, find?, h]
  · have hq : (q == p) = false := beq_eq_false_iff_ne.mpr h
    rw [if_neg h, ← find?_filter_ne t h, put, find?, List.lookup_cons, hq]
    rfl

theorem SameShape.put (h : SameShape t u) (p : Path) {m n : FileNode}
    (hmn : n.isDirectory = m.isDirectory) : SameShape (t.put p m) (u.put p n) := by
  intro q
  rw [find?_put, find?_put]
  by_cases hq : q = p
  · simp [hq, hmn]
  · simpa [hq] using h q

/-- Only the shape of a tree says what can be written. -/
theorem SameShape.blocked? (h : SameShape t u) (p : Path) : u.blocked? p = t.blocked? p := by
  have hshape (v : FileTree) : v.blocked? p =
      match (v.find? p.dropLast).map FileNode.isDirectory with
      | none => some noSuchFile
      | some true =>
        if (v.find? p).map FileNode.isDirectory = some true then some isDirectory else none
      | some false => some notDirectory := by
    rw [FileTree.blocked?]
    rcases v.find? p.dropLast with _ | _ | _ | _ <;>
      rcases v.find? p with _ | _ | _ | _ <;> rfl
  rw [hshape, hshape, h, h]

/-- A write that goes through leaves a file or a pipe, whatever is written. -/
theorem exists_write_eq (t : FileTree) (w : FileWrite) (h : t.blocked? w.path = none) :
    ∃ n : FileNode, n.isDirectory = false ∧ FileTree.write w t = (none, t.put w.path n) := by
  rw [FileTree.write, h]
  rcases t.find? w.path with _ | _ | _ | _ <;> exact ⟨_, rfl, rfl⟩

theorem SameShape.write (h : SameShape t u) {v w : FileWrite} (hpath : w.path = v.path) :
    (FileTree.write w u).1 = (FileTree.write v t).1 ∧
      SameShape (FileTree.write v t).2 (FileTree.write w u).2 := by
  have hblocked := h.blocked? v.path
  cases hv : t.blocked? v.path with
  | some reason =>
    rw [hv] at hblocked
    rw [FileTree.write, FileTree.write, hpath, hv, hblocked]
    exact ⟨rfl, h⟩
  | none =>
    rw [hv, ← hpath] at hblocked
    obtain ⟨m, hm, htree⟩ := exists_write_eq t v hv
    obtain ⟨n, hn, htree'⟩ := exists_write_eq u w hblocked
    rw [htree, htree', hpath]
    exact ⟨rfl, h.put v.path (hn.trans hm.symm)⟩

/-- A tree cannot tell what is written. -/
theorem mirrors_files {image : FileWrite → FileWrite} (hpath : ∀ w, (image w).path = w.path) :
    files.Mirrors image SameShape where
  path := hpath
  present p h := by
    have hshape := congrArg Option.isSome (h p)
    rw [Option.isSome_map, Option.isSome_map] at hshape
    exact hshape
  write w h := h.write (hpath w)

end FileTree

namespace ResetLine

/-- The same pin wired the other way. -/
def reversed (line : ResetLine) : ResetLine := { line with inverted := !line.inverted }

/-- The other one of the two levels. -/
def otherLevel (level : String) : String :=
  if level = "1" then "0" else if level = "0" then "1" else level

/-- A write of the other level, where a level is written. -/
def complement (line : ResetLine) (w : FileWrite) : FileWrite :=
  if w.path = line.valuePath then { w with content := otherLevel w.content } else w

/-- The record with every level complemented. -/
def complementRecord (line : ResetLine) (r : LineRecord) : LineRecord :=
  { r with tried := r.tried.map (.through line.complement) }

theorem path_complement (line : ResetLine) (w : FileWrite) :
    (line.complement w).path = w.path := by
  rw [complement]
  split <;> rfl

theorem complement_setLevel (line : ResetLine) (active : Bool) :
    line.complement (line.setLevel active) = line.reversed.setLevel active := by
  have hother : otherLevel (line.level active) = line.reversed.level active := by
    cases active <;> cases h : line.inverted <;> simp [otherLevel, level, reversed, h]
  have hpath : (line.setLevel active).path = line.valuePath := rfl
  rw [complement, if_pos hpath]
  exact congrArg (FileWrite.mk line.valuePath) hother

theorem openWrites_reversed (line : ResetLine) (available : Bool) :
    line.reversed.openWrites available = (line.openWrites available).map line.complement := by
  have hexport : line.complement line.exportPin = line.reversed.exportPin :=
    if_neg (by simp [exportPin, valuePath, directory])
  have hdirection : line.complement line.setDirection = line.reversed.setDirection :=
    if_neg (by simp [setDirection, valuePath])
  cases available <;> simp [openWrites, hexport, hdirection, complement_setLevel]

theorem resetWrites_reversed (line : ResetLine) :
    line.reversed.resetWrites = line.resetWrites.map line.complement := by
  simp [resetWrites, complement_setLevel]

section Reversed

variable {σ : Type} {files : Files σ} {line : ResetLine} {Like : σ → σ → Prop} {s t : σ}

theorem reset_reversed (h : files.Mirrors line.complement Like) (hst : Like s t) :
    (line.reversed.reset files.recorded (t, [])).record =
        line.complementRecord (line.reset files.recorded (s, [])).record ∧
      Like (line.reset files.recorded (s, [])).files.1
        (line.reversed.reset files.recorded (t, [])).files.1 := by
  obtain ⟨hfailure, hrest, htried⟩ :=
    h.recorded.writeAll (s := (s, [])) (t := (t, [])) line.resetWrites ⟨hst, rfl⟩
  rw [← resetWrites_reversed] at hfailure hrest htried
  refine ⟨?_, hrest⟩
  simp only [reset_eq, Driven.record, complementRecord, hfailure, htried]
  rfl

theorem prepare_reversed (h : files.Mirrors line.complement Like) (hst : Like s t) :
    (line.reversed.prepare files.recorded (t, [])).record =
        line.complementRecord (line.prepare files.recorded (s, [])).record ∧
      Like (line.prepare files.recorded (s, [])).files.1
        (line.reversed.prepare files.recorded (t, [])).files.1 := by
  have hpresent : files.present t line.reversed.directory = files.present s line.directory :=
    h.present line.directory hst
  rw [prepare_eq, prepare_eq, Files.present_recorded, Files.present_recorded, hpresent]
  generalize files.present s line.directory = available
  obtain ⟨hfailure, hrest, htried⟩ :=
    h.recorded.writeAll (s := (s, [])) (t := (t, [])) (line.openWrites available) ⟨hst, rfl⟩
  rw [← openWrites_reversed] at hfailure hrest htried
  refine ⟨?_, hrest⟩
  simp only [Driven.record, complementRecord, hfailure, htried]
  rfl

theorem pulses_reversed (h : files.Mirrors line.complement Like) (n : Nat) (hst : Like s t) :
    line.reversed.pulses files n t = (line.pulses files n s).map line.complementRecord := by
  induction n generalizing s t with
  | zero => rfl
  | succ n ih =>
    obtain ⟨hrecord, hrest⟩ := reset_reversed h hst
    rw [pulses, pulses, List.map_cons, ← hrecord, ← ih hrest]

theorem usage_reversed (h : files.Mirrors line.complement Like) (n : Nat) (hst : Like s t) :
    line.reversed.usage files n t =
      (line.usage files n s).map line.complementRecord (List.map line.complementRecord) := by
  obtain ⟨hrecord, hrest⟩ := prepare_reversed h hst
  have hfailure : (line.reversed.prepare files.recorded (t, [])).failure =
      (line.prepare files.recorded (s, [])).failure := congrArg LineRecord.failure hrecord
  rw [usage, usage, hrecord, hfailure, pulses_reversed h n hrest]
  dsimp only [Prod.map]
  split <;> rfl

end Reversed

/-- **A reset line rests, unless a failure was reported.** A line is made ready and then pulsed any
number of times, on any files. The pin is made available just if its directory is missing; the line
is an output before it is brought to rest; a pulse goes right just if both of its writes do, tries
nothing after the first one failed, and leaves the chip held in reset if only the second one failed.
So the line rests after all that went right, and the chip is held in reset only from a pulse that
reported a failure to the next write that goes through. Keeping the record changes nothing; and on
a tree of files of which any writes are made to fail, the same pin wired the other way has the same
results, with every level complemented. -/
theorem rests_unless_failed (line : ResetLine) (n : Nat) :
    (∀ {σ : Type} (files : Files σ) (s : σ), Kept line (files.present s line.directory) n
      (line.usage files n s).1 (line.usage files n s).2) ∧
    (∀ {σ : Type} (files : Files σ) (s : σ) (log : List TriedWrite),
      (line.prepare files.recorded (s, log)).unrecorded = line.prepare files s ∧
      (line.reset files.recorded (s, log)).unrecorded = line.reset files s) ∧
    ∀ (tree : FileTree) (faults : List (Option String)),
      line.reversed.usage FileTree.files.faulty n (tree, faults) =
        (line.usage FileTree.files.faulty n (tree, faults)).map line.complementRecord
          (List.map line.complementRecord) := by
  refine ⟨fun files s => kept_usage files line n s, fun files s log => ?_, fun tree faults => ?_⟩
  · exact ⟨unrecorded_prepare files line s log, unrecorded_reset files line s log⟩
  · exact usage_reversed (FileTree.mirrors_files (path_complement line)).faulty n
      ⟨fun _ => rfl, rfl⟩

/-- A pin that is available. -/
def jammedLine : ResetLine := ⟨["gpio"], 17, false⟩

/-- Two pulses of it, of which the first cannot bring the line back and the second can do nothing
at all. -/
def jammedUsage : LineRecord × List LineRecord :=
  jammedLine.usage FileTree.files.faulty 2
    ([(jammedLine.directory, .directory)], [none, none, none, some "busy", some "busy"])

theorem rests_unless_failed_jammed :
    (jammedLine.levels (jammedUsage.1 :: jammedUsage.2)).getLast? = some "1" ∧
    ∃ before r after, jammedUsage.2 = before ++ r :: after ∧ jammedLine.levels [r] = ["1"] ∧
      r.failure ≠ none ∧ AllRefused after := by
  have hlast : (jammedLine.levels (jammedUsage.1 :: jammedUsage.2)).getLast? = some "1" := by decide
  exact ⟨hlast, ((rests_unless_failed jammedLine 2).1 _ _).holds _ (List.prefix_refl _) hlast⟩

end ResetLine

end SerialHid
