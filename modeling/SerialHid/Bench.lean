/-
SerialHid.Bench — scripted surroundings, in which a request or a whole worker can be
rehearsed.

A bench holds a simulated chip and a reset line. It can be told to answer certain requests
in a way of its own, and to do something at a certain request, look, opening or pulse: the scripted
connections of SPEC_FULL §16, Test Tooling.

* `Bench` — the surroundings, and how often each of them was called upon.
* `Bench.exchange`, `Bench.look`, `Bench.openLink`, `Bench.pulse` — how they respond; what
  was to be done on the occasion comes with the response.
* `Bench.rehearse` — one request from beginning to end.
* `Bench.advance`, `Bench.drive` — the worker, until it ends or meets a fault.
-/
import SerialHid.Chip
import SerialHid.Worker

namespace SerialHid

/-- What calls upon the surroundings. -/
inductive Occasion where
  | exchange
  | presence
  | opening
  | reset
  deriving DecidableEq, Repr

/-- What is to be done on an occasion. -/
inductive BenchAction where
  /-- Something about the chip. -/
  | chip (a : Chip.Action)
  /-- An act of others. -/
  | act (a : Act)
  deriving Repr

/-- An answer in place of the chip's. -/
inductive ScriptedReply where
  /-- These bytes, whatever the request. -/
  | bytes (response : List UInt8)
  /-- These bytes, if the request is one. -/
  | checked (response : List UInt8)
  | failed (e : LinkError)
  | crash (message : Option String)
  deriving Repr

/-- The reset line of a bench. -/
inductive BenchLine where
  /-- Every pulse succeeds. -/
  | wired
  /-- There is no line. -/
  | none
  /-- Every pulse fails. -/
  | failing
  deriving DecidableEq, Repr

/-- Scripted surroundings. -/
structure Bench where
  chip : Chip
  line : BenchLine
  /-- The answers to the requests still to come; where there is none, the chip answers. -/
  replies : List (Option ScriptedReply)
  /-- What is to be done, by the occasion and how often it came before. -/
  script : List (Occasion × Nat × List BenchAction)
  exchanges : Nat
  presences : Nat
  openings : Nat
  resets : Nat
  deriving Repr

namespace Bench

/-- A bench on which nothing is scripted. -/
def plain (chip : Chip) (line : BenchLine) : Bench where
  chip := chip
  line := line
  replies := []
  script := []
  exchanges := 0
  presences := 0
  openings := 0
  resets := 0

/-- Whether resets go through the line. -/
def isWired (b : Bench) : Bool :=
  match b.line with
  | .wired => true
  | .none => false
  | .failing => true

/-- What is to be done when an occasion comes for the `n`-th time. -/
def scripted (b : Bench) (occasion : Occasion) (n : Nat) : List BenchAction :=
  b.script.flatMap fun (o, k, actions) => if o = occasion ∧ k = n then actions else []

/-- Does what concerns the chip, and hands on what others do. -/
def perform (b : Bench) : List BenchAction → List Act × Bench
  | [] => ([], b)
  | .chip a :: rest => perform { b with chip := b.chip.perform a } rest
  | .act a :: rest =>
    let (acts, b) := perform b rest
    (a :: acts, b)

/-- Answers as the script wants. -/
def reply (request : List UInt8) : ScriptedReply → Reply
  | .bytes response => .answer (.ok response)
  | .checked response =>
    match checkRequest request with
    | .ok () => .answer (.ok response)
    | .error e => .answer (.error e)
  | .failed e => .answer (.error e)
  | .crash message => .crash message

/-- A request. -/
def exchange (b : Bench) (request : List UInt8) : List Act × Reply × Bench :=
  let (acts, b) := b.perform (b.scripted .exchange b.exchanges)
  let scripted := b.replies.head?.join
  let b := { b with exchanges := b.exchanges + 1, replies := b.replies.tail }
  match scripted with
  | some r => (acts, reply request r, b)
  | none =>
    let (answer, chip) := b.chip.exchange request
    (acts, .answer answer, { b with chip })

/-- A look for the device. -/
def look (b : Bench) : List Act × Bool × Bench :=
  let (acts, b) := b.perform (b.scripted .presence b.presences)
  (acts, b.chip.present, { b with presences := b.presences + 1 })

/-- An opening of the transport. -/
def openLink (b : Bench) : List Act × Option LinkError × Bench :=
  let (acts, b) := b.perform (b.scripted .opening b.openings)
  let (failure, chip) := b.chip.openLink
  (acts, failure, { b with chip, openings := b.openings + 1 })

/-- The failure of a line on which every pulse fails. -/
def stuck : ResetError := ⟨"/sys/class/gpio/gpio4/value", "line stuck"⟩

/-- A pulse of the reset line. -/
def pulse (b : Bench) : List Act × Pulse × Bench :=
  let (acts, b) := b.perform (b.scripted .reset b.resets)
  let outcome : Pulse :=
    match b.line with
    | .wired => .done
    | .none => .skipped
    | .failing => .failed stuck
  (acts, outcome, { b with resets := b.resets + 1 })

/-! ## One request -/

/-- Carries a job on until it returns; `none` if the connection collapses or the fuel is
spent. -/
def carry (settings : Settings) : Nat → Job → Desk → Bench → Option (Bool × Desk × Bench)
  | 0, _, _, _ => none
  | fuel + 1, j, d, b =>
    let progress : Option (Progress × Desk) × Bench :=
      match j.pending? with
      | none => (j.step? settings d .proceed, b)
      | some request =>
        match b.exchange request with
        | (acts, .answer a, b) => (j.step? settings (d.acts acts) (.answer a), b)
        | (_, .crash _, b) => (none, b)
    match progress with
    | (none, _) => none
    | (some (.returned ok, d), b) => some (ok, d, b)
    | (some (.underway j, d), b) => carry settings fuel j d b

/-- Enough steps for any request: an attempt takes at most three, and there are no more of
them than the budget for all of them allows. -/
def carryFuel (settings : Settings) : Nat := 3 * settings.commonRetries + 2

/-- One request from beginning to end. -/
def rehearse (settings : Settings) (request : List UInt8) (d : Desk) (b : Bench) :
    Option (Bool × Desk × Bench) :=
  carry settings (carryFuel settings) (.start settings request) d b

/-! ## A worker -/

/-- The next move of the surroundings, with what others do before it. Where neither the
worker nor the device has anything to do, the time for an event runs out. -/
def nextMoves (b : Bench) (setup : Setup) (c : Config) : List Act × Move × Bench :=
  match c.point with
  | .initialPulse | .session .linePulse =>
    let (acts, p, b) := b.pulse
    (acts, .pulse p, b)
  | .looking (_ + 1) | .session .checking =>
    let (acts, present, b) := b.look
    (acts, .presence present, b)
  | .opening =>
    let (acts, failure, b) := b.openLink
    (acts, .opened failure, b)
  | .session (.request _ j) =>
    match j.pending? with
    | none => ([], .proceed, b)
    | some request =>
      let (acts, r, b) := b.exchange request
      (acts, .reply r, b)
  | .session .receiving =>
    ([], if (Worker.receive? setup c.desk).isSome then .proceed else .timeout, b)
  | _ => ([], .proceed, b)

/-- Counts a close of the connection on the chip. -/
def noteClose (before after : Config) (b : Bench) : Bench :=
  match before.point, after.point with
  | .session _, .session _ => b
  | .session _, _ => { b with chip := b.chip.closeLink }
  | _, _ => b

/-- One step of the worker in these surroundings; `none` once it has ended. -/
def advance (setup : Setup) (c : Config) (b : Bench) : Option (Config × Bench) :=
  let (acts, move, b) := b.nextMoves setup c
  match Worker.step? setup { c with desk := c.desk.acts acts } move with
  | none => none
  | some c' => some (c', noteClose c c' b)

/-- How a rehearsal of the worker ended. -/
inductive Ending where
  /-- The worker ended. -/
  | finished
  /-- The worker met a fault. -/
  | fault
  /-- Neither came within the steps allowed. -/
  | unfinished
  deriving DecidableEq, Repr

/-- Drives the worker until it ends or has told a fault. -/
def drive (setup : Setup) : Nat → Config → Bench → Ending × Config
  | 0, c, _ => (.unfinished, c)
  | fuel + 1, c, b =>
    match c.point with
    | .ended => (.finished, c)
    | .pausing => (.fault, c)
    | _ =>
      match b.advance setup c with
      | none => (.unfinished, c)
      | some (c, b) => drive setup fuel c b

end Bench

end SerialHid
