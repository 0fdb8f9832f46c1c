/-
SerialHid.Proofs.Validation — which configurations are accepted, and that the engine can start with
all of them.

* `Config.IsDelay` — a number of seconds that a delay may have, said of the rational number.
* `Config.Sections.Holds` — what each field has to satisfy; `Config.Field.inOrder` is the order in
  which they are judged, and `Config.Sections.FirstBroken` the field that a refusal names.
* `Config.violation?_eq_findSome?` — the chain of checks as a search along that order. What is first
  and what comes before it then follows from the library's lemmas on such searches.
* `Config.Sections.Usable` — no conversion fails, and no delay comes out too short.
* `Config.validation_exact` — all of it, for every configuration and every file.
-/
import SerialHid.Config.Load
import SerialHid.Proofs.Binary64

namespace SerialHid

namespace Config

/-! ## What fields have to satisfy -/

/-- The number of 64 bits that is nearest to a tenth. -/
def tenthValue : ℚ := 3602879701896397 / 2 ^ 55

/-- At least a tenth of a second, as a number of 64 bits can say it, and less than `2 ^ 64`
seconds. -/
def IsDelay (x : Binary64) : Prop := ∃ q, x.value? = some q ∧ tenthValue ≤ q ∧ q < 2 ^ 64

/-- The order in which the fields are judged. -/
def Field.inOrder : List Field :=
  [.readRetries, .commonRetries, .retriesDelay, .readTimeout, .resetDelay, .speed]

/-- The field may have the value that it has. -/
def Sections.Holds (c : Sections) : Field → Prop
  | .readRetries => 1 ≤ c.hid.readRetries
  | .commonRetries => 1 ≤ c.hid.commonRetries
  | .retriesDelay => IsDelay c.hid.retriesDelay
  | .readTimeout => IsDelay c.serial.readTimeout
  | .resetDelay => IsDelay c.reset.delay
  | .speed => c.serial.speed ∈ standardSpeeds

/-- The field is the first one with a value that it may not have. -/
def Sections.FirstBroken (c : Sections) (f : Field) : Prop :=
  ∃ before after, Field.inOrder = before ++ f :: after ∧ (∀ g ∈ before, c.Holds g) ∧ ¬ c.Holds f

/-- The number of seconds comes to this length of time, which is at least a tenth of a second. -/
def Lasts (x : Binary64) (d : Duration) : Prop :=
  ∃ q, x.value? = some q ∧ Measures q d ∧ (Duration.ofMillis 100).nanoseconds ≤ d.nanoseconds

/-- The engine can be started with the configuration. -/
structure Sections.Usable (c : Sections) : Prop where
  settings : ∃ s, c.settings? = some s ∧ Lasts c.hid.retriesDelay s.retriesDelay ∧
    0 < s.readRetries ∧ 0 < s.commonRetries
  readTimeout : ∃ d, c.readTimeout? = some d ∧ Lasts c.serial.readTimeout d
  resetDelay : ∃ d, c.resetDelay? = some d ∧ Lasts c.reset.delay d

/-! ## Delays -/

section Delay

variable {x : Binary64} {field : Field} {v : Violation}

theorem value?_tenth : tenth.value? = some tenthValue := by
  have hsign : tenth.isNegative = false := by decide
  have hsignificand : tenth.significand = 7205759403792794 := by decide
  have hexponent : tenth.exponent = -56 := by decide
  refine Binary64.value?_eq_some_iff.mpr ⟨by decide, by decide, ?_⟩
  rw [Binary64.value, hsign, hsignificand, hexponent, tenthValue]
  norm_num

theorem isDelay_iff : IsDelay x ↔ x.atLeast tenth = true ∧ x.duration?.isSome = true := by
  obtain ⟨-, -, htenth⟩ := Binary64.value?_eq_some_iff.mp value?_tenth
  have hpos : 0 < tenthValue := by norm_num [tenthValue]
  rw [Binary64.isSome_duration?_iff]
  constructor
  · rintro ⟨q, hq, hlow, hhigh⟩
    refine ⟨?_, q, hq, hpos.le.trans hlow, hhigh⟩
    obtain ⟨hnan, -, rfl⟩ := Binary64.value?_eq_some_iff.mp hq
    exact (Binary64.atLeast_iff hnan (by decide)).mpr (htenth ▸ hlow)
  · rintro ⟨hlow, q, hq, -, hhigh⟩
    refine ⟨q, hq, ?_, hhigh⟩
    obtain ⟨hnan, -, rfl⟩ := Binary64.value?_eq_some_iff.mp hq
    exact htenth ▸ (Binary64.atLeast_iff hnan (by decide)).mp hlow

theorem checkSeconds_eq_none_iff : checkSeconds field x = none ↔ IsDelay x := by
  rw [isDelay_iff, checkSeconds]
  cases x.atLeast tenth <;> cases x.duration? <;> simp

theorem field_of_checkSeconds (h : checkSeconds field x = some v) : v.field = field := by
  rw [checkSeconds] at h
  split_ifs at h
  · cases h
    rfl
  · cases h
    rfl

/-- A delay has a length of time, and rounding does not take it below a tenth of a second. -/
theorem exists_lasts (h : IsDelay x) : ∃ d, x.duration? = some d ∧ Lasts x d := by
  obtain ⟨d, hd⟩ := Option.isSome_iff_exists.mp (isDelay_iff.mp h).2
  obtain ⟨q, hq, hlow, -⟩ := h
  have hmeasures := Binary64.measures_of_duration? hd hq
  refine ⟨d, hd, q, hq, hmeasures, ?_⟩
  have hnear := (abs_le.mp hmeasures.near).1
  have htenth : (10 ^ 8 : ℚ) ≤ tenthValue * 10 ^ 9 := by norm_num [tenthValue]
  have hnanoseconds : ((10 ^ 8 - 1 : Nat) : ℚ) < d.nanoseconds := by
    push_cast
    linarith
  have hwhole := Nat.cast_lt.mp hnanoseconds
  show 100 * 1000000 ≤ d.nanoseconds
  omega

end Delay

/-! ## All fields -/

section Fields

variable {c : Sections} {f : Field} {v : Violation}

/-- The check of one field. -/
def Sections.check (c : Sections) : Field → Option Violation
  | .readRetries => checkRetries .readRetries c.hid.readRetries
  | .commonRetries => checkRetries .commonRetries c.hid.commonRetries
  | .retriesDelay => checkSeconds .retriesDelay c.hid.retriesDelay
  | .readTimeout => checkSeconds .readTimeout c.serial.readTimeout
  | .resetDelay => checkSeconds .resetDelay c.reset.delay
  | .speed => checkSpeed c.serial.speed

theorem Field.mem_inOrder (f : Field) : f ∈ inOrder := by
  cases f <;> decide

theorem violation?_eq_findSome? (c : Sections) :
    c.violation? = Field.inOrder.findSome? c.check := by
  have hcons (f : Field) (fields : List Field) :
      (f :: fields).findSome? c.check = (c.check f <|> fields.findSome? c.check) := by
    rw [List.findSome?_cons]
    cases c.check f <;> rfl
  have hlast : (c.check .speed <|> none) = c.check .speed := by
    cases c.check .speed <;> rfl
  simp only [Field.inOrder, hcons, List.findSome?_nil, hlast]
  rfl

theorem checkRetries_eq_none_iff {n : Nat} : checkRetries f n = none ↔ 1 ≤ n := by
  rw [checkRetries]
  split_ifs with h
  · exact iff_of_false (by simp) (by omega)
  · exact iff_of_true rfl (by omega)

theorem field_of_checkRetries {n : Nat} (h : checkRetries f n = some v) : v.field = f := by
  rw [checkRetries] at h
  split_ifs at h
  cases h
  rfl

theorem checkSpeed_eq_none_iff {n : Nat} : checkSpeed n = none ↔ n ∈ standardSpeeds := by
  rw [checkSpeed, ← List.contains_iff_mem]
  cases standardSpeeds.contains n <;> simp

theorem field_of_checkSpeed {n : Nat} (h : checkSpeed n = some v) : v.field = .speed := by
  rw [checkSpeed] at h
  split_ifs at h
  cases h
  rfl

theorem check_eq_none_iff : c.check f = none ↔ c.Holds f := by
  cases f with
  | readRetries => exact checkRetries_eq_none_iff
  | commonRetries => exact checkRetries_eq_none_iff
  | retriesDelay => exact checkSeconds_eq_none_iff
  | readTimeout => exact checkSeconds_eq_none_iff
  | resetDelay => exact checkSeconds_eq_none_iff
  | speed => exact checkSpeed_eq_none_iff

/-- A refusal names the field that was looked at. -/
theorem field_of_check (h : c.check f = some v) : v.field = f := by
  cases f with
  | readRetries => exact field_of_checkRetries h
  | commonRetries => exact field_of_checkRetries h
  | retriesDelay => exact field_of_checkSeconds h
  | readTimeout => exact field_of_checkSeconds h
  | resetDelay => exact field_of_checkSeconds h
  | speed => exact field_of_checkSpeed h

theorem violation?_eq_none_iff : c.violation? = none ↔ ∀ f, c.Holds f := by
  rw [violation?_eq_findSome?, List.findSome?_eq_none_iff]
  constructor
  · intro h f
    exact check_eq_none_iff.mp (h f f.mem_inOrder)
  · intro h f _
    exact check_eq_none_iff.mpr (h f)

theorem exists_violation?_iff :
    (∃ reason, c.violation? = some ⟨f, reason⟩) ↔ c.FirstBroken f := by
  simp only [violation?_eq_findSome?, List.findSome?_eq_some_iff]
  constructor
  · rintro ⟨reason, before, g, after, horder, hg, hbefore⟩
    obtain rfl : f = g := field_of_check hg
    refine ⟨before, after, horder, fun g hmem => check_eq_none_iff.mp (hbefore g hmem), ?_⟩
    rw [← check_eq_none_iff, hg]
    simp
  · rintro ⟨before, after, horder, hbefore, hbroken⟩
    obtain ⟨v, hv⟩ := Option.ne_none_iff_exists'.mp (mt check_eq_none_iff.mp hbroken)
    obtain rfl := field_of_check hv
    exact ⟨v.reason, before, v.field, after, horder, hv,
      fun g hmem => check_eq_none_iff.mpr (hbefore g hmem)⟩

/-! ## Files -/

theorem checked_eq_ok_iff {c' : Sections} : checked c = .ok c' ↔ c.violation? = none ∧ c = c' := by
  rw [checked]
  cases c.violation? <;> simp

theorem checked_eq_error_iff : checked c = .error (.invalid v) ↔ c.violation? = some v := by
  rw [checked]
  cases c.violation? <;> simp

/-- Whatever is loaded has been checked. -/
theorem checked_of_loadBy {read? : String → Option Sections} {path : String} {found : Found}
    (h : loadBy read? path found = .ok c) : checked c = .ok c := by
  have hself {c' : Sections} (h : checked c' = .ok c) : checked c = .ok c := by
    obtain ⟨-, rfl⟩ := checked_eq_ok_iff.mp h
    exact h
  cases found with
  | nothing =>
    rw [loadBy] at h
    exact hself h
  | unreadable reason => cases h
  | content bytes =>
    rw [loadBy] at h
    split at h
    · rw [ofText] at h
      split at h
      · exact hself h
      · cases h
    · cases h

theorem usable_of_holds (h : ∀ f, c.Holds f) : c.Usable where
  settings := by
    obtain ⟨d, hd, hlasts⟩ := exists_lasts (h .retriesDelay)
    simp only [Sections.settings?, hd, Option.map_some, Option.some.injEq, exists_eq_left']
    exact ⟨hlasts, h .readRetries, h .commonRetries⟩
  readTimeout := exists_lasts (h .readTimeout)
  resetDelay := exists_lasts (h .resetDelay)

end Fields

/-- **Validation is exact, and what it accepts can be used.** A configuration is accepted exactly if
each of its fields may have the value that it has, and otherwise the first one that may not is
named. Whatever a file holds, however texts are read, and if there is no file, a configuration that
is loaded has been accepted; its delays have lengths of time, none of them below a tenth of a
second, and both budgets allow an attempt. -/
theorem validation_exact :
    (∀ c : Sections, checked c = .ok c ↔ ∀ f, c.Holds f) ∧
    (∀ (c : Sections) (f : Field),
      (∃ reason, checked c = .error (.invalid ⟨f, reason⟩)) ↔ c.FirstBroken f) ∧
    Field.inOrder.map Field.name = ["hid.read_retries", "hid.common_retries", "hid.retries_delay",
      "serial.read_timeout", "reset.reset_delay", "serial.speed"] ∧
    ∀ read? : String → Option Sections,
      (∀ path : String, loadBy read? path .nothing = .ok {}) ∧
      ∀ (path : String) (found : Found) (c : Sections), loadBy read? path found = .ok c →
        checked c = .ok c ∧ c.Usable := by
  refine ⟨fun c => ?accepted, fun c f => ?refused, rfl,
    fun read? => ⟨fun path => ?missing, fun path found c h => ?loaded⟩⟩
  case accepted => simp only [checked_eq_ok_iff, and_true, violation?_eq_none_iff]
  case refused => simp only [checked_eq_error_iff, exists_violation?_iff]
  case missing =>
    have hvalid : ({} : Sections).violation? = none := by decide
    exact checked_eq_ok_iff.mpr ⟨hvalid, rfl⟩
  case loaded =>
    have hchecked := checked_of_loadBy h
    have hholds := violation?_eq_none_iff.mp (checked_eq_ok_iff.mp hchecked).1
    exact ⟨hchecked, usable_of_holds hholds⟩

/-- A file with the least delay that is accepted. -/
theorem validation_exact_tenth :
    load "config.toml" (.content "[hid]\nretries_delay = 0.1\n".toUTF8) =
        .ok { hid := { retriesDelay := tenth } } ∧
      checked { hid := { retriesDelay := tenth } } = .ok { hid := { retriesDelay := tenth } } ∧
      Sections.Usable { hid := { retriesDelay := tenth } } := by
  obtain ⟨-, -, -, hreader⟩ := validation_exact
  have h : load "config.toml" (.content "[hid]\nretries_delay = 0.1\n".toUTF8) =
      .ok { hid := { retriesDelay := tenth } } := by decide +kernel
  exact ⟨h, (hreader ofToml?).2 _ _ _ h⟩

end Config

end SerialHid
