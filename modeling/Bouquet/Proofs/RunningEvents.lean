import Bouquet.Proofs.RowFaults
import Bouquet.Proofs.TimeSpans

/-!
# Running Events

Whether an event runs is decided by whole seconds: those since its start and those of its duration,
each counted without its fraction. Less than a second before the start no whole second is missing,
and after the end the last second is not yet full. An event therefore counts as running for a moment
before it begins and for a moment after it is over. In a leap second the count may be ahead, so that
an event does not count although it runs. At all other instants it counts exactly while it runs.

## Main definitions

- `Event.Runs`: the instants from the start of an event to its end
- `Event.CountsEarly`, `Event.CountsLate`: the moments at which it counts as running but does not
- `Event.CountsOver`: the moment at which it runs but does not count as running
- `Event.Plain`: these moments outside of leap seconds
- `Event.secondsLeft`: the whole seconds to the end
- `Event.ToldIff`: when progress and minutes left are told

## Main statements

- `Event.isRunningAt_iff`: when an event counts as running
- `Event.told_while_running_iff`: where this is when it runs
-/

namespace Bouquet

/-! ## When an event runs -/

namespace Event

/-- An event runs from its start to its end. One that does not last a second never runs. -/
structure Runs (e : Event) (now : Instant) : Prop where
  lasts : nanosPerSecond ≤ e.duration.nanos
  begun : e.start ≤ now
  notOver : now ≤ e.finish

/-- The event begins in less than a second. -/
structure CountsEarly (e : Event) (now : Instant) : Prop where
  lasts : nanosPerSecond ≤ e.duration.nanos
  notBegun : now < e.start
  soon : -nanosPerSecond < (now.since e.start).nanos

/-- The event is over, and the second after those of its duration is not full. -/
structure CountsLate (e : Event) (now : Instant) : Prop where
  lasts : nanosPerSecond ≤ e.duration.nanos
  ended : e.finish < now
  recent : (now.since e.start).nanos < (e.duration.seconds + 1) * nanosPerSecond

/-- The event still runs, but with a leap second the second after those of its duration is full. -/
structure CountsOver (e : Event) (now : Instant) : Prop where
  runs : e.Runs now
  outrun : (e.duration.seconds + 1) * nanosPerSecond ≤ (now.since e.start).nanos

variable {e : Event} {now : Instant}

theorem Runs.not_countsEarly (h : e.Runs now) : ¬ e.CountsEarly now :=
  fun hearly => Instant.not_le.mpr hearly.notBegun h.begun

theorem Runs.not_countsLate (h : e.Runs now) : ¬ e.CountsLate now :=
  fun hlate => Instant.not_le.mpr hlate.ended h.notOver

theorem isRunningAt_iff_seconds (e : Event) (now : Instant) :
    e.isRunningAt now = true ↔
      0 < e.duration.seconds ∧ 0 ≤ (now.since e.start).seconds ∧
        (now.since e.start).seconds ≤ e.duration.seconds := by
  simp [isRunningAt, and_assoc]

/-- The same in nanoseconds. -/
theorem isRunningAt_iff_nanos (e : Event) (now : Instant) :
    e.isRunningAt now = true ↔
      nanosPerSecond ≤ e.duration.nanos ∧ -nanosPerSecond < (now.since e.start).nanos ∧
        (now.since e.start).nanos < (e.duration.seconds + 1) * nanosPerSecond := by
  rw [isRunningAt_iff_seconds, Span.seconds_pos_iff, Span.seconds_nonneg_iff]
  refine and_congr_right fun hlasts => and_congr_right fun _ => ?_
  exact Span.seconds_le_iff _ (e.duration.seconds_pos_iff.mpr hlasts).le

/-- **When an event counts as running**: while it runs, shortly before, and shortly after. In a leap
second it may fail to count while it runs. -/
theorem isRunningAt_iff (e : Event) (now : Instant) :
    e.isRunningAt now = true ↔
      (e.Runs now ∧ ¬ e.CountsOver now) ∨ e.CountsEarly now ∨ e.CountsLate now := by
  rw [isRunningAt_iff_nanos]
  constructor
  · rintro ⟨hlasts, hbegun, hnotOver⟩
    -- the instant lies before the start, after the end, or between them
    by_cases hearly : now < e.start
    · exact .inr (.inl ⟨hlasts, hearly, hbegun⟩)
    · by_cases hlate : e.finish < now
      · exact .inr (.inr ⟨hlasts, hlate, hnotOver⟩)
      · refine .inl ⟨⟨hlasts, Instant.not_lt.mp hearly, Instant.not_lt.mp hlate⟩, fun hover => ?_⟩
        exact Int.not_le.mpr hnotOver hover.outrun
  · rintro (⟨hruns, hover⟩ | ⟨hlasts, hearly, hsoon⟩ | ⟨hlasts, hlate, hrecent⟩)
    · refine ⟨hruns.lasts, Instant.neg_lt_since hruns.begun, Int.not_le.mp fun houtrun => ?_⟩
      exact hover ⟨hruns, houtrun⟩
    · -- the duration has a whole second, and a span that leads back is shorter than two
      have hone := e.duration.seconds_pos_iff.mpr hlasts
      have hback := Instant.since_lt hearly
      refine ⟨hlasts, hsoon, ?_⟩
      rw [nanosPerSecond] at *
      omega
    · -- the end comes after the start
      have hbegun : e.start < now := Instant.lt_trans (Instant.lt_later hlasts) hlate
      exact ⟨hlasts, Instant.neg_lt_since (Instant.le_of_lt hbegun), hrecent⟩

/-! ## Outside of leap seconds -/

/-- What the conditions come to when neither the event starts in a leap second nor the instant lies
in one: bounds on nanoseconds, and no instant at which the event runs but does not count. -/
structure Plain (e : Event) (now : Instant) : Prop where
  runs : e.Runs now ↔ nanosPerSecond ≤ e.duration.nanos ∧
    e.start.nanos ≤ now.nanos ∧ now.nanos ≤ e.start.nanos + e.duration.nanos
  early : e.CountsEarly now ↔ nanosPerSecond ≤ e.duration.nanos ∧
    now.nanos < e.start.nanos ∧ e.start.nanos < now.nanos + nanosPerSecond
  late : e.CountsLate now ↔ nanosPerSecond ≤ e.duration.nanos ∧
    e.start.nanos + e.duration.nanos < now.nanos ∧
      now.nanos < e.start.nanos + (e.duration.seconds + 1) * nanosPerSecond
  notCountsOver : ¬ e.CountsOver now

theorem nanos_finish (hstart : e.start.isLeap = false) :
    e.finish.nanos = e.start.nanos + e.duration.nanos := by
  rw [finish, Instant.later_of_not_isLeap hstart, Instant.nanos_ofNanos]

theorem isLeap_finish (hlasts : nanosPerSecond ≤ e.duration.nanos) : e.finish.isLeap = false :=
  Instant.isLeap_later hlasts

/-- Only in a leap second does an event fail to count while it runs. -/
theorem CountsOver.isLeap (h : e.CountsOver now) : now.isLeap = true := by
  rw [← Bool.not_eq_false]
  intro hnow
  have hnotOver := (Instant.le_iff_nanos_le hnow (isLeap_finish h.runs.lasts)).mp h.runs.notOver
  have hlater : e.finish.nanos = _ := Instant.nanos_later h.runs.lasts
  have hfull := (e.duration.seconds_le_iff (e.duration.seconds_pos_iff.mpr h.runs.lasts).le).mp
    (Int.le_refl _)
  have houtrun := h.outrun
  rw [Instant.nanos_since] at houtrun
  rw [nanosPerSecond] at hlater hfull houtrun
  -- a leap second at the start is counted where the span to the end leaves it out
  rcases Instant.leapBetween_cases now e.start with ⟨hadd, -, hleap⟩ | ⟨-, -, hleap⟩ | ⟨hadd, -⟩
  · rw [if_pos hleap] at hlater
    omega
  · exact absurd hleap (by rw [hnow]; decide)
  · split at hlater <;> omega

theorem plain_of_not_isLeap (hstart : e.start.isLeap = false) (hnow : now.isLeap = false) :
    e.Plain now where
  runs := by
    constructor
    · rintro ⟨hlasts, hbegun, hnotOver⟩
      rw [Instant.le_iff_nanos_le hnow (isLeap_finish hlasts), nanos_finish hstart] at hnotOver
      exact ⟨hlasts, (Instant.le_iff_nanos_le hstart hnow).mp hbegun, hnotOver⟩
    · rintro ⟨hlasts, hbegun, hnotOver⟩
      refine ⟨hlasts, (Instant.le_iff_nanos_le hstart hnow).mpr hbegun, ?_⟩
      rwa [Instant.le_iff_nanos_le hnow (isLeap_finish hlasts), nanos_finish hstart]
  early := by
    have hsince := Instant.since_of_not_isLeap hnow hstart
    constructor
    · rintro ⟨hlasts, hnotBegun, hsoon⟩
      exact ⟨hlasts, (Instant.lt_iff_nanos_lt hnow hstart).mp hnotBegun, by omega⟩
    · rintro ⟨hlasts, hnotBegun, hsoon⟩
      exact ⟨hlasts, (Instant.lt_iff_nanos_lt hnow hstart).mpr hnotBegun, by omega⟩
  late := by
    have hsince := Instant.since_of_not_isLeap hnow hstart
    constructor
    · rintro ⟨hlasts, hended, hrecent⟩
      rw [Instant.lt_iff_nanos_lt (isLeap_finish hlasts) hnow, nanos_finish hstart] at hended
      exact ⟨hlasts, hended, by omega⟩
    · rintro ⟨hlasts, hended, hrecent⟩
      refine ⟨hlasts, ?_, by omega⟩
      rwa [Instant.lt_iff_nanos_lt (isLeap_finish hlasts) hnow, nanos_finish hstart]
  notCountsOver := fun hover => absurd hover.isLeap (by rw [hnow]; decide)

/-! ## What is told of it -/

theorem isSome_progressAt (e : Event) (now : Instant) :
    (e.progressAt now).isSome = e.isRunningAt now := by
  unfold progressAt
  cases e.isRunningAt now <;> rfl

/-- The whole seconds to the end of the event. -/
def secondsLeft (e : Event) (now : Instant) : Int := (e.finish.since now).seconds

theorem stop_eq (hstop : e.EndsInCalendar) : e.stop = .ok e.finish :=
  if_pos hstop

/-- The minutes left are told while the event counts as running. -/
theorem remainingMinutes_eq (hstop : e.EndsInCalendar) (now : Instant) :
    e.remainingMinutes now
      = .ok (if e.isRunningAt now then some ((e.secondsLeft now + 59).tdiv 60) else none) := by
  unfold remainingMinutes
  rw [stop_eq hstop]
  cases e.isRunningAt now <;> rfl

/-- Progress and minutes left of an event are told under a condition and under no other. -/
def ToldIff (e : Event) (now : Instant) (condition : Prop) : Prop :=
  ((e.progressAt now).isSome = true ↔ condition) ∧
    ∃ minutes, e.remainingMinutes now = .ok minutes ∧ (minutes.isSome = true ↔ condition)

theorem toldIff_iff (hstop : e.EndsInCalendar) {condition : Prop} :
    e.ToldIff now condition ↔ (e.isRunningAt now = true ↔ condition) := by
  unfold ToldIff
  rw [isSome_progressAt, remainingMinutes_eq hstop]
  constructor
  · exact And.left
  · intro h
    refine ⟨h, _, rfl, ?_⟩
    rw [← h]
    cases e.isRunningAt now <;> simp

/-- **Told while it runs**: progress and minutes left of an event are told while it runs, in less
than a second before its start, and from its end to the end of the second after those of its
duration. Only in a leap second are they not told while it runs, when this second is full before the
end. They are told exactly while it runs at all instants outside of these moments. The moments are
bounds on nanoseconds when no leap second is involved, and the last one is then not there. -/
theorem told_while_running_iff (e : Event) (now : Instant) (hstop : e.EndsInCalendar) :
    e.ToldIff now ((e.Runs now ∧ ¬ e.CountsOver now) ∨ e.CountsEarly now ∨ e.CountsLate now) ∧
      (e.ToldIff now (e.Runs now) ↔
        ¬ e.CountsEarly now ∧ ¬ e.CountsLate now ∧ ¬ e.CountsOver now) ∧
      (e.CountsOver now → now.isLeap = true) ∧
      (e.start.isLeap = false → now.isLeap = false → e.Plain now) := by
  rw [toldIff_iff hstop, toldIff_iff hstop, isRunningAt_iff]
  refine ⟨Iff.rfl, ⟨?_, ?_⟩, CountsOver.isLeap, plain_of_not_isLeap⟩
  · intro hexact
    refine ⟨fun hearly => ?_, fun hlate => ?_, fun hover => ?_⟩
    · exact (hexact.mp (.inr (.inl hearly))).not_countsEarly hearly
    · exact (hexact.mp (.inr (.inr hlate))).not_countsLate hlate
    · -- while it runs, it counts neither early nor late
      rcases hexact.mpr hover.runs with ⟨-, hcounts⟩ | hearly | hlate
      · exact hcounts hover
      · exact hover.runs.not_countsEarly hearly
      · exact hover.runs.not_countsLate hlate
  · rintro ⟨hearly, hlate, hover⟩
    rw [or_iff_left (not_or.mpr ⟨hearly, hlate⟩), and_iff_left hover]

/-- Half an hour, from the epoch on. -/
def halfHour : Event := ⟨"", .ofParts 0 0, ⟨1800 * nanosPerSecond⟩⟩

theorem told_while_running_iff_halfHour :
    halfHour.EndsInCalendar ∧
      halfHour.ToldIff (.ofParts 1800 0) (halfHour.Runs (.ofParts 1800 0)) := by
  have hstop : halfHour.EndsInCalendar := rfl
  obtain ⟨-, hexact, -, hplain⟩ := halfHour.told_while_running_iff (.ofParts 1800 0) hstop
  exact ⟨hstop, hexact.mpr ⟨fun h => absurd h.notBegun (by decide),
    fun h => absurd h.ended (by decide), (hplain rfl rfl).notCountsOver⟩⟩

/-- Half a second before the start and nine tenths of a second after the end, the event does not
run, but progress and minutes left are told. -/
theorem told_outside_of_event :
    halfHour.EndsInCalendar ∧
      ¬ halfHour.ToldIff (.ofParts (-1) 500000000) (halfHour.Runs (.ofParts (-1) 500000000)) ∧
      ¬ halfHour.ToldIff (.ofParts 1800 900000000) (halfHour.Runs (.ofParts 1800 900000000)) := by
  have hstop : halfHour.EndsInCalendar := rfl
  rw [toldIff_iff hstop, toldIff_iff hstop]
  exact ⟨hstop, fun h => absurd (h.mp (by decide)).begun (by decide),
    fun h => absurd (h.mp (by decide)).notOver (by decide)⟩

end Event

end Bouquet
