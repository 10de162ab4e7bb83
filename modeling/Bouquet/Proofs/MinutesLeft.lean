import Bouquet.Proofs.RunningEvents

/-!
# Minutes Left

The minutes left of a running event are the whole seconds to its end, rounded up. Three spans enter
into them, the one since the start, the one to the end, and the duration, and each is cut to whole
seconds on its own, so that these need not add up. At worst the end has passed by less than a
second, which counts as no second, or by two more where leap seconds are involved, and this is still
no minute. In a leap second the span to an end on another day is a second shorter than it should be,
so that a minute may be gained when it is over.

Spans and counts of seconds are bounded. A checked computation fails where a bound is exceeded, and
for events and clocks of the calendar none is.

## Main definitions

- `TimeOverflow`, `Checked`: how a computation with times fails, and what may fail so
- `Checked.progressAt`, `Checked.remainingMinutes`: the computations with every step checked

## Main statements

- `Event.neg_le_secondsLeft`: the seconds left of a running event
- `minutes_bounds`: rounding up to minutes
- `Checked.progressAt_eq`, `Checked.remainingMinutes_eq`: no step exceeds its bounds
- `Event.minutes_left`: the minutes that are told
- `minutes_gained_at_midnight`: a leap second after which more minutes are left
-/

namespace Bouquet

/-! ## Seconds and minutes -/

/-- Seconds rounded up to minutes. Up to a minute below zero they come to no minute. -/
theorem minutes_bounds {seconds : Int} (h : -60 < seconds) :
    let minutes := (seconds + 59).tdiv 60
    0 ≤ minutes ∧ 60 * (minutes - 1) < seconds ∧ seconds ≤ 60 * minutes := by
  intro minutes
  have hminutes : minutes = (seconds + 59) / 60 := Int.tdiv_eq_ediv_of_nonneg (by omega)
  rw [hminutes]
  omega

/-- A second more comes to one minute more at most. -/
theorem minutes_le_add_one {seconds more : Int} (h : -60 < seconds) (hmore : -60 < more)
    (hle : more ≤ seconds + 1) : (more + 59).tdiv 60 ≤ (seconds + 59).tdiv 60 + 1 := by
  rw [Int.tdiv_eq_ediv_of_nonneg (by omega), Int.tdiv_eq_ediv_of_nonneg (by omega)]
  omega

namespace Event

variable {e : Event} {now later : Instant}

/-- An event counts as running for less than a second after its end. Leap seconds at its start and
at the instant may come on top of that. -/
theorem neg_le_secondsLeft (h : e.isRunningAt now = true) : -2 ≤ e.secondsLeft now := by
  obtain ⟨hlasts, -, hsince⟩ := (isRunningAt_iff_nanos e now).mp h
  have hpos := e.duration.seconds_pos_iff.mpr hlasts
  have hduration := (e.duration.le_seconds_iff hpos).mp (Int.le_refl _)
  have hleft : _ ≤ (e.finish.since now).nanos := Instant.le_since_later (u := now) hlasts
  refine ((e.finish.since now).neg_le_seconds_iff (by decide)).mpr ?_
  rw [Int.add_mul, Int.one_mul] at hsince
  rw [nanosPerSecond] at *
  omega

/-- Outside of leap seconds, what is left is the difference of the nanoseconds. -/
theorem secondsLeft_eq (hlasts : nanosPerSecond ≤ e.duration.nanos)
    (hstart : e.start.isLeap = false) (hnow : now.isLeap = false) :
    e.secondsLeft now = (Span.mk (e.start.nanos + e.duration.nanos - now.nanos)).seconds := by
  have hsince := Instant.since_of_not_isLeap (isLeap_finish hlasts) hnow
  rw [nanos_finish hstart] at hsince
  exact congrArg (fun nanos => (Span.mk nanos).seconds) hsince

/-- As time goes by outside of leap seconds, or by a second, fewer seconds are left. -/
theorem secondsLeft_anti (hlasts : nanosPerSecond ≤ e.duration.nanos) (h : now ≤ later)
    (hplain : now.isLeap = false ∧ later.isLeap = false ∨
      now.nanos + nanosPerSecond ≤ later.nanos) :
    e.secondsLeft later ≤ e.secondsLeft now :=
  Int.tdiv_le_tdiv (by decide) (Instant.since_anti (isLeap_finish hlasts) h hplain)

/-- As time goes by, at most one more second is left. -/
theorem secondsLeft_le_add_one (hlasts : nanosPerSecond ≤ e.duration.nanos) (h : now ≤ later) :
    e.secondsLeft later ≤ e.secondsLeft now + 1 :=
  Span.seconds_le_add_one (Instant.since_lt_add (isLeap_finish hlasts) h).le

end Event

/-! ## Spans of the calendar -/

/-- No more seconds lie between two instants of the calendar: those that it has, a leap second that
prolongs the last of them, and one that is counted between the two. -/
def calendarSeconds : Int := Instant.lastSecond - Instant.firstSecond + 3

theorem Instant.nanos_of_inRange {t : Instant} (h : t.inRange = true) :
    firstSecond * nanosPerSecond ≤ t.nanos ∧ t.nanos < (lastSecond + 2) * nanosPerSecond := by
  have hfraction := t.fraction.isLt
  simp only [inRange, Bool.and_eq_true, decide_eq_true_eq] at h
  rw [nanos_eq, nanosPerSecond]
  omega

namespace Span

/-- A span is shorter than the calendar, in either direction. -/
structure WithinCalendar (s : Span) : Prop where
  lower : -(calendarSeconds * nanosPerSecond) < s.nanos
  upper : s.nanos < calendarSeconds * nanosPerSecond

variable {s : Span} {t u : Instant}

theorem withinCalendar_since (ht : t.inRange = true) (hu : u.inRange = true) :
    (t.since u).WithinCalendar := by
  have ht := Instant.nanos_of_inRange ht
  have hu := Instant.nanos_of_inRange hu
  have hleap : -1 ≤ t.leapBetween u ∧ t.leapBetween u ≤ 1 := by
    rcases Instant.leapBetween_cases t u with ⟨h, -⟩ | ⟨h, -⟩ | ⟨h, -⟩ <;> omega
  have hcalendar : calendarSeconds * nanosPerSecond
      = (Instant.lastSecond + 2) * nanosPerSecond - Instant.firstSecond * nanosPerSecond
        + 1000000000 := rfl
  constructor <;> rw [hcalendar, Instant.nanos_since] <;> omega

/-- A span between instants of the calendar lies within it. -/
theorem withinCalendar_of_later (ht : t.inRange = true) (hlater : (t.later s).inRange = true) :
    s.WithinCalendar := by
  have ht := Instant.nanos_of_inRange ht
  have hlater := Instant.nanos_of_inRange hlater
  have hbounds := t.nanos_later_bounds s
  have hcalendar : calendarSeconds * nanosPerSecond
      = (Instant.lastSecond + 2) * nanosPerSecond - Instant.firstSecond * nanosPerSecond
        + nanosPerSecond := rfl
  have hunit : 0 ≤ nanosPerSecond := by decide
  constructor <;> rw [hcalendar] <;> omega

theorem WithinCalendar.seconds_le (h : s.WithinCalendar) : s.seconds ≤ calendarSeconds := by
  refine (s.seconds_le_iff (by decide)).mpr (h.upper.trans ?_)
  decide

theorem WithinCalendar.le_seconds (h : s.WithinCalendar) : -calendarSeconds ≤ s.seconds := by
  refine (s.neg_le_seconds_iff (by decide)).mpr (Int.lt_trans ?_ h.lower)
  decide

end Span

/-! ## Checked computations -/

/-- Why a computation with times fails. -/
inductive TimeOverflow where
  /-- A span is too long. -/
  | span (nanos : Int)
  /-- A count of seconds or minutes is too large. -/
  | count (number : Int)
  /-- An instant is not in the calendar. -/
  | instant (t : Instant)
  deriving DecidableEq

/-- What fails where a time is out of bounds. -/
abbrev Checked := Except TimeOverflow

namespace Checked

/-- The longest span in nanoseconds. It has as many milliseconds as a signed number of 64 bits can
count. -/
def longestSpan : Int := (2 ^ 63 - 1) * 1000000

/-- A span in either direction. -/
def span (nanos : Int) : Checked Span :=
  if -longestSpan ≤ nanos ∧ nanos ≤ longestSpan then return ⟨nanos⟩ else throw (.span nanos)

/-- A count, which is a signed number of 64 bits. -/
def count (number : Int) : Checked Int :=
  if -2 ^ 63 ≤ number ∧ number < 2 ^ 63 then return number else throw (.count number)

/-- An instant of the calendar. -/
def instant (t : Instant) : Checked Instant :=
  if t.inRange then return t else throw (.instant t)

/-- `Event.progressAt` with every step checked. -/
def progressAt (e : Event) (now : Instant) : Checked (Option Float32) := do
  let duration ← count e.duration.seconds
  if duration ≤ 0 then return none
  let passed ← span (now.since e.start).nanos
  let elapsed ← count passed.seconds
  if elapsed < 0 ∨ duration < elapsed then return none
  return some (Binary32.quotient elapsed.toNat duration.toNat)

/-- `Event.remainingMinutes` with every step checked. -/
def remainingMinutes (e : Event) (now : Instant) : Checked (Option Int) := do
  let progress ← progressAt e now
  if progress.isNone then return none
  let stop ← instant (e.start.later e.duration)
  let left ← span (stop.since now).nanos
  let seconds ← count left.seconds
  let raised ← count (seconds + 59)
  let minutes ← count (raised.tdiv 60)
  return some minutes

theorem span_eq {s : Span} (h : s.WithinCalendar) : span s.nanos = pure s := by
  have hlong : calendarSeconds * nanosPerSecond ≤ longestSpan := by decide
  have hlower := h.lower
  have hupper := h.upper
  exact if_pos ⟨by omega, by omega⟩

theorem count_eq {number : Int} (h : -2 ^ 63 ≤ number ∧ number < 2 ^ 63) :
    count number = pure number :=
  if_pos h

theorem count_seconds_eq {s : Span} (h : s.WithinCalendar) : count s.seconds = pure s.seconds :=
  count_eq ⟨Int.le_trans (by decide) h.le_seconds, Int.lt_of_le_of_lt h.seconds_le (by decide)⟩

theorem instant_eq {t : Instant} (h : t.inRange = true) : instant t = pure t :=
  if_pos h

variable {e : Event} {now : Instant}

/-- **The progress of an event of the calendar** takes no step out of bounds. -/
theorem progressAt_eq (hstart : e.start.inRange = true) (hnow : now.inRange = true)
    (hstop : e.EndsInCalendar) : progressAt e now = pure (e.progressAt now) := by
  have hduration : e.duration.WithinCalendar := Span.withinCalendar_of_later hstart hstop
  have hpassed : (now.since e.start).WithinCalendar := Span.withinCalendar_since hnow hstart
  have hrunning := e.isRunningAt_iff_seconds now
  unfold progressAt Event.progressAt
  simp only [count_seconds_eq hduration, span_eq hpassed, count_seconds_eq hpassed, pure_bind]
  -- the two conditions decline what does not count as running
  split
  · next hshort =>
    rw [if_neg]
    intro h
    exact absurd (hrunning.mp h).1 (Int.not_lt.mpr hshort)
  · next hlong =>
    split
    · next houtside =>
      rw [if_neg]
      intro h
      obtain ⟨-, hbegun, hnotOver⟩ := hrunning.mp h
      omega
    · next hinside => rw [if_pos (hrunning.mpr (by omega))]

/-- **The minutes left of an event of the calendar** take no step out of bounds. -/
theorem remainingMinutes_eq (hstart : e.start.inRange = true) (hnow : now.inRange = true)
    (hstop : e.EndsInCalendar) :
    remainingMinutes e now
      = pure (if e.isRunningAt now then some ((e.secondsLeft now + 59).tdiv 60) else none) := by
  have hleft : (e.finish.since now).WithinCalendar := Span.withinCalendar_since hstop hnow
  have hfinish : instant (e.start.later e.duration) = pure e.finish := instant_eq hstop
  have hseconds : count (e.finish.since now).seconds = pure (e.secondsLeft now) :=
    count_seconds_eq hleft
  unfold remainingMinutes
  simp only [progressAt_eq hstart hnow hstop, hfinish, span_eq hleft, hseconds, pure_bind]
  rw [← Option.not_isSome, Event.isSome_progressAt]
  cases hrunning : e.isRunningAt now with
  | false => rfl
  | true =>
    -- the seconds left lie between zero, or hardly less, and those of the calendar
    have hlower := Event.neg_le_secondsLeft hrunning
    have hle : e.secondsLeft now ≤ 16544868105602 := hleft.seconds_le
    obtain ⟨hminutes, hlt, -⟩ := minutes_bounds (by omega : -60 < e.secondsLeft now)
    rw [count_eq (by omega), pure_bind, count_eq (by omega)]
    rfl

end Checked

/-! ## The minutes that are told -/

/-- **Minutes left**: for an event that ends in the calendar they are told exactly when its progress
is. They are the seconds left in full minutes, rounded up, and not negative. At a later instant they
are no more than before, unless one of the two instants lies in a leap second and less than a second
lies between them; even then they are at most one more. When the event starts in the calendar as
well and the clock is in it, no step of the computation is out of bounds. -/
theorem Event.minutes_left (e : Event) (now later : Instant) (hstop : e.EndsInCalendar) :
    ∃ minutes, e.remainingMinutes now = .ok minutes ∧
      (minutes.isSome = true ↔ (e.progressAt now).isSome = true) ∧
      (∀ m ∈ minutes,
        0 ≤ m ∧ 60 * (m - 1) < e.secondsLeft now ∧ e.secondsLeft now ≤ 60 * m) ∧
      (∀ m ∈ minutes, e.start.isLeap = false → now.isLeap = false → e.secondsLeft now
        = (Span.mk (e.start.nanos + e.duration.nanos - now.nanos)).seconds) ∧
      (∀ m ∈ minutes, now ≤ later → ∀ m', e.remainingMinutes later = .ok (some m') →
        (now.isLeap = false ∧ later.isLeap = false ∨
          now.nanos + nanosPerSecond ≤ later.nanos → m' ≤ m) ∧ m' ≤ m + 1) ∧
      (e.start.inRange = true → now.inRange = true →
        Checked.progressAt e now = .ok (e.progressAt now) ∧
          Checked.remainingMinutes e now = .ok minutes) := by
  have htold (now : Instant) : ∀ m, (if e.isRunningAt now then
      some ((e.secondsLeft now + 59).tdiv 60) else none) = some m ↔
      e.isRunningAt now = true ∧ (e.secondsLeft now + 59).tdiv 60 = m := by
    simp
  refine ⟨_, e.remainingMinutes_eq hstop now, ?_, ?_, ?_, ?_, ?_⟩
  · rw [isSome_progressAt]
    cases e.isRunningAt now <;> simp
  · intro m hm
    obtain ⟨hrunning, rfl⟩ := (htold now m).mp hm
    have hlower := neg_le_secondsLeft hrunning
    exact minutes_bounds (by omega)
  · intro m hm hstart hnow
    obtain ⟨hrunning, -⟩ := (htold now m).mp hm
    exact secondsLeft_eq ((isRunningAt_iff_nanos e now).mp hrunning).1 hstart hnow
  · intro m hm hlater m' hm'
    obtain ⟨hrunning, rfl⟩ := (htold now m).mp hm
    rw [e.remainingMinutes_eq hstop later] at hm'
    obtain ⟨hstill, rfl⟩ := (htold later m').mp (Except.ok.inj hm')
    have hlasts := ((isRunningAt_iff_nanos e now).mp hrunning).1
    have hlower := neg_le_secondsLeft hrunning
    have hlower' := neg_le_secondsLeft hstill
    refine ⟨fun hplain => ?_, ?_⟩
    · exact Int.tdiv_le_tdiv (by decide)
        (Int.add_le_add_right (secondsLeft_anti hlasts hlater hplain) 59)
    · exact minutes_le_add_one (by omega) (by omega) (secondsLeft_le_add_one hlasts hlater)
  · intro hstart hnow
    exact ⟨Checked.progressAt_eq hstart hnow hstop, Checked.remainingMinutes_eq hstart hnow hstop⟩

/-- A minute and a half and a bit more, with fractions of seconds at both ends. -/
def shortClip : Event := ⟨"", .ofParts 0 250000000, ⟨90500000000⟩⟩

theorem Event.minutes_left_shortClip :
    shortClip.EndsInCalendar ∧
      ∃ minutes, shortClip.remainingMinutes (.ofParts 30 0) = .ok minutes ∧ minutes = some 1 ∧
        (∀ m', shortClip.remainingMinutes (.ofParts 91 0) = .ok (some m') → m' ≤ 1) ∧
        Checked.remainingMinutes shortClip (.ofParts 30 0) = .ok minutes := by
  have hstop : shortClip.EndsInCalendar := rfl
  obtain ⟨minutes, htold, -, -, -, hlater, hchecked⟩ :=
    shortClip.minutes_left (.ofParts 30 0) (.ofParts 91 0) hstop
  have hone : minutes = some 1 := by
    have hcomputed : shortClip.remainingMinutes (.ofParts 30 0) = .ok (some 1) := rfl
    exact Except.ok.inj (htold.symm.trans hcomputed)
  refine ⟨hstop, minutes, htold, hone, fun m' hm' => ?_, (hchecked rfl rfl).2⟩
  exact (hlater 1 hone (by decide) m' hm').1 (.inl ⟨rfl, rfl⟩)

/-- From eight in the evening until a second after one in the morning. -/
def lateNight : Event := ⟨"", .ofParts 72000 0, ⟨18001 * nanosPerSecond⟩⟩

/-- In the middle of a leap second at midnight an hour is left, and at the start of the next day a
minute more. -/
theorem minutes_gained_at_midnight :
    lateNight.EndsInCalendar ∧
      Instant.ofParts 86399 1500000000 < Instant.ofParts 86400 0 ∧
      lateNight.remainingMinutes (.ofParts 86399 1500000000) = .ok (some 60) ∧
      lateNight.remainingMinutes (.ofParts 86400 0) = .ok (some 61) :=
  ⟨rfl, by decide, rfl, rfl⟩

end Bouquet
