/-
  Configured durations and the clock arithmetic that uses them.

  The parser bounds a duration as a number of milliseconds; `GatewayRuntime::start`, `poll_group`
  and `wait_for_shutdown` convert it to nanoseconds and add it to a clock reading, all in signed
  64-bit arithmetic (`timeAfter`).  Both steps succeed for every reading below `2^62` exactly when
  the duration is at most `2^62` nanoseconds (`timeAfter_iff`), which the parser does not check.
-/
import MiniGateway.Config.Accepted

namespace MiniGateway

open Binary64 (Double)

/-! ### The arithmetic -/

/-- The result of signed 64-bit arithmetic, or nothing when it overflows. -/
def int64? (n : ℤ) : Option ℤ := if -2 ^ 63 ≤ n ∧ n < 2 ^ 63 then some n else none

/-- `now + duration` for a duration in milliseconds: the conversion multiplies, then the instants
add. -/
def timeAfter (now : ℤ) (milliseconds : ℤ) : Option ℤ := do
  let duration ← int64? (milliseconds * nanosecondsPerMillisecond)
  int64? (now + duration)

/-- `start_time + group.interval` in `GatewayRuntime::start`. -/
def CollectionGroup.nextDue (group : CollectionGroup) (startTime : ℤ) : Option ℤ :=
  timeAfter startTime group.interval

/-- `SchedulerClock::now() + group.timeout` in `poll_group`. -/
def CollectionGroup.deadline (group : CollectionGroup) (now : ℤ) : Option ℤ :=
  timeAfter now group.timeout

/-- `std::chrono::steady_clock::now() + *run_duration` in `wait_for_shutdown`. -/
def shutdownDeadline (runDuration : ℤ) (now : ℤ) : Option ℤ := timeAfter now runDuration

/-- An instant was computed without overflow and lies after `now`. -/
def IsLater (now : ℤ) (instant : Option ℤ) : Prop := ∃ t, instant = some t ∧ now < t

/-- No duration of the configuration overflows at a clock reading in `[0, 2^62)`. -/
def DurationsFit (config : ApplicationConfig) : Prop :=
  ∀ now, 0 ≤ now → now < 2 ^ 62 →
    (∀ group ∈ config.gateway.groups,
      IsLater now (group.nextDue now) ∧ IsLater now (group.deadline now)) ∧
    ∀ runDuration, config.runDuration = some runDuration →
      IsLater now (shutdownDeadline runDuration now)

theorem int64?_eq_some {n m : ℤ} :
    int64? n = some m ↔ (-2 ^ 63 ≤ n ∧ n < 2 ^ 63) ∧ n = m := by
  unfold int64?
  split_ifs with h
  · rw [Option.some.injEq]
    exact (and_iff_right h).symm
  · exact iff_of_false nofun fun h' => h h'.1

theorem timeAfter_eq_some {now milliseconds t : ℤ} : timeAfter now milliseconds = some t ↔
    (-2 ^ 63 ≤ milliseconds * nanosecondsPerMillisecond ∧
      milliseconds * nanosecondsPerMillisecond < 2 ^ 63) ∧
    (-2 ^ 63 ≤ now + milliseconds * nanosecondsPerMillisecond ∧
      now + milliseconds * nanosecondsPerMillisecond < 2 ^ 63) ∧
    now + milliseconds * nanosecondsPerMillisecond = t := by
  simp only [timeAfter, Option.bind_eq_bind, Option.bind_eq_some_iff, int64?_eq_some]
  constructor
  · rintro ⟨_, ⟨hduration, rfl⟩, hsum, heq⟩
    exact ⟨hduration, hsum, heq⟩
  · rintro ⟨hduration, hsum, heq⟩
    exact ⟨_, ⟨hduration, rfl⟩, hsum, heq⟩

/-- **The exact bound.**  A positive duration never overflows at any reading below `2^62`, and leads
past it, exactly when it is at most `2^62` nanoseconds. -/
theorem timeAfter_iff {milliseconds : ℤ} (hpos : 0 < milliseconds) :
    (∀ now, 0 ≤ now → now < 2 ^ 62 → IsLater now (timeAfter now milliseconds)) ↔
      milliseconds * nanosecondsPerMillisecond ≤ 2 ^ 62 := by
  have hns : 0 < milliseconds * nanosecondsPerMillisecond := by
    unfold nanosecondsPerMillisecond
    omega
  constructor
  · intro h
    -- the latest reading leaves the least room
    obtain ⟨t, ht, -⟩ := h (2 ^ 62 - 1) (by norm_num) (by norm_num)
    obtain ⟨-, ⟨-, hlt⟩, -⟩ := timeAfter_eq_some.mp ht
    omega
  · intro hle now hnow hnow'
    refine ⟨_, timeAfter_eq_some.mpr ⟨⟨by omega, by omega⟩, ⟨by omega, by omega⟩, rfl⟩, by omega⟩

/-! ### Configured durations -/

/-- The durations a configuration holds, in milliseconds. -/
def ApplicationConfig.durations (config : ApplicationConfig) : List ℤ :=
  config.runDuration.toList ++
    config.gateway.groups.flatMap fun group => [group.interval, group.timeout]

/-- **Configured durations.**  The clock arithmetic on an accepted configuration is free of overflow
at every reading below `2^62` exactly when each of its durations is at most `2^62` nanoseconds. -/
theorem durationsFit_iff {json : JsonLibrary} {jsonText sourceName : ByteString}
    {config : ApplicationConfig} (h : parseConfig json jsonText sourceName = .ok config) :
    DurationsFit config ↔
      ∀ d ∈ config.durations, d * nanosecondsPerMillisecond ≤ 2 ^ 62 := by
  obtain ⟨hgroups, hrun⟩ := parseConfig_durations_pos h
  unfold DurationsFit ApplicationConfig.durations
  simp only [List.mem_append, Option.mem_toList, List.mem_flatMap, List.mem_cons,
    List.not_mem_nil, or_false]
  constructor
  · rintro hfit d (hd | ⟨group, hgroup, rfl | rfl⟩)
    · exact (timeAfter_iff (hrun d hd)).mp fun now h0 h1 => (hfit now h0 h1).2 d hd
    · exact (timeAfter_iff (hgroups group hgroup).1).mp fun now h0 h1 =>
        ((hfit now h0 h1).1 group hgroup).1
    · exact (timeAfter_iff (hgroups group hgroup).2).mp fun now h0 h1 =>
        ((hfit now h0 h1).1 group hgroup).2
  · intro hle now h0 h1
    refine ⟨fun group hgroup => ⟨?_, ?_⟩, fun d hd => ?_⟩
    · exact (timeAfter_iff (hgroups group hgroup).1).mpr
        (hle _ (Or.inr ⟨group, hgroup, Or.inl rfl⟩)) now h0 h1
    · exact (timeAfter_iff (hgroups group hgroup).2).mpr
        (hle _ (Or.inr ⟨group, hgroup, Or.inr rfl⟩)) now h0 h1
    · exact (timeAfter_iff (hrun d hd)).mpr (hle _ (Or.inl hd)) now h0 h1

/-! ### A configuration that overflows -/

/-- What the parser makes of the document, as far as its group is concerned. -/
def parsedIntervals (interval : ByteString) (intervalMs : UInt64) : Option (List ℤ) :=
  (parseConfig
    (libraryFor (oneGroupText interval (lit "1.0")) (oneGroupDocument intervalMs one))
    (oneGroupText interval (lit "1.0")) []).toOption.map fun config =>
      config.gateway.groups.map CollectionGroup.interval

/-- The longest interval that fits 64 bits is accepted, and overflows. -/
theorem durationsFit_longest : ∃ config,
    parseConfig (libraryFor (oneGroupText (lit "9223372036854775807") (lit "1.0"))
        (oneGroupDocument 9223372036854775807 one))
      (oneGroupText (lit "9223372036854775807") (lit "1.0")) [] = .ok config ∧
      config.gateway.groups.map CollectionGroup.interval = [9223372036854775807] ∧
      ¬DurationsFit config := by
  have hparsed : parsedIntervals (lit "9223372036854775807") 9223372036854775807 =
      some [9223372036854775807] := by decide +kernel
  obtain ⟨config, hconfig, hgroups⟩ := Option.map_eq_some_iff.mp hparsed
  refine ⟨config, toOption_eq_some.mp hconfig, hgroups, fun hfit => ?_⟩
  obtain ⟨group, hgroup, hinterval⟩ : ∃ group ∈ config.gateway.groups,
      group.interval = 9223372036854775807 := by
    refine List.mem_map.mp ?_
    rw [hgroups]
    exact List.mem_singleton.mpr rfl
  obtain ⟨t, ht, -⟩ := ((hfit 0 le_rfl (by norm_num)).1 group hgroup).1
  obtain ⟨⟨-, hlt⟩, -⟩ := timeAfter_eq_some.mp ht
  rw [hinterval, nanosecondsPerMillisecond] at hlt
  norm_num at hlt

/-- The bound holds for the defaults: an interval of a second. -/
theorem durationsFit_iff_second : ∃ config,
    parseConfig (libraryFor (oneGroupText (lit "1000") (lit "1.0")) (oneGroupDocument 1000 one))
      (oneGroupText (lit "1000") (lit "1.0")) [] = .ok config ∧
      (DurationsFit config ↔ ∀ d ∈ config.durations, d * nanosecondsPerMillisecond ≤ 2 ^ 62) := by
  have hparsed : parsedIntervals (lit "1000") 1000 = some [1000] := by decide +kernel
  obtain ⟨config, hconfig, -⟩ := Option.map_eq_some_iff.mp hparsed
  have hparse := toOption_eq_some.mp hconfig
  exact ⟨config, hparse, durationsFit_iff hparse⟩

end MiniGateway
