import Onetcli.Lib.Decimals

/-!
Timestamps and times of day as text (src/value.rs of extensions/ipc/duckdb). An `i64` is an
integer here and every operation that could overflow is checked. The calendar is that of `chrono`,
and `to_micros` is a method of the DuckDB crate.
-/

namespace Onetcli.DuckDb

open Decimals

inductive TimeUnit where
  | second
  | millisecond
  | microsecond
  | nanosecond
  deriving DecidableEq

/-- The name that `{unit:?}` writes. -/
def TimeUnit.debug : TimeUnit → String
  | .second => "Second"
  | .millisecond => "Millisecond"
  | .microsecond => "Microsecond"
  | .nanosecond => "Nanosecond"

/-- How many units make a second; the source calls it `nanos_per_second`. -/
def TimeUnit.perSecond : TimeUnit → Nat
  | .second => 1
  | .millisecond => 1000
  | .microsecond => 1000000
  | .nanosecond => 1000000000

/-- The civil calendar: the seconds since the epoch that `DateTime::from_timestamp` accepts, and
what `%Y-%m-%d %H:%M:%S` makes of them. -/
structure Chrono where
  supports : Int → Bool
  format : Int → List Char
  injective : ∀ first second, supports first → supports second → format first = format second →
    first = second
  noPoint : ∀ seconds, supports seconds → '.' ∉ format seconds

def checked64 (n : Int) : Option Int := if -2 ^ 63 ≤ n ∧ n < 2 ^ 63 then some n else none

/-- `none` is an overflow. -/
def splitEpoch (unit : TimeUnit) (value : Int) : Option (Int × Nat) := do
  let seconds := value / unit.perSecond
  let units := value % unit.perSecond
  let nanosPerUnit : Nat := 1000000000 / unit.perSecond
  let nanos ← checked64 (units * nanosPerUnit)
  pure (seconds, nanos.toNat % 2 ^ 32)

def appendFraction (value : List Char) (nanos : Nat) : List Char :=
  if nanos = 0 then value
  else value ++ '.' :: (padded 9 nanos).rdropWhile (· == '0')

section Formats

variable (chrono : Chrono)

/-- The date and time with their nanoseconds, if the calendar goes that far. -/
def Chrono.fromTimestamp (seconds : Int) (nanos : Nat) : Option (Int × Nat) :=
  if chrono.supports seconds then some (seconds, nanos) else none

def formatDatetime (datetime : Int × Nat) : List Char :=
  appendFraction (chrono.format datetime.1) datetime.2

def formatTimestamp (unit : TimeUnit) (value : Int) : Option (List Char) := do
  let (seconds, nanos) ← splitEpoch unit value
  match chrono.fromTimestamp seconds nanos with
  | some datetime => pure (formatDatetime chrono datetime)
  | none => pure s!"Timestamp({unit.debug}, {value})".toList

end Formats

def formatTime64 (toMicros : TimeUnit → Int → Option Int) (unit : TimeUnit) (value : Int) :
    Option (List Char) := do
  let (_, nanos) ← splitEpoch unit value
  let micros ← toMicros unit value
  let seconds := micros / 1000000
  let secondsOfDay := (seconds % (24 * 60 * 60)).toNat % 2 ^ 32
  let hour := secondsOfDay / 3600
  let minute := secondsOfDay % 3600 / 60
  let second := secondsOfDay % 60
  pure (appendFraction
    (padded 2 hour ++ ':' :: padded 2 minute ++ ':' :: padded 2 second) nanos)

/-! ## What a text denotes -/

/-- Seconds since the epoch. -/
def instant (unit : TimeUnit) (value : Int) : ℚ := value / unit.perSecond

/-- A date and time in UTC with an optional fraction of a second. -/
def Chrono.Denotes (chrono : Chrono) (text : List Char) (seconds : ℚ) : Prop :=
  ∃ (whole : Int) (fractionText : List Char) (part : ℚ), chrono.supports whole ∧
    text = chrono.format whole ++ fractionText ∧ readFraction fractionText = some part ∧
    seconds = whole + part

def readTwo (tens ones : Char) : Option Nat :=
  if tens.isDigit ∧ ones.isDigit then some (value [tens, ones]) else none

def readTime : List Char → Option ℚ
  | h :: h' :: ':' :: m :: m' :: ':' :: s :: s' :: rest => do
    let hours ← readTwo h h'
    let minutes ← readTwo m m'
    let seconds ← readTwo s s'
    let part ← readFraction rest
    pure (hours * 3600 + minutes * 60 + seconds + part)
  | _ => none

/-! ## Seconds and nanoseconds -/

/-- A value is its whole seconds and its nanoseconds, in every unit and on both sides of the
epoch. -/
structure Splits (unit : TimeUnit) (value seconds : Int) (nanos : Nat) : Prop where
  short : nanos < 10 ^ 9
  exactly : value * 10 ^ 9 = (seconds * 10 ^ 9 + nanos) * unit.perSecond

theorem perSecond_pos (unit : TimeUnit) : 0 < unit.perSecond := by
  cases unit <;> decide

theorem perSecond_dvd (unit : TimeUnit) : unit.perSecond * (1000000000 / unit.perSecond) = 10 ^ 9 := by
  cases unit <;> decide

theorem splitEpoch_splits (unit : TimeUnit) (value : Int) :
    ∃ nanos, splitEpoch unit value = some (value / unit.perSecond, nanos) ∧
      Splits unit value (value / unit.perSecond) nanos := by
  have positive := perSecond_pos unit
  have dvd := perSecond_dvd unit
  generalize granted : 1000000000 / unit.perSecond = nanosPerUnit at dvd
  obtain ⟨units, same⟩ : ∃ units : Nat, value % unit.perSecond = units :=
    Int.eq_ofNat_of_zero_le (Int.emod_nonneg _ (by omega))
  have below : units < unit.perSecond := by
    have bound := Int.emod_lt_of_pos value (by omega : (0 : Int) < unit.perSecond)
    omega
  have short : units * nanosPerUnit < 10 ^ 9 := by
    rw [← dvd]
    refine Nat.mul_lt_mul_of_pos_right below (Nat.pos_of_ne_zero ?_)
    rintro rfl
    cases dvd
  have checked : checked64 ((units * nanosPerUnit : Nat) : Int) =
      some ((units * nanosPerUnit : Nat) : Int) := if_pos ⟨by omega, by omega⟩
  have fits : units * nanosPerUnit % 2 ^ 32 = units * nanosPerUnit :=
    Nat.mod_eq_of_lt (Nat.lt_trans short (by norm_num))
  refine ⟨units * nanosPerUnit, ?_, short, ?_⟩
  · simp only [splitEpoch, same, granted, ← Int.natCast_mul, checked, Option.bind_eq_bind,
      Option.bind_some, Int.toNat_natCast, fits]
    rfl
  · have divided := Int.mul_ediv_add_emod value unit.perSecond
    rw [same] at divided
    have scaled : (unit.perSecond : Int) * nanosPerUnit = 10 ^ 9 := by exact_mod_cast dvd
    calc value * 10 ^ 9
        = (unit.perSecond * (value / unit.perSecond) + units) * 10 ^ 9 := by rw [divided]
      _ = value / unit.perSecond * 10 ^ 9 * unit.perSecond + units * 10 ^ 9 := by ring
      _ = (value / unit.perSecond * 10 ^ 9 + (units * nanosPerUnit : Nat)) * unit.perSecond := by
          rw [← scaled]
          push_cast
          ring

theorem Splits.instant_eq {unit : TimeUnit} {value seconds : Int} {nanos : Nat}
    (splits : Splits unit value seconds nanos) :
    instant unit value = seconds + (nanos : ℚ) / 10 ^ 9 := by
  have positive : (unit.perSecond : ℚ) ≠ 0 := by
    have := perSecond_pos unit
    positivity
  have exactly : (value : ℚ) * 10 ^ 9 = (seconds * 10 ^ 9 + nanos) * unit.perSecond := by
    exact_mod_cast splits.exactly
  rw [instant, div_eq_iff positive]
  linear_combination exactly / 10 ^ 9

theorem Splits.unique {unit unit' : TimeUnit} {value other seconds seconds' : Int}
    {nanos nanos' : Nat} (splits : Splits unit value seconds nanos)
    (splits' : Splits unit' other seconds' nanos') (same : instant unit value = instant unit' other) :
    seconds = seconds' ∧ nanos = nanos' := by
  rw [splits.instant_eq, splits'.instant_eq] at same
  have whole : (seconds : ℚ) * 10 ^ 9 + nanos = seconds' * 10 ^ 9 + nanos' := by
    linear_combination same * 10 ^ 9
  have integers : seconds * 10 ^ 9 + nanos = seconds' * 10 ^ 9 + nanos' := by exact_mod_cast whole
  have short := splits.short
  have short' := splits'.short
  omega

/-! ## Fractions -/

theorem trimmed_ne_nil {nanos : Nat} (short : nanos < 10 ^ 9) (some : nanos ≠ 0) :
    (padded 9 nanos).rdropWhile (· == '0') ≠ [] := by
  intro none
  have zero : fraction [] = (nanos : ℚ) / 10 ^ 9 := by
    rw [← none, fraction_trimmed, fraction_padded short]
  have nought : (nanos : ℚ) / 10 ^ 9 = 0 := zero.symm.trans (by simp [fraction, value])
  rw [div_eq_zero_iff, Nat.cast_eq_zero] at nought
  rcases nought with zero | never
  · exact some zero
  · norm_num at never

theorem appendFraction_reads (text : List Char) {nanos : Nat} (short : nanos < 10 ^ 9) :
    ∃ suffix, appendFraction text nanos = text ++ suffix ∧
      readFraction suffix = some ((nanos : ℚ) / 10 ^ 9) := by
  by_cases zero : nanos = 0
  · refine ⟨[], ?_, ?_⟩
    · rw [appendFraction, if_pos zero, List.append_nil]
    · rw [zero, Nat.cast_zero, zero_div]
      rfl
  · refine ⟨_, if_neg zero, ?_⟩
    rw [readFraction_digits (trimmed_ne_nil short zero), fraction_trimmed, fraction_padded short]
    intro c among
    exact padded_isDigit 9 nanos c ((List.rdropWhile_prefix _ _).subset among)

/-! ## Timestamps -/

section Timestamps

variable (chrono : Chrono)

-- The text of an instant that the calendar supports is the text of its seconds with its
-- nanoseconds behind.
theorem formatTimestamp_text (unit : TimeUnit) (value : Int)
    (supported : chrono.supports (value / unit.perSecond)) :
    ∃ nanos suffix, Splits unit value (value / unit.perSecond) nanos ∧
      formatTimestamp chrono unit value =
        some (appendFraction (chrono.format (value / unit.perSecond)) nanos) ∧
      appendFraction (chrono.format (value / unit.perSecond)) nanos =
        chrono.format (value / unit.perSecond) ++ suffix ∧
      readFraction suffix = some ((nanos : ℚ) / 10 ^ 9) := by
  obtain ⟨nanos, split, splits⟩ := splitEpoch_splits unit value
  obtain ⟨suffix, appended, reads⟩ :=
    appendFraction_reads (chrono.format (value / unit.perSecond)) splits.short
  refine ⟨nanos, suffix, splits, ?_, appended, reads⟩
  simp [formatTimestamp, split, Chrono.fromTimestamp, supported, formatDatetime]

theorem denotes_unique {whole : Int} {suffix : List Char} {part seconds : ℚ}
    (supported : chrono.supports whole) (reads : readFraction suffix = some part)
    (denotes : chrono.Denotes (chrono.format whole ++ suffix) seconds) : seconds = whole + part := by
  obtain ⟨whole', suffix', part', supported', same, reads', rfl⟩ := denotes
  have cut (whole : Int) (suffix : List Char) (part : ℚ) (supported : chrono.supports whole)
      (reads : readFraction suffix = some part) :
      (chrono.format whole ++ suffix).takeWhile (· != '.') = chrono.format whole := by
    have before : ∀ c ∈ chrono.format whole, (c != '.') = true := by
      rintro c among
      refine bne_iff_ne.mpr ?_
      rintro rfl
      exact chrono.noPoint whole supported among
    rw [List.takeWhile_append_of_pos before]
    rcases readFraction_start reads with rfl | ⟨digits, rfl⟩
    · simp
    · simp
  have sameFormat := congrArg (List.takeWhile (· != '.')) same
  rw [cut whole suffix part supported reads, cut whole' suffix' part' supported' reads'] at sameFormat
  obtain rfl := chrono.injective whole whole' supported supported' sameFormat
  obtain rfl := List.append_cancel_left same
  obtain rfl := Option.some.inj (reads.symm.trans reads')
  rfl

theorem formatTimestamp_denotes (unit : TimeUnit) (value : Int)
    (supported : chrono.supports (value / unit.perSecond)) :
    ∃ text, formatTimestamp chrono unit value = some text ∧
      ∀ seconds, chrono.Denotes text seconds ↔ seconds = instant unit value := by
  obtain ⟨nanos, suffix, splits, format, appended, reads⟩ :=
    formatTimestamp_text chrono unit value supported
  refine ⟨_, format, fun seconds => ?_⟩
  rw [splits.instant_eq, appended]
  constructor
  · exact denotes_unique chrono supported reads
  · rintro rfl
    exact ⟨_, suffix, _, supported, rfl, reads, rfl⟩

theorem formatTimestamp_eq_iff (unit unit' : TimeUnit) (value value' : Int)
    (supported : chrono.supports (value / unit.perSecond))
    (supported' : chrono.supports (value' / unit'.perSecond)) :
    formatTimestamp chrono unit value = formatTimestamp chrono unit' value' ↔
      instant unit value = instant unit' value' := by
  obtain ⟨nanos, suffix, splits, format, appended, reads⟩ :=
    formatTimestamp_text chrono unit value supported
  obtain ⟨nanos', suffix', splits', format', appended', reads'⟩ :=
    formatTimestamp_text chrono unit' value' supported'
  rw [format, format', Option.some.injEq]
  constructor
  · intro same
    rw [appended, appended'] at same
    rw [splits.instant_eq]
    refine (denotes_unique chrono supported reads ?_).symm
    exact ⟨_, suffix', _, supported', same, reads', splits'.instant_eq⟩
  · intro same
    obtain ⟨sameSeconds, sameNanos⟩ := splits.unique splits' same
    rw [sameSeconds, sameNanos]

end Timestamps

/-! ## Times of day -/

theorem readTwo_padded {n : Nat} (small : n < 100) :
    readTwo (digitOf (n / 10)) (digitOf n) = some n := by
  have read : value [digitOf (n / 10), digitOf n] = n :=
    (value_padded 2 n).trans (Nat.mod_eq_of_lt small)
  rw [readTwo, if_pos ⟨digitOf_isDigit _, digitOf_isDigit _⟩, read]

theorem readTime_text {hour minute second : Nat} (hours : hour < 100) (minutes : minute < 100)
    (seconds : second < 100) {suffix : List Char} {part : ℚ}
    (reads : readFraction suffix = some part) :
    readTime (padded 2 hour ++ ':' :: padded 2 minute ++ ':' :: padded 2 second ++ suffix) =
      some (hour * 3600 + minute * 60 + second + part) := by
  simp only [padded, List.nil_append, List.cons_append, readTime, readTwo_padded hours,
    readTwo_padded minutes, readTwo_padded seconds, reads]
  rfl

/-- `to_micros` of the DuckDB crate gives the whole microseconds of a time of day. -/
def CountsMicros (toMicros : TimeUnit → Int → Option Int) : Prop :=
  ∀ (unit : TimeUnit) (value : Int), 0 ≤ value → value ≤ 86400 * unit.perSecond →
    toMicros unit value = some (value * 1000000 / unit.perSecond)

theorem formatTime64_reads {toMicros : TimeUnit → Int → Option Int} (counts : CountsMicros toMicros)
    (unit : TimeUnit) (value : Int) (start : 0 ≤ value) (stop : value ≤ 86400 * unit.perSecond) :
    ∃ text nanos, formatTime64 toMicros unit value = some text ∧
      Splits unit value (value / unit.perSecond) nanos ∧
      readTime text = some (((value / unit.perSecond % 86400 : Int) : ℚ) + nanos / 10 ^ 9) := by
  obtain ⟨nanos, split, splits⟩ := splitEpoch_splits unit value
  have positive := perSecond_pos unit
  have seconds : value * 1000000 / unit.perSecond / 1000000 = value / unit.perSecond := by
    rw [Int.ediv_ediv_of_nonneg (by omega), Int.mul_ediv_mul_of_pos_left _ _ (by decide)]
  obtain ⟨time, same⟩ : ∃ time : Nat, value / unit.perSecond % 86400 = time :=
    Int.eq_ofNat_of_zero_le (Int.emod_nonneg _ (by decide))
  have short : time < 86400 := by omega
  have fits : time % 2 ^ 32 = time := Nat.mod_eq_of_lt (Nat.lt_trans short (by norm_num))
  let clock :=
    padded 2 (time / 3600) ++ ':' :: padded 2 (time % 3600 / 60) ++ ':' :: padded 2 (time % 60)
  obtain ⟨suffix, appended, reads⟩ := appendFraction_reads clock splits.short
  refine ⟨appendFraction clock nanos, nanos, ?_, splits, ?_⟩
  · simp only [formatTime64, split, counts unit value start stop, seconds, same, fits,
      Int.toNat_natCast, Option.bind_eq_bind, Option.bind_some, Int.reduceMul, clock]
    rfl
  · rw [appended, readTime_text (by omega) (by omega) (by omega) reads]
    have parts : time / 3600 * 3600 + time % 3600 / 60 * 60 + time % 60 = time := by omega
    have cast : ((time / 3600 : Nat) : ℚ) * 3600 + (time % 3600 / 60 : Nat) * 60 +
        (time % 60 : Nat) = time := by exact_mod_cast parts
    rw [cast, same, Int.cast_natCast]

theorem formatTime64_exact_iff {toMicros : TimeUnit → Int → Option Int}
    (counts : CountsMicros toMicros) (unit : TimeUnit) (value : Int) (start : 0 ≤ value)
    (stop : value ≤ 86400 * unit.perSecond) : ∃ text, formatTime64 toMicros unit value = some text ∧
      (readTime text = some (instant unit value) ↔ value ≠ 86400 * unit.perSecond) := by
  obtain ⟨text, nanos, format, splits, reads⟩ := formatTime64_reads counts unit value start stop
  refine ⟨text, format, ?_⟩
  have positive : (0 : Int) < unit.perSecond := by exact_mod_cast perSecond_pos unit
  have lower : 0 ≤ value / unit.perSecond := Int.ediv_nonneg start (by omega)
  have upper : value / unit.perSecond ≤ 86400 := Int.ediv_le_of_le_mul positive stop
  have wraps : value / unit.perSecond % 86400 = value / unit.perSecond ↔
      value ≠ 86400 * unit.perSecond := by
    constructor
    · rintro same rfl
      rw [Int.mul_ediv_cancel _ (by omega)] at same
      cases same
    · intro before
      have below : value / unit.perSecond < 86400 := Int.ediv_lt_of_lt_mul positive (by omega)
      exact Int.emod_eq_of_lt lower below
  rw [reads, splits.instant_eq, Option.some.injEq, add_left_inj, Int.cast_inj, wraps]

/-- Every timestamp that the calendar supports has the text of exactly its instant; a time of day
has the text of exactly its value unless it is the end of the day. -/
theorem temporal_texts_exact_iff (chrono : Chrono) {toMicros : TimeUnit → Int → Option Int}
    (counts : CountsMicros toMicros) :
    (∀ (unit : TimeUnit) (value : Int), chrono.supports (value / unit.perSecond) →
        (∃ text, formatTimestamp chrono unit value = some text ∧
          ∀ seconds, chrono.Denotes text seconds ↔ seconds = instant unit value) ∧
        ∀ (unit' : TimeUnit) (value' : Int), chrono.supports (value' / unit'.perSecond) →
          (formatTimestamp chrono unit value = formatTimestamp chrono unit' value' ↔
            instant unit value = instant unit' value')) ∧
      ∀ (unit : TimeUnit) (value : Int), 0 ≤ value → value ≤ 86400 * unit.perSecond →
        ∃ text, formatTime64 toMicros unit value = some text ∧
          (readTime text = some (instant unit value) ↔ value ≠ 86400 * unit.perSecond) :=
  ⟨fun unit value supported => ⟨formatTimestamp_denotes chrono unit value supported,
    fun unit' value' => formatTimestamp_eq_iff chrono unit unit' value value' supported⟩,
    formatTime64_exact_iff counts⟩

/-- `to_micros` as the crate computes it. -/
def toMicros : TimeUnit → Int → Option Int
  | .second, value => checked64 (value * 1000000)
  | .millisecond, value => checked64 (value * 1000)
  | .microsecond, value => some value
  | .nanosecond, value => some (value.tdiv 1000)

theorem toMicros_counts : CountsMicros toMicros := by
  intro unit value start stop
  cases unit with
  | second =>
    simp only [TimeUnit.perSecond, Nat.cast_one] at stop ⊢
    rw [Int.ediv_one]
    exact if_pos ⟨by omega, by omega⟩
  | millisecond =>
    have scaled : value * 1000000 / 1000 = value * 1000 := by omega
    simp only [TimeUnit.perSecond, Nat.cast_ofNat] at stop ⊢
    rw [scaled]
    exact if_pos ⟨by omega, by omega⟩
  | microsecond => simp [toMicros, TimeUnit.perSecond]
  | nanosecond =>
    have scaled : value * 1000000 / 1000000000 = value / 1000 := by omega
    simp [toMicros, TimeUnit.perSecond, scaled, Int.tdiv_eq_ediv_of_nonneg start]

def firstMinute : Chrono where
  supports seconds := decide (0 ≤ seconds ∧ seconds < 60)
  format seconds := "1970-01-01 00:00:".toList ++ padded 2 seconds.toNat
  injective first second supported supported' same := by
    have digits := congrArg value (List.append_cancel_left same)
    rw [value_padded, value_padded] at digits
    simp only [decide_eq_true_eq] at supported supported'
    omega
  noPoint seconds _ among := by
    rcases List.mem_append.mp among with text | digits
    · simp at text
    · exact absurd (padded_isDigit 2 _ _ digits) (by decide)

theorem temporal_texts_exact_firstMinute :
    (∃ text, formatTimestamp firstMinute .millisecond 1500 = some text ∧
      ∀ seconds, firstMinute.Denotes text seconds ↔ seconds = instant .millisecond 1500) ∧
      ∃ text, formatTime64 toMicros .nanosecond 86399999999999 = some text ∧
        (readTime text = some (instant .nanosecond 86399999999999) ↔
          (86399999999999 : Int) ≠ 86400 * TimeUnit.nanosecond.perSecond) :=
  have exactly := temporal_texts_exact_iff firstMinute toMicros_counts
  ⟨(exactly.1 .millisecond 1500 (by decide)).1,
    exactly.2 .nanosecond 86399999999999 (by decide) (by decide)⟩

/-- The end of the day is written as its beginning. -/
theorem end_of_day_lost :
    formatTime64 toMicros .second 86400 = some "00:00:00".toList ∧
      readTime "00:00:00".toList ≠ some (instant .second 86400) := by
  refine ⟨by decide, ?_⟩
  have reads : readTime "00:00:00".toList = some (0 * 3600 + 0 * 60 + 0 + 0) := rfl
  rw [reads]
  norm_num [instant, TimeUnit.perSecond]

end Onetcli.DuckDb
