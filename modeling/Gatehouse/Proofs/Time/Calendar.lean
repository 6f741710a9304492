import Gatehouse.Proofs.Text.Decimal
import Gatehouse.Proofs.Text.Trimming
import Gatehouse.Time.Reading
import Mathlib.Tactic.Common

/-!
# Dates show their points of time

The date of a point of time is that of no other one. From 1970 on, the form in which
header fields show the date is read as the point of time again, so that nothing is lost
between the two ends of a connection.
-/

namespace Gatehouse
namespace Date

/-- The days of a cycle of four hundred years before one of its years. -/
def daysBeforeYear (year : Nat) : Nat :=
  365 * year + year / 4 - year / 100

/-- The year of a day in a cycle. -/
def yearOfDay (day : Nat) : Nat :=
  (day - day / 1460 + day / 36524 - day / 146096) / 365

/-- The year of a day, from its century, its leap period, and its day there. -/
theorem yearOfDay_eq
    {century period day : Nat}
    (centuryBounded : century ≤ 3)
    (dayBounded : day ≤ 1460)
    (inCentury : 1461 * period + day < 36524) :
    yearOfDay (36524 * century + 1461 * period + day) =
      100 * century + 4 * period + min (day / 365) 3 := by
  unfold yearOfDay
  generalize whole : 36524 * century + 1461 * period + day = dayOfCycle
  have isCentury : dayOfCycle / 36524 = century := by omega
  have isFirst : dayOfCycle / 146096 = 0 := by omega
  have leapDays : dayOfCycle / 1460 =
      25 * century + period + (24 * century + period + day) / 1460 := by
    omega
  rw [isCentury, isFirst, leapDays]
  omega

/-- A day of a cycle lies in its year. -/
theorem yearOfDay_bounds
    {day : Nat}
    (inCycle : day < daysPerCycle) :
    yearOfDay day < 400 ∧ daysBeforeYear (yearOfDay day) ≤ day ∧
      day ≤ daysBeforeYear (yearOfDay day) + 365 := by
  change day < 146097 at inCycle
  by_cases isLast : day = 146096
  · subst isLast
    decide
  · obtain ⟨century, period, rest, centuryBounded, restBounded, inCentury, rfl⟩ :
        ∃ century period rest, century ≤ 3 ∧ rest ≤ 1460 ∧ 1461 * period + rest < 36524 ∧
          day = 36524 * century + 1461 * period + rest :=
      ⟨day / 36524, day % 36524 / 1461, day % 36524 % 1461, by omega, by omega,
        by omega, by omega⟩
    rw [yearOfDay_eq centuryBounded restBounded inCentury]
    obtain ⟨year, isYear, yearBounded, begun, notEnded⟩ :
        ∃ year, min (rest / 365) 3 = year ∧ year ≤ 3 ∧ 365 * year ≤ rest ∧
          rest ≤ 365 * year + 365 :=
      ⟨_, rfl, by omega, by omega, by omega⟩
    have leapYears :
        (100 * century + 4 * period + year) / 4 = 25 * century + period := by omega
    have centuries : (100 * century + 4 * period + year) / 100 = century := by omega
    rw [isYear, daysBeforeYear, leapYears, centuries]
    omega

/-- The parts of a date and its point of time, with years counted from March. -/
structure Parts where
  cycle : Int
  year : Nat
  /-- The day of the year, from zero. -/
  day : Nat
  /-- The second of the day, from zero. -/
  clock : Nat

namespace Parts

/-- The day of the cycle. -/
def dayOfCycle (parts : Parts) : Nat :=
  daysBeforeYear parts.year + parts.day

/-- The days since 1970. -/
def days (parts : Parts) : Int :=
  parts.cycle * daysPerCycle + parts.dayOfCycle - daysBefore1970

/-- The month, counted from March as zero. -/
def month (parts : Parts) : Nat :=
  (5 * parts.day + 2) / 153

/-- The parts of a point of time. -/
structure IsOf (parts : Parts) (time : Time) : Prop where
  yearBounded : parts.year < 400
  dayBounded : parts.day ≤ 365
  clockBounded : parts.clock < secondsPerDay
  isTime : time = parts.days * secondsPerDay + parts.clock

/-- The date that is put together from parts. -/
def date (parts : Parts) : Date where
  year := parts.cycle * 400 + parts.year + (if 10 ≤ parts.month then 1 else 0)
  month := if parts.month < 10 then parts.month + 3 else parts.month - 9
  day := parts.day - (153 * parts.month + 2) / 5 + 1
  weekday := ((parts.days + 4) % 7).toNat
  hour := parts.clock / 3600
  minute := parts.clock / 60 % 60
  second := parts.clock % 60

/-! ### From the date back to the parts -/

variable {parts : Parts}

/-- There are twelve months. -/
theorem month_le (bounded : parts.day ≤ 365) : parts.month ≤ 11 := by
  unfold month
  omega

/-- The months from January on begin after the days from March to December. -/
theorem ten_le_month_iff : 10 ≤ parts.month ↔ 306 ≤ parts.day := by
  unfold month
  omega

/-- January and February are the last months that are counted from March. -/
theorem month_date_le_iff (bounded : parts.day ≤ 365) :
    parts.date.month ≤ 2 ↔ 10 ≤ parts.month := by
  have months := month_le bounded
  change (if parts.month < 10 then parts.month + 3 else parts.month - 9) ≤ 2 ↔ _
  split <;> omega

/-- The month of the date, counted from March again. -/
theorem month_of_date (bounded : parts.day ≤ 365) :
    (if parts.date.month ≤ 2 then parts.date.month + 9 else parts.date.month - 3) =
      parts.month := by
  have months := month_le bounded
  simp only [month_date_le_iff bounded]
  change (if 10 ≤ parts.month then
    (if parts.month < 10 then parts.month + 3 else parts.month - 9) + 9 else
    (if parts.month < 10 then parts.month + 3 else parts.month - 9) - 3) = parts.month
  split <;> split <;> omega

/-- The year of the date, counted from March again. -/
theorem year_of_date (bounded : parts.day ≤ 365) :
    (if parts.date.month ≤ 2 then parts.date.year - 1 else parts.date.year) =
      parts.cycle * 400 + parts.year := by
  simp only [month_date_le_iff bounded]
  change (if 10 ≤ parts.month then
    parts.cycle * 400 + (parts.year : Int) + (if 10 ≤ parts.month then 1 else 0) - 1 else
    parts.cycle * 400 + (parts.year : Int) + (if 10 ≤ parts.month then 1 else 0)) = _
  split <;> omega

/-- The day of the year, from that of the month. -/
theorem day_of_date : (153 * parts.month + 2) / 5 + parts.date.day - 1 = parts.day := by
  have begun : (153 * parts.month + 2) / 5 ≤ parts.day := by
    unfold month
    omega
  change (153 * parts.month + 2) / 5 +
    (parts.day - (153 * parts.month + 2) / 5 + 1) - 1 = _
  omega

/-- The second of the day, from the time of day. -/
theorem clock_of_date :
    parts.date.hour * 3600 + parts.date.minute * 60 + parts.date.second =
      parts.clock := by
  change parts.clock / 3600 * 3600 + parts.clock / 60 % 60 * 60 + parts.clock % 60 =
    parts.clock
  omega

/-- The date of the parts of a point of time shows this point. -/
theorem IsOf.toTime_date
    {time : Time}
    (isOf : parts.IsOf time) :
    parts.date.toTime = time := by
  have yearBounded := isOf.yearBounded
  have yearOfCycle :
      ((parts.cycle * 400 + parts.year) % 400).toNat = parts.year := by omega
  have cycle : (parts.cycle * 400 + parts.year) / 400 = parts.cycle := by omega
  unfold toTime
  simp only [month_of_date isOf.dayBounded, year_of_date isOf.dayBounded, yearOfCycle,
    cycle, day_of_date, clock_of_date, isOf.isTime]
  rfl

end Parts

/-- Every point of time has parts, and its date is put together from them. -/
theorem exists_parts (time : Int) :
    ∃ parts : Parts, parts.IsOf time ∧ ofTime time = parts.date := by
  obtain ⟨days, isDays⟩ : ∃ days : Int, time / 86400 = days := ⟨_, rfl⟩
  obtain ⟨day, isDay⟩ : ∃ day, ((days + 719468) % 146097).toNat = day := ⟨_, rfl⟩
  have inCycle : day < 146097 := by omega
  obtain ⟨yearBounded, begun, notEnded⟩ := yearOfDay_bounds inCycle
  let parts : Parts :=
    ⟨(days + 719468) / 146097, yearOfDay day, day - daysBeforeYear (yearOfDay day),
      (time % 86400).toNat⟩
  have dayOfCycle : parts.dayOfCycle = day := Nat.add_sub_cancel' begun
  have isDaysOf : parts.days = days := by
    change (days + 719468) / 146097 * 146097 + (parts.dayOfCycle : Int) - 719468 = days
    rw [dayOfCycle]
    omega
  have bounded : parts.day ≤ 365 := Nat.sub_le_iff_le_add'.mpr notEnded
  refine ⟨parts, ⟨yearBounded, bounded, ?_, ?_⟩, ?_⟩
  · change (time % 86400).toNat < 86400
    omega
  · change time = parts.days * 86400 + ((time % 86400).toNat : Int)
    omega
  · have january := Parts.month_date_le_iff bounded
    unfold Parts.date at january ⊢
    simp only [← january, isDaysOf]
    subst isDays isDay
    rfl

/-- The date of a point of time shows this point of time. -/
theorem toTime_ofTime (time : Int) : (ofTime time).toTime = time := by
  obtain ⟨parts, isOf, isDate⟩ := exists_parts time
  rw [isDate, isOf.toTime_date]

/-! ## Reading -/

/-- A date's parts have values that its text shows in full. -/
structure IsShown (date : Date) : Prop where
  yearShown : ∃ year : Nat, date.year = year ∧ 1970 ≤ year ∧ year ≤ 9999
  monthShown : ∃ index < 12, date.month = index + 1
  dayShown : date.day < 100
  weekdayShown : date.weekday < 7
  hourShown : date.hour < 100
  minuteShown : date.minute < 100
  secondShown : date.second < 100

/-- From 1970 to the last second of the calendar, years have four digits. -/
theorem Parts.IsOf.exists_year
    {parts : Parts}
    {time : Int}
    (isOf : parts.IsOf time)
    (sinceEpoch : 0 ≤ time)
    (dated : time ≤ Date.last) :
    ∃ year : Nat, parts.date.year = year ∧ 1970 ≤ year ∧ year ≤ 9999 := by
  obtain ⟨yearBounded, dayBounded, clockBounded, isTime⟩ := isOf
  change ∃ year : Nat, parts.cycle * 400 + parts.year +
    (if 10 ≤ parts.month then 1 else 0) = year ∧ _
  simp only [ten_le_month_iff]
  obtain ⟨cycle, year, day, clock⟩ := parts
  change time ≤ (253402300799 : Int) at dated
  change clock < 86400 at clockBounded
  change time = (cycle * 146097 +
    ((365 * year + year / 4 - year / 100 + day : Nat) : Int) - 719468) * 86400 + clock
    at isTime
  have notBefore :
      719468 ≤ cycle * 146097 + (365 * year + year / 4 - year / 100 + day : Nat) := by
    omega
  have notAfter :
      cycle * 146097 + (365 * year + year / 4 - year / 100 + day : Nat) ≤ 3652364 := by
    omega
  clear isTime
  simp only at yearBounded dayBounded ⊢
  have cycleBounded : 4 ≤ cycle ∧ cycle ≤ 24 := by omega
  refine ⟨(cycle * 400 + year + if 306 ≤ day then 1 else 0).toNat, ?_⟩
  split <;> omega

/-- From 1970 on, the parts of a date are shown in full. -/
theorem isShown_ofTime
    {time : Int}
    (sinceEpoch : 0 ≤ time)
    (dated : time ≤ Date.last) :
    (ofTime time).IsShown := by
  obtain ⟨parts, isOf, isDate⟩ := exists_parts time
  have months := Parts.month_le isOf.dayBounded
  have days := isOf.dayBounded
  have clock : parts.clock < 86400 := isOf.clockBounded
  rw [isDate]
  constructor
  · exact isOf.exists_year sinceEpoch dated
  · change ∃ index < 12, (if parts.month < 10 then parts.month + 3 else parts.month - 9) =
      index + 1
    refine ⟨if parts.month < 10 then parts.month + 2 else parts.month - 10, ?_, ?_⟩ <;>
      split <;> omega
  · change parts.day - (153 * parts.month + 2) / 5 + 1 < 100
    unfold Parts.month
    omega
  · change ((parts.days + 4) % 7).toNat < 7
    omega
  · change parts.clock / 3600 < 100
    omega
  · change parts.clock / 60 % 60 < 100
    omega
  · change parts.clock % 60 < 100
    omega

theorem number?_twoDigits :
    ∀ value < 100, number? 2 (twoDigits value).toList = some value := by
  decide +kernel

/-- A number of four digits is read from them. -/
theorem number?_natural
    {value : Nat}
    (long : 1000 ≤ value)
    (short : value ≤ 9999) :
    number? 4 (Text.Decimal.natural value).toList = some value := by
  have atMost : (Nat.toDigits 10 value).length ≤ 4 :=
    (Nat.length_toDigits_le_iff (by decide) (by decide)).mpr (by omega)
  have more : ¬ (Nat.toDigits 10 value).length ≤ 3 := by
    rw [Nat.length_toDigits_le_iff (by decide) (by decide)]
    omega
  rw [Text.Decimal.natural, String.toList_ofList, number?, if_pos (by omega),
    Text.Decimal.digits?_toDigits]

theorem weekdayBeforeComma?_getD : ∀ weekday < 7,
    weekdayBeforeComma? weekdayNames ((weekdayNames.getD weekday "").toList ++ [',']) =
      some weekday := by
  decide +kernel

theorem month?_getD :
    ∀ index < 12, month? (monthNames.getD index "").toList = some (index + 1) := by
  decide +kernel

theorem notMem_twoDigits : ∀ value < 100,
    ' ' ∉ (twoDigits value).toList ∧ ':' ∉ (twoDigits value).toList := by
  decide +kernel

/-- A time of day is read from its three numbers. -/
theorem clock?_of_lt
    {hour minute second : Nat}
    (hourShown : hour < 100)
    (minuteShown : minute < 100)
    (secondShown : second < 100) :
    clock? ((twoDigits hour).toList ++ ':' :: ((twoDigits minute).toList ++
      ':' :: (twoDigits second).toList)) = some (hour, minute, second) := by
  have pieces :
      Text.splitEvery ':' ((twoDigits hour).toList ++ ':' :: ((twoDigits minute).toList ++
      ':' :: (twoDigits second).toList)) =
        [(twoDigits hour).toList, (twoDigits minute).toList,
         (twoDigits second).toList] := by
    rw [Text.splitEvery_append_cons, Text.splitEvery_append_cons,
      Text.splitEvery_of_notMem (notMem_twoDigits hour hourShown).2,
      Text.splitEvery_of_notMem (notMem_twoDigits minute minuteShown).2,
      Text.splitEvery_of_notMem (notMem_twoDigits second secondShown).2]
    rfl
  unfold clock?
  simp only [pieces, number?_twoDigits hour hourShown,
    number?_twoDigits minute minuteShown, number?_twoDigits second secondShown,
    Option.bind_eq_bind, Option.bind_some]

/-- The text of a date, as the pieces between its blanks. -/
theorem toList_text (date : Date) :
    date.text.toList =
      ((weekdayNames.getD date.weekday "").toList ++ [',']) ++
        ' ' :: ((twoDigits date.day).toList ++
        ' ' :: ((monthNames.getD (date.month - 1) "").toList ++
          ' ' :: ((Text.Decimal.integer date.year).toList ++
            ' ' ::
              (((twoDigits date.hour).toList ++ ':' :: ((twoDigits date.minute).toList ++
              ':' :: (twoDigits date.second).toList)) ++ ' ' :: ['G', 'M', 'T'])))) := by
  have comma : ", ".toList = [',', ' '] := by decide
  have blank : " ".toList = [' '] := by decide
  have colon : ":".toList = [':'] := by decide
  have zone : " GMT".toList = [' ', 'G', 'M', 'T'] := by decide
  simp only [text, String.toList_append, comma, blank, colon, zone, List.append_assoc,
    List.cons_append, List.nil_append]

/-- The parts of a date are read from its text. -/
theorem parts?_text
    {date : Date}
    (shown : date.IsShown) :
    parts? date.text.toList = some date := by
  obtain ⟨⟨year, isYear, long, short⟩, ⟨index, inRange, isMonth⟩, dayShown,
    weekdayShown, hourShown, minuteShown, secondShown⟩ := shown
  have weekdayFree :
      ∀ weekday < 7, ' ' ∉ (weekdayNames.getD weekday "").toList ++ [','] := by decide
  have monthFree : ∀ index < 12, ' ' ∉ (monthNames.getD index "").toList := by decide
  have yearFree : ' ' ∉ (Text.Decimal.integer date.year).toList := fun present =>
    absurd (Text.Decimal.isNumeral_of_mem_integer present) (by decide)
  have clockFree :
      ' ' ∉ (twoDigits date.hour).toList ++ ':' :: ((twoDigits date.minute).toList ++
      ':' :: (twoDigits date.second).toList) := by
    simp [(notMem_twoDigits _ hourShown).1, (notMem_twoDigits _ minuteShown).1,
      (notMem_twoDigits _ secondShown).1]
  have yearShown : number? 4 (Text.Decimal.integer date.year).toList = some year := by
    rw [isYear]
    exact number?_natural (by omega) short
  unfold parts?
  rw [toList_text, Text.splitEvery_append_cons, Text.splitEvery_append_cons,
    Text.splitEvery_append_cons, Text.splitEvery_append_cons, Text.splitEvery_append_cons,
    Text.splitEvery_of_notMem (weekdayFree _ weekdayShown),
    Text.splitEvery_of_notMem (notMem_twoDigits _ dayShown).1,
    Text.splitEvery_of_notMem (monthFree _ (by omega)),
    Text.splitEvery_of_notMem yearFree, Text.splitEvery_of_notMem clockFree,
    Text.splitEvery_of_notMem (by decide)]
  simp only [List.singleton_append]
  rw [weekdayBeforeComma?_getD _ weekdayShown, number?_twoDigits _ dayShown, isMonth,
    Nat.add_sub_cancel, month?_getD _ inRange, yearShown,
    clock?_of_lt hourShown minuteShown secondShown]
  simp [ofParts?, ← isYear, ← isMonth]

/-- From 1970 on, the text of a date is read as its point of time. -/
theorem read?_text
    {time : Int}
    (sinceEpoch : 0 ≤ time)
    (dated : time ≤ Date.last) :
    read? (ofTime time).text = some time := by
  have shown := isShown_ofTime sinceEpoch dated
  have untrimmed : Text.trim (ofTime time).text = (ofTime time).text := by
    have begins :
        ∀ weekday < 7, ((weekdayNames.getD weekday "").toList ++ [',']).head?.all
        fun char => !Text.isBlank char := by
      decide
    apply Text.trim_of_ends <;> intro char present
    · rw [toList_text, List.head?_append_of_ne_nil _ (by simp)] at present
      have stays := (Option.all_eq_true _ _).mp (begins _ shown.weekdayShown) char present
      simpa using stays
    · have isLast : 'T' = char := by
        simpa [toList_text, List.getLast?_append, List.getLast?_cons] using present
      rw [← isLast]
      decide
  obtain ⟨year, isYear, long, -⟩ := shown.yearShown
  have recent : 1970 ≤ (ofTime time).year := by omega
  unfold read?
  rw [untrimmed, parts?_text shown]
  simp only [Option.bind_eq_bind, Option.bind_some, toTime_ofTime, recent, and_self,
    if_true]

end Date
end Gatehouse
