import WebDAVFS.Basic
import Mathlib.Data.List.GetD

/-!
# HTTP dates (webdav_network.c:100–203)

The daemon writes times into `If-Modified-Since` and reads them from `Date` and
`Last-Modified` as RFC 1123 dates. `CFStringCreateRFC2616DateStringWithTimeT` takes a `time_t`
through `gmtime` into a `struct tm`, copies its fields into a `CFGregorianDate` (`tm_mon + 1`,
`tm_year + 1900`) and has CFNetwork format it; `DateStringToTime` and `DateBytesToTime` have
CFNetwork parse a date, copy it back (`month - 1`, `year - 1900`) and call `timegm`.

The library functions are not under src/ and are modelled from their specifications: `gmtime`
and `timegm` from POSIX's seconds since the Epoch on the proleptic Gregorian calendar, and
CFNetwork's `_CFStringCreateRFC2616DateStringWithGregorianDate` and
`_CFGregorianDateCreateWith{Bytes,String}` from the `rfc1123-date` form of RFC 2616 §3.3.1.

- `timegm_gmtime`: `timegm` undoes `gmtime` at every time.
- `gmtime_printable`: from 1970 to the end of 9999 the date `gmtime` gives has an RFC 1123 form.
- `parseRFC1123_rfc2616DateString`: the parser reads back every date the formatter prints.
- `httpDate_round_trip`: the encoder and both decoders agree on every time of those years.
-/

namespace WebDAVFS

/-! ## The calendar of `gmtime` and `timegm` -/

/-- A leap year of the proleptic Gregorian calendar. -/
def isLeapYear (y : Int) : Bool := y % 4 = 0 ∧ (y % 100 ≠ 0 ∨ y % 400 = 0)

def daysInYear (y : Int) : Int := if isLeapYear y then 366 else 365

/-- The length of month `m` (0 for January) of year `y`. -/
def daysInMonth (y : Int) (m : Nat) : Int :=
  match m with
  | 1 => if isLeapYear y then 29 else 28
  | 3 | 5 | 8 | 10 => 30
  | _ => 31

/-- The days from 1970-01-01 to January 1st of year `y`, negative before 1970. -/
def daysBeforeYear (y : Int) : Int :=
  365 * (y - 1970) + ((y - 1) / 4 - 492) - ((y - 1) / 100 - 19) + ((y - 1) / 400 - 4)

/-- The days of year `y` before month `m`. -/
def daysBeforeMonth (y : Int) : Nat → Int
  | 0 => 0
  | m + 1 => daysBeforeMonth y m + daysInMonth y m

/-- The year holding day `days` after 1970-01-01: the estimate from the mean Gregorian year
(146097 days in 400 years), corrected by one year. -/
def yearOfDay (days : Int) : Int :=
  let y := 1970 + days * 400 / 146097
  if days < daysBeforeYear y then y - 1
  else if daysBeforeYear (y + 1) ≤ days then y + 1
  else y

/-- The month (0 for January) holding day `d` of year `y`, counted from month `m`, with at most
`fuel` months after it, and the day of that month (1 for its first day). -/
def monthOfDay (y : Int) : Nat → Nat → Int → Nat × Int
  | 0, m, d => (m, d + 1)
  | fuel + 1, m, d =>
    if daysInMonth y m ≤ d then monthOfDay y fuel (m + 1) (d - daysInMonth y m) else (m, d + 1)

/-- The fields of `struct tm` the code copies. -/
structure Tm where
  sec : Int
  min : Int
  hour : Int
  mday : Int
  /-- 0 for January. -/
  mon : Int
  /-- Years since 1900. -/
  year : Int

/-- `gmtime` (POSIX): the broken-down UTC time `clock` seconds after the Epoch. -/
def gmtime (clock : Int) : Tm :=
  let days := clock / 86400
  let secs := clock % 86400
  let y := yearOfDay days
  let md := monthOfDay y 11 0 (days - daysBeforeYear y)
  ⟨secs % 60, secs / 60 % 60, secs / 3600, md.2, md.1, y - 1900⟩

/-- `timegm`: the seconds after the Epoch of a broken-down UTC time. `tm_mon` is first brought
into 0–11 by moving whole years; the other fields count linearly. -/
def timegm (tm : Tm) : Int :=
  let y := tm.year + 1900 + tm.mon / 12
  (daysBeforeYear y + daysBeforeMonth y (tm.mon % 12).toNat + tm.mday - 1) * 86400 +
    tm.hour * 3600 + tm.min * 60 + tm.sec

/-! ## `timegm` undoes `gmtime` -/

theorem daysBeforeYear_succ (y : Int) :
    daysBeforeYear (y + 1) = daysBeforeYear y + daysInYear y := by
  have h4 := Int.emod_add_ediv y 4
  have h100 := Int.emod_add_ediv y 100
  have h400 := Int.emod_add_ediv y 400
  simp only [daysBeforeYear, daysInYear, isLeapYear, add_sub_cancel_right]
  split_ifs with h <;> simp only [decide_eq_true_eq, not_and, not_or] at h <;> omega

/-- `daysBeforeYear` keeps within a day and a half of the mean Gregorian year. -/
theorem daysBeforeYear_bounds (y : Int) :
    146097 * (y - 1970) - 506 ≤ 400 * daysBeforeYear y ∧
      400 * daysBeforeYear y ≤ 146097 * (y - 1970) + 589 := by
  unfold daysBeforeYear
  omega

/-- `yearOfDay` finds the year whose days hold `d`. -/
theorem yearOfDay_spec (d : Int) :
    daysBeforeYear (yearOfDay d) ≤ d ∧ d < daysBeforeYear (yearOfDay d + 1) := by
  have lo := daysBeforeYear_bounds (1970 + d * 400 / 146097 - 1)
  have hi := daysBeforeYear_bounds (1970 + d * 400 / 146097 + 1 + 1)
  unfold yearOfDay
  dsimp only
  split_ifs <;> (try simp only [sub_add_cancel]) <;> omega

theorem daysInMonth_bounds (y : Int) (m : Nat) : 28 ≤ daysInMonth y m ∧ daysInMonth y m ≤ 31 := by
  unfold daysInMonth
  split <;> (try split) <;> omega

theorem daysBeforeMonth_twelve (y : Int) : daysBeforeMonth y 12 = daysInYear y := by
  simp only [daysBeforeMonth, daysInMonth, daysInYear]
  split <;> rfl

/-- `monthOfDay` finds the month whose days hold day `d` of the year. -/
theorem monthOfDay_spec (y : Int) :
    ∀ (fuel m : Nat) (d : Int), m + fuel = 11 → 0 ≤ d → daysBeforeMonth y m + d < daysInYear y →
      m ≤ (monthOfDay y fuel m d).1 ∧ (monthOfDay y fuel m d).1 < 12 ∧
      1 ≤ (monthOfDay y fuel m d).2 ∧ (monthOfDay y fuel m d).2 ≤ daysInMonth y (monthOfDay y fuel m d).1 ∧
      daysBeforeMonth y (monthOfDay y fuel m d).1 + (monthOfDay y fuel m d).2 - 1 =
        daysBeforeMonth y m + d
  | 0, m, d, hm, hd, hlt => by
    obtain rfl : m = 11 := by omega
    rw [← daysBeforeMonth_twelve,
      show daysBeforeMonth y 12 = daysBeforeMonth y 11 + daysInMonth y 11 from rfl] at hlt
    simp only [monthOfDay]
    omega
  | fuel + 1, m, d, hm, hd, hlt => by
    simp only [monthOfDay]
    split
    · have ih := monthOfDay_spec y fuel (m + 1) (d - daysInMonth y m) (by omega) (by omega)
        (by rw [daysBeforeMonth]; omega)
      rw [daysBeforeMonth] at ih
      omega
    · simp only
      omega

/-- **`timegm` undoes `gmtime`**, at every time. -/
theorem timegm_gmtime (clock : Int) : timegm (gmtime clock) = clock := by
  obtain ⟨hy0, hy1⟩ := yearOfDay_spec (clock / 86400)
  have hlen := daysBeforeYear_succ (yearOfDay (clock / 86400))
  obtain ⟨-, hmon, -, -, hday⟩ := monthOfDay_spec (yearOfDay (clock / 86400)) 11 0
    (clock / 86400 - daysBeforeYear (yearOfDay (clock / 86400))) rfl (by omega)
    (by simp only [daysBeforeMonth]; omega)
  simp only [timegm, gmtime]
  generalize monthOfDay _ 11 0 _ = md at hmon hday
  have hq : ((md.1 : Int) / 12) = 0 := Int.ediv_eq_zero_of_lt (by omega) (by omega)
  have hr : ((md.1 : Int) % 12).toNat = md.1 := by omega
  rw [hq, hr, sub_add_cancel, add_zero]
  simp only [daysBeforeMonth] at hday
  omega

/-! ## RFC 1123 dates -/

/-- `CFGregorianDate`. Its `second` is a `double`; every value here is whole. -/
structure GregorianDate where
  year : Int
  month : Int
  day : Int
  hour : Int
  minute : Int
  second : Int

/-- The copy of `CFStringCreateRFC2616DateStringWithTimeT` from `struct tm` into
`CFGregorianDate`. -/
def gregorianDateOfTm (tm : Tm) : GregorianDate :=
  ⟨tm.year + 1900, tm.mon + 1, tm.mday, tm.hour, tm.min, tm.sec⟩

/-- The copy of `DateBytesToTime` and `DateStringToTime` from `CFGregorianDate` into a zeroed
`struct tm`. -/
def tmOfGregorianDate (g : GregorianDate) : Tm :=
  ⟨g.second, g.minute, g.hour, g.day, g.month - 1, g.year - 1900⟩

def wkdayNames : List (List Char) :=
  ["Sun", "Mon", "Tue", "Wed", "Thu", "Fri", "Sat"].map String.toList

def monthNames : List (List Char) :=
  ["Jan", "Feb", "Mar", "Apr", "May", "Jun", "Jul", "Aug", "Sep", "Oct", "Nov", "Dec"].map
    String.toList

def digitChar (k : Nat) : Char := Char.ofNat (48 + k)

/-- `%02d` of a number below 100. -/
def twoDigits (n : Nat) : List Char := [digitChar (n / 10), digitChar (n % 10)]

/-- `%04d` of a number below 10000. -/
def fourDigits (n : Nat) : List Char :=
  [digitChar (n / 1000), digitChar (n / 100 % 10), digitChar (n / 10 % 10), digitChar (n % 10)]

/-- A date with an RFC 1123 form: a four-digit year and the fields of a day and a time. -/
def GregorianDate.printable (g : GregorianDate) : Bool :=
  0 ≤ g.year ∧ g.year ≤ 9999 ∧ 1 ≤ g.month ∧ g.month ≤ 12 ∧ 1 ≤ g.day ∧ g.day ≤ 31 ∧
    0 ≤ g.hour ∧ g.hour < 24 ∧ 0 ≤ g.minute ∧ g.minute < 60 ∧ 0 ≤ g.second ∧ g.second < 60

/-- The day of the week of a date, 0 for Sunday: 1970-01-01 was a Thursday. -/
def GregorianDate.dayOfWeek (g : GregorianDate) : Nat :=
  ((daysBeforeYear g.year + daysBeforeMonth g.year (g.month - 1).toNat + g.day - 1 + 4) % 7).toNat

/-- `_CFStringCreateRFC2616DateStringWithGregorianDate` (CFNetwork), from RFC 2616 §3.3.1:
`wkday, DD Mon YYYY HH:MM:SS GMT`, and NULL for a date with no such form. -/
def rfc2616DateString (g : GregorianDate) : Option (List Char) :=
  if g.printable then
    some (wkdayNames.getD g.dayOfWeek [] ++ [',', ' '] ++ twoDigits g.day.toNat ++ [' '] ++
      monthNames.getD (g.month - 1).toNat [] ++ [' '] ++ fourDigits g.year.toNat ++ [' '] ++
      twoDigits g.hour.toNat ++ [':'] ++ twoDigits g.minute.toNat ++ [':'] ++
      twoDigits g.second.toNat ++ [' ', 'G', 'M', 'T'])
  else none

/-- A decimal digit's value. -/
def digitValue (c : Nat) : Option Nat := if 48 ≤ c ∧ c ≤ 57 then some (c - 48) else none

/-- The name of `names` that starts `s`, by its index, and the rest of `s`. -/
def readName : List (List Char) → List Nat → Option (Nat × List Nat)
  | [], _ => none
  | n :: names, s =>
    if (n.map Char.toNat).isPrefixOf s then some (0, s.drop n.length)
    else (readName names s).map fun r => (r.1 + 1, r.2)

/-- `s` after the characters `w`, when it starts with them. -/
def expectChars (w : List Char) (s : List Nat) : Option (List Nat) :=
  if (w.map Char.toNat).isPrefixOf s then some (s.drop w.length) else none

def readTwoDigits : List Nat → Option (Nat × List Nat)
  | a :: b :: s => do
    let x ← digitValue a
    let y ← digitValue b
    return (10 * x + y, s)
  | _ => none

def readFourDigits : List Nat → Option (Nat × List Nat)
  | a :: b :: c :: d :: s => do
    let w ← digitValue a
    let x ← digitValue b
    let y ← digitValue c
    let z ← digitValue d
    return (1000 * w + 100 * x + 10 * y + z, s)
  | _ => none

/-- `date1 SP` of RFC 2616 §3.3.1, `DD Mon YYYY `: the day, the month (0 for January) and the
year. -/
def readDate1 (s : List Nat) : Option ((Nat × Nat × Nat) × List Nat) := do
  let day ← readTwoDigits s
  let month ← readName monthNames (← expectChars [' '] day.2)
  let year ← readFourDigits (← expectChars [' '] month.2)
  return ((day.1, month.1, year.1), ← expectChars [' '] year.2)

/-- `time SP "GMT"` of RFC 2616 §3.3.1, `HH:MM:SS GMT`: the hour, the minute and the second. -/
def readTime (s : List Nat) : Option (Nat × Nat × Nat) := do
  let hour ← readTwoDigits s
  let minute ← readTwoDigits (← expectChars [':'] hour.2)
  let second ← readTwoDigits (← expectChars [':'] minute.2)
  let _ ← expectChars [' ', 'G', 'M', 'T'] second.2
  return (hour.1, minute.1, second.1)

/-- The `rfc1123-date` form of RFC 2616 §3.3.1, `wkday "," SP date1 SP time SP "GMT"`, read
from character codes. The day of the week is read and not checked. -/
def parseRFC1123 (s : List Nat) : Option GregorianDate := do
  let wkday ← readName wkdayNames s
  let date ← readDate1 (← expectChars [',', ' '] wkday.2)
  let time ← readTime date.2
  return ⟨date.1.2.2, date.1.2.1 + 1, date.1.1, time.1, time.2.1, time.2.2⟩

/-- `_CFGregorianDateCreateWithBytes` and `_CFGregorianDateCreateWithString` (CFNetwork) on the
character codes of their input: how many characters the date takes, 0 when none is read, and
the date. -/
def gregorianDateCreate (s : List Nat) : Nat × GregorianDate :=
  match parseRFC1123 s with
  | some g => (29, g)
  | none => (0, ⟨0, 0, 0, 0, 0, 0⟩)

/-- The common body of `DateBytesToTime` and `DateStringToTime`: parse, copy into `struct tm`,
`timegm`; -1 when the parse fails. -/
def dateCodesToTime (s : List Nat) : Int :=
  let (count, gdate) := gregorianDateCreate s
  if count ≠ 0 then timegm (tmOfGregorianDate gdate) else -1

/-- `DateBytesToTime` (webdav_network.c:107–134); `finish != bytes` is a count other than 0. -/
def dateBytesToTime (bytes : Bytes) : Int := dateCodesToTime (bytes.map UInt8.toNat)

/-- `DateStringToTime` (webdav_network.c:143–169), on the characters of the `CFString`. -/
def dateStringToTime (str : List Char) : Int := dateCodesToTime (str.map Char.toNat)

/-- `CFStringCreateRFC2616DateStringWithTimeT` (webdav_network.c:177–203): NULL for -1. -/
def cfStringCreateRFC2616DateStringWithTimeT (clock : Int) : Option (List Char) :=
  if clock = -1 then none else rfc2616DateString (gregorianDateOfTm (gmtime clock))

/-! ## The parser reads back what the formatter prints -/

theorem digitChar_toNat : ∀ k < 10, (digitChar k).toNat = 48 + k := by decide

/-- A printed digit reads back as itself. -/
theorem digitValue_digitChar {k : Nat} (h : k < 10) : digitValue (digitChar k).toNat = some k := by
  rw [digitChar_toNat k h, digitValue, if_pos (by omega), Nat.add_sub_cancel_left]

theorem readTwoDigits_twoDigits {n : Nat} (h : n < 100) (rest : List Nat) :
    readTwoDigits ((twoDigits n).map Char.toNat ++ rest) = some (n, rest) := by
  simp only [twoDigits, List.map_cons, List.map_nil, List.cons_append, List.nil_append,
    readTwoDigits, digitValue_digitChar (show n / 10 < 10 by omega),
    digitValue_digitChar (show n % 10 < 10 by omega), Option.bind_eq_bind, Option.some_bind,
    Option.pure_def, Option.some.injEq, Prod.mk.injEq, and_true]
  omega

theorem readFourDigits_fourDigits {n : Nat} (h : n < 10000) (rest : List Nat) :
    readFourDigits ((fourDigits n).map Char.toNat ++ rest) = some (n, rest) := by
  simp only [fourDigits, List.map_cons, List.map_nil, List.cons_append, List.nil_append,
    readFourDigits, digitValue_digitChar (show n / 1000 < 10 by omega),
    digitValue_digitChar (show n / 100 % 10 < 10 by omega),
    digitValue_digitChar (show n / 10 % 10 < 10 by omega),
    digitValue_digitChar (show n % 10 < 10 by omega), Option.bind_eq_bind, Option.some_bind,
    Option.pure_def, Option.some.injEq, Prod.mk.injEq, and_true]
  omega

theorem expectChars_append (w : List Char) (rest : List Nat) :
    expectChars w (w.map Char.toNat ++ rest) = some rest := by
  unfold expectChars
  rw [if_pos (List.isPrefixOf_iff_prefix.mpr (List.prefix_append _ _))]
  simp

theorem char_toNat_injective : Function.Injective Char.toNat := fun a b h => by
  rw [← Char.ofNat_toNat a, h, Char.ofNat_toNat]

/-- `readName` finds the `i`-th of distinct names of one length: no other name is a prefix of
it. -/
theorem readName_getD {names : List (List Char)} {k : Nat} (hlen : ∀ n ∈ names, n.length = k)
    (hnd : names.Nodup) {i : Nat} (hi : i < names.length) (rest : List Nat) :
    readName names ((names.getD i []).map Char.toNat ++ rest) = some (i, rest) := by
  induction names generalizing i with
  | nil => simp at hi
  | cons n ns ih =>
    obtain ⟨hn, hns⟩ := List.nodup_cons.1 hnd
    cases i with
    | zero => simp [readName, List.isPrefixOf_iff_prefix]
    | succ j =>
      have hj : j < ns.length := by simpa using hi
      have hm : ns.getD j [] ∈ ns := by
        rw [List.getD_eq_getElem _ _ hj]; exact List.getElem_mem hj
      have hne : ¬(n.map Char.toNat).isPrefixOf ((ns.getD j []).map Char.toNat ++ rest) := by
        rw [List.isPrefixOf_iff_prefix]
        intro hp
        have hlen' : (n.map Char.toNat).length = ((ns.getD j []).map Char.toNat).length := by
          rw [List.length_map, List.length_map, hlen n (by simp),
            hlen _ (List.mem_cons_of_mem _ hm)]
        have heq := (List.prefix_of_prefix_length_le hp (List.prefix_append _ _)
          hlen'.le).eq_of_length hlen'
        exact hn (List.map_injective_iff.2 char_toNat_injective heq ▸ hm)
      rw [List.getD_cons_succ, readName, if_neg hne,
        ih (fun m hm' => hlen m (List.mem_cons_of_mem _ hm')) hns hj]
      rfl

theorem readName_wkdayNames {i : Nat} (h : i < 7) (rest : List Nat) :
    readName wkdayNames ((wkdayNames.getD i []).map Char.toNat ++ rest) = some (i, rest) :=
  readName_getD (k := 3) (by decide) (by decide) (show i < wkdayNames.length from h) rest

theorem readName_monthNames {i : Nat} (h : i < 12) (rest : List Nat) :
    readName monthNames ((monthNames.getD i []).map Char.toNat ++ rest) = some (i, rest) :=
  readName_getD (k := 3) (by decide) (by decide) (show i < monthNames.length from h) rest

theorem expectChars_self (w : List Char) : expectChars w (w.map Char.toNat) = some [] := by
  simpa using expectChars_append w []

/-- `readDate1` reads back a printed `DD Mon YYYY `. -/
theorem readDate1_printed {d m y : Nat} (hd : d < 100) (hm : m < 12) (hy : y < 10000)
    (rest : List Nat) :
    readDate1 ((twoDigits d).map Char.toNat ++ ([' '].map Char.toNat ++
      ((monthNames.getD m []).map Char.toNat ++ ([' '].map Char.toNat ++
        ((fourDigits y).map Char.toNat ++ ([' '].map Char.toNat ++ rest)))))) =
      some ((d, m, y), rest) := by
  simp only [readDate1, readTwoDigits_twoDigits hd, expectChars_append, readName_monthNames hm,
    readFourDigits_fourDigits hy, Option.bind_eq_bind, Option.some_bind, Option.pure_def]

/-- `readTime` reads back a printed `HH:MM:SS GMT`. -/
theorem readTime_printed {h m s : Nat} (hh : h < 100) (hm : m < 100) (hs : s < 100) :
    readTime ((twoDigits h).map Char.toNat ++ ([':'].map Char.toNat ++
      ((twoDigits m).map Char.toNat ++ ([':'].map Char.toNat ++
        ((twoDigits s).map Char.toNat ++ [' ', 'G', 'M', 'T'].map Char.toNat))))) =
      some (h, m, s) := by
  simp only [readTime, readTwoDigits_twoDigits hh, readTwoDigits_twoDigits hm,
    readTwoDigits_twoDigits hs, expectChars_append, expectChars_self, Option.bind_eq_bind,
    Option.some_bind, Option.pure_def]

/-- The parser reads back every date the formatter prints. -/
theorem parseRFC1123_rfc2616DateString {g : GregorianDate} (hg : g.printable) :
    ∃ s, rfc2616DateString g = some s ∧ parseRFC1123 (s.map Char.toNat) = some g := by
  refine ⟨_, if_pos hg, ?_⟩
  simp only [GregorianDate.printable, decide_eq_true_eq] at hg
  have hw : g.dayOfWeek < 7 := by unfold GregorianDate.dayOfWeek; omega
  simp only [List.map_append, List.append_assoc, parseRFC1123, readName_wkdayNames hw,
    expectChars_append,
    readDate1_printed (show g.day.toNat < 100 by omega)
      (show (g.month - 1).toNat < 12 by omega) (show g.year.toNat < 10000 by omega),
    readTime_printed (show g.hour.toNat < 100 by omega) (show g.minute.toNat < 100 by omega)
      (show g.second.toNat < 100 by omega),
    Option.bind_eq_bind, Option.some_bind, Option.pure_def, Option.some.injEq]
  cases g
  simp only [GregorianDate.mk.injEq] at hg ⊢
  omega

/-! ## The round trip -/

/-- The two copies of the source undo each other. -/
theorem tmOfGregorianDate_gregorianDateOfTm (tm : Tm) :
    tmOfGregorianDate (gregorianDateOfTm tm) = tm := by
  cases tm
  simp [tmOfGregorianDate, gregorianDateOfTm]

/-- From 1970 to the end of 9999, the date `gmtime` gives, copied into a `CFGregorianDate`, has an
RFC 1123 form. -/
theorem gmtime_printable {clock : Int} (h0 : 0 ≤ clock) (h1 : clock ≤ 253402300799) :
    (gregorianDateOfTm (gmtime clock)).printable := by
  obtain ⟨hy0, hy1⟩ := yearOfDay_spec (clock / 86400)
  have hb0 := daysBeforeYear_bounds (yearOfDay (clock / 86400))
  have hb1 := daysBeforeYear_bounds (yearOfDay (clock / 86400) + 1)
  have hlen := daysBeforeYear_succ (yearOfDay (clock / 86400))
  obtain ⟨-, hmon, hd0, hd1, -⟩ := monthOfDay_spec (yearOfDay (clock / 86400)) 11 0
    (clock / 86400 - daysBeforeYear (yearOfDay (clock / 86400))) rfl (by omega)
    (by simp only [daysBeforeMonth]; omega)
  have hdim := daysInMonth_bounds (yearOfDay (clock / 86400))
    (monthOfDay (yearOfDay (clock / 86400)) 11 0
      (clock / 86400 - daysBeforeYear (yearOfDay (clock / 86400)))).1
  simp only [GregorianDate.printable, gregorianDateOfTm, gmtime, decide_eq_true_eq]
  omega

theorem digitChar_ascii {k : Nat} (h : k < 10) : (digitChar k).toNat < 128 := by
  rw [digitChar_toNat k h]; omega

/-- A name of `names` that is all US-ASCII, or nothing, is US-ASCII. -/
theorem getD_ascii {names : List (List Char)} (h : ∀ n ∈ names, ∀ c ∈ n, c.toNat < 128)
    (i : Nat) : ∀ c ∈ names.getD i [], c.toNat < 128 := by
  rw [List.getD_eq_getElem?_getD]
  cases hi : names[i]? with
  | none => simp
  | some n => exact h n (List.getElem?_mem hi)

theorem twoDigits_ascii {n : Nat} (h : n < 100) : ∀ c ∈ twoDigits n, c.toNat < 128 := by
  intro c hc
  simp only [twoDigits, List.mem_cons, List.not_mem_nil, or_false] at hc
  rcases hc with rfl | rfl <;> exact digitChar_ascii (by omega)

theorem fourDigits_ascii {n : Nat} (h : n < 10000) : ∀ c ∈ fourDigits n, c.toNat < 128 := by
  intro c hc
  simp only [fourDigits, List.mem_cons, List.not_mem_nil, or_false] at hc
  rcases hc with rfl | rfl | rfl | rfl <;> exact digitChar_ascii (by omega)

/-- The formatter prints US-ASCII only, so the bytes of its string are its character codes. -/
theorem rfc2616DateString_ascii {g : GregorianDate} {s : List Char}
    (h : rfc2616DateString g = some s) : ∀ c ∈ s, c.toNat < 128 := by
  unfold rfc2616DateString at h
  split at h
  · next hg =>
    rw [← Option.some.inj h]
    simp only [GregorianDate.printable, decide_eq_true_eq] at hg
    have hw := getD_ascii (show ∀ n ∈ wkdayNames, ∀ c ∈ n, c.toNat < 128 by decide) g.dayOfWeek
    have hm := getD_ascii (show ∀ n ∈ monthNames, ∀ c ∈ n, c.toNat < 128 by decide)
      (g.month - 1).toNat
    simp only [List.forall_mem_append]
    repeat' apply And.intro
    all_goals first
      | exact hw | exact hm | decide
      | exact twoDigits_ascii (by omega) | exact fourDigits_ascii (by omega)
  · cases h

/-- **The HTTP date encoder and decoders agree.** For every time from 1970 to the end of 9999,
`CFStringCreateRFC2616DateStringWithTimeT` gives a string, and `DateStringToTime` on it, and
`DateBytesToTime` on its bytes, give the time back. -/
theorem httpDate_round_trip (t : Int) (h0 : 0 ≤ t) (h1 : t ≤ 253402300799) :
    ∃ s, cfStringCreateRFC2616DateStringWithTimeT t = some s ∧ dateStringToTime s = t ∧
      dateBytesToTime (s.map fun c => UInt8.ofNat c.toNat) = t := by
  obtain ⟨s, hs, hparse⟩ := parseRFC1123_rfc2616DateString (gmtime_printable h0 h1)
  have hdate : dateCodesToTime (s.map Char.toNat) = t := by
    simp only [dateCodesToTime, gregorianDateCreate, hparse]
    rw [if_pos (by decide), tmOfGregorianDate_gregorianDateOfTm, timegm_gmtime]
  have hcodes : (s.map fun c => UInt8.ofNat c.toNat).map UInt8.toNat = s.map Char.toNat := by
    rw [List.map_map]
    exact List.map_congr_left fun c hc =>
      UInt8.toNat_ofNat_of_lt (by have := rfc2616DateString_ascii hs c hc; simp [UInt8.size]; omega)
  refine ⟨s, ?_, hdate, ?_⟩
  · rw [cfStringCreateRFC2616DateStringWithTimeT, if_neg (by omega)]
    exact hs
  · rw [dateBytesToTime, hcodes]
    exact hdate

/-- The example date of RFC 2616 §3.3.1, `Sun, 06 Nov 1994 08:49:37 GMT`. -/
theorem httpDate_round_trip_rfc2616 :
    0 ≤ (784111777 : Int) ∧ (784111777 : Int) ≤ 253402300799 ∧
      ∃ s, cfStringCreateRFC2616DateStringWithTimeT 784111777 = some s ∧
        dateStringToTime s = 784111777 ∧
        dateBytesToTime (s.map fun c => UInt8.ofNat c.toNat) = 784111777 :=
  ⟨by norm_num, by norm_num, httpDate_round_trip 784111777 (by norm_num) (by norm_num)⟩

/-- That string is the one RFC 2616 prints. -/
example : cfStringCreateRFC2616DateStringWithTimeT 784111777 =
    some "Sun, 06 Nov 1994 08:49:37 GMT".toList := by decide

end WebDAVFS
