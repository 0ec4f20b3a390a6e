import Buildwatch.Machine.Raw

/-!
# The calendar

Days counted from the first of January 1970, their dates, and the texts that times are
written as and read from. All times are those of Greenwich.
-/

namespace Buildwatch.Machine.Calendar

/-! ## Days and dates -/

/-- The number of the day with a date, counted in years that begin with March. -/
def dayOf (year : Int) (month day : Nat) : Int :=
  let y := if month ≤ 2 then year - 1 else year
  let era := y / 400
  let yearOfEra := y - era * 400
  let monthFromMarch : Int := (month + 9) % 12
  let dayOfYear := (153 * monthFromMarch + 2) / 5 + day - 1
  era * 146097 + yearOfEra * 365 + yearOfEra / 4 - yearOfEra / 100 + dayOfYear - 719468

def dateOf (n : Int) : Int × Nat × Nat :=
  let z := n + 719468
  let era := z / 146097
  let d := z - era * 146097
  let y := (d - d / 1460 + d / 36524 - d / 146096) / 365
  let dayOfYear := d - (365 * y + y / 4 - y / 100)
  let m := (5 * dayOfYear + 2) / 153
  let day := dayOfYear - (153 * m + 2) / 5 + 1
  let month := if m < 10 then m + 3 else m - 9
  (y + era * 400 + (if month ≤ 2 then 1 else 0), month.toNat, day.toNat)

def isLeap (year : Int) : Bool := year % 4 = 0 && (year % 100 ≠ 0 || year % 400 = 0)

def daysIn (year : Int) (month : Nat) : Nat :=
  if month = 2 then if isLeap year then 29 else 28
  else if month = 4 || month = 6 || month = 9 || month = 11 then 30 else 31

/-- A moment taken apart. -/
structure Moment where
  year : Int
  month : Nat
  day : Nat
  hour : Nat
  minute : Nat
  second : Nat
  micros : Nat

namespace Moment

/-- The moment that a number of microseconds since 1970 is. -/
def ofMicros (t : Int) : Moment :=
  let seconds := t / 1000000
  let day := seconds / 86400
  let rest := (seconds - day * 86400).toNat
  let (year, month, date) := dateOf day
  { year, month, day := date, hour := rest / 3600, minute := rest / 60 % 60, second := rest % 60
    micros := (t - seconds * 1000000).toNat }

def toMicros (m : Moment) : Int :=
  (dayOf m.year m.month m.day * 86400 + m.hour * 3600 + m.minute * 60 + m.second) * 1000000 + m.micros

def dayOfYear (m : Moment) : Nat := (dayOf m.year m.month m.day - dayOf m.year 1 1).toNat

def weekday (m : Moment) : Nat := ((dayOf m.year m.month m.day + 4) % 7).toNat

/-- The year and the number of the week that begins with Monday, where the first week has
the first Thursday. -/
def week (m : Moment) : Int × Nat :=
  let day := dayOf m.year m.month m.day
  let thursday := day - ((m.weekday + 6) % 7 : Nat) + 3
  let (year, _, _) := dateOf thursday
  (year, ((thursday - dayOf year 1 1) / 7 + 1).toNat)

/-- Whether there is such a moment. -/
def isReal (m : Moment) : Bool :=
  1 ≤ m.month && m.month ≤ 12 && 1 ≤ m.day && m.day ≤ daysIn m.year m.month && m.hour ≤ 23 &&
    m.minute ≤ 59 && m.second ≤ 59

end Moment

/-! ## Names -/

def monthNames : List String :=
  ["January", "February", "March", "April", "May", "June", "July", "August", "September", "October",
    "November", "December"]

def dayNames : List String :=
  ["Sunday", "Monday", "Tuesday", "Wednesday", "Thursday", "Friday", "Saturday"]

def nameAt (names : List String) (n : Nat) : Raw := Raw.ascii (names[n]?.getD "")

/-! ## Writing -/

/-- A number with a filling in front, up to a width. -/
def filled (filling : Option Char) (width : Nat) (n : Int) : Raw :=
  match filling with
  | none => Raw.ofInt n
  | some c =>
    let digits := Raw.ofNat n.natAbs
    let missing := List.replicate (width - digits.length - (if n < 0 then 1 else 0)) c
    if n < 0 then if c = '0' then '-' :: missing ++ digits else missing ++ '-' :: digits
    else missing ++ digits

/-- How a part of a time is asked for. -/
structure Wish where
  filling : Option (Option Char) := none
  width : Option Nat := none
  isUpper : Bool := false
  isSwapped : Bool := false
  colons : Nat := 0

def signs (w : Wish) : Raw → Wish × Raw
  | '-' :: r => signs { w with filling := some none } r
  | '_' :: r => signs { w with filling := some (some ' ') } r
  | '0' :: r | '+' :: r => signs { w with filling := some (some '0') } r
  | '^' :: r => signs { w with isUpper := true } r
  | '#' :: r => signs { w with isSwapped := true } r
  | r => (w, r)

def wish (w : Wish) (r : Raw) : Wish × Raw :=
  let (w, r) := signs w r
  let (width, rest) := Raw.takeDigits 10 r.length 0 r
  let colons := (rest.takeWhile (· = ':')).length
  ({ w with width := if rest.length = r.length then none else some width, colons },
    match rest.drop colons with
    | 'E' :: c :: rest | 'O' :: c :: rest => c :: rest
    | rest => rest)

mutual

/-- Writes a moment in a form. Letters behind percent signs stand for parts of it. -/
def written (m : Moment) (isPlain : Bool) : (fuel : Nat) → Raw → Raw
  | 0, _ => []
  | _, [] => []
  | fuel + 1, '%' :: r =>
    let (w, rest) := wish {} r
    match rest with
    | [] => '%' :: r
    | c :: rest =>
      let given := '%' :: r.take (r.length - rest.length)
      (part m isPlain fuel w c).getD given ++ written m isPlain fuel rest
  | fuel + 1, c :: r => c :: written m isPlain fuel r

def part (m : Moment) (isPlain : Bool) : (fuel : Nat) → Wish → Char → Option Raw
  | 0, _, _ => none
  | fuel + 1, w, c =>
    let number (filling : Char) (width : Nat) (n : Int) : Option Raw :=
      some (filled (w.filling.getD (some filling)) (w.width.getD width) n)
    let text (r : Raw) : Option Raw :=
      let r := if w.isUpper then Raw.upper r else r
      match w.filling with
      | some (some c) => some (List.replicate (w.width.getD 0 - r.length) c ++ r)
      | some none => some r
      | none => some (Raw.padLeft (w.width.getD 0) r)
    let name (r : Raw) : Option Raw := text (if w.isSwapped then Raw.upper r else r)
    let form (r : String) : Option Raw := text (written m isPlain fuel (Raw.ascii r))
    let hour12 : Int := if m.hour % 12 = 0 then 12 else m.hour % 12
    let noon : String := if m.hour < 12 then "AM" else "PM"
    match c with
    | '%' => some ['%']
    | 'n' => some ['\n']
    | 't' => some ['\t']
    | 'a' => name ((nameAt dayNames m.weekday).take 3)
    | 'A' => name (nameAt dayNames m.weekday)
    | 'b' | 'h' => name ((nameAt monthNames (m.month - 1)).take 3)
    | 'B' => name (nameAt monthNames (m.month - 1))
    | 'c' => form "%a %b %e %H:%M:%S %Y"
    | 'C' => number '0' 2 (m.year / 100)
    | 'd' => number '0' 2 m.day
    | 'D' | 'x' => form "%m/%d/%y"
    | 'e' => number ' ' 2 m.day
    | 'F' => form "%Y-%m-%d"
    | 'g' => number '0' 2 (m.week.1 % 100)
    | 'G' => number '0' 4 m.week.1
    | 'H' => number '0' 2 m.hour
    | 'I' => number '0' 2 hour12
    | 'j' => number '0' 3 (m.dayOfYear + 1)
    | 'k' => number ' ' 2 m.hour
    | 'l' => number ' ' 2 hour12
    | 'm' => number '0' 2 m.month
    | 'M' => number '0' 2 m.minute
    | 'N' =>
      if isPlain then none
      else some ((filled (some '0') 9 (m.micros * 1000)).take (w.width.getD 9))
    | 'p' => text (Raw.ascii (if w.isSwapped then noon.toLower else noon))
    | 'P' => text (Raw.ascii noon.toLower)
    | 'q' => number '0' 1 ((m.month + 2) / 3)
    | 'r' => form "%I:%M:%S %p"
    | 'R' => form "%H:%M"
    | 's' => number '0' 1 (m.toMicros / 1000000)
    | 'S' => number '0' 2 m.second
    | 'T' | 'X' => form "%H:%M:%S"
    | 'u' => number '0' 1 (if m.weekday = 0 then 7 else m.weekday)
    | 'U' => number '0' 2 ((m.dayOfYear + 7 - m.weekday) / 7)
    | 'V' => number '0' 2 m.week.2
    | 'w' => number '0' 1 m.weekday
    | 'W' => number '0' 2 ((m.dayOfYear + 7 - (m.weekday + 6) % 7) / 7)
    | 'y' => number '0' 2 (m.year % 100)
    | 'Y' => number '0' 4 m.year
    | 'z' => some (Raw.ascii (match w.colons with
        | 0 => "+0000"
        | 1 => "+00:00"
        | 2 => "+00:00:00"
        | _ => "+00"))
    | 'Z' => name (Raw.ascii "UTC")
    | _ => none

end

/-- Writes a moment in a form. -/
def text (form : Raw) (m : Moment) : Raw := written m false (form.length + 20) form

/-- Writes a time in a form. -/
def ofMicros (form : String) (t : Int) : Raw := text (Raw.ascii form) (.ofMicros t)

/-! ## Reading -/

/-- A word or a number of a date. -/
inductive Token
  | number (n : Int) (digits : Nat) (isSigned : Bool)
  | word (w : String)
  | mark (c : Char)
  deriving DecidableEq

def tokens : (fuel : Nat) → Raw → Option (List Token)
  | 0, _ => none
  | _, [] => some []
  | fuel + 1, c :: r =>
    if Raw.isSpace c || c = ',' then tokens fuel r
    else if Raw.isDigit c then
      let (n, rest) := Raw.takeDigits 10 (r.length + 1) 0 (c :: r)
      (tokens fuel rest).map (.number n (r.length + 1 - rest.length) false :: ·)
    else if Raw.isLetter c then
      let w := (c :: r).takeWhile Raw.isLetter
      (tokens fuel ((c :: r).drop w.length)).map (.word (String.ofList (w.map Char.toLower)) :: ·)
    else if "-+:/.@".toList.contains c then (tokens fuel r).map (.mark c :: ·)
    else none

structure Draft where
  date : Option (Int × Nat × Nat) := none
  time : Option (Nat × Nat × Nat × Nat) := none
  /-- How many months later it is, and how many microseconds. -/
  months : Int := 0
  micros : Int := 0
  /-- How far the clock of the place is ahead, in minutes. -/
  zone : Option Int := none
  /-- A time that is given as a whole. -/
  moment : Option Int := none

/-- A number of units of time: months and microseconds. -/
def unit? (w : String) : Option (Int × Int) :=
  let w := if w.endsWith "s" && w ≠ "s" then String.ofList w.toList.dropLast else w
  match w with
  | "year" => some (12, 0)
  | "month" => some (1, 0)
  | "fortnight" => some (0, 14 * 86400000000)
  | "week" => some (0, 7 * 86400000000)
  | "day" => some (0, 86400000000)
  | "hour" => some (0, 3600000000)
  | "minute" | "min" => some (0, 60000000)
  | "second" | "sec" => some (0, 1000000)
  | _ => none

def month? (w : String) : Option Nat :=
  ((monthNames.zipIdx 1).find? fun (name, _) =>
    let name := name.toLower
    name = w || String.ofList (name.toList.take 3) = w || (w = "sept" && name = "september")).map (·.2)

def isDayName (w : String) : Bool :=
  dayNames.any fun name => name.toLower = w || String.ofList (name.toLower.toList.take 3) = w

/-- The millionths that the digits behind a point are. -/
def fraction (n : Int) (digits : Nat) : Nat :=
  if digits ≤ 6 then n.toNat * Nat.pow 10 (6 - digits) else n.toNat / Nat.pow 10 (digits - 6)

/-- The hour of the day that an hour before or after noon is. -/
def noonHour (hour : Nat) (w : String) : Nat :=
  if w = "am" then hour % 12 else hour % 12 + 12

/-- Reads a date and a time, in any order. -/
def draft : (fuel : Nat) → Draft → List Token → Option Draft
  | 0, _, _ => none
  | _, d, [] => some d
  | fuel + 1, d, ts =>
    let withTime (h m s u : Int) (rest : List Token) : Option Draft :=
      match d.time with
      | some _ => none
      | none =>
        let time (h : Nat) := some (h, m.toNat, s.toNat, u.toNat)
        match rest with
        | .word "am" :: rest => draft fuel { d with time := time (noonHour h.toNat "am") } rest
        | .word "pm" :: rest => draft fuel { d with time := time (noonHour h.toNat "pm") } rest
        | .word "z" :: rest | .word "utc" :: rest | .word "gmt" :: rest =>
          draft fuel { d with time := time h.toNat, zone := some 0 } rest
        | .mark sign :: .number zh _ _ :: .mark ':' :: .number zm _ _ :: rest =>
          let z := zh * 60 + zm
          draft fuel { d with time := time h.toNat, zone := some (if sign = '-' then -z else z) } rest
        | .mark sign :: .number z digits _ :: rest =>
          if (sign = '+' || sign = '-') && (digits = 4 || digits = 2) &&
              !(rest.head?.any fun | .word w => (unit? w).isSome | _ => false) then
            let z := if digits = 4 then z / 100 * 60 + z % 100 else z * 60
            draft fuel { d with time := time h.toNat, zone := some (if sign = '-' then -z else z) } rest
          else draft fuel { d with time := time h.toNat } (.mark sign :: .number z digits false :: rest)
        | rest => draft fuel { d with time := time h.toNat } rest
    let withDate (y : Int) (m day : Int) (rest : List Token) : Option Draft :=
      match d.date with
      | some _ => none
      | none => draft fuel { d with date := some (y, m.toNat, day.toNat) } rest
    let withUnits (n : Int) (w : String) (rest : List Token) : Option Draft := do
      let (months, micros) ← unit? w
      let (n, rest) := match rest with
        | .word "ago" :: rest => (-n, rest)
        | rest => (n, rest)
      draft fuel { d with months := d.months + n * months, micros := d.micros + n * micros } rest
    match ts with
    | .mark '@' :: .mark '-' :: .number n _ _ :: .mark '.' :: .number f digits _ :: rest =>
      draft fuel { d with moment := some (-(n * 1000000 + fraction f digits)) } rest
    | .mark '@' :: .mark '-' :: .number n _ _ :: rest => draft fuel { d with moment := some (-n * 1000000) } rest
    | .mark '@' :: .number n _ _ :: .mark '.' :: .number f digits _ :: rest =>
      draft fuel { d with moment := some (n * 1000000 + fraction f digits) } rest
    | .mark '@' :: .number n _ _ :: rest => draft fuel { d with moment := some (n * 1000000) } rest
    | .number y digits _ :: .mark '-' :: .number m _ _ :: .mark '-' :: .number day _ _ :: rest =>
      let y := if digits ≤ 2 then if y < 69 then y + 2000 else y + 1900 else y
      match rest with
      | .word "t" :: rest => withDate y m day rest
      | rest => withDate y m day rest
    | .number m _ _ :: .mark '/' :: .number day _ _ :: .mark '/' :: .number y digits _ :: rest =>
      if digits = 4 then withDate y m day rest
      else withDate (if y < 69 then y + 2000 else y + 1900) m day rest
    | .number h _ _ :: .mark ':' :: .number m _ _ :: .mark ':' :: .number s _ _ :: .mark '.' ::
        .number f digits _ :: rest => withTime h m s (fraction f digits) rest
    | .number h _ _ :: .mark ':' :: .number m _ _ :: .mark ':' :: .number s _ _ :: rest => withTime h m s 0 rest
    | .number h _ _ :: .mark ':' :: .number m _ _ :: rest => withTime h m 0 0 rest
    | .number h _ _ :: .word "am" :: rest => withTime h 0 0 0 (.word "am" :: rest)
    | .number h _ _ :: .word "pm" :: rest => withTime h 0 0 0 (.word "pm" :: rest)
    | .number day _ _ :: .word w :: .number y digits _ :: rest =>
      match month? w with
      | some m => if digits = 4 then withDate y m day rest else none
      | none => withUnits day w (.number y digits false :: rest)
    | .number n digits _ :: .word w :: rest =>
      if w = "t" && digits = 8 then withDate (n / 10000) (n / 100 % 100) (n % 100) rest
      else withUnits n w rest
    | .word w :: .number day _ _ :: .number y digits _ :: rest =>
      match month? w with
      | some m => if digits = 4 then withDate y m day rest else none
      | none =>
        if isDayName w then draft fuel d (.number day 2 false :: .number y digits false :: rest)
        else if w = "next" || w = "last" then none
        else none
    | .number n 8 _ :: rest => withDate (n / 10000) (n / 100 % 100) (n % 100) rest
    | .number n 4 _ :: rest => withTime (n / 100) (n % 100) 0 0 rest
    | .mark '+' :: .number n _ _ :: .word w :: rest => withUnits n w rest
    | .mark '-' :: .number n _ _ :: .word w :: rest => withUnits (-n) w rest
    | .word "now" :: rest | .word "today" :: rest => draft fuel d rest
    | .word "yesterday" :: rest => draft fuel { d with micros := d.micros - 86400000000 } rest
    | .word "tomorrow" :: rest => draft fuel { d with micros := d.micros + 86400000000 } rest
    | .word "noon" :: rest => withTime 12 0 0 0 rest
    | .word "midnight" :: rest => withTime 0 0 0 0 rest
    | .word "next" :: .word w :: rest => withUnits 1 w rest
    | .word "last" :: .word w :: rest => withUnits (-1) w rest
    | .word "utc" :: rest | .word "gmt" :: rest | .word "z" :: rest => draft fuel { d with zone := some 0 } rest
    | .word w :: rest => if isDayName w then draft fuel d rest else withUnits 1 w rest
    | _ => none

/-- The time that a text means, given the present one. -/
def read? (now : Int) (r : Raw) : Option Int := do
  let d ← draft (r.length + 1) {} (← tokens (r.length + 1) r)
  match d.moment with
  | some t => some (t + d.micros)
  | none =>
    let present := Moment.ofMicros now
    let (year, month, day) := d.date.getD (present.year, present.month, present.day)
    let isNow := d.date.isNone && d.time.isNone
    let (hour, minute, second, micros) :=
      if isNow then (present.hour, present.minute, present.second, present.micros)
      else d.time.getD (0, 0, 0, 0)
    let m : Moment := { year, month, day, hour, minute, second, micros }
    if !m.isReal then none
    else
      let months := year * 12 + (month - 1 : Nat) + d.months
      let day := dayOf (months / 12) ((months % 12).toNat + 1) 1 + day - 1
      let shifted := day * 86400 + (hour * 3600 + minute * 60 + second : Nat)
      some (shifted * 1000000 + micros + d.micros - d.zone.getD 0 * 60000000)

/-- The time that digits for a month, a day, an hour and a minute mean, perhaps with a year in
front and seconds behind a point. -/
def readDigits? (now : Int) (r : Raw) : Option Int := do
  let digits := r.takeWhile (· ≠ '.')
  let rest := r.drop digits.length
  let second ← match rest with
    | [] => some 0
    | '.' :: s => if s.length = 2 then Raw.natural? s else none
    | _ => none
  let n ← Raw.natural? digits
  let short := n % 100000000
  let year : Int ← match digits.length with
    | 8 => some (Moment.ofMicros now).year
    | 10 => some (if n / 100000000 < 69 then (n / 100000000 + 2000 : Nat) else (n / 100000000 + 1900 : Nat))
    | 12 => some (n / 100000000 : Nat)
    | _ => none
  let m : Moment :=
    { year, month := short / 1000000, day := short / 10000 % 100, hour := short / 100 % 100
      minute := short % 100, second, micros := 0 }
  if m.isReal then some m.toMicros else none

end Buildwatch.Machine.Calendar
