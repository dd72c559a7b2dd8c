import Snippets.Calendar
import Snippets.Shell.Tool.Figure
import Snippets.Shell.Tool.Options

/-!
# Dates

The date and the time of day of a moment, written in formats and read from words.
-/

namespace Snippets
namespace Shell

/-- A date and a time of day. -/
structure Clock where
  /-- The year. -/
  year : Int
  /-- The month, from 1. -/
  month : Nat
  /-- The day of the month, from 1. -/
  day : Nat
  /-- The hour. -/
  hour : Nat
  /-- The minute. -/
  minute : Nat
  /-- The second. -/
  second : Nat
  deriving DecidableEq, Repr

/-- The name of a time zone, and the seconds by which its clocks are ahead. -/
structure Zone where
  /-- The name. -/
  name : List Char
  /-- The seconds. -/
  offset : Int
  deriving DecidableEq, Repr

namespace Clock

/-- The number of days from the first of January 1970 to a date.  The months are counted from
March, so that a leap day is the last one of its year. -/
def days (year : Int) (month day : Nat) : Int :=
  let year := if month ≤ 2 then year - 1 else year
  let era := Int.fdiv year 400
  let yearOfEra := (year - era * 400).toNat
  let monthFromMarch := (month + 9) % 12
  let dayOfYear := (153 * monthFromMarch + 2) / 5 + day - 1
  let dayOfEra := yearOfEra * 365 + yearOfEra / 4 - yearOfEra / 100 + dayOfYear
  era * 146097 + dayOfEra - 719468

/-- The date that is a number of days after the first of January 1970. -/
def ofDays (count : Int) : Int × Nat × Nat :=
  let count := count + 719468
  let era := Int.fdiv count 146097
  let dayOfEra := (count - era * 146097).toNat
  let yearOfEra := (dayOfEra - dayOfEra / 1460 + dayOfEra / 36524 - dayOfEra / 146096) / 365
  let dayOfYear := dayOfEra - (365 * yearOfEra + yearOfEra / 4 - yearOfEra / 100)
  let monthFromMarch := (5 * dayOfYear + 2) / 153
  let day := dayOfYear - (153 * monthFromMarch + 2) / 5 + 1
  let month := (monthFromMarch + 2) % 12 + 1
  let year : Int := yearOfEra + era * 400
  (if month ≤ 2 then year + 1 else year, month, day)

/-- The date and the time a number of seconds after the start of 1970. -/
def ofSeconds (seconds : Int) : Clock :=
  let count := Int.fdiv seconds 86400
  let rest := (seconds - count * 86400).toNat
  let (year, month, day) := ofDays count
  ⟨year, month, day, rest / 3600, rest / 60 % 60, rest % 60⟩

/-- The seconds from the start of 1970. -/
def seconds (clock : Clock) : Int :=
  days clock.year clock.month clock.day * 86400 +
    ((clock.hour * 60 + clock.minute) * 60 + clock.second : Nat)

/-- The day of the week, zero for Sunday. -/
def weekday (clock : Clock) : Nat :=
  (Int.fmod (days clock.year clock.month clock.day + 4) 7).toNat

/-- The number of days since the start of the year. -/
def yearDay (clock : Clock) : Nat :=
  (days clock.year clock.month clock.day - days clock.year 1 1).toNat

/-- The year and the number of the week by which weeks are counted that start on Monday and
belong to the year of their Thursday. -/
def week (clock : Clock) : Int × Nat :=
  let today := days clock.year clock.month clock.day
  let thursday := today - ((clock.weekday + 6) % 7 : Nat) + 3
  let (year, _, _) := ofDays thursday
  (year, ((thursday - days year 1 1).toNat) / 7 + 1)

/-- The names of the days of the week. -/
def weekdayNames : List String :=
  ["Sunday", "Monday", "Tuesday", "Wednesday", "Thursday", "Friday", "Saturday"]

/-- The names of the months. -/
def monthNames : List String :=
  ["January", "February", "March", "April", "May", "June", "July", "August", "September",
   "October", "November", "December"]

/-- A number filled up to a width, as flags between the sign and the letter of a field say. -/
def padded (flags : List Char) (width : Nat) (fill : Char) (value : Int) : List Char :=
  let digits := ofNat value.natAbs
  let text := match (flags.filter fun flag => "_-0".toList.contains flag).getLast? with
    | some '-' => digits
    | some '_' => padLeft width ' ' digits
    | some _ => padLeft width '0' digits
    | none => padLeft width fill digits
  if value < 0 then '-' :: text else text

/-- The distance of a zone with a number of colons in it. -/
def offsetText (colons : Nat) (zone : Zone) : List Char :=
  let size := zone.offset.natAbs
  let two := fun value : Nat => padLeft 2 '0' (ofNat value)
  (if zone.offset < 0 then '-' else '+') :: two (size / 3600) ++
    (if 0 < colons then [':'] else []) ++ two (size / 60 % 60) ++
    (if 1 < colons then ':' :: two (size % 60) else [])

/-- What a letter stands for in a format. -/
def field (zone : Zone) (total : Int) (nanoseconds : Nat) (clock : Clock) (flags : List Char)
    (width : Option Nat) (colons : Nat) (letter : Char) : Option (List Char) :=
  let number := fun (least : Nat) (fill : Char) (value : Int) =>
    some (padded flags (width.getD least) fill value)
  let name := fun (names : List String) (index : Nat) =>
    ((names[index]?).getD "").toList
  let hour12 : Nat := if clock.hour % 12 = 0 then 12 else clock.hour % 12
  let two := fun value : Nat => padLeft 2 '0' (ofNat value)
  let time := two clock.hour ++ ':' :: two clock.minute
  let date := two clock.month ++ '/' :: two clock.day ++ '/' ::
    two (Int.fmod clock.year 100).toNat
  let half := if clock.hour < 12 then "AM" else "PM"
  match letter with
  | 'a' => some ((name weekdayNames clock.weekday).take 3)
  | 'A' => some (name weekdayNames clock.weekday)
  | 'b' | 'h' => some ((name monthNames (clock.month - 1)).take 3)
  | 'B' => some (name monthNames (clock.month - 1))
  | 'c' =>
      some ((name weekdayNames clock.weekday).take 3 ++ ' ' ::
        (name monthNames (clock.month - 1)).take 3 ++ ' ' :: padLeft 2 ' ' (ofNat clock.day) ++
        ' ' :: time ++ ':' :: two clock.second ++ ' ' :: ofInt clock.year)
  | 'C' => number 2 '0' (Int.fdiv clock.year 100)
  | 'd' => number 2 '0' clock.day
  | 'D' | 'x' => some date
  | 'e' => number 2 ' ' clock.day
  | 'F' =>
      some (padLeft 4 '0' (ofInt clock.year) ++ '-' :: two clock.month ++ '-' :: two clock.day)
  | 'g' => number 2 '0' (Int.fmod clock.week.1 100)
  | 'G' => number 4 '0' clock.week.1
  | 'H' => number 2 '0' clock.hour
  | 'I' => number 2 '0' hour12
  | 'j' => number 3 '0' (clock.yearDay + 1)
  | 'k' => number 2 ' ' clock.hour
  | 'l' => number 2 ' ' hour12
  | 'm' => number 2 '0' clock.month
  | 'M' => number 2 '0' clock.minute
  | 'n' => some ['\n']
  | 'N' =>
      let digits := padLeft 9 '0' (ofNat nanoseconds)
      some (match width with
        | some count => digits.take count ++ List.replicate (count - 9) '0'
        | none => digits)
  | 'p' => some (if flags.contains '#' then half.toLower else half).toList
  | 'P' => some half.toLower.toList
  | 'q' => some (ofNat ((clock.month + 2) / 3))
  | 'r' =>
      some (two hour12 ++ ':' :: two clock.minute ++ ':' :: two clock.second ++ ' ' :: half.toList)
  | 'R' => some time
  | 's' => number 1 '0' total
  | 'S' => number 2 '0' clock.second
  | 't' => some ['\t']
  | 'T' | 'X' => some (time ++ ':' :: two clock.second)
  | 'u' => number 1 '0' (if clock.weekday = 0 then 7 else clock.weekday : Nat)
  | 'U' => number 2 '0' ((clock.yearDay + 7 - clock.weekday) / 7 : Nat)
  | 'V' => number 2 '0' clock.week.2
  | 'w' => number 1 '0' clock.weekday
  | 'W' => number 2 '0' ((clock.yearDay + 7 - (clock.weekday + 6) % 7) / 7 : Nat)
  | 'y' => number 2 '0' (Int.fmod clock.year 100)
  | 'Y' => number 4 '0' clock.year
  | 'z' => some (offsetText colons zone)
  | 'Z' => some (if flags.contains '#' then zone.name.map Char.toLower else zone.name)
  | '%' => some ['%']
  | _ => none

/-- A format with what its letters stand for in place of them. -/
def formatFrom (zone : Zone) (total : Int) (nanoseconds : Nat) (clock : Clock) :
    Nat → List Char → List (List Char) → List Char
  | 0, _, found => found.reverse.flatten
  | fuel + 1, format, found =>
      match format with
      | [] => found.reverse.flatten
      | '%' :: rest =>
          let flags := rest.takeWhile fun octet => "_-0^#+".toList.contains octet
          let after := rest.drop flags.length
          let digits := after.takeWhile Char.isDigit
          let after := after.drop digits.length
          let colons := after.takeWhile (· = ':')
          let after := after.drop colons.length
          let after := match after with
            | 'E' :: letter :: more => if letter.isAlpha then letter :: more else after
            | 'O' :: letter :: more => if letter.isAlpha then letter :: more else after
            | _ => after
          match after with
          | letter :: more =>
              match field zone total nanoseconds clock flags (toNat? digits) colons.length
                  letter with
              | some text =>
                  let text := if flags.contains '^' then text.map Char.toUpper else text
                  let text := match toNat? digits with
                    | some width =>
                        if letter = 'N' then text
                        else padLeft width (if flags.contains '0' then '0' else ' ') text
                    | none => text
                  formatFrom zone total nanoseconds clock fuel more (text :: found)
              | none =>
                  let shown := '%' :: rest.take (rest.length - more.length)
                  formatFrom zone total nanoseconds clock fuel more (shown :: found)
          | [] => (('%' :: rest) :: found).reverse.flatten
      | octet :: rest => formatFrom zone total nanoseconds clock fuel rest ([octet] :: found)

/-- A moment in a format. -/
def format (zone : Zone) (seconds : Int) (nanoseconds : Nat) (format : List Char) : List Char :=
  formatFrom zone seconds nanoseconds (ofSeconds (seconds + zone.offset)) (format.length + 1)
    format []

end Clock

/-- The zone of universal time. -/
def Zone.universal : Zone := ⟨"UTC".toList, 0⟩

/-- The zone that a variable names: a name and the hours by which its clocks are behind. -/
def Zone.ofText (text : List Char) : Zone :=
  let name := text.takeWhile Char.isAlpha
  let rest := text.drop name.length
  let isBehind := rest.head? != some '-'
  let rest := if rest.head? = some '-' ∨ rest.head? = some '+' then rest.drop 1 else rest
  let hours := rest.takeWhile Char.isDigit
  let minutes := match rest.drop hours.length with
    | ':' :: more => more.takeWhile Char.isDigit
    | _ => []
  let size : Int := (((toNat? hours).getD 0) * 3600 + ((toNat? minutes).getD 0) * 60 : Nat)
  if name.length < 3 then universal else ⟨name, if isBehind then -size else size⟩

/-- The zone of a program. -/
def Invocation.zone (invocation : Invocation) : Zone :=
  match invocation.valueOf? "TZ" with
  | some text => Zone.ofText (if text.head? = some ':' then text.drop 1 else text)
  | none => .universal

namespace DateReading

/-- A word of a date: letters, digits, or a sign. -/
inductive Token where
  /-- A word of small letters. -/
  | word (text : String)
  /-- Digits. -/
  | number (digits : List Char)
  /-- Any other character. -/
  | sign (character : Char)
  deriving DecidableEq, Repr

/-- The words of a text. -/
def tokens : Nat → List Char → List Token
  | 0, _ => []
  | fuel + 1, text =>
      match text with
      | [] => []
      | first :: rest =>
          if first.isDigit then
            let digits := text.takeWhile Char.isDigit
            .number digits :: tokens fuel (text.drop digits.length)
          else if first.isAlpha then
            let word := text.takeWhile fun octet => octet.isAlpha || octet = '.'
            let kept := (word.filter Char.isAlpha).map Char.toLower
            .word (String.ofList kept) :: tokens fuel (text.drop word.length)
          else .sign first :: tokens fuel rest

/-- What has been read of a date. -/
structure Reading where
  /-- The date, if one is given. -/
  date : Option (Option Int × Nat × Nat)
  /-- The time of day with its nanoseconds, if one is given. -/
  time : Option (Nat × Nat × Nat × Nat)
  /-- The seconds by which the clocks are ahead, if they are given. -/
  offset : Option Int
  /-- The day of the week, and which of the next ones is meant. -/
  weekday : Option (Nat × Int)
  /-- The months, days and seconds to add. -/
  months : Int
  /-- The days to add. -/
  days : Int
  /-- The seconds to add. -/
  seconds : Int
  /-- The moment, if it is given as seconds. -/
  moment : Option (Int × Nat)

/-- What has been read before anything is. -/
def Reading.empty : Reading := ⟨none, none, none, none, 0, 0, 0, none⟩

/-- The index of the name that a word is, or the start of at least three letters. -/
def nameIndex? (names : List String) (word : String) : Option Nat :=
  names.findIdx? fun name =>
    let name := name.toLower
    word = name || (3 ≤ word.length && word.toList = name.toList.take word.length &&
      (word.length = 3 || (word = "sept" || word = "tues" || word = "wednes" || word = "thur" ||
        word = "thurs")))

/-- The number that a word stands for. -/
def ordinal? (word : String) : Option Int :=
  match word with
  | "last" => some (-1)
  | "this" => some 0
  | "next" | "first" => some 1
  | "third" => some 3
  | "fourth" => some 4
  | "fifth" => some 5
  | "sixth" => some 6
  | "seventh" => some 7
  | "eighth" => some 8
  | "ninth" => some 9
  | "tenth" => some 10
  | "eleventh" => some 11
  | "twelfth" => some 12
  | _ => none

/-- Adds a number of units. -/
def Reading.add? (count : Int) (unit : String) (reading : Reading) : Option Reading :=
  let unit := if unit.toList.getLast? = some 's' ∧ 3 < unit.length then
      String.ofList unit.toList.dropLast else unit
  match unit with
  | "year" => some { reading with months := reading.months + 12 * count }
  | "month" => some { reading with months := reading.months + count }
  | "fortnight" => some { reading with days := reading.days + 14 * count }
  | "week" => some { reading with days := reading.days + 7 * count }
  | "day" => some { reading with days := reading.days + count }
  | "hour" => some { reading with seconds := reading.seconds + 3600 * count }
  | "minute" | "min" => some { reading with seconds := reading.seconds + 60 * count }
  | "second" | "sec" => some { reading with seconds := reading.seconds + count }
  | _ => none

/-- The value of digits. -/
def value (digits : List Char) : Nat :=
  (toNat? digits).getD 0

/-- The year of two or more digits. -/
def yearOf (digits : List Char) : Int :=
  let number := value digits
  if digits.length ≤ 2 then (if number < 69 then 2000 + number else 1900 + number : Nat)
  else number

/-- The hour of a clock with two halves. -/
def hourOf? (hour : Nat) (half : String) : Option Nat :=
  if hour = 0 ∨ 12 < hour then none
  else if half = "am" then some (hour % 12)
  else some (hour % 12 + 12)

/-- Skips blanks. -/
def skip (tokens : List Token) : List Token :=
  tokens.dropWhile fun token => token = .sign ' ' || token = .sign '\t' || token = .sign ','

/-- The seconds of a distance from universal time, and what follows it. -/
def offset? (sign : Char) (tokens : List Token) : Option (Int × List Token) :=
  let signed := fun size : Nat => if sign = '-' then -(size : Int) else (size : Int)
  match tokens with
  | .number hours :: .sign ':' :: .number minutes :: rest =>
      some (signed (value hours * 3600 + value minutes * 60), rest)
  | .number digits :: rest =>
      let number := value digits
      if digits.length ≤ 2 then some (signed (number * 3600), rest)
      else some (signed (number / 100 * 3600 + number % 100 * 60), rest)
  | _ => none

/-- Reads what follows the seconds of a time: a fraction, a half of the day, or a distance. -/
def afterTime (hour minute second : Nat) (tokens : List Token) (reading : Reading) :
    Option (Reading × List Token) :=
  let (nanoseconds, tokens) := match tokens with
    | .sign '.' :: .number digits :: rest | .sign ',' :: .number digits :: rest =>
        (value ((digits ++ List.replicate 9 '0').take 9), rest)
    | rest => (0, rest)
  let (hour?, tokens) := match skip tokens with
    | .word half :: rest =>
        if half = "am" ∨ half = "pm" then (hourOf? hour half, rest) else (some hour, tokens)
    | _ => (some hour, tokens)
  match hour? with
  | none => none
  | some hour =>
      if 24 < hour ∨ 59 < minute ∨ 60 < second ∨ reading.time.isSome then none
      else
        let reading := { reading with time := some (hour, minute, second, nanoseconds) }
        match tokens with
        | .sign '+' :: rest =>
            match offset? '+' rest with
            | some (offset, rest) => some ({ reading with offset := some offset }, rest)
            | none => some (reading, tokens)
        | .sign '-' :: rest =>
            match offset? '-' rest with
            | some (offset, rest) => some ({ reading with offset := some offset }, rest)
            | none => some (reading, tokens)
        | tokens =>
            match skip tokens with
            | .sign '+' :: .number digits :: rest =>
                if digits.length = 4 then
                  (offset? '+' [.number digits]).map fun found =>
                    ({ reading with offset := some found.1 }, rest)
                else some (reading, tokens)
            | .sign '-' :: .number digits :: rest =>
                if digits.length = 4 then
                  (offset? '-' [.number digits]).map fun found =>
                    ({ reading with offset := some found.1 }, rest)
                else some (reading, tokens)
            | _ => some (reading, tokens)

/-- Sets the date. -/
def Reading.setDate? (year : Option Int) (month day : Nat) (reading : Reading) : Option Reading :=
  if reading.date.isSome ∨ month = 0 ∨ 12 < month ∨ day = 0 ∨ 31 < day then none
  else some { reading with date := some (year, month, day) }

/-- Reads one item of a date. -/
def item? (tokens : List Token) (reading : Reading) : Option (Reading × List Token) :=
  let ago := fun (rest : List Token) =>
    match skip rest with
    | .word "ago" :: rest => (true, rest)
    | _ => (false, rest)
  let add := fun (count : Int) (unit : String) (rest : List Token) =>
    let (isPast, rest) := ago rest
    (reading.add? (if isPast then -count else count) unit).map fun reading => (reading, rest)
  let withDate := fun (year : Option Int) (month day : Nat) (rest : List Token) =>
    (reading.setDate? year month day).map fun reading => (reading, rest)
  match tokens with
  | .sign '@' :: .sign '-' :: .number digits :: rest =>
      some ({ reading with moment := some (-(value digits : Int), 0) }, rest)
  | .sign '@' :: .number digits :: .sign '.' :: .number places :: rest =>
      some ({ reading with moment := some (value digits,
        value ((places ++ List.replicate 9 '0').take 9)) }, rest)
  | .sign '@' :: .number digits :: rest =>
      some ({ reading with moment := some (value digits, 0) }, rest)
  | .number year :: .sign '-' :: .number month :: .sign '-' :: .number day :: rest =>
      (withDate (some (yearOf year)) (value month) (value day) rest).map fun (reading, rest) =>
        match rest with
        | .word "t" :: rest => (reading, rest)
        | rest => (reading, rest)
  | .number first :: .sign '/' :: .number second :: .sign '/' :: .number third :: rest =>
      if 2 < first.length then
        withDate (some (yearOf first)) (value second) (value third) rest
      else withDate (some (yearOf third)) (value first) (value second) rest
  | .number hour :: .sign ':' :: .number minute :: .sign ':' :: .number second :: rest =>
      afterTime (value hour) (value minute) (value second) rest reading
  | .number hour :: .sign ':' :: .number minute :: rest =>
      afterTime (value hour) (value minute) 0 rest reading
  | .number month :: .sign '/' :: .number day :: rest =>
      withDate none (value month) (value day) rest
  | .sign sign :: rest =>
      if sign = '+' ∨ sign = '-' then
        match skip rest with
        | .number digits :: rest =>
            let count : Int := if sign = '-' then -(value digits : Int) else value digits
            match skip rest with
            | .word unit :: rest => add count unit rest
            | _ => none
        | .word unit :: rest => add (if sign = '-' then -1 else 1) unit rest
        | _ => none
      else none
  | .number digits :: rest =>
      match skip rest with
      | .word word :: more =>
          if word = "am" ∨ word = "pm" then afterTime (value digits) 0 0 rest reading
          else
            match nameIndex? Clock.monthNames word with
            | some month =>
                let more := skip (match more with
                  | .sign '-' :: rest => rest
                  | rest => rest)
                match more with
                | .number year :: .sign ':' :: _ =>
                    withDate none (month + 1) (value digits) more |>.map fun found =>
                      (found.1, .number year :: more.drop 1)
                | .number year :: more =>
                    withDate (some (yearOf year)) (month + 1) (value digits) more
                | more => withDate none (month + 1) (value digits) more
            | none =>
                match nameIndex? Clock.weekdayNames word with
                | some _ => none
                | none => add (value digits) word more
      | _ =>
          if digits.length = 8 ∧ reading.date.isNone then
            withDate (some (value (digits.take 4))) (value ((digits.drop 4).take 2))
              (value (digits.drop 6)) rest
          else if digits.length ≤ 2 ∧ reading.time.isNone then
            afterTime (value digits) 0 0 rest reading
          else if digits.length = 4 ∧ reading.time.isNone then
            afterTime (value digits / 100) (value digits % 100) 0 rest reading
          else if digits.length = 4 then
            match reading.date with
            | some (none, month, day) =>
                some ({ reading with date := some (some (value digits), month, day) }, rest)
            | _ => none
          else none
  | .word word :: rest =>
      match nameIndex? Clock.monthNames word with
      | some month =>
          match skip rest with
          | .number day :: more =>
              match skip more with
              | .number year :: .sign ':' :: _ => withDate none (month + 1) (value day) more |>.map
                  fun found => (found.1, if year.isEmpty then more else more)
              | .number year :: more =>
                  if year.length = 4 then
                    withDate (some (yearOf year)) (month + 1) (value day) more
                  else withDate none (month + 1) (value day) (.number year :: more)
              | _ => withDate none (month + 1) (value day) more
          | _ => none
      | none =>
          match nameIndex? Clock.weekdayNames word with
          | some day => some ({ reading with weekday := some (day, 0) }, rest)
          | none =>
              match word with
              | "now" | "today" => some (reading, rest)
              | "yesterday" => some ({ reading with days := reading.days - 1 }, rest)
              | "tomorrow" => some ({ reading with days := reading.days + 1 }, rest)
              | "utc" | "gmt" | "z" | "ut" =>
                  if reading.offset.isSome then none
                  else some ({ reading with offset := some 0 }, rest)
              | word =>
                  match ordinal? word with
                  | some count =>
                      match skip rest with
                      | .word unit :: more =>
                          match nameIndex? Clock.weekdayNames unit with
                          | some day => some ({ reading with weekday := some (day, count) }, more)
                          | none => add count unit more
                      | _ => none
                  | none => add 1 word rest
  | [] => none

/-- Reads the items of a date. -/
def items? : Nat → List Token → Reading → Option Reading
  | 0, _, _ => none
  | fuel + 1, tokens, reading =>
      match skip tokens with
      | [] => some reading
      | tokens => (item? tokens reading).bind fun (reading, rest) => items? fuel rest reading

/-- The seconds and the nanoseconds of the moment that a text names, seen from another one. -/
def moment? (zone : Zone) (seconds : Int) (nanoseconds : Nat) (text : List Char) :
    Option (Int × Nat) := do
  let reading ← items? (text.length + 2) (tokens (text.length + 1) text) .empty
  match reading.moment with
  | some (seconds, nanoseconds) =>
      return (seconds + reading.days * 86400 + reading.seconds, nanoseconds)
  | none =>
      let offset := reading.offset.getD zone.offset
      let now := Clock.ofSeconds (seconds + zone.offset)
      let (year, month, day) := match reading.date with
        | some (year, month, day) => (year.getD now.year, month, day)
        | none => (now.year, now.month, now.day)
      let isFree := reading.date.isNone && reading.time.isNone && reading.weekday.isNone &&
        !text.all fun octet => octet = ' '
      let (hour, minute, second, fraction) := match reading.time with
        | some time => time
        | none => if isFree then (now.hour, now.minute, now.second, nanoseconds) else (0, 0, 0, 0)
      if day > Calendar.daysInMonth year.toNat month then none
      else
        let months := (month : Int) - 1 + reading.months
        let year := year + Int.fdiv months 12
        let month := (Int.fmod months 12).toNat + 1
        let days := Clock.days year month day + reading.days
        let days := match reading.weekday with
          | none => days
          | some (weekday, count) =>
              let today := Int.fmod (days + 4) 7
              let ahead := Int.fmod ((weekday : Int) - today) 7
              days + ahead + 7 * (count - (if 0 < count ∧ ahead ≠ 0 then 1 else 0))
        let time : Int := ((hour * 60 + minute) * 60 + second : Nat)
        return (days * 86400 + time + reading.seconds - offset, fraction)

end DateReading

namespace Date

/-- The format that the options name, if they name one. -/
def format? (options : Options) : Except String (Option (List Char)) :=
  let level := fun (text : List Char) (between : String) =>
    match String.ofList text with
    | "" | "date" => some "%Y-%m-%d"
    | "hours" => some ("%Y-%m-%d" ++ between ++ "%H%:z")
    | "minutes" => some ("%Y-%m-%d" ++ between ++ "%H:%M%:z")
    | "seconds" => some ("%Y-%m-%d" ++ between ++ "%H:%M:%S%:z")
    | "ns" => some ("%Y-%m-%d" ++ between ++ "%H:%M:%S" ++
        (if between = "T" then "," else ".") ++ "%N%:z")
    | _ => none
  match options.last? "IRX", options.operands with
  | some 'R', _ => .ok (some "%a, %d %b %Y %H:%M:%S %z".toList)
  | some 'I', _ =>
      match level ((options.value? 'I').getD []) "T" with
      | some format => .ok (some format.toList)
      | none =>
          .error ("invalid argument " ++ curly ((options.value? 'I').getD []) ++
            " for ‘--iso-8601’")
  | some _, _ =>
      match level ((options.value? 'X').getD []) " " with
      | some format => .ok (some format.toList)
      | none =>
          .error ("invalid argument " ++ curly ((options.value? 'X').getD []) ++
            " for ‘--rfc-3339’")
  | none, ('+' :: format) :: _ => .ok (some format)
  | none, [] => .ok none
  | none, operand :: _ =>
      .error ("invalid date " ++ curly operand)

/-- The moment that a text names, in microseconds. -/
def moment? (invocation : Invocation) (text : List Char) : Option Int :=
  (DateReading.moment? invocation.zone (invocation.clock / 1000000 : Nat)
      (invocation.clock % 1000000 * 1000) text).map fun moment =>
    moment.1 * 1000000 + (moment.2 / 1000 : Nat)

/-- The moment that digits name, in microseconds: a year, which may be left out, and two digits
each for the month, the day, the hour, the minute and, after a dot, the second. -/
def stamp? (invocation : Invocation) (text : List Char) : Option Int :=
  let digits := text.takeWhile (· != '.')
  let after := text.drop (digits.length + 1)
  let isWhole := digits.length = text.length
  let pair := fun (place : Nat) (digits : List Char) => toNat? ((digits.drop place).take 2)
  let now := Clock.ofSeconds (((invocation.clock / 1000000 : Nat) : Int) + invocation.zone.offset)
  if !digits.all Char.isDigit ∨ (!isWhole ∧ (after.length ≠ 2 ∨ !after.all Char.isDigit)) ∨
      !([8, 10, 12].contains digits.length) then none
  else
    let count := digits.length - 8
    let written := (toNat? (digits.take count)).getD 0
    let year : Int := match count with
      | 0 => now.year
      | 2 => if written < 69 then 2000 + written else 1900 + written
      | _ => written
    match pair count digits, pair (count + 2) digits, pair (count + 4) digits,
        pair (count + 6) digits, if isWhole then some 0 else toNat? after with
    | some month, some day, some hour, some minute, some second =>
        if month = 0 ∨ 12 < month ∨ day = 0 ∨ Calendar.daysInMonth year.toNat month < day ∨
            23 < hour ∨ 59 < minute ∨ 60 < second then none
        else
          let time : Int := ((hour * 60 + minute) * 60 + second : Nat)
          some ((Clock.days year month day * 86400 + time - invocation.zone.offset) * 1000000)
    | _, _, _, _, _ => none

/-- Prints the date of a moment. -/
def date : Tool :=
  withOptions ["d=date", "f=file", "I?iso-8601", "R rfc-email", "X:rfc-3339", "r=reference",
    "s=set", "u utc", "u universal", "u-uct", "D-debug"] fun invocation options =>
      match format? options with
      | .error message => invocation.fail message 1
      | .ok format =>
          let format := format.getD "%a %b %e %H:%M:%S %Z %Y".toList
          let zone := if options.has 'u' then Zone.universal else invocation.zone
          let seconds : Int := (invocation.clock / 1000000 : Nat)
          let nanoseconds := invocation.clock % 1000000 * 1000
          let show_ := fun (moment : Int × Nat) =>
            Clock.format zone moment.1 moment.2 format ++ ['\n']
          let read := fun (outcome : Outcome) (text : List Char) =>
            match DateReading.moment? zone seconds nanoseconds text with
            | some moment => outcome.say (show_ moment)
            | none => outcome.complain
                (invocation.complaint (ofText ("invalid date " ++ curly text))) 1
          match options.value? 'd', options.value? 'r', options.value? 'f' with
          | some text, _, _ => read invocation.outcome text
          | none, some path, _ =>
              match invocation.find invocation.tree path true with
              | .ok (_, node) =>
                  let modified := node.traits.modified
                  invocation.print (show_ (Int.fdiv modified 1000000,
                    (Int.fmod modified 1000000).toNat * 1000))
              | .error failure =>
                  invocation.fail (titled path ++ ": " ++ lookupMessage failure) 1
          | none, none, some path =>
              match invocation.read path with
              | .ok text => (lines text).foldl read invocation.outcome
              | .error message => invocation.fail (titled path ++ ": " ++ message) 1
          | none, none, none => invocation.print (show_ (seconds, nanoseconds))

end Date
end Shell
end Snippets
