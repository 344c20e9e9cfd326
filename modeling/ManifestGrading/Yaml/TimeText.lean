import ManifestGrading.Yaml.Cursor
import ManifestGrading.Yaml.Fault

/-! Days and instants as YAML writes them: `2001-12-14`, or a day, a `T` or blanks, a time of day with an
optional fraction, and an optional distance from universal time. A line end behind the text does not count. -/

namespace ManifestGrading.Yaml

/-- A text without one line feed at its end. -/
def withoutFinalBreak (cs : List Char) : List Char :=
  if cs.getLast? = some '\n' then cs.dropLast else cs

/-- At least `least` and at most `most` digits, and what follows. -/
def digitsBetween? (least most : Nat) (cs : List Char) : Option (List Char × List Char) :=
  let ds := (cs.take most).takeWhile Text.isAsciiDigit
  if ds.length < least then none else some (ds, cs.drop ds.length)

/-- What follows a character. -/
def behind? (c : Char) : List Char → Option (List Char)
  | d :: rest => if c = d then some rest else none
  | [] => none

/-- The digits of a distance from universal time; `negative` is its sign. -/
structure ZoneText where
  negative : Bool
  hour : List Char
  minute : List Char

structure ClockText where
  hour : List Char
  minute : List Char
  second : List Char
  fraction : List Char
  zone : Option ZoneText

structure TimeText where
  year : List Char
  month : List Char
  day : List Char
  clock : Option ClockText

/-- The distance from universal time at the end of a text. -/
def zoneText? (cs : List Char) : Option (Option ZoneText) :=
  if cs.isEmpty then some none
  else match cs.dropWhile fun c => c = ' ' || c = '\t' with
    | ['Z'] => some (some ⟨false, ['0'], ['0']⟩)
    | sign :: rest =>
      if sign = '-' || sign = '+' then do
        let (hour, rest) ← digitsBetween? 1 2 rest
        if rest.isEmpty then return some ⟨sign = '-', hour, ['0']⟩
        let (minute, rest) ← digitsBetween? 2 2 (← behind? ':' rest)
        if rest.isEmpty then return some ⟨sign = '-', hour, minute⟩ else none
      else none
    | [] => none

/-- The time of day behind a day. -/
def clockText? (cs : List Char) : Option ClockText := do
  let start ← match cs with
    | c :: rest =>
      if c = 'T' || c = 't' then some rest
      else if c = ' ' || c = '\t' then some (rest.dropWhile fun c => c = ' ' || c = '\t')
      else none
    | [] => none
  let (hour, rest) ← digitsBetween? 1 2 start
  let (minute, rest) ← digitsBetween? 2 2 (← behind? ':' rest)
  let (second, rest) ← digitsBetween? 2 2 (← behind? ':' rest)
  let (fraction, rest) := match rest with
    | '.' :: rest => (rest.takeWhile Text.isAsciiDigit, rest.dropWhile Text.isAsciiDigit)
    | rest => ([], rest)
  return ⟨hour, minute, second, fraction, ← zoneText? rest⟩

/-- The parts of a text that is a day or an instant. -/
def timeText? (cs : List Char) : Option TimeText := do
  let cs := withoutFinalBreak cs
  let (year, rest) ← digitsBetween? 4 4 cs
  let (month, rest) ← digitsBetween? 1 2 (← behind? '-' rest)
  let (day, rest) ← digitsBetween? 1 2 (← behind? '-' rest)
  if rest.isEmpty then return ⟨year, month, day, none⟩
  else return ⟨year, month, day, some (← clockText? rest)⟩

/-- Whether a plain scalar is a time by its look. A day alone has all its digits. -/
def isTimeText (cs : List Char) : Bool :=
  match timeText? cs with
  | none => false
  | some t => t.clock.isSome || (t.month.length = 2 && t.day.length = 2)

/-- A fraction of a second in microseconds; further digits are dropped. -/
def microsecondsOf (fraction : List Char) : Nat :=
  let ds := fraction.take 6
  Number.digitsValue (ds ++ List.replicate (6 - ds.length) '0')

/-- The distance from universal time in minutes. -/
def ZoneText.minutes (z : ZoneText) : Int :=
  let n : Int := Number.digitsValue z.hour * 60 + Number.digitsValue z.minute
  if z.negative then -n else n

/-- The day or the instant that a text is. -/
def readTime (text : String) : Except Fault (Date ⊕ Instant) :=
  match timeText? text.toList with
  | none => .error .noInstant
  | some t =>
    let year := Number.digitsValue t.year
    let month := Number.digitsValue t.month
    let day := Number.digitsValue t.day
    match t.clock with
    | none => ((Date.ofFields year month day).mapError .calendar).map .inl
    | some c =>
      ((Instant.ofFields year month day (Number.digitsValue c.hour) (Number.digitsValue c.minute)
        (Number.digitsValue c.second) (microsecondsOf c.fraction) (c.zone.map ZoneText.minutes)).mapError
          .calendar).map .inr

end ManifestGrading.Yaml
