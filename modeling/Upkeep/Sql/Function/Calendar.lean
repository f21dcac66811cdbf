import Upkeep.Sql.Function.Format

/-!
# Dates and times

A time is counted in thousandths of a second from noon of the first day of the Julian period. Dates belong to the
calendar of Gregory, at all times. A date may be written with a day that its month does not have: it counts on
into the next month, but only when the time is counted.

* `Instant.ofText? now t`, `Instant.ofNumber x`: a time by its text or a number.
* `Instant.changed? i modifier`: a time with a change that a text asks for.
* `Calendar.functions`: the functions of times.
-/

namespace Upkeep.Sql
open Database (Value)

/-- A day of the calendar. -/
structure Day where
  year : Int
  month : Int
  day : Int
  deriving DecidableEq, Repr

/-- A time of the day. -/
structure Clock where
  hour : Int
  minute : Int
  second : Float

/-- A time, as far as it is known: by its count, by its day and its time of day, or by a number of which it is
not known yet what it counts. -/
structure Instant where
  count : Option Int
  day : Option Day
  clock : Option Clock
  /-- How many minutes the clock is ahead. -/
  zone : Int
  number : Option Float
  showsParts : Bool

namespace Instant

def unknown : Instant := ⟨none, none, none, 0, none, false⟩

def dayLength : Int := 86400000

def greatest : Int := 464269060799999

/-- The count of the start of the time that computers count from. -/
def epoch : Int := 210866760000000

def usualDay : Day := ⟨2000, 1, 1⟩

/-- The count of the start of a day, in the years for which there is one. -/
def countOfDay? (d : Day) : Option Int :=
  if d.year < -4713 ∨ 9999 < d.year then none
  else
    let (y, m) := if d.month ≤ 2 then (d.year - 1, d.month + 12) else (d.year, d.month)
    let a := Int.tdiv y 100
    let b := 2 - a + Int.tdiv a 4
    let x := Int.tdiv (36525 * (y + 4716)) 100 + Int.tdiv (306001 * (m + 1)) 10000
    some ((2 * (x + d.day + b) - 3049) * (dayLength / 2))

def thousandths (seconds : Float) : Int := Double.toInt (seconds * 1000 + 0.5)

/-- A time with its count. -/
def counted? (i : Instant) : Option Instant :=
  match i.count with
  | some _ => some i
  | none =>
    if i.number.isSome then none
    else do
      let start ← countOfDay? (i.day.getD usualDay)
      match i.clock with
      | none => some { i with count := some start }
      | some c =>
        let n := start + c.hour * 3600000 + c.minute * 60000 + thousandths c.second
        if i.zone = 0 then some { i with count := some n }
        else some { i with count := some (n - i.zone * 60000), day := none, clock := none, zone := 0 }

/-- The day that a count belongs to. -/
def dayOfCount (n : Int) : Day :=
  let z := (n + 43200000) / dayLength
  let a := Int.tdiv (100 * z - 186721625) 3652425
  let a := z + 1 + a - Int.tdiv a 4
  let b := a + 1524
  let c := Int.tdiv (20 * b - 2442) 7305
  let d := 36525 * (c % 32768) / 100
  let e := Int.tdiv (10000 * (b - d)) 306001
  let x := Int.tdiv (306001 * e) 10000
  let month := if e < 14 then e - 1 else e - 13
  ⟨if 2 < month then c - 4716 else c - 4715, month, b - d - x⟩

def withDay? (i : Instant) : Option Instant :=
  match i.day, i.count with
  | some _, _ => some i
  | none, none => some { i with day := some usualDay }
  | none, some n => if 0 ≤ n ∧ n ≤ greatest then some { i with day := some (dayOfCount n) } else none

/-- A time with its time of day. -/
def withClock? (i : Instant) : Option Instant :=
  match i.clock with
  | some _ => some i
  | none => do
    let i ← i.counted?
    let n := (i.count.getD 0 + 43200000) % dayLength
    some { i with
      clock := some ⟨n / 3600000, n / 60000 % 60, realOfInt (n % 60000) / 1000⟩, number := none }

/-- A time with its day and its time of day. -/
def complete? (i : Instant) : Option Instant := do (← i.withDay?).withClock?

def countOnly (i : Instant) (n : Int) : Instant :=
  { unknown with count := some n, number := i.number, showsParts := i.showsParts }

/-! ## Reading -/

/-- The number that some digits in front write, if it is in a range. -/
def digits? (count : Nat) (low high : Nat) (t : Text) : Option (Int × Text) :=
  let ds := t.take count
  let n := Numeral.value ds
  if ds.length = count ∧ ds.all Char.isDigit ∧ low ≤ n ∧ n ≤ high then some (n, t.drop count) else none

def behind? (c : Char) (t : Text) : Option Text := if t.head? = some c then some (t.drop 1) else none

/-- A text without blanks in front. -/
def unblanked (t : Text) : Text := t.dropWhile Numeral.isBlank

/-- How many minutes a clock is ahead, as the rest of a text says. -/
def zone? (t : Text) : Option Int :=
  match unblanked t with
  | [] => some 0
  | c :: rest =>
    if c = 'Z' ∨ c = 'z' then (if (unblanked rest).isEmpty then some 0 else none)
    else if c = '+' ∨ c = '-' then do
      let (h, rest) ← digits? 2 0 14 rest
      let (m, rest) ← digits? 2 0 59 (← behind? ':' rest)
      let n := m + 60 * h
      if (unblanked rest).isEmpty then some (if c = '-' then -n else n) else none
    else none

/-- The digits behind a point as a part of one. -/
def fraction (digits : Text) : Float :=
  let step := fun (x : Float × Float) (c : Char) => (x.1 * 10 + realOfInt (c.toNat - 48), x.2 * 10)
  let (n, scale) := digits.foldl step (0, 1)
  n / scale

/-- The time of day that a text is, with the minutes that the clock is ahead. -/
def clock? (t : Text) : Option (Clock × Int) := do
  let (h, rest) ← digits? 2 0 24 t
  let (m, rest) ← digits? 2 0 59 (← behind? ':' rest)
  match behind? ':' rest with
  | none => some (⟨h, m, 0⟩, ← zone? rest)
  | some rest =>
    let (s, rest) ← digits? 2 0 59 rest
    match rest with
    | '.' :: c :: more =>
      if c.isDigit then
        let ds := (c :: more).takeWhile Char.isDigit
        some (⟨h, m, realOfInt s + fraction ds⟩, ← zone? ((c :: more).dropWhile Char.isDigit))
      else some (⟨h, m, realOfInt s⟩, ← zone? rest)
    | rest => some (⟨h, m, realOfInt s⟩, ← zone? rest)

def ofClock (day : Option Day) (c : Clock) (zone : Int) : Instant :=
  { unknown with day, clock := some c, zone }

/-- A time that is written as a day, and maybe a time of day. -/
def dated? (t : Text) : Option Instant := do
  let (isNegative, t) := match t with
    | '-' :: t => (true, t)
    | t => (false, t)
  let (y, rest) ← digits? 4 0 14712 t
  let (m, rest) ← digits? 2 1 12 (← behind? '-' rest)
  let (d, rest) ← digits? 2 1 31 (← behind? '-' rest)
  let day : Day := ⟨if isNegative then -y else y, m, d⟩
  let rest := rest.dropWhile fun c => Numeral.isBlank c || c == 'T'
  match clock? rest with
  | some (c, zone) =>
    let i := ofClock (some day) c zone
    if zone = 0 then some i else i.counted?
  | none => if rest.isEmpty then some { unknown with day := some day } else none

/-- A time by a number: the days of its count, or something that is said later. -/
def ofNumber (x : Float) : Instant :=
  { unknown with
    number := some x
    count := if 0 ≤ x ∧ x < 5373484.5 then some (Double.toInt (x * 86400000 + 0.5)) else none }

/-- A time by its text. -/
def ofText? (now t : Text) : Option Instant :=
  match dated? t with
  | some i => some i
  | none =>
    match clock? t with
    | some (c, zone) => some (ofClock none c zone)
    | none =>
      if sameName t "now".toList then dated? now
      else match Numeral.whole? t with
        | some n => some (ofNumber n.real)
        | none =>
          if sameName t "subsec".toList ∨ sameName t "subsecond".toList then
            (dated? now).map fun i => { i with showsParts := true }
          else none

/-! ## Changes -/

/-- The units of time: their names, which numbers of them may be added, and their lengths in seconds. -/
def units : List (String × Float × Float) :=
  [("second", 4.6427e14, 1), ("minute", 7.7379e12, 60), ("hour", 1.2897e11, 3600), ("day", 5373485, 86400),
    ("month", 176546, 2592000), ("year", 14713, 31536000)]

/-- A day whose month is in its year. -/
def settled (d : Day) : Day :=
  let x := if 0 < d.month then Int.tdiv (d.month - 1) 12 else Int.tdiv (d.month - 12) 12
  { d with year := d.year + x, month := d.month - 12 * x }

/-- A time with another day at the same time of day. -/
def onDay? (i : Instant) (change : Day → Day) : Option Instant := do
  let i ← i.complete?
  some { i with day := i.day.map change, count := none, number := none }

/-- A time moved by a number of units. -/
def moved? (i : Instant) (x : Float) (unit : Text) : Option Instant := do
  if unit.length < 3 ∨ 10 < unit.length then none
  let unit := if unit.getLast?.any (fun c => c == 's' || c == 'S') then unit.dropLast else unit
  let (name, _, length) ← units.find? fun (n, limit, _) =>
    sameName n.toList unit && decide (-limit < x ∧ x < limit)
  let i ← i.counted?
  let half : Float := if x < 0 then -0.5 else 0.5
  let whole := Double.toInt x
  let (i, x) ←
    if name = "month" then do
      pure (← i.onDay? fun d => settled { d with month := d.month + whole }, x - realOfInt whole)
    else if name = "year" then do
      pure (← i.onDay? fun d => { d with year := d.year + whole }, x - realOfInt whole)
    else pure (i, x)
  let i ← i.counted?
  some (i.countOnly (i.count.getD 0 + Double.toInt (x * 1000 * length + half)))

/-- A time moved by a time of day, which may have a sign. -/
def movedByClock? (i : Instant) (isBack : Bool) (t : Text) : Option Instant := do
  let (c, zone) ← clock? t
  let x ← (ofClock none c zone).counted?
  let n := Int.tmod (x.count.getD 0 - 43200000) dayLength
  let i ← i.counted?
  some (i.countOnly (i.count.getD 0 + if isBack then -n else n))

/-- A time moved by years, months and days that are written as a date with a sign. -/
def movedByDate? (i : Instant) (isBack : Bool) (digits : Nat) (t : Text) : Option Instant := do
  let (y, rest) ← digits? digits 0 14712 t
  let (m, rest) ← digits? 2 0 11 (← behind? '-' rest)
  let (d, rest) ← digits? 2 0 30 (← behind? '-' rest)
  let sign : Int := if isBack then -1 else 1
  let i ← i.onDay? fun x => settled { x with year := x.year + sign * y, month := x.month + sign * m }
  let i ← i.counted?
  let i := i.countOnly (i.count.getD 0 + sign * d * dayLength)
  match rest with
  | [] => some i
  | c :: rest =>
    if Numeral.isBlank c then
      let _ ← digits? 2 0 59 (← behind? ':' (rest.drop 2))
      i.movedByClock? isBack rest
    else none

/-- The length of the number that a change starts with, behind its first character. -/
def numberLength : Nat → Text → Text → Nat
  | n, _, [] => n
  | n, all, c :: t =>
    if c = ':' ∨ Numeral.isBlank c then n
    else if c = '-' ∧ (n = 5 ∨ n = 6) ∧ (digits? (n - 1) 0 14712 (all.drop 1)).isSome then n
    else numberLength (n + 1) all t

/-- A time with a change that starts with a number. -/
def shifted? (i : Instant) (t : Text) : Option Instant := do
  let n := numberLength 1 t (t.drop 1)
  let x ← Numeral.whole? (t.take n)
  let rest := t.drop n
  let isSigned := t.head? = some '+' ∨ t.head? = some '-'
  let isBack := decide (t.head? = some '-')
  if rest.head? = some '-' then (if isSigned then i.movedByDate? isBack (n - 1) (t.drop 1) else none)
  else if rest.head? = some ':' then i.movedByClock? isBack (if isSigned then t.drop 1 else t)
  else i.moved? x.real (unblanked rest)

def started? (i : Instant) (change : Day → Day) : Option Instant := do
  if i.count.isNone ∧ i.day.isNone ∧ i.clock.isNone then none
  let i ← i.withDay?
  some { i with day := i.day.map change, clock := some ⟨0, 0, 0⟩, number := none, zone := 0, count := none }

def weekday (n : Int) : Int := (n + 129600000) / dayLength % 7

/-- A time on the next day of the week with a number, which may be its own day. -/
def onWeekday? (i : Instant) (t : Text) : Option Instant := do
  let x := (← Numeral.whole? t).real
  let n := Double.toInt x
  if x < 0 ∨ 7 ≤ x ∨ realOfInt n != x then none
  let i ← i.complete?
  let i ← { i with zone := 0, count := none, number := none }.counted?
  let c := i.count.getD 0
  let z := weekday c
  some (i.countOnly (c + (n - if n < z then z - 7 else z) * dayLength))

/-- A time by a number that counts the seconds of computers. -/
def ofSeconds? (i : Instant) (x : Float) : Option Instant :=
  let r := x * 1000 + 210866760000000
  if 0 ≤ r ∧ r < 464269060800000 then
    some { unknown with count := some (Double.toInt (r + 0.5)), showsParts := i.showsParts }
  else none

/-- A time with a change that a text asks for. The changes that say what a number counts have to come first. -/
def changed? (i : Instant) (isFirst : Bool) (t : Text) : Option Instant :=
  let is := fun (w : String) => sameName t w.toList
  let rest? := fun (w : String) =>
    if sameName (t.take w.length) w.toList then some (t.drop w.length) else none
  if is "auto" then
    if !isFirst then none
    else match i.number, i.count with
      | some x, none =>
        if -210866760000 ≤ x ∧ x ≤ 253402300799 then i.ofSeconds? x else some i
      | _, _ => some { i with number := none }
  else if is "julianday" then
    if isFirst && i.count.isSome && i.number.isSome then some { i with number := none } else none
  else if is "localtime" ∨ is "utc" then i.counted?
  else if is "unixepoch" then (if isFirst then i.number.bind i.ofSeconds? else none)
  else if is "subsec" ∨ is "subsecond" then some { i with showsParts := true }
  else match rest? "weekday ", rest? "start of " with
    | some r, _ => i.onWeekday? r
    | none, some r =>
      if sameName r "month".toList then i.started? fun d => { d with day := 1 }
      else if sameName r "year".toList then i.started? fun d => { d with month := 1, day := 1 }
      else if sameName r "day".toList then i.started? id
      else none
    | none, none =>
      if t.head?.any fun c => c == '+' || c == '-' || c.isDigit then i.shifted? t else none

def changes? (i : Instant) : Bool → List Value → Option Instant
  | _, [] => some i
  | isFirst, v :: vs => do
    if v.isNull then none
    let i ← i.changed? isFirst (v.chars.takeWhile (· ≠ '\x00'))
    i.changes? false vs

/-- The time that arguments of a function say. -/
def ofValues? (now : Text) (vs : List Value) : Option Instant := do
  let i ← match vs.head? with
    | none => dated? now
    | some .null => none
    | some v =>
      match v with
      | .integer n => some (ofNumber (realOfInt n))
      | .real bits => some (ofNumber (Value.realOf bits))
      | v => ofText? now (v.chars.takeWhile (· ≠ '\x00'))
  let i ← (← i.changes? true (vs.drop 1)).counted?
  let n := i.count.getD (-1)
  if n < 0 ∨ greatest < n then none
  else if vs.length = 1 ∧ i.day.any (fun d => decide (28 < d.day)) then some { i with day := none }
  else some i

end Instant

namespace Calendar

/-- A number with zeros in front. -/
def padded (width : Nat) (n : Int) : Text :=
  let digits := Text.ofNat n.natAbs
  (if n < 0 then ['-'] else []) ++ Double.zeros (width - (if n < 0 then 1 else 0) - digits.length) ++ digits

def blankPadded (width : Nat) (n : Int) : Text :=
  let t := intText n
  List.replicate (width - t.length) ' ' ++ t

def seconds (x : Float) : Text :=
  Format.real { Format.Place.plain with hasZeros := true, width := 6, precision := some 3 } .fixed false x

def dayText (d : Day) : Text :=
  (if d.year < 0 then ['-'] else []) ++ padded 4 d.year.natAbs ++ '-' :: padded 2 d.month ++ '-' :: padded 2 d.day

/-- A time of day. -/
def clockText (showsParts : Bool) (c : Clock) : Text :=
  padded 2 c.hour ++ ':' :: padded 2 c.minute ++ ':' ::
    if showsParts then
      let n := Double.toInt (1000 * c.second + 0.5)
      padded 2 (n / 1000) ++ '.' :: padded 3 (n % 1000)
    else padded 2 (Double.toInt c.second)

def epochSeconds (n : Int) : Int := Int.tdiv n 1000 - 210866760000

def yearDay (d : Day) (n : Int) : Int :=
  let start := (Instant.countOfDay? { d with month := 1, day := 1 }).getD n
  (n - start) / Instant.dayLength

/-- What a letter of a format stands for. -/
def letter? (i : Instant) (d : Day) (c : Clock) (n : Int) : Char → Option Text
  | 'd' => some (padded 2 d.day)
  | 'e' => some (blankPadded 2 d.day)
  | 'f' => some (seconds (if 59.999 < c.second then 59.999 else c.second))
  | 'F' => some (padded 4 d.year ++ '-' :: padded 2 d.month ++ '-' :: padded 2 d.day)
  | 'H' => some (padded 2 c.hour)
  | 'k' => some (blankPadded 2 c.hour)
  | 'I' => some (padded 2 (half c.hour))
  | 'l' => some (blankPadded 2 (half c.hour))
  | 'j' => some (padded 3 (yearDay d n + 1))
  | 'J' =>
    some (Format.real { Format.Place.plain with precision := some 16 } .shorter false (realOfInt n / 86400000))
  | 'm' => some (padded 2 d.month)
  | 'M' => some (padded 2 c.minute)
  | 'p' => some (if 12 ≤ c.hour then "PM" else "AM").toList
  | 'P' => some (if 12 ≤ c.hour then "pm" else "am").toList
  | 'R' => some (padded 2 c.hour ++ ':' :: padded 2 c.minute)
  | 's' =>
    if i.showsParts then
      some (Format.real { Format.Place.plain with precision := some 3 } .fixed false
        (realOfInt (n - Instant.epoch) / 1000))
    else some (intText (epochSeconds n))
  | 'S' => some (padded 2 (Double.toInt c.second))
  | 'T' => some (clockText false c)
  | 'u' => some (intText (if Instant.weekday n = 0 then 7 else Instant.weekday n))
  | 'w' => some (intText (Instant.weekday n))
  | 'W' => some (padded 2 ((yearDay d n + 7 - (n + 43200000) / Instant.dayLength % 7) / 7))
  | 'Y' => some (padded 4 d.year)
  | '%' => some ['%']
  | _ => none
where
  half (h : Int) : Int :=
    let h := if 12 < h then h - 12 else h
    if h = 0 then 12 else h

/-- A format with the parts of a time in their places, if all its letters stand for something. -/
def filled? (letter : Char → Option Text) : Text → Option Text
  | [] => some []
  | '%' :: c :: t => do return (← letter c) ++ (← filled? letter t)
  | '%' :: [] => none
  | c :: t => (c :: ·) <$> filled? letter t

def ofTime (show_ : Instant → Day → Clock → Int → Option Value) : Function :=
  Function.ofValues Function.any fun s vs => .ok ((do
    let i ← (← Instant.ofValues? s.now vs).complete?
    show_ i (← i.day) (← i.clock) (← i.count)).getD .null)

/-- A time with its count again after its day has changed. -/
def recounted (i : Instant) (change : Day → Day) : Instant :=
  let i := { i with day := i.day.map change, count := none }
  (i.counted?).getD i

/-- Goes months back or on with the second of two times until it is no longer beyond the first. -/
def nearer (isBeyond : Int → Bool) (step : Int) : Nat → Instant × Int × Int → Instant × Int × Int
  | 0, x => x
  | n + 1, (i, years, months) =>
    if isBeyond (i.count.getD 0) then
      let (years, months) := if months ≤ 0 then (years - 1, 11) else (years, months - 1)
      nearer isBeyond step n (recounted i fun d => Instant.settled { d with month := d.month + step }, years, months)
    else (i, years, months)

/-- The time between two times: a sign, years, months and days, and a time of day. -/
def difference? (a b : Instant) : Option Text := do
  let a ← a.complete?
  let b ← b.complete?
  let n ← a.count
  let m ← b.count
  let d ← a.day
  let e ← b.day
  let isOn := decide (m ≤ n)
  let years := if isOn then d.year - e.year else e.year - d.year
  let months := if isOn then d.month - e.month else e.month - d.month
  let b := if years ≠ 0 then recounted b fun x => { x with year := d.year } else b
  let (years, months) := if months < 0 then (years - 1, months + 12) else (years, months)
  let b := if months ≠ 0 then recounted b fun x => { x with month := d.month } else b
  let (b, years, months) :=
    nearer (fun k => if isOn then decide (n < k) else decide (k < n)) (if isOn then -1 else 1) 10 (b, years, months)
  let k := b.count.getD 0
  let rest ← ({ Instant.unknown with
    count := some ((if isOn then n - k else k - n) + 148699540800000) } : Instant).complete?
  let day ← rest.day
  let clock ← rest.clock
  some ((if isOn then '+' else '-') :: padded 4 years ++ '-' :: padded 2 months ++ '-' :: padded 2 (day.day - 1) ++
    ' ' :: padded 2 clock.hour ++ ':' :: padded 2 clock.minute ++ ':' :: seconds clock.second)

/-- The functions of times. -/
def functions : List (String × Function) :=
  let text := fun (t : Text) => some (Value.ofText t)
  [("date", ofTime fun _ d _ _ => text (dayText d)),
    ("time", ofTime fun i _ c _ => text (clockText i.showsParts c)),
    ("datetime", ofTime fun i d c _ => text (dayText d ++ ' ' :: clockText i.showsParts c)),
    ("julianday", ofTime fun _ _ _ n => some (.ofReal (realOfInt n / 86400000))),
    ("unixepoch", ofTime fun i _ _ n =>
      some (if i.showsParts then .ofReal (realOfInt (n - Instant.epoch) / 1000) else .integer (epochSeconds n))),
    ("strftime", Function.ofValues (1 ≤ ·) fun s vs => .ok ((do
      let format ← vs.head?
      if format.isNull then none
      let i ← (← Instant.ofValues? s.now (vs.drop 1)).complete?
      let d ← i.day
      let c ← i.clock
      let n ← i.count
      let t ← filled? (letter? i d c n) (format.chars.takeWhile (· ≠ '\x00'))
      text t).getD .null)),
    ("timediff", Function.ofValues (· = 2) fun s vs => .ok ((do
      let a ← Instant.ofValues? s.now (vs.take 1)
      let b ← Instant.ofValues? s.now (vs.drop 1)
      let t ← difference? a b
      text t).getD .null))]

end Calendar
end Upkeep.Sql
