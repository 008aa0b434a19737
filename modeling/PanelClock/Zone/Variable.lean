import PanelClock.Number.Numeral
import PanelClock.Zone.Rule

/-!
# Clocks spelled out

The variable of the environment that sets the clocks may spell out their rule: a name
and how far the clocks are behind universal time, then perhaps the same for daylight
saving time and the two days on which clocks change, as in `CET-1CEST,M3.5.0,M10.5.0/3`.

A text that breaks off or goes wrong still sets the clocks, by what was read until then.
Without a name that can be read they are in universal time, without an offset too.  What
follows the offset stands for daylight saving time even where it makes no sense: that time
is universal time without a name then, and of a day that is wrong the numbers that could be
read are kept.  Changes before 1970 are put into that year.
-/

set_option autoImplicit false

namespace PanelClock.Variable

/-! ## Numbers and times of the day -/

/-- The ASCII blanks. -/
def isBlank (c : Char) : Bool := c = ' ' || ('\t' ≤ c && c ≤ '\r')

/-- Reads a number and returns what follows it: blanks, a sign and digits.  It has sixteen
bits; larger ones lose their upper bits, or set all if there are more than 64, and negative
ones are counted from the other end. -/
def readNumber? (text : Text) : Option (Nat × Text) :=
  let (negative, text) := match text.dropWhile isBlank with
    | '-' :: rest => (true, rest)
    | '+' :: rest => (false, rest)
    | rest => (false, rest)
  let digits := text.takeWhile Char.isDigit
  let size := numeralValue digits
  let modulus := Nat.pow 2 16
  let number :=
    if Nat.pow 2 64 ≤ size then modulus - 1
    else if negative then (modulus - size % modulus) % modulus
    else size % modulus
  if digits.isEmpty then none else some (number, text.dropWhile Char.isDigit)

/-- Reads a mark and a number behind it. -/
def readMarked? (mark : Char) : Text → Option (Nat × Text)
  | c :: rest => if c = mark then readNumber? rest else none
  | [] => none

/-- Reads hours, and minutes and seconds behind colons as far as they are there. -/
def readTime? (text : Text) : Option ((Nat × Nat × Nat) × Text) := do
  let (hours, rest) ← readNumber? text
  match readMarked? ':' rest with
  | none => return ((hours, 0, 0), rest)
  | some (minutes, rest) =>
      match readMarked? ':' rest with
      | none => return ((hours, minutes, 0), rest)
      | some (seconds, rest) => return ((hours, minutes, seconds), rest)

/-! ## Names and offsets -/

/-- Reads a name: at least three letters, or at least three letters, digits and signs in
angle brackets. -/
def readName? (text : Text) : Option (Text × Text) :=
  let letters := text.takeWhile Char.isAlpha
  if 3 ≤ letters.length then some (letters, text.dropWhile Char.isAlpha)
  else match text with
    | '<' :: inner =>
        let inside (c : Char) : Bool := c.isAlphanum || c = '+' || c = '-'
        let name := inner.takeWhile inside
        match inner.dropWhile inside with
        | '>' :: rest => if 3 ≤ name.length then some (name, rest) else none
        | _ => none
    | _ => none

/-- Reads the sign in front of an offset: ahead of universal time behind a minus, else
behind universal time. -/
def readSign : Text → Int × Text
  | '-' :: rest => (1, rest)
  | '+' :: rest => (-1, rest)
  | rest => (-1, rest)

/-- Reads the size of an offset, at most 24 hours, 59 minutes and 59 seconds. -/
def readSize? (text : Text) : Option (Nat × Text) :=
  (readTime? text).map fun ((hours, minutes, seconds), rest) =>
    ((min hours 24 * 60 + min minutes 59) * 60 + min seconds 59, rest)

/-- Reads an offset, which starts with a sign or a digit. -/
def readOffset? (text : Text) : Option (Int × Text) :=
  if (text.take 1).any fun c => c = '-' || c = '+' || c.isDigit then
    let (sign, rest) := readSign text
    (readSize? rest).map fun (size, rest) => (sign * size, rest)
  else none

/-! ## Daylight saving time -/

/-- Reads the observance of daylight saving time, an hour ahead of the standard offset
unless the offset is given. -/
def readDaylight? (standard : Int) (text : Text) : Option (Observance × Text) := do
  let (name, rest) ← readName? text
  let (sign, rest) := readSign rest
  match readSize? rest with
  | some (size, rest) => return (⟨sign * size, true, name⟩, rest)
  | none => return (⟨standard + 3600, true, name⟩, rest)

/-- Reads the day of a change, and what follows it if the day is in order.  A text that ends
here means the given day.  Of a weekday in a month that goes wrong, the numbers read until
then are kept and the others are 0; other days that go wrong are numbered 0. -/
def readDay (usual : YearlyDay) : Text → YearlyDay × Option Text
  | [] => (usual, some [])
  | 'M' :: rest =>
      match readNumber? rest with
      | none => (.weekday 0 0 0, none)
      | some (month, rest) =>
          match readMarked? '.' rest with
          | none => (.weekday month 0 0, none)
          | some (week, rest) =>
              match readMarked? '.' rest with
              | none => (.weekday month week 0, none)
              | some (weekday, rest) =>
                  let isInOrder :=
                    1 ≤ month ∧ month ≤ 12 ∧ 1 ≤ week ∧ week ≤ 5 ∧ weekday ≤ 6
                  (.weekday month week weekday, if isInOrder then some rest else none)
  | 'J' :: rest =>
      let place := numeralValue (rest.takeWhile Char.isDigit)
      if 1 ≤ place ∧ place ≤ 365 then
        (.ofCommonYear place, some (rest.dropWhile Char.isDigit))
      else (.ofCommonYear 0, none)
  | text =>
      let digits := text.takeWhile Char.isDigit
      if !digits.isEmpty ∧ numeralValue digits ≤ 365 then
        (.ofYear (numeralValue digits), some (text.dropWhile Char.isDigit))
      else (.ofYear 0, none)

/-- Reads the time of the day behind the day of a change: two in the morning unless one
is given behind a slash. -/
def readSecond? : Text → Option (Int × Text)
  | [] => some (7200, [])
  | ',' :: rest => some (7200, ',' :: rest)
  | ['/'] => none
  | '/' :: rest =>
      let (sign, rest) : Int × Text := match rest with
        | '-' :: rest => (-1, rest)
        | rest => (1, rest)
      let ((hours, minutes, seconds), rest) := (readTime? rest).getD ((2, 0, 0), rest)
      some (sign * ((hours * 60 + minutes) * 60 + seconds : Nat), rest)
  | _ => none

/-- Reads a change, in front of which a comma may stand: a day and a time of the day.
Nothing follows a change that goes wrong, which is at the start of its day. -/
def readChange (usual : YearlyDay) (text : Text) : YearlyChange × Option Text :=
  let (day, rest) := readDay usual (match text with
    | ',' :: rest => rest
    | rest => rest)
  match rest.bind readSecond? with
  | none => (⟨day, 0⟩, none)
  | some (second, rest) => (⟨day, second⟩, some rest)

/-- Reads the changes to and from daylight saving time. -/
def readChanges (text : Text) : YearlyChange × YearlyChange :=
  match readChange (.weekday 3 2 0) text with
  | (begins, none) => (begins, ⟨.ofYear 0, 0⟩)
  | (begins, some rest) => (begins, (readChange (.weekday 11 1 0) rest).1)

/-- The changes of clocks with the given standard and daylight offsets where no days are
given.  The moments are those of New York: the first is put off by as much as the standard
offset is ahead of the one there, the second by the daylight offset. -/
def usualChanges (standard daylight : Int) : YearlyChange × YearlyChange :=
  (⟨.weekday 3 2 0, 7200 + 2 * (standard + 18000)⟩, ⟨.weekday 11 1 0, 21600 + 2 * daylight⟩)

/-- The rule of the clocks that a text spells out. -/
def readRule (text : Text) : ZoneRule :=
  match readName? text with
  | none => { standard := ⟨0, false, []⟩ }
  | some (name, rest) =>
      match readOffset? rest with
      | none => { standard := ⟨0, false, name⟩ }
      | some (offset, []) => { standard := ⟨offset, false, name⟩ }
      | some (offset, rest) =>
          let (daylight, begins, ends) := match readDaylight? offset rest with
            | none => (⟨0, true, []⟩, readChanges rest)
            | some (daylight, rest) =>
                if rest = [] ∨ rest = [','] then (daylight, usualChanges offset daylight.offset)
                else (daylight, readChanges rest)
          { standard := ⟨offset, false, name⟩
            daylight := some ⟨daylight, begins, ends⟩
            firstYear := 1970 }

end PanelClock.Variable
