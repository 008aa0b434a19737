import Mathlib.Tactic.SplitIfs
import PanelClock.Pattern.Offset

/-!
# Offsets read back

An offset that has no letter of its own is a sign and the parts of a clock reading: hours,
minutes unless they are left out, and seconds where they are asked for (`OffsetStyle.Spells`).
Colons and letters in front of the sign say nothing about the number, and hours are what comes
before the last pairs of digits, so the text alone gives the offset back (`offsetOfText`), up
to the seconds that the style does not write.  Hence a style that writes seconds never writes
two offsets alike (`OffsetStyle.offsetOfText_write`).
-/

set_option autoImplicit false

namespace PanelClock

/-! ## Numerals of two digits -/

/-- A number below a hundred in two digits. -/
def twoDigits (n : Nat) : Text := [Nat.digitChar (n / 10), Nat.digitChar (n % 10)]

@[simp] theorem length_twoDigits {n : Nat} : (twoDigits n).length = 2 := rfl

theorem numeral_of_lt_ten {n : Nat} (small : n < 10) : numeral n = [Nat.digitChar n] :=
  Nat.toDigits_of_lt_base small

theorem numeral_eq_twoDigits {n : Nat} (large : 10 ≤ n) (small : n < 100) :
    numeral n = twoDigits n := by
  rw [numeral, Nat.toDigits_eq_if (by decide), if_neg (by omega),
    Nat.toDigits_of_lt_base (by omega)]
  rfl

theorem paddedNumeral_two {n : Nat} (small : n < 100) : paddedNumeral 2 n = twoDigits n := by
  unfold paddedNumeral Text.fillLeft List.leftpad
  rcases Nat.lt_or_ge n 10 with short | long
  · rw [numeral_of_lt_ten short, twoDigits, Nat.div_eq_of_lt short, Nat.mod_eq_of_lt short]
    rfl
  · rw [numeral_eq_twoDigits long small]
    rfl

theorem numeralValue_twoDigits {n : Nat} (small : n < 100) :
    numeralValue (twoDigits n) = n := by
  rw [numeralValue, twoDigits, Nat.ofDigitChars_cons_digitChar_of_lt_ten (by omega),
    Nat.ofDigitChars_cons_digitChar_of_lt_ten (by omega), Nat.ofDigitChars_nil]
  omega

theorem isDigit_of_mem_twoDigits {n : Nat} {c : Char} (small : n < 100)
    (member : c ∈ twoDigits n) : c.isDigit = true := by
  simp only [twoDigits, List.mem_cons, List.not_mem_nil, or_false] at member
  rcases member with rfl | rfl
  · rw [Nat.isDigit_digitChar]
    exact decide_eq_true (by omega)
  · rw [Nat.isDigit_digitChar]
    exact decide_eq_true (by omega)

/-! ## How an offset is spelled -/

namespace OffsetStyle

/-- What stands in front of the sign. -/
def lead (style : OffsetStyle) : Text := if style.gmt then "GMT" else []

/-- What stands between two parts. -/
def colon (style : OffsetStyle) : Text := if style.separator then [':'] else []

/-- Hours in two digits or in as many as they have. -/
def hourPart (style : OffsetStyle) (hours : Nat) : Text :=
  if style.twoDigitHours then twoDigits hours else numeral hours

/-- The parts after the hours: minutes, left out in a style that does so for whole hours, and
seconds in a style that asks for them, unless the minutes are whole. -/
def laterParts (style : OffsetStyle) (offset : Int) (minutes seconds : Nat) : List Text :=
  if style.omitZeroMinutes ∧ (3600 : Int) ∣ offset then []
  else twoDigits minutes ::
    if style.seconds ∧ ¬ (60 : Int) ∣ offset then [twoDigits seconds] else []

/-- A text spells an offset in a style. -/
inductive Spells (style : OffsetStyle) (offset : Int) : Text → Prop where
  | intro {hours minutes seconds : Nat} (hour : hours < 24) (minute : minutes < 60)
      (second : seconds < 60)
      (size : offset.natAbs = 3600 * hours + 60 * minutes + seconds) :
      Spells style offset (style.lead ++ (if offset < 0 then '-' else '+') ::
        Text.joinWith style.colon
          (style.hourPart hours :: style.laterParts offset minutes seconds))

variable {style : OffsetStyle} {offset : Int}

/-- The parts as they are written, with the colons between them. -/
theorem parts_spells (day : offset.natAbs < 86400) :
    style.parts offset = (if offset < 0 then '-' else '+') ::
      Text.joinWith style.colon (style.hourPart (offset.natAbs / 3600) ::
        style.laterParts offset (offset.natAbs / 60 % 60) (offset.natAbs % 60)) := by
  have hour : paddedNumeral 2 (offset.natAbs / 3600) = twoDigits (offset.natAbs / 3600) :=
    paddedNumeral_two (by omega)
  have minute : paddedNumeral 2 (offset.natAbs / 60 % 60) = twoDigits (offset.natAbs / 60 % 60) :=
    paddedNumeral_two (by omega)
  have second : paddedNumeral 2 (offset.natAbs % 60) = twoDigits (offset.natAbs % 60) :=
    paddedNumeral_two (by omega)
  have leaves : (style.omitZeroMinutes && decide (offset.natAbs / 60 % 60 = 0) &&
      decide (offset.natAbs % 60 = 0)) = true ↔ style.omitZeroMinutes ∧ (3600 : Int) ∣ offset := by
    rw [Bool.and_eq_true, Bool.and_eq_true, decide_eq_true_eq, decide_eq_true_eq, and_assoc]
    exact and_congr_right fun _ => by omega
  have shows : (style.seconds && decide (offset.natAbs % 60 ≠ 0)) = true ↔
      style.seconds ∧ ¬ (60 : Int) ∣ offset := by
    rw [Bool.and_eq_true, decide_eq_true_eq]
    exact and_congr_right fun _ => by omega
  simp only [parts, hour, minute, second, leaves, shows, hourPart, laterParts, colon,
    Text.joinWith]
  split_ifs <;> simp [List.intercalate_cons_cons]

/-- **A zero offset may be letters, every other one is spelled.** -/
theorem write_cases (style : OffsetStyle) (day : offset.natAbs < 86400) :
    (style.zeroAsZ ∧ offset = 0 ∧ style.write offset = "Z") ∨
      (¬ style.zeroAsZ ∧ style.gmt ∧ offset = 0 ∧ style.write offset = "GMT") ∨
      (¬ (style.zeroAsZ ∧ offset = 0) ∧ ¬ (style.gmt ∧ offset = 0) ∧
        style.Spells offset (style.write offset)) := by
  unfold write
  by_cases letter : style.zeroAsZ ∧ offset = 0
  · exact .inl ⟨letter.1, letter.2, by simp [letter]⟩
  · by_cases alone : style.gmt ∧ offset = 0
    · have other : ¬ style.zeroAsZ := fun asked => letter ⟨asked, alone.2⟩
      exact .inr (.inl ⟨other, alone.1, alone.2, by simp [other, alone]⟩)
    · have spelled : (if style.gmt then if offset = 0 then ("GMT" : Text)
          else "GMT" ++ style.parts offset else style.parts offset) =
          style.lead ++ style.parts offset := by
        unfold lead
        split_ifs with gmt zero
        · exact absurd ⟨gmt, zero⟩ alone
        · rfl
        · rfl
      have other : ¬ (style.zeroAsZ && decide (offset = 0)) = true := by simpa using letter
      rw [if_neg other, spelled, parts_spells day]
      exact .inr (.inr ⟨letter, alone, .intro (by omega) (by omega) (by omega) (by omega)⟩)

/-- A spelled offset has a sign. -/
theorem Spells.mem_sign {text : Text} (spells : style.Spells offset text) :
    '-' ∈ text ∨ '+' ∈ text := by
  obtain ⟨-, -, -, -⟩ := spells
  split_ifs
  · exact .inl (List.mem_append_right _ List.mem_cons_self)
  · exact .inr (List.mem_append_right _ List.mem_cons_self)

end OffsetStyle

/-! ## Reading -/

/-- The seconds that a row of digits stands for: hours in one or two digits, and after them
pairs of digits for minutes and for seconds as far as there are any. -/
def clockSeconds (digits : Text) : Nat :=
  let hours := 2 - digits.length % 2
  3600 * numeralValue (digits.take hours) + 60 * numeralValue ((digits.drop hours).take 2) +
    numeralValue (digits.drop (hours + 2))

/-- The offset in seconds that a text stands for, which is zero without a sign. -/
def offsetOfText (text : Text) : Int :=
  match text.dropWhile fun c => c ≠ '+' && c ≠ '-' with
  | [] => 0
  | sign :: clock =>
      let seconds : Nat := clockSeconds (clock.filter (· ≠ ':'))
      if sign = '-' then -seconds else seconds

theorem Text.filter_joinWith {p : Char → Bool} {separator : Text} {parts : List Text}
    (dropped : ∀ c ∈ separator, ¬ p c) (kept : ∀ part ∈ parts, ∀ c ∈ part, p c) :
    (joinWith separator parts).filter p = parts.flatten := by
  induction parts with
  | nil => simp [joinWith]
  | cons part rest ih =>
      have first : part.filter p = part := List.filter_eq_self.mpr (kept part List.mem_cons_self)
      have later := ih fun other member => kept other (List.mem_cons_of_mem _ member)
      cases rest with
      | nil => simp [joinWith, first]
      | cons next others =>
          have between : separator.filter p = [] := List.filter_eq_nil_iff.mpr dropped
          rw [joinWith] at later ⊢
          rw [List.intercalate_cons_cons, List.filter_append, List.filter_append, first, between,
            later, List.append_nil]
          rfl

theorem clockSeconds_append {hours later : Text} (width : hours.length = 1 ∨ hours.length = 2)
    (pairs : later.length % 2 = 0) :
    clockSeconds (hours ++ later) = 3600 * numeralValue hours + 60 * numeralValue (later.take 2) +
      numeralValue (later.drop 2) := by
  have ends : 2 - (hours ++ later).length % 2 = hours.length := by
    rw [List.length_append]
    omega
  have seconds : (hours ++ later).drop (hours.length + 2) = later.drop 2 := by
    rw [← List.drop_drop, List.drop_left]
  rw [clockSeconds, ends, List.take_left, List.drop_left, seconds]

namespace OffsetStyle

variable {style : OffsetStyle} {offset : Int}

theorem hourPart_spec (style : OffsetStyle) {hours : Nat} (hour : hours < 24) :
    ((style.hourPart hours).length = 1 ∨ (style.hourPart hours).length = 2) ∧
      (∀ c ∈ style.hourPart hours, c.isDigit) ∧ numeralValue (style.hourPart hours) = hours := by
  have padded : (twoDigits hours).length = 1 ∨ (twoDigits hours).length = 2 := .inr rfl
  unfold hourPart
  split
  · exact ⟨padded, fun c => isDigit_of_mem_twoDigits (by omega),
      numeralValue_twoDigits (by omega)⟩
  · refine ⟨?_, fun c => isDigit_of_mem_numeral, numeralValue_numeral hours⟩
    rcases Nat.lt_or_ge hours 10 with short | long
    · rw [numeral_of_lt_ten short]
      exact .inl rfl
    · rw [numeral_eq_twoDigits long (by omega)]
      exact padded

theorem laterParts_spec (style : OffsetStyle) {hours minutes seconds : Nat}
    (minute : minutes < 60) (second : seconds < 60)
    (size : offset.natAbs = 3600 * hours + 60 * minutes + seconds) :
    let later := (style.laterParts offset minutes seconds).flatten
    later.length % 2 = 0 ∧ (∀ c ∈ later, c.isDigit) ∧
      60 * numeralValue (later.take 2) + numeralValue (later.drop 2) =
        60 * minutes + if style.seconds then seconds else 0 := by
  have minuteDigits : ∀ c ∈ twoDigits minutes, c.isDigit := fun c =>
    isDigit_of_mem_twoDigits (by omega)
  have secondDigits : ∀ c ∈ twoDigits seconds, c.isDigit := fun c =>
    isDigit_of_mem_twoDigits (by omega)
  have minuteValue : numeralValue (twoDigits minutes) = minutes :=
    numeralValue_twoDigits (by omega)
  have secondValue : numeralValue (twoDigits seconds) = seconds :=
    numeralValue_twoDigits (by omega)
  have empty : numeralValue [] = 0 := rfl
  intro later
  by_cases left : style.omitZeroMinutes ∧ (3600 : Int) ∣ offset
  · have none : later = [] := by simp only [later, laterParts, if_pos left, List.flatten_nil]
    have whole : minutes = 0 ∧ seconds = 0 := by omega
    rw [none, whole.1, whole.2]
    simp [empty]
  · by_cases shown : style.seconds ∧ ¬ (60 : Int) ∣ offset
    · have both : later = twoDigits minutes ++ twoDigits seconds := by
        simp [later, laterParts, left, shown]
      rw [both]
      refine ⟨by simp, List.forall_mem_append.mpr ⟨minuteDigits, secondDigits⟩, ?_⟩
      rw [if_pos shown.1, List.take_left' length_twoDigits, List.drop_left' length_twoDigits,
        minuteValue, secondValue]
    · have one : later = twoDigits minutes := by
        simp [later, laterParts, left, shown]
      have unwritten : (if style.seconds then seconds else 0) = 0 := by
        split
        · rename_i asked
          have whole : (60 : Int) ∣ offset :=
            Decidable.byContradiction fun part => shown ⟨asked, part⟩
          omega
        · rfl
      rw [one, unwritten]
      refine ⟨by simp, minuteDigits, ?_⟩
      rw [List.take_of_length_le (Nat.le_of_eq length_twoDigits),
        List.drop_of_length_le (Nat.le_of_eq length_twoDigits), minuteValue, empty]

/-- The sign decides, whatever stands in front of it. -/
theorem offsetOfText_lead (style : OffsetStyle) (offset : Int) (clock : Text) :
    offsetOfText (style.lead ++ (if offset < 0 then '-' else '+') :: clock) =
      (if offset < 0 then -1 else 1) * clockSeconds (clock.filter (· ≠ ':')) := by
  have dropped : ∀ sign : Char, (sign = '+' ∨ sign = '-') →
      (style.lead ++ sign :: clock).dropWhile (fun c => c ≠ '+' && c ≠ '-') = sign :: clock := by
    intro sign marks
    unfold lead
    rcases marks with rfl | rfl <;> cases style.gmt <;> rfl
  unfold offsetOfText
  split_ifs with negative
  · rw [dropped '-' (.inr rfl)]
    simp
  · rw [dropped '+' (.inl rfl)]
    simp

/-- **A spelled offset is read back**, without the seconds where the style does not write
them. -/
theorem Spells.offsetOfText_eq {text : Text} (spells : style.Spells offset text) :
    offsetOfText text = if style.seconds then offset else 60 * offset.tdiv 60 := by
  obtain @⟨hours, minutes, seconds, hour, minute, second, size⟩ := spells
  obtain ⟨width, hourDigits, hourValue⟩ := style.hourPart_spec hour
  obtain ⟨pairs, laterDigits, laterValue⟩ := style.laterParts_spec minute second size
  have colons : ∀ c ∈ style.colon, ¬ (c ≠ ':') := by
    unfold colon
    split <;> simp
  have digits : (Text.joinWith style.colon
      (style.hourPart hours :: style.laterParts offset minutes seconds)).filter (· ≠ ':') =
      style.hourPart hours ++ (style.laterParts offset minutes seconds).flatten := by
    refine Text.filter_joinWith (by simpa using colons) ?_
    intro part member c inside
    have digit : c.isDigit := by
      rcases List.mem_cons.mp member with rfl | later
      · exact hourDigits c inside
      · exact laterDigits c (List.mem_flatten_of_mem later inside)
    have other : c ≠ ':' := by
      rintro rfl
      exact absurd digit (by decide)
    exact decide_eq_true other
  have cut : offset.tdiv 60 = if offset < 0 then -(-offset / 60) else offset / 60 := by
    split_ifs with negative
    · rw [← Int.tdiv_eq_ediv_of_nonneg (by omega), Int.neg_tdiv, Int.neg_neg]
    · exact Int.tdiv_eq_ediv_of_nonneg (by omega)
  rw [offsetOfText_lead, digits, clockSeconds_append width pairs, hourValue, Nat.add_assoc,
    laterValue, cut]
  split_ifs <;> omega

/-- **Offsets can be read back.**  An offset of less than a day is the letter `Z` where a style
writes zero so, `GMT` alone where a style starts with it and the offset is zero, and otherwise
it is spelled.  Its text gives the offset back, cut to whole minutes in a style without
seconds; so a style with seconds writes no two offsets alike. -/
theorem offsetOfText_write (style : OffsetStyle) :
    (∀ offset : Int, offset.natAbs < 86400 →
      (style.write offset = "Z" ↔ style.zeroAsZ ∧ offset = 0) ∧
        (style.write offset = "GMT" ↔ ¬ style.zeroAsZ ∧ style.gmt ∧ offset = 0) ∧
        (style.write offset ≠ "Z" → style.write offset ≠ "GMT" →
          style.Spells offset (style.write offset)) ∧
        offsetOfText (style.write offset) =
          if style.seconds then offset else 60 * offset.tdiv 60) ∧
      (style.seconds → ∀ first second : Int, first.natAbs < 86400 → second.natAbs < 86400 →
        style.write first = style.write second → first = second) := by
  have readsBack : ∀ offset : Int, offset.natAbs < 86400 →
      offsetOfText (style.write offset) =
        if style.seconds then offset else 60 * offset.tdiv 60 := by
    intro offset day
    rcases style.write_cases day with ⟨-, rfl, text⟩ | ⟨-, -, rfl, text⟩ | ⟨-, -, spells⟩
    · rw [text]
      cases style.seconds <;> rfl
    · rw [text]
      cases style.seconds <;> rfl
    · exact spells.offsetOfText_eq
  refine ⟨fun offset day => ?_, fun seconds first second firstDay secondDay same => ?_⟩
  · rcases style.write_cases day with ⟨asked, zero, text⟩ | ⟨other, gmt, zero, text⟩ |
      ⟨letter, alone, spells⟩
    · refine ⟨⟨fun _ => ⟨asked, zero⟩, fun _ => text⟩, ⟨fun prefixed => ?_, fun both => ?_⟩,
        fun unlike => absurd text unlike, readsBack offset day⟩
      · exact absurd (text.symm.trans prefixed) (by decide)
      · exact absurd asked both.1
    · refine ⟨⟨fun zulu => ?_, fun both => absurd both.1 other⟩,
        ⟨fun _ => ⟨other, gmt, zero⟩, fun _ => text⟩, fun _ unlike => absurd text unlike,
        readsBack offset day⟩
      exact absurd (text.symm.trans zulu) (by decide)
    · have signed : ∀ bare : Text, ¬ ('-' ∈ bare ∨ '+' ∈ bare) → style.write offset ≠ bare := by
        rintro bare unsigned rfl
        exact unsigned spells.mem_sign
      exact ⟨iff_of_false (signed _ (by decide)) letter,
        iff_of_false (signed _ (by decide)) fun both => alone both.2,
        fun _ _ => spells, readsBack offset day⟩
  · have firstRead := readsBack first firstDay
    rw [same, readsBack second secondDay, if_pos seconds, if_pos seconds] at firstRead
    exact firstRead.symm

/-- A mean time of three hours, thirty minutes and fifty-two seconds behind universal time is
told apart from the standard time in a style with seconds, and reads as the standard time in
one without. -/
theorem offsetOfText_write_mean_time :
    (-12652 : Int).natAbs < 86400 ∧ (-12600 : Int).natAbs < 86400 ∧
      (zone 5).Spells (-12652) "-03:30:52" ∧
      offsetOfText ((zone 5).write (-12652)) = -12652 ∧
      (zone 5).write (-12652) ≠ (zone 5).write (-12600) ∧
      offsetOfText ((zone 4).write (-12652)) = -12600 := by
  have mean : (-12652 : Int).natAbs < 86400 := by decide
  have standard : (-12600 : Int).natAbs < 86400 := by decide
  obtain ⟨withSeconds, apart⟩ := offsetOfText_write (zone 5)
  obtain ⟨-, -, spells, read⟩ := withSeconds (-12652) mean
  obtain ⟨-, -, -, cut⟩ := (offsetOfText_write (zone 4)).1 (-12652) mean
  exact ⟨mean, standard, spells (by decide) (by decide), read,
    fun same => absurd (apart rfl (-12652) (-12600) mean standard same) (by decide), cut⟩

end OffsetStyle

end PanelClock
