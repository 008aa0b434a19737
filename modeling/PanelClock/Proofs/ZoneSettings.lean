import Mathlib.Tactic.Ring
import PanelClock.Proofs.OffsetTexts
import PanelClock.Proofs.SettingWords
import PanelClock.Zone.Setting

/-!
# What a time zone setting selects

A text other than the words for the zone of the system and for universal time is looked at by
its form.  A sign, two digits of hours and two of minutes, with or without a colon and in the
digits of any script, is an offset (`OffsetForm`), and every other text names a place.  A text
of that form never asks for a place, not even when its hours or minutes are too many
(`OffsetForm.resolveZoneBy_eq`).

An offset of whole minutes that is written with hours and minutes is again of that form, and is
none of the words.  So the offsets that settings select are selected once more by what is
written for them (`OffsetForm.resolveZoneBy_write`).
-/

set_option autoImplicit false

namespace PanelClock

/-! ## Texts of the form of an offset -/

/-- Two decimal digits of any script and the number that they write. -/
def DigitPair (first second : Char) (value : Nat) : Prop :=
  ∃ tens units, digitValue? first = some tens ∧ digitValue? second = some units ∧
    value = 10 * tens + units

/-- A text of the form of an offset: a sign, two digits of hours and two of minutes, with or
without a colon between them. -/
inductive OffsetForm : Text → Int → Nat → Nat → Prop where
  | intro {mark a b c d : Char} {colon : Text} {sign : Int} {hours minutes : Nat}
      (signed : mark = '+' ∧ sign = 1 ∨ mark = '-' ∧ sign = -1)
      (parted : colon = [] ∨ colon = [':'])
      (hour : DigitPair a b hours) (minute : DigitPair c d minutes) :
      OffsetForm (mark :: a :: b :: (colon ++ [c, d])) sign hours minutes

variable {text : Text} {sign : Int} {hours minutes : Nat}

theorem digitsValue?_pair_iff {first second : Char} {value : Nat} :
    digitsValue? [first, second] = some value ↔ DigitPair first second value := by
  unfold digitsValue? DigitPair
  cases tens : digitValue? first with
  | none => simp [tens]
  | some tens' =>
      cases units : digitValue? second with
      | none => simp [tens, units]
      | some units' => simp [tens, units, eq_comm]

theorem takeSign?_eq_some_iff {rest : Text} :
    takeSign? text = some (sign, rest) ↔
      ∃ mark, text = mark :: rest ∧ (mark = '+' ∧ sign = 1 ∨ mark = '-' ∧ sign = -1) := by
  constructor
  · intro taken
    unfold takeSign? at taken
    split at taken
    · obtain ⟨rfl, rfl⟩ := Prod.mk.inj (Option.some.inj taken)
      exact ⟨_, rfl, .inl ⟨rfl, rfl⟩⟩
    · obtain ⟨rfl, rfl⟩ := Prod.mk.inj (Option.some.inj taken)
      exact ⟨_, rfl, .inr ⟨rfl, rfl⟩⟩
    · cases taken
  · rintro ⟨mark, rfl, ⟨rfl, rfl⟩ | ⟨rfl, rfl⟩⟩
    · rfl
    · rfl

theorem clockDigits?_eq_some_iff {rest hourDigits minuteDigits : Text} :
    clockDigits? rest = some (hourDigits, minuteDigits) ↔
      ∃ a b c d colon, rest = a :: b :: (colon ++ [c, d]) ∧ (colon = [] ∨ colon = [':']) ∧
        hourDigits = [a, b] ∧ minuteDigits = [c, d] := by
  constructor
  · intro found
    unfold clockDigits? at found
    split at found
    · rename_i a b c d
      obtain ⟨rfl, rfl⟩ := Prod.mk.inj (Option.some.inj found)
      exact ⟨a, b, c, d, [], rfl, .inl rfl, rfl, rfl⟩
    · rename_i a b c d
      obtain ⟨rfl, rfl⟩ := Prod.mk.inj (Option.some.inj found)
      exact ⟨a, b, c, d, [':'], rfl, .inr rfl, rfl, rfl⟩
    · cases found
  · rintro ⟨a, b, c, d, colon, rfl, rfl | rfl, rfl, rfl⟩
    · rfl
    · rfl

/-- **Exactly the texts of the form of an offset are read as one.** -/
theorem readOffset?_eq_some_iff {result : OffsetText} :
    readOffset? text = some result ↔ ∃ sign hours minutes, OffsetForm text sign hours minutes ∧
      result = if hours ≤ 23 ∧ minutes ≤ 59 then .offset (sign * (3600 * hours + 60 * minutes))
        else .tooLarge := by
  have choice : ∀ (sign : Int) (hours minutes : Nat),
      (if 23 < hours ∨ 59 < minutes then some OffsetText.tooLarge
        else some (.offset (sign * (3600 * hours + 60 * minutes : Nat)))) =
      some (if hours ≤ 23 ∧ minutes ≤ 59 then .offset (sign * (3600 * hours + 60 * minutes))
        else .tooLarge) := by
    intro sign hours minutes
    by_cases large : 23 < hours ∨ 59 < minutes
    · rw [if_pos large, if_neg (by omega)]
    · rw [if_neg large, if_pos (by omega)]
      rfl
  simp only [readOffset?, Option.bind_eq_bind, Option.bind_eq_some_iff, Prod.exists,
    takeSign?_eq_some_iff, clockDigits?_eq_some_iff, choice, Option.some.injEq]
  constructor
  · rintro ⟨sign, rest, ⟨mark, rfl, signed⟩, _, _, ⟨a, b, c, d, colon, rfl, parted, rfl, rfl⟩,
      hours, hour, minutes, minute, rfl⟩
    exact ⟨sign, hours, minutes, .intro signed parted (digitsValue?_pair_iff.mp hour)
      (digitsValue?_pair_iff.mp minute), rfl⟩
  · rintro ⟨sign, hours, minutes, ⟨signed, parted, hour, minute⟩, rfl⟩
    exact ⟨sign, _, ⟨_, rfl, signed⟩, _, _, ⟨_, _, _, _, _, rfl, parted, rfl, rfl⟩, hours,
      digitsValue?_pair_iff.mpr hour, minutes, digitsValue?_pair_iff.mpr minute, rfl⟩

theorem readOffset?_eq_none_iff :
    readOffset? text = none ↔ ¬ ∃ sign hours minutes, OffsetForm text sign hours minutes := by
  rw [Option.eq_none_iff_forall_ne_some]
  constructor
  · rintro unread ⟨sign, hours, minutes, form⟩
    exact unread _ (readOffset?_eq_some_iff.mpr ⟨sign, hours, minutes, form, rfl⟩)
  · intro other result read
    obtain ⟨sign, hours, minutes, form, -⟩ := readOffset?_eq_some_iff.mp read
    exact other ⟨sign, hours, minutes, form⟩

/-! ## What settings select -/

/-- The words that select the zone of the system. -/
def systemZoneWords : List Text := "local" :: defaultWords

/-- A setting selects the zone of the system: it is nothing or one of a few words. -/
def Setting.SelectsSystemZone : Setting → Prop
  | none => True
  | some text => text.trim.lower ∈ systemZoneWords

/-- A text selects universal time. -/
def Text.SelectsUniversalTime (text : Text) : Prop := text.trim.upper ∈ universalWords

instance : DecidablePred Setting.SelectsSystemZone
  | none => isTrue trivial
  | some text => inferInstanceAs (Decidable (text.trim.lower ∈ systemZoneWords))

instance : DecidablePred Text.SelectsUniversalTime := fun text =>
  inferInstanceAs (Decidable (text.trim.upper ∈ universalWords))

theorem selectsSystemZone_iff (text : Text) :
    Setting.SelectsSystemZone (some text) ↔
      (Setting.isDefaultText text || Setting.keyword text = ("local" : Text)) = true := by
  rw [Setting.SelectsSystemZone, Text.lower_mem_iff (by decide), systemZoneWords, List.mem_cons,
    Bool.or_eq_true, Setting.isDefaultText, List.contains_iff_mem, decide_eq_true_eq, or_comm]
  rfl

theorem Setting.asksSystemZone_iff (setting : Setting) :
    setting.asksSystemZone ↔ setting.SelectsSystemZone := by
  cases setting with
  | none => exact iff_of_true rfl trivial
  | some text => exact (selectsSystemZone_iff text).symm

namespace System

variable (system : System) (placeOf? : Text → Option Zone)

theorem resolveZoneBy_of_selectsSystemZone {setting : Setting}
    (selects : setting.SelectsSystemZone) :
    system.resolveZoneBy placeOf? setting = .ok system.zone := by
  cases setting with
  | none => rfl
  | some text => exact if_pos ((selectsSystemZone_iff text).mp selects)

theorem resolveZoneBy_of_not_selectsSystemZone {text : Text}
    (other : ¬ Setting.SelectsSystemZone (some text)) :
    system.resolveZoneBy placeOf? (some text) = zoneOfText placeOf? text.trim :=
  if_neg (mt (selectsSystemZone_iff text).mpr other)

end System

theorem zoneOfText_of_not_universal (placeOf? : Text → Option Zone) {text : Text}
    (other : text.upper ∉ universalWords) :
    zoneOfText placeOf? text = match readOffset? text with
      | some (.offset seconds) => .ok (.ofOffset seconds)
      | some .tooLarge => .error (.timezoneUnknown text)
      | none => match placeOf? text with
        | some zone => .ok zone
        | none => .error (.timezoneUnknown text) := by
  rw [Text.upper_mem_iff (by decide)] at other
  exact if_neg (by rwa [List.contains_iff_mem])

/-! ## Offsets -/

theorem not_isBlank_of_digitValue? {c : Char} {value : Nat} (digit : digitValue? c = some value) :
    ¬ isBlank c := by
  have ascii : ∀ place < 10, ¬ isBlank (Char.ofNat (48 + place)) := by decide
  have rows : ∀ first ∈ digitZeros, ∀ place < 10, ¬ isBlank (Char.ofNat (first + place)) := by
    decide +kernel
  unfold digitValue? at digit
  split at digit
  · rename_i plain
    have range : 48 ≤ c.toNat ∧ c.toNat ≤ 57 := by
      simpa [Char.isDigit, UInt32.le_iff_toNat_le] using plain
    have solid := ascii (c.toNat - 48) (by omega)
    rwa [Nat.add_sub_cancel' range.1, Char.ofNat_toNat] at solid
  · obtain ⟨first, found, -⟩ := Option.map_eq_some_iff.mp digit
    have range := List.find?_some found
    simp only [Bool.and_eq_true, decide_eq_true_eq] at range
    have solid := rows first (List.mem_of_find?_eq_some found) (c.toNat - first) (by omega)
    rwa [Nat.add_sub_cancel' range.1, Char.ofNat_toNat] at solid

theorem DigitPair.of_lt {n : Nat} (small : n < 100) :
    DigitPair (Nat.digitChar (n / 10)) (Nat.digitChar (n % 10)) n := by
  have digit : ∀ d < 10, digitValue? (Nat.digitChar d) = some d := by decide
  exact ⟨n / 10, n % 10, digit _ (by omega), digit _ (by omega), (Nat.div_add_mod n 10).symm⟩

namespace OffsetForm

theorem trim_eq (form : OffsetForm text sign hours minutes) : text.trim = text := by
  obtain ⟨signed, parted, -, ⟨_, _, -, last, -⟩⟩ := form
  refine Text.trim_eq_self ?_ ?_
  · rintro c ⟨⟩
    rcases signed with ⟨rfl, -⟩ | ⟨rfl, -⟩ <;> decide
  · rintro c ends
    rcases parted with rfl | rfl
    · cases ends
      exact not_isBlank_of_digitValue? last
    · cases ends
      exact not_isBlank_of_digitValue? last

/-- A text of the form of an offset is none of the words that select a zone. -/
theorem not_mem_words (form : OffsetForm text sign hours minutes) :
    text.lower ∉ systemZoneWords ∧ text.upper ∉ universalWords := by
  have apart : ∀ mark ∈ ['+', '-'], some mark.toLower ∉ systemZoneWords.map List.head? ∧
      some mark.toUpper ∉ universalWords.map List.head? := by decide
  obtain @⟨mark, _, _, _, _, _, _, _, _, signed, -, -, -⟩ := form
  rw [Text.lower_mem_iff (by decide), Text.upper_mem_iff (by decide)]
  obtain ⟨system, universal⟩ := apart mark (by simpa using signed.imp And.left And.left)
  exact ⟨fun member => system (List.mem_map_of_mem (f := List.head?) member),
    fun member => universal (List.mem_map_of_mem (f := List.head?) member)⟩

/-- **A text of the form of an offset never asks for a place.** -/
theorem resolveZoneBy_eq (system : System) (placeOf? : Text → Option Zone)
    (form : OffsetForm text.trim sign hours minutes) :
    system.resolveZoneBy placeOf? (some text) =
      if hours ≤ 23 ∧ minutes ≤ 59 then .ok (.ofOffset (60 * (sign * (60 * hours + minutes))))
      else .error (.timezoneUnknown text.trim) := by
  obtain ⟨other, elsewhere⟩ := form.not_mem_words
  have seconds : sign * (3600 * hours + 60 * minutes) = 60 * (sign * (60 * hours + minutes)) := by
    ring
  rw [system.resolveZoneBy_of_not_selectsSystemZone placeOf? other,
    zoneOfText_of_not_universal placeOf? elsewhere,
    readOffset?_eq_some_iff.mpr ⟨sign, hours, minutes, form, rfl⟩, seconds]
  split_ifs <;> rfl

/-- Whole minutes that are spelled with hours and minutes have this form. -/
theorem of_spells {style : OffsetStyle} {offset : Int} (plain : style.gmt = false)
    (padded : style.twoDigitHours = true) (full : style.omitZeroMinutes = false)
    (whole : (60 : Int) ∣ offset) (spells : style.Spells offset text) :
    ∃ sign hours minutes, OffsetForm text sign hours minutes ∧ hours ≤ 23 ∧ minutes ≤ 59 ∧
      offset = 60 * (sign * (60 * hours + minutes)) := by
  obtain @⟨hours, minutes, seconds, hour, minute, second, size⟩ := spells
  have shape : style.lead ++ (if offset < 0 then '-' else '+') ::
      Text.joinWith style.colon
        (style.hourPart hours :: style.laterParts offset minutes seconds) =
      (if offset < 0 then '-' else '+') :: Nat.digitChar (hours / 10) ::
        Nat.digitChar (hours % 10) ::
          (style.colon ++ [Nat.digitChar (minutes / 10), Nat.digitChar (minutes % 10)]) := by
    simp [OffsetStyle.lead, plain, OffsetStyle.hourPart, padded, OffsetStyle.laterParts, full,
      whole, Text.joinWith, List.intercalate_cons_cons, twoDigits]
  rw [shape]
  refine ⟨if offset < 0 then -1 else 1, hours, minutes, .intro ?_ ?_ (.of_lt (by omega))
    (.of_lt (by omega)), by omega, by omega, ?_⟩
  · split_ifs <;> simp
  · unfold OffsetStyle.colon
    split_ifs <;> simp
  · split_ifs <;> omega

theorem sign_cases (form : OffsetForm text sign hours minutes) : sign = 1 ∨ sign = -1 := by
  obtain ⟨signed, -, -, -⟩ := form
  exact signed.imp And.right And.right

/-- **Whole minutes select their fixed offset once they are written with hours and minutes.** -/
theorem resolveZoneBy_write (system : System) (placeOf? : Text → Option Zone) {offset : Int}
    {length : Nat} (day : offset.natAbs < 86400) (whole : (60 : Int) ∣ offset)
    (short : length = 2 ∨ length = 3) :
    system.resolveZoneBy placeOf? (some ((OffsetStyle.iso false length).write offset)) =
      .ok (.ofOffset offset) := by
  have padded : (OffsetStyle.iso false length).twoDigitHours = true := rfl
  have full : (OffsetStyle.iso false length).omitZeroMinutes = false := by
    rcases short with rfl | rfl <;> rfl
  rcases (OffsetStyle.iso false length).write_cases day with ⟨letter, -⟩ | ⟨-, gmt, -⟩ |
    ⟨-, -, spells⟩
  · cases letter
  · cases gmt
  · obtain ⟨sign, hours, minutes, form, hour, minute, value⟩ :=
      of_spells rfl padded full whole spells
    have trimmed := form
    rw [← form.trim_eq] at trimmed
    rw [trimmed.resolveZoneBy_eq system placeOf?, if_pos ⟨hour, minute⟩, ← value]

end OffsetForm

/-- **Fixed offsets are selected by their form alone.**  A text that is none of the words, but of
the form of an offset, selects that offset when hours and minutes are those of a clock, and
otherwise nothing, whatever places there are; a text of any other form selects the place that
it names, if there is one.  What is written for a selected offset selects it again. -/
theorem System.resolveZoneBy_text (system : System) (placeOf? : Text → Option Zone) {text : Text}
    (own : ¬ Setting.SelectsSystemZone (some text)) (other : ¬ text.SelectsUniversalTime) :
    (∀ sign hours minutes, OffsetForm text.trim sign hours minutes →
      system.resolveZoneBy placeOf? (some text) =
        if hours ≤ 23 ∧ minutes ≤ 59 then .ok (.ofOffset (60 * (sign * (60 * hours + minutes))))
        else .error (.timezoneUnknown text.trim)) ∧
      ((¬ ∃ sign hours minutes, OffsetForm text.trim sign hours minutes) →
        system.resolveZoneBy placeOf? (some text) =
          match placeOf? text.trim with
          | some zone => .ok zone
          | none => .error (.timezoneUnknown text.trim)) ∧
      ∀ sign hours minutes, OffsetForm text.trim sign hours minutes →
        hours ≤ 23 → minutes ≤ 59 → ∀ (offset : Int) (length : Nat),
          offset = 60 * (sign * (60 * hours + minutes)) → length = 2 ∨ length = 3 →
            system.resolveZoneBy placeOf? (some ((OffsetStyle.iso false length).write offset)) =
              .ok (.ofOffset offset) := by
  refine ⟨fun sign hours minutes form => form.resolveZoneBy_eq system placeOf?, fun unlike => ?_,
    fun sign hours minutes form hour minute offset length value short => ?_⟩
  · rw [system.resolveZoneBy_of_not_selectsSystemZone placeOf? own,
      zoneOfText_of_not_universal placeOf? other, readOffset?_eq_none_iff.mpr unlike]
  · have day : offset.natAbs < 86400 := by
      rcases form.sign_cases with rfl | rfl <;> omega
    exact OffsetForm.resolveZoneBy_write system placeOf? day ⟨_, value⟩ short

/-- Five and a half hours behind universal time need a digit in front of the five. -/
theorem System.resolveZoneBy_text_half_hour :
    let padded : Text := " -05:30 "
    let bare : Text := "-5:30"
    ¬ Setting.SelectsSystemZone (some padded) ∧ ¬ padded.SelectsUniversalTime ∧
      OffsetForm padded.trim (-1) 5 30 ∧
      standard.resolveZoneBy zoneOfKey? (some padded) = .ok (.ofOffset (-19800)) ∧
      standard.resolveZoneBy zoneOfKey? (some ((OffsetStyle.iso false 3).write (-19800))) =
        .ok (.ofOffset (-19800)) ∧
      ¬ Setting.SelectsSystemZone (some bare) ∧ ¬ bare.SelectsUniversalTime ∧
      (¬ ∃ sign hours minutes, OffsetForm bare.trim sign hours minutes) ∧
      standard.resolveZoneBy zoneOfKey? (some bare) = .error (.timezoneUnknown bare) := by
  intro padded bare
  have own : ¬ Setting.SelectsSystemZone (some padded) := by decide
  have other : ¬ padded.SelectsUniversalTime := by decide
  have form : OffsetForm padded.trim (-1) 5 30 :=
    @OffsetForm.intro '-' '0' '5' '3' '0' [':'] (-1) 5 30 (.inr ⟨rfl, rfl⟩) (.inr rfl)
      ⟨0, 5, by decide, by decide, rfl⟩ ⟨3, 0, by decide, by decide, rfl⟩
  have bareOwn : ¬ Setting.SelectsSystemZone (some bare) := by decide
  have bareOther : ¬ bare.SelectsUniversalTime := by decide
  have unlike : ¬ ∃ sign hours minutes, OffsetForm bare.trim sign hours minutes :=
    readOffset?_eq_none_iff.mp (by decide)
  obtain ⟨fixed, -, again⟩ := standard.resolveZoneBy_text zoneOfKey? own other
  obtain ⟨-, place, -⟩ := standard.resolveZoneBy_text zoneOfKey? bareOwn bareOther
  exact ⟨own, other, form, fixed _ _ _ form,
    again _ _ _ form (by decide) (by decide) (-19800) 3 (by decide) (.inr rfl), bareOwn, bareOther,
    unlike, place unlike⟩

end PanelClock
