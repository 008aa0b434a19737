import PanelClock.Text.Basic

/-!
# Blank characters

The characters that count as white space around a setting: the Unicode spaces, the
line and paragraph separators and the control characters that separate lines, fields
and records.  Zero-width characters are not blank.
-/

set_option autoImplicit false

namespace PanelClock

/-- White space, including the separators U+001C to U+001F and U+0085. -/
def isBlank (c : Char) : Bool :=
  let code := c.toNat
  (9 ≤ code && code ≤ 13) || (28 ≤ code && code ≤ 32) || code == 0x85 || code == 0xA0
    || code == 0x1680 || (0x2000 ≤ code && code ≤ 0x200A) || code == 0x2028
    || code == 0x2029 || code == 0x202F || code == 0x205F || code == 0x3000

namespace Text

/-- Drops the blanks at the end. -/
def trimEnd : Text → Text
  | [] => []
  | c :: rest =>
      match trimEnd rest with
      | [] => if isBlank c then [] else [c]
      | kept => c :: kept

/-- Drops the blanks at both ends. -/
def trim (text : Text) : Text := trimEnd (text.dropWhile isBlank)

theorem trimEnd_cons (c : Char) (rest : Text) :
    trimEnd (c :: rest) = if trimEnd rest = [] ∧ isBlank c then [] else c :: trimEnd rest := by
  rw [trimEnd]
  cases kept : trimEnd rest with
  | nil => by_cases blank : isBlank c <;> simp [blank]
  | cons first others => simp

theorem trimEnd_trimEnd (text : Text) : trimEnd (trimEnd text) = trimEnd text := by
  induction text with
  | nil => rfl
  | cons c rest ih =>
      rw [trimEnd_cons]
      split
      · rfl
      · rename_i kept
        rw [trimEnd_cons, ih, if_neg kept]

/-- What is left of a text starts as the text does. -/
theorem mem_head?_of_trimEnd {text : Text} {c : Char} (first : c ∈ (trimEnd text).head?) :
    c ∈ text.head? := by
  cases text with
  | nil => exact first
  | cons d rest =>
      rw [trimEnd_cons] at first
      split at first
      · cases first
      · exact first

/-- A text that does not end in a blank is kept whole. -/
theorem trimEnd_eq_self {text : Text} (last : ∀ c ∈ text.getLast?, ¬ isBlank c) :
    trimEnd text = text := by
  induction text with
  | nil => rfl
  | cons c rest ih =>
      rw [trimEnd_cons]
      cases rest with
      | nil =>
          have solid : ¬ isBlank c := last c rfl
          simp [trimEnd, solid]
      | cons d others => rw [ih last, if_neg (by simp)]

theorem dropWhile_isBlank_eq_self {text : Text} (first : ∀ c ∈ text.head?, ¬ isBlank c) :
    text.dropWhile isBlank = text := by
  cases text with
  | nil => rfl
  | cons c rest => exact List.dropWhile_cons_of_neg (first c rfl)

/-- A text without blanks at its ends is left as it is. -/
theorem trim_eq_self {text : Text} (first : ∀ c ∈ text.head?, ¬ isBlank c)
    (last : ∀ c ∈ text.getLast?, ¬ isBlank c) : text.trim = text := by
  rw [trim, dropWhile_isBlank_eq_self first, trimEnd_eq_self last]

theorem trim_trim (text : Text) : text.trim.trim = text.trim := by
  have first : ∀ c ∈ text.trim.head?, ¬ isBlank c := by
    intro c member
    have begins : (text.dropWhile isBlank).head? = some c := mem_head?_of_trimEnd member
    have solid := List.head?_dropWhile_not isBlank text
    rw [begins] at solid
    simp [solid]
  rw [trim, dropWhile_isBlank_eq_self first, trim, trimEnd_trimEnd]

end Text

end PanelClock
