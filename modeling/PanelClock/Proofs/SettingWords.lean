import PanelClock.Setting

/-!
# The words of settings

A setting selects a default by a word that is compared without the blanks around it and without
regard to case.  The library lowers ASCII letters only.  That decides the same as the full case
mapping does: no character beyond ASCII is mapped to letters of these words alone, be it to one
character or to several (`Text.lower_mem_iff`, `Text.upper_mem_iff`).

The normal form of a setting is its own normal form (`Setting.normalize_normalize`).
-/

set_option autoImplicit false

namespace PanelClock

/-! ## Letters that nothing else is mapped to -/

/-- A row moves none of its characters to the letter. -/
def CaseRow.Avoids (row : CaseRow) (letter : Char) : Prop :=
  (letter.toNat : Int) < row.first + row.distance ∨ row.last + row.distance < letter.toNat

instance (row : CaseRow) (letter : Char) : Decidable (row.Avoids letter) :=
  inferInstanceAs (Decidable (_ ∨ _))

/-- No row moves a character to one of the letters, and a character with several images has one
that is not among them. -/
structure MapsApart (letters : List Char) (rows : List CaseRow)
    (several : List (Nat × List Nat)) : Prop where
  ascii : ∀ letter ∈ letters, 0 < letter.toNat ∧ letter.toNat < 128
  rows : ∀ row ∈ rows, ∀ letter ∈ letters, row.Avoids letter
  several : ∀ entry ∈ several, ∃ code ∈ entry.2, Char.ofNat code ∉ letters

/-- A character other than the null is that of its own code only. -/
theorem toNat_of_ofNat_eq {code : Nat} {c : Char} (positive : 0 < c.toNat)
    (image : Char.ofNat code = c) : c.toNat = code := by
  subst image
  by_cases valid : code.isValidChar
  · exact congrArg Char.toNat (dif_pos valid)
  · have null : Char.ofNat code = Char.ofNat 0 := dif_neg valid
    rw [null] at positive
    cases positive

theorem CaseRow.Avoids.ne {row : CaseRow} {letter : Char} (avoids : row.Avoids letter)
    (positive : 0 < letter.toNat) {code : Nat} (moves : row.moves code) :
    Char.ofNat ((code : Int) + row.distance).toNat ≠ letter := by
  intro image
  simp only [CaseRow.moves, Bool.and_eq_true, decide_eq_true_eq] at moves
  unfold Avoids at avoids
  have value := toNat_of_ofNat_eq positive image
  omega

theorem MapsApart.exists_mem {letters : List Char} {rows : List CaseRow}
    {several : List (Nat × List Nat)} (apart : MapsApart letters rows several) {c : Char}
    {image : Text} (mapped : mapCase? rows several c = some image) :
    ∃ d ∈ image, d ∉ letters := by
  unfold mapCase? at mapped
  split at mapped
  · rename_i codes found
    obtain rfl := Option.some.inj mapped
    obtain ⟨before, after, rfl, -⟩ := List.lookup_eq_some_iff.mp found
    obtain ⟨code, member, other⟩ := apart.several (c.toNat, codes) (by simp)
    exact ⟨_, List.mem_map_of_mem member, other⟩
  · obtain ⟨row, found, rfl⟩ := Option.map_eq_some_iff.mp mapped
    refine ⟨_, List.mem_singleton_self _, fun letter => ?_⟩
    have moves : row.moves c.toNat := by simpa using List.find?_some found
    exact (apart.rows row (List.mem_of_find?_eq_some found) _ letter).ne (apart.ascii _ letter).1
      moves rfl

/-- Only a character of ASCII is mapped to letters of the words alone. -/
theorem MapsApart.lt_of_mapCase? {letters : List Char} {rows : List CaseRow}
    {several : List (Nat × List Nat)} (apart : MapsApart letters rows several) {c : Char}
    (inside : ∀ d ∈ (mapCase? rows several c).getD [c], d ∈ letters) : c.toNat < 128 := by
  cases mapped : mapCase? rows several c with
  | none =>
      rw [mapped] at inside
      exact (apart.ascii c (inside c (List.mem_singleton_self c))).2
  | some image =>
      rw [mapped] at inside
      obtain ⟨d, member, other⟩ := apart.exists_mem mapped
      exact absurd (inside d member) other

/-- The letters of the words that settings are compared with in lower case. -/
def lowerLetters : List Char := "acdefgilmnorstuy0168".toList

/-- The letters of the words that settings are compared with in upper case. -/
def upperLetters : List Char := "CGMTUZ".toList

theorem lowerLetters_apart : MapsApart lowerLetters lowerRows lowerSeveral :=
  ⟨by decide, by decide +kernel, by decide +kernel⟩

theorem upperLetters_apart : MapsApart upperLetters upperRows upperSeveral :=
  ⟨by decide, by decide +kernel, by decide +kernel⟩

theorem lt_of_lowerOf {before after : Text} {c : Char}
    (inside : ∀ d ∈ lowerOf before c after, d ∈ lowerLetters) : c.toNat < 128 := by
  unfold lowerOf at inside
  split at inside
  · assumption
  · split at inside
    · have sigma := inside _ (List.mem_singleton_self _)
      split at sigma
      · exact absurd sigma (by decide)
      · exact absurd sigma (by decide)
    · exact lowerLetters_apart.lt_of_mapCase? inside

theorem lt_of_upperOf {c : Char} (inside : ∀ d ∈ upperOf c, d ∈ upperLetters) :
    c.toNat < 128 := by
  unfold upperOf at inside
  split at inside
  · assumption
  · exact upperLetters_apart.lt_of_mapCase? inside

/-! ## Case of whole texts -/

theorem toLower_of_beyond {c : Char} (beyond : 128 ≤ c.toNat) : c.toLower = c := by
  refine dif_neg fun capital => ?_
  have last : c.toNat ≤ 90 := UInt32.le_iff_toNat_le.mp capital.2
  omega

theorem toUpper_of_beyond {c : Char} (beyond : 128 ≤ c.toNat) : c.toUpper = c := by
  refine dif_neg fun small => ?_
  have last : c.toNat ≤ 122 := UInt32.le_iff_toNat_le.mp small.2
  omega

namespace Text

variable {text : Text}

theorem lowerAfter_of_ascii (ascii : ∀ c ∈ text, c.toNat < 128) (before : Text) :
    lowerAfter before text = text.lowerAscii := by
  induction text generalizing before with
  | nil => rfl
  | cons c rest ih =>
      rw [lowerAfter, ih (fun d member => ascii d (List.mem_cons_of_mem _ member)), lowerOf,
        if_pos (ascii c List.mem_cons_self)]
      rfl

theorem ascii_of_lowerAfter {before : Text}
    (inside : ∀ d ∈ lowerAfter before text, d ∈ lowerLetters) : ∀ c ∈ text, c.toNat < 128 := by
  induction text generalizing before with
  | nil => exact List.forall_mem_nil _
  | cons c rest ih =>
      rw [lowerAfter, List.forall_mem_append] at inside
      exact List.forall_mem_cons.mpr ⟨lt_of_lowerOf inside.1, ih inside.2⟩

theorem upper_of_ascii (ascii : ∀ c ∈ text, c.toNat < 128) : text.upper = text.upperAscii := by
  induction text with
  | nil => rfl
  | cons c rest ih =>
      have later := ih fun d member => ascii d (List.mem_cons_of_mem _ member)
      rw [upper, List.flatMap_cons, ← upper, later, upperOf, if_pos (ascii c List.mem_cons_self)]
      rfl

theorem ascii_of_upper (inside : ∀ d ∈ text.upper, d ∈ upperLetters) :
    ∀ c ∈ text, c.toNat < 128 := fun c member =>
  lt_of_upperOf fun d image => inside d (List.mem_flatMap.mpr ⟨c, member, image⟩)

/-- A change that leaves the characters beyond ASCII as they are does not make them ASCII. -/
theorem ascii_of_map {change : Char → Char} (kept : ∀ c : Char, 128 ≤ c.toNat → change c = c)
    (ascii : ∀ d ∈ text.map change, d.toNat < 128) : ∀ c ∈ text, c.toNat < 128 := by
  intro c member
  refine Nat.lt_of_not_le fun beyond => ?_
  have image := ascii (change c) (List.mem_map_of_mem member)
  rw [kept c beyond] at image
  omega

/-- **The words of settings are found in full lower case exactly when they are in ASCII.** -/
theorem lower_mem_iff {words : List Text} (plain : ∀ word ∈ words, ∀ d ∈ word, d ∈ lowerLetters) :
    text.lower ∈ words ↔ text.lowerAscii ∈ words := by
  constructor
  · intro member
    rwa [← lowerAfter_of_ascii (ascii_of_lowerAfter (plain _ member)) []]
  · intro member
    have ascii := ascii_of_map (fun c => toLower_of_beyond) fun d inside =>
      (lowerLetters_apart.ascii d (plain _ member d inside)).2
    rwa [lower, lowerAfter_of_ascii ascii []]

/-- **The words of settings are found in full upper case exactly when they are in ASCII.** -/
theorem upper_mem_iff {words : List Text} (plain : ∀ word ∈ words, ∀ d ∈ word, d ∈ upperLetters) :
    text.upper ∈ words ↔ text.upperAscii ∈ words := by
  constructor
  · intro member
    rwa [← upper_of_ascii (ascii_of_upper (plain _ member))]
  · intro member
    have ascii := ascii_of_map (fun c => toUpper_of_beyond) fun d inside =>
      (upperLetters_apart.ascii d (plain _ member d inside)).2
    rwa [upper_of_ascii ascii]

end Text

/-! ## Settings -/

/-- A calendar can be rendered when its name in lower case is one of a list. -/
theorem isGregorian_iff (calendar : Text) :
    isGregorian calendar ↔ calendar.lower ∈ gregorianCalendars := by
  rw [isGregorian, List.contains_iff_mem, Text.lower_mem_iff (by decide)]

namespace Setting

theorem isDefaultText_iff (text : Text) :
    isDefaultText text ↔ text.trim.lower ∈ defaultWords := by
  rw [isDefaultText, List.contains_iff_mem, keyword, Text.lower_mem_iff (by decide)]

/-- Blanks at the ends do not count. -/
@[simp] theorem keyword_trim (text : Text) : keyword text.trim = keyword text := by
  rw [keyword, keyword, Text.trim_trim]

@[simp] theorem isDefaultText_trim (text : Text) :
    isDefaultText text.trim = isDefaultText text := by
  rw [isDefaultText, isDefaultText, keyword_trim]

/-- **A normal form is its own normal form.** -/
@[simp] theorem normalize_normalize (setting : Setting) :
    setting.normalize.normalize = setting.normalize := by
  cases setting with
  | none => rfl
  | some text =>
      rw [normalize]
      split
      · rfl
      · rename_i chosen
        rw [normalize, isDefaultText_trim, if_neg chosen, Text.trim_trim]

end Setting

end PanelClock
