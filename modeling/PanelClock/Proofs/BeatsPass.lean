import Mathlib.Data.List.Infix
import PanelClock.Variant.Beats

/-!
# Beats are put in by one pass

A pattern of the beats variant is rewritten three times: escaped newlines are expanded, then the
runs of `b` are replaced, then the runs of `s`.  The same text comes out of a single pass from
left to right (`Beats.onePass`), because no stage makes anything that a later one takes up.  An
expanded newline is neither letter, and what is put in for a run are digits.  There is always at
least one digit, so that a run of `b` that is replaced still keeps the runs of `s` on its two
sides apart, and keeps a backslash apart from an `n` (`Beats.fill_eq_onePass`).

For the same reason nothing is left to rewrite: the result has no `b`, no `s` and no escaped
newline, and rewriting it again changes nothing (`Beats.format_onePass`).
-/

set_option autoImplicit false

namespace PanelClock

/-! ## Replacing runs -/

section Runs

variable {c d : Char} {replacement : Text}

theorem replaceRuns_cons_ne (other : d ≠ c) (rest : Text) :
    replaceRuns c replacement (d :: rest) = d :: replaceRuns c replacement rest := by
  rw [replaceRuns, if_neg other]

/-- A run is replaced as a whole. -/
theorem replaceRuns_run (rest : Text) :
    replaceRuns c replacement (c :: rest) =
      replacement ++ replaceRuns c replacement (rest.dropWhile (· = c)) := by
  induction rest with
  | nil => simp [replaceRuns]
  | cons d rest ih =>
      by_cases same : d = c
      · subst same
        rw [replaceRuns, if_pos rfl, if_pos (by simp), ih, List.dropWhile_cons_of_pos (by simp)]
      · rw [replaceRuns, if_pos rfl, if_neg (by simpa using same),
          List.dropWhile_cons_of_neg (by simpa using same)]

theorem replaceRuns_append_of_notMem {text : Text} (absent : c ∉ text) (rest : Text) :
    replaceRuns c replacement (text ++ rest) = text ++ replaceRuns c replacement rest := by
  induction text with
  | nil => rfl
  | cons d text ih =>
      rw [List.mem_cons, not_or] at absent
      rw [List.cons_append, replaceRuns_cons_ne (Ne.symm absent.1), ih absent.2, List.cons_append]

theorem replaceRuns_eq_self {text : Text} (absent : c ∉ text) :
    replaceRuns c replacement text = text := by
  have whole : replaceRuns c replacement (text ++ []) = text ++ replaceRuns c replacement [] :=
    replaceRuns_append_of_notMem absent []
  rwa [List.append_nil, replaceRuns, List.append_nil] at whole

/-- Runs of another character stay runs, where what is put in starts otherwise. -/
theorem dropWhile_replaceRuns (other : d ≠ c) (apart : replacement ≠ [])
    (starts : d ∉ replacement) (text : Text) :
    (replaceRuns c replacement text).dropWhile (· = d) =
      replaceRuns c replacement (text.dropWhile (· = d)) := by
  induction text with
  | nil => rfl
  | cons e rest ih =>
      by_cases same : e = d
      · subst same
        rw [replaceRuns_cons_ne other, List.dropWhile_cons_of_pos (by simp), ih,
          List.dropWhile_cons_of_pos (by simp)]
      · rw [List.dropWhile_cons_of_neg (by simpa using same)]
        by_cases run : e = c
        · subst run
          rw [replaceRuns_run]
          obtain ⟨first, more, rfl⟩ := List.exists_cons_of_ne_nil apart
          rw [List.mem_cons, not_or] at starts
          rw [List.cons_append, List.dropWhile_cons_of_neg (by simpa using Ne.symm starts.1)]
        · rw [replaceRuns_cons_ne run, List.dropWhile_cons_of_neg (by simpa using same)]

end Runs

/-! ## Escaped newlines -/

/-- A text holds an escaped newline. -/
def HasEscape (text : Text) : Prop := ['\\', 'n'] <:+: text

theorem hasEscape_cons_iff (c : Char) (rest : Text) :
    HasEscape (c :: rest) ↔ (c = '\\' ∧ rest.head? = some 'n') ∨ HasEscape rest := by
  have start : ['\\', 'n'] <+: c :: rest ↔ c = '\\' ∧ rest.head? = some 'n' := by
    rw [List.cons_prefix_cons, eq_comm]
    cases rest with
    | nil => simp
    | cons d rest => simp [List.cons_prefix_cons, eq_comm]
  rw [HasEscape, List.infix_cons_iff, start]
  rfl

/-- A text without backslashes in front makes no escaped newline. -/
theorem hasEscape_append_iff {text : Text} (absent : '\\' ∉ text) (rest : Text) :
    HasEscape (text ++ rest) ↔ HasEscape rest := by
  induction text with
  | nil => rfl
  | cons c text ih =>
      rw [List.mem_cons, not_or] at absent
      rw [List.cons_append, hasEscape_cons_iff, ih absent.2]
      exact or_iff_right fun escape => absent.1 escape.1.symm

theorem expandNewlines_cons {c : Char} (plain : c ≠ '\\') (rest : Text) :
    expandNewlines (c :: rest) = c :: expandNewlines rest := by
  rw [expandNewlines]
  rintro _ rfl
  exact absurd rfl plain

theorem expandNewlines_eq_self {text : Text} (none : ¬ HasEscape text) :
    expandNewlines text = text := by
  fun_induction expandNewlines text with
  | case1 => rfl
  | case2 rest ih =>
      rw [hasEscape_cons_iff] at none
      exact absurd (.inl ⟨rfl, rfl⟩) none
  | case3 c rest unescaped ih =>
      rw [hasEscape_cons_iff, not_or] at none
      rw [ih none.2]

/-- Runs of a character stay runs. -/
theorem dropWhile_expandNewlines {c : Char} (plain : c ≠ '\\') (visible : c ≠ '\n') (text : Text) :
    (expandNewlines text).dropWhile (· = c) = expandNewlines (text.dropWhile (· = c)) := by
  fun_induction expandNewlines text with
  | case1 => rfl
  | case2 rest ih =>
      rw [List.dropWhile_cons_of_neg (by simpa using Ne.symm visible),
        List.dropWhile_cons_of_neg (by simpa using Ne.symm plain), expandNewlines]
  | case3 d rest unescaped ih =>
      by_cases same : d = c
      · rw [List.dropWhile_cons_of_pos (by simpa using same), ih,
          List.dropWhile_cons_of_pos (by simpa using same)]
      · rw [List.dropWhile_cons_of_neg (by simpa using same),
          List.dropWhile_cons_of_neg (by simpa using same), expandNewlines]
        exact unescaped

/-! ## The pass -/

/-- Digits, at least one. -/
structure IsNumeral (text : Text) : Prop where
  ne_nil : text ≠ []
  isDigit : ∀ c ∈ text, c.isDigit = true

theorem IsNumeral.notMem {text : Text} (numeral : IsNumeral text) {c : Char}
    (other : c.isDigit = false) : c ∉ text := by
  intro member
  rw [numeral.isDigit c member] at other
  cases other

theorem IsNumeral.head?_append_ne {text : Text} (numeral : IsNumeral text) {c : Char}
    (other : c.isDigit = false) (rest : Text) : (text ++ rest).head? ≠ some c := by
  obtain ⟨first, more, rfl⟩ := List.exists_cons_of_ne_nil numeral.ne_nil
  intro starts
  obtain rfl : first = c := Option.some.inj starts
  exact numeral.notMem other List.mem_cons_self

theorem isNumeral_paddedNumeral (width n : Nat) : IsNumeral (paddedNumeral width n) where
  ne_nil := paddedNumeral_ne_nil width n
  isDigit _ member := isDigit_of_mem_paddedNumeral member

/-- Beats and their hundredths are digits at every instant that has a local time. -/
theorem isNumeral_beats {system : System} {instant : Instant} {whole fraction : Text}
    (counted : beats system instant = .ok (whole, fraction)) :
    IsNumeral whole ∧ IsNumeral fraction := by
  rw [beats] at counted
  cases located : system.localTime beatsZone instant with
  | error fault =>
      rw [located] at counted
      cases counted
  | ok time =>
      rw [located] at counted
      obtain ⟨rfl, rfl⟩ := Prod.mk.inj (Except.ok.inj counted)
      exact ⟨isNumeral_paddedNumeral 3 _, isNumeral_paddedNumeral 2 _⟩

namespace Beats

/-- The pass over a pattern: an escaped newline becomes a newline, a run of `b` the beats, a run of
`s` the hundredths, and every other character is copied. -/
def onePass (whole fraction : Text) : Text → Text
  | [] => []
  | '\\' :: 'n' :: rest => '\n' :: onePass whole fraction rest
  | c :: rest =>
      if c = 'b' then whole ++ onePass whole fraction (rest.dropWhile (· = 'b'))
      else if c = 's' then fraction ++ onePass whole fraction (rest.dropWhile (· = 's'))
      else c :: onePass whole fraction rest
termination_by pattern => pattern.length
decreasing_by
  · exact Nat.lt_succ_of_lt (Nat.lt_succ_self _)
  · exact Nat.lt_succ_of_le (List.dropWhile_suffix _).length_le
  · exact Nat.lt_succ_of_le (List.dropWhile_suffix _).length_le
  · exact Nat.lt_succ_self _

variable {whole fraction : Text}

/-- **The three stages together are one pass.** -/
theorem fill_eq_onePass (beats : IsNumeral whole) (pattern : Text) :
    fill whole fraction pattern = onePass whole fraction pattern := by
  fun_induction onePass whole fraction pattern with
  | case1 => rfl
  | case2 rest ih =>
      rw [← ih, fill, expandNewlines, replaceRuns_cons_ne (by decide),
        replaceRuns_cons_ne (by decide)]
      rfl
  | case3 rest unescaped ih =>
      rw [← ih, fill, expandNewlines_cons (by decide), replaceRuns_run,
        dropWhile_expandNewlines (by decide) (by decide),
        replaceRuns_append_of_notMem (beats.notMem (by decide))]
      rfl
  | case4 rest unescaped other ih =>
      rw [← ih, fill, expandNewlines_cons (by decide), replaceRuns_cons_ne (by decide),
        replaceRuns_run, dropWhile_replaceRuns (by decide) beats.ne_nil (beats.notMem (by decide)),
        dropWhile_expandNewlines (by decide) (by decide)]
      rfl
  | case5 c rest unescaped notB notS ih =>
      rw [← ih, fill, expandNewlines, replaceRuns_cons_ne notB, replaceRuns_cons_ne notS]
      · rfl
      · exact unescaped

/-- The letters that the pass replaces are not in its result. -/
theorem notMem_onePass (beats : IsNumeral whole) (hundredths : IsNumeral fraction)
    (pattern : Text) :
    'b' ∉ onePass whole fraction pattern ∧ 's' ∉ onePass whole fraction pattern := by
  fun_induction onePass whole fraction pattern with
  | case1 => exact ⟨List.not_mem_nil, List.not_mem_nil⟩
  | case2 rest ih => simpa using ih
  | case3 rest unescaped ih =>
      simpa [List.mem_append, beats.notMem] using ih
  | case4 rest unescaped other ih =>
      simpa [List.mem_append, hundredths.notMem] using ih
  | case5 c rest unescaped notB notS ih =>
      simpa [Ne.symm notB, Ne.symm notS] using ih

/-- A result starts with an `n` only where the pattern does. -/
theorem head?_onePass (beats : IsNumeral whole) (hundredths : IsNumeral fraction)
    {pattern : Text} (starts : (onePass whole fraction pattern).head? = some 'n') :
    pattern.head? = some 'n' := by
  revert starts
  fun_cases onePass whole fraction pattern with
  | case1 => exact nofun
  | case2 rest => exact fun newline => absurd (Option.some.inj newline) (by decide)
  | case3 rest => exact fun starts => absurd starts (beats.head?_append_ne (by decide) _)
  | case4 rest => exact fun starts => absurd starts (hundredths.head?_append_ne (by decide) _)
  | case5 c rest => exact id

theorem not_hasEscape_onePass (beats : IsNumeral whole) (hundredths : IsNumeral fraction)
    (pattern : Text) : ¬ HasEscape (onePass whole fraction pattern) := by
  fun_induction onePass whole fraction pattern with
  | case1 => simp [HasEscape]
  | case2 rest ih =>
      rw [hasEscape_cons_iff]
      rintro (⟨newline, -⟩ | escape)
      · exact absurd newline (by decide)
      · exact ih escape
  | case3 rest unescaped ih =>
      rwa [hasEscape_append_iff (beats.notMem (by decide))]
  | case4 rest unescaped other ih =>
      rwa [hasEscape_append_iff (hundredths.notMem (by decide))]
  | case5 c rest unescaped notB notS ih =>
      rw [hasEscape_cons_iff]
      rintro (⟨rfl, starts⟩ | escape)
      · obtain ⟨more, rfl⟩ := List.head?_eq_some_iff.mp (head?_onePass beats hundredths starts)
        exact unescaped more rfl rfl
      · exact ih escape

/-- **Beats are put in by one pass, which leaves nothing to do.**  Where an instant has beats, a
pattern is rendered as the pass rewrites it with these beats.  The result has no `b`, no `s` and
no escaped newline, and rendering it at the same instant gives it back. -/
theorem format_onePass (system : System) (pattern : Text) {instant : Instant}
    (counted : beats system instant = .ok (whole, fraction)) :
    let text := onePass whole fraction pattern
    format system pattern instant = .ok text ∧ 'b' ∉ text ∧ 's' ∉ text ∧ ¬ HasEscape text ∧
      format system text instant = .ok text := by
  intro text
  obtain ⟨numeral, numeral'⟩ := isNumeral_beats counted
  have filled (pattern : Text) :
      format system pattern instant = .ok (fill whole fraction pattern) := by
    rw [format, counted]
  obtain ⟨noB, noS⟩ := notMem_onePass numeral numeral' pattern
  have noEscape := not_hasEscape_onePass numeral numeral' pattern
  have settled : fill whole fraction text = text := by
    rw [fill, expandNewlines_eq_self noEscape, replaceRuns_eq_self noB, replaceRuns_eq_self noS]
  refine ⟨?_, noB, noS, noEscape, ?_⟩
  · rw [filled, fill_eq_onePass numeral]
  · rw [filled, settled]

/-- A doubled backslash is no escape for a newline, and runs on both sides of a newline that is
expanded stay apart. -/
theorem format_onePass_noon :
    let noon : Instant := .aware (.atOffset (.ofFields ⟨2023, 4, 7⟩ 11 0 0 0) 0)
    beats .standard noon = .ok ("500", "00") ∧
      format .standard "\\\\nbb\\nb@ss" noon = .ok "\\\n500\n500@00" ∧
      format .standard "\\\n500\n500@00" noon = .ok "\\\n500\n500@00" := by
  intro noon
  have counted : beats .standard noon = .ok ("500", "00") := by decide +kernel
  obtain ⟨rendered, -, -, -, again⟩ := format_onePass .standard "\\\\nbb\\nb@ss" counted
  have passed : onePass "500" "00" "\\\\nbb\\nb@ss" = "\\\n500\n500@00" := by
    simp [onePass]
  rw [passed] at rendered again
  exact ⟨counted, rendered, again⟩

end Beats

end PanelClock
