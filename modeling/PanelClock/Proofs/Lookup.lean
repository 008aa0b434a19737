import Mathlib.Data.List.Nodup

/-!
# Looking up in a list of entries

Shared formatters, the runs of a skeleton and the variants of a registry are kept in
lists of entries.  Where no key stands twice, looking up a key finds an entry exactly
when the entry is a member (`lookup_eq_some_iff_mem`), so the order of the entries does
not matter (`lookup_eq_of_perm`).
-/

set_option autoImplicit false

namespace PanelClock

/-- With distinct keys, a member is the only entry under its key. -/
theorem filter_key_eq_singleton {κ α : Type} [DecidableEq κ] {entries : List (κ × α)}
    (nodup : (entries.map Prod.fst).Nodup) {key : κ} {value : α}
    (member : (key, value) ∈ entries) : entries.filter (·.1 = key) = [(key, value)] := by
  obtain ⟨before, after, rfl⟩ := List.append_of_mem member
  rw [List.map_append, List.map_cons] at nodup
  have fresh := List.nodup_middle.mp nodup
  rw [List.nodup_cons, ← List.map_append] at fresh
  have others : (before ++ after).filter (·.1 = key) = [] := by
    rw [List.filter_eq_nil_iff]
    intro entry among
    rw [decide_eq_true_eq]
    rintro rfl
    exact fresh.1 (List.mem_map.mpr ⟨entry, among, rfl⟩)
  rw [List.filter_append, List.append_eq_nil_iff] at others
  rw [List.filter_append, List.filter_cons_of_pos (by simp), others.1, others.2, List.nil_append]

variable {κ α : Type} [BEq κ] [LawfulBEq κ]

/-- The first entry is found under its own key. -/
theorem lookup_cons_eq_ite [DecidableEq κ] (key : κ) (entry : κ × α) (rest : List (κ × α)) :
    (entry :: rest).lookup key = if entry.1 = key then some entry.2 else rest.lookup key := by
  obtain ⟨other, value⟩ := entry
  rw [List.lookup_cons]
  by_cases same : other = key
  · simp [same]
  · simp [same, beq_eq_false_iff_ne.mpr (Ne.symm same)]

/-- Nothing is found under the keys that no entry has, and only there. -/
theorem lookup_eq_none_iff_notMem {key : κ} {entries : List (κ × α)} :
    entries.lookup key = none ↔ key ∉ entries.map Prod.fst := by
  rw [List.lookup_eq_none_iff]
  simp only [bne_iff_ne, List.mem_map, not_exists, not_and]
  exact forall₂_congr fun entry _ => ne_comm

/-- There is no entry exactly where nothing is found under any key. -/
theorem eq_nil_iff_lookup_eq_none {entries : List (κ × α)} :
    entries = [] ↔ ∀ key, entries.lookup key = none := by
  simp only [lookup_eq_none_iff_notMem, ← List.eq_nil_iff_forall_not_mem, List.map_eq_nil_iff]

/-- Something is found under exactly the keys that an entry has. -/
theorem isSome_lookup_iff_mem {key : κ} {entries : List (κ × α)} :
    (entries.lookup key).isSome ↔ key ∈ entries.map Prod.fst := by
  rw [← not_iff_not, Option.not_isSome_iff_eq_none, lookup_eq_none_iff_notMem]

/-- **With distinct keys, what is found is what is a member.** -/
theorem lookup_eq_some_iff_mem {entries : List (κ × α)} (nodup : (entries.map Prod.fst).Nodup)
    {key : κ} {value : α} : entries.lookup key = some value ↔ (key, value) ∈ entries := by
  induction entries with
  | nil => simp
  | cons entry entries ih =>
      obtain ⟨fresh, later⟩ := List.nodup_cons.mp nodup
      obtain ⟨other, first⟩ := entry
      by_cases same : key = other
      · subst same
        rw [List.lookup_cons_self]
        constructor
        · rintro ⟨⟩
          exact List.mem_cons_self
        · intro member
          rcases List.mem_cons.mp member with here | there
          · cases here
            rfl
          · exact absurd (List.mem_map_of_mem (f := Prod.fst) there) fresh
      · simp [List.lookup_cons, beq_eq_false_iff_ne.mpr same, ih later, same]

/-- Entries in another order are found alike. -/
theorem lookup_eq_of_perm {first second : List (κ × α)} (nodup : (first.map Prod.fst).Nodup)
    (permuted : first.Perm second) (key : κ) : first.lookup key = second.lookup key := by
  have nodup' : (second.map Prod.fst).Nodup := (permuted.map Prod.fst).nodup_iff.mp nodup
  refine Option.ext fun value => ?_
  rw [lookup_eq_some_iff_mem nodup, lookup_eq_some_iff_mem nodup', permuted.mem_iff]

end PanelClock
