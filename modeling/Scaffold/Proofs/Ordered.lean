import Mathlib.Data.List.Nodup
import Scaffold.Data.Ordered

/-! Maps with an order, by what is found at their keys. With different keys, what a map finds is what
is listed in it, whatever the order. -/
namespace Scaffold.Data

variable {α β : Type} [BEq α] [LawfulBEq α] {key : α} {value : β} {map base entries : List (α × β)}

/-! ## Putting -/

theorem lookup_put [DecidableEq α] (key probe : α) (value : β) (map : List (α × β)) :
    (put key value map).lookup probe = if probe = key then some value else map.lookup probe := by
  induction map with
  | nil =>
    by_cases same : probe = key
    · simp [put, same]
    · have unlike : (probe == key) = false := beq_eq_false_iff_ne.mpr same
      simp [put, List.lookup_cons, unlike, same]
  | cons entry rest ih =>
    obtain ⟨known, held⟩ := entry
    by_cases found : known = key
    · subst found
      rw [put, if_pos (by simp), List.lookup_cons, List.lookup_cons]
      by_cases same : probe = known
      · simp [same]
      · have unlike : (probe == known) = false := beq_eq_false_iff_ne.mpr same
        simp [unlike, same]
    · rw [put, if_neg (by simpa using found), List.lookup_cons, List.lookup_cons, ih]
      by_cases same : probe = known
      · simp [same, found]
      · simp [beq_eq_false_iff_ne.mpr same]

/-- A key that is new goes to the end. -/
theorem put_of_new (new : ∀ entry ∈ map, entry.1 ≠ key) (value : β) :
    put key value map = map ++ [(key, value)] := by
  induction map with
  | nil => rfl
  | cons entry rest ih =>
    have other : entry.1 ≠ key := new entry List.mem_cons_self
    rw [put, if_neg (by simpa using other), ih fun known member =>
      new known (List.mem_cons_of_mem _ member)]
    rfl

/-- Putting what is found at a key changes nothing. -/
theorem put_of_lookup (found : map.lookup key = some value) : put key value map = map := by
  induction map with
  | nil => cases found
  | cons entry rest ih =>
    obtain ⟨known, held⟩ := entry
    rw [List.lookup_cons] at found
    by_cases same : known = key
    · subst same
      simp only [beq_self_eq_true, Option.some.injEq] at found
      simp [put, found]
    · have unlike : (key == known) = false := beq_eq_false_iff_ne.mpr (Ne.symm same)
      rw [unlike] at found
      rw [put, if_neg (by simpa using same), ih found]

/-- Entries with different keys, none of which is there yet, go to the end as they are. -/
theorem putAll_append (distinct : ((base ++ entries).map (·.1)).Nodup) :
    putAll base entries = base ++ entries := by
  induction entries generalizing base with
  | nil => simp [putAll]
  | cons entry rest ih =>
    have new : ∀ known ∈ base, known.1 ≠ entry.1 := by
      intro known member same
      rw [List.map_append, List.nodup_append] at distinct
      exact distinct.2.2 known.1 (List.mem_map.mpr ⟨known, member, rfl⟩) entry.1 List.mem_cons_self
        same
    have onward : putAll base (entry :: rest) = putAll (base ++ [entry]) rest := by
      rw [putAll, List.foldl_cons, put_of_new new entry.2]
      rfl
    rw [onward, ih (by simpa using distinct), List.append_assoc, List.singleton_append]

theorem putAll_of_nodup (distinct : (entries.map (·.1)).Nodup) : putAll [] entries = entries :=
  putAll_append (by simpa using distinct)

/-! ## Looking up -/

theorem mem_of_lookup (found : entries.lookup key = some value) : (key, value) ∈ entries := by
  obtain ⟨before, after, split, -⟩ := List.lookup_eq_some_iff.mp found
  rw [split]
  exact List.mem_append_right _ List.mem_cons_self

theorem lookup_of_mem (distinct : (entries.map (·.1)).Nodup) (member : (key, value) ∈ entries) :
    entries.lookup key = some value := by
  induction entries with
  | nil => cases member
  | cons entry rest ih =>
    rw [List.map_cons, List.nodup_cons] at distinct
    rcases List.mem_cons.mp member with rfl | member
    · rw [List.lookup_cons, beq_self_eq_true]
    · have unlike : key ≠ entry.1 := by
        rintro rfl
        exact distinct.1 (List.mem_map.mpr ⟨_, member, rfl⟩)
      rw [List.lookup_cons, beq_eq_false_iff_ne.mpr unlike]
      exact ih distinct.2 member

end Scaffold.Data
