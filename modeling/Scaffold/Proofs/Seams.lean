import Scaffold.Proofs.Cutting

/-! Rendering at the seam of two texts. Reading goes from left to right and takes the longest token, so
what is found at a place depends on what follows it, but on no more than a token's length of that. Where
no token reaches over the seam, the second text has no say in what becomes of the first one, and reading
comes to the seam with nothing left to leave out. -/
namespace Scaffold.Template

variable {bound : List Substitution} {front back token : List Char} {c : Char}

/-- A token occurs in two texts in a row so that it begins in the first one and ends in the second. -/
def Straddles (front back token : List Char) : Prop :=
  ∃ before inside beyond after, front = before ++ inside ∧ back = beyond ++ after ∧
    inside ≠ [] ∧ beyond ≠ [] ∧ token = inside ++ beyond

/-- A token straddles the seam when some of it ends the first text and the rest of it begins the second. -/
theorem straddles_iff : Straddles front back token ↔ ∃ count < token.length,
    count ≠ 0 ∧ token.take count <:+ front ∧ token.drop count <+: back := by
  constructor
  · rintro ⟨before, inside, beyond, after, rfl, rfl, some, more, rfl⟩
    refine ⟨inside.length, ?_, by simpa using some, ?_, ?_⟩
    · have := List.length_pos_iff.mpr more
      rw [List.length_append]
      omega
    · rw [List.take_left]
      exact List.suffix_append ..
    · rw [List.drop_left]
      exact List.prefix_append ..
  · rintro ⟨count, short, some, ⟨before, ends⟩, after, begins⟩
    refine ⟨before, _, _, after, ends.symm, begins.symm, ?_, ?_, (List.take_append_drop ..).symm⟩
    · rw [ne_eq, List.take_eq_nil_iff, not_or]
      exact ⟨some, by rintro rfl; simp at short⟩
    · rw [ne_eq, List.drop_eq_nil_iff]
      omega

instance : Decidable (Straddles front back token) := decidable_of_iff _ straddles_iff.symm

/-- What reaches over the seam from later on does so from here. -/
theorem Straddles.behind (more : List Char) (straddles : Straddles front back token) :
    Straddles (more ++ front) back token := by
  obtain ⟨before, inside, beyond, after, rfl, behind⟩ := straddles
  exact ⟨more ++ before, inside, beyond, after, (List.append_assoc ..).symm, behind⟩

/-- A token that begins a text with more behind it ends in that text, or reaches over the seam. -/
theorem isPrefixOf_append_of_apart (apart : ¬ Straddles (c :: front) back token) :
    token.isPrefixOf (c :: front ++ back) = token.isPrefixOf (c :: front) := by
  rw [Bool.eq_iff_iff, List.isPrefixOf_iff_prefix, List.isPrefixOf_iff_prefix]
  constructor
  · rintro ⟨after, split⟩
    rcases List.append_eq_append_iff.mp split with ⟨rest, same, -⟩ | ⟨beyond, same, follows⟩
    · exact ⟨rest, same.symm⟩
    · by_cases ends : beyond = []
      · exact ⟨[], by simp [same, ends]⟩
      · exact absurd ⟨[], c :: front, beyond, after, rfl, follows, List.cons_ne_nil _ _, ends, same⟩
          apart
  · exact fun starts => starts.trans (List.prefix_append _ _)

private theorem longestAt?_append
    (apart : ∀ token ∈ tokensOf bound, ¬ Straddles (c :: front) back token) :
    longestAt? bound (c :: front ++ back) = longestAt? bound (c :: front) := by
  have same : ∀ b ∈ bound, (!b.1.isEmpty && b.1.isPrefixOf (c :: front ++ back)) =
      (!b.1.isEmpty && b.1.isPrefixOf (c :: front)) := by
    intro b member
    rw [isPrefixOf_append_of_apart (apart b.1 (List.mem_map_of_mem member))]
  rw [longestAt?, longestAt?, List.filter_congr same]

/-- Two texts in a row are rendered one after the other when no token reaches over the seam. -/
theorem renderAfter_append (apart : ∀ token ∈ tokensOf bound, ¬ Straddles front back token) :
    renderAfter bound 0 (front ++ back) = renderAfter bound 0 front ++ renderAfter bound 0 back := by
  -- A token that is found leaves a shorter text, but not the next shorter one.
  induction size : front.length using Nat.strong_induction_on generalizing front with
  | _ length ih =>
  cases front with
  | nil => rfl
  | cons c rest =>
    have seen := longestAt?_append apart
    rw [List.cons_append] at seen ⊢
    rw [renderAfter, renderAfter, seen]
    cases found : longestAt? bound (c :: rest) with
    | none =>
      have onward := ih rest.length (by simp [← size])
        (fun token member straddles => apart token member (straddles.behind [c])) rfl
      simp only [onward, List.cons_append]
    | some substitution =>
      obtain ⟨token, text⟩ := substitution
      obtain ⟨⟨⟨-, some, behind, split⟩, -⟩, -⟩ := beginsLongest_of_longestAt? found
      obtain ⟨d, more, rfl⟩ := List.exists_cons_of_ne_nil some
      obtain ⟨rfl, rfl⟩ := List.cons.inj split
      have shorter : behind.length < length := by
        rw [← size]
        change behind.length < (more ++ behind).length + 1
        rw [List.length_append]
        omega
      have onward := ih behind.length shorter
        (fun token member straddles => apart token member (straddles.behind (d :: more))) rfl
      have skipped := renderAfter_length bound more
      change text ++ renderAfter bound more.length (more ++ behind ++ back) =
        text ++ renderAfter bound more.length (more ++ behind) ++ renderAfter bound 0 back
      rw [List.append_assoc more, skipped, skipped, onward, List.append_assoc text]

/-- Rendering is local. When no bound token begins in one body and ends in the next, both are rendered
as each of them is on its own. -/
theorem render_append (front back : String) (bindings : Bindings)
    (apart : ∀ binding ∈ bindings, ¬ Straddles front.toList back.toList binding.1.toList) :
    render (front ++ back) bindings = render front bindings ++ render back bindings := by
  have each : ∀ token ∈ tokensOf bindings.substitutions,
      ¬ Straddles front.toList back.toList token := by
    intro token member
    simp only [tokensOf, Bindings.substitutions, List.map_map, List.mem_map] at member
    obtain ⟨binding, among, rfl⟩ := member
    exact apart binding among
  rw [render, String.toList_append, renderAfter_append each, String.ofList_append]
  rfl

/-- No token reaches over this seam, although one that is found before it could have been cut short and
one behind it could have begun earlier. -/
theorem render_append_overlapping :
    (∀ binding ∈ overlapping, ¬ Straddles "aab".toList "b.a".toList binding.1.toList) ∧
      render ("aab" ++ "b.a") overlapping = "<ab>a" ++ "$<ab>" := by
  have apart : ∀ binding ∈ overlapping, ¬ Straddles "aab".toList "b.a".toList binding.1.toList := by
    decide +kernel
  refine ⟨apart, (render_append "aab" "b.a" overlapping apart).trans ?_⟩
  decide +kernel

example : render ("a" ++ "b") overlapping ≠ render "a" overlapping ++ render "b" overlapping := by
  decide

end Scaffold.Template
