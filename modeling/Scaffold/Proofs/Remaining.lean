import Scaffold.Proofs.Cutting

/-! Which placeholders are left when a body is rendered. A reader looks for placeholders in the finished
text; the report on what was not filled looks at the body instead. Both find the same where braces are
kept apart: where two of them open nothing, a space follows, and no text that is filled in brings a brace
of its own. Then no two braces meet that did not stand together in the body. -/
namespace Scaffold.Template

variable {bound : List Substitution} {token cs rest text : List Char} {c : Char}

/-! ## Reading placeholders -/

/-- What is read at the start of a text is a placeholder that the text begins with, and the only one. -/
theorem placeholderAt?_eq_some_iff :
    placeholderAt? cs = some token ↔ IsPlaceholder token ∧ token <+: cs := by
  constructor
  · intro found
    unfold placeholderAt? at found
    split at found
    · rename_i first rest
      split at found
      · rename_i opens
        split at found
        · rename_i later closing
          cases found
          have goes := List.all_eq_true.mp (List.all_takeWhile (l := rest) (p := isNamePart))
          have whole : rest.takeWhile isNamePart ++ '\x7d' :: '\x7d' :: later = rest :=
            closing ▸ List.takeWhile_append_dropWhile
          refine ⟨⟨first, _, opens, goes, rfl⟩, later, ?_⟩
          rw [List.append_assoc, List.cons_append, List.cons_append, List.cons_append]
          exact congrArg ('\x7b' :: '\x7b' :: first :: ·) whole
        · cases found
      · cases found
    · cases found
  · rintro ⟨written, rest, rfl⟩
    exact placeholderAt?_append written rest

instance : DecidablePred IsPlaceholder := fun token =>
  decidable_of_iff (placeholderAt? token = some token)
    (placeholderAt?_eq_some_iff.trans (and_iff_left List.prefix_rfl))

/-- The placeholders that are found in a text are those that occur in it. -/
theorem mem_placeholderList_iff :
    token ∈ placeholderList cs ↔ IsPlaceholder token ∧ token <:+: cs := by
  induction cs with
  | nil =>
    constructor
    · exact fun member => absurd member List.not_mem_nil
    · rintro ⟨⟨first, more, -, -, rfl⟩, occurs⟩
      simp at occurs
  | cons c rest ih =>
    rw [List.infix_cons_iff, and_or_left, ← placeholderAt?_eq_some_iff, ← ih, placeholderList]
    cases placeholderAt? (c :: rest) with
    | none => simp
    | some found => simp [eq_comm]

/-- Nothing is read in a text that opens no placeholder, whatever follows it. -/
theorem placeholderList_quiet (quiet : isQuiet cs = true) (rest : List Char) :
    placeholderList (cs ++ rest) = placeholderList rest := by
  induction cs with
  | nil => rfl
  | cons c cs ih =>
    obtain ⟨starts, later⟩ := Bool.and_eq_true_iff.mp quiet
    have unmarked := placeholderAt?_of_startsQuiet starts rest
    rw [List.cons_append] at unmarked
    rw [List.cons_append, placeholderList, unmarked]
    exact ih later

/-- A text without an opening brace opens no placeholder. -/
theorem isQuiet_of_braceless (braceless : '\x7b' ∉ cs) : isQuiet cs = true := by
  induction cs with
  | nil => rfl
  | cons c rest ih =>
    obtain ⟨other, onward⟩ := List.ne_and_not_mem_of_not_mem_cons braceless
    have starts : startsQuiet (c :: rest) = true := by
      unfold startsQuiet
      split
      · rename_i same
        exact absurd (List.cons.inj same).1.symm other
      · rfl
    rw [isQuiet, starts, ih onward, Bool.and_self]

/-- Behind its first brace a placeholder opens no other one. -/
theorem IsPlaceholder.tail (written : IsPlaceholder token) :
    ∃ inner, token = '\x7b' :: inner ∧ isQuiet inner = true := by
  obtain ⟨first, more, opens, goes, rfl⟩ := written
  have real : ∀ c, isNamePart c = true → c ≠ '\x7b' := by
    rintro c part rfl
    exact absurd part (by decide)
  have firstPart : isNamePart first = true := by simp [isNamePart, opens]
  have braceless : '\x7b' ∉ first :: more ++ ['\x7d', '\x7d'] := by
    intro member
    simp only [List.cons_append, List.mem_cons, List.mem_append, List.not_mem_nil, or_false] at member
    rcases member with same | member | same | same
    · exact real first firstPart same.symm
    · exact real _ (goes _ member) rfl
    · exact absurd same (by decide)
    · exact absurd same (by decide)
  refine ⟨'\x7b' :: (first :: more ++ ['\x7d', '\x7d']), rfl, ?_⟩
  rw [isQuiet, isQuiet_of_braceless braceless, Bool.and_true]
  simp [startsQuiet, real first firstPart]

/-- A placeholder is read where it stands, and nothing inside of it. -/
theorem placeholderList_token (written : IsPlaceholder token) (rest : List Char) :
    placeholderList (token ++ rest) = token :: placeholderList rest := by
  obtain ⟨inner, same, quiet⟩ := written.tail
  have found := placeholderAt?_append written rest
  rw [same, List.cons_append] at found ⊢
  rw [placeholderList, found, placeholderList_quiet quiet]

/-! ## Reading a body and what it becomes -/

/-- Wherever two braces do not open a placeholder, a space follows them. -/
def Orderly (cs : List Char) : Prop :=
  ∀ front rest, cs = front ++ '\x7b' :: '\x7b' :: rest →
    (∃ token, IsPlaceholder token ∧ token <+: '\x7b' :: '\x7b' :: rest) ∨ ∃ more, rest = ' ' :: more

theorem Orderly.behind {front : List Char} (orderly : Orderly (front ++ cs)) : Orderly cs := by
  rintro before rest rfl
  exact orderly (front ++ before) rest (List.append_assoc ..).symm

/-- Whether a body is orderly can be seen by reading at each of its places. -/
theorem orderly_iff : Orderly cs ↔ ∀ back ∈ cs.tails, ['\x7b', '\x7b'] <+: back →
    (placeholderAt? back).isSome ∨ ['\x7b', '\x7b', ' '] <+: back := by
  simp only [List.mem_tails, Option.isSome_iff_exists, placeholderAt?_eq_some_iff]
  constructor
  · rintro orderly _ ⟨front, split⟩ ⟨rest, rfl⟩
    refine (orderly front rest split.symm).imp id ?_
    rintro ⟨more, rfl⟩
    exact ⟨more, rfl⟩
  · rintro reads front rest rfl
    refine (reads _ ⟨front, rfl⟩ ⟨rest, rfl⟩).imp id ?_
    rintro ⟨more, same⟩
    exact ⟨more, (List.cons.inj (List.cons.inj same).2).2.symm⟩

instance : DecidablePred Orderly := fun _ => decidable_of_iff _ orderly_iff.symm

/-- A character at which no placeholder begins in an orderly body begins none in what the body becomes
either. -/
theorem startsQuiet_rendered (marked : Marked bound) (orderly : Orderly (c :: rest))
    (unmarked : placeholderAt? (c :: rest) = none) :
    placeholderAt? (c :: renderAfter bound 0 rest) = none := by
  -- Only an opening brace needs a look, and one or two characters behind it tell enough.
  by_cases brace : c = '\x7b'
  · subst brace
    rcases rest with _ | ⟨d, more⟩
    · rfl
    by_cases second : d = '\x7b'
    · subst second
      obtain ⟨later, rfl⟩ : ∃ later, more = ' ' :: later := by
        refine (orderly [] more rfl).resolve_left ?_
        rintro ⟨token, written, starts⟩
        rw [placeholderAt?_eq_some_iff.mpr ⟨written, starts⟩] at unmarked
        cases unmarked
      have quiet : isQuiet ['\x7b', ' '] = true := by decide
      have starts : startsQuiet ['\x7b', '\x7b', ' '] = true := by decide
      have kept := renderAfter_quiet marked quiet later
      rw [List.cons_append, List.cons_append, List.nil_append] at kept
      rw [kept]
      exact placeholderAt?_of_startsQuiet starts _
    · have quiet : isQuiet [d] = true :=
        isQuiet_of_braceless fun member => second (List.mem_singleton.mp member).symm
      have starts : startsQuiet ['\x7b', d] = true := by simp [startsQuiet, second]
      have kept := renderAfter_quiet marked quiet more
      rw [List.singleton_append] at kept
      rw [kept]
      exact placeholderAt?_of_startsQuiet starts _
  · have starts : startsQuiet [c] = true := by
      unfold startsQuiet
      split
      · rename_i same
        exact absurd (List.cons.inj same).1 brace
      · rfl
    exact placeholderAt?_of_startsQuiet starts _

/-- What is read in the finished text is what is read in the body, less what was filled. -/
theorem placeholderList_rendered (marked : Marked bound)
    (braceless : ∀ substitution ∈ bound, '\x7b' ∉ substitution.2) (orderly : Orderly cs) :
    placeholderList (renderAfter bound 0 cs) =
      (placeholderList cs).filter fun token => token ∉ tokensOf bound := by
  -- Both readers take a whole placeholder at a time, or one character outside of them.
  induction size : cs.length using Nat.strong_induction_on generalizing cs with
  | _ length ih =>
  cases cs with
  | nil => rfl
  | cons c rest =>
    cases read : placeholderAt? (c :: rest) with
    | some token =>
      obtain ⟨written, behind, split⟩ := placeholderAt?_eq_some_iff.mp read
      obtain ⟨inner, spelled, quiet⟩ := written.tail
      have fewer : behind.length < length := by
        rw [← size, ← split, spelled, List.length_append, List.length_cons]
        omega
      have onward := ih _ fewer (split ▸ orderly : Orderly (token ++ behind)).behind rfl
      rw [← split, placeholderList_token written, List.filter_cons]
      subst spelled
      cases found : longestAt? bound ('\x7b' :: inner ++ behind) with
      | some substitution =>
        obtain ⟨other, text⟩ := substitution
        obtain ⟨⟨⟨-, -, starts⟩, -⟩, member⟩ := beginsLongest_of_longestAt? found
        obtain rfl := (marked _ member).eq_of_begins written starts
        have filled : '\x7b' :: inner ∈ tokensOf bound := List.mem_map_of_mem member
        rw [List.cons_append] at found ⊢
        rw [if_neg (by simp [filled]), ← onward, renderAfter, found]
        change placeholderList (text ++ renderAfter bound inner.length (inner ++ behind)) = _
        rw [renderAfter_length, placeholderList_quiet (isQuiet_of_braceless (braceless _ member))]
      | none =>
        have free : '\x7b' :: inner ∉ tokensOf bound := fun member =>
          not_begins_of_longestAt? found _ ⟨member, List.cons_ne_nil _ _, List.prefix_append _ _⟩
        rw [List.cons_append] at found ⊢
        rw [if_pos (by simp [free]), ← onward, renderAfter, found]
        simp only [renderAfter_quiet marked quiet]
        exact placeholderList_token written _
    | none =>
      have later : Orderly rest := @Orderly.behind rest [c] orderly
      have onward := ih rest.length (by simp [← size]) later rfl
      rw [renderAfter, longestAt?_of_unmarked marked read, placeholderList, placeholderList, read,
        startsQuiet_rendered marked orderly read]
      exact onward

/-! ## Each once, in the order of first appearance -/

/-- Leaving some members out and leaving out repeated ones can be done in either order. -/
theorem eraseDups_filter {α : Type} [BEq α] [LawfulBEq α] (keep : α → Bool) (members : List α) :
    (members.filter keep).eraseDups = members.eraseDups.filter keep := by
  induction size : members.length using Nat.strong_induction_on generalizing members with
  | _ length ih =>
  cases members with
  | nil => rfl
  | cons first rest =>
    have fewer : (rest.filter fun other => !other == first).length < length := by
      rw [← size]
      exact Nat.lt_succ_of_le (List.length_filter_le _ _)
    have onward := ih _ fewer _ rfl
    rw [List.eraseDups_cons, List.filter_cons, List.filter_cons, ← onward]
    by_cases kept : keep first = true
    · rw [if_pos kept, if_pos kept, List.eraseDups_cons, List.filter_filter, List.filter_filter]
      simp only [Bool.and_comm]
    · rw [if_neg kept, if_neg kept, List.filter_filter]
      congr 1
      refine List.filter_congr fun other _ => ?_
      by_cases same : other = first
      · simp [same, kept]
      · simp [same]

theorem nodup_eraseDups {α : Type} [BEq α] [LawfulBEq α] (members : List α) :
    members.eraseDups.Nodup := by
  induction size : members.length using Nat.strong_induction_on generalizing members with
  | _ length ih =>
  cases members with
  | nil => exact List.nodup_nil
  | cons first rest =>
    have fewer : (rest.filter fun other => !other == first).length < length := by
      rw [← size]
      exact Nat.lt_succ_of_le (List.length_filter_le _ _)
    rw [List.eraseDups_cons, List.nodup_cons]
    exact ⟨by simp [List.mem_eraseDups], ih _ fewer _ rfl⟩

private theorem binds_iff (bindings : Bindings) (token : List Char) :
    bindings.binds (String.ofList token) = true ↔ token ∈ tokensOf bindings.substitutions := by
  simp only [Bindings.binds, tokensOf, Bindings.substitutions, List.any_eq_true, beq_iff_eq,
    List.map_map, List.mem_map]
  constructor
  · rintro ⟨binding, member, same⟩
    exact ⟨binding, member, by simp [same]⟩
  · rintro ⟨binding, member, rfl⟩
    exact ⟨binding, member, by simp⟩

/-- The placeholders of a body that no binding fills, as they are read. -/
theorem unbound_eq (body : String) (bindings : Bindings) :
    unbound body bindings = (((placeholderList body.toList).filter fun token =>
      token ∉ tokensOf bindings.substitutions).eraseDups).map String.ofList := by
  have same : (fun name => !bindings.binds name) ∘ String.ofList =
      fun token => decide (token ∉ tokensOf bindings.substitutions) := by
    funext token
    rw [Bool.eq_iff_iff, Function.comp_apply, Bool.not_eq_true', Bool.eq_false_iff, ne_eq, binds_iff,
      decide_eq_true_iff]
  rw [unbound, placeholders, List.filter_map, same, eraseDups_filter]

/-- In an orderly body, whatever is bound to placeholders without bringing in a brace, the placeholders
that are left when the body is rendered are those that are reported as unbound: the same ones, each
once, in the order in which they first come. -/
theorem placeholders_render (body : String) (bindings : Bindings) (orderly : Orderly body.toList)
    (written : ∀ binding ∈ bindings, IsPlaceholder binding.1.toList)
    (braceless : ∀ binding ∈ bindings, '\x7b' ∉ binding.2.toList) :
    placeholders (render body bindings) = unbound body bindings ∧ (unbound body bindings).Nodup ∧
    ∀ name : String, name ∈ unbound body bindings ↔
      IsPlaceholder name.toList ∧ name.toList <:+: (render body bindings).toList := by
  have marked : Marked bindings.substitutions := by
    intro substitution member
    obtain ⟨binding, among, rfl⟩ := List.mem_map.mp member
    exact written binding among
  have bare : ∀ substitution ∈ bindings.substitutions, '\x7b' ∉ substitution.2 := by
    intro substitution member
    obtain ⟨binding, among, rfl⟩ := List.mem_map.mp member
    exact braceless binding among
  have left := placeholderList_rendered marked bare orderly
  have same : placeholders (render body bindings) = unbound body bindings := by
    rw [unbound_eq, ← left, placeholders, render, String.toList_ofList]
  refine ⟨same, ?_, fun name => ?_⟩
  · rw [unbound_eq]
    exact (nodup_eraseDups _).map fun _ _ alike => String.ofList_injective alike
  · rw [← same, placeholders, ← mem_placeholderList_iff, List.mem_map]
    constructor
    · rintro ⟨token, member, rfl⟩
      rw [String.toList_ofList]
      exact List.mem_eraseDups.mp member
    · exact fun member => ⟨name.toList, List.mem_eraseDups.mpr member, String.ofList_toList⟩

/-- Braces that open nothing, a placeholder that is filled with nothing, and one that is left twice. -/
def wanting : String :=
  "\x7b\x7ba\x7d\x7d\x7b\x7b a\x7d\x7d\x7b\x7bb-1\x7d\x7d\x7b \x7b\x7bb-1\x7d\x7d\x7b\x7ba\x7d\x7d"

theorem placeholders_render_wanting :
    Orderly wanting.toList ∧
      placeholders (render wanting [("\x7b\x7ba\x7d\x7d", "")]) = ["\x7b\x7bb-1\x7d\x7d"] := by
  have orderly : Orderly wanting.toList := by decide +kernel
  have left := placeholders_render wanting [("\x7b\x7ba\x7d\x7d", "")] orderly
    (by decide +kernel) (by decide +kernel)
  refine ⟨orderly, left.1.trans ?_⟩
  decide +kernel

end Scaffold.Template
