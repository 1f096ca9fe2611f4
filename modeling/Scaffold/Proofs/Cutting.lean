import Mathlib.Data.List.Infix
import Scaffold.Proofs.Ordered
import Scaffold.Proofs.Rendering

/-! Where a body is cut for rendering. Whatever the tokens are, a text has one exact cut into literal
text and tokens: each token is the longest one that begins where it stands, and none begins inside of
literal text, not even one that would reach beyond it. The cut knows nothing of what is bound to the
tokens. Rendering puts the bound texts in the places of the tokens and leaves the literal text. -/
namespace Scaffold.Template

variable {tokens others : List (List Char)} {bound bound' : List Substitution}
  {token other literal literal' rest rest' cs replacement : List Char} {c : Char}

/-! ## Exact cuts -/

/-- A token that is not empty begins a text. -/
def Begins (tokens : List (List Char)) (token cs : List Char) : Prop :=
  token ∈ tokens ∧ token ≠ [] ∧ token <+: cs

/-- A token begins a text, and no longer one does. -/
def BeginsLongest (tokens : List (List Char)) (token cs : List Char) : Prop :=
  Begins tokens token cs ∧ ∀ other, Begins tokens other cs → other.length ≤ token.length

/-- No token begins inside of some literal text, with what follows it. -/
def Bare (tokens : List (List Char)) (literal rest : List Char) : Prop :=
  ∀ front back, literal = front ++ back → back ≠ [] → ∀ token, ¬ Begins tokens token (back ++ rest)

/-- A text in parts: literal text with a token behind it as often as there is one, and the literal text
at the end. -/
inductive Cut where
  | last (literal : List Char)
  | part (literal token : List Char) (rest : Cut)

namespace Cut

/-- The text that is cut. -/
def text : Cut → List Char
  | last literal => literal
  | part literal token rest => literal ++ (token ++ rest.text)

/-- The text with what is bound to each token in its place. -/
def filled (bound : List Substitution) : Cut → List Char
  | last literal => literal
  | part literal token rest => literal ++ ((bound.lookup token).getD token ++ rest.filled bound)

/-- Every token is the longest one where it stands, and no literal text has one. -/
def Exact (tokens : List (List Char)) : Cut → Prop
  | last literal => Bare tokens literal []
  | part literal token rest => Bare tokens literal (token ++ rest.text) ∧
    BeginsLongest tokens token (token ++ rest.text) ∧ rest.Exact tokens

/-- A cut with one more character in front. -/
def behind (c : Char) : Cut → Cut
  | last literal => last (c :: literal)
  | part literal token rest => part (c :: literal) token rest

private theorem text_behind (c : Char) (cut : Cut) : (cut.behind c).text = c :: cut.text := by
  cases cut <;> rfl

private theorem filled_behind (bound : List Substitution) (c : Char) (cut : Cut) :
    (cut.behind c).filled bound = c :: cut.filled bound := by
  cases cut <;> rfl

end Cut

private theorem bare_nil (tokens : List (List Char)) (rest : List Char) : Bare tokens [] rest := by
  intro front back split some
  obtain ⟨-, rfl⟩ := List.append_eq_nil_iff.mp split.symm
  exact absurd rfl some

/-- Literal text stays literal behind a character at which no token begins. -/
theorem Bare.cons (none : ∀ token, ¬ Begins tokens token (c :: literal ++ rest))
    (bare : Bare tokens literal rest) : Bare tokens (c :: literal) rest := by
  intro front back split some
  rcases front with _ | ⟨d, front⟩
  · obtain rfl : c :: literal = back := split
    exact none
  · obtain ⟨-, split⟩ := List.cons.inj split
    exact bare front back split some

theorem Cut.Exact.behind {cut : Cut} (none : ∀ token, ¬ Begins tokens token (c :: cut.text))
    (exact_ : cut.Exact tokens) : (cut.behind c).Exact tokens := by
  cases cut with
  | last literal =>
    refine Bare.cons ?_ exact_
    rwa [List.append_nil]
  | part literal token rest => exact ⟨exact_.1.cons none, exact_.2⟩

/-! ## There is one exact cut at most -/

/-- Where a token begins, literal text of another cut ends at the latest. -/
theorem Bare.length_le (bare : Bare tokens literal' rest') (begins : Begins tokens token rest)
    (same : literal ++ rest = literal' ++ rest') : literal'.length ≤ literal.length := by
  by_contra longer
  rcases List.append_eq_append_iff.mp same with ⟨more, split, follows⟩ | ⟨more, split, -⟩
  · have some : more ≠ [] := by
      rintro rfl
      simp [split] at longer
    exact bare literal more split some token (follows ▸ begins)
  · simp [split] at longer

theorem Cut.Exact.unique {cut cut' : Cut} (exact_ : cut.Exact tokens) (exact' : cut'.Exact tokens)
    (same : cut.text = cut'.text) : cut = cut' := by
  -- Literal text at the end leaves no room for a token.
  have ends : ∀ {literal front token back}, Bare tokens literal [] →
      Begins tokens token (token ++ back) → literal ≠ front ++ (token ++ back) := by
    intro literal front token back bare begins same
    have short := bare.length_le begins (same.symm.trans (List.append_nil literal).symm)
    have long := List.length_pos_iff.mpr begins.2.1
    rw [same, List.length_append, List.length_append] at short
    omega
  induction cut generalizing cut' with
  | last literal =>
    cases cut' with
    | last => exact congrArg Cut.last same
    | part => exact absurd same (ends exact_ exact'.2.1.1)
  | part literal token rest ih =>
    cases cut' with
    | last => exact absurd same.symm (ends exact' exact_.2.1.1)
    | part literal' token' rest' =>
      obtain ⟨bare, longest, onward⟩ := exact_
      obtain ⟨bare', longest', onward'⟩ := exact'
      have literals := (bare.length_le longest'.1 same.symm).antisymm (bare'.length_le longest.1 same)
      obtain ⟨rfl, behind⟩ := List.append_inj same literals
      rw [← behind] at longest'
      have lengths := (longest'.2 _ longest.1).antisymm (longest.2 _ longest'.1)
      obtain ⟨rfl, texts⟩ := List.append_inj behind lengths
      rw [ih onward onward' texts]

/-! ## The longest token -/

/-- The longest of some tokens is one of them, and none of them is longer. -/
theorem foldl_longer_spec {found : Option Substitution} {more : List Substitution}
    {longest : Substitution} (folded : more.foldl longer found = some longest) :
    longest ∈ found.toList ++ more ∧
      ∀ known ∈ found.toList ++ more, known.1.length ≤ longest.1.length := by
  induction more generalizing found with
  | nil =>
    obtain rfl : found = some longest := folded
    simp
  | cons next rest ih =>
    obtain ⟨among, most⟩ := ih folded
    cases found with
    | none => exact ⟨among, most⟩
    | some first =>
      by_cases shorter : first.1.length < next.1.length
      · simp only [longer, shorter, if_true] at among most
        refine ⟨List.mem_cons_of_mem _ among, fun known member => ?_⟩
        rcases List.mem_cons.mp member with rfl | member
        · exact shorter.le.trans (most next List.mem_cons_self)
        · exact most known member
      · simp only [longer, shorter, if_false] at among most
        refine ⟨?_, fun known member => ?_⟩
        · rcases List.mem_cons.mp among with rfl | later
          · exact List.mem_cons_self
          · exact List.mem_cons_of_mem _ (List.mem_cons_of_mem _ later)
        · rcases List.mem_cons.mp member with rfl | member
          · exact most _ List.mem_cons_self
          · rcases List.mem_cons.mp member with rfl | later
            · exact (Nat.le_of_not_lt shorter).trans (most first List.mem_cons_self)
            · exact most known (List.mem_cons_of_mem _ later)

/-- The tokens that are bound. -/
def tokensOf (bound : List Substitution) : List (List Char) :=
  bound.map (·.1)

/-- The substitutions among which the longest is looked for are those whose tokens begin the text. -/
theorem begins_iff : Begins (tokensOf bound) token cs ↔
    ∃ text, (token, text) ∈ bound.filter fun b => !b.1.isEmpty && b.1.isPrefixOf cs := by
  simp [Begins, tokensOf, List.isPrefixOf_iff_prefix]

theorem not_begins_of_longestAt? (none : longestAt? bound cs = none) (token : List Char) :
    ¬ Begins (tokensOf bound) token cs := by
  rw [begins_iff]
  rintro ⟨text, member⟩
  unfold longestAt? at none
  generalize bound.filter _ = held at none member
  cases held with
  | nil => cases member
  | cons first rest =>
    have some : ∀ (more : List Substitution) (found : Substitution),
        more.foldl longer (.some found) ≠ Option.none := by
      intro more
      induction more with
      | nil => simp
      | cons next rest ih =>
        intro found
        rw [List.foldl_cons, longer]
        split <;> exact ih _
    exact some rest first none

theorem beginsLongest_of_longestAt? (found : longestAt? bound cs = some (token, replacement)) :
    BeginsLongest (tokensOf bound) token cs ∧ (token, replacement) ∈ bound := by
  obtain ⟨among, most⟩ := foldl_longer_spec found
  refine ⟨⟨begins_iff.mpr ⟨replacement, among⟩, fun other begins => ?_⟩, List.mem_of_mem_filter among⟩
  obtain ⟨text, member⟩ := begins_iff.mp begins
  exact most _ member

/-! ## Rendering by the exact cut -/

/-- Every text has an exact cut, and what is rendered is the filled cut. -/
theorem exists_exact (distinct : (tokensOf bound).Nodup) (cs : List Char) :
    ∃ cut : Cut, cut.text = cs ∧ cut.Exact (tokensOf bound) ∧
      renderAfter bound 0 cs = cut.filled bound := by
  induction size : cs.length using Nat.strong_induction_on generalizing cs with
  | _ length ih =>
  cases cs with
  | nil => exact ⟨.last [], rfl, bare_nil _ _, rfl⟩
  | cons c rest =>
    cases found : longestAt? bound (c :: rest) with
    | none =>
      obtain ⟨cut, rfl, exact_, rendered⟩ := ih rest.length (by simp [← size]) rest rfl
      refine ⟨cut.behind c, cut.text_behind c, exact_.behind (not_begins_of_longestAt? found), ?_⟩
      rw [renderAfter, found, cut.filled_behind, ← rendered]
    | some substitution =>
      obtain ⟨token, replacement⟩ := substitution
      obtain ⟨longest, member⟩ := beginsLongest_of_longestAt? found
      obtain ⟨-, some, behind, split⟩ := longest.1
      obtain ⟨d, more, rfl⟩ := List.exists_cons_of_ne_nil some
      obtain ⟨rfl, rfl⟩ := List.cons.inj split
      have shorter : behind.length < length := by
        rw [← size]
        change behind.length < (more ++ behind).length + 1
        rw [List.length_append]
        omega
      obtain ⟨cut, rfl, exact_, rendered⟩ := ih behind.length shorter behind rfl
      refine ⟨.part [] (d :: more) cut, rfl, ⟨bare_nil _ _, longest, exact_⟩, ?_⟩
      rw [renderAfter, found, Cut.filled, Data.lookup_of_mem distinct member, ← rendered]
      exact congrArg (replacement ++ ·) (renderAfter_length bound more cut.text)

/-- Which cuts are exact depends on which tokens there are, the empty one aside. -/
theorem Cut.exact_congr (same : ∀ token ≠ [], token ∈ others ↔ token ∈ tokens) (cut : Cut) :
    cut.Exact others ↔ cut.Exact tokens := by
  have begins : ∀ token cs, Begins others token cs ↔ Begins tokens token cs := by
    intro token cs
    unfold Begins
    constructor
    · rintro ⟨member, some, starts⟩
      exact ⟨(same token some).mp member, some, starts⟩
    · rintro ⟨member, some, starts⟩
      exact ⟨(same token some).mpr member, some, starts⟩
  induction cut with
  | last => simp only [Exact, Bare, begins]
  | part _ _ _ ih => simp only [Exact, Bare, BeginsLongest, begins, ih]

/-- What fills an exact cut depends on what is bound to the tokens that are not empty. -/
theorem Cut.Exact.filled_congr {cut : Cut} (exact_ : cut.Exact tokens)
    (same : ∀ token ≠ [], bound'.lookup token = bound.lookup token) :
    cut.filled bound' = cut.filled bound := by
  induction cut with
  | last => rfl
  | part literal token rest ih =>
    obtain ⟨-, longest, onward⟩ := exact_
    rw [Cut.filled, Cut.filled, same token longest.1.2.1, ih onward]

/-- What is rendered depends on nothing but the texts that are bound to tokens that are not empty. -/
theorem renderAfter_congr (distinct : (tokensOf bound).Nodup) (distinct' : (tokensOf bound').Nodup)
    (same : ∀ token ≠ [], ∀ text, (token, text) ∈ bound' ↔ (token, text) ∈ bound) (cs : List Char) :
    renderAfter bound' 0 cs = renderAfter bound 0 cs := by
  have tokens : ∀ token ≠ [], token ∈ tokensOf bound' ↔ token ∈ tokensOf bound := by
    intro token some
    simp [tokensOf, same token some]
  have lookups : ∀ token ≠ [], bound'.lookup token = bound.lookup token := by
    intro token some
    refine Option.ext fun text => ?_
    constructor
    · exact fun found =>
        Data.lookup_of_mem distinct ((same token some text).mp (Data.mem_of_lookup found))
    · exact fun found =>
        Data.lookup_of_mem distinct' ((same token some text).mpr (Data.mem_of_lookup found))
  obtain ⟨cut, split, exact_, rendered⟩ := exists_exact distinct cs
  obtain ⟨cut', split', exact', rendered'⟩ := exists_exact distinct' cs
  obtain rfl := exact_.unique ((cut'.exact_congr tokens).mp exact') (split.trans split'.symm)
  rw [rendered, rendered', exact_.filled_congr lookups]

/-- The bindings of a map bind each token once. -/
theorem nodup_substitutions {bindings : Bindings} (distinct : (bindings.map (·.1)).Nodup) :
    (tokensOf bindings.substitutions).Nodup := by
  have spelled : tokensOf bindings.substitutions = (bindings.map (·.1)).map String.toList := by
    simp [tokensOf, Bindings.substitutions]
  rw [spelled]
  exact distinct.map fun _ _ same => String.toList_injective same

/-- A body has one exact cut at the tokens that are bound, and rendering fills it: each token with the
text that is bound to it, which is not read again. The empty token never counts, and the order of the
bindings does not matter. -/
theorem render_fills_exact_cut (body : String) (bindings : Bindings)
    (distinct : (bindings.map (·.1)).Nodup) :
    (∃! cut : Cut, cut.text = body.toList ∧ cut.Exact (tokensOf bindings.substitutions)) ∧
    (∀ cut : Cut, cut.text = body.toList → cut.Exact (tokensOf bindings.substitutions) →
      (render body bindings).toList = cut.filled bindings.substitutions) ∧
    render body (bindings.filter (·.1 ≠ "")) = render body bindings ∧
    ∀ others : Bindings, others.Perm bindings → render body others = render body bindings := by
  have nodup := nodup_substitutions distinct
  have congr : ∀ others : Bindings, (others.map (·.1)).Nodup →
      (∀ entry : String × String, entry.1 ≠ "" → (entry ∈ others ↔ entry ∈ bindings)) →
      render body others = render body bindings := by
    intro others distinct' same
    refine congrArg String.ofList (renderAfter_congr nodup (nodup_substitutions distinct') ?_ _)
    intro token some text
    simp only [Bindings.substitutions, List.mem_map, Prod.mk.injEq, Prod.exists]
    constructor
    · rintro ⟨name, value, member, rfl, rfl⟩
      exact ⟨name, value, (same _ (by simpa using some)).mp member, rfl, rfl⟩
    · rintro ⟨name, value, member, rfl, rfl⟩
      exact ⟨name, value, (same _ (by simpa using some)).mpr member, rfl, rfl⟩
  obtain ⟨cut, split, exact_, rendered⟩ := exists_exact nodup body.toList
  have one : ∀ other : Cut, other.text = body.toList →
      other.Exact (tokensOf bindings.substitutions) → other = cut :=
    fun other split' exact' => exact'.unique exact_ (split'.trans split.symm)
  refine ⟨⟨cut, ⟨split, exact_⟩, fun other h => one other h.1 h.2⟩, fun other split' exact' => ?_,
    congr _ ?_ fun entry some => by simp [some],
    fun others shuffled => congr _ ?_ fun entry _ => shuffled.mem_iff⟩
  · rw [one other split' exact', render, String.toList_ofList, rendered]
  · exact distinct.sublist (List.filter_sublist.map _)
  · exact (shuffled.map _).nodup_iff.mpr distinct

/-- Bindings in which tokens begin and overlap each other, and one is empty. -/
def overlapping : Bindings :=
  [("a", "<ab>"), ("", "!"), ("ab", "a"), ("b.", "$")]

/-- Of tokens that overlap, the longest at the first place counts, also when another one would begin
inside of it. -/
theorem render_fills_exact_cut_overlapping :
    (overlapping.map (·.1)).Nodup ∧
      (∃! cut : Cut, cut.text = "aabab.".toList ∧ cut.Exact (tokensOf overlapping.substitutions)) ∧
      render "aabab." overlapping.reverse = "<ab>aa." := by
  have distinct : (overlapping.map (·.1)).Nodup := by decide
  obtain ⟨one, -, -, shuffled⟩ := render_fills_exact_cut "aabab." overlapping distinct
  refine ⟨distinct, one, (shuffled _ (List.reverse_perm _)).trans ?_⟩
  decide +kernel

end Scaffold.Template
