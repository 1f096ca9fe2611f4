import Scaffold.Template.Library
import Scaffold.Template.Render

/-! What comes of a template whose own text never opens a placeholder: its text as it is, and in the
place of each hole what fills it. Whatever a filling holds, even text that looks like a token, comes
out as it went in. All standard templates are of this kind. -/
namespace Scaffold.Template

open Schema

variable {hole other : Hole} {filling : Filling} {bound : List Substitution} {cs rest : List Char}

/-! ## Placeholders -/

section

variable {token : List Char}

/-- A name between double braces, as it is written. -/
def IsPlaceholder (token : List Char) : Prop :=
  ∃ first more, isNameStart first = true ∧ (∀ c ∈ more, isNamePart c = true) ∧
    token = '\x7b' :: '\x7b' :: first :: more ++ ['\x7d', '\x7d']

/-- A placeholder is read as one, whatever follows it. -/
theorem placeholderAt?_append (written : IsPlaceholder token) (rest : List Char) :
    placeholderAt? (token ++ rest) = some token := by
  obtain ⟨first, more, opens, goes, rfl⟩ := written
  have closed : isNamePart '\x7d' = false := by decide
  simp only [List.cons_append, List.append_assoc, List.nil_append, placeholderAt?, opens,
    ↓reduceIte, List.dropWhile_append_of_pos goes, List.takeWhile_append_of_pos goes,
    List.dropWhile_cons, List.takeWhile_cons, closed, Bool.false_eq_true, List.append_nil]

/-- Where no placeholder begins, no token that is one does. -/
theorem isPrefixOf_of_unmarked (written : IsPlaceholder token) (unmarked : placeholderAt? cs = none) :
    token.isPrefixOf cs = false := by
  rw [Bool.eq_false_iff]
  intro starts
  obtain ⟨rest, rfl⟩ := List.isPrefixOf_iff_prefix.mp starts
  rw [placeholderAt?_append written] at unmarked
  cases unmarked

/-- No placeholder begins with another one. -/
theorem IsPlaceholder.eq_of_begins (written : IsPlaceholder token) (written' : IsPlaceholder cs)
    (starts : token <+: cs ++ rest) : token = cs := by
  obtain ⟨more, same⟩ := starts
  have read := placeholderAt?_append written more
  rw [same, placeholderAt?_append written'] at read
  exact (Option.some.inj read).symm

end

/-! ## Holes -/

namespace Hole

def all : List Hole :=
  [.modelName, .tableName, .routeName, .modelNamePlural, .modelNameLowerCase,
   .modelNamePluralLowerCase, .modelTitle, .modelTitlePlural, .modelView, .modelModule,
   .modelNamespace, .controllerNamespace, .layout, .primaryKey, .viewExtension, .viewsDir, .columns,
   .fillable, .rules, .softDeletesImport, .softDeletes, .tableHeader, .tableBody, .viewRows, .form,
   .title, .column, .controllerQualifiedName]

/-- The hole that a word names. -/
def ofName? (word : String) : Option Hole :=
  all.find? (·.name == word)

/-- Every hole is found again under its own name. -/
theorem ofName?_name (hole : Hole) : ofName? hole.name = some hole := by
  cases hole <;> decide

theorem name_injective : Function.Injective name := by
  intro hole other same
  have found := ofName?_name hole
  rw [same, ofName?_name] at found
  exact (Option.some.inj found).symm

private theorem token_toList (hole : Hole) :
    hole.token.toList = '\x7b' :: '\x7b' :: hole.name.toList ++ ['\x7d', '\x7d'] := by
  simp [Hole.token, Template.token, String.toList_append]

private theorem token_injective : Function.Injective token := by
  intro hole other same
  have lists := congrArg String.toList same
  rw [token_toList, token_toList] at lists
  simp only [List.cons_append, List.cons.injEq, true_and, List.append_cancel_right_eq] at lists
  exact name_injective (String.toList_injective lists)

/-- What is written for a hole is a placeholder. -/
theorem isPlaceholder (hole : Hole) : IsPlaceholder hole.token.toList := by
  have spelled : ∃ first more, hole.name.toList = first :: more ∧ isNameStart first = true ∧
      more.all isNamePart = true := by
    cases hole <;> exact ⟨_, _, rfl, by decide, by decide⟩
  obtain ⟨first, more, name, opens, goes⟩ := spelled
  exact ⟨first, more, opens, List.all_eq_true.mp goes, by rw [token_toList, name]⟩

end Hole

/-- No token of a hole begins with that of another one. -/
theorem token_isPrefixOf_token (hole other : Hole) (rest : List Char) :
    hole.token.toList.isPrefixOf (other.token.toList ++ rest) = decide (hole = other) := by
  rw [Bool.eq_iff_iff, List.isPrefixOf_iff_prefix, decide_eq_true_iff]
  constructor
  · intro starts
    have same := hole.isPlaceholder.eq_of_begins other.isPlaceholder starts
    exact Hole.token_injective (String.toList_injective same)
  · rintro rfl
    exact List.prefix_append ..

theorem lookup_bindings (filling : Filling) (hole : Hole) :
    filling.bindings.lookup hole.token = filling.lookup hole := by
  induction filling with
  | nil => rfl
  | cons entry rest ih =>
    change List.lookup hole.token ((entry.1.token, entry.2) :: Filling.bindings rest) = _
    rw [List.lookup_cons, List.lookup_cons, ih]
    by_cases same : hole = entry.1
    · simp [same]
    · have unlike : hole.token ≠ entry.1.token := fun tokens => same (Hole.token_injective tokens)
      rw [beq_eq_false_iff_ne.mpr same, beq_eq_false_iff_ne.mpr unlike]

/-! ## Text that opens nothing -/

/-- Whether a text opens no placeholder at its start, whatever follows it. -/
def startsQuiet : List Char → Bool
  | '\x7b' :: rest =>
    match rest with
    | [] => false
    | c :: more => c != '\x7b' || more.head?.any fun d => !isNameStart d
  | _ => true

/-- Whether a text opens no placeholder anywhere, whatever follows it. -/
def isQuiet : List Char → Bool
  | [] => true
  | c :: rest => startsQuiet (c :: rest) && isQuiet rest

/-- Whether no text of a body opens a placeholder. -/
def Body.isQuiet (body : Body) : Bool :=
  body.all fun
    | .text s => Template.isQuiet s.toList
    | .hole _ => true

private theorem isQuiet_of_ofList {s : String} {cs : List Char} (spelled : s = String.ofList cs)
    (quiet : isQuiet cs = true) : isQuiet s.toList = true := by
  rw [spelled, String.toList_ofList, quiet]

namespace Body

@[simp] theorem isQuiet_nil : isQuiet [] = true := rfl

@[simp] theorem isQuiet_text (s : String) (body : Body) :
    isQuiet (.text s :: body) = (Template.isQuiet s.toList && body.isQuiet) := rfl

@[simp] theorem isQuiet_hole (hole : Hole) (body : Body) :
    isQuiet (.hole hole :: body) = body.isQuiet := rfl

@[simp] theorem isQuiet_append (front back : Body) :
    isQuiet (front ++ back) = (front.isQuiet && back.isQuiet) :=
  List.all_append

private theorem isQuiet_lineEnd : isQuiet [.text "\n"] = true := by
  rw [isQuiet_text, isQuiet_nil, Bool.and_true]
  exact isQuiet_of_ofList rfl (by decide)

@[simp] theorem isQuiet_endedLines (lines : List Body) :
    (endedLines lines).isQuiet = lines.all isQuiet := by
  induction lines with
  | nil => rfl
  | cons line rest ih =>
    change isQuiet (line ++ [.text "\n"] ++ endedLines rest) = _
    rw [isQuiet_append, isQuiet_append, isQuiet_lineEnd, ih, Bool.and_true, List.all_cons]

@[simp] theorem isQuiet_joinedLines (lines : List Body) :
    (joinedLines lines).isQuiet = lines.all isQuiet := by
  induction lines with
  | nil => rfl
  | cons line rest ih =>
    cases rest with
    | nil => simp [joinedLines]
    | cons next more =>
      have parted : joinedLines (line :: next :: more) =
          line ++ ([.text "\n"] ++ joinedLines (next :: more)) := by simp [joinedLines]
      rw [parted, isQuiet_append, isQuiet_append, isQuiet_lineEnd, ih, Bool.true_and]
      rfl

end Body

/-- The standard templates hold no placeholders but their holes. -/
theorem standardBodies_isQuiet : ∀ entry ∈ standardBodies, entry.2.isQuiet = true := by
  open Standard in
  -- The texts are compared as lists of characters, since decoding them in the kernel is slow.
  simp only [standardBodies, FieldKind.all, List.map_cons, List.map_nil, List.cons_append,
    List.nil_append, List.forall_mem_cons, List.not_mem_nil, false_implies, implies_true, inputBody,
    controller, imports, formFunctions, rowFunction, listHandler, createHandler, storeHandler,
    showHandler, editHandler, updateHandler, destroyHandler, model, indexView, indexHead, indexRows,
    createView, editView, formView, showView, layoutView, headField, cellField, viewField, textInput,
    textareaInput, numberInput, booleanInput, dateInput, datetimeInput, timeInput, fileInput,
    Body.isQuiet_append, Body.isQuiet_endedLines, Body.isQuiet_joinedLines, List.all_cons,
    List.all_nil, Body.isQuiet_text, Body.isQuiet_hole, Body.isQuiet_nil, Bool.and_eq_true,
    Bool.and_true, and_true, true_and]
  repeat' apply And.intro
  all_goals exact isQuiet_of_ofList rfl (by decide)

theorem placeholderAt?_of_startsQuiet {c : Char} {cs : List Char}
    (quiet : startsQuiet (c :: cs) = true) (rest : List Char) :
    placeholderAt? (c :: cs ++ rest) = none := by
  by_cases brace : c = '\x7b'
  · subst brace
    match cs, quiet with
    | d :: more, quiet =>
      by_cases second : d = '\x7b'
      · subst second
        match more, quiet with
        | e :: later, quiet =>
          have ends : isNameStart e = false := by simpa [startsQuiet] using quiet
          simp [placeholderAt?, ends]
      · simp [placeholderAt?, second]
  · unfold placeholderAt?
    split
    · rename_i same
      exact absurd (List.cons.inj same).1 brace
    · rfl

/-! ## Rendering piece by piece -/

private theorem mem_substitutions {substitution : Substitution}
    (member : substitution ∈ filling.bindings.substitutions) :
    ∃ hole : Hole, substitution.1 = hole.token.toList := by
  simp only [Bindings.substitutions, Filling.bindings, List.map_map, List.mem_map] at member
  obtain ⟨entry, -, rfl⟩ := member
  exact ⟨entry.1, rfl⟩

/-- All that is bound is bound to placeholders. -/
def Marked (bound : List Substitution) : Prop :=
  ∀ substitution ∈ bound, IsPlaceholder substitution.1

theorem Filling.marked (filling : Filling) : Marked filling.bindings.substitutions := by
  intro substitution member
  obtain ⟨hole, written⟩ := mem_substitutions member
  exact written ▸ hole.isPlaceholder

theorem longestAt?_of_unmarked (marked : Marked bound) (unmarked : placeholderAt? cs = none) :
    longestAt? bound cs = none := by
  have none : (bound.filter fun b => !b.1.isEmpty && b.1.isPrefixOf cs) = [] := by
    rw [List.filter_eq_nil_iff]
    intro substitution member
    simp [isPrefixOf_of_unmarked (marked substitution member) unmarked]
  rw [longestAt?, none]
  rfl

/-- Of tokens of one length the first one counts. -/
theorem foldl_longer {found : Substitution} {more : List Substitution}
    (alike : ∀ next ∈ more, next.1 = found.1) : more.foldl longer (some found) = some found := by
  induction more with
  | nil => rfl
  | cons next rest ih =>
    have same := alike next List.mem_cons_self
    rw [List.foldl_cons, longer, same, if_neg (Nat.lt_irrefl _)]
    exact ih fun later member => alike later (List.mem_cons_of_mem _ member)

private theorem longestAt?_token (filling : Filling) (hole : Hole) (rest : List Char) :
    longestAt? filling.bindings.substitutions (hole.token.toList ++ rest) =
      (filling.lookup hole).map fun text => (hole.token.toList, text.toList) := by
  have filled : ∀ known : Hole, (!known.token.toList.isEmpty &&
      known.token.toList.isPrefixOf (hole.token.toList ++ rest)) = decide (known = hole) := by
    intro known
    rw [token_isPrefixOf_token, Hole.token_toList]
    rfl
  induction filling with
  | nil => rfl
  | cons entry more ih =>
    obtain ⟨known, text⟩ := entry
    change List.foldl longer none (List.filter _ ((known.token.toList, text.toList) ::
      (Filling.bindings more).substitutions)) = _
    rw [List.filter_cons, List.lookup_cons]
    simp only [filled, decide_eq_true_eq]
    by_cases same : known = hole
    · subst same
      rw [if_pos rfl, List.foldl_cons, beq_self_eq_true]
      refine foldl_longer fun next member => ?_
      obtain ⟨among, starts⟩ := List.mem_filter.mp member
      obtain ⟨found, written⟩ := mem_substitutions among
      rw [written, filled, decide_eq_true_iff] at starts
      rw [written, starts]
    · rw [if_neg same, beq_eq_false_iff_ne.mpr (Ne.symm same)]
      exact ih

theorem renderAfter_length (bound : List Substitution) (cs rest : List Char) :
    renderAfter bound cs.length (cs ++ rest) = renderAfter bound 0 rest := by
  induction cs with
  | nil => rfl
  | cons c cs ih => exact ih

theorem renderAfter_quiet (marked : Marked bound) (quiet : isQuiet cs = true) (rest : List Char) :
    renderAfter bound 0 (cs ++ rest) = cs ++ renderAfter bound 0 rest := by
  induction cs with
  | nil => rfl
  | cons c cs ih =>
    obtain ⟨starts, later⟩ := Bool.and_eq_true_iff.mp quiet
    have unmarked := placeholderAt?_of_startsQuiet starts rest
    rw [List.cons_append] at unmarked
    rw [List.cons_append, renderAfter, longestAt?_of_unmarked marked unmarked, ih later]
    rfl

/-- What a piece of a template becomes. A hole that nothing fills stays as it is written. -/
def Piece.filled (filling : Filling) : Piece → String
  | .text s => s
  | .hole hole => (filling.lookup hole).getD hole.token

/-- What a template becomes. -/
def Body.filled (filling : Filling) (body : Body) : String :=
  String.join (body.map (Piece.filled filling))

@[simp] theorem filled_nil (filling : Filling) : Body.filled filling [] = "" := rfl

@[simp] theorem filled_cons (filling : Filling) (piece : Piece) (body : Body) :
    Body.filled filling (piece :: body) = piece.filled filling ++ body.filled filling := by
  simp [Body.filled]

@[simp] theorem filled_append (filling : Filling) (front back : Body) :
    Body.filled filling (front ++ back) = front.filled filling ++ back.filled filling := by
  simp [Body.filled, List.map_append, String.join_append]

private theorem renderAfter_token (hole : Hole) (rest : List Char) :
    renderAfter filling.bindings.substitutions 0 (hole.token.toList ++ rest) =
      (Piece.filled filling (.hole hole)).toList ++
        renderAfter filling.bindings.substitutions 0 rest := by
  have found := longestAt?_token filling hole rest
  have spelled := Hole.token_toList hole
  rw [spelled, List.cons_append, List.cons_append, List.cons_append] at found ⊢
  rw [renderAfter, found, Piece.filled]
  cases filling.lookup hole with
  | some text =>
    exact congrArg (text.toList ++ ·) (renderAfter_length _ ('\x7b' :: _ ++ ['\x7d', '\x7d']) rest)
  | none =>
    have quiet : isQuiet ('\x7b' :: hole.name.toList ++ ['\x7d', '\x7d']) = true := by
      cases hole <;> decide
    have inner := renderAfter_quiet filling.marked quiet rest
    simp only [List.cons_append] at inner
    simp only [Option.map_none, Option.getD_none, spelled, inner, List.cons_append]

/-- Rendering a template fills its holes and changes nothing else. -/
theorem render_written {body : Body} (quiet : body.isQuiet = true) (filling : Filling) :
    render body.written filling.bindings = body.filled filling := by
  have each : ∀ rest : Body, Body.isQuiet rest = true →
      renderAfter filling.bindings.substitutions 0 (Body.written rest).toList =
        (rest.filled filling).toList := by
    intro rest quiet
    induction rest with
    | nil => rfl
    | cons piece rest ih =>
      rw [Body.isQuiet, List.all_cons, Bool.and_eq_true] at quiet
      have onward := ih quiet.2
      simp only [Body.written, Body.filled, List.map_cons, String.join_cons,
        String.toList_append] at onward ⊢
      cases piece with
      | text s =>
        rw [← onward]
        exact renderAfter_quiet filling.marked quiet.1 _
      | hole hole =>
        rw [← onward]
        exact renderAfter_token hole _
  rw [render, each body quiet, String.ofList_toList]

end Scaffold.Template
