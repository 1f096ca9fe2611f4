import Mathlib.Data.List.Forall2
import Scaffold.Proofs.Inputs
import Scaffold.Proofs.Names
import Scaffold.Proofs.Rendering

/-! How generated artifacts refer to each other: by module, by class, and by the name of a view. The
templates write these names, and paths are made of the same names, so that what one artifact refers to
is what the run writes. Text that fills a hole can hold anything, so what an artifact refers to is
read off the templates' own text. -/
namespace Scaffold

open Files Text

/-! ## Lines -/

namespace Text

variable {start line text : String}

/-- A text with a line that begins with another text. -/
def BeginsLine (start text : String) : Prop :=
  ∃ before after, text = before ++ start ++ after ∧ (before = "" ∨ ∃ front, before = front ++ "\n")

/-- A text with a line, ended by a line end. -/
def HasLine (line text : String) : Prop :=
  BeginsLine (line ++ "\n") text

theorem BeginsLine.of_append {more : String} (begins : BeginsLine (start ++ more) text) :
    BeginsLine start text := by
  obtain ⟨before, after, rfl, ended⟩ := begins
  exact ⟨before, more ++ after, by simp only [String.append_assoc], ended⟩

theorem HasLine.begins {more : String} (has : HasLine (start ++ more) text) :
    BeginsLine start text := by
  rw [HasLine, String.append_assoc] at has
  exact has.of_append

end Text

namespace Template

variable {filling : Filling} {front back body rest : Body} {lines : List Body} {line : Body}
  {word : String}

/-- A body that is empty or ends with a line end. -/
def Body.Ended (body : Body) : Prop :=
  body = [] ∨ ∃ front : Body, body = front ++ [.text "\n"]

theorem Body.Ended.append (first : front.Ended) (second : back.Ended) :
    Body.Ended (front ++ back) := by
  rcases second with rfl | ⟨inner, rfl⟩
  · rw [List.append_nil]
    exact first
  · exact .inr ⟨front ++ inner, (List.append_assoc ..).symm⟩

private theorem ended_endedLines (lines : List Body) : (endedLines lines).Ended := by
  induction lines with
  | nil => exact .inl rfl
  | cons line rest ih => exact .append (.inr ⟨line, rfl⟩) ih

/-- A line of a template is a line of its text, whatever fills its holes. -/
theorem hasLine_filled (ended : front.Ended) (member : line ∈ lines) (back : Body)
    (filling : Filling) :
    HasLine (line.filled filling) (Body.filled filling (front ++ endedLines lines ++ back)) := by
  obtain ⟨earlier, later, rfl⟩ := List.append_of_mem member
  have parted : endedLines (earlier ++ line :: later) =
      endedLines earlier ++ (line ++ [.text "\n"] ++ endedLines later) := by
    simp [endedLines]
  have lineEnd : Body.filled filling [.text "\n"] = "\n" := by simp [Piece.filled]
  refine ⟨Body.filled filling (front ++ endedLines earlier),
    Body.filled filling (endedLines later ++ back), ?_, ?_⟩
  · simp only [parted, filled_append, lineEnd, String.append_assoc]
  · rcases ended.append (ended_endedLines earlier) with none | ⟨inner, same⟩
    · rw [none]
      exact .inl rfl
    · rw [same, filled_append, lineEnd]
      exact .inr ⟨_, rfl⟩

/-! ## Words of a template's own text -/

/-- What follows each occurrence of a word in a text. -/
def restsAfter (word : List Char) : List Char → List (List Char)
  | [] => []
  | c :: rest =>
    if word.isPrefixOf (c :: rest) then (c :: rest).drop word.length :: restsAfter word rest
    else restsAfter word rest

/-- What follows each occurrence of a word in a template's own text. -/
def Body.after (word : String) : Body → List Body
  | [] => []
  | .hole _ :: body => Body.after word body
  | .text s :: body =>
    (restsAfter word.toList s.toList).map (fun rest => .text (String.ofList rest) :: body) ++
      Body.after word body

private theorem exists_of_mem_restsAfter {word cs rest : List Char}
    (member : rest ∈ restsAfter word cs) :
    ∃ before, cs = before ++ word ++ rest := by
  induction cs with
  | nil => cases member
  | cons c cs ih =>
    have later : rest ∈ restsAfter word cs → ∃ before, c :: cs = before ++ word ++ rest := by
      intro member
      obtain ⟨before, same⟩ := ih member
      exact ⟨c :: before, congrArg (c :: ·) same⟩
    rw [restsAfter] at member
    split at member
    · rename_i starts
      rcases List.mem_cons.mp member with rfl | member
      · obtain ⟨more, same⟩ := List.isPrefixOf_iff_prefix.mp starts
        exact ⟨[], by simp [← same]⟩
      · exact later member
    · exact later member

/-- What follows a word in a template follows it in the text that the template becomes. -/
theorem exists_of_mem_after (member : rest ∈ body.after word) (filling : Filling) :
    ∃ before, body.filled filling = before ++ word ++ rest.filled filling := by
  induction body with
  | nil => cases member
  | cons piece body ih =>
    have later : rest ∈ Body.after word body →
        ∃ before, Body.filled filling (piece :: body) = before ++ word ++ rest.filled filling := by
      intro member
      obtain ⟨before, same⟩ := ih member
      exact ⟨piece.filled filling ++ before, by simp only [filled_cons, same, String.append_assoc]⟩
    cases piece with
    | hole hole => exact later member
    | text s =>
      rcases List.mem_append.mp member with here | member
      · obtain ⟨cs, among, rfl⟩ := List.mem_map.mp here
        obtain ⟨before, same⟩ := exists_of_mem_restsAfter among
        have spelled : s = String.ofList before ++ word ++ String.ofList cs := by
          apply String.toList_injective
          simpa [String.toList_append] using same
        exact ⟨String.ofList before, by
          simp only [filled_cons, Piece.filled, spelled, String.append_assoc]⟩
      · exact later member

private theorem after_append (word : String) (front back : Body) :
    Body.after word (front ++ back) =
      (front.after word).map (· ++ back) ++ back.after word := by
  induction front with
  | nil => rfl
  | cons piece front ih =>
    cases piece with
    | hole hole => exact ih
    | text s =>
      change (restsAfter word.toList s.toList).map _ ++ Body.after word (front ++ back) = _
      rw [ih, Body.after, List.map_append, List.map_map, List.append_assoc]
      rfl

private theorem restsAfter_of_ofList {s : String} {ws cs : List Char} {rests : List (List Char)}
    (wordSpelled : word = String.ofList ws) (spelled : s = String.ofList cs)
    (found : restsAfter ws cs = rests) : restsAfter word.toList s.toList = rests := by
  rw [wordSpelled, spelled, String.toList_ofList, String.toList_ofList, found]

private theorem after_text_of_free {s : String} (free : restsAfter word.toList s.toList = []) :
    Body.after word (.text s :: body) = Body.after word body := by
  rw [Body.after, free, List.map_nil, List.nil_append]

private theorem after_text_of_once (tail : List Char) {s : String}
    (once : restsAfter word.toList s.toList = [tail]) :
    Body.after word (.text s :: body) =
      (.text (String.ofList tail) :: body) :: Body.after word body := by
  rw [Body.after, once]
  rfl

private theorem after_nil : Body.after word [] = [] := rfl

private theorem after_hole (hole : Hole) :
    Body.after word (.hole hole :: body) = Body.after word body := rfl

/-! ## Views that a controller shows -/

open Standard

/-- How a call goes on that shows a view: the request, and then the name of the view. -/
def callStart (indent view : String) : Body :=
  [.text "", .text "\n", .text (indent ++ "request,"), .text "\n", .text (indent ++ "\""),
   .hole .modelView, .text ("/" ++ view), .hole .viewExtension, .text "\","]

/-- A template whose calls show some views, in order. -/
def Body.Calls (body : Body) (views : List String) : Prop :=
  List.Forall₂ (fun rest view => ∃ indent : String, indent.toList.all (· == ' ') = true ∧
    callStart indent view <+: rest) (body.after "TemplateResponse(") views

theorem Body.Calls.append {views more : List String} (first : front.Calls views)
    (second : back.Calls more) : Body.Calls (front ++ back) (views ++ more) := by
  rw [Body.Calls, after_append]
  refine List.rel_append ?_ second
  rw [List.forall₂_map_left_iff]
  refine List.Forall₂.imp ?_ first
  rintro rest view ⟨indent, blank, starts⟩
  exact ⟨indent, blank, starts.trans (List.prefix_append ..)⟩

theorem Body.Calls.flatten {bodies : List Body} {views : List (List String)}
    (each : List.Forall₂ Body.Calls bodies views) : Body.Calls bodies.flatten views.flatten := by
  induction each with
  | nil => exact .nil
  | cons first _ ih => exact first.append ih

/-- The controller shows five views in six calls. -/
theorem controller_calls :
    controller.Calls ["index", "create", "create", "show", "edit", "edit"] := by
  have parts : List.Forall₂ Body.Calls
      [imports, formFunctions, rowFunction, listHandler, createHandler, storeHandler, showHandler,
       editHandler, updateHandler, destroyHandler]
      [[], [], [], ["index"], ["create"], ["create"], ["show"], ["edit"], ["edit"], []] := by
    -- The texts are compared as lists of characters, since decoding them in the kernel is slow.
    simp (disch := (refine restsAfter_of_ofList rfl rfl ?_; decide +kernel)) only [
      List.forall₂_cons, List.forall₂_nil_right_iff, and_true, true_and,
      Body.Calls, imports, formFunctions, rowFunction, listHandler, createHandler, storeHandler,
      showHandler, editHandler, updateHandler, destroyHandler, endedLines, List.flatMap_cons,
      List.flatMap_nil, List.cons_append, List.nil_append, List.append_nil, after_nil, after_hole,
      after_text_of_free, after_text_of_once []]
    have narrow : "            ".toList.all (· == ' ') = true := by decide +kernel
    have wide : "                ".toList.all (· == ' ') = true := by decide +kernel
    exact ⟨⟨_, narrow, _, rfl⟩, ⟨_, narrow, _, rfl⟩, ⟨_, wide, _, rfl⟩, ⟨_, narrow, _, rfl⟩,
      ⟨_, narrow, _, rfl⟩, ⟨_, wide, _, rfl⟩⟩
  have whole := Body.Calls.flatten parts
  rwa [show List.flatten _ = controller by simp [controller]] at whole

/-- How a directive goes on that puts a view in its place. -/
def includeStart (view : String) : Body :=
  [.text "\"", .hole .modelView, .text ("/" ++ view), .hole .viewExtension, .text "\" %\x7d"]

/-- Both views with a form include it once. -/
theorem forms_included : ∀ body ∈ [createView, editView],
    ∃ more, Body.after "\x7b% include " body = [includeStart "form" ++ more] := by
  simp (disch := (refine restsAfter_of_ofList rfl rfl ?_; decide)) only [
    List.forall_mem_cons, List.not_mem_nil, false_implies, implies_true, and_true, createView,
    editView, endedLines, List.flatMap_cons, List.flatMap_nil, List.cons_append, List.nil_append,
    List.append_nil, after_nil, after_hole, after_text_of_free, after_text_of_once ['"']]
  exact ⟨⟨_, rfl⟩, ⟨_, rfl⟩⟩

end Template

/-! ## Paths that names make -/

namespace Text

private theorem split_append_of_not_mem {isSeparator : Char → Bool} {separator : Char}
    {cs : List Char}
    (free : ∀ c ∈ cs, isSeparator c = false) (separates : isSeparator separator = true)
    (rest : List Char) :
    split isSeparator (cs ++ separator :: rest) = cs :: split isSeparator rest := by
  induction cs with
  | nil => rw [List.nil_append, split, if_pos separates]
  | cons c cs ih =>
    rw [List.cons_append, split, free c List.mem_cons_self,
      ih fun d among => free d (List.mem_cons_of_mem _ among)]
    rfl

end Text

namespace Files.Path

variable {base : Path} {name text : String}

/-- The last name of a path without its last ending. -/
def stem (path : Path) : String :=
  String.ofList (splitEnding path.name.toList).1

theorem startOf_of_plain {cs : List Char} (plain : cs.head? ≠ some '/') : startOf cs = .here := by
  cases cs with
  | nil => rfl
  | cons c rest =>
    have other : (c == '/') = false := by simpa using plain
    rw [startOf, List.takeWhile_cons, other]
    rfl

theorem head?_ne_of_flat (flat : '/' ∉ name.toList) : name.toList.head? ≠ some '/' :=
  fun slash => flat (List.mem_of_head? slash)

/-- A text without slashes is one name. -/
theorem ofString_of_flat (flat : '/' ∉ name.toList) (step : isStep name = true) :
    ofString name = ⟨.here, [name]⟩ := by
  have whole : split (· == '/') name.toList = [name.toList] := by
    apply split_of_not_mem
    intro c among
    simp only [beq_eq_false_iff_ne]
    rintro rfl
    exact flat among
  rw [ofString, ofChars, startOf_of_plain (head?_ne_of_flat flat), whole]
  simp [step]

/-- What stands behind a name and a slash is followed from there. -/
theorem child_child (flat : '/' ∉ name.toList) (step : isStep name = true)
    (further : text.toList.head? ≠ some '/') (base : Path) :
    (base.child name).child text = base.child (name ++ "/" ++ text) := by
  have separate : ∀ c ∈ name.toList, (c == '/') = false := by
    intro c among
    simp only [beq_eq_false_iff_ne]
    rintro rfl
    exact flat among
  have named : name.toList ≠ [] := by
    intro none
    rw [String.toList_eq_nil_iff.mp none] at step
    revert step
    decide
  have chars : (name ++ "/" ++ text).toList = name.toList ++ '/' :: text.toList := by
    simp [String.toList_append]
  have start : (name ++ "/" ++ text).toList.head? ≠ some '/' := by
    rw [chars, List.head?_append_of_ne_nil _ named]
    exact head?_ne_of_flat flat
  have joined : ofString (name ++ "/" ++ text) = ⟨.here, name :: (ofString text).names⟩ := by
    rw [ofString, ofChars, startOf_of_plain start, chars, split_append_of_not_mem separate rfl]
    simp [step, ofString, ofChars]
  have later : ofString text = ⟨.here, (ofString text).names⟩ := by
    rw [ofString, ofChars, startOf_of_plain further]
  rw [child, child, child, ofString_of_flat flat step, joined, later]
  change Path.mk base.start (base.names ++ [name] ++ _) = ⟨base.start, base.names ++ name :: _⟩
  rw [List.append_assoc, List.singleton_append]

theorem splitEnding_append {stem ending : List Char} (named : stem ≠ []) (ended : ending ≠ [])
    (undotted : '.' ∉ ending) : splitEnding (stem ++ '.' :: ending) = (stem, '.' :: ending) := by
  have last : ((stem ++ '.' :: ending).reverse.takeWhile (· != '.')).reverse = ending := by
    have free : ∀ c ∈ ending.reverse, (c != '.') = true := by
      intro c among
      rw [bne_iff_ne]
      rintro rfl
      exact undotted (List.mem_reverse.mp among)
    rw [List.reverse_append, List.reverse_cons, List.append_assoc,
      List.takeWhile_append_of_pos free]
    simp
  have first : (stem ++ '.' :: ending).take ((stem ++ '.' :: ending).length - ending.length - 1) =
      stem := by
    rw [List.length_append, List.length_cons]
    have count : stem.length + (ending.length + 1) - ending.length - 1 = stem.length := by omega
    rw [count, List.take_left]
  rw [splitEnding, last, first]
  simp [named, ended]

/-- The stem of a file whose name is spelled with one ending. -/
theorem stem_child (flat : '/' ∉ name.toList) (named : name ≠ "") (base : Path) :
    (base.child (name ++ ".py")).stem = name := by
  have chars : (name ++ ".py").toList = name.toList ++ '.' :: ['p', 'y'] := by
    simp [String.toList_append]
  have whole : '/' ∉ (name ++ ".py").toList := by
    rw [chars]
    simpa using flat
  have step : isStep (name ++ ".py") = true := by
    have long : 3 ≤ (name ++ ".py").length := by
      rw [String.length_append]
      exact Nat.le_add_left 3 _
    rw [isStep, Bool.and_eq_true, bne_iff_ne, bne_iff_ne]
    refine ⟨fun same => ?_, fun same => ?_⟩
    · rw [same] at long
      exact absurd long (by decide)
    · rw [same] at long
      exact absurd long (by decide)
  have spelled : (base.child (name ++ ".py")).name = name ++ ".py" := by
    rw [child, ofString_of_flat whole step]
    change (base.names ++ [name ++ ".py"]).getLast?.getD "" = _
    simp
  rw [stem, spelled, chars, splitEnding_append _ (by decide) (by decide), String.ofList_toList]
  exact fun none => named (String.toList_eq_nil_iff.mp none)

end Files.Path

namespace Naming

open Inflection

private theorem resolve_snake_plain (rules : RuleSet) (request : Request) :
    ∀ c ∈ (Naming.resolve rules request).snakeName.toList, isPlain c := by
  rw [Naming.resolve, Identifier.snake, String.toList_ofList]
  exact Identifier.isPlain_snakeChars _

private theorem resolve_folder_plain (rules : RuleSet) (request : Request) :
    ∀ c ∈ (Naming.resolve rules request).viewFolder.toList, isPlain c := by
  rw [Naming.resolve, Identifier.kebab, String.toList_ofList]
  intro c member
  obtain ⟨d, among, rfl⟩ := List.mem_map.mp member
  split
  · exact ⟨by decide, by decide⟩
  · exact Identifier.isPlain_snakeChars _ _ among

end Naming

namespace Config

variable {config : Config} {naming : Naming} {view name : String}

/-- The name by which other artifacts call a view. -/
def viewName (config : Config) (naming : Naming) (view : String) : String :=
  naming.viewFolder ++ "/" ++ view ++ config.viewExtension

/-- A name that leads from the directory of the views to one that a run writes. -/
def Names (config : Config) (naming : Naming) (name view : String) : Prop :=
  view ∈ Generation.viewNames ∧
    (config.resolved config.viewsDir).child name = config.viewPath naming view

/-- With one step for the folder of the views, the name of a view leads to it. -/
theorem names_viewName (plain : ∀ c ∈ naming.viewFolder.toList, isPlain c)
    (foldered : naming.viewFolder ≠ "") (member : view ∈ Generation.viewNames) :
    config.Names naming (config.viewName naming view) view := by
  have flat : '/' ∉ naming.viewFolder.toList := fun among => (plain _ among).1 rfl
  have step : Path.isStep naming.viewFolder = true := by
    rw [Path.isStep, Bool.and_eq_true, bne_iff_ne, bne_iff_ne]
    refine ⟨foldered, fun dot => ?_⟩
    exact (plain '.' (by rw [dot]; decide)).2 rfl
  have begins : ∀ view ∈ Generation.viewNames, ∃ c rest, view.toList = c :: rest ∧ c ≠ '/' := by
    intro view member
    simp only [Generation.viewNames, List.mem_cons, List.not_mem_nil, or_false] at member
    rcases member with rfl | rfl | rfl | rfl | rfl <;> exact ⟨_, _, rfl, by decide⟩
  have further : (view ++ config.viewExtension).toList.head? ≠ some '/' := by
    obtain ⟨c, rest, spelled, other⟩ := begins view member
    rw [String.toList_append, spelled]
    simpa using other
  refine ⟨member, ?_⟩
  rw [viewPath, Path.child_child flat step further, viewName, String.append_assoc,
    String.append_assoc]

end Config

/-! ## Standard templates in a session -/

namespace Template

open Schema Generation

variable {library : Library} {w : Workspace} {name : String} {body : Body} {g : Generator}
  {session : Session}

private theorem lookup_standard (name : String) :
    Library.standard.lookup name = (standardBodies.lookup name).map Body.written := by
  rw [Library.standard]
  induction standardBodies with
  | nil => rfl
  | cons entry rest ih =>
    rw [List.map_cons, List.lookup_cons, List.lookup_cons, ih]
    cases name == entry.1 <;> rfl

/-- Templates that a project has no file for are the built-in ones. -/
theorem bodyIn_standard (builtIn : library.builtIn = Library.standard)
    (own : library.file? w name = none) (found : standardBodies.lookup name = some body) :
    library.bodyIn name w = .ok body.written := by
  rw [Library.bodyIn, own, builtIn, lookup_standard, found]
  rfl

private theorem renderTemplate_standard (builtIn : g.library.builtIn = Library.standard)
    (own : ∀ name, g.library.file? session.workspace name = none)
    (found : standardBodies.lookup name = some body) (filling : Filling) :
    ((renderTemplate g name filling).run session).1 = .ok (body.filled filling) := by
  rw [(answers_renderTemplate g name filling session).1, contentIn,
    bodyIn_standard builtIn (own name) found]
  have quiet := standardBodies_isQuiet (name, body) (Data.mem_of_lookup found)
  exact congrArg Except.ok (render_written quiet filling)

/-- What fills the views adds to what all artifacts share, when nothing but built-in templates is
used. -/
theorem viewFilling_standard (builtIn : library.builtIn = Library.standard)
    (own : ∀ name, library.file? session.workspace name = none) (naming : Naming) (config : Config)
    (columns : List Column) (fields : List Field) :
    ∃ more, ((viewFilling naming config columns fields library).run session).1 =
      .ok (baseFilling naming config columns ++ more) := by
  have fragments : ∀ name ∈ ["fields/head", "fields/cell", "fields/view"] ++
      FieldKind.all.map inputName, (standardBodies.lookup name).isSome = true := by
    decide
  have there : ∀ name ∈ ["fields/head", "fields/cell", "fields/view"] ++
      FieldKind.all.map inputName, ∃ text, library.bodyIn name session.workspace = .ok text := by
    intro name member
    obtain ⟨body, found⟩ := Option.isSome_iff_exists.mp (fragments name member)
    exact ⟨_, bodyIn_standard builtIn (own name) found⟩
  obtain ⟨head, foundHead⟩ := there "fields/head" (by decide)
  obtain ⟨cell, foundCell⟩ := there "fields/cell" (by decide)
  obtain ⟨view, foundView⟩ := there "fields/view" (by decide)
  have input : ∀ kind, ∃ text, library.bodyIn (inputName kind) session.workspace = .ok text := by
    intro kind
    refine there _ (List.mem_append_right _ (List.mem_map.mpr ⟨kind, ?_, rfl⟩))
    cases kind <;> decide
  have form : ∃ inputs, inputsIn library (baseFilling naming config columns) fields
      session.workspace = .ok inputs := by
    induction fields with
    | nil => exact ⟨[], rfl⟩
    | cons field rest ih =>
      obtain ⟨text, found⟩ := input field.kind
      obtain ⟨inputs, later⟩ := ih
      rw [inputsIn] at later ⊢
      refine ⟨fragment text (baseFilling naming config columns) field :: inputs, ?_⟩
      rw [List.mapM_cons, later, found]
      rfl
  obtain ⟨inputs, made⟩ := form
  rw [(answers_viewFilling naming config columns fields library session).1]
  simp only [viewFillingIn, foundHead, foundCell, foundView, made]
  exact ⟨_, rfl⟩

end Template

/-! ## What artifacts refer to -/

namespace Generation

open Schema Template Standard

variable {g : Generator} {naming : Naming} {config : Config} {columns : List Column}
  {more : Filling} {text view : String}

/-- A text that goes on with the arguments of a call that shows a view. -/
def ShowsView (config : Config) (naming : Naming) (text view : String) : Prop :=
  ∃ indent name after, text = "\n" ++ indent ++ "request," ++ "\n" ++ indent ++ "\"" ++ name ++
    "\"," ++ after ∧ indent.toList.all (· == ' ') = true ∧ config.Names naming name view

/-- A text that goes on with the name of a view to include. -/
def IncludesView (config : Config) (naming : Naming) (text view : String) : Prop :=
  ∃ name after, text = "\"" ++ name ++ "\" %\x7d" ++ after ∧ config.Names naming name view

private theorem showsView_of_call {filling : Filling} {rest : Body} {indent : String}
    (folder : filling.lookup .modelView = some naming.viewFolder)
    (ending : filling.lookup .viewExtension = some config.viewExtension)
    (blank : indent.toList.all (· == ' ') = true) (starts : callStart indent view <+: rest)
    (leads : config.Names naming (config.viewName naming view) view) :
    ShowsView config naming (rest.filled filling) view := by
  obtain ⟨after, rfl⟩ := starts
  refine ⟨indent, config.viewName naming view, Body.filled filling after, ?_, blank, leads⟩
  simp only [callStart, List.cons_append, List.nil_append, filled_cons, Piece.filled, folder, ending,
    Option.getD_some, Config.viewName, String.empty_append, String.append_assoc]

private theorem includesView_of_start {filling : Filling} {after : Body}
    (folder : filling.lookup .modelView = some naming.viewFolder)
    (ending : filling.lookup .viewExtension = some config.viewExtension)
    (leads : config.Names naming (config.viewName naming view) view) :
    IncludesView config naming (Body.filled filling (includeStart view ++ after)) view := by
  refine ⟨config.viewName naming view, Body.filled filling after, ?_, leads⟩
  simp [includeStart, Piece.filled, folder, ending, Config.viewName, String.append_assoc]

/-- The controller imports the class of the model from the module of the model. -/
theorem controller_imports_model (naming : Naming) (config : Config) (columns : List Column) :
    HasLine ("from " ++ config.modelNamespace ++ "." ++ naming.snakeName ++ " import " ++
        naming.className)
      (Body.filled (baseFilling naming config columns) controller) := by
  have filled : Body.filled (baseFilling naming config columns)
      ["from ", Hole.modelNamespace, ".", Hole.modelModule, " import ", Hole.modelName] =
      "from " ++ config.modelNamespace ++ "." ++ naming.snakeName ++ " import " ++
        naming.className := by
    have namespaced : (baseFilling naming config columns).lookup .modelNamespace =
      some config.modelNamespace := rfl
    have module : (baseFilling naming config columns).lookup .modelModule =
      some naming.snakeName := rfl
    have named : (baseFilling naming config columns).lookup .modelName =
      some naming.className := rfl
    simp [Piece.filled, namespaced, module, named, String.append_assoc]
  obtain ⟨back, parted⟩ : ∃ back, controller = [] ++ imports ++ back :=
    ⟨_, by simp only [controller, List.append_assoc, List.nil_append]; rfl⟩
  rw [← filled, parted, imports]
  exact hasLine_filled (.inl rfl) (by simp) back _

/-- The controller declares the class that routes name. -/
theorem controller_declares_class (naming : Naming) (config : Config) (columns : List Column) :
    HasLine ("class " ++ naming.className ++ "Controller:")
      (Body.filled (baseFilling naming config columns) controller) := by
  have filled : Body.filled (baseFilling naming config columns)
      ["class ", Hole.modelName, "Controller:"] = "class " ++ naming.className ++ "Controller:" := by
    have named : (baseFilling naming config columns).lookup .modelName =
      some naming.className := rfl
    simp [Piece.filled, named, String.append_assoc]
  obtain ⟨back, parted⟩ : ∃ back,
      controller = (imports ++ formFunctions ++ rowFunction) ++ listHandler ++ back :=
    ⟨_, by simp only [controller, List.append_assoc]; rfl⟩
  have ended : Body.Ended (imports ++ formFunctions ++ rowFunction) :=
    ((ended_endedLines _).append (ended_endedLines _)).append (ended_endedLines _)
  rw [← filled, parted, listHandler]
  exact hasLine_filled ended (by simp) back _

/-- The model declares the class that the controller imports. -/
theorem model_declares_class (naming : Naming) (config : Config) (columns : List Column)
    (fields : List Field) (kinds : KindMap) :
    BeginsLine ("class " ++ naming.className ++ "(")
      (Body.filled (modelFilling naming config columns fields kinds) model) := by
  have filled : ∃ more, Body.filled (modelFilling naming config columns fields kinds)
      ["class ", Hole.modelName, "(", Hole.softDeletes, "Base):"] =
      "class " ++ naming.className ++ "(" ++ more := by
    have named : (modelFilling naming config columns fields kinds).lookup .modelName =
      some naming.className := rfl
    refine ⟨Body.filled (modelFilling naming config columns fields kinds)
      [Hole.softDeletes, "Base):"], ?_⟩
    simp only [filled_cons, Piece.filled, named, Option.getD_some, String.append_assoc]
  obtain ⟨more, filled⟩ := filled
  have whole : model = [] ++ model ++ [] := by simp
  have declared : HasLine ("class " ++ naming.className ++ "(" ++ more)
      (Body.filled (modelFilling naming config columns fields kinds) model) := by
    rw [← filled, whole, model]
    exact hasLine_filled (.inl rfl) (by simp) [] _
  exact declared.begins

/-- The standard statement names the route and the class of the controller. -/
theorem line_of_standard {style : Emission.RouteStyle}
    (standard : style.template = Config.defaultRouteTemplate) (routeName controller : String) :
    style.line routeName controller =
      "resource(\"" ++ routeName ++ "\", \"" ++ controller ++ "\")" := by
  let statement : Body :=
    ["resource(\"", Hole.routeName, "\", \"", Hole.controllerQualifiedName, "\")"]
  have written : Config.defaultRouteTemplate = statement.written := by decide
  have quiet : statement.isQuiet = true := by decide
  have route : (routeFilling routeName controller).lookup .routeName = some routeName := rfl
  have class_ : (routeFilling routeName controller).lookup .controllerQualifiedName =
    some controller := rfl
  rw [Emission.RouteStyle.line, standard, written, render_written quiet]
  simp only [statement, filled_cons, filled_nil, Piece.filled, route, class_, Option.getD_some,
    String.append_empty, String.append_assoc]

/-- The artifacts of a run refer to each other by the names under which they are written. With the
built-in templates and the standard statement, and names that are not empty, the controller imports
the model's class from the model's module and declares a class, the model declares its class, and the
route names the controller's class in the controller's module. Every call of the controller that shows
a view and every directive of a form that includes one names a view that the run writes. -/
theorem artifacts_refer {g : Generator} {rules : Inflection.RuleSet} {request : Request}
    {session : Session} (columns : List Column)
    (builtIn : g.library.builtIn = Library.standard)
    (own : ∀ name, g.library.file? session.workspace name = none)
    (standard : g.routes.template = Config.defaultRouteTemplate)
    (named : (Naming.resolve rules request).snakeName ≠ "")
    (foldered : (Naming.resolve rules request).viewFolder ≠ "") :
    let naming := Naming.resolve rules request
    let config := g.config
    let base := baseFilling naming config columns
    let fields := g.policy.fields columns
    let made := fun template filling => ((renderTemplate g template filling).run session).1
    (∃ text, made "controller" base = .ok text ∧
      HasLine ("from " ++ config.modelNamespace ++ "." ++ (config.modelPath naming).stem ++
        " import " ++ naming.className) text ∧
      HasLine ("class " ++ naming.className ++ "Controller:") text ∧
      (∀ rest ∈ Body.after "TemplateResponse(" controller,
        ∃ before, text = before ++ "TemplateResponse(" ++ rest.filled base) ∧
      List.Forall₂ (fun rest view => ShowsView config naming (rest.filled base) view)
        (Body.after "TemplateResponse(" controller)
        ["index", "create", "create", "show", "edit", "edit"]) ∧
    (∃ text, made "model" (modelFilling naming config columns fields (kindsOf g.policy columns)) =
        .ok text ∧
      BeginsLine ("class " ++ naming.className ++ "(") text) ∧
    g.routes.line naming.routeName (config.qualifiedName naming) =
      "resource(\"" ++ naming.routeName ++ "\", \"" ++ config.controllerNamespace ++ "." ++
        (config.controllerPath naming).stem ++ "." ++ naming.className ++ "Controller" ++ "\")" ∧
    ∃ filling, ((viewFilling naming config columns fields g.library).run session).1 = .ok filling ∧
      ∀ entry ∈ [("views/create", createView), ("views/edit", editView)],
        ∃ text, made entry.1 filling = .ok text ∧
          (∀ rest ∈ Body.after "\x7b% include " entry.2,
            ∃ before, text = before ++ "\x7b% include " ++ rest.filled filling) ∧
          List.Forall₂ (fun rest view => IncludesView config naming (rest.filled filling) view)
            (Body.after "\x7b% include " entry.2) ["form"] := by
  intro naming config base fields made
  have snakeFlat : '/' ∉ naming.snakeName.toList := fun among =>
    (Naming.resolve_snake_plain rules request _ among).1 rfl
  have leads : ∀ view ∈ viewNames, config.Names naming (config.viewName naming view) view :=
    fun _ member => Config.names_viewName (Naming.resolve_folder_plain rules request) foldered member
  refine ⟨⟨_, renderTemplate_standard builtIn own rfl base, ?_, ?_, ?_, ?_⟩,
    ⟨_, renderTemplate_standard builtIn own rfl _, ?_⟩, ?_, ?_⟩
  · have module : (config.modelPath naming).stem = naming.snakeName :=
      Path.stem_child snakeFlat named _
    rw [module]
    exact controller_imports_model naming config columns
  · exact controller_declares_class naming config columns
  · exact fun rest member => exists_of_mem_after member base
  · have shown : ∀ view ∈ ["index", "create", "create", "show", "edit", "edit"],
        view ∈ viewNames := by decide
    have calls := ((List.forall₂_and_left _ _).mpr ⟨shown, controller_calls.flip⟩).flip
    refine List.Forall₂.imp ?_ calls
    rintro rest view ⟨member, indent, blank, starts⟩
    exact showsView_of_call rfl rfl blank starts (leads view member)
  · exact model_declares_class naming config columns fields _
  · have module : (config.controllerPath naming).stem = naming.snakeName ++ "_controller" := by
      have ending : "_controller.py" = "_controller" ++ ".py" := by decide +kernel
      rw [Config.controllerPath, ending, ← String.append_assoc]
      refine Path.stem_child ?_ ?_ _
      · rw [String.toList_append, List.mem_append]
        exact fun among => among.elim snakeFlat (by decide)
      · exact fun none => named (String.append_eq_empty_iff.mp none).1
    have ending : "_controller." = "_controller" ++ "." := by decide +kernel
    rw [module, line_of_standard standard, Config.qualifiedName, ending]
    simp only [String.append_assoc]
  · obtain ⟨more, filled⟩ := viewFilling_standard builtIn own naming config columns fields
    refine ⟨_, filled, fun entry member => ?_⟩
    have form : "form" ∈ viewNames := by decide
    have known : ∃ body, standardBodies.lookup entry.1 = some body ∧ entry.2 = body ∧
        body ∈ [createView, editView] := by
      simp only [List.mem_cons, List.not_mem_nil, or_false] at member
      rcases member with rfl | rfl
      · exact ⟨_, rfl, rfl, by simp⟩
      · exact ⟨_, rfl, rfl, by simp⟩
    obtain ⟨body, found, same, among⟩ := known
    obtain ⟨after, includes⟩ := forms_included body among
    rw [same]
    refine ⟨_, renderTemplate_standard builtIn own found _,
      fun rest member => exists_of_mem_after member _, ?_⟩
    rw [includes]
    exact .cons (includesView_of_start rfl rfl (leads "form" form)) .nil

/-- The controller of `posts` imports the post, and the route of `posts` names its controller. -/
theorem artifacts_refer_posts :
    let g := Generator.ofConfig Config.standard ⟨{}, none, "sqlite"⟩
    let naming := Naming.resolve Inflection.english ⟨"posts", none, none, none⟩
    (∃ text, ((renderTemplate g "controller" (baseFilling naming g.config [])).run emptySession).1 =
        .ok text ∧ HasLine "from app.models.post import Post" text) ∧
      g.routes.line naming.routeName (g.config.qualifiedName naming) =
        "resource(\"posts\", \"app.controllers.post_controller.PostController\")" := by
  intro g naming
  have named : naming.snakeName = "post" := by decide +kernel
  have foldered : naming.viewFolder = "post" := by decide +kernel
  obtain ⟨⟨text, made, imported, -⟩, -, route, -⟩ :=
    @artifacts_refer g Inflection.english ⟨"posts", none, none, none⟩ emptySession [] rfl
      (fun _ => rfl) rfl (named.trans_ne (by decide)) (foldered.trans_ne (by decide))
  have line : "from app.models.post import Post" = "from " ++ g.config.modelNamespace ++ "." ++
      (g.config.modelPath naming).stem ++ " import " ++ naming.className := by decide +kernel
  refine ⟨⟨text, made, line ▸ imported⟩, route.trans ?_⟩
  decide +kernel

end Generation

end Scaffold
