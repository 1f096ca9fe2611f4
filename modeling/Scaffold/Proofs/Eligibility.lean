import Mathlib.Data.List.Nodup
import Mathlib.Logic.Relation
import Scaffold.Proofs.Entries
import Scaffold.Proofs.Inputs
import Scaffold.Proofs.Rendering

/-! Which columns have a part in forms and views: those that become fields, each once and in order.
Columns that are left out can come, go and change without any trace there, as long as the key keeps
its name. Only the declarations of a model cover the whole table. -/
namespace Scaffold

open Files Files.Workspace Text

namespace Schema

variable {unwanted : List String} {types : TypeMap} {columns others : List Column}

/-- A column that is no key, that the database does not count up itself, and whose name is none of
the unwanted ones in any case. -/
def Column.Eligible (unwanted : List String) (column : Column) : Prop :=
  column.primaryKey = false ∧ column.autoincrement = false ∧
    ∀ name ∈ unwanted, lower name ≠ lower column.name

instance (unwanted : List String) : DecidablePred (Column.Eligible unwanted) :=
  fun _ => inferInstanceAs (Decidable (_ ∧ _ ∧ _))

/-- The columns of a table that become fields, in order. -/
def eligible (unwanted : List String) (columns : List Column) : List Column :=
  columns.filter fun column => column.Eligible unwanted

private theorem isEligible_iff (column : Column) :
    (FieldPolicy.make unwanted types).isEligible column = true ↔ column.Eligible unwanted := by
  simp [FieldPolicy.isEligible, FieldPolicy.make, Column.Eligible, and_assoc]

theorem fields_make (unwanted : List String) (types : TypeMap) (columns : List Column) :
    (FieldPolicy.make unwanted types).fields columns =
      (eligible unwanted columns).map (FieldPolicy.make unwanted types).field := by
  rw [FieldPolicy.fields, eligible]
  congr 1
  refine List.filter_congr fun column _ => ?_
  rw [Bool.eq_iff_iff, isEligible_iff, decide_eq_true_iff]

/-- One change to the columns of a table that become no field: one of them comes, goes, or becomes
another one of that sort. -/
inductive Alters (unwanted : List String) : List Column → List Column → Prop where
  | insert {column : Column} (front back : List Column) (out : ¬ column.Eligible unwanted) :
      Alters unwanted (front ++ back) (front ++ column :: back)
  | remove {column : Column} (front back : List Column) (out : ¬ column.Eligible unwanted) :
      Alters unwanted (front ++ column :: back) (front ++ back)
  | change {column other : Column} (front back : List Column) (out : ¬ column.Eligible unwanted)
      (still : ¬ other.Eligible unwanted) :
      Alters unwanted (front ++ column :: back) (front ++ other :: back)

private theorem eligible_out {column : Column} (front back : List Column)
    (out : ¬ column.Eligible unwanted) :
    eligible unwanted (front ++ column :: back) = eligible unwanted (front ++ back) := by
  simp [eligible, out]

private theorem Alters.eligible_eq (alters : Alters unwanted columns others) :
    eligible unwanted others = eligible unwanted columns := by
  cases alters with
  | insert front back out => exact eligible_out front back out
  | remove front back out => exact (eligible_out front back out).symm
  | change front back out still =>
    exact (eligible_out front back still).trans (eligible_out front back out).symm

/-- Any number of such changes leave the same fields. -/
theorem eligible_eq_of_alterations
    (alterations : Relation.ReflTransGen (Alters unwanted) columns others) :
    eligible unwanted others = eligible unwanted columns := by
  induction alterations with
  | refl => rfl
  | tail _ last ih => exact last.eligible_eq.trans ih

end Schema

namespace Template

open Schema Scaffold.Action

variable {unwanted : List String} {types : TypeMap} {naming : Naming} {config : Config}
  {library : Library} {columns others : List Column} {session : Session}

/-- A template of a field, filled with the label and the name of a column over what all artifacts
share. -/
def columnFragment (body : String) (base : Filling) (column : Column) : String :=
  render body (Filling.bindings (base ++ [(.title, labelFor column.name), (.column, column.name)]))

/-- The template for the input of a column. -/
def columnInput (types : TypeMap) (column : Column) : String :=
  inputName (fieldKind types column.declaredType)

/-- The templates that the fields of a table need. -/
def fieldTemplates (types : TypeMap) (columns : List Column) : List String :=
  ["fields/head", "fields/cell", "fields/view"] ++ columns.map (columnInput types)

/-- With different names, the rules have the fields that may not be null, each once and in order. -/
theorem ruleEntries_make (distinct : (columns.map (·.name)).Nodup) :
    ruleEntries ((FieldPolicy.make unwanted types).fields columns) =
      ((eligible unwanted columns).filter fun column => !column.nullable).map fun column =>
        (column.name, "required") := by
  have kept : ((eligible unwanted columns).map (FieldPolicy.make unwanted types).field).filter
      (fun field => !field.column.nullable) =
      ((eligible unwanted columns).filter fun column => !column.nullable).map
        (FieldPolicy.make unwanted types).field := by
    rw [List.filter_map]
    rfl
  have names : ((eligible unwanted columns).filter fun column => !column.nullable).map (·.name)
      |>.Sublist (columns.map (·.name)) :=
    (List.filter_sublist.trans List.filter_sublist).map _
  rw [ruleEntries, fields_make, kept, List.map_map, Data.putAll_of_nodup]
  · rfl
  · rw [List.map_map]
    exact distinct.sublist names

/-- With different names, every column of a table has a line of its own kind. -/
theorem columnLines_make (distinct : (columns.map (·.name)).Nodup) :
    columnLines columns (kindsOf (FieldPolicy.make unwanted types) columns) =
      columns.map fun column => columnLine column (fieldKind types column.declaredType) := by
  have keys : ((columns.map fun column => (column.name, fieldKind types column.declaredType)).map
      (·.1)).Nodup := by
    rw [List.map_map]
    exact distinct
  have kinds : kindsOf (FieldPolicy.make unwanted types) columns =
      columns.map fun column => (column.name, fieldKind types column.declaredType) :=
    Data.putAll_of_nodup keys
  rw [columnLines, kinds]
  refine List.map_congr_left fun column member => ?_
  rw [Data.lookup_of_mem keys (List.mem_map.mpr ⟨column, member, rfl⟩), Option.getD_some]

/-- The inputs of fields whose templates are all there. -/
theorem inputsIn_of_stubs {w : Workspace} {stub : String → String} (unwanted : List String)
    (base : Filling)
    (stubs : ∀ column ∈ columns, library.bodyIn (columnInput types column) w =
      .ok (stub (columnInput types column))) :
    inputsIn library base (columns.map (FieldPolicy.make unwanted types).field) w =
      .ok (columns.map fun column => columnFragment (stub (columnInput types column)) base column) := by
  induction columns with
  | nil => rfl
  | cons column rest ih =>
    have first := stubs column List.mem_cons_self
    have later := ih fun known member => stubs known (List.mem_cons_of_mem _ member)
    rw [inputsIn] at later ⊢
    rw [List.map_cons, List.mapM_cons, later]
    change (do
      let a ← (do
        let body ← library.bodyIn (columnInput types column) w
        return columnFragment body base column)
      let b ← Except.ok _
      return a :: b) = _
    rw [first]
    rfl

/-- What fills the views when all templates of the fields are there. -/
theorem viewFillingIn_of_stubs {w : Workspace} {stub : String → String}
    (stubs : ∀ name ∈ fieldTemplates types (eligible unwanted columns),
      library.bodyIn name w = .ok (stub name)) :
    viewFillingIn naming config columns ((FieldPolicy.make unwanted types).fields columns) library w =
      let kept := eligible unwanted columns
      let base := baseFilling naming config columns
      .ok (base ++
        [(.tableHeader, join "\n" (kept.map (columnFragment (stub "fields/head") base))),
         (.tableBody, join "\n" (kept.map (columnFragment (stub "fields/cell") base))),
         (.viewRows, join "\n" (kept.map (columnFragment (stub "fields/view") base))),
         (.form, join "\n" (kept.map fun column =>
            columnFragment (stub (columnInput types column)) base column))]) := by
  have head := stubs "fields/head" (by simp [fieldTemplates])
  have cell := stubs "fields/cell" (by simp [fieldTemplates])
  have view := stubs "fields/view" (by simp [fieldTemplates])
  have form := inputsIn_of_stubs unwanted (baseFilling naming config columns)
    fun column member => stubs _ (List.mem_append_right _ (List.mem_map.mpr ⟨column, member, rfl⟩))
  simp only [viewFillingIn, fields_make, head, cell, view, form, List.map_map]
  rfl

/-- Columns that become no field have no influence on forms and views, and the others are neither
lost nor doubled. What is filled in for the fields of a model, for its rules and for each part of the
views has one entry for every field, in order; the declarations of a model have one for every column
of the table. Columns that become no field can be put in, taken out and changed anywhere as long as
the name of the key stays: the fields and rules of the model stay the same, and so does all that the
views are filled with, or the failure to fill them. -/
theorem eligible_columns_fill (unwanted : List String) (types : TypeMap) (naming : Naming)
    (config : Config) (library : Library) (session : Session) :
    let policy := FieldPolicy.make unwanted types
    let model := fun columns => Filling.bindings
      (modelFilling naming config columns (policy.fields columns) (kindsOf policy columns))
    let views := fun columns =>
      ((viewFilling naming config columns (policy.fields columns) library).run session).1
    (∀ columns : List Column, (columns.map (·.name)).Nodup →
      let kept := eligible unwanted columns
      let base := baseFilling naming config columns
      (model columns).lookup Hole.fillable.token =
          some (listLiteral true (kept.map (·.name))) ∧
        (model columns).lookup Hole.rules.token =
          some (mapLiteral true true
            ((kept.filter fun column => !column.nullable).map fun column =>
              (column.name, "required"))) ∧
        (model columns).lookup Hole.columns.token =
          some (join "\n" (columns.map fun column =>
            columnLine column (fieldKind types column.declaredType))) ∧
        ∀ stub : String → String,
          (∀ name ∈ fieldTemplates types kept,
            ((library.get name).run session).1 = .ok (stub name)) →
          ∃ filling, views columns = .ok filling ∧
            filling.bindings.lookup Hole.tableHeader.token =
              some (join "\n" (kept.map (columnFragment (stub "fields/head") base))) ∧
            filling.bindings.lookup Hole.tableBody.token =
              some (join "\n" (kept.map (columnFragment (stub "fields/cell") base))) ∧
            filling.bindings.lookup Hole.viewRows.token =
              some (join "\n" (kept.map (columnFragment (stub "fields/view") base))) ∧
            filling.bindings.lookup Hole.form.token =
              some (join "\n" (kept.map fun column =>
                columnFragment (stub (columnInput types column)) base column))) ∧
    ∀ columns others : List Column,
      Relation.ReflTransGen (Alters unwanted) columns others →
      primaryKeyName others = primaryKeyName columns →
        (model others).lookup Hole.fillable.token = (model columns).lookup Hole.fillable.token ∧
        (model others).lookup Hole.rules.token = (model columns).lookup Hole.rules.token ∧
        views others = views columns := by
  intro policy model views
  have known : ∀ columns, views columns =
      viewFillingIn naming config columns (policy.fields columns) library session.workspace :=
    fun columns => (answers_viewFilling naming config columns (policy.fields columns) library
      session).1
  constructor
  · intro columns distinct kept base
    simp only [model, lookup_bindings]
    refine ⟨?_, ?_, ?_, fun stub stubs => ?_⟩
    · change some (listLiteral true ((policy.fields columns).map (·.name))) = _
      rw [fields_make, List.map_map]
      rfl
    · change some (mapLiteral true true (ruleEntries (policy.fields columns))) = _
      rw [ruleEntries_make distinct]
    · change some (join "\n" (columnLines columns (kindsOf policy columns))) = _
      rw [columnLines_make distinct]
    · have bodies : ∀ name ∈ fieldTemplates types kept,
          library.bodyIn name session.workspace = .ok (stub name) :=
        fun name member => (answers_get library name session).1.symm.trans (stubs name member)
      refine ⟨_, (known columns).trans (viewFillingIn_of_stubs bodies), ?_⟩
      exact ⟨rfl, rfl, rfl, rfl⟩
  · intro columns others alterations key
    have fields : policy.fields others = policy.fields columns := by
      rw [fields_make, fields_make, eligible_eq_of_alterations alterations]
    have base : baseFilling naming config others = baseFilling naming config columns := by
      rw [baseFilling, baseFilling, key]
    refine ⟨?_, ?_, ?_⟩
    · simp only [model, lookup_bindings, modelFilling, fields, base]
      rfl
    · simp only [model, lookup_bindings, modelFilling, fields, base]
      rfl
    · rw [known, known, fields, viewFillingIn, viewFillingIn, base]

/-- A password between the key and the title of a table is declared in the model and is nowhere in
the views. Without it they are the same. -/
theorem eligible_columns_fill_password :
    let key : Column := ⟨"id", "INTEGER", false, true, false⟩
    let secret : Column := ⟨"Password", "VARCHAR(60)", false, false, false⟩
    let title : Column := ⟨"title", "TEXT", false, false, false⟩
    let naming : Naming := ⟨"A", "as", "as", "As", "a", "as", "a", "A", "As"⟩
    let policy := FieldPolicy.make ["PASSWORD"] commonTypes
    let model := fun columns => Filling.bindings (modelFilling naming Config.standard columns
      (policy.fields columns) (kindsOf policy columns))
    let views := fun columns => ((viewFilling naming Config.standard columns
      (policy.fields columns) ⟨none, Library.standard⟩).run ⟨⟨[], []⟩, .always true, [], {}⟩).1
    (model [key, secret, title]).lookup Hole.fillable.token = some "[\"title\"]" ∧
      (∃ filling, views [key, secret, title] = .ok filling ∧
        filling.bindings.lookup Hole.tableHeader.token = some "              <th>Title</th>") ∧
      views [key, title] = views [key, secret, title] := by
  intro key secret title naming policy model views
  obtain ⟨counts, unaffected⟩ := eligible_columns_fill ["PASSWORD"] commonTypes naming
    Config.standard ⟨none, Library.standard⟩ ⟨⟨[], []⟩, .always true, [], {}⟩
  obtain ⟨fillable, -, -, fragments⟩ := counts [key, secret, title] (by decide)
  have kept : eligible ["PASSWORD"] [key, secret, title] = [title] := by decide +kernel
  have stubs : ∀ name ∈ fieldTemplates commonTypes (eligible ["PASSWORD"] [key, secret, title]),
      (((⟨none, Library.standard⟩ : Library).get name).run ⟨⟨[], []⟩, .always true, [], {}⟩).1 =
        .ok ((Library.standard.lookup name).getD "") := by
    rw [kept]
    decide +kernel
  obtain ⟨filling, filled, header, -⟩ :=
    fragments (fun name => (Library.standard.lookup name).getD "") stubs
  rw [kept] at fillable header
  have shown : join "\n" ([title].map (columnFragment
      ((Library.standard.lookup "fields/head").getD "")
      (baseFilling naming Config.standard [key, secret, title]))) =
      "              <th>Title</th>" := by decide +kernel
  have removed : Alters ["PASSWORD"] [key, secret, title] [key, title] :=
    .remove [key] [title] (by decide +kernel)
  exact ⟨fillable.trans (by decide +kernel), ⟨filling, filled, header.trans (congrArg some shown)⟩,
    (unaffected _ _ (.single removed) (by decide)).2.2⟩

end Template

end Scaffold
