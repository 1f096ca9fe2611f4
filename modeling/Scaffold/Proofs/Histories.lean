import Scaffold.Proofs.Keeping
import Scaffold.Proofs.Names

/-! What many runs leave in one routes file. A completed run adds its line behind all that is there,
and nothing else that runs do touches the file, as long as no artifact means it. The invariant says
where the routes path can still lead: to the file, or to names that nothing can be added at. -/
namespace Scaffold

open Files Files.Workspace Text

namespace Files.Workspace

variable {w w' mid origin : Workspace} {path way target left : Path} {place there : Location}
  {content : Option Bytes} {bytes : Bytes} {mode : Nat}

theorem Widens.bytesAt_eq (widens : w.Widens w') (place : Location) :
    w'.bytesAt place = w.bytesAt place := by
  unfold bytesAt
  rcases widens.entries place with same | ⟨missing, made⟩
  · rw [same]
  · rw [missing, made]

/-- What growth from a first workspace leaves of a path and of the place it led to: the path never
ends where a link was, and the place has the given content. -/
structure Keeps (origin : Workspace) (path : Path) (place : Location) (content : Option Bytes)
    (w : Workspace) : Prop where
  tree : w.WellFormed
  grows : origin.Grows w
  whole : ∀ there target, w.LeadsTo false path there → origin.entryAt there ≠ some (.link target)
  held : w.bytesAt place = content

theorem Keeps.start (tree : origin.WellFormed) (path : Path) (place : Location) :
    origin.Keeps path place (origin.bytesAt place) origin where
  tree := tree
  grows := .refl origin
  whole _ _ leads := (leads.settled tree).clear List.prefix_rfl
  held := rfl

/-- Making directories keeps what a path led to. -/
theorem Keeps.paves (keeps : origin.Keeps path place content w) (paves : w.Paves w' way) :
    origin.Keeps path place content w' where
  tree := paves.tree keeps.tree
  grows := keeps.grows.trans paves.extends.toGrows
  whole _ _ leads := keeps.whole _ _ (leads.back paves.extends)
  held := (paves.toWidens.bytesAt_eq place).trans keeps.held

/-- A file that lands on a link is written where the link leads, as far as paths say. -/
theorem leads_of_lands {goal : Location} {spelled : String} (tree : mid.WellFormed)
    (lands : Change.Lands mid left bytes place mode)
    (found : mid.entryAt place = some (.link spelled))
    (leads : mid.Leads true (linkStart place.dropLast spelled) (linkSteps spelled) goal) :
    mid.LeadsTo true left goal := by
  refine (locate_walks lands.located).through tree ?_ found leads
  intro target found
  rw [tree.directory_base] at found
  cases found

/-- Writing to a path that misses the place keeps what a path led to. -/
theorem Keeps.puts (keeps : origin.Keeps path place content w) (tree : origin.WellFormed)
    (leads : origin.LeadsTo false path place) (misses : w.Misses path place target)
    (puts : w.Puts w' target bytes left mid there mode) : origin.Keeps path place content w' := by
  have missed := misses left
  have settled := leads.settled tree
  have midTree := puts.paves.tree keeps.tree
  have widens := puts.paves.extends
  have grows : w.Grows w' := puts.grows
  have real : there ≠ [] := by
    rintro rfl
    exact puts.lands.solid (entryAt_root mid)
  have changed : ∀ {other}, other ≠ there → w'.entryAt other = mid.entryAt other := by
    intro other different
    rw [puts.result]
    exact entryAt_set_ne different
  have apart : there ≠ place := by
    by_cases plain : ∀ target, mid.entryAt there ≠ some (.link target)
    · have toThere := leadsTo_of_locate puts.lands.located fun _ => plain
      exact (missed there puts.target (toThere.back widens)).1
    · rintro rfl
      push Not at plain
      obtain ⟨spelled, found⟩ := plain
      exact settled.clear List.prefix_rfl (keeps.grows.noNewLink (widens.noNewLink found))
  refine ⟨puts.tree keeps.tree, keeps.grows.trans grows, ?_, ?_⟩
  · intro other spelled leads' old
    obtain ⟨goal, now⟩ := leads.onward keeps.tree keeps.grows
    rcases now.fate (puts.tree keeps.tree) grows leads' with
      rfl | ⟨front, rest, spelled', _, _, rfl, found, written, behind⟩
    · exact keeps.whole _ _ now old
    · -- A link is left out of the way only when the file lands on it, at the end of the path.
      have formerly := keeps.grows.noNewLink found
      obtain rfl : rest = [] := by
        by_contra more
        have directory := tree.above (by rw [old]; simp) more
        rw [formerly] at directory
        cases directory
      obtain rfl : front = there := by
        by_contra different
        rw [changed different, widens.links found] at written
        cases written
      rw [List.append_nil] at behind
      have meets := leads_of_lands midTree puts.lands (widens.links found)
        (behind.weaken.forth widens)
      exact (missed goal puts.target (meets.back widens)).2 now.weaken
  · rw [← keeps.held, ← puts.paves.toWidens.bytesAt_eq place]
    unfold bytesAt
    rw [changed apart.symm]

/-- Adding a line at the path puts it behind what the place holds. -/
theorem Keeps.adds {style : Emission.RouteStyle} {line : String} {old : Bytes}
    (keeps : origin.Keeps path place content w) (proper : path.Proper)
    (leads : origin.LeadsTo false path place)
    (adds : Emission.Adds style path line w w' mid there mode old) :
    origin.Keeps path place
      (some (content.getD [] ++ encode (style.addition (content.getD []) line))) w' := by
  have extends_ := adds.paves.extends
  obtain ⟨goal, now⟩ := leads.onward keeps.tree keeps.grows
  -- The path leads to no former link, so that it was followed to the place it led to.
  obtain rfl : goal = place := by
    have here := leadsTo_of_locate adds.located (by simp)
    obtain rfl : goal = there := Leads.unique (now.forth extends_) here
    have grows := keeps.grows.trans extends_.toGrows
    have former := (locate_walks adds.located).former grows fun target => keeps.whole _ _ now
    rw [base_congr grows.home path] at former
    exact former.unique leads
  obtain ⟨rfl, delivers⟩ := adds.delivers keeps.tree proper now
  have settled := now.settled keeps.tree
  have grows := delivers.extends fun target => settled.clear List.prefix_rfl
  refine ⟨delivers.tree, keeps.grows.trans grows.toGrows, ?_, ?_⟩
  · intro other target leads'
    exact keeps.whole _ _ (leads'.back grows)
  · rw [bytesAt, delivers.written, keeps.held]

end Files.Workspace

namespace Generation

open Emission Template

variable {g : Generator} {job : Job} {work : Work} {request : Request} {filling : Filling}
  {before after : Standing} {origin : Workspace} {path : Path} {place : Location}
  {content : Option Bytes}

/-- Writing a file keeps what a path led to, when the target misses it. -/
theorem Writes.keeps {target : Path} {text : String} {outcome : Outcome}
    (keeps : origin.Keeps path place content before.workspace) (tree : origin.WellFormed)
    (leads : origin.LeadsTo false path place) (misses : before.workspace.Misses path place target)
    (writes : Writes target text outcome before after) :
    origin.Keeps path place content after.workspace := by
  cases writes with
  | skipped => exact keeps
  | overwritten _ _ puts | created _ puts =>
    obtain ⟨left, mid, there, mode, puts⟩ := puts
    exact keeps.puts tree leads misses puts

/-- All work but that of the route keeps what a path led to, when its target misses it. -/
theorem Finishes.keeps (keeps : origin.Keeps path place content before.workspace)
    (tree : origin.WellFormed) (leads : origin.LeadsTo false path place) (unrouted : work ≠ .route)
    (misses : ∀ target, work.path? g = some target → before.workspace.Misses path place target)
    (finishes : Finishes g job work before after) :
    origin.Keeps path place content after.workspace := by
  cases finishes with
  | reach | fragments | layoutThere => exact keeps
  | artifact _ writes | layout _ _ writes =>
    have kept := Writes.keeps keeps tree leads (misses _ rfl) writes
    exact kept
  | route => exact absurd rfl unrouted

/-- Whenever a course comes to some work but that of the route, its target misses what a path led
to. -/
def Skirts (g : Generator) (job : Job) (pieces : List Work) (before : Standing) (path : Path)
    (place : Location) : Prop :=
  ∀ finished work rest here target, pieces = finished ++ work :: rest →
    Course g job finished before (.ok ()) here → work ≠ .route → work.path? g = some target →
    here.workspace.Misses path place target

theorem Course.keeps {pieces : List Work} (tree : origin.WellFormed)
    (leads : origin.LeadsTo false path place) (skirts : Skirts g job pieces before path place)
    (unrouted : .route ∉ pieces) (course : Course g job pieces before (.ok ()) after)
    (keeps : origin.Keeps path place content before.workspace) :
    origin.Keeps path place content after.workspace := by
  generalize ended : Except.ok () = outcome at course
  induction course with
  | done => exact keeps
  | @step work rest before middle _ _ finishes _ ih =>
    have first : work ≠ .route := by
      rintro rfl
      exact unrouted List.mem_cons_self
    have kept := finishes.keeps keeps tree leads first
      fun target => skirts [] work rest before target rfl .done first
    have onward : Skirts g job rest middle path place := by
      intro finished next later here target split course
      exact skirts (work :: finished) next later here target (by rw [split]; rfl)
        (.step finishes course)
    exact ih onward (fun member => unrouted (List.mem_cons_of_mem _ member)) kept ended
  | broken => cases ended

theorem Skirts.front {pieces rest : List Work}
    (skirts : Skirts g job (pieces ++ rest) before path place) :
    Skirts g job pieces before path place := by
  intro finished work later here target split
  exact skirts finished work (later ++ rest) here target (by rw [split]; simp)

/-- It is enough that all targets spare the place at first. -/
theorem skirts_of_spares (tree : before.workspace.WellFormed)
    (spares : ∀ target ∈ targets g job.naming, before.workspace.Spares path place target) :
    Skirts g job (works g job filling) before path place := by
  intro finished work rest here target split course unrouted writes
  have member : work ∈ works g job filling := by
    rw [split]
    exact List.mem_append_right _ List.mem_cons_self
  obtain ⟨grows, hereTree⟩ := course.grows tree
  exact spares target (mem_targets member unrouted writes) here.workspace grows hereTree

/-- A run that breaks keeps what a path led to. -/
theorem Course.keeps_of_error {failure : Failure} (tree : origin.WellFormed)
    (leads : origin.LeadsTo false path place)
    (skirts : Skirts g job (works g job filling) before path place)
    (course : Course g job (works g job filling) before (.error failure) after)
    (keeps : origin.Keeps path place content before.workspace) :
    origin.Keeps path place content after.workspace := by
  obtain ⟨finished, work, rest, middle, split, first, breaks, unrouted⟩ := course.cut_works
  rw [split] at skirts
  obtain ⟨way, paves⟩ := breaks.paves
  exact (first.keeps tree leads skirts.front unrouted keeps).paves paves

/-- A run that is completed adds its line to what a path led to. -/
theorem Course.keeps_of_ok (tree : origin.WellFormed) (leads : origin.LeadsTo false path place)
    (routes : g.config.routesPath = path)
    (skirts : Skirts g job (works g job filling) before path place)
    (course : Course g job (works g job filling) before (.ok ()) after)
    (keeps : origin.Keeps path place content before.workspace) :
    after.routeLine = some (job.line g) ∧
      origin.Keeps path place
        (some (content.getD [] ++ encode (g.routes.addition (content.getD []) (job.line g))))
        after.workspace := by
  obtain ⟨middle, w', mid, there, mode, old, first, adds, rfl⟩ := course.completes
  have kept := first.keeps tree leads skirts.front (route_not_mem_writings filling) keeps
  subst routes
  exact ⟨rfl, kept.adds (Config.proper_resolved _) leads adds⟩

/-- The report of a run that was completed. -/
def completed : Except Failure Report → List Report
  | .ok report => if report.stage = .done then [report] else []
  | .error _ => []

/-- A run adds its line to what a path led to when it is completed, and else keeps it. -/
theorem generate_keeps {session final : Session} {result : Except Failure Report}
    (tree : origin.WellFormed) (leads : origin.LeadsTo false path place)
    (keeps : origin.Keeps path place content session.workspace)
    (routes : g.config.routesPath = path)
    (skirts : ∀ rules columns filling, rulesIn request.language = .ok rules →
      inspected g request.tableName = .ok (some columns) →
        Skirts g (.of g rules request columns) (works g (.of g rules request columns) filling)
          session.standing.fresh path place)
    (ran : (generate g request).run session = (result, final)) :
    completed result = [] ∧ origin.Keeps path place content final.workspace ∨
      ∃ report line, completed result = [report] ∧ report.routeLine = some line ∧
        origin.Keeps path place
          (some (content.getD [] ++ encode (g.routes.addition (content.getD []) line)))
          final.workspace := by
  cases generate_ends ran with
  | refused early stands =>
    have same : final.workspace = session.workspace := congrArg Standing.workspace stands
    exact .inl ⟨rfl, same ▸ keeps⟩
  | aborted missing stands =>
    have same : final.workspace = session.workspace := congrArg Standing.workspace stands
    have stage : final.report.stage = .aborted := congrArg Standing.stage stands
    exact .inl ⟨by simp [completed, stage], same ▸ keeps⟩
  | @built rules columns filling outcome _ selected known course finished =>
    have skirted := skirts rules columns filling selected known
    have kept : origin.Keeps path place content session.standing.fresh.workspace := keeps
    cases outcome with
    | error failure => exact .inl ⟨rfl, course.keeps_of_error tree leads skirted kept⟩
    | ok _ =>
      obtain ⟨line, added⟩ := course.keeps_of_ok tree leads routes skirted kept
      have stage : final.report.stage = .done := finished rfl
      exact .inr ⟨final.report, _, by simp [completed, stage, Except.map], line, added⟩

end Generation

/-! ## The record of many runs -/

namespace Emission

/-- What a routes file holds after some lines were added: what it held, the header if that was
nothing, and the lines. Without lines it is what it was. -/
def RouteStyle.recorded (style : RouteStyle) (initial : Option Bytes) (lines : List String) :
    Option Bytes :=
  if lines.isEmpty then initial
  else some (initial.getD [] ++ encode (if (initial.getD []).isEmpty then style.header else "") ++
    lines.flatMap fun line => encode (line ++ "\n"))

theorem encode_line_ne_nil (line : String) : encode (line ++ "\n") ≠ [] := by
  rw [encode_append]
  have feed : encode "\n" = [10] := by decide
  simp [feed]

/-- One more line goes behind what is recorded. -/
theorem RouteStyle.recorded_concat (style : RouteStyle) (initial : Option Bytes)
    (lines : List String) (line : String) :
    style.recorded initial (lines ++ [line]) =
      some ((style.recorded initial lines).getD [] ++
        encode (style.addition ((style.recorded initial lines).getD []) line)) := by
  cases lines with
  | nil => simp [recorded, addition, encode_append]
  | cons first rest =>
    have held : (((style.recorded initial (first :: rest)).getD []).isEmpty) = false := by
      simp [recorded, encode_line_ne_nil]
    rw [addition, held]
    simp [recorded, encode_append]

end Emission

namespace Generation

open Emission

variable {origin w : Workspace} {path : Path} {place : Location} {template : String}
  {reports : List Report}

/-- A workspace after some runs with one routes path and one kind of route, none of whose artifacts
and layouts means the routes file when it is written, and the reports of those that were completed. -/
inductive History (path : Path) (place : Location) (template : String) (origin : Workspace) :
    List Report → Workspace → Prop where
  | start : History path place template origin [] origin
  | run {g : Generator} {request : Request} {session final : Session} {reports : List Report}
      {result : Except Failure Report}
      (earlier : History path place template origin reports session.workspace)
      (routes : g.config.routesPath = path) (style : g.routes = .make template none)
      (skirts : ∀ rules columns filling, rulesIn request.language = .ok rules →
        inspected g request.tableName = .ok (some columns) →
          Skirts g (.of g rules request columns) (works g (.of g rules request columns) filling)
            session.standing.fresh path place)
      (ran : (generate g request).run session = (result, final)) :
      History path place template origin (reports ++ completed result) final.workspace

/-- What holds after each run of a history. -/
theorem History.keeps (tree : origin.WellFormed) (leads : origin.LeadsTo false path place)
    (history : History path place template origin reports w) :
    (∀ report ∈ reports, report.routeLine.isSome) ∧
      origin.Keeps path place ((RouteStyle.make template none).recorded (origin.bytesAt place)
        (reports.filterMap (·.routeLine))) w := by
  induction history with
  | start => exact ⟨by simp, .start tree path place⟩
  | run _ routes style skirts ran ih =>
    obtain ⟨lined, keeps⟩ := ih
    rcases generate_keeps tree leads keeps routes skirts ran with
      ⟨none, kept⟩ | ⟨report, line, one, routed, added⟩
    · rw [none, List.append_nil]
      exact ⟨lined, kept⟩
    · rw [style, ← RouteStyle.recorded_concat] at added
      rw [one]
      constructor
      · intro other member
        rcases List.mem_append.mp member with before | last
        · exact lined other before
        · rw [List.mem_singleton.mp last, routed]
          rfl
      · simpa [routed] using added

/-- The routes file records exactly the completed runs, in order: it holds what it held at first, the
header if that was nothing, and the line of each completed run. -/
theorem routes_file_records (tree : origin.WellFormed) (leads : origin.LeadsTo false path place)
    (history : History path place template origin reports w) :
    (∀ report ∈ reports, report.routeLine.isSome) ∧
      w.bytesAt place = (RouteStyle.make template none).recorded (origin.bytesAt place)
        (reports.filterMap (·.routeLine)) := by
  obtain ⟨lined, keeps⟩ := history.keeps tree leads
  exact ⟨lined, keeps.held⟩

/-- A history goes on with any run whose targets spare the place in the workspace that it began
with. -/
theorem History.onward {g : Generator} {request : Request} {session final : Session}
    {result : Except Failure Report} (tree : origin.WellFormed)
    (leads : origin.LeadsTo false path place)
    (history : History path place template origin reports session.workspace)
    (ran : (generate g request).run session = (result, final))
    (routes : g.config.routesPath = path) (style : g.routes = .make template none)
    (spares : ∀ rules columns, rulesIn request.language = .ok rules →
      inspected g request.tableName = .ok (some columns) →
        ∀ target ∈ targets g (Naming.resolve rules request), origin.Spares path place target) :
    History path place template origin (reports ++ completed result) final.workspace := by
  obtain ⟨-, keeps⟩ := history.keeps tree leads
  refine history.run routes style (fun rules columns filling selected known => ?_) ran
  exact skirts_of_spares keeps.tree fun target member =>
    (spares rules columns selected known target member).grown keeps.grows

/-- The targets of a small run are other places than its routes file. -/
theorem small_targets_spare (rules : Inflection.RuleSet)
    (selected : rulesIn none = .ok rules) (target : Path)
    (member : target ∈ targets (smallGenerator smallTemplates)
      (Naming.resolve rules smallRequest)) :
    (Workspace.empty []).Spares ⟨.here, ["r"]⟩ ["r"] target := by
  obtain ⟨real, apart⟩ := small_paths selected
  have routes : smallConfig.routesPath ∈ [smallConfig.routesPath] := List.mem_cons_self
  have names : smallConfig.routesPath.names = ["r"] := by decide
  have different := (List.pairwise_append.mp apart).2.2 target member _ routes
  rw [names] at different
  have elsewhere : target.names ≠ ["r"] := fun same => different.1 (same ▸ List.prefix_rfl)
  have realNames := real target (List.mem_append_left _ member)
  exact (@empty_leads ⟨.here, ["r"]⟩ (by decide)).spares empty_wellFormed
    (fun name among => (realNames name among).1) (empty_leads realNames) elsewhere

/-- A run in an empty workspace that is completed. -/
def firstRun : Except Failure Report × Session :=
  (generate (smallGenerator smallTemplates) smallRequest).run emptySession

/-- Another after it, which breaks for want of a template for the first view. -/
def brokenRun : Except Failure Report × Session :=
  (generate (smallGenerator (smallTemplates.take 2)) smallRequest).run firstRun.2

/-- Another after that, for a table that is not there. -/
def missingRun : Except Failure Report × Session :=
  (generate (smallGenerator smallTemplates) { smallRequest with tableName := "b" }).run brokenRun.2

/-- A last one, which is completed under another route. -/
def lastRun : Except Failure Report × Session :=
  (generate (smallGenerator smallTemplates) { smallRequest with routeOverride := some "b" }).run
    missingRun.2

/-- After the four runs the routes file has the header and the lines of the first and the last. -/
theorem routes_file_records_mixed :
    brokenRun.1.toOption.isNone ∧ missingRun.1.toOption.map (·.stage) = some .aborted ∧
      lastRun.2.workspace.bytesAt ["r"] =
        (RouteStyle.make Config.defaultRouteTemplate none).recorded none
          ["resource(\"a\", \"app.controllers.a_controller.AController\")",
            "resource(\"b\", \"app.controllers.a_controller.AController\")"] := by
  have leads := @empty_leads ⟨.here, ["r"]⟩ (by decide)
  obtain ⟨broken, missing, lines⟩ : brokenRun.1.toOption.isNone ∧
      missingRun.1.toOption.map (·.stage) = some .aborted ∧
      ([] ++ completed firstRun.1 ++ completed brokenRun.1 ++ completed missingRun.1 ++
        completed lastRun.1).filterMap Report.routeLine =
          ["resource(\"a\", \"app.controllers.a_controller.AController\")",
            "resource(\"b\", \"app.controllers.a_controller.AController\")"] := by
    decide +kernel
  have spares : ∀ rules (columns : List Schema.Column), rulesIn none = .ok rules →
      inspected (smallGenerator smallTemplates) "a" = .ok (some columns) →
      ∀ target ∈ targets (smallGenerator smallTemplates) (Naming.resolve rules smallRequest),
        (Workspace.empty []).Spares ⟨.here, ["r"]⟩ ["r"] target :=
    fun rules _ selected _ => small_targets_spare rules selected
  have history : History ⟨.here, ["r"]⟩ ["r"] Config.defaultRouteTemplate (Workspace.empty [])
      ([] ++ completed firstRun.1 ++ completed brokenRun.1 ++ completed missingRun.1 ++
        completed lastRun.1) lastRun.2.workspace :=
    History.start.onward empty_wellFormed leads (Prod.eta firstRun).symm rfl rfl spares
      |>.onward empty_wellFormed leads (Prod.eta brokenRun).symm rfl rfl spares
      |>.onward empty_wellFormed leads (Prod.eta missingRun).symm rfl rfl
        (fun _ _ _ known => by cases known)
      |>.onward empty_wellFormed leads (Prod.eta lastRun).symm rfl rfl spares
  obtain ⟨-, recorded⟩ := routes_file_records empty_wellFormed leads history
  rw [lines] at recorded
  exact ⟨broken, missing, recorded⟩

end Generation

end Scaffold
