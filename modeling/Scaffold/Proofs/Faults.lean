import Scaffold.Proofs.Seating
import Scaffold.Proofs.Untouched

/-! How work on files fails. The system refuses in ways of its own, and these are what everyone is
prepared for. It is never asked about a path with a null character or about a link that leads back to
itself. The first of these the path brings along; the second cannot be met where every link leads
somewhere, unless a file has come to be in the place of a link. -/
namespace Scaffold

open Files Files.Workspace Running

namespace Files

variable {w w' first : Workspace} {atEnd : AtEnd} {links : Nat} {here there : Location}
  {steps names more : List String} {path left other : Path} {fault : Fault}

/-! ## Names without null characters -/

/-- No name has a null character. -/
def NullFree (names : List String) : Prop :=
  ∀ name ∈ names, '\x00' ∉ name.toList

private theorem hasNull_eq_false_iff : path.hasNull = false ↔ NullFree path.names := by
  simp [Path.hasNull, NullFree]

/-- A null character in the parent of a path is one in the path. -/
theorem Path.hasNull_of_parent (null : path.parent.hasNull = true) : path.hasNull = true := by
  by_contra free
  rw [Path.hasNull_parent (Bool.eq_false_iff.mpr free)] at null
  cases null

theorem NullFree.append (front : NullFree names) (back : NullFree more) : NullFree (names ++ more) :=
  List.forall_mem_append.mpr ⟨front, back⟩

theorem NullFree.dropLast (free : NullFree names) : NullFree names.dropLast :=
  fun name member => free name (List.mem_of_mem_dropLast member)

private theorem nullFree_plainFrom (start : NullFree here) (free : NullFree names) :
    NullFree (plainFrom here names) := by
  induction names generalizing here with
  | nil => exact start
  | cons name rest ih =>
    obtain ⟨named, onward⟩ := List.forall_mem_cons.mp free
    rw [plainFrom, List.foldl_cons]
    refine ih ?_ onward
    split
    · exact start.dropLast
    · exact start.append (List.forall_mem_singleton.mpr named)

namespace Workspace

/-- Neither the way to the current directory nor a link has a null character, as the system would not
have taken it. -/
structure Clean (w : Workspace) : Prop where
  home : w.CleanHome
  links : ∀ place target, w.entryAt place = some (.link target) →
    (Path.ofString target).hasNull = false

theorem Clean.base (clean : w.Clean) (path : Path) : NullFree (w.base path) := by
  unfold Workspace.base
  split
  · exact fun _ member => absurd member List.not_mem_nil
  · exact hasNull_eq_false_iff.mp clean.home

theorem Clean.grows (clean : w.Clean) (grows : w.Grows w') : w'.Clean where
  home := by
    rw [CleanHome, grows.home]
    exact clean.home
  links place target found := clean.links place target (grows.noNewLink found)

private theorem above_nullFree (free : NullFree path.names) : NullFree (above path).names := by
  have dots : NullFree [".."] := List.forall_mem_singleton.mpr (by decide)
  unfold above
  split
  · split
    · exact free
    · exact dots
  · dsimp only
    split
    · exact free.append dots
    · exact free.dropLast

private theorem beside_nullFree (free : NullFree path.names) (target : String) :
    NullFree (beside path target).names := by
  unfold beside
  split
  · exact fun _ member => absurd member List.not_mem_nil
  · exact above_nullFree free

/-- Neither a path that names resolve to nor the names that are left have a null character. -/
def Clears : Except (List String) Path → Prop
  | .ok path => NullFree path.names
  | .error names => NullFree names

private theorem settleOn_clears {enter : Path → String → Except (List String) Path}
    (entered : ∀ link target, w.entryAt (w.plainPlace link) = some (.link target) →
      NullFree link.names → Clears (enter link target))
    (start : NullFree path.names) (free : NullFree steps) :
    Clears (settleOn w enter path steps) := by
  induction steps generalizing path with
  | nil => exact start
  | cons step rest ih =>
    obtain ⟨named, onward⟩ := List.forall_mem_cons.mp free
    have below : NullFree (path.names ++ [step]) := start.append (List.forall_mem_singleton.mpr named)
    rw [settleOn]
    split
    · exact ih (above_nullFree start) onward
    dsimp only
    split
    · rename_i target found
      have inside := entered ⟨path.start, path.names ++ [step]⟩ target found below
      split
      · rename_i arrived
        rw [arrived] at inside
        exact ih inside onward
      · rename_i stuck
        rw [stuck] at inside
        exact inside.append onward
    · exact ih below onward

/-- Names without a null character resolve to such names, or to such a rest of them. -/
theorem settle_clears {depth : Nat} {inside : List Path} (clean : w.Clean)
    (start : NullFree path.names) (free : NullFree steps) :
    Clears (settle w depth inside path steps) := by
  induction depth generalizing inside path steps with
  | zero => exact settleOn_clears (fun link _ _ linked => (clean.base link).append linked) start free
  | succ depth ih =>
    refine settleOn_clears (fun link target found linked => ?_) start free
    split
    · exact (clean.base link).append linked
    · exact ih (beside_nullFree linked target)
        (hasNull_eq_false_iff.mp (clean.links _ target found))

private theorem resolve_nullFree (clean : w.Clean) (free : NullFree path.names)
    (given : w.resolve path = .ok names ∨ w.resolve path = .error names) : NullFree names := by
  have clears : Clears (settle w (w.entries.length * (w.home.length + 2)) []
      ⟨if path.isAbsolute then .root else .here, []⟩ path.names) :=
    settle_clears clean (fun _ member => absurd member List.not_mem_nil) free
  unfold resolve at given
  dsimp only at given
  cases settled : settle w (w.entries.length * (w.home.length + 2)) []
      ⟨if path.isAbsolute then .root else .here, []⟩ path.names with
  | ok spelled =>
    rw [settled] at clears given
    rcases given with given | given
    · cases given
      exact nullFree_plainFrom (clean.base spelled) clears
    · cases given
  | error left =>
    rw [settled] at clears given
    rcases given with given | given
    · cases given
    · cases given
      exact clears

end Workspace

/-! ## Faults of walks -/

/-- A fault of the system, or that of a null character in the path. -/
def Fault.Fits (fault : Fault) (path : Path) : Prop :=
  fault.isSystem = true ∨ fault = .nullCharacter ∧ path.hasNull = true

theorem Fault.Fits.mono (fits : fault.Fits path) (wider : path.hasNull = true → other.hasNull = true) :
    fault.Fits other :=
  fits.imp id (And.imp id wider)

namespace Workspace

private theorem walkOn_fault {follow : Location → List String → Except Fault Location}
    (onward : ∀ {here steps fault}, follow here steps = .error fault → fault.isSystem = true)
    (failed : walkOn w atEnd follow here steps = .error fault) : fault.isSystem = true := by
  induction steps generalizing here with
  | nil => cases failed
  | cons step rest ih =>
    rw [walkOn] at failed
    split at failed
    · cases failed
      rfl
    · split at failed
      · exact ih failed
      split at failed
      · exact ih failed
      split at failed
      · cases failed
        rfl
      split at failed
      · split at failed
        · cases failed
        · exact onward failed
      · exact ih failed
    · cases failed
      rfl

private theorem walk_fault (failed : walk w atEnd links here steps = .error fault) :
    fault.isSystem = true := by
  induction links generalizing here steps fault with
  | zero =>
    refine walkOn_fault (fun impossible => ?_) failed
    cases impossible
    rfl
  | succ links ih => exact walkOn_fault ih failed

theorem locate_fault (failed : w.locate atEnd path = .error fault) : fault.Fits path := by
  unfold locate at failed
  split at failed
  · rename_i null
    cases failed
    exact .inr ⟨rfl, null⟩
  · exact .inl (walk_fault failed)

private theorem find?_fault (failed : w.find? atEnd path = .error fault) : fault.Fits path := by
  unfold find? at failed
  split at failed
  · rename_i located
    cases failed
    exact locate_fault located
  · split at failed
    · cases failed
    · cases failed
      exact .inl rfl

end Workspace

/-! ## Faults of changes -/

namespace Change

private theorem makeDirectory_fault (ran : (makeDirectory path).run w = (.error fault, w')) :
    fault.Fits path := by
  rw [makeDirectory_run] at ran
  split at ran
  · rename_i located
    cases ran
    exact locate_fault located
  · split at ran
    · cases ran
      exact .inl rfl
    · cases ran

private theorem unlessDirectory_fault {reason : Fault}
    (ran : (unlessDirectory path reason).run w = (.error fault, w')) : fault = reason := by
  simp only [unlessDirectory, run_bind, run_get] at ran
  split at ran
  · cases ran
    rfl
  · cases ran

private theorem makeAll_fault (start : Start)
    (ran : (makeAll start names).run w = (.error fault, w')) :
    fault.Fits ⟨start, names.reverse⟩ := by
  induction names generalizing w w' with
  | nil => exact .inl (unlessDirectory_fault ran ▸ rfl)
  | cons name rest ih =>
    rw [makeAll, run_tryCatch] at ran
    split at ran
    · cases ran
    rename_i reason middle failed
    split at ran
    · rw [run_bind] at ran
      split at ran
      · rw [run_tryCatch] at ran
        split at ran
        · cases ran
        · rename_i again
          exact unlessDirectory_fault ran ▸ makeDirectory_fault again
      · rename_i above
        cases ran
        refine (ih above).mono fun null => ?_
        rw [List.reverse_cons, Path.hasNull_append, null, Bool.true_or]
    · exact unlessDirectory_fault ran ▸ makeDirectory_fault failed

theorem makeDirectories_fault (ran : (makeDirectories path).run w = (.error fault, w')) :
    fault.Fits path := by
  unfold makeDirectories at ran
  split at ran
  · rename_i null
    cases ran
    exact .inr ⟨rfl, null⟩
  · simpa using makeAll_fault path.start ran

private theorem stage_fault {bytes : Text.Bytes} (clean : w.Clean)
    (ran : (stage path bytes).run w = (.error fault, w')) : fault.Fits path := by
  simp only [stage, run_bind, run_get, ask_run] at ran
  split at ran
  · cases ran
  rename_i located
  cases ran
  refine (locate_fault (Prod.ext_iff.mp located).1).mono fun null => ?_
  by_contra free
  have free := Bool.eq_false_iff.mpr free
  have parent := hasNull_eq_false_iff.mp (Path.hasNull_parent free)
  have fresh := hasNull_eq_false_iff.mp
    ((hasNull_freshName w _ _).trans (Path.hasNull_name .root free))
  have whole : (⟨.root, w.plainPlace path.parent ++ [freshName w path.name]⟩ : Path).hasNull = false :=
    hasNull_eq_false_iff.mpr ((nullFree_plainFrom (clean.base path.parent) parent).append fresh)
  exact Bool.false_ne_true (whole.symm.trans null)

private theorem modeIn_fault (failed : modeIn w path = .error fault) : fault.Fits path := by
  unfold modeIn at failed
  split at failed
  · cases failed
  · cases failed
  · rename_i found
    split at failed
    · cases failed
    · cases failed
      exact find?_fault found

private theorem moveTo_fault {staged : Location} {entry : Entry}
    (ran : (moveTo staged entry path).run w = (.error fault, w')) : fault.Fits path := by
  rw [moveTo_run] at ran
  split at ran
  · rename_i located
    cases ran
    exact locate_fault located
  · split at ran
    · cases ran
      exact .inl rfl
    split at ran
    · cases ran
      split <;> exact .inl rfl
    · cases ran

theorem replace_fault {bytes : Text.Bytes} (clean : w.Clean)
    (ran : (replace path bytes).run w = (.error fault, w')) : fault.Fits path := by
  rw [replace, run_bind] at ran
  split at ran
  · simp only [run_tryCatch, run_bind, modeFor_run] at ran
    split at ran
    · cases ran
    rename_i reason middle failed
    simp only [run_modify, run_throw] at ran
    cases ran
    split at failed
    · exact moveTo_fault failed
    · rename_i looked
      cases failed
      exact modeIn_fault (Prod.ext_iff.mp looked).1
  · rename_i staged
    cases ran
    exact stage_fault clean staged

private theorem append_fault {bytes : Text.Bytes}
    (ran : (append path bytes).run w = (.error fault, w')) :
    fault.Fits path := by
  simp only [append, run_bind, ask_run] at ran
  split at ran
  · simp only [run_get] at ran
    split at ran
    · cases ran
    · cases ran
    · cases ran
      exact .inl rfl
  · rename_i located
    cases ran
    exact locate_fault (Prod.ext_iff.mp located).1

end Change

/-! ## What writing means -/

namespace Workspace

/-- Where every link leads somewhere, so does every path that is one. -/
theorem Acyclic.leads_of_isLink (tree : w.WellFormed) (acyclic : w.Acyclic)
    (link : w.isLink path = true) : ∃ goal, w.LeadsTo true path goal := by
  obtain ⟨place, target, located, found⟩ := isLink_iff.mp link
  obtain ⟨goal, leads⟩ := acyclic place target found
  exact ⟨goal, (locate_walks located).through tree (by simp [tree.directory_base]) found leads⟩

/-- Where every link leads somewhere, it is known which path writing to a path means. -/
theorem target_known (tree : w.WellFormed) (acyclic : w.Acyclic) (proper : path.Proper) :
    ∃ left, w.target path = .ok left := by
  cases link : w.isLink path with
  | false => exact ⟨path, target_of_not_link link⟩
  | true =>
    obtain ⟨goal, leads⟩ := acyclic.leads_of_isLink tree link
    exact ⟨_, target_of_link link proper leads⟩

/-- A path without a null character means one without. -/
theorem target_nullFree (clean : w.Clean) (meant : w.target path = .ok left)
    (free : path.hasNull = false) : left.hasNull = false := by
  have resolved : ∀ {names}, w.resolve path = .ok names ∨ w.resolve path = .error names →
      NullFree names :=
    resolve_nullFree clean (hasNull_eq_false_iff.mp free)
  unfold target at meant
  split at meant
  · split at meant
    · rename_i place found
      cases meant
      exact hasNull_eq_false_iff.mpr (resolved (.inl found))
    · rename_i names stuck
      have plain : NullFree (plainFrom [] names) :=
        nullFree_plainFrom (fun _ member => absurd member List.not_mem_nil) (resolved (.inr stuck))
      dsimp only at meant
      split at meant
      · cases meant
      · cases meant
        exact hasNull_eq_false_iff.mpr plain
  · cases meant
    exact free

/-- A path that writing does not mean anything by is a link that leads back to itself. -/
theorem target_fault (meant : w.target path = .error fault) : ∃ spelled, fault = .linkLoop spelled := by
  unfold target at meant
  split at meant
  · split at meant
    · cases meant
    · dsimp only at meant
      split at meant
      · cases meant
        exact ⟨_, rfl⟩
      · cases meant
  · cases meant

/-- A workspace that has grown from a first one. -/
structure GrownFrom (w first : Workspace) : Prop where
  tree : w.WellFormed
  clean : w.Clean
  grows : first.Grows w

theorem GrownFrom.paves (grown : w.GrownFrom first) (paves : w.Paves w' path) : w'.GrownFrom first :=
  ⟨paves.tree grown.tree, grown.clean.grows paves.extends.toGrows,
    grown.grows.trans paves.extends.toGrows⟩

theorem GrownFrom.set {place : Location} {mode : Nat} {bytes : Text.Bytes}
    (grown : w.GrownFrom first) (located : w.locate atEnd path = .ok place)
    (solid : w.entryAt place ≠ some .directory) : (w.set place (.file mode bytes)).GrownFrom first :=
  ⟨grown.tree.set solid ((locate_walks located).spot grown.tree (grown.tree.directory_base path)) _,
    grown.clean.grows (grows_set_file solid), grown.grows.trans (grows_set_file solid)⟩

/-- A file has come to be in the place of a link. -/
def LosesLink (first w : Workspace) : Prop :=
  ∃ place target mode bytes, first.entryAt place = some (.link target) ∧
    w.entryAt place = some (.file mode bytes)

/-- Unless it has lost one, every link of a grown workspace leads where it led. -/
theorem GrownFrom.acyclic (grown : w.GrownFrom first) (acyclic : first.Acyclic)
    (kept : ¬ first.LosesLink w) : w.Acyclic := by
  have extends_ : first.Extends w := by
    refine ⟨grown.grows, fun {place target} found => ?_⟩
    rcases grown.grows.link found with same | ⟨mode, bytes, written⟩
    · exact same
    · exact absurd ⟨place, target, mode, bytes, found, written⟩ kept
  intro place target found
  obtain ⟨there, leads⟩ := acyclic place target (grown.grows.noNewLink found)
  exact ⟨there, leads.forth extends_⟩

end Workspace

end Files

namespace Action

variable {α β : Type} {action : Action α} {next : α → Action β} {first w : Workspace}
  {paths : List Path} {known : Failure → Prop} {failure : Failure}

/-! ## Failures of actions -/

/-- Failures that nobody is prepared for: a null character in one of some paths, and a link that came
to lead back to itself when another one was lost. -/
inductive Escapes (first : Workspace) (paths : List Path) (w : Workspace) : Failure → Prop where
  | null {path : Path} (among : path ∈ paths) (null : path.hasNull = true) :
      Escapes first paths w (.file .nullCharacter)
  | loop {spelled : String} (lost : first.LosesLink w) :
      Escapes first paths w (.file (.linkLoop spelled))

/-- An action that goes on from a workspace to one that has grown, and fails in known ways or with a
failure that nobody is prepared for. -/
def Safe (first : Workspace) (paths : List Path) (known : Failure → Prop) (action : Action α) : Prop :=
  ∀ session, session.workspace.GrownFrom first →
    (action.run session).2.workspace.GrownFrom first ∧
    ∀ failure, (action.run session).1 = .error failure →
      known failure ∨ Escapes first paths (action.run session).2.workspace failure

theorem Safe.bind (leads : Safe first paths known action)
    (follows : ∀ a, Safe first paths known (next a)) : Safe first paths known (action >>= next) := by
  intro session grown
  obtain ⟨grown', fails⟩ := leads session grown
  rw [run_bind]
  split
  · rename_i a middle ran
    rw [ran] at grown'
    exact follows a middle grown'
  · rename_i failure middle ran
    rw [ran] at grown' fails
    refine ⟨grown', fun reason given => fails reason ?_⟩
    cases given
    rfl

/-- An action that only looks is safe when its failures are known or escape. -/
theorem Answers.safe {answer : Workspace → Except Failure α} (answers : Answers action answer)
    (fails : ∀ {w failure}, w.GrownFrom first → answer w = .error failure →
      known failure ∨ Escapes first paths w failure) : Safe first paths known action := by
  intro session grown
  obtain ⟨given, stands⟩ := answers session
  rw [workspace_of_standing stands, given]
  exact ⟨grown, fun failure failed => fails grown failed⟩

/-- What follows an action that only looks knows what was found. -/
theorem Safe.afterAnswer {answer : Workspace → Except Failure α} (answers : Answers action answer)
    (safe : Safe first paths known action)
    (follows : ∀ {w a}, w.GrownFrom first → answer w = .ok a → Safe first paths known (next a)) :
    Safe first paths known (action >>= next) := by
  intro session grown
  obtain ⟨given, -⟩ := answers session
  obtain ⟨grown', fails⟩ := safe session grown
  rw [run_bind]
  split
  · rename_i a middle ran
    rw [ran] at given grown'
    exact follows grown given.symm middle grown'
  · rename_i failure middle ran
    rw [ran] at grown' fails
    refine ⟨grown', fun reason given => fails reason ?_⟩
    cases given
    rfl

theorem safe_pure (a : α) : Safe first paths known (pure a : Action α) :=
  (answers_pure a).safe fun _ given => by cases given

theorem safe_throw (expected : known failure) : Safe first paths known (throw failure : Action α) :=
  (answers_throw failure).safe fun _ given => by
    cases given
    exact .inl expected

/-- Nothing that is said or noted is a change of the workspace. -/
theorem safe_note (events : List Event) : Safe first paths known (note events) :=
  fun _ grown => ⟨grown, fun _ given => by cases given⟩

theorem safe_say (level : Level) (channel : Channel) (text : String) :
    Safe first paths known (say level channel text) :=
  safe_note _

theorem safe_workspace : Safe first paths known workspace :=
  answers_workspace.safe fun _ given => by cases given

private theorem safe_confirm (question : String) (default : Bool) :
    Safe first paths known (confirm question default) :=
  fun _ grown => ⟨grown, fun _ given => by cases given⟩

theorem Safe.ite {other : Action α} (condition : Bool) (yes : Safe first paths known action)
    (no : Safe first paths known other) :
    Safe first paths known (if condition then action else other) := by
  cases condition with
  | true => exact yes
  | false => exact no

theorem Safe.timed (label : String) (safe : Safe first paths known action) :
    Safe first paths known (timed label action) := by
  intro session grown
  obtain ⟨given, stands⟩ := timed_run label action session
  rw [given, workspace_of_standing stands]
  exact safe session grown

/-- A change is safe when it is growth and its faults are known or escape. -/
theorem safe_change {c : Change α}
    (runs : ∀ {w w' result}, w.GrownFrom first → c.run w = (result, w') → w'.GrownFrom first ∧
      ∀ fault, result = .error fault → known (.file fault) ∨ Escapes first paths w' (.file fault)) :
    Safe first paths known (change c) := by
  intro session grown
  obtain ⟨grown', faults⟩ := runs grown rfl
  rw [change_run]
  refine ⟨grown', fun failure given => ?_⟩
  cases outcome : (c.run session.workspace).1 with
  | ok a =>
    simp only [outcome] at given
    cases given
  | error fault =>
    simp only [outcome] at given
    cases given
    exact faults fault outcome

/-- The refusals of the system, as they are before they are given another name. -/
def isSystemFault (failure : Failure) : Prop :=
  ∃ fault : Fault, failure = .file fault ∧ fault.isSystem = true

/-- The refusals of the system get another name, and what escapes goes on to do so. -/
theorem Safe.refusedAs {named : Fault → Failure} (safe : Safe first paths isSystemFault action)
    (expected : ∀ fault : Fault, fault.isSystem = true → known (named fault)) :
    Safe first paths known (Action.refusedAs named action) := by
  intro session grown
  obtain ⟨grown', fails⟩ := safe session grown
  rw [Action.refusedAs, run_tryCatch]
  split
  · rename_i a middle ran
    rw [ran] at grown'
    exact ⟨grown', fun _ given => by cases given⟩
  · rename_i reason middle ran
    rw [ran] at grown' fails
    rcases fails reason rfl with ⟨fault, rfl, system⟩ | escapes
    · refine ⟨grown', fun failure given => ?_⟩
      simp only [system, if_true, run_throw] at given
      cases given
      exact .inl (expected fault system)
    · cases escapes with
      | null among null =>
        refine ⟨grown', fun failure given => ?_⟩
        cases given
        exact .inr (.null among null)
      | loop lost =>
        refine ⟨grown', fun failure given => ?_⟩
        cases given
        exact .inr (.loop lost)

end Action

namespace Emission

open Scaffold.Action Files.Change

variable {first : Workspace} {paths : List Path} {path : Path} {known : Failure → Prop}
  {fault : Fault}

/-- A fault that fits a path is one of the system, or escapes. -/
theorem escapes_of_fits {w : Workspace} (fits : fault.Fits path)
    (among : path.hasNull = true → ∃ other ∈ paths, other.hasNull = true) :
    isSystemFault (.file fault) ∨ Escapes first paths w (.file fault) := by
  rcases fits with system | ⟨rfl, null⟩
  · exact .inl ⟨fault, rfl, system⟩
  · obtain ⟨other, among, null⟩ := among null
    exact .inr (.null among null)

private theorem safe_ensureDirectory
    (among : path.hasNull = true → ∃ other ∈ paths, other.hasNull = true) :
    Safe first paths isSystemFault (ensureDirectory path) := by
  refine (safe_change fun grown ran => ?_).bind fun _ => safe_say _ _ _
  refine ⟨grown.paves (makeDirectories_paves ran), fun fault failed => ?_⟩
  subst failed
  exact escapes_of_fits (makeDirectories_fault ran) among

private theorem safe_replace {bytes : Text.Bytes}
    (among : path.hasNull = true → ∃ other ∈ paths, other.hasNull = true) :
    Safe first paths isSystemFault (change (replace path bytes)) := by
  refine safe_change fun grown ran => ⟨?_, fun fault failed => ?_⟩
  · rcases replace_run ran with ⟨_, -, rfl⟩ | ⟨place, mode, -, rfl, lands⟩
    · exact grown
    · exact grown.set lands.located lands.solid
  · subst failed
    exact escapes_of_fits (replace_fault grown.clean ran) among

private theorem safe_append {bytes : Text.Bytes}
    (among : path.hasNull = true → ∃ other ∈ paths, other.hasNull = true) :
    Safe first paths isSystemFault (change (append path bytes)) := by
  refine safe_change fun grown ran => ⟨?_, fun fault failed => ?_⟩
  · rcases append_run ran with ⟨_, -, rfl⟩ | ⟨place, mode, old, -, rfl, located, held⟩
    · exact grown
    · refine grown.set located ?_
      rcases held with found | ⟨missing, -⟩
      · simp [found]
      · simp [missing]
  · subst failed
    exact escapes_of_fits (append_fault ran) among

private theorem safe_target (acyclic : first.Acyclic) (proper : path.Proper) :
    Safe first paths isSystemFault (change (ask (·.target path))) := by
  refine safe_change fun {w w' result} grown ran => ?_
  rw [ask_run] at ran
  cases ran
  refine ⟨grown, fun fault failed => ?_⟩
  obtain ⟨spelled, rfl⟩ := target_fault failed
  refine .inr (.loop (by_contra fun kept => ?_))
  obtain ⟨left, meant⟩ := target_known grown.tree (grown.acyclic acyclic kept) proper
  rw [meant] at failed
  cases failed

private theorem safe_writeText (acyclic : first.Acyclic) (proper : path.Proper)
    (among : path ∈ paths)
    (content : String) : Safe first paths isSystemFault (writeText path content true) := by
  refine Safe.afterAnswer (answers_ask (·.target path)) (safe_target acyclic proper)
    fun {w left} grown answered => ?_
  have meant : w.target path = .ok left := by
    cases target : w.target path with
    | error fault => simp [target] at answered
    | ok other =>
      rw [target] at answered
      cases answered
      rfl
  have null : left.hasNull = true → ∃ other ∈ paths, other.hasNull = true := by
    intro null
    refine ⟨path, among, by_contra fun free => ?_⟩
    rw [target_nullFree grown.clean meant (Bool.eq_false_iff.mpr free)] at null
    cases null
  exact (safe_ensureDirectory fun above => null (Path.hasNull_of_parent above)).bind fun _ =>
    (safe_replace null).bind fun _ => (safe_say _ _ _).bind fun _ => safe_pure _

private theorem safe_place (acyclic : first.Acyclic) (proper : path.Proper) (among : path ∈ paths)
    (named : ∀ fault : Fault, fault.isSystem = true → known (.artifact path fault))
    (content : String) : Safe first paths known (place path content) :=
  ((safe_writeText acyclic proper among content).refusedAs named).bind fun _ => safe_pure _

theorem safe_write (acyclic : first.Acyclic) (proper : path.Proper) (among : path ∈ paths)
    (named : ∀ fault : Fault, fault.isSystem = true → known (.artifact path fault))
    (content : String) : Safe first paths known (write path content) := by
  have placed := safe_place acyclic proper among named content
  refine safe_workspace.bind fun w => .ite _ ((safe_confirm _ _).bind fun _ => .ite _ ?_ ?_) ?_
  · exact placed.bind fun _ => (safe_say _ _ _).bind fun _ => safe_pure _
  · exact (safe_say _ _ _).bind fun _ => safe_pure _
  · exact placed.bind fun _ => (safe_say _ _ _).bind fun _ => safe_pure _

theorem safe_writeIfMissing (acyclic : first.Acyclic) (proper : path.Proper) (among : path ∈ paths)
    (named : ∀ fault : Fault, fault.isSystem = true → known (.artifact path fault))
    (content : String) : Safe first paths known (writeIfMissing path content) := by
  have placed := safe_place acyclic proper among named content
  refine safe_workspace.bind fun w => .ite _ ?_ ?_
  · exact (safe_say _ _ _).bind fun _ => safe_pure _
  · exact placed.bind fun _ => (safe_say _ _ _).bind fun _ => safe_pure _

theorem safe_appendRoute (among : path ∈ paths)
    (named : ∀ fault : Fault, fault.isSystem = true → known (.route path fault))
    (style : RouteStyle) (routeName controller : String) :
    Safe first paths known (appendRoute style path routeName controller) := by
  have null : path.hasNull = true → ∃ other ∈ paths, other.hasNull = true := (⟨path, among, ·⟩)
  have added : ∀ line, Safe first paths isSystemFault (addLine style path line) := by
    intro line
    exact (safe_ensureDirectory fun above => null (Path.hasNull_of_parent above)).bind fun _ =>
      safe_workspace.bind fun w => (safe_append null).bind fun _ =>
        .ite _ (safe_say _ _ _) (safe_pure _)
  exact ((added _).refusedAs named).bind fun _ => (safe_say _ _ _).bind fun _ => safe_pure _

end Emission

end Scaffold
