import Scaffold.Proofs.Writing

/-! What registering a route does to the routes file. The line goes behind all that the file has,
after the header when there is nothing yet. When it cannot, directories are made at most. -/
namespace Scaffold.Files.Workspace

variable {w : Workspace} {here there : Location} {steps : List String} {path : Path}

/-- A walk to where a file can be made is one to what is there. -/
theorem Walks.followed {links : Nat} (walks : w.Walks .make links here steps there) :
    w.Walks .follow links here steps there := by
  induction walks with
  | stop links here => exact .stop links here
  | pause inside still _ ih => exact .pause inside still ih
  | up inside _ ih => exact .up inside ih
  | name inside real _ unlinked _ ih => exact .name inside real (by simp) unlinked ih
  | stay _ _ ends => cases ends
  | link inside real _ _ found _ ih => exact .link inside real (by simp) (by simp) found ih

theorem locate_follow (located : w.locate .make path = .ok there) :
    w.locate .follow path = .ok there :=
  locate_of_walks (hasNull_of_locate located) (locate_walks located).followed

end Scaffold.Files.Workspace

namespace Scaffold.Emission

open Files Files.Workspace Files.Change Scaffold.Action Running Text

variable {style : RouteStyle} {path : Path} {line : String} {session after : Session}

/-- The text that goes behind what a routes file has. -/
def RouteStyle.addition (style : RouteStyle) (old : Bytes) (line : String) : String :=
  (if old.isEmpty then style.header else "") ++ line ++ "\n"

/-- Adding a line to the routes file at a place. -/
structure Adds (style : RouteStyle) (path : Path) (line : String) (w w' mid : Workspace)
    (place : Location) (mode : Nat) (old : Bytes) : Prop where
  paves : w.Paves mid path.parent
  located : mid.locate .make path = .ok place
  held : mid.entryAt place = some (.file mode old) ∨
    mid.entryAt place = none ∧ mode = newMode ∧ old = []
  result : w' = mid.set place (.file mode (old ++ encode (style.addition old line)))

section

variable {w w' mid : Workspace} {place goal : Location} {mode : Nat} {old : Bytes}

theorem Adds.solid (adds : Adds style path line w w' mid place mode old) :
    mid.entryAt place ≠ some .directory := by
  rcases adds.held with found | ⟨missing, -⟩
  · simp [found]
  · simp [missing]

/-- Adding a line is growth. -/
theorem Adds.grows (adds : Adds style path line w w' mid place mode old) : w.Grows w' := by
  rw [adds.result]
  exact adds.paves.extends.toGrows.trans (grows_set_file adds.solid)

/-- Adding a line leaves a tree. -/
theorem Adds.tree (tree : w.WellFormed) (adds : Adds style path line w w' mid place mode old) :
    w'.WellFormed := by
  have midTree := adds.paves.tree tree
  have walks := locate_walks adds.located
  rw [adds.result]
  exact midTree.set adds.solid (walks.spot midTree (midTree.directory_base path)) _

/-- Adding a line to a straight path puts it behind what the file held. -/
theorem Adds.delivers (tree : w.WellFormed) (proper : path.Proper) (leads : w.LeadsTo false path goal)
    (adds : Adds style path line w w' mid place mode old) :
    old = (w.bytesAt goal).getD [] ∧
      w.Delivers w' goal (old ++ encode (style.addition old line)) := by
  obtain rfl : place = goal :=
    Leads.unique (leadsTo_of_locate adds.located (by simp)) (leads.forth adds.paves.extends)
  have same : mid.entryAt place = w.entryAt place := adds.paves.entryAt_eq adds.solid
  have written := adds.tree tree
  rw [adds.result] at written ⊢
  have known : mode = w.modeAt place ∧ old = (w.bytesAt place).getD [] := by
    rw [modeAt, bytesAt, ← same]
    rcases adds.held with found | ⟨missing, rfl, rfl⟩
    · simp [found]
    · simp [missing]
  obtain ⟨rfl, bytes⟩ := known
  exact ⟨bytes, adds.paves.delivers tree proper leads adds.solid written⟩

end

/-- The place of a file is fresh exactly when it has no bytes. -/
theorem isFresh_eq {w : Workspace} {place : Location} {mode : Nat} {old : Bytes}
    (located : w.locate .make path = .ok place)
    (held : w.entryAt place = some (.file mode old) ∨
      w.entryAt place = none ∧ mode = newMode ∧ old = []) :
    isFresh w path = old.isEmpty := by
  rw [isFresh, find?, locate_follow located]
  rcases held with found | ⟨missing, -, rfl⟩
  · simp only [found]
  · simp only [missing, List.isEmpty_nil]

/-- What is said at the end when a header went in, which nobody has to decide. -/
theorem answers_note {headed : Bool} : Answers
    (if headed then say .debug .routes ("Wrote routes header to " ++ path.text) else pure ())
    fun _ => .ok () := by
  cases headed with
  | true => exact answers_say rfl
  | false => exact answers_pure ()

theorem addition_eq {w : Workspace} {place : Location} {mode : Nat} {old : Bytes}
    (located : w.locate .make path = .ok place)
    (held : w.entryAt place = some (.file mode old) ∨
      w.entryAt place = none ∧ mode = newMode ∧ old = []) :
    (if isFresh w path && !style.header.isEmpty then style.header else "") ++ line ++ "\n" =
      style.addition old line := by
  rw [RouteStyle.addition, isFresh_eq located held]
  cases bare : style.header.isEmpty with
  | false => simp
  | true => simp [String.isEmpty_iff.mp bare]

private theorem addLine_run {result : Except Failure Unit}
    (ran : (addLine style path line).run session = (result, after)) :
    (∃ w' mid place mode old, result = .ok () ∧
        Adds style path line session.workspace w' mid place mode old ∧
        after.standing = session.standing.within w') ∨
      ∃ fault w', result = .error (.file fault) ∧ session.workspace.Paves w' path.parent ∧
        after.standing = session.standing.within w' := by
  rw [addLine, run_bind] at ran
  cases ensured : (ensureDirectory path.parent).run session with
  | mk outcome first =>
  obtain ⟨mid, paves, stands, outcomes⟩ := ensureDirectory_run ensured
  have inMid : first.workspace = mid := congrArg Standing.workspace stands
  rw [ensured] at ran
  rcases outcomes with rfl | ⟨fault, rfl⟩
  · simp only [workspace, run_bind, run_get, run_pure, change_run, inMid] at ran
    cases appended : (append path (encode ((if isFresh mid path && !style.header.isEmpty then
        style.header else "") ++ line ++ "\n"))).run mid with
    | mk outcome w' =>
    rw [appended] at ran
    rcases append_run appended with ⟨fault, rfl, rfl⟩ | ⟨place, mode, old, rfl, rfl, located, held⟩
    · cases ran
      exact .inr ⟨fault, _, rfl, paves, congrArg (Standing.within · _) stands⟩
    · obtain ⟨rfl, stands'⟩ := answers_note.gives ran
      refine .inl ⟨_, mid, place, mode, old, rfl, ⟨paves, located, held, rfl⟩, ?_⟩
      rw [stands', addition_eq located held]
      exact congrArg (Standing.within · _) stands
  · cases ran
    exact .inr ⟨fault, mid, rfl, paves, stands⟩

/-- Registering a route adds its statement to the routes file, or fails and makes directories at
most. -/
theorem appendRoute_run {routeName controller : String} {result : Except Failure String}
    (ran : (appendRoute style path routeName controller).run session = (result, after)) :
    (∃ w' mid place mode old, result = .ok (style.line routeName controller) ∧
        Adds style path (style.line routeName controller) session.workspace w' mid place mode old ∧
        after.standing = session.standing.within w') ∨
      ∃ fault w', result = .error (refusal (.route path) fault) ∧
        session.workspace.Paves w' path.parent ∧
        after.standing = session.standing.within w' := by
  rw [appendRoute, run_bind, refusedAs, run_tryCatch] at ran
  cases added : (addLine style path (style.line routeName controller)).run session with
  | mk outcome middle =>
  rw [added] at ran
  rcases addLine_run added with ⟨w', mid, place, mode, old, rfl, adds, stands⟩ |
    ⟨fault, w', rfl, paves, stands⟩
  · have said : Answers (do
        say .info .routes ("Appended route to " ++ path.text ++ ": " ++
          style.line routeName controller)
        return style.line routeName controller : Action String)
        fun _ => .ok (style.line routeName controller) := (answers_pure _).afterSaying rfl
    obtain ⟨rfl, stands'⟩ := said.gives ran
    exact .inl ⟨w', mid, place, mode, old, rfl, adds, stands'.trans stands⟩
  · cases ran
    exact .inr ⟨fault, w', rfl, paves, stands⟩

end Scaffold.Emission
