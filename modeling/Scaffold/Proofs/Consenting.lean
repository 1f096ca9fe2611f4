import Scaffold.Proofs.Histories
import Scaffold.Proofs.Seating

/-! Who consents to the loss of a file. Writing a file replaces what is there only when that was asked
about and allowed, with one gap, because looking at a path and writing to it are two things. A path
that finds nothing may still mean a file: a directory before two dots is made on the way, or a link
is followed to its end by its names alone. The gap is stated as a relation between paths and places,
and it is exact, for a file that is overlooked in this way is replaced. -/
namespace Scaffold

open Files Files.Workspace Text

namespace Files.Workspace

variable {w w' mid : Workspace} {atEnd : AtEnd} {links : Nat} {path left : Path}
  {here there place other : Location} {name : String} {steps : List String} {bytes old : Bytes}
  {mode : Nat}

/-- A path means a place: links are followed to their end, and what is missing on the way is taken for
a directory. Only the last name of what is left then is not followed, since that is what a new file
takes the place of. -/
def Means (w : Workspace) (path : Path) (place : Location) : Prop :=
  ∃ left front name parent, w.target path = .ok left ∧ left.names = front ++ [name] ∧
    w.LeadsTo true ⟨left.start, front⟩ parent ∧ place = parent ++ [name]

/-- A path means a place although looking at the path finds nothing. -/
def Overlooks (w : Workspace) (path : Path) (place : Location) : Prop :=
  w.isThere path = false ∧ w.Means path place

/-- A path means one place at most. -/
theorem Means.unique (means : w.Means path place) (means' : w.Means path other) : place = other := by
  obtain ⟨left, front, name, parent, target, names, leads, rfl⟩ := means
  obtain ⟨left', front', name', parent', target', names', leads', rfl⟩ := means'
  obtain rfl : left = left' := Except.ok.inj (target.symm.trans target')
  obtain ⟨rfl, last⟩ := List.append_inj' (names.symm.trans names') rfl
  rw [Leads.unique leads leads', last]

/-- A file that is put by way of a path lands at the place that the path means. -/
theorem Puts.means (tree : w.WellFormed) (puts : w.Puts w' path bytes left mid place mode) :
    w.Means path place := by
  have midTree := puts.paves.tree tree
  have walks := locate_walks puts.lands.located
  have solid := puts.lands.solid
  rcases List.eq_nil_or_concat' left.names with bare | ⟨front, name, names⟩
  · rw [bare] at walks
    cases walks
    exact absurd (midTree.directory_base left) solid
  · rw [names] at walks
    have real : isRealName name := by
      constructor
      · by_contra still
        exact solid (walks.last_pause (by simpa using still))
      · rintro rfl
        exact solid (walks.last_up midTree)
    obtain ⟨parent, same, leads, -⟩ := walks.last real (.inl rfl)
    have reached : mid.LeadsTo true ⟨left.start, front⟩ parent := leads
    exact ⟨left, front, name, parent, puts.target, names, reached.back puts.paves.extends, same⟩

/-- Putting a file changes the bytes at one place only. -/
theorem Puts.bytesAt_ne (puts : w.Puts w' path bytes left mid place mode) (different : other ≠ place) :
    w'.bytesAt other = w.bytesAt other := by
  rw [← puts.paves.toWidens.bytesAt_eq other, puts.result]
  unfold bytesAt
  rw [entryAt_set_ne different]

theorem Puts.bytesAt_eq (puts : w.Puts w' path bytes left mid place mode) :
    w'.bytesAt place = some bytes := by
  have real : place ≠ [] := by
    rintro rfl
    exact puts.lands.solid (entryAt_root mid)
  rw [puts.result]
  unfold bytesAt
  rw [entryAt_set_self real]

end Files.Workspace

namespace Emission

open Scaffold.Action Running

variable {session after : Session} {before now : Standing} {path : Path} {content : String}
  {place : Location} {old : Bytes}

/-- Someone was asked during a call whether a path may be overwritten, and said yes. -/
def Agreed (path : Path) (session after : Session) : Prop :=
  ∃ consent events, session.consent.answer (question path) true = (true, consent, events) ∧
    after.consent = consent ∧
    after.standing.decisions = session.standing.decisions ++ events

theorem PutsAt.means {w w' : Workspace} {bytes : Bytes} (tree : w.WellFormed)
    (puts : PutsAt w w' path bytes) (changed : w'.bytesAt place ≠ w.bytesAt place) :
    w.Means path place := by
  obtain ⟨left, mid, there, mode, puts⟩ := puts
  by_cases same : place = there
  · exact same ▸ puts.means tree
  · exact absurd (puts.bytesAt_ne same) changed

/-- A file whose bytes are changed by writing was asked about, or was overlooked. -/
theorem Writes.consented {outcome : Outcome} (tree : before.workspace.WellFormed)
    (writes : Writes path content outcome before now)
    (changed : now.workspace.bytesAt place ≠ before.workspace.bytesAt place) :
    outcome = .overwritten ∧ (∃ consent events,
        before.consent.answer (question path) true = (true, consent, events) ∧
        now.consent = consent ∧ now.decisions = before.decisions ++ events) ∨
      outcome = .created ∧ before.workspace.Overlooks path place := by
  cases writes with
  | skipped => exact absurd rfl changed
  | overwritten _ answered => exact .inl ⟨rfl, _, _, answered, rfl, rfl⟩
  | created absent puts => exact .inr ⟨rfl, absent, puts.means tree changed⟩

/-- A file that a path overlooks is replaced by what is written to the path. -/
theorem Writes.replaces {outcome : Outcome} (tree : before.workspace.WellFormed)
    (writes : Writes path content outcome before now)
    (overlooked : before.workspace.Overlooks path place) :
    outcome = .created ∧ now.workspace.bytesAt place = some (encode content) := by
  obtain ⟨absent, means⟩ := overlooked
  cases writes with
  | skipped there | overwritten there =>
    rw [absent] at there
    cases there
  | created _ puts =>
    obtain ⟨left, mid, there, mode, puts⟩ := puts
    obtain rfl := means.unique (puts.means tree)
    exact ⟨rfl, puts.bytesAt_eq⟩

theorem WriteFails.bytesAt_eq {failure : Failure} (fails : WriteFails path failure before now)
    (place : Location) : now.workspace.bytesAt place = before.workspace.bytesAt place := by
  obtain ⟨way, paves⟩ := fails.paves
  exact paves.toWidens.bytesAt_eq place

/-- Where something is, writing what is missing does nothing. -/
theorem writeIfMissing_there {result : Except Failure Outcome}
    (there : session.workspace.isThere path = true)
    (ran : (writeIfMissing path content).run session = (result, after)) :
    result = .ok .skipped ∧ after.workspace = session.workspace := by
  simp only [writeIfMissing, workspace, run_bind, run_get, run_pure, there, if_true] at ran
  cases ran
  exact ⟨rfl, rfl⟩

/-- No file that was there before is changed without consent. Writing a file changes the bytes of
another one, or of its own, only when that was asked about in the call and the answer was yes; writing
one that is missing never does. Files that the path overlooks are the exception, and each call that
overlooks one and comes to its end has replaced it. -/
theorem replacement_needs_consent (tree : session.workspace.WellFormed)
    (held : session.workspace.bytesAt place = some old) :
    (∀ result after, (write path content).run session = (result, after) →
      after.workspace.bytesAt place ≠ some old →
        result = .ok .overwritten ∧ Agreed path session after ∨
          result = .ok .created ∧ session.workspace.Overlooks path place) ∧
    (∀ result after, (writeIfMissing path content).run session = (result, after) →
      after.workspace.bytesAt place ≠ some old →
        result = .ok .created ∧ session.workspace.Overlooks path place) ∧
    (session.workspace.Overlooks path place → ∀ outcome after,
      (write path content).run session = (.ok outcome, after) ∨
        (writeIfMissing path content).run session = (.ok outcome, after) →
      outcome = .created ∧ after.workspace.bytesAt place = some (encode content)) := by
  rw [← held]
  refine ⟨fun result after ran changed => ?_, fun result after ran changed => ?_, ?_⟩
  · rcases write_run ran with ⟨outcome, rfl, writes⟩ | ⟨failure, -, fails⟩
    · rcases writes.consented tree changed with ⟨rfl, agreed⟩ | ⟨rfl, overlooked⟩
      · exact .inl ⟨rfl, agreed⟩
      · exact .inr ⟨rfl, overlooked⟩
    · exact absurd (fails.bytesAt_eq place) changed
  · cases there : session.workspace.isThere path with
    | true =>
      obtain ⟨-, same⟩ := writeIfMissing_there there ran
      exact absurd (congrArg (bytesAt · place) same) changed
    | false =>
      rcases writeIfMissing_run there ran with ⟨rfl, writes⟩ | ⟨failure, -, fails⟩
      · rcases writes.consented tree changed with ⟨asked, -⟩ | ⟨-, overlooked⟩
        · cases asked
        · exact ⟨rfl, overlooked⟩
      · exact absurd (fails.bytesAt_eq place) changed
  · rintro overlooked outcome after (ran | ran)
    · rcases write_run ran with ⟨_, same, writes⟩ | ⟨_, failed, -⟩
      · cases same
        exact writes.replaces tree overlooked
      · cases failed
    · rcases writeIfMissing_run overlooked.1 ran with ⟨same, writes⟩ | ⟨_, failed, -⟩
      · cases same
        exact writes.replaces tree overlooked
      · cases failed

/-- A session with one file, in which the answer to every question is the same. -/
def oneFileSession (answer : Bool) : Session where
  workspace := { home := [], entries := [(["o"], .file 0o644 [33])] }
  consent := .always answer

private theorem oneFile_wellFormed (answer : Bool) :
    (oneFileSession answer).workspace.WellFormed := by
  refine .of_entries rfl fun known member => ?_
  obtain rfl := List.mem_singleton.mp member
  exact ⟨rfl, by decide⟩

/-- A file that is replaced with consent was asked about. -/
theorem replacement_needs_consent_given :
    ∃ after, (write ⟨.here, ["o"]⟩ "c").run (oneFileSession true) = (.ok .overwritten, after) ∧
      after.workspace.bytesAt ["o"] = some [99] ∧
      Agreed ⟨.here, ["o"]⟩ (oneFileSession true) after := by
  have written : ((write ⟨.here, ["o"]⟩ "c").run (oneFileSession true)).2.workspace.bytesAt ["o"] =
      some [99] := by decide +kernel
  rcases ran : (write ⟨.here, ["o"]⟩ "c").run (oneFileSession true) with ⟨result, after⟩
  rw [ran] at written
  have held : (oneFileSession true).workspace.bytesAt ["o"] = some [33] := rfl
  have changed : after.workspace.bytesAt ["o"] ≠ some [33] := by
    rw [written]
    decide
  obtain ⟨guarded, -⟩ := replacement_needs_consent (oneFile_wellFormed true) held
  rcases guarded result after ran changed with ⟨rfl, agreed⟩ | ⟨-, absent, -⟩
  · exact ⟨after, rfl, written, agreed⟩
  · exact absurd absent (by decide +kernel)

/-- Without consent, and without a question, a file is replaced by way of a directory that is missing:
once the directory is made, two dots lead out of it again. -/
theorem replaced_without_consent :
    (oneFileSession false).workspace.WellFormed ∧
      (oneFileSession false).workspace.bytesAt ["o"] = some [33] ∧
      ((write ⟨.here, ["n", "..", "o"]⟩ "c").run (oneFileSession false)).2.workspace.bytesAt ["o"] =
        some [99] ∧
      ¬ Agreed ⟨.here, ["n", "..", "o"]⟩ (oneFileSession false)
        ((write ⟨.here, ["n", "..", "o"]⟩ "c").run (oneFileSession false)).2 ∧
      ((writeIfMissing ⟨.here, ["n", "..", "o"]⟩ "c").run
        (oneFileSession false)).2.workspace.bytesAt ["o"] = some [99] := by
  refine ⟨oneFile_wellFormed false, rfl, by decide +kernel, ?_, by decide +kernel⟩
  rintro ⟨consent, events, answered, -⟩
  cases answered

end Emission

end Scaffold
