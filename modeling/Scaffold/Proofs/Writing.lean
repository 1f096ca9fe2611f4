import Scaffold.Emission.Artifact
import Scaffold.Emission.Route
import Scaffold.Proofs.Landing
import Scaffold.Proofs.Sessions

/-! What writing a generated file does to a session. A file that is there is asked about once; what
is declined leaves the workspace as it is. Otherwise the file lands where its path means, or the
writing fails and has made directories at most. -/
namespace Scaffold.Emission

open Files Files.Workspace Scaffold.Action Running Text

variable {path : Path} {content : String} {session after : Session}

/-- The failure of an action that was refused for a fault. -/
def refusal (failure : Fault → Failure) (fault : Fault) : Failure :=
  if fault.isSystem then failure fault else .file fault

/-- Writing some bytes to a path takes one workspace to another. -/
def PutsAt (w w' : Workspace) (path : Path) (bytes : Bytes) : Prop :=
  ∃ left mid place mode, w.Puts w' path bytes left mid place mode

private theorem enacts_ensureDirectory (path : Path) :
    Enacts (ensureDirectory path) (Change.makeDirectories path) := by
  have said : Enacts (ensureDirectory path) (Change.makeDirectories path >>= fun _ => pure ()) :=
    (enacts_change _).bind fun _ => enacts_say rfl
  rwa [bind_pure_unit] at said

theorem ensureDirectory_run {result : Except Failure Unit}
    (ran : (ensureDirectory path).run session = (result, after)) :
    ∃ w', session.workspace.Paves w' path ∧ after.standing = session.standing.within w' ∧
      (result = .ok () ∨ ∃ fault, result = .error (.file fault)) := by
  obtain ⟨given, stands⟩ := (enacts_ensureDirectory path).gives ran
  refine ⟨_, Change.makeDirectories_paves rfl, stands, ?_⟩
  rw [given]
  cases ((Change.makeDirectories path).run session.workspace).1 with
  | error fault => exact .inr ⟨fault, rfl⟩
  | ok _ => exact .inl rfl

/-- Putting bytes at what a path means, in one step or in place, after the directories above that. -/
def put (path : Path) (bytes : Bytes) (inOneStep : Bool) : Change Nat := do
  let left ← Change.ask (·.target path)
  Change.makeDirectories left.parent
  if inOneStep then Change.replace left bytes else Change.overwrite left bytes
  return bytes.length

theorem put_run {w : Workspace} {left : Path} {bytes : Bytes} (meant : w.target path = .ok left)
    (inOneStep : Bool) : (put path bytes inOneStep).run w =
      match (Change.makeDirectories left.parent).run w with
      | (.error fault, mid) => (.error fault, mid)
      | (.ok _, mid) =>
        match (if inOneStep then Change.replace left bytes else Change.overwrite left bytes).run mid with
        | (.error fault, w') => (.error fault, w')
        | (.ok _, w') => (.ok bytes.length, w') := by
  simp only [put, run_bind, Change.ask_run, meant]
  rcases (Change.makeDirectories left.parent).run w with ⟨_ | _, mid⟩
  · rfl
  · cases inOneStep with
    | true =>
      simp only [if_true, run_bind]
      rcases (Change.replace left bytes).run mid with ⟨_ | _, w'⟩ <;> rfl
    | false =>
      simp only [Bool.false_eq_true, if_false, run_bind]
      rcases (Change.overwrite left bytes).run mid with ⟨_ | _, w'⟩ <;> rfl

theorem enacts_writeText (path : Path) (content : String) (inOneStep : Bool) :
    Enacts (writeText path content inOneStep) (put path (encode content) inOneStep) := by
  have ended : ∀ text, Enacts
      (do say .debug .files text; return (encode content).length) (pure (encode content).length) := by
    intro text
    have said : Enacts (do say .debug .files text; return (encode content).length)
        (pure () >>= fun _ => pure (encode content).length) :=
      (enacts_say rfl).bind fun _ => enacts_pure _
    rwa [pure_bind] at said
  refine (enacts_change _).bind fun left => (enacts_ensureDirectory _).bind fun _ => ?_
  cases inOneStep with
  | true => exact (enacts_change _).bind fun _ => ended _
  | false => exact (enacts_change _).bind fun _ => ended _

/-- Writing a text in one step puts its bytes at the path, or makes directories at most. -/
theorem writeText_run {result : Except Failure Nat}
    (ran : (writeText path content true).run session = (result, after)) :
    (∃ w', result = .ok (encode content).length ∧
        PutsAt session.workspace w' path (encode content) ∧
        after.standing = session.standing.within w') ∨
      ∃ fault w' way, result = .error (.file fault) ∧ session.workspace.Paves w' way ∧
        after.standing = session.standing.within w' := by
  obtain ⟨rfl, stands⟩ := (enacts_writeText path content true).gives ran
  rw [stands]
  cases target : session.workspace.target path with
  | error fault =>
    have refused : (put path (encode content) true).run session.workspace =
        (.error fault, session.workspace) := by
      simp only [put, run_bind, Change.ask_run, target]
    rw [refused]
    exact .inr ⟨fault, session.workspace, path, rfl, .refl _ _, rfl⟩
  | ok left =>
    rw [put_run target]
    rcases made : (Change.makeDirectories left.parent).run session.workspace with ⟨fault | _, mid⟩
    · exact .inr ⟨fault, mid, _, rfl, Change.makeDirectories_paves made, rfl⟩
    · have paves := Change.makeDirectories_paves made
      simp only [if_true]
      rcases replaced : (Change.replace left (encode content)).run mid with ⟨outcome, w'⟩
      rcases Change.replace_run replaced with ⟨fault, rfl, rfl⟩ | ⟨place, mode, rfl, rfl, lands⟩
      · exact .inr ⟨fault, _, _, rfl, paves, rfl⟩
      · exact .inl ⟨_, rfl, ⟨left, mid, place, mode, target, paves, lands, rfl⟩, rfl⟩

private theorem place_run {result : Except Failure Unit}
    (ran : (place path content).run session = (result, after)) :
    (∃ w', result = .ok () ∧ PutsAt session.workspace w' path (encode content) ∧
        after.standing = session.standing.within w') ∨
      ∃ fault w' way, result = .error (refusal (.artifact path) fault) ∧
        session.workspace.Paves w' way ∧ after.standing = session.standing.within w' := by
  rw [place, run_bind, refusedAs, run_tryCatch] at ran
  cases wrote : (writeText path content true).run session with
  | mk outcome middle =>
  rw [wrote] at ran
  rcases writeText_run wrote with ⟨w', rfl, puts, stands⟩ | ⟨fault, w', way, rfl, paves, stands⟩
  · cases ran
    exact .inl ⟨w', rfl, puts, stands⟩
  · cases ran
    exact .inr ⟨fault, w', way, rfl, paves, stands⟩

/-! ## Outcomes -/

/-- What each outcome of writing a file to a path means for a session. -/
inductive Writes (path : Path) (content : String) : Outcome → Standing → Standing → Prop where
  | skipped {standing : Standing} {consent : Consent} {events : List Event}
      (there : standing.workspace.isThere path = true)
      (answered : standing.consent.answer (question path) true = (false, consent, events)) :
      Writes path content .skipped standing (standing.decided consent events)
  | overwritten {standing : Standing} {consent : Consent} {events : List Event} {w' : Workspace}
      (there : standing.workspace.isThere path = true)
      (answered : standing.consent.answer (question path) true = (true, consent, events))
      (puts : PutsAt standing.workspace w' path (encode content)) :
      Writes path content .overwritten standing ((standing.decided consent events).within w')
  | created {standing : Standing} {w' : Workspace}
      (absent : standing.workspace.isThere path = false)
      (puts : PutsAt standing.workspace w' path (encode content)) :
      Writes path content .created standing (standing.within w')

/-- What a failure to write a file to a path leaves: new directories at most, and a decision when
there was something to decide. -/
structure WriteFails (path : Path) (failure : Failure) (before after : Standing) : Prop where
  reason : ∃ fault, failure = refusal (.artifact path) fault
  paves : ∃ way, before.workspace.Paves after.workspace way
  stage : after.stage = before.stage
  artifacts : after.artifacts = before.artifacts
  routeLine : after.routeLine = before.routeLine

/-- Writing a file is no step of the run, and the report does not know of it yet. -/
theorem Writes.report {outcome : Outcome} {before after : Standing}
    (writes : Writes path content outcome before after) :
    after.stage = before.stage ∧ after.artifacts = before.artifacts ∧
      after.routeLine = before.routeLine := by
  cases writes <;> exact ⟨rfl, rfl, rfl⟩

/-- Writing a file is growth and leaves a tree. -/
theorem Writes.grows {outcome : Outcome} {before after : Standing}
    (tree : before.workspace.WellFormed) (writes : Writes path content outcome before after) :
    before.workspace.Grows after.workspace ∧ after.workspace.WellFormed := by
  cases writes with
  | skipped => exact ⟨.refl _, tree⟩
  | overwritten _ _ puts | created _ puts =>
    obtain ⟨left, mid, there, mode, puts⟩ := puts
    exact ⟨puts.grows, puts.tree tree⟩

theorem confirm_run (question : String) (default : Bool) (session : Session) :
    (confirm question default).run session =
      (.ok (session.consent.answer question default).1,
        { session with
          consent := (session.consent.answer question default).2.1
          trace := (session.consent.answer question default).2.2.reverse ++ session.trace }) :=
  rfl

private theorem standing_confirm {question : String} {default answer : Bool} {consent : Consent}
    {events : List Event}
    (answered : session.consent.answer question default = (answer, consent, events)) :
    ({ session with consent := consent, trace := events.reverse ++ session.trace } : Session).standing
      = session.standing.decided consent events := by
  have decides := Consent.answer_decides answered
  simp [Session.standing, Session.events, Standing.decided, decides]

/-- What placing a file means for a session: the file is put where its path means, or there is a
failure and directories are made at most. -/
inductive Places (path : Path) (content : String) (outcome : Outcome) (before : Standing) :
    Except Failure Outcome → Standing → Prop where
  | placed {w' : Workspace} (puts : PutsAt before.workspace w' path (encode content)) :
      Places path content outcome before (.ok outcome) (before.within w')
  | refused {fault : Fault} {w' : Workspace} {way : Path} (paves : before.workspace.Paves w' way) :
      Places path content outcome before (.error (refusal (.artifact path) fault)) (before.within w')

/-- Placing a file and saying so. -/
theorem place_say {outcome : Outcome} {text : String} {result : Except Failure Outcome}
    (ran : (do
      place path content
      say .info .emitter text
      return outcome : Action Outcome).run session = (result, after)) :
    Places path content outcome session.standing result after.standing := by
  rw [run_bind] at ran
  cases placed : (place path content).run session with
  | mk first middle =>
  rw [placed] at ran
  rcases place_run placed with ⟨w', rfl, puts, stands⟩ | ⟨fault, w', way, rfl, paves, stands⟩
  · have said : Answers (do say .info .emitter text; return outcome : Action Outcome)
        fun _ => .ok outcome := (answers_pure outcome).afterSaying rfl
    obtain ⟨rfl, stands'⟩ := said.gives ran
    rw [stands', stands]
    exact .placed puts
  · cases ran
    rw [stands]
    exact .refused paves

/-- All that writing a file can do to a session. Nobody is asked where nothing is; else the answer
decides. -/
inductive WriteEnds (path : Path) (content : String) (before : Standing) :
    Except Failure Outcome → Standing → Prop where
  | absent {result : Except Failure Outcome} {after : Standing}
      (absent : before.workspace.isThere path = false)
      (places : Places path content .created before result after) :
      WriteEnds path content before result after
  | agreed {consent : Consent} {events : List Event} {result : Except Failure Outcome}
      {after : Standing} (there : before.workspace.isThere path = true)
      (answered : before.consent.answer (question path) true = (true, consent, events))
      (places : Places path content .overwritten (before.decided consent events) result after) :
      WriteEnds path content before result after
  | declined {consent : Consent} {events : List Event}
      (there : before.workspace.isThere path = true)
      (answered : before.consent.answer (question path) true = (false, consent, events)) :
      WriteEnds path content before (.ok .skipped) (before.decided consent events)

theorem write_ends {result : Except Failure Outcome}
    (ran : (write path content).run session = (result, after)) :
    WriteEnds path content session.standing result after.standing := by
  have looked : (write path content).run session = (if session.workspace.isThere path then do
      if ← confirm (question path) true then
        place path content
        say .info .emitter ("Overwrote " ++ path.text)
        return .overwritten
      else
        say .info .emitter ("Skipped " ++ path.text ++ " (overwrite declined).")
        return .skipped
    else do
      place path content
      say .info .emitter ("Created " ++ path.text)
      return .created : Action Outcome).run session := by
    simp only [write, workspace, run_bind, run_get, run_pure]
  rw [looked] at ran
  cases there : session.workspace.isThere path with
  | true =>
    rw [if_pos there, run_bind, confirm_run] at ran
    cases answered : session.consent.answer (question path) true with
    | mk answer rest =>
    obtain ⟨consent, events⟩ := rest
    have stands := standing_confirm answered
    simp only [answered] at ran
    cases answer with
    | true =>
      simp only [if_true] at ran
      exact .agreed there answered (stands ▸ place_say ran)
    | false =>
      simp only [Bool.false_eq_true, if_false] at ran
      have said : Answers (do
          say .info .emitter ("Skipped " ++ path.text ++ " (overwrite declined).")
          return Outcome.skipped : Action Outcome) fun _ => .ok .skipped :=
        (answers_pure _).afterSaying rfl
      obtain ⟨rfl, stands'⟩ := said.gives ran
      rw [stands', stands]
      exact .declined there answered
  | false =>
    rw [if_neg (by simp [there])] at ran
    exact .absent there (place_say ran)

/-- Writing a file has one of its outcomes, or fails without having changed any file. -/
theorem write_run {result : Except Failure Outcome}
    (ran : (write path content).run session = (result, after)) :
    (∃ outcome, result = .ok outcome ∧ Writes path content outcome session.standing after.standing) ∨
      ∃ failure, result = .error failure ∧
        WriteFails path failure session.standing after.standing := by
  have ends := write_ends ran
  generalize after.standing = stood at ends
  cases ends with
  | absent absent places =>
    cases places with
    | placed puts => exact .inl ⟨_, rfl, .created absent puts⟩
    | refused paves => exact .inr ⟨_, rfl, ⟨_, rfl⟩, ⟨_, paves⟩, rfl, rfl, rfl⟩
  | agreed there answered places =>
    cases places with
    | placed puts => exact .inl ⟨_, rfl, .overwritten there answered puts⟩
    | refused paves => exact .inr ⟨_, rfl, ⟨_, rfl⟩, ⟨_, paves⟩, rfl, rfl, rfl⟩
  | declined there answered => exact .inl ⟨_, rfl, .skipped there answered⟩

/-- Writing a file where none may be asks nobody. -/
theorem writeIfMissing_run {result : Except Failure Outcome}
    (absent : session.workspace.isThere path = false)
    (ran : (writeIfMissing path content).run session = (result, after)) :
    (result = .ok .created ∧ Writes path content .created session.standing after.standing) ∨
      ∃ failure, result = .error failure ∧
        WriteFails path failure session.standing after.standing := by
  have looked : (writeIfMissing path content).run session = (do
      place path content
      say .info .emitter ("Created " ++ path.text)
      return .created : Action Outcome).run session := by
    simp only [writeIfMissing, workspace, run_bind, run_get, run_pure, absent, Bool.false_eq_true,
      if_false]
  rw [looked] at ran
  have places := place_say ran
  generalize after.standing = stood at places
  cases places with
  | placed puts => exact .inl ⟨rfl, .created absent puts⟩
  | refused paves => exact .inr ⟨_, rfl, ⟨_, rfl⟩, ⟨_, paves⟩, rfl, rfl, rfl⟩

end Scaffold.Emission
