import Scaffold.Proofs.Running

/-! How a session stands: everything about it that counts, which leaves out what was merely said.
Most actions only look and speak; they leave the standing of a session as it is, and what they give
depends on the workspace alone. -/
namespace Scaffold

open Files Generation Emission Running

/-- Whether an event belongs to a decision about overwriting: a question that was put to someone, or
the word of a standing decision, which is what the emitter says at its lowest level in a run. -/
def Event.isDecision : Event → Bool
  | .asked _ | .prompted _ | .inputEnded | .message .debug .emitter _ => true
  | _ => false

structure Standing where
  workspace : Workspace
  consent : Consent
  decisions : List Event
  stage : Stage
  artifacts : List Artifact
  routeLine : Option String

/-- What counts about a session. -/
def Session.standing (session : Session) : Standing where
  workspace := session.workspace
  consent := session.consent
  decisions := session.events.filter Event.isDecision
  stage := session.report.stage
  artifacts := session.report.artifacts
  routeLine := session.report.routeLine

namespace Standing

/-- The same with another workspace. -/
def within (standing : Standing) (w : Workspace) : Standing :=
  { standing with workspace := w }

/-- The same after a decision. -/
def decided (standing : Standing) (consent : Consent) (events : List Event) : Standing :=
  { standing with consent := consent, decisions := standing.decisions ++ events }

@[simp] theorem within_workspace (standing : Standing) (w : Workspace) :
    (standing.within w).workspace = w := rfl

@[simp] theorem decided_workspace (standing : Standing) (consent : Consent) (events : List Event) :
    (standing.decided consent events).workspace = standing.workspace := rfl

end Standing

/-- All that an answer leaves in the trace belongs to the decision. -/
theorem Consent.answer_decides {consent next : Consent} {question : String} {default answer : Bool}
    {events : List Event} (answered : consent.answer question default = (answer, next, events)) :
    events.filter Event.isDecision = events := by
  unfold Consent.answer at answered
  split at answered <;> cases answered <;> rfl

namespace Action

variable {α β : Type} {action : Action α} {next : α → Action β} {session after : Session}

theorem note_run (events : List Event) (session : Session) :
    (note events).run session = (.ok (), { session with trace := events.reverse ++ session.trace }) :=
  rfl

theorem standing_note (events : List Event) (session : Session) :
    ({ session with trace := events.reverse ++ session.trace } : Session).standing =
      { session.standing with
        decisions := session.standing.decisions ++ events.filter Event.isDecision } := by
  simp [Session.standing, Session.events]

/-- An action that only looks: what it gives depends on the workspace, and nothing changes. -/
def Answers (action : Action α) (answer : Workspace → Except Failure α) : Prop :=
  ∀ session, (action.run session).1 = answer session.workspace ∧
    (action.run session).2.standing = session.standing

theorem Answers.gives {answer : Workspace → Except Failure α} (answers : Answers action answer)
    {result : Except Failure α} (ran : action.run session = (result, after)) :
    result = answer session.workspace ∧ after.standing = session.standing := by
  have given := answers session
  rwa [ran] at given

theorem workspace_of_standing {first second : Session} (same : first.standing = second.standing) :
    first.workspace = second.workspace :=
  congrArg Standing.workspace same

theorem consent_of_standing {first second : Session} (same : first.standing = second.standing) :
    first.consent = second.consent :=
  congrArg Standing.consent same

/-! ## Actions that only look -/

theorem answers_pure (a : α) : Answers (pure a : Action α) fun _ => .ok a :=
  fun _ => ⟨rfl, rfl⟩

theorem answers_throw (failure : Failure) :
    Answers (throw failure : Action α) fun _ => .error failure :=
  fun _ => ⟨rfl, rfl⟩

theorem Answers.bind {f : Workspace → Except Failure α} {g : α → Workspace → Except Failure β}
    (first : Answers action f) (second : ∀ a, Answers (next a) (g a)) :
    Answers (action >>= next) fun w => f w >>= fun a => g a w := by
  intro session
  obtain ⟨given, stands⟩ := first session
  rw [run_bind]
  split
  · rename_i a middle ran
    rw [ran] at given stands
    obtain ⟨given', stands'⟩ := second a middle
    rw [workspace_of_standing stands] at given'
    have looked : f session.workspace = .ok a := given.symm
    refine ⟨?_, stands'.trans stands⟩
    simp only [given', looked]
    rfl
  · rename_i failure middle ran
    rw [ran] at given stands
    have looked : f session.workspace = .error failure := given.symm
    refine ⟨?_, stands⟩
    simp only [looked]
    rfl

theorem Answers.congr {f g : Workspace → Except Failure α} (answers : Answers action f)
    (same : ∀ w, f w = g w) : Answers action g :=
  fun session => ⟨(answers session).1.trans (same _), (answers session).2⟩

/-- Looking at the workspace first. What follows needs to give the answer for that workspace only. -/
theorem Answers.ofWorkspace {next : Workspace → Action α} {answer : Workspace → Except Failure α}
    (answers : ∀ w, ∃ f, Answers (next w) f ∧ f w = answer w) :
    Answers (Action.workspace >>= next) answer := by
  intro session
  obtain ⟨f, given, same⟩ := answers session.workspace
  obtain ⟨result, stands⟩ := given session
  exact ⟨result.trans same, stands⟩

theorem answers_say {level : Level} {channel : Channel} {text : String}
    (apart : Event.isDecision (.message level channel text) = false) :
    Answers (say level channel text) fun _ => .ok () := by
  intro session
  refine ⟨rfl, ?_⟩
  rw [say, note_run, standing_note]
  simp [apart]

/-- Saying something first changes no answer. -/
theorem Answers.afterSaying {level : Level} {channel : Channel} {text : String} {rest : Action α}
    {f : Workspace → Except Failure α}
    (apart : Event.isDecision (.message level channel text) = false) (answers : Answers rest f) :
    Answers (say level channel text >>= fun _ => rest) f :=
  ((answers_say apart).bind fun _ => answers).congr fun _ => rfl

/-- Saying something first on some condition changes no answer either. -/
theorem Answers.perhapsSaying {level : Level} {channel : Channel} {text : String} {rest : Action α}
    {f : Workspace → Except Failure α} {condition : Prop} [Decidable condition]
    (apart : Event.isDecision (.message level channel text) = false) (answers : Answers rest f) :
    Answers (if condition then say level channel text >>= fun _ => rest else rest) f := by
  split
  · exact answers.afterSaying apart
  · exact answers

theorem answers_workspace : Answers workspace .ok :=
  fun _ => ⟨rfl, rfl⟩

theorem answers_ask (question : Workspace → Except Fault α) :
    Answers (change (Change.ask question)) fun w =>
      match question w with
      | .ok a => .ok a
      | .error fault => .error (.file fault) := by
  intro session
  simp only [change, Change.ask, run_bind, run_get]
  cases question session.workspace <;> exact ⟨rfl, rfl⟩

theorem change_run (c : Change α) (session : Session) :
    (change c).run session =
      (match (c.run session.workspace).1 with
        | .ok a => .ok a
        | .error fault => .error (.file fault),
        { session with workspace := (c.run session.workspace).2 }) := by
  simp only [change, run_bind, run_get]
  rcases c.run session.workspace with ⟨_ | _, w⟩ <;> rfl

/-- An attempt gives what an action gives as a value, and leaves what the action leaves. -/
theorem attempt_run (action : Action α) (session : Session) :
    (attempt action).run session = (.ok (action.run session).1, (action.run session).2) := by
  rw [attempt, run_tryCatch, run_map]
  rcases action.run session with ⟨_ | _, after⟩ <;> rfl

theorem Answers.catch {f : Workspace → Except Failure α} {handle : Failure → Action α}
    {g : Failure → Workspace → Except Failure α} (answers : Answers action f)
    (handled : ∀ failure, Answers (handle failure) (g failure)) :
    Answers (tryCatch action handle) fun w =>
      match f w with
      | .ok a => .ok a
      | .error failure => g failure w := by
  intro session
  obtain ⟨given, stands⟩ := answers session
  rw [run_tryCatch]
  split
  · rename_i a middle ran
    rw [ran] at given stands
    have looked : f session.workspace = .ok a := given.symm
    exact ⟨by simp only [looked], stands⟩
  · rename_i failure middle ran
    rw [ran] at given stands
    obtain ⟨given', stands'⟩ := handled failure middle
    rw [workspace_of_standing stands] at given'
    have looked : f session.workspace = .error failure := given.symm
    exact ⟨by simp only [given', looked], stands'.trans stands⟩

/-! ## Actions that change the workspace -/

/-- An action that is a change of the workspace, as far as its result and the standing show. -/
def Enacts (action : Action α) (c : Change α) : Prop :=
  ∀ session, (action.run session).1 = (c.run session.workspace).1.mapError .file ∧
    (action.run session).2.standing = session.standing.within (c.run session.workspace).2

theorem Enacts.gives {c : Change α} (enacts : Enacts action c) {result : Except Failure α}
    (ran : action.run session = (result, after)) :
    result = (c.run session.workspace).1.mapError .file ∧
      after.standing = session.standing.within (c.run session.workspace).2 := by
  have given := enacts session
  rwa [ran] at given

theorem enacts_change (c : Change α) : Enacts (change c) c := by
  intro session
  rw [change_run]
  rcases c.run session.workspace with ⟨_ | _, w⟩ <;> exact ⟨rfl, rfl⟩

theorem enacts_pure (a : α) : Enacts (pure a) (pure a) :=
  fun _ => ⟨rfl, rfl⟩

/-- Saying something changes nothing that counts. -/
theorem enacts_say {level : Level} {channel : Channel} {text : String}
    (apart : Event.isDecision (.message level channel text) = false) :
    Enacts (say level channel text) (pure ()) :=
  answers_say apart

theorem Enacts.bind {c : Change α} {d : α → Change β} (first : Enacts action c)
    (second : ∀ a, Enacts (next a) (d a)) : Enacts (action >>= next) (c >>= d) := by
  intro session
  obtain ⟨given, stands⟩ := first session
  rw [run_bind, run_bind]
  rcases ran : action.run session with ⟨result, middle⟩
  rcases changed : c.run session.workspace with ⟨fault | a, w⟩ <;> rw [ran, changed] at given stands
  · obtain rfl : result = .error (.file fault) := given
    exact ⟨rfl, stands⟩
  · obtain rfl : result = .ok a := given
    obtain ⟨given', stands'⟩ := second a middle
    obtain rfl : middle.workspace = w := congrArg Standing.workspace stands
    refine ⟨given', ?_⟩
    rw [stands', show middle.standing = _ from stands]
    rfl

/-! ## Timing -/

/-- Timing an action changes neither what it gives nor how the session stands after it. -/
theorem timed_run (label : String) (action : Action α) (session : Session) :
    ((timed label action).run session).1 = (action.run session).1 ∧
      ((timed label action).run session).2.standing = (action.run session).2.standing := by
  have said : ∀ middle : Session, ((say .debug .files
      ("Timer [" ++ label ++ "]: 0.0000 seconds")).run middle).2.standing = middle.standing :=
    fun middle => (answers_say rfl middle).2
  simp only [timed, run_bind, run_tryCatch]
  rcases action.run session with ⟨_ | a, middle⟩
  · exact ⟨rfl, said middle⟩
  · exact ⟨rfl, said middle⟩

theorem timed_result {label : String} {result : Except Failure α}
    (ran : (timed label action).run session = (result, after)) :
    ∃ middle, action.run session = (result, middle) ∧ after.standing = middle.standing := by
  obtain ⟨given, stands⟩ := timed_run label action session
  rw [ran] at given stands
  exact ⟨(action.run session).2, Prod.ext given.symm rfl, stands⟩

theorem Answers.timed {f : Workspace → Except Failure α} (label : String)
    (answers : Answers action f) : Answers (timed label action) f := by
  intro session
  obtain ⟨given, stands⟩ := timed_run label action session
  obtain ⟨given', stands'⟩ := answers session
  exact ⟨given.trans given', stands.trans stands'⟩

end Action

end Scaffold
