import Scaffold.Proofs.Faults

/-! Writing a file from beginning to end, where no link leads back to itself and no two dots are in the
way. What the path leads to is known beforehand; whoever decides is asked once when it is there and
never otherwise; and then the file is written in full, or the failure names the path and all files are
what they were. One kind of path is left out of that, a path with a null character: the system is not
asked about it at all, and its failure is not taken for one of the system. -/
namespace Scaffold.Emission

open Files Files.Workspace Scaffold.Action Text

variable {path : Path} {content : String} {outcome : Outcome} {goal : Location} {w w' : Workspace}
  {result : Except Failure Outcome} {before stood : Standing}

/-- What comes of placing a file where a path leads. It is there, with the mode of the file before it
or that of a new one, and some new directories on its way; or there is a failure with the path, or the
one of a null character, and directories are all that is new. -/
inductive Arrives (path : Path) (content : String) (goal : Location) (outcome : Outcome)
    (w w' : Workspace) : Except Failure Outcome → Prop where
  | written (delivers : w.Delivers w' goal (encode content)) :
      Arrives path content goal outcome w w' (.ok outcome)
  | refused {fault : Fault} (system : fault.isSystem = true) (widens : w.Widens w') :
      Arrives path content goal outcome w w' (.error (.artifact path fault))
  | unspellable (null : path.hasNull = true) (widens : w.Widens w') :
      Arrives path content goal outcome w w' (.error (.file .nullCharacter))

/-- Whatever comes of it, all directories and links stay what they are. -/
theorem Arrives.extends (tree : w.WellFormed) (leads : w.LeadsTo false path goal)
    (arrives : Arrives path content goal outcome w w' result) : w.Extends w' := by
  cases arrives with
  | written delivers =>
    exact delivers.extends fun target => (leads.settled tree).clear List.prefix_rfl
  | refused _ widens | unspellable _ widens => exact widens.extends

/-- A failure that the system knows nothing of can only be that of a null character, since no link is
lost when no file is written. -/
theorem Places.arrives (tree : before.workspace.WellFormed) (proper : path.Proper)
    (leads : before.workspace.LeadsTo false path goal)
    (fails : ∀ failure, result = .error failure →
      (∃ fault : Fault, failure = .artifact path fault ∧ fault.isSystem = true) ∨
        Escapes before.workspace [path] stood.workspace failure)
    (places : Places path content outcome before result stood) :
    Arrives path content goal outcome before.workspace stood.workspace result := by
  cases places with
  | placed puts =>
    obtain ⟨left, mid, place, mode, puts⟩ := puts
    exact .written (puts.delivers tree proper leads)
  | @refused fault _ _ paves =>
    generalize refusal (.artifact path) fault = failure at fails ⊢
    rcases fails failure rfl with ⟨fault, rfl, system⟩ | escapes
    · exact .refused system paves.toWidens
    · cases escapes with
      | null among null =>
        obtain rfl := List.mem_singleton.mp among
        exact .unspellable null paves.toWidens
      | loop lost =>
        obtain ⟨place, target, mode, bytes, link, file⟩ := lost
        have kept := paves.toWidens.keeps link
        cases file.symm.trans kept

/-- Writing a file asks exactly when something is there, and once. When the answer is no, nothing has
changed. Otherwise the file arrives where the path leads, or fails to. The path leads there before and
after it, and every link is the same. -/
theorem write_arrives {session after : Session} (tree : session.workspace.WellFormed)
    (clean : session.workspace.Clean) (acyclic : session.workspace.Acyclic)
    (levelLinks : session.workspace.LevelLinks) (proper : path.Proper) (level : path.Level)
    (ran : (write path content).run session = (result, after)) :
    ∃ goal, session.workspace.resolve path = .ok goal ∧ after.workspace.resolve path = .ok goal ∧
      (∀ place target, session.workspace.entryAt place = some (.link target) →
        after.workspace.entryAt place = some (.link target)) ∧
      (session.workspace.isThere path = false →
        after.consent = session.consent ∧
        after.events.filter Event.isDecision = session.events.filter Event.isDecision ∧
        Arrives path content goal .created session.workspace after.workspace result) ∧
      (session.workspace.isThere path = true → ∃ answer consent events,
        session.consent.answer (question path) true = (answer, consent, events) ∧
        after.consent = consent ∧
        after.events.filter Event.isDecision = session.events.filter Event.isDecision ++ events ∧
        (answer = false → result = .ok .skipped ∧ after.workspace = session.workspace) ∧
        (answer = true →
          Arrives path content goal .overwritten session.workspace after.workspace result)) := by
  obtain ⟨goal, leads⟩ : ∃ goal, session.workspace.LeadsTo false path goal :=
    leads_somewhere acyclic levelLinks level _
  have safe : Safe session.workspace [path] (fun failure =>
      ∃ fault : Fault, failure = .artifact path fault ∧ fault.isSystem = true) (write path content) :=
    safe_write acyclic proper List.mem_cons_self (fun fault system => ⟨fault, rfl, system⟩) content
  obtain ⟨-, fails⟩ := safe session ⟨tree, clean, .refl _⟩
  rw [ran] at fails
  have rest : ∀ {later}, session.workspace.Extends later →
      later.resolve path = .ok goal ∧ ∀ place target,
        session.workspace.entryAt place = some (.link target) →
          later.entryAt place = some (.link target) :=
    fun extends_ => ⟨(resolve_eq_ok_iff proper).mpr (LeadsTo.forth extends_ leads.weaken),
      fun _ _ found => extends_.links found⟩
  refine ⟨goal, (resolve_eq_ok_iff proper).mpr leads.weaken, ?_⟩
  have ends := write_ends ran
  generalize stands : after.standing = stood at ends
  rw [show after.consent = stood.consent from congrArg Standing.consent stands,
    show after.events.filter Event.isDecision = stood.decisions from
      congrArg Standing.decisions stands]
  have inside : after.workspace = stood.workspace := congrArg Standing.workspace stands
  rw [inside] at fails ⊢
  cases ends with
  | absent absent places =>
    have arrives := places.arrives tree proper leads fails
    obtain ⟨resolves, links⟩ := rest (arrives.extends tree leads)
    have silent : stood.consent = session.consent ∧ stood.decisions = session.standing.decisions := by
      cases places <;> exact ⟨rfl, rfl⟩
    refine ⟨resolves, links, fun _ => ⟨silent.1, silent.2, arrives⟩, fun there => ?_⟩
    exact absurd (absent.symm.trans there) Bool.false_ne_true
  | @agreed consent events _ _ there answered places =>
    have arrives := places.arrives tree proper leads fails
    obtain ⟨resolves, links⟩ := rest (arrives.extends tree leads)
    have once : stood.consent = consent ∧
        stood.decisions = session.standing.decisions ++ events := by
      cases places <;> exact ⟨rfl, rfl⟩
    refine ⟨resolves, links, fun absent => ?_, fun _ => ?_⟩
    · exact absurd (absent.symm.trans there) Bool.false_ne_true
    · exact ⟨true, consent, events, answered, once.1, once.2, fun no => (nomatch no), fun _ => arrives⟩
  | @declined consent events there answered =>
    obtain ⟨resolves, links⟩ := rest (.refl _)
    refine ⟨resolves, links, fun absent => ?_, fun _ => ?_⟩
    · exact absurd (absent.symm.trans there) Bool.false_ne_true
    · exact ⟨false, consent, events, answered, rfl, rfl, fun _ => ⟨rfl, rfl⟩, fun yes => nomatch yes⟩

/-- A session with a file of one letter, a link to it, and a standing yes to every question. -/
def linkedSession : Session where
  workspace := { home := [], entries := [(["o"], .file 0o600 [33]), (["l"], .link "o")] }
  consent := .always true

theorem linked_link {place : Location} {target : String}
    (found : linkedSession.workspace.entryAt place = some (.link target)) :
    place = ["l"] ∧ target = "o" := by
  have member := mem_of_entryAt found (by rintro rfl; simp at found)
  simpa [linkedSession] using member

theorem linked_acyclic : linkedSession.workspace.Acyclic := by
  intro place target found
  obtain ⟨rfl, rfl⟩ := linked_link found
  have steps : linkSteps "o" = ["o"] := by decide
  have start : linkStart [] "o" = [] := by decide
  refine ⟨["o"], ?_⟩
  change Leads _ true (linkStart [] "o") (linkSteps "o") ["o"]
  rw [steps, start]
  refine .name (by decide) ?_ (.stop _)
  intro target found
  exact absurd (linked_link found).1 (by decide)

/-- Written by way of the link, the file has new bytes and its old mode, and the link is the same. -/
theorem write_arrives_linked :
    ∃ after, (write ⟨.here, ["l"]⟩ "c").run linkedSession = (.ok .overwritten, after) ∧
      after.workspace.entryAt ["o"] = some (.file 0o600 [99]) ∧
      after.workspace.entryAt ["l"] = some (.link "o") := by
  have tree : linkedSession.workspace.WellFormed := .of_entries rfl (by decide)
  have clean : linkedSession.workspace.Clean := by
    refine ⟨rfl, fun place target found => ?_⟩
    obtain ⟨rfl, rfl⟩ := linked_link found
    decide +kernel
  have levelLinks : linkedSession.workspace.LevelLinks := by
    intro place target found
    obtain ⟨rfl, rfl⟩ := linked_link found
    unfold Path.Level
    decide
  have proper : (⟨.here, ["l"]⟩ : Path).Proper := by
    unfold Path.Proper
    decide
  have done : ((write ⟨.here, ["l"]⟩ "c").run linkedSession).1 = .ok .overwritten := by
    decide +kernel
  rcases ran : (write ⟨.here, ["l"]⟩ "c").run linkedSession with ⟨result, after⟩
  rw [ran] at done
  obtain ⟨goal, resolves, -, links, -, there⟩ := write_arrives tree clean linked_acyclic levelLinks
    proper (by unfold Path.Level; decide) ran
  obtain rfl : goal = ["o"] := by
    have known : linkedSession.workspace.resolve ⟨.here, ["l"]⟩ = .ok ["o"] := by decide +kernel
    exact Except.ok.inj (resolves.symm.trans known)
  obtain ⟨answer, _, _, answered, -, -, -, arrives⟩ := there (by decide +kernel)
  cases answered
  have arrives := arrives rfl
  obtain rfl : result = .ok .overwritten := done
  cases arrives with
  | written delivers => exact ⟨after, rfl, delivers.written, links _ _ rfl⟩

/-- A null character in a path makes writing fail without a word about the path, also where there is
nothing but the current directory. -/
theorem null_character_escapes :
    (Workspace.empty []).WellFormed ∧
      (∀ place target, (Workspace.empty []).entryAt place ≠ some (.link target)) ∧
      (⟨.here, ["a\x00b"]⟩ : Path).Proper ∧ (⟨.here, ["a\x00b"]⟩ : Path).Level ∧
      ((write ⟨.here, ["a\x00b"]⟩ "x\n").run ⟨.empty [], .always true, [], {}⟩).1 =
        .error (.file .nullCharacter) := by
  refine ⟨.of_entries rfl (by decide), fun place target found => ?_, ?_, ?_, by decide +kernel⟩
  · exact absurd (mem_of_entryAt found (by rintro rfl; cases found)) List.not_mem_nil
  · unfold Path.Proper
    decide
  · unfold Path.Level
    decide

end Scaffold.Emission
