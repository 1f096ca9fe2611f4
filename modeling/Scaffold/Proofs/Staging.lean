import Scaffold.Proofs.Emitting

/-! The two ways of writing a text. In one step, a file is staged and takes the place of what the path
names; in place, what the path leads to is opened and written over. Both begin with the same
directories, and on a path without two dots they leave the same behind, whatever is there. Two dots make
the directories count: new ones can bring a link to light that was not seen before and that only one of
the ways respects, and a file is staged where the names of the path point, not where it leads. -/
namespace Scaffold

open Files Files.Workspace Running Text

namespace Files

variable {w w' mid : Workspace} {place : Location} {path left : Path} {bytes : Bytes} {fault : Fault}

namespace Workspace

/-- Where a file can be opened there is no link. -/
theorem Opens.plain (tree : w.WellFormed) (opens : w.Opens path place) (target : String) :
    w.entryAt place ≠ some (.link target) :=
  (LeadsTo.settled tree (leadsTo_of_locate opens.located (by simp))).clear List.prefix_rfl

/-- The names of a settled place name no link. -/
theorem Settled.not_isLink (settled : w.Settled place) : w.isLink ⟨.root, place⟩ = false := by
  rw [Bool.eq_false_iff, Ne, isLink_iff]
  rintro ⟨other, target, located, found⟩
  have same : other = place := @Settled.walks_eq w _ _ [] other place settled (locate_walks located)
  exact settled.clear List.prefix_rfl (same ▸ found)

/-- A file that is put in the place of a link loses it. -/
theorem Extends.losesLink_set (extends_ : w.Extends mid) {target : String}
    (found : mid.entryAt place = some (.link target)) (mode : Nat) (bytes : Bytes) :
    w.LosesLink (mid.set place (.file mode bytes)) :=
  ⟨place, target, mode, bytes, extends_.noNewLink found,
    entryAt_set_self (by rintro rfl; simp at found)⟩

/-- What writing to a path means is no link, and it is the path itself where two dots are in it. -/
theorem target_plain (tree : w.WellFormed) (acyclic : w.Acyclic) (proper : path.Proper)
    (meant : w.target path = .ok left) : left.Proper ∧ w.isLink left = false ∧
      (".." ∈ left.names → w.isLink path = false ∧ left = path) := by
  cases link : w.isLink path with
  | false =>
    rw [target_of_not_link link] at meant
    cases meant
    exact ⟨proper, link, fun _ => ⟨rfl, rfl⟩⟩
  | true =>
    obtain ⟨goal, leads⟩ := acyclic.leads_of_isLink tree link
    rw [target_of_link link proper leads] at meant
    cases meant
    have settled := leads.settled tree
    exact ⟨fun name member => (settled.real name member).1, settled.not_isLink,
      fun up => absurd rfl (settled.real _ up).2⟩

/-- Making the directories above a path without two dots brings no link to light. -/
theorem Paves.isLink_back (tree : w.WellFormed) (proper : path.Proper) (level : ".." ∉ path.names)
    (paves : w.Paves mid path.parent) (link : mid.isLink path = true) : w.isLink path = true := by
  obtain ⟨place, target, located, found⟩ := isLink_iff.mp link
  have old := paves.extends.noNewLink found
  have walks := locate_walks located
  rcases List.eq_nil_or_concat' path.names with bare | ⟨init, last, split⟩
  · rw [bare] at walks
    cases walks
    simp [(paves.tree tree).directory_base] at found
  · have real : isRealName last := by
      have member : last ∈ path.names := by simp [split]
      exact ⟨proper last member, fun dots => level (dots ▸ member)⟩
    have front : path.parent.names = init := by simp [Path.parent, split]
    have walks' := walks
    rw [split] at walks'
    obtain ⟨parent, rfl, toParent, -⟩ := walks'.last real (.inl rfl)
    -- The directory of the link is as old as the link, so all the others on the way are.
    have leads : w.LeadsTo true path.parent parent := by
      refine LeadsTo.back paves.extends ?_
      rw [LeadsTo, front]
      exact toParent
    have there : w.entryAt parent ≠ none := by
      rw [tree.parent (by rw [old]; simp)]
      simp
    have same := paves.entryAt_eq_of_there tree
      (fun up => level (List.mem_of_mem_dropLast up)) leads there
    rw [base_congr paves.home] at walks
    refine isLink_iff.mpr ⟨_, target, locate_of_walks (hasNull_of_locate located) ?_, old⟩
    exact walks.congr (by simp [same]) (by simp [same])

end Workspace

namespace Change

/-- Writing over a file succeeds where one can be opened. -/
theorem overwrite_of_opens (tree : w.WellFormed) (opens : w.Opens path place) (bytes : Bytes) :
    (overwrite path bytes).run w = (.ok (), w.set place (.file (w.modeAt place) bytes)) := by
  simp only [overwrite, run_bind, ask_run, opens.located, run_get, modeAt]
  cases found : w.entryAt place with
  | none => simp only [run_modify]
  | some entry =>
    cases entry with
    | directory => exact absurd found opens.solid
    | file mode old => simp only [run_modify]
    | link target => exact absurd found (opens.plain tree target)

/-- Writing over a file changes that file alone, or makes it where nothing is. -/
theorem overwrite_run (tree : w.WellFormed) {result : Except Fault Unit}
    (ran : (overwrite path bytes).run w = (result, w')) :
    (∃ fault, result = .error fault ∧ w' = w ∧ fault.Fits path) ∨
      ∃ place, w.Opens path place ∧ result = .ok () ∧
        w' = w.set place (.file (w.modeAt place) bytes) := by
  cases located : w.locate .make path with
  | error fault =>
    simp only [overwrite, run_bind, ask_run, located] at ran
    cases ran
    exact .inl ⟨_, rfl, rfl, locate_fault located⟩
  | ok place =>
    by_cases solid : w.entryAt place = some .directory
    · simp only [overwrite, run_bind, ask_run, located, run_get, solid, run_throw] at ran
      cases ran
      exact .inl ⟨_, rfl, rfl, .inl rfl⟩
    · have opens : w.Opens path place := ⟨located, solid⟩
      rw [overwrite_of_opens tree opens] at ran
      cases ran
      exact .inr ⟨place, opens, rfl, rfl⟩

/-- Writing over a file is growth that keeps all links, also when it is refused. -/
theorem extends_of_overwrite (tree : w.WellFormed) {result : Except Fault Unit}
    (ran : (overwrite path bytes).run w = (result, w')) : w.Extends w' := by
  rcases overwrite_run tree ran with ⟨_, -, rfl, -⟩ | ⟨place, opens, -, rfl⟩
  · exact .refl _
  · exact extends_set_file opens.solid (opens.plain tree)

/-- A file cannot be staged for a name with a null character. -/
theorem replace_null (front : path.parent.hasNull = false) (null : path.hasNull = true) :
    (replace path bytes).run w = (.error .nullCharacter, w) := by
  have name : (⟨.root, [path.name]⟩ : Path).hasNull = true := by
    rcases List.eq_nil_or_concat' path.names with bare | ⟨init, last, split⟩
    · simp [Path.hasNull, bare] at null
    · simp only [Path.hasNull, Path.parent, split, List.dropLast_concat] at front
      rw [Path.hasNull, split, List.any_append, front, Bool.false_or] at null
      simpa [Path.hasNull, Path.name, split] using null
  have whole : (⟨.root, w.plainPlace path.parent ++ [freshName w path.name]⟩ : Path).hasNull = true := by
    rw [Path.hasNull_append, hasNull_freshName, name, Bool.or_true]
  simp only [replace, stage, run_bind, run_get, ask_run, locate, whole, if_true]

private theorem overwrite_null (null : path.hasNull = true) :
    (overwrite path bytes).run w = (.error .nullCharacter, w) := by
  simp only [overwrite, run_bind, ask_run, locate, null, if_true]

/-- Where a file can be opened and is not replaced all the same, the names of the path spell no directory
to stage a file in, and that takes two dots. -/
theorem unspelled_of_refused (tree : w.WellFormed) (home : w.CleanHome) (opens : w.Opens path place)
    (refused : (replace path bytes).run w = (.error fault, w')) :
    w.isDirectory (w.spelled path.parent) = false ∧ ".." ∈ path.names := by
  have unspelled : w.isDirectory (w.spelled path.parent) = false := by
    by_contra there
    obtain ⟨_, _, done, -⟩ := replace_of_opens tree opens (by simpa using there) bytes
    rw [refused] at done
    cases done
  refine ⟨unspelled, ?_⟩
  by_contra level
  rw [opens.spelled tree home level] at unspelled
  cases unspelled

/-- What was replaced in one step can be opened, unless it is a link that was lost. -/
theorem opens_of_lands {mode : Nat} (lands : Lands w path bytes place mode) :
    w.Opens path place ∧ mode = w.modeAt place ∨
      w.isLink path = true ∧ ∃ target, w.entryAt place = some (.link target) := by
  by_cases plain : ∀ target, w.entryAt place ≠ some (.link target)
  · exact .inl ⟨opens_of_stay lands.located lands.solid plain, mode_of_lands lands plain⟩
  · push Not at plain
    obtain ⟨target, found⟩ := plain
    exact .inr ⟨isLink_iff.mpr ⟨place, target, lands.located, found⟩, target, found⟩

end Change

end Files

namespace Emission

open Scaffold.Action Files.Change

variable {path left : Path} {bytes : Bytes} {content : String} {w w' mid : Workspace} {session : Session}

/-- Both ways of writing do the same. The file is written where it can be opened, after directories were
made; or both ways are refused by the system, or for a null character in the path, and have made the
same directories. -/
inductive Agree (w : Workspace) (path : Path) (content : String) :
    Except Failure Nat → Workspace → Except Failure Nat → Workspace → Prop where
  | written {left : Path} {mid : Workspace} {place : Location} (meant : w.target path = .ok left)
      (widens : w.Widens mid) (opens : mid.Opens left place) :
      Agree w path content
        (.ok (encode content).length) (mid.set place (.file (mid.modeAt place) (encode content)))
        (.ok (encode content).length) (mid.set place (.file (mid.modeAt place) (encode content)))
  | refused {mid : Workspace} {once inPlace : Fault} (widens : w.Widens mid)
      (system : once.isSystem = true) (system' : inPlace.isSystem = true) :
      Agree w path content (.error (.file once)) mid (.error (.file inPlace)) mid
  | unspellable {mid : Workspace} (widens : w.Widens mid) (null : path.hasNull = true) :
      Agree w path content (.error (.file .nullCharacter)) mid (.error (.file .nullCharacter)) mid

/-- The ways of writing part, on a path with two dots in it. Behind new directories it may name a link
that it did not name before, which is lost in one step and followed in place. Or a file can be opened in
place, but none can be staged, since the names of the path spell no directory to do it in. -/
inductive Parts (w : Workspace) (path : Path) (content : String) :
    Except Failure Nat → Workspace → Except Failure Nat → Workspace → Prop where
  | loses {mid once inPlace : Workspace} {result : Except Failure Nat} (up : ".." ∈ path.names)
      (made : (makeDirectories path.parent).run w = (.ok (), mid))
      (hidden : w.isLink path = false) (shown : mid.isLink path = true)
      (lost : w.LosesLink once) (kept : w.Extends inPlace) :
      Parts w path content (.ok (encode content).length) once result inPlace
  | misses {mid : Workspace} {place : Location} {fault : Fault} (up : ".." ∈ path.names)
      (made : (makeDirectories path.parent).run w = (.ok (), mid))
      (unspelled : mid.isDirectory (mid.spelled path.parent) = false) (opens : mid.Opens path place)
      (system : fault.isSystem = true) :
      Parts w path content (.error (.file fault)) mid (.ok (encode content).length)
        (mid.set place (.file (mid.modeAt place) (encode content)))

/-- Where the ways part they do not agree. -/
theorem Parts.not_agree {result result' : Except Failure Nat} {w₁ w₂ : Workspace}
    (parts : Parts w path content result w₁ result' w₂) :
    ¬ Agree w path content result w₁ result' w₂ := by
  intro agree
  cases parts with
  | loses _ _ _ _ lost kept =>
    cases agree
    obtain ⟨place, target, mode, bytes, link, file⟩ := lost
    cases file.symm.trans (kept.links link)
  | misses => cases agree

section

variable {once inPlace : Except Fault Nat} {w₁ w₂ : Workspace}

/-- Once the directories are made, both ways end alike, but for links that have come to light and for
paths whose names spell no directory. Two dots are needed for either. -/
theorem put_ways_of_made (tree : w.WellFormed) (clean : w.Clean) (acyclic : w.Acyclic)
    (proper : path.Proper) (meant : w.target path = .ok left) (free : left.hasNull = false)
    (made : (makeDirectories left.parent).run w = (.ok (), mid))
    (ranOnce : (put path (encode content) true).run w = (once, w₁))
    (ranInPlace : (put path (encode content) false).run w = (inPlace, w₂)) :
    Agree w path content (once.mapError .file) w₁ (inPlace.mapError .file) w₂ ∨
      Parts w path content (once.mapError .file) w₁ (inPlace.mapError .file) w₂ := by
  obtain ⟨properLeft, hidden, upward⟩ := target_plain tree acyclic proper meant
  have paves := makeDirectories_paves made
  have widens := paves.toWidens
  have midTree := paves.tree tree
  have midClean := clean.grows paves.extends.toGrows
  have system : ∀ {fault : Fault}, fault.Fits left → fault.isSystem = true := by
    rintro fault (system | ⟨-, null⟩)
    · exact system
    · exact absurd (null.symm.trans free) Bool.noConfusion
  rw [put_run meant] at ranOnce ranInPlace
  simp only [made, if_true, Bool.false_eq_true, if_false] at ranOnce ranInPlace
  rcases replaced : (replace left (encode content)).run mid with ⟨outcome, w'⟩
  rcases overwritten : (overwrite left (encode content)).run mid with ⟨outcome', w''⟩
  rw [replaced] at ranOnce
  rw [overwritten] at ranInPlace
  rcases replace_run replaced with ⟨fault, rfl, same⟩ | ⟨place, mode, rfl, rfl, lands⟩
  · rw [same] at ranOnce replaced
    cases ranOnce
    have refused := system (replace_fault midClean replaced)
    rcases overwrite_run midTree overwritten with ⟨fault', rfl, same, fits⟩ | ⟨place, opens, rfl, rfl⟩
    · rw [same] at ranInPlace
      cases ranInPlace
      exact .inl (.refused widens refused (system fits))
    · cases ranInPlace
      obtain ⟨unspelled, up⟩ := unspelled_of_refused midTree midClean.home opens replaced
      obtain ⟨-, rfl⟩ := upward up
      exact .inr (.misses up made unspelled opens refused)
  · cases ranOnce
    rcases opens_of_lands lands with ⟨opens, rfl⟩ | ⟨shown, target, found⟩
    · rw [overwrite_of_opens midTree opens] at overwritten
      cases overwritten
      cases ranInPlace
      exact .inl (.written meant widens opens)
    · have up : ".." ∈ left.names := by
        by_contra level
        rw [paves.isLink_back tree properLeft level shown] at hidden
        cases hidden
      obtain ⟨-, rfl⟩ := upward up
      have lost := paves.extends.losesLink_set found mode (encode content)
      have kept : w.Extends w'' := paves.extends.trans (extends_of_overwrite midTree overwritten)
      cases outcome' <;> cases ranInPlace <;> exact .inr (.loses up made hidden shown lost kept)

private theorem put_ways (tree : w.WellFormed) (clean : w.Clean) (acyclic : w.Acyclic)
    (proper : path.Proper)
    (ranOnce : (put path (encode content) true).run w = (once, w₁))
    (ranInPlace : (put path (encode content) false).run w = (inPlace, w₂)) :
    Agree w path content (once.mapError .file) w₁ (inPlace.mapError .file) w₂ ∨
      Parts w path content (once.mapError .file) w₁ (inPlace.mapError .file) w₂ := by
  obtain ⟨left, meant⟩ := target_known tree acyclic proper
  have spells : left.hasNull = true → path.hasNull = true := by
    intro null
    by_contra free
    rw [target_nullFree clean meant (Bool.eq_false_iff.mpr free)] at null
    cases null
  rcases made : (makeDirectories left.parent).run w with ⟨fault | _, mid⟩
  · rw [put_run meant, made] at ranOnce ranInPlace
    cases ranOnce
    cases ranInPlace
    have widens := (makeDirectories_paves made).toWidens
    rcases makeDirectories_fault made with system | ⟨rfl, null⟩
    · exact .inl (.refused widens system system)
    · exact .inl (.unspellable widens (spells (Path.hasNull_of_parent null)))
  · cases null : left.hasNull with
    | false => exact put_ways_of_made tree clean acyclic proper meant null made ranOnce ranInPlace
    | true =>
      have front : left.parent.hasNull = false := by
        by_contra nullParent
        rw [makeDirectories, if_pos (by simpa using nullParent)] at made
        cases made
      rw [put_run meant, made] at ranOnce ranInPlace
      simp only [if_true, Bool.false_eq_true, if_false, replace_null front null,
        overwrite_null null] at ranOnce ranInPlace
      cases ranOnce
      cases ranInPlace
      exact .inl (.unspellable (makeDirectories_paves made).toWidens (spells null))

end

private theorem linked_clean : linkedSession.workspace.Clean := by
  refine ⟨rfl, fun place target found => ?_⟩
  obtain ⟨rfl, rfl⟩ := linked_link found
  decide

/-- Written in one step or in place, a text comes to the same: as many bytes and the same workspace, or a
refusal and the same directories. The ways part on some paths with two dots only, and do not agree in
anything there. -/
theorem writing_ways {once inPlace : Session} {result result' : Except Failure Nat}
    (tree : session.workspace.WellFormed) (clean : session.workspace.Clean)
    (acyclic : session.workspace.Acyclic) (proper : path.Proper)
    (ranOnce : (writeText path content true).run session = (result, once))
    (ranInPlace : (writeText path content false).run session = (result', inPlace)) :
    (Agree session.workspace path content result once.workspace result' inPlace.workspace ∨
      Parts session.workspace path content result once.workspace result' inPlace.workspace) ∧
      ¬(Agree session.workspace path content result once.workspace result' inPlace.workspace ∧
        Parts session.workspace path content result once.workspace result' inPlace.workspace) := by
  refine ⟨?_, fun both => both.2.not_agree both.1⟩
  obtain ⟨given, stands⟩ := (enacts_writeText path content true).gives ranOnce
  obtain ⟨given', stands'⟩ := (enacts_writeText path content false).gives ranInPlace
  have inside : once.workspace = _ := congrArg Standing.workspace stands
  have inside' : inPlace.workspace = _ := congrArg Standing.workspace stands'
  rw [given, inside, given', inside']
  exact put_ways tree clean acyclic proper rfl rfl

/-- Written by way of the link, the file has new bytes and its old mode either way. -/
theorem writing_ways_linked :
    ∃ once inPlace, (writeText ⟨.here, ["l"]⟩ "c" true).run linkedSession = (.ok 1, once) ∧
      (writeText ⟨.here, ["l"]⟩ "c" false).run linkedSession = (.ok 1, inPlace) ∧
      once.workspace = inPlace.workspace ∧
      once.workspace.entryAt ["o"] = some (.file 0o600 [99]) := by
  have tree : linkedSession.workspace.WellFormed := .of_entries rfl (by decide)
  have proper : (⟨.here, ["l"]⟩ : Path).Proper := by
    unfold Path.Proper
    decide
  have done : ((writeText ⟨.here, ["l"]⟩ "c" true).run linkedSession).1 = .ok 1 := by decide +kernel
  have done' : ((writeText ⟨.here, ["l"]⟩ "c" false).run linkedSession).1 = .ok 1 := by decide +kernel
  have held : ((writeText ⟨.here, ["l"]⟩ "c" true).run linkedSession).2.workspace.entryAt ["o"] =
      some (.file 0o600 [99]) := by decide +kernel
  rcases ranOnce : (writeText ⟨.here, ["l"]⟩ "c" true).run linkedSession with ⟨result, once⟩
  rcases ranInPlace : (writeText ⟨.here, ["l"]⟩ "c" false).run linkedSession with ⟨result', inPlace⟩
  rw [ranOnce] at done held
  rw [ranInPlace] at done'
  obtain rfl : result = .ok 1 := done
  obtain rfl : result' = .ok 1 := done'
  refine ⟨once, inPlace, rfl, rfl, ?_, held⟩
  obtain ⟨ways, -⟩ := writing_ways tree linked_clean linked_acyclic proper ranOnce ranInPlace
  generalize once.workspace = w₁, inPlace.workspace = w₂ at ways
  rcases ways with agree | parts
  · cases agree
    rfl
  · cases parts with
    | loses up => exact absurd up (by decide)

/-- With a new directory and two dots in front of it, a link is lost in one step that is followed in
place. -/
theorem link_lost_in_one_step :
    linkedSession.workspace.WellFormed ∧ linkedSession.workspace.Clean ∧
      linkedSession.workspace.Acyclic ∧ (⟨.here, ["n", "..", "l"]⟩ : Path).Proper ∧
      ((writeText ⟨.here, ["n", "..", "l"]⟩ "c" true).run linkedSession).1 = .ok 1 ∧
      ((writeText ⟨.here, ["n", "..", "l"]⟩ "c" false).run linkedSession).1 = .ok 1 ∧
      ((writeText ⟨.here, ["n", "..", "l"]⟩ "c" true).run linkedSession).2.workspace.entryAt ["l"] =
        some (.file 0o600 [99]) ∧
      ((writeText ⟨.here, ["n", "..", "l"]⟩ "c" false).run linkedSession).2.workspace.entryAt ["l"] =
        some (.link "o") := by
  refine ⟨.of_entries rfl (by decide), linked_clean, linked_acyclic, ?_, by decide +kernel,
    by decide +kernel, by decide +kernel, by decide +kernel⟩
  unfold Path.Proper
  decide

/-- A session with two directories in a third one and a link to one of them from outside. -/
def nestedSession : Session where
  workspace :=
    { home := []
      entries := [(["a"], .directory), (["a", "b"], .directory), (["a", "m"], .directory),
        (["l"], .link "a/b")] }
  consent := .always true

-- The path leads up from the end of the link, but its names lead up from the link itself.
example :
    ((writeText ⟨.here, ["l", "..", "m", "x"]⟩ "c" true).run nestedSession).1 =
        .error (.file .missing) ∧
      ((writeText ⟨.here, ["l", "..", "m", "x"]⟩ "c" false).run nestedSession).1 = .ok 1 := by
  decide

end Emission

end Scaffold
