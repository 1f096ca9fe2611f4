import Scaffold.Proofs.Histories
import Scaffold.Proofs.Repeating

/-! What becomes of a routes file that several add to. Their calls exclude each other, so that what they
do together is one call after another, in some order that keeps the order of each of them. A call puts
its line behind what the file holds or changes no file, and it fails only while there is no file. The
invariant is that the file holds what it held at first and then what each call added, and that every
call is either in the log or still to come. -/
namespace Scaffold

open Files Files.Workspace Text

namespace Files.Workspace

variable {w mid : Workspace} {path : Path} {place : Location} {bytes : Bytes}

/-- The bytes of the file that a path leads to, if it leads to one. -/
def contents (w : Workspace) (path : Path) : Option Bytes :=
  (w.read path).toOption

private theorem contents_eq_some_iff : w.contents path = some bytes ↔
    ∃ place mode, w.locate .follow path = .ok place ∧ w.entryAt place = some (.file mode bytes) := by
  unfold contents read find?
  cases located : w.locate .follow path with
  | error fault => simp [Except.toOption]
  | ok place =>
    cases found : w.entryAt place with
    | none => simp [Except.toOption, found]
    | some entry => cases entry <;> simp [Except.toOption, found]

/-- Making the directories on the way to a path does not change which file it leads to. -/
theorem Paves.contents_eq (tree : w.WellFormed) (level : ".." ∉ path.names)
    (paves : w.Paves mid path.parent) : mid.contents path = w.contents path := by
  apply Option.ext
  intro bytes
  rw [contents_eq_some_iff, contents_eq_some_iff]
  constructor
  · rintro ⟨place, mode, located, found⟩
    have kept := (paves.entryAt_eq (by simp [found])).symm.trans found
    have leads := (leadsTo_of_locate located (by simp)).back paves.extends
    have same := (paves.longer (List.dropLast_prefix _)).entryAt_eq_of_there tree level leads
      (by simp [kept])
    have walks := locate_walks located
    rw [base_congr paves.home] at walks
    refine ⟨place, mode, locate_of_walks (hasNull_of_locate located) ?_, kept⟩
    exact walks.congr (fun found => (same _).symm.trans found) (by simp [same])
  · rintro ⟨place, mode, located, found⟩
    exact ⟨place, mode, locate_forth paves.extends located, paves.keeps found⟩

end Files.Workspace

namespace Emission

open Scaffold.Action Running
open Generation (emptySession empty_wellFormed)

variable {path : Path} {session after : Session} {result : Except Failure String}
  {initial : Option Bytes} {origin w : Workspace}

/-! ## One call -/

/-- A route that someone registers in a style of their own. -/
structure Registration where
  style : RouteStyle
  routeName : String
  controller : String

namespace Registration

variable {call : Registration}

/-- The line that registers the route. -/
def line (call : Registration) : String :=
  call.style.line call.routeName call.controller

/-- The call that registers the route in a routes file. -/
def run (call : Registration) (path : Path) : Action String :=
  appendRoute call.style path call.routeName call.controller

/-- What a call adds to a file that holds some bytes. -/
def addition (call : Registration) (old : Bytes) : Bytes :=
  encode (call.style.addition old call.line)

/-- What a call does to its routes file and to all other files. -/
inductive Turns (call : Registration) (path : Path) (w w' : Workspace) :
    Except Failure String → Prop where
  | added (grown : w'.contents path =
      some ((w.contents path).getD [] ++ call.addition ((w.contents path).getD []))) :
      Turns call path w w' (.ok call.line)
  | refused (fault : Fault) (absent : w.contents path = none) (still : w'.contents path = none)
      (kept : ∀ place, w'.bytesAt place = w.bytesAt place) :
      Turns call path w w' (.error (refusal (.route path) fault))

end Registration

/-- Adding a line puts it behind what the path held. -/
theorem Adds.contents_eq {style : RouteStyle} {line : String} {w' mid : Workspace} {place : Location}
    {mode : Nat} {old : Bytes} (tree : w.WellFormed) (level : ".." ∉ path.names)
    (adds : Adds style path line w w' mid place mode old) :
    old = (w.contents path).getD [] ∧
      w'.contents path = some (old ++ encode (style.addition old line)) := by
  have solid := adds.solid
  have located := locate_follow adds.located
  have plain : ∀ target, mid.entryAt place ≠ some (.link target) := by
    intro target
    rcases adds.held with found | ⟨missing, -⟩
    · simp [found]
    · simp [missing]
  have real : place ≠ [] := by
    rintro rfl
    exact solid (entryAt_root mid)
  constructor
  · rw [← adds.paves.contents_eq tree level]
    rcases adds.held with found | ⟨missing, -, rfl⟩
    · rw [contents_eq_some_iff.mpr ⟨place, mode, located, found⟩, Option.getD_some]
    · cases held : mid.contents path with
      | none => rfl
      | some bytes =>
        obtain ⟨other, mode, located', found⟩ := contents_eq_some_iff.mp held
        rw [located] at located'
        cases located'
        rw [missing] at found
        cases found
  · rw [adds.result]
    exact contents_eq_some_iff.mpr
      ⟨place, mode, locate_forth (extends_set_file solid plain) located, entryAt_set_self real⟩

/-- While there is a routes file, every call succeeds. -/
theorem Registration.succeeds {call : Registration} {bytes : Bytes}
    (tree : session.workspace.WellFormed) (held : session.workspace.contents path = some bytes)
    (ran : (call.run path).run session = (result, after)) : ∃ line, result = .ok line := by
  obtain ⟨place, mode, located, found⟩ := contents_eq_some_iff.mp held
  have makes : session.workspace.locate .make path = .ok place :=
    locate_of_walks (hasNull_of_locate located) ((locate_walks located).makes (by simp [found]))
  obtain ⟨line, final, ran', -⟩ :=
    succeeds_appendRoute (s := session.report.stage) tree makes found session rfl rfl
  exact ⟨line, congrArg Prod.fst (ran.symm.trans ran')⟩

/-- A call adds its line behind what the routes file holds, or there is none and no file changes. -/
theorem Registration.turns {call : Registration} (tree : session.workspace.WellFormed)
    (level : ".." ∉ path.names) (ran : (call.run path).run session = (result, after)) :
    call.Turns path session.workspace after.workspace result ∧ after.workspace.WellFormed := by
  rcases appendRoute_run ran with ⟨w', mid, place, mode, old, rfl, adds, stands⟩ |
    ⟨fault, w', rfl, paves, stands⟩
  · obtain rfl : after.workspace = w' := congrArg Standing.workspace stands
    obtain ⟨rfl, grown⟩ := adds.contents_eq tree level
    exact ⟨.added grown, adds.tree tree⟩
  · obtain rfl : after.workspace = w' := congrArg Standing.workspace stands
    have absent : session.workspace.contents path = none := by
      by_contra there
      obtain ⟨bytes, held⟩ := Option.ne_none_iff_exists'.mp there
      obtain ⟨line, done⟩ := Registration.succeeds tree held ran
      cases done
    refine ⟨.refused fault absent ?_ fun place => paves.toWidens.bytesAt_eq place,
      paves.tree tree⟩
    rw [paves.contents_eq tree level, absent]

/-! ## Many calls -/

/-- What a routes file holds after some calls: what it held, the header of the first call if that was
nothing, and the lines. -/
def recordedBy (initial : Option Bytes) : List Registration → Option Bytes
  | [] => initial
  | first :: rest =>
    some (initial.getD [] ++
      encode (if (initial.getD []).isEmpty then first.style.header else "") ++
      (first :: rest).flatMap fun call => encode (call.line ++ "\n"))

/-- One more call goes behind what is recorded. -/
theorem recordedBy_concat (initial : Option Bytes) (calls : List Registration) (call : Registration) :
    recordedBy initial (calls ++ [call]) =
      some ((recordedBy initial calls).getD [] ++
        call.addition ((recordedBy initial calls).getD [])) := by
  cases calls with
  | nil => simp [recordedBy, Registration.addition, RouteStyle.addition, encode_append]
  | cons first rest =>
    have held : ((recordedBy initial (first :: rest)).getD []).isEmpty = false := by
      simp [recordedBy, encode_line_ne_nil]
    rw [Registration.addition, RouteStyle.addition, held]
    simp [recordedBy, encode_append]

/-- The calls of a log that were not refused. -/
def registered (log : List (Registration × Except Failure String)) : List Registration :=
  (log.filter fun entry => entry.2.isOk).map Prod.fst

/-- A workspace in which some of the calls of several callers have been made, one at a time: what each
caller has yet to do, and the calls with their results in the order in which they were made. Whose turn
it is next is open. -/
inductive Interleaved (path : Path) (callers : List (List Registration)) (origin : Workspace) :
    List (List Registration) → List (Registration × Except Failure String) → Workspace → Prop where
  | start : Interleaved path callers origin callers [] origin
  | turn {others later : List (List Registration)} {call : Registration} {rest : List Registration}
      {log : List (Registration × Except Failure String)} {session after : Session}
      {result : Except Failure String}
      (earlier : Interleaved path callers origin (others ++ (call :: rest) :: later) log
        session.workspace)
      (ran : (call.run path).run session = (result, after)) :
      Interleaved path callers origin (others ++ rest :: later) (log ++ [(call, result)])
        after.workspace

variable {callers pending : List (List Registration)}
  {log : List (Registration × Except Failure String)}

/-- No call is lost or made twice. -/
theorem Interleaved.perm (interleaved : Interleaved path callers origin pending log w) :
    (log.map Prod.fst ++ pending.flatten).Perm callers.flatten := by
  induction interleaved with
  | start => simp
  | @turn others later call rest log _ _ _ _ _ ih =>
    refine List.Perm.trans ?_ ih
    simp only [List.map_append, List.map_cons, List.map_nil, List.flatten_append, List.flatten_cons,
      List.append_assoc, List.cons_append, List.nil_append]
    exact List.Perm.append_left _ List.perm_middle.symm

/-- After each call the file holds what the calls that were not refused have added. -/
theorem Interleaved.keeps (tree : origin.WellFormed) (level : ".." ∉ path.names)
    (interleaved : Interleaved path callers origin pending log w) :
    w.WellFormed ∧ w.contents path = recordedBy (origin.contents path) (registered log) ∧
      ∀ entry ∈ log, ∀ line, entry.2 = .ok line → line = entry.1.line := by
  induction interleaved with
  | start => exact ⟨tree, rfl, by simp⟩
  | @turn others later call rest log session after result _ ran ih =>
    obtain ⟨before, recorded, lined⟩ := ih
    obtain ⟨turns, afterTree⟩ := Registration.turns before level ran
    refine ⟨afterTree, ?_, fun entry member => ?_⟩
    · cases turns with
      | added grown =>
        rw [grown, recorded, ← recordedBy_concat]
        simp [registered, Except.isOk, Except.toBool]
      | refused fault absent still =>
        rw [still, ← absent, recorded]
        simp [registered, Except.isOk, Except.toBool]
    · rcases List.mem_append.mp member with old | new
      · exact lined entry old
      · obtain rfl := List.mem_singleton.mp new
        intro line same
        cases turns with
        | added => exact (Except.ok.inj same).symm
        | refused => cases same

/-- Interleaved registrations lose and duplicate nothing. Each call is in the log once or still to
come, the file holds what it held at first, then one header if that was nothing, and then the lines of
the calls that went through, in their order. The next call, whoever makes it, only adds to what is there,
with a header if that is nothing, or it is refused, for want of a file, and leaves all files as they
are. -/
theorem interleaved_registrations_record (tree : origin.WellFormed) (level : ".." ∉ path.names)
    (interleaved : Interleaved path callers origin pending log w) :
    (log.map Prod.fst ++ pending.flatten).Perm callers.flatten ∧
    (∀ entry ∈ log, ∀ line, entry.2 = .ok line → line = entry.1.line) ∧
    w.contents path = recordedBy (origin.contents path) (registered log) ∧
    ∀ (call : Registration) (session after : Session) (result : Except Failure String),
      session.workspace = w → (call.run path).run session = (result, after) →
      call.Turns path w after.workspace result := by
  obtain ⟨now, recorded, lined⟩ := interleaved.keeps tree level
  refine ⟨interleaved.perm, lined, recorded, fun call session after result inside ran => ?_⟩
  subst inside
  exact (Registration.turns now level ran).1

/-- A route that is registered with a header. -/
def headedCall : Registration :=
  ⟨⟨"a", "h\n"⟩, "", ""⟩

/-- A route that is registered without one. -/
def plainCall : Registration :=
  ⟨⟨"b", ""⟩, "", ""⟩

/-- Two callers who take turns at a file that is not there yet. -/
theorem interleaved_registrations_record_two : ∃ log w,
    Interleaved ⟨.here, ["r"]⟩ [[headedCall], [plainCall]] (Workspace.empty []) [[], []] log w ∧
      log.map Prod.fst = [headedCall, plainCall] ∧
      w.contents ⟨.here, ["r"]⟩ = some (encode "h\na\nb\n") := by
  have done : ((headedCall.run ⟨.here, ["r"]⟩).run emptySession).1.isOk = true := by decide +kernel
  have done' : ((plainCall.run ⟨.here, ["r"]⟩).run
      ((headedCall.run ⟨.here, ["r"]⟩).run emptySession).2).1.isOk = true := by decide +kernel
  rcases ran : (headedCall.run ⟨.here, ["r"]⟩).run emptySession with ⟨result, middle⟩
  rw [ran] at done done'
  rcases ran' : (plainCall.run ⟨.here, ["r"]⟩).run middle with ⟨result', final⟩
  rw [ran'] at done'
  have begun : Interleaved ⟨.here, ["r"]⟩ [[headedCall], [plainCall]] (Workspace.empty [])
      ([] ++ [headedCall] :: [[plainCall]]) [] emptySession.workspace := .start
  have turned : Interleaved ⟨.here, ["r"]⟩ [[headedCall], [plainCall]] (Workspace.empty [])
      ([[]] ++ [plainCall] :: []) [(headedCall, result)] middle.workspace := begun.turn ran
  obtain ⟨-, -, recorded, -⟩ :=
    interleaved_registrations_record empty_wellFormed (by decide) (turned.turn ran')
  refine ⟨_, _, turned.turn ran', rfl, recorded.trans ?_⟩
  simp only [registered, List.filter, List.nil_append, List.cons_append, done, done', List.map]
  decide +kernel

end Emission

end Scaffold
