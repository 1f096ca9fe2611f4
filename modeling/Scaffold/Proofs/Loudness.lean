import Scaffold.Proofs.Exits

/-! How loud a call is. A call does its work without looking at what was said, and how loud it is only
decides afterwards which of the records and whether the summary is printed. So of two calls that
differ in nothing else the quieter one ends in the same way and asks the same, and its records are
those of the louder one that matter enough. -/
namespace Scaffold

open Data Files Generation Emission Scaffold.Action Running

/-! ## Nothing depends on what was said -/

namespace Action

theorem Framed.attempt {α : Type} {action : Action α} (framed : Framed action) :
    Framed (attempt action) := by
  intro session older
  rw [attempt_run, attempt_run, framed]

end Action

namespace CommandLine

open Schema

private theorem framed_generateOnce (config : Config) (db : Database) (request : Request) :
    Framed (generateOnce config db request) := by
  cases opened : Generator.open? config db with
  | error failure =>
    intro session older
    simp only [generateOnce, opened]
    rfl
  | ok g =>
    rw [generateOnce_opened opened]
    intro session older
    exact framed_begun g request { session with report := { tableName := request.tableName } } older

private theorem framed_endWith (code : ExitCode) (text : String) : Framed (endWith code text) :=
  ((tame_say _ _ _).bind fun _ => tame_pure code).framed

private theorem framed_runRequest (config : Config) (db : Database) (request : Request) :
    Framed (runRequest config db request) := by
  refine (framed_generateOnce config db request).attempt.bind fun result => ?_
  cases result with
  | ok report => exact ((tame_note rfl).bind fun _ => tame_pure _).framed
  | error failure =>
    dsimp only
    split
    · exact framed_endWith _ _
    · exact fun _ _ => rfl

private theorem framed_work (call : Invocation) (db : Database) : Framed (work call db) := by
  unfold work
  split
  · exact framed_endWith _ _
  · refine (Settings.tame_configure _ _).framed.attempt.bind fun result => ?_
    cases result with
    | ok config => exact framed_runRequest config db _
    | error failure =>
      dsimp only
      split
      · exact framed_endWith _ _
      · exact fun _ _ => rfl

private theorem framed_perform (call : Invocation) (db : Database) : Framed (perform call db) := by
  refine (tame_say _ _ _).framed.bind fun _ => (framed_work call db).bind fun code => ?_
  split
  · exact ((tame_say _ _ _).bind fun _ => tame_pure code).framed
  · exact (tame_pure code).framed

/-! ## What is printed of a session -/

/-- A record of the log. -/
structure Record where
  level : Level
  channel : Channel
  text : String
  deriving DecidableEq, Repr

/-- A record as it is printed. -/
def Record.piece (record : Record) : Output where
  stream := .errors
  text := messageLine record.level record.channel record.text

/-- Whether a record matters enough to be printed. -/
def Record.passes (loudness : Loudness) (record : Record) : Bool :=
  loudness.threshold.number ≤ record.level.number

/-- What a piece of output is. -/
inductive Kind where
  | record
  | summary
  /-- A question, or the end of the line when there is no more input. -/
  | dialogue
  deriving DecidableEq, Repr

def Output.kind (piece : Output) : Kind :=
  match piece.stream with
  | .output => if piece.awaits then .dialogue else .summary
  | .errors => if piece.text = "\n" then .dialogue else .record

/-- The pieces of output of one kind, in order. -/
def Transcript.only (transcript : Transcript) (kind : Kind) : List Output :=
  transcript.output.filter (·.kind = kind)

/-- How much is said: least by a quiet call, and most by one that is verbose twice. -/
def Loudness.rank (loudness : Loudness) : Nat :=
  if loudness.quiet then 0 else min (loudness.verbosity + 1) 3

private theorem Loudness.threshold_number (loudness : Loudness) :
    loudness.threshold.number + 10 * loudness.rank = 40 := by
  obtain ⟨verbosity, quiet⟩ := loudness
  cases quiet with
  | true => rfl
  | false =>
    match verbosity with
    | 0 => rfl
    | 1 => rfl
    | more + 2 =>
      simp only [Loudness.threshold, Loudness.rank, Bool.false_eq_true, if_false, Level.number]
      omega

/-- A call that says at least as much as one that is not quiet is not quiet either. -/
theorem Loudness.quiet_of_rank {low high : Loudness} (order : low.rank ≤ high.rank)
    (quiet : high.quiet = true) : low.quiet = true := by
  by_contra heard
  simp only [Loudness.rank, quiet, heard, if_true, if_false] at order
  omega

/-- What passes for a call passes for every call that says at least as much. -/
theorem Record.passes_mono {low high : Loudness} (order : low.rank ≤ high.rank) (record : Record)
    (passes : record.passes low = true) : record.passes high = true := by
  have lower := low.threshold_number
  have higher := high.threshold_number
  simp only [Record.passes, decide_eq_true_eq] at passes ⊢
  omega

/-- No record is an empty line. -/
theorem messageLine_ne (level : Level) (channel : Channel) (text : String) :
    messageLine level channel text ≠ "\n" := by
  have stamped : ∀ rest, "00:00:00 │ " ++ rest ≠ "\n" := by
    intro rest same
    have lengths := congrArg String.length same
    have stamp : "00:00:00 │ ".length = 11 := by decide
    have line : "\n".length = 1 := by decide
    rw [String.length_append, stamp, line] at lengths
    omega
  unfold messageLine
  simp only [String.append_assoc]
  exact stamped _

private theorem Record.piece_kind (record : Record) : record.piece.kind = .record := by
  simp [Output.kind, Record.piece, messageLine_ne]

/-- The record that an event is. -/
def record? : Event → Option Record
  | .message level channel text => some ⟨level, channel, text⟩
  | _ => none

/-- The piece of the summary that an event is. -/
def summary? : Event → Option Output
  | .shown text => some { stream := .output, text := text }
  | _ => none

/-- The piece of dialogue that an event is. -/
def dialogue? : Event → Option Output
  | .prompted text => some { stream := .output, text := text, awaits := true }
  | .inputEnded => some { stream := .errors, text := "\n" }
  | _ => none

/-- Of a record its level decides whether it is printed, of the summary whether the call is quiet, and
of dialogue nothing does. -/
theorem printed_only (kind : Kind) (loudness : Loudness) (event : Event) :
    (printed loudness event).filter (·.kind = kind) =
      match kind with
      | .record => ((record? event).filter (·.passes loudness)).map Record.piece
      | .summary => if loudness.quiet then none else summary? event
      | .dialogue => dialogue? event := by
  cases event with
  | message level channel text =>
    have known := Record.piece_kind ⟨level, channel, text⟩
    simp only [Record.piece] at known
    by_cases passes : loudness.threshold.number ≤ level.number
    · cases kind <;> simp [printed, passes, known, record?, summary?, dialogue?, Record.passes,
        Record.piece, Option.filter_some]
    · cases kind <;>
        simp [printed, passes, record?, summary?, dialogue?, Record.passes, Option.filter_some]
  | shown text =>
    cases quiet : loudness.quiet <;> cases kind <;>
      simp [printed, quiet, record?, summary?, dialogue?, Output.kind]
  | _ => cases kind <;> simp [printed, record?, summary?, dialogue?, Output.kind]

variable {low high : Loudness} {events : List Event}

/-- The records are those that pass. -/
theorem printed_records (loudness : Loudness) (events : List Event) :
    (events.filterMap (printed loudness)).filter (·.kind = .record) =
      ((events.filterMap record?).filter (·.passes loudness)).map Record.piece := by
  rw [List.filter_filterMap, List.filter_filterMap, List.map_filterMap]
  exact congrArg (List.filterMap · events) (funext (printed_only .record loudness))

private theorem printed_dialogue (loudness : Loudness) (events : List Event) :
    (events.filterMap (printed loudness)).filter (·.kind = .dialogue) =
      events.filterMap dialogue? := by
  rw [List.filter_filterMap]
  exact congrArg (List.filterMap · events) (funext (printed_only .dialogue loudness))

private theorem printed_summary (loudness : Loudness) (events : List Event) :
    (events.filterMap (printed loudness)).filter (·.kind = .summary) =
      if loudness.quiet then [] else events.filterMap summary? := by
  rw [List.filter_filterMap]
  refine (congrArg (List.filterMap · events) (funext (printed_only .summary loudness))).trans ?_
  cases loudness.quiet with
  | true => exact List.filterMap_eq_nil_iff.mpr fun _ _ => rfl
  | false => rfl

/-- What is printed of an event is also printed of it by a call that says at least as much. -/
theorem printed_mono (order : low.rank ≤ high.rank) {event : Event} {piece : Output}
    (shown : printed low event = some piece) : printed high event = some piece := by
  cases event with
  | message level channel text =>
    simp only [printed] at shown ⊢
    split at shown
    · rename_i passes
      have still := Record.passes_mono order ⟨level, channel, text⟩
      simp only [Record.passes, decide_eq_true_eq] at still
      rw [if_pos (still passes)]
      exact shown
    · cases shown
  | shown text =>
    simp only [printed] at shown ⊢
    split at shown
    · cases shown
    · rename_i heard
      rw [if_neg fun quiet => heard (Loudness.quiet_of_rank order quiet)]
      exact shown
  | _ => exact shown

private theorem printed_sublist (order : low.rank ≤ high.rank) (events : List Event) :
    (events.filterMap (printed low)).Sublist (events.filterMap (printed high)) := by
  induction events with
  | nil => exact .slnil
  | cons event rest ih =>
    cases heard : printed low event with
    | none =>
      rw [List.filterMap_cons_none heard]
      exact ih.trans (List.Sublist.filterMap _ (List.sublist_cons_self _ _))
    | some piece =>
      rw [List.filterMap_cons_some heard, List.filterMap_cons_some (printed_mono order heard)]
      exact ih.cons_cons piece

/-! ## Two calls that are not equally loud -/

/-- What a quieter call has in common with a louder one. -/
structure Quieter (low high : Invocation) (replies : List (Option String)) (db : Database)
    (w : Workspace) : Prop where
  status : (low.run replies db w).status = (high.run replies db w).status
  workspace : (low.run replies db w).workspace = (high.run replies db w).workspace
  /-- The same replies are taken, so that the same are left. -/
  consent : (low.last replies db w).consent = (high.last replies db w).consent
  /-- The same questions are put. -/
  dialogue : (low.run replies db w).only .dialogue = (high.run replies db w).only .dialogue
  summary : (low.run replies db w).only .summary =
    if low.loudness.quiet then [] else (high.run replies db w).only .summary
  /-- Of the records those are left that matter enough. -/
  records : ∃ records : List Record,
    (high.run replies db w).only .record = records.map Record.piece ∧
      (low.run replies db w).only .record =
        (records.filter (·.passes low.loudness)).map Record.piece
  /-- What is left stands in the same order. -/
  order : (low.run replies db w).output.Sublist (high.run replies db w).output
  /-- Whatever was said, the work is the same. -/
  deaf : ∀ older, (perform high db).run ((high.session replies w).above older) =
    (((perform high db).run (high.session replies w)).1, (high.last replies db w).above older)

/-- Two calls that differ only in how loud they are do the same. -/
theorem perform_congr {low high : Invocation} (table : low.table = high.table)
    (options : low.options = high.options) (db : Database) : perform low db = perform high db := by
  simp only [perform, work, Invocation.request, table, options]

/-- How loud a call is only decides what is printed of it. -/
theorem quieter_of_rank (low high : Invocation) (table : low.table = high.table)
    (options : low.options = high.options) (rank : low.loudness.rank ≤ high.loudness.rank)
    (replies : List (Option String)) (db : Database) (w : Workspace) :
    Quieter low high replies db w := by
  have session : low.session replies w = high.session replies w := by
    simp only [Invocation.session, options]
  have same := perform_congr table options db
  have last : low.last replies db w = high.last replies db w := by
    rw [Invocation.last, Invocation.last, same, session]
  constructor
  · rw [run_eq, run_eq, same, session]
  · simp only [run_eq, last]
  · rw [last]
  · simp only [Transcript.only, run_eq, printed_dialogue, last]
  · simp only [Transcript.only, run_eq, printed_summary, last]
    cases quiet : high.loudness.quiet with
    | true => simp [Loudness.quiet_of_rank rank quiet]
    | false => simp
  · refine ⟨((high.last replies db w).events.filterMap record?).filter (·.passes high.loudness),
      ?_, ?_⟩
    · simp only [Transcript.only, run_eq, printed_records]
    · simp only [Transcript.only, run_eq, printed_records, last, List.filter_filter]
      refine congrArg (List.map Record.piece) (List.filter_congr fun record _ => ?_)
      cases passes : record.passes low.loudness with
      | true => simp [Record.passes_mono rank record passes]
      | false => rfl
  · simp only [run_eq, last]
    exact printed_sublist rank _
  · exact fun older => framed_perform high db _ older

/-- A call for a table that is not there. -/
def missingCall (loudness : Loudness) : Invocation :=
  ⟨"t", { databaseUrl := some "sqlite://" }, loudness⟩

/-- A quiet call ends as one that is verbose twice, without the summary and with less said before. -/
theorem quieter_of_rank_missing :
    ((missingCall ⟨2, true⟩).run [] {} (.empty [])).status =
        ((missingCall ⟨2, false⟩).run [] {} (.empty [])).status ∧
      ((missingCall ⟨2, true⟩).run [] {} (.empty [])).only .summary = [] ∧
      ((missingCall ⟨2, true⟩).run [] {} (.empty [])).output.Sublist
        ((missingCall ⟨2, false⟩).run [] {} (.empty [])).output := by
  have quieter := quieter_of_rank (missingCall ⟨2, true⟩) (missingCall ⟨2, false⟩) rfl rfl
    (by decide) [] {} (.empty [])
  exact ⟨quieter.status, quieter.summary, quieter.order⟩

end CommandLine

end Scaffold
