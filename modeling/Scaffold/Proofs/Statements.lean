import Mathlib.Data.List.Basic
import Scaffold.Proofs.Registering

/-! Lines of a routes file. What is registered goes behind everything else in the file, so it stands on
a line of its own exactly when the line before it is ended. Nothing looks at that: neither a text whose
last line is not ended nor a header of that kind gets a line feed. The header that the program itself
writes is ended. -/
namespace Scaffold

namespace Text

variable {c : Char} {cs front back line : List Char}

/-! ## Ended lines -/

/-- Every line of a text is ended, the last one too. -/
def Ended (cs : List Char) : Prop :=
  cs = [] ∨ cs.getLast? = some '\n'

instance : DecidablePred Ended := fun _ => inferInstanceAs (Decidable (_ ∨ _))

private theorem ended_concat (cs : List Char) : Ended (cs ++ ['\n']) :=
  .inr List.getLast?_concat

theorem Ended.tail (ended : Ended (c :: cs)) : Ended cs := by
  rcases cs with _ | ⟨d, more⟩
  · exact .inl rfl
  · rcases ended with bare | last
    · cases bare
    · rw [List.getLast?_cons_cons] at last
      exact .inr last

private theorem Ended.tail_ne_nil (ended : Ended (c :: cs)) (other : c ≠ '\n') : cs ≠ [] := by
  rintro rfl
  rcases ended with bare | last
  · cases bare
  · exact other (Option.some.inj last)

/-- What is joined from lines with their line feeds is ended. -/
theorem ended_join (lines : List String) : Ended (String.join (lines.map (· ++ "\n"))).toList := by
  rcases List.eq_nil_or_concat' lines with rfl | ⟨init, last, rfl⟩
  · exact .inl rfl
  · simp only [String.join, List.map_append, List.foldl_append, List.map_cons, List.map_nil,
      List.foldl_cons, List.foldl_nil, String.toList_append]
    rw [← List.append_assoc]
    exact ended_concat _

private theorem inputLines_lineFeed (cs : List Char) :
    inputLines ('\n' :: cs) = [] :: inputLines cs := rfl

/-- A character that ends no line belongs to the first line of what follows. -/
theorem inputLines_cons (other : c ≠ '\n') :
    inputLines (c :: cs) = (c :: (inputLines cs).headD []) :: (inputLines cs).tail := by
  rcases cs with _ | ⟨d, more⟩
  · rw [inputLines.eq_3 c other, inputLines.eq_1, List.headD_nil, List.tail_nil]
  · by_cases ends : d = '\n'
    · subst ends
      rw [inputLines.eq_4 c more other, inputLines_lineFeed, List.headD_cons, List.tail_cons]
    · rw [inputLines.eq_5 c d more other ends]
      cases inputLines (d :: more) <;> rfl

private theorem inputLines_ne_nil (some : cs ≠ []) : inputLines cs ≠ [] := by
  obtain ⟨c, rest, rfl⟩ := List.exists_cons_of_ne_nil some
  by_cases ends : c = '\n'
  · rw [ends, inputLines_lineFeed]
    exact List.cons_ne_nil _ _
  · rw [inputLines_cons ends]
    exact List.cons_ne_nil _ _

/-- Behind ended lines, all that follows stands on lines of its own. -/
theorem inputLines_append (ended : Ended front) :
    inputLines (front ++ back) = inputLines front ++ inputLines back := by
  induction front with
  | nil => rfl
  | cons c rest ih =>
    by_cases ends : c = '\n'
    · subst ends
      rw [List.cons_append, inputLines_lineFeed, inputLines_lineFeed, ih ended.tail, List.cons_append]
    · rw [List.cons_append, inputLines_cons ends, inputLines_cons ends, ih ended.tail]
      obtain ⟨first, lines, same⟩ :=
        List.exists_cons_of_ne_nil (inputLines_ne_nil (ended.tail_ne_nil ends))
      simp only [same, List.cons_append, List.headD_cons, List.tail_cons]

/-- A line feed ends one line when there is none before it. -/
theorem inputLines_line (unbroken : '\n' ∉ line) : inputLines (line ++ ['\n']) = [line] := by
  induction line with
  | nil => rfl
  | cons c rest ih =>
    obtain ⟨other, onward⟩ := List.ne_and_not_mem_of_not_mem_cons unbroken
    rw [List.cons_append, inputLines_cons (Ne.symm other), ih onward, List.headD_cons, List.tail_cons]

/-- There are as many lines as are counted. -/
theorem length_inputLines (cs : List Char) : (inputLines cs).length = lineCountChars cs := by
  induction cs with
  | nil => rfl
  | cons c rest ih =>
    by_cases ends : c = '\n'
    · subst ends
      rw [inputLines_lineFeed, List.length_cons, ih, lineCountChars, lineCountChars]
      rcases rest with _ | ⟨d, more⟩
      · rfl
      · simp only [List.isEmpty_cons, Bool.false_or, List.count_cons_self, List.getLast?_cons_cons]
        omega
    · rw [inputLines_cons ends]
      rcases rest with _ | ⟨d, more⟩
      · simp [inputLines, lineCountChars, ends]
      · obtain ⟨first, lines, same⟩ :=
          List.exists_cons_of_ne_nil (inputLines_ne_nil (List.cons_ne_nil d more))
        simp only [same, List.length_cons, List.tail_cons] at ih ⊢
        rw [ih, lineCountChars, lineCountChars, List.count_cons_of_ne ends, List.getLast?_cons_cons]
        rfl

private theorem lineCountChars_eq (cs : List Char) :
    lineCountChars cs = cs.count '\n' + if Ended cs then 0 else 1 := by
  have same : (cs.isEmpty || cs.getLast? == some '\n') = decide (Ended cs) := by
    rw [Bool.eq_iff_iff, decide_eq_true_iff]
    simp [Ended]
  rw [lineCountChars, same]
  simp only [decide_eq_true_eq]

/-- A line that is put behind two texts stands on its own exactly when both of them are ended. -/
theorem inputLines_behind_iff (unbroken : '\n' ∉ line) :
    inputLines (front ++ back ++ line ++ ['\n']) = inputLines front ++ inputLines back ++ [line] ↔
      Ended front ∧ Ended back := by
  constructor
  · -- Each text that is not ended makes for one line less.
    intro same
    have counts := congrArg List.length same
    simp only [List.length_append, length_inputLines, lineCountChars_eq, if_pos (ended_concat _),
      List.count_append, List.count_eq_zero.mpr unbroken, List.length_singleton] at counts
    have one : List.count '\n' ['\n'] = 1 := rfl
    by_cases first : Ended front
    · by_cases second : Ended back
      · exact ⟨first, second⟩
      · rw [if_pos first, if_neg second] at counts
        omega
    · rw [if_neg first] at counts
      omega
  · rintro ⟨first, second⟩
    rw [List.append_assoc, List.append_assoc, inputLines_append first, inputLines_append second,
      inputLines_line unbroken, List.append_assoc]

private theorem encode_eq_nil_iff {s : String} : encode s = [] ↔ s = "" := by
  constructor
  · intro bare
    have decoded := decode?_encode s
    rw [bare, show ([] : Bytes) = encode "" from rfl, decode?_encode] at decoded
    exact (Option.some.inj decoded).symm
  · rintro rfl
    rfl

end Text

namespace Emission

open Files Files.Workspace Text

variable {style : RouteStyle} {path : Path} {line : String} {session after : Session}
  {w w' mid : Workspace} {place : Location} {mode : Nat} {bytes : Bytes} {old : String}

/-! ## Registered lines -/

/-- The header that goes in front of a line, when there is no text yet. -/
def RouteStyle.opening (style : RouteStyle) (old : String) : String :=
  if old = "" then style.header else ""

private theorem RouteStyle.addition_encode (style : RouteStyle) (old line : String) :
    style.addition (encode old) line = style.opening old ++ line ++ "\n" := by
  rw [RouteStyle.addition, RouteStyle.opening]
  by_cases bare : old = ""
  · rw [if_pos bare, if_pos (List.isEmpty_iff.mpr (encode_eq_nil_iff.mpr bare))]
  · have some : (encode old).isEmpty = false :=
      List.isEmpty_eq_false_iff.mpr fun none => bare (encode_eq_nil_iff.mp none)
    rw [if_neg bare, if_neg (by simp [some])]

/-- All that a routes file begins with of its own accord is ended. -/
theorem ended_header (template : String) : Ended (RouteStyle.make template none).header.toList := by
  change Ended (if template == Config.defaultRouteTemplate then standardHeader else "").toList
  split
  · exact ended_join _
  · exact .inl rfl

/-- The path leads to the file that was added to, and the file has what was added behind what it
had. -/
theorem Adds.reads (adds : Adds style path line w w' mid place mode bytes) :
    w'.locate .follow path = .ok place ∧ bytes = (w.bytesAt place).getD [] ∧
      w'.bytesAt place = some (bytes ++ encode (style.addition bytes line)) := by
  have plain : ∀ target, mid.entryAt place ≠ some (.link target) := by
    intro target found
    rcases adds.held with held | ⟨missing, -⟩
    · cases held.symm.trans found
    · cases missing.symm.trans found
  have real : place ≠ [] := by
    rintro rfl
    exact adds.solid (entryAt_root mid)
  have same := adds.paves.entryAt_eq adds.solid
  rw [adds.result]
  refine ⟨locate_follow (locate_forth (extends_set_file adds.solid plain) adds.located), ?_, ?_⟩
  · rw [bytesAt, ← same]
    rcases adds.held with held | ⟨missing, -, rfl⟩
    · simp [held]
    · simp [missing]
  · rw [bytesAt, entryAt_set_self real]

/-- A route that is registered is on the last line of the routes file, behind what the file had and the
header that a file without text gets. It has that line for itself, and all lines before it are what they
were, exactly when what is before it is ended; a header of the program's own always is. -/
theorem registered_line_stands_iff {routeName controller : String}
    (ran : (appendRoute style path routeName controller).run session = (.ok line, after))
    (unbroken : '\n' ∉ line.toList) :
    line = style.line routeName controller ∧
    (∀ template, style = .make template none → Ended style.header.toList) ∧
    ∃ place, after.workspace.locate .follow path = .ok place ∧
      ∀ old, (session.workspace.bytesAt place).getD [] = encode old →
        ∃ new, after.workspace.bytesAt place = some (encode new) ∧
          new = old ++ style.opening old ++ line ++ "\n" ∧
          (inputLines new.toList =
              inputLines old.toList ++ inputLines (style.opening old).toList ++ [line.toList] ↔
            Ended old.toList ∧ Ended (style.opening old).toList) := by
  rcases appendRoute_run ran with ⟨w', mid, place, mode, bytes, done, adds, stands⟩ |
    ⟨fault, w', failed, -⟩
  · obtain rfl := Except.ok.inj done
    have inside : after.workspace = w' := congrArg Standing.workspace stands
    obtain ⟨leads, held, written⟩ := adds.reads
    refine ⟨rfl, fun template same => same ▸ ended_header template, place, inside ▸ leads,
      fun old spelled => ⟨_, ?_, rfl, ?_⟩⟩
    · obtain rfl : bytes = encode old := held.trans spelled
      rw [inside, written, style.addition_encode, ← encode_append]
      simp only [String.append_assoc]
    · simp only [String.toList_append]
      exact inputLines_behind_iff unbroken
  · cases failed

/-- A statement that names nothing but the route, without a header. -/
def plainStyle : RouteStyle :=
  .make "use \x7b\x7brouteName\x7d\x7d" none

/-- A session with a routes file that holds some text. -/
def sessionWith (text : String) : Session where
  workspace := { home := [], entries := [(["r"], .file 0o644 (encode text))] }
  consent := .always true

/-- Behind a blank line, the statement is a line of its own. -/
theorem registered_line_stands_blank : ∃ after,
    (appendRoute plainStyle ⟨.here, ["r"]⟩ "posts" "C").run (sessionWith "import a\n\n") =
      (.ok "use posts", after) ∧
    after.workspace.bytesAt ["r"] = some (encode "import a\n\nuse posts\n") ∧
    inputLines "import a\n\nuse posts\n".toList =
      inputLines "import a\n\n".toList ++ [] ++ ["use posts".toList] := by
  have done : ((appendRoute plainStyle ⟨.here, ["r"]⟩ "posts" "C").run
      (sessionWith "import a\n\n")).1 = .ok "use posts" := by decide +kernel
  rcases ran : (appendRoute plainStyle ⟨.here, ["r"]⟩ "posts" "C").run
    (sessionWith "import a\n\n") with ⟨result, after⟩
  rw [ran] at done
  obtain rfl : result = .ok "use posts" := done
  obtain ⟨-, -, place, leads, reads⟩ := registered_line_stands_iff ran (by decide +kernel)
  have known : ((appendRoute plainStyle ⟨.here, ["r"]⟩ "posts" "C").run
      (sessionWith "import a\n\n")).2.workspace.locate .follow ⟨.here, ["r"]⟩ = .ok ["r"] := by
    decide +kernel
  rw [ran] at known
  obtain rfl : place = ["r"] := Except.ok.inj (leads.symm.trans known)
  obtain ⟨_, written, rfl, alone⟩ := reads "import a\n\n" (by decide +kernel)
  exact ⟨after, rfl, written, alone.mpr ⟨by decide +kernel, by decide +kernel⟩⟩

/-- Behind a line that is not ended, the statement is no line, and that line is not what it was. -/
theorem unended_line_runs_on :
    (sessionWith "import a").workspace.bytesAt ["r"] = some (encode "import a") ∧
    '\n' ∉ "use posts".toList ∧ ∃ after,
    (appendRoute plainStyle ⟨.here, ["r"]⟩ "posts" "C").run (sessionWith "import a") =
      (.ok "use posts", after) ∧
    after.workspace.bytesAt ["r"] = some (encode "import ause posts\n") ∧
    inputLines "import ause posts\n".toList ≠
      inputLines "import a".toList ++ ["use posts".toList] := by
  refine ⟨rfl, by decide +kernel, _, Prod.ext (?_ : _ = Except.ok "use posts") rfl, ?_, ?_⟩
  · decide +kernel
  · decide +kernel
  · decide +kernel

end Emission

end Scaffold
