/-!
Cutting text at separators and drawing runs together. `split` keeps the empty pieces, so joining
the pieces with the separator gives the text back; `collapse` leaves one mark for every run.
-/
namespace Scaffold.Text

/-- The pieces between the separators, empty ones included. There is always at least one. -/
def split (isSeparator : Char → Bool) : List Char → List (List Char)
  | [] => [[]]
  | c :: rest =>
    if isSeparator c then [] :: split isSeparator rest
    else
      match split isSeparator rest with
      | [] => [[c]]
      | piece :: pieces => (c :: piece) :: pieces

/-- The pieces that hold something. -/
def words (isSeparator : Char → Bool) (cs : List Char) : List (List Char) :=
  (split isSeparator cs).filter (fun piece => !piece.isEmpty)

/-- Puts `mark` in the place of every longest run of the characters that `inRun` accepts. -/
def collapse (inRun : Char → Bool) (mark : Char) : List Char → List Char
  | [] => []
  | c :: rest =>
    if inRun c then
      if rest.head?.any inRun then collapse inRun mark rest
      else mark :: collapse inRun mark rest
    else c :: collapse inRun mark rest

/-- Joins texts with a text between each two. -/
def join (between : String) (texts : List String) : String :=
  String.ofList (List.intercalate between.toList (texts.map String.toList))

/-- Fills a text with spaces on the right up to a width counted in characters. -/
def padRight (width : Nat) (s : String) : String :=
  s ++ String.ofList (List.replicate (width - s.length) ' ')

/-- Fills a text with spaces on the left up to a width counted in characters. -/
def padLeft (width : Nat) (s : String) : String :=
  String.ofList (List.replicate (width - s.length) ' ') ++ s

end Scaffold.Text
