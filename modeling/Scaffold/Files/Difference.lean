import Scaffold.Files.Workspace

/-!
What has changed between two looks at a workspace, below the current directory and outside it. Links
count as what they are and not as what they lead to.
-/
namespace Scaffold.Files

namespace Workspace

/-- The entries below the current directory, by their path from there, in order. -/
def below (w : Workspace) : List (String × Entry) :=
  let inside := w.entries.filterMap fun (place, entry) =>
    if w.home.isPrefixOf place && w.home.length < place.length then
      some (Path.text ⟨.here, place.drop w.home.length⟩, entry)
    else none
  inside.mergeSort fun a b => a.1 ≤ b.1

/-- The entries below the current directory that are new or not as they were. -/
def changedSince (now before : Workspace) : List (String × Entry) :=
  let old := before.below
  now.below.filter fun (path, entry) => old.lookup path != some entry

/-- The paths below the current directory that led to an entry and no longer do. -/
def removedSince (now before : Workspace) : List String :=
  let new := now.below
  (before.below.map (·.1)).filter fun path => (new.lookup path).isNone

/-- Whether an entry is new or not as it was in some place outside the current directory. -/
def differsOutside (now before : Workspace) : Bool :=
  now.entries.any fun (place, entry) =>
    !now.home.isPrefixOf place && before.entryAt place != some entry

end Workspace

end Scaffold.Files
