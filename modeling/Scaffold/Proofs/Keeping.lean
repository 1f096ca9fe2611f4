import Scaffold.Proofs.Landing

/-! How paths fare when a workspace grows. Directories and files change nothing for them. Only a file
that takes the place of a link does: what went through the link goes no further then. So a straight
path leads where it did, or it stops short at such a file. -/
namespace Scaffold.Files.Workspace

variable {w w' : Workspace} {ups : Bool} {atEnd : AtEnd} {links : Nat}
  {here there other goal place : Location} {step target : String} {steps rest : List String}
  {path : Path}

/-! ## Straight steps -/

theorem not_dots_of_pause (still : isPause step = true) : step ≠ ".." := by
  rintro rfl
  simp [dots_not_pause] at still

theorem Leads.no_dots (leads : w.Leads false here steps there) : ".." ∉ steps := by
  induction leads with
  | stop => simp
  | pause still _ ih =>
    intro member
    rcases List.mem_cons.mp member with rfl | member
    · exact not_dots_of_pause still rfl
    · exact ih member
  | up allowed => cases allowed
  | name real _ _ ih =>
    intro member
    rcases List.mem_cons.mp member with rfl | member
    · exact real.2 rfl
    · exact ih member
  | link real _ _ ih =>
    intro member
    rcases List.mem_cons.mp member with rfl | member
    · exact real.2 rfl
    · exact ih (List.mem_append_right _ member)

/-- From what is no directory, steps only lead further down. -/
theorem leads_bare (tree : w.WellFormed) (bare : w.entryAt here ≠ some .directory)
    (level : ".." ∉ steps) :
    w.Leads false here steps (here ++ steps.filter fun step => !isPause step) := by
  induction steps generalizing here with
  | nil => simpa using Leads.stop here
  | cons step rest ih =>
    have onward : ".." ∉ rest := fun member => level (List.mem_cons_of_mem _ member)
    cases still : isPause step with
    | true =>
      rw [List.filter_cons_of_neg (by simp [still])]
      exact .pause still (ih bare onward)
    | false =>
      have missing := tree.below bare step
      have real : isRealName step := ⟨still, by rintro rfl; exact level List.mem_cons_self⟩
      rw [List.filter_cons_of_pos (by simp [still]), List.append_cons]
      exact .name real (by simp [missing]) (ih (by simp [missing]) onward)

/-! ## Growth -/

/-- Straight steps that lead somewhere go on to do so. -/
theorem Leads.onward (tree : w'.WellFormed) (grows : w.Grows w')
    (leads : w.Leads false here steps there) : ∃ other, w'.Leads false here steps other := by
  induction leads with
  | stop here => exact ⟨here, .stop here⟩
  | pause still _ ih =>
    obtain ⟨other, onward⟩ := ih
    exact ⟨other, .pause still onward⟩
  | up allowed => cases allowed
  | name real plain _ ih =>
    obtain ⟨other, onward⟩ := ih
    exact ⟨other, .name real (fun target found => plain target (grows.noNewLink found)) onward⟩
  | link real found onward ih =>
    rcases grows.link found with kept | ⟨mode, bytes, written⟩
    · obtain ⟨other, onward⟩ := ih
      exact ⟨other, .link real kept onward⟩
    · have level := fun member => onward.no_dots (List.mem_append_right _ member)
      exact ⟨_, .name real (by simp [written]) (leads_bare tree (by simp [written]) level)⟩

/-- A walk in a grown workspace that ends at no former link comes to where its steps led. -/
theorem Walks.former (grows : w.Grows w') (walks : w'.Walks atEnd links here steps there)
    (plain : ∀ target, w.entryAt there ≠ some (.link target)) : w.Leads true here steps there := by
  induction walks with
  | stop _ here => exact .stop here
  | pause _ still _ ih => exact .pause still (ih plain)
  | up _ _ ih => exact .up rfl (ih plain)
  | @name _ here _ step rest _ real _ unlinked onward ih =>
    refine .name real ?_ (ih plain)
    intro target found
    rcases grows.link found with kept | ⟨mode, bytes, written⟩
    · exact unlinked target kept
    · cases rest with
      | nil =>
        cases onward
        exact plain target found
      | cons next rest =>
        rw [onward.inside] at written
        cases written
  | stay _ _ _ found => exact absurd (grows.noNewLink found) (plain _)
  | link _ real _ _ found _ ih => exact .link real (grows.noNewLink found) (ih plain)

/-- A walk that ends at a link goes on to where the link leads. -/
theorem Walks.through (tree : w.WellFormed) (walks : w.Walks atEnd links here steps there)
    (start : ∀ target, w.entryAt here ≠ some (.link target))
    (found : w.entryAt there = some (.link target))
    (leads : w.Leads true (linkStart there.dropLast target) (linkSteps target) goal) :
    w.Leads true here steps goal := by
  induction walks with
  | stop => exact absurd found (start _)
  | pause _ still _ ih => exact .pause still (ih start found leads)
  | @up _ here _ _ inside _ ih =>
    refine .up rfl (ih ?_ found leads)
    intro target found'
    rcases List.eq_nil_or_concat' here with rfl | ⟨parent, name, rfl⟩
    · simp at found'
    · rw [List.dropLast_concat, tree.parent (by rw [inside]; simp)] at found'
      cases found'
  | name _ real _ plain _ ih => exact .name real plain (ih plain found leads)
  | stay _ real _ found' =>
    rw [found] at found'
    cases found'
    rw [List.dropLast_concat] at leads
    exact .link real found (by simpa using leads)
  | @link _ here _ _ target' _ inside real _ _ found' _ ih =>
    refine .link real found' (ih ?_ found leads)
    intro target
    unfold linkStart
    split
    · simp
    · rw [inside]
      simp

/-! ## Stopping short -/

/-- Pauses at the end of some steps can be left out. -/
theorem Leads.unpaused {front back : List String}
    (leads : w.Leads ups here (front ++ back) there) :
    w.Leads ups here (front ++ back.filter fun step => !isPause step) there := by
  generalize joined : front ++ back = steps at leads
  induction leads generalizing front back with
  | stop here =>
    obtain ⟨rfl, rfl⟩ := List.append_eq_nil_iff.mp joined
    exact .stop here
  | pause still _ ih =>
    rcases front with _ | ⟨step, front⟩
    · cases joined
      rw [List.nil_append, List.filter_cons_of_neg (by simp [still])]
      exact @ih [] _ rfl
    · cases joined
      exact .pause still (ih rfl)
  | up allowed _ ih =>
    rcases front with _ | ⟨step, front⟩
    · cases joined
      rw [List.nil_append, List.filter_cons_of_pos (by simp [dots_not_pause])]
      exact .up allowed (@ih [] _ rfl)
    · cases joined
      exact .up allowed (ih rfl)
  | name real plain _ ih =>
    rcases front with _ | ⟨step, front⟩
    · cases joined
      rw [List.nil_append, List.filter_cons_of_pos (by simp [real.1])]
      exact .name real plain (@ih [] _ rfl)
    · cases joined
      exact .name real plain (ih rfl)
  | @link _ _ _ _ target real found _ ih =>
    rcases front with _ | ⟨step, front⟩
    · cases joined
      rw [List.nil_append, List.filter_cons_of_pos (by simp [real.1])]
      exact .link real found (ih rfl)
    · cases joined
      have onward := @ih (linkSteps target ++ front) back (List.append_assoc ..)
      rw [List.append_assoc] at onward
      exact .link real found onward

/-- Where straight steps lead in a grown workspace: to where they led, or to names behind a file that
has taken the place of a link on the way. -/
theorem Leads.fate (tree : w'.WellFormed) (grows : w.Grows w')
    (leads : w.Leads false here steps goal) (leads' : w'.Leads false here steps there) :
    there = goal ∨ ∃ front rest target mode bytes, there = front ++ rest ∧
      w.entryAt front = some (.link target) ∧ w'.entryAt front = some (.file mode bytes) ∧
      w.Leads false (linkStart front.dropLast target) (linkSteps target ++ rest) goal := by
  induction leads with
  | stop here =>
    cases leads'
    exact .inl rfl
  | pause still _ ih =>
    cases leads' with
    | pause _ onward' => exact ih onward'
    | name real | link real => exact absurd still (by simp [real.1])
    | up allowed => cases allowed
  | up allowed => cases allowed
  | name real plain _ ih =>
    cases leads' with
    | pause still => exact absurd still (by simp [real.1])
    | up allowed => cases allowed
    | name _ _ onward' => exact ih onward'
    | link _ found' => exact absurd (grows.noNewLink found') (plain _)
  | @link here _ step rest target real found onward ih =>
    cases leads' with
    | pause still => exact absurd still (by simp [real.1])
    | up allowed => cases allowed
    | name _ unlinked onward' =>
      rcases grows.link found with kept | ⟨mode, bytes, written⟩
      · exact absurd kept (unlinked _)
      · have level := fun member => onward.no_dots (List.mem_append_right _ member)
        have same := onward'.unique (leads_bare tree (by simp [written]) level)
        refine .inr ⟨here ++ [step], _, target, mode, bytes, same, found, written, ?_⟩
        rw [List.dropLast_concat]
        exact onward.unpaused
    | link _ found' onward' =>
      have same := grows.noNewLink found'
      rw [found] at same
      cases same
      exact ih onward'

/-- A link has nothing behind it, so at most one place on the way to another is a link. -/
theorem WellFormed.link_unique {front front' : Location} {target' : String} (tree : w.WellFormed)
    (same : front ++ rest = front' ++ steps) (found : w.entryAt front = some (.link target))
    (found' : w.entryAt front' = some (.link target')) : front = front' := by
  rcases List.append_eq_append_iff.mp same with ⟨more, rfl, -⟩ | ⟨more, rfl, -⟩
  · cases more with
    | nil => simp
    | cons =>
      have directory := tree.above (by rw [found']; simp) (by simp)
      rw [found] at directory
      cases directory
  · cases more with
    | nil => simp
    | cons =>
      have directory := tree.above (by rw [found]; simp) (by simp)
      rw [found'] at directory
      cases directory

/-! ## Targets that spare a file -/

/-- Writing to a path does not mean the given place, nor the place that the other path leads to. -/
def Misses (w : Workspace) (kept : Path) (place : Location) (path : Path) : Prop :=
  ∀ left there, w.target path = .ok left → w.LeadsTo true left there →
    there ≠ place ∧ ¬ w.LeadsTo true kept there

/-- The same now and after more files were written, some of them perhaps over links. -/
def Spares (w : Workspace) (kept : Path) (place : Location) (path : Path) : Prop :=
  ∀ w' : Workspace, w.Grows w' → w'.WellFormed → w'.Misses kept place path

theorem Spares.grown {kept : Path} (spares : w.Spares kept place path) (grows : w.Grows w') :
    w'.Spares kept place path :=
  fun later more tree => spares later (grows.trans more) tree

theorem LeadsTo.onward (tree : w'.WellFormed) (grows : w.Grows w')
    (leads : w.LeadsTo false path there) : ∃ other, w'.LeadsTo false path other := by
  rw [LeadsTo] at leads
  rw [← base_congr grows.home path] at leads
  exact Leads.onward tree grows leads

/-- Where a straight path leads in a grown workspace: to where it led, or to names behind a file that
has taken the place of a link on the way. -/
theorem LeadsTo.fate (tree : w'.WellFormed) (grows : w.Grows w')
    (leads : w.LeadsTo false path goal) (leads' : w'.LeadsTo false path there) :
    there = goal ∨ ∃ front rest target mode bytes, there = front ++ rest ∧
      w.entryAt front = some (.link target) ∧ w'.entryAt front = some (.file mode bytes) ∧
      w.Leads false (linkStart front.dropLast target) (linkSteps target ++ rest) goal := by
  rw [LeadsTo] at leads leads'
  rw [base_congr grows.home path] at leads'
  exact Leads.fate tree grows leads leads'

/-- It is enough that a straight path leads elsewhere. -/
theorem LeadsTo.spares {kept : Path} (tree : w.WellFormed) (keeps : w.LeadsTo false kept place)
    (proper : path.Proper) (leads : w.LeadsTo false path goal) (apart : goal ≠ place) :
    w.Spares kept place path := by
  intro w' grows tree' left there means leadsLeft
  obtain ⟨other, leads'⟩ := leads.onward tree' grows
  obtain ⟨_, leadsLeft'⟩ := target_leads tree' proper leads' means
  obtain rfl : other = there := Leads.unique leadsLeft' leadsLeft
  have settled := keeps.settled tree
  have fate := leads.fate tree' grows leads'
  constructor
  · rintro rfl
    rcases fate with rfl | ⟨front, rest, target, _, _, rfl, found, -⟩
    · exact apart rfl
    · exact settled.clear ⟨rest, rfl⟩ found
  · intro meets
    obtain ⟨kept', keeps'⟩ := keeps.onward tree' grows
    obtain rfl : kept' = other := Leads.unique keeps' meets
    have keptFate := keeps.fate tree' grows keeps'
    rcases fate with rfl | ⟨front, rest, target, _, _, rfl, found, -, behind⟩
    · rcases keptFate with rfl | ⟨front, rest, target, _, _, rfl, found, -⟩
      · exact apart rfl
      · exact (leads.settled tree).clear ⟨rest, rfl⟩ found
    · rcases keptFate with rfl | ⟨front', rest', target', _, _, same, found', -, behind'⟩
      · exact settled.clear ⟨rest, rfl⟩ found
      · obtain rfl := tree.link_unique same found found'
        obtain rfl := List.append_cancel_left same
        rw [found] at found'
        cases found'
        exact apart (behind.unique behind')

end Scaffold.Files.Workspace
