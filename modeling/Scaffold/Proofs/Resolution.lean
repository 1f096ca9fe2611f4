import Scaffold.Proofs.Entries

/-! Where paths lead. `Leads` follows names and links from a place without asking whether the places
on the way are there; it is what a path means. A walk goes only through directories and a limited
number of links, and comes to the place that its steps lead to. Resolution needs neither, and finds
a place exactly when there is one. -/
namespace Scaffold.Files.Workspace

/-- Following steps from a place comes to another place. Two dots may only be on the way where `ups`
says so. -/
inductive Leads (w : Workspace) (ups : Bool) : Location → List String → Location → Prop where
  | stop (here : Location) : Leads w ups here [] here
  | pause {here there : Location} {step : String} {rest : List String}
      (still : isPause step = true) (onward : Leads w ups here rest there) :
      Leads w ups here (step :: rest) there
  | up {here there : Location} {rest : List String}
      (allowed : ups = true) (onward : Leads w ups here.dropLast rest there) :
      Leads w ups here (".." :: rest) there
  | name {here there : Location} {step : String} {rest : List String} (real : isRealName step)
      (plain : ∀ target, w.entryAt (here ++ [step]) ≠ some (.link target))
      (onward : Leads w ups (here ++ [step]) rest there) : Leads w ups here (step :: rest) there
  | link {here there : Location} {step : String} {rest : List String} {target : String}
      (real : isRealName step) (found : w.entryAt (here ++ [step]) = some (.link target))
      (onward : Leads w ups (linkStart here target) (linkSteps target ++ rest) there) :
      Leads w ups here (step :: rest) there

/-- The place that a path leads to. -/
def LeadsTo (w : Workspace) (ups : Bool) (path : Path) (place : Location) : Prop :=
  w.Leads ups (w.base path) path.names place

/-- A walk that comes to an end, with all that it meets on the way. -/
inductive Walks (w : Workspace) (atEnd : AtEnd) :
    Nat → Location → List String → Location → Prop where
  | stop (links : Nat) (here : Location) : Walks w atEnd links here [] here
  | pause {links : Nat} {here there : Location} {step : String} {rest : List String}
      (inside : w.entryAt here = some .directory) (still : isPause step = true)
      (onward : Walks w atEnd links here rest there) : Walks w atEnd links here (step :: rest) there
  | up {links : Nat} {here there : Location} {rest : List String}
      (inside : w.entryAt here = some .directory)
      (onward : Walks w atEnd links here.dropLast rest there) :
      Walks w atEnd links here (".." :: rest) there
  | name {links : Nat} {here there : Location} {step : String} {rest : List String}
      (inside : w.entryAt here = some .directory) (real : isRealName step)
      (allowed : ¬(atEnd = .make ∧ rest = [slashStep]))
      (plain : ∀ target, w.entryAt (here ++ [step]) ≠ some (.link target))
      (onward : Walks w atEnd links (here ++ [step]) rest there) :
      Walks w atEnd links here (step :: rest) there
  | stay {links : Nat} {here : Location} {step target : String}
      (inside : w.entryAt here = some .directory) (real : isRealName step)
      (staying : atEnd = .stay) (found : w.entryAt (here ++ [step]) = some (.link target)) :
      Walks w atEnd links here [step] (here ++ [step])
  | link {links : Nat} {here there : Location} {step target : String} {rest : List String}
      (inside : w.entryAt here = some .directory) (real : isRealName step)
      (allowed : ¬(atEnd = .make ∧ rest = [slashStep])) (leaving : ¬(atEnd = .stay ∧ rest = []))
      (found : w.entryAt (here ++ [step]) = some (.link target))
      (onward : Walks w atEnd links (linkStart here target) (linkSteps target ++ rest) there) :
      Walks w atEnd (links + 1) here (step :: rest) there

variable {w w' : Workspace} {ups : Bool} {atEnd : AtEnd} {links : Nat}
  {here there other mid : Location} {step : String} {steps rest more : List String}

theorem dots_not_pause : isPause ".." = false := by decide

/-! ## Walks -/

private theorem walks_of_walkOn {follow : Location → List String → Except Fault Location}
    (jump : ∀ {start steps there}, follow start steps = .ok there →
      ∃ left, links = left + 1 ∧ w.Walks atEnd left start steps there)
    (ran : walkOn w atEnd follow here steps = .ok there) : w.Walks atEnd links here steps there := by
  induction steps generalizing here with
  | nil =>
    cases ran
    exact .stop _ _
  | cons step rest ih =>
    simp only [walkOn] at ran
    split at ran
    · cases ran
    · rename_i inside
      split at ran
      · rename_i still
        exact .pause inside still (ih ran)
      · rename_i moving
        split at ran
        · rename_i dots
          obtain rfl : step = ".." := by simpa using dots
          exact .up inside (ih ran)
        · rename_i named
          have real : isRealName step := ⟨by simpa using moving, by simpa using named⟩
          split at ran
          · cases ran
          · rename_i allowed
            split at ran
            · rename_i target found
              split at ran
              · rename_i staying
                obtain ⟨staying, rfl⟩ := staying
                cases ran
                exact .stay inside real staying found
              · rename_i leaving
                obtain ⟨left, rfl, onward⟩ := jump ran
                exact .link inside real allowed leaving found onward
            · rename_i plain
              exact .name inside real allowed plain (ih ran)
    · cases ran

theorem walks_of_walk (ran : walk w atEnd links here steps = .ok there) :
    w.Walks atEnd links here steps there := by
  induction links generalizing here steps there with
  | zero => exact walks_of_walkOn (by intro _ _ _ impossible; cases impossible) ran
  | succ left ih => exact walks_of_walkOn (fun onward => ⟨left, rfl, ih onward⟩) ran

theorem walk_of_walks (walks : w.Walks atEnd links here steps there) :
    walk w atEnd links here steps = .ok there := by
  induction walks with
  | stop links here => cases links <;> rfl
  | @pause links here there step rest inside still _ ih =>
    cases links <;> rw [walk, walkOn] <;> simp only [inside, still, if_true] <;> exact ih
  | @up links here there rest inside _ ih =>
    cases links <;> rw [walk, walkOn] <;>
      simp only [inside, dots_not_pause, Bool.false_eq_true, if_false, beq_self_eq_true, if_true] <;>
      exact ih
  | @name links here there step rest inside real allowed plain _ ih =>
    have onto : ∀ follow, walkOn w atEnd follow here (step :: rest) =
        walkOn w atEnd follow (here ++ [step]) rest := by
      intro follow
      simp only [walkOn, inside, real.1, beq_eq_false_iff_ne.mpr real.2, allowed, if_false,
        Bool.false_eq_true]
    cases links <;> exact (onto _).trans ih
  | @stay links here step target inside real staying found =>
    cases links <;> rw [walk, walkOn] <;> simp [inside, real.1, real.2, staying, found]
  | @link links here there step target rest inside real allowed leaving found _ ih =>
    rw [walk, walkOn]
    simp only [inside, real.1, beq_eq_false_iff_ne.mpr real.2, allowed, if_false,
      Bool.false_eq_true, found, leaving]
    exact ih

/-- A walk comes to the place that its steps lead to, unless it stays at a link. -/
theorem Walks.leads (walks : w.Walks atEnd links here steps there)
    (plain : atEnd = .stay → ∀ target, w.entryAt there ≠ some (.link target)) :
    w.Leads true here steps there := by
  induction walks with
  | stop _ here => exact .stop here
  | pause _ still _ ih => exact .pause still (ih plain)
  | up _ _ ih => exact .up rfl (ih plain)
  | name _ real _ unlinked _ ih => exact .name real unlinked (ih plain)
  | stay _ _ staying found => exact absurd found (plain staying _)
  | link _ real _ _ found _ ih => exact .link real found (ih plain)

/-- A walk needs directories and links and asks for nothing else. -/
theorem Walks.congr (directory : ∀ {place}, w.entryAt place = some .directory →
      w'.entryAt place = some .directory)
    (linked : ∀ {place target},
      w.entryAt place = some (.link target) ↔ w'.entryAt place = some (.link target))
    (walks : w.Walks atEnd links here steps there) : w'.Walks atEnd links here steps there := by
  induction walks with
  | stop links here => exact .stop links here
  | pause inside still _ ih => exact .pause (directory inside) still ih
  | up inside _ ih => exact .up (directory inside) ih
  | name inside real allowed plain _ ih =>
    exact .name (directory inside) real allowed
      (fun target found => plain target (linked.mpr found)) ih
  | stay inside real staying found =>
    exact .stay (directory inside) real staying (linked.mp found)
  | link inside real allowed leaving found _ ih =>
    exact .link (directory inside) real allowed leaving (linked.mp found) ih

/-- A walk in a workspace is one in every extension of it. -/
theorem Walks.forth (extends_ : w.Extends w') (walks : w.Walks atEnd links here steps there) :
    w'.Walks atEnd links here steps there :=
  walks.congr extends_.directory extends_.link_iff.symm

theorem Walks.inside (walks : w.Walks atEnd links here (step :: rest) there) :
    w.entryAt here = some .directory := by
  cases walks <;> assumption

/-- A walk from a directory that comes to nothing comes to a real name in a directory. -/
theorem Walks.spot (tree : w.WellFormed) (inside : w.entryAt here = some .directory)
    (walks : w.Walks atEnd links here steps there) (free : w.entryAt there = none) :
    ∃ parent name, there = parent ++ [name] ∧ isRealName name ∧
      w.entryAt parent = some .directory := by
  induction walks with
  | stop => rw [inside] at free; cases free
  | pause _ _ _ ih => exact ih inside free
  | @up _ here _ _ _ _ ih =>
    refine ih ?_ free
    rcases List.eq_nil_or_concat' here with rfl | ⟨parent, name, rfl⟩
    · exact entryAt_root w
    · rw [List.dropLast_concat]
      exact tree.parent (by rw [inside]; simp)
  | @name _ here _ step rest _ real _ _ onward ih =>
    cases rest with
    | nil =>
      cases onward
      exact ⟨here, step, rfl, real, inside⟩
    | cons next rest => exact ih onward.inside free
  | stay _ _ _ found => rw [found] at free; cases free
  | link _ _ _ _ _ _ ih =>
    refine ih ?_ free
    unfold linkStart
    split
    · exact entryAt_root w
    · exact inside

/-- Before its last step a walk comes to a directory, and it has followed all links by then. -/
theorem Walks.last_step (walks : w.Walks atEnd links here (steps ++ [step]) there) :
    ∃ left parent, w.Walks .follow links here steps parent ∧ w.entryAt parent = some .directory ∧
      w.Walks atEnd left parent [step] there := by
  generalize joined : steps ++ [step] = all at walks
  induction walks generalizing steps with
  | stop => simp at joined
  | pause inside still onward ih =>
    rcases steps with _ | ⟨_, steps⟩ <;> cases joined
    · exact ⟨_, _, .stop _ _, inside, .pause inside still onward⟩
    · obtain ⟨left, parent, before, directory, last⟩ := ih rfl
      exact ⟨left, parent, .pause inside still before, directory, last⟩
  | up inside onward ih =>
    rcases steps with _ | ⟨_, steps⟩ <;> cases joined
    · exact ⟨_, _, .stop _ _, inside, .up inside onward⟩
    · obtain ⟨left, parent, before, directory, last⟩ := ih rfl
      exact ⟨left, parent, .up inside before, directory, last⟩
  | name inside real allowed plain onward ih =>
    rcases steps with _ | ⟨_, steps⟩ <;> cases joined
    · exact ⟨_, _, .stop _ _, inside, .name inside real allowed plain onward⟩
    · obtain ⟨left, parent, before, directory, last⟩ := ih rfl
      exact ⟨left, parent, .name inside real (by simp) plain before, directory, last⟩
  | @stay links _ _ _ inside real staying found =>
    rcases steps with _ | ⟨_, steps⟩
    · cases joined
      exact ⟨links, _, .stop _ _, inside, .stay inside real staying found⟩
    · simp at joined
  | link inside real allowed leaving found onward ih =>
    rcases steps with _ | ⟨_, steps⟩ <;> cases joined
    · exact ⟨_, _, .stop _ _, inside, .link inside real allowed leaving found onward⟩
    · obtain ⟨left, parent, before, directory, last⟩ := ih (List.append_assoc ..)
      exact ⟨left, parent, .link inside real (by simp) (by simp) found before, directory, last⟩

/-- A walk whose last step stays ends in a directory. -/
theorem Walks.last_pause {pause : String} (still : isPause pause = true)
    (walks : w.Walks atEnd links here (steps ++ [pause]) there) :
    w.entryAt there = some .directory := by
  obtain ⟨_, parent, -, directory, last⟩ := walks.last_step
  cases last with
  | pause _ _ onward =>
    cases onward
    exact directory
  | up => exact absurd still (by simp [dots_not_pause])
  | name _ real | stay _ real | link _ real => exact absurd still (by simp [real.1])

/-- A walk whose last step is two dots ends in a directory. -/
theorem Walks.last_up (tree : w.WellFormed) (walks : w.Walks atEnd links here (steps ++ [".."]) there) :
    w.entryAt there = some .directory := by
  obtain ⟨_, parent, -, directory, last⟩ := walks.last_step
  cases last with
  | pause _ still => exact absurd still (by simp [dots_not_pause])
  | up _ onward =>
    cases onward
    rcases List.eq_nil_or_concat' parent with rfl | ⟨above, name, rfl⟩
    · exact entryAt_root w
    · rw [List.dropLast_concat]
      exact tree.parent (by rw [directory]; simp)
  | name _ real | stay _ real | link _ real => exact absurd rfl real.2

/-- A walk whose last name is not followed comes to that name in a directory, to which the steps before
it lead. -/
theorem Walks.last {name : String} (real : isRealName name)
    (stays : atEnd = .stay ∨ ∀ place target, w.entryAt (place ++ [name]) ≠ some (.link target))
    (walks : w.Walks atEnd links here (steps ++ [name]) there) :
    ∃ parent, there = parent ++ [name] ∧ w.Leads true here steps parent ∧
      w.entryAt parent = some .directory := by
  obtain ⟨_, parent, before, directory, last⟩ := walks.last_step
  have leads := before.leads (by simp)
  cases last with
  | pause _ still => exact absurd still (by simp [real.1])
  | up => exact absurd rfl real.2
  | name _ _ _ _ onward =>
    cases onward
    exact ⟨parent, rfl, leads, directory⟩
  | stay => exact ⟨parent, rfl, leads, directory⟩
  | link _ _ _ leaving found =>
    rcases stays with staying | plain
    · exact absurd ⟨staying, rfl⟩ leaving
    · exact absurd found (plain _ _)

/-! ## Leading somewhere -/

theorem Leads.append (first : w.Leads ups here steps mid) (second : w.Leads ups mid more there) :
    w.Leads ups here (steps ++ more) there := by
  induction first with
  | stop _ => exact second
  | pause still _ ih => exact .pause still (ih second)
  | up allowed _ ih => exact .up allowed (ih second)
  | name real plain _ ih => exact .name real plain (ih second)
  | link real found _ ih => exact .link real found (by simpa using ih second)

theorem Leads.weaken (leads : w.Leads ups here steps there) : w.Leads true here steps there := by
  induction leads with
  | stop here => exact .stop here
  | pause still _ ih => exact .pause still ih
  | up _ _ ih => exact .up rfl ih
  | name real plain _ ih => exact .name real plain ih
  | link real found _ ih => exact .link real found ih

/-- Steps lead to one place at most. -/
theorem Leads.unique {ups' : Bool} (first : w.Leads ups here steps there)
    (second : w.Leads ups' here steps other) : there = other := by
  induction first generalizing other with
  | stop _ =>
    cases second
    rfl
  | pause still _ ih =>
    cases second with
    | pause _ onward => exact ih onward
    | up => exact absurd still (by simp [dots_not_pause])
    | name real | link real => exact absurd still (by simp [real.1])
  | up _ _ ih =>
    cases second with
    | pause still => exact absurd still (by simp [dots_not_pause])
    | up _ onward => exact ih onward
    | name real | link real => exact absurd rfl real.2
  | name real plain _ ih =>
    cases second with
    | pause still => exact absurd still (by simp [real.1])
    | up => exact absurd rfl real.2
    | name _ _ onward => exact ih onward
    | link _ found => exact absurd found (plain _)
  | link real found _ ih =>
    cases second with
    | pause still => exact absurd still (by simp [real.1])
    | up => exact absurd rfl real.2
    | name _ plain => exact absurd found (plain _)
    | link _ found' onward =>
      rw [found] at found'
      cases found'
      exact ih onward

/-- Where steps lead depends on the links alone. -/
theorem Leads.congr (links : ∀ {place target},
      w.entryAt place = some (.link target) ↔ w'.entryAt place = some (.link target))
    (leads : w.Leads ups here steps there) : w'.Leads ups here steps there := by
  induction leads with
  | stop here => exact .stop here
  | pause still _ ih => exact .pause still ih
  | up allowed _ ih => exact .up allowed ih
  | name real plain _ ih => exact .name real (fun target found => plain target (links.mpr found)) ih
  | link real found _ ih => exact .link real (links.mp found) ih

theorem Leads.forth (extends_ : w.Extends w') (leads : w.Leads ups here steps there) :
    w'.Leads ups here steps there :=
  leads.congr extends_.link_iff.symm

theorem Leads.back (extends_ : w.Extends w') (leads : w'.Leads ups here steps there) :
    w.Leads ups here steps there :=
  leads.congr extends_.link_iff

/-- Without two dots in the steps and in the links there are none on the way. -/
theorem Leads.straight
    (level : ∀ place target, w.entryAt place = some (.link target) → ".." ∉ linkSteps target)
    (straight : ".." ∉ steps) (leads : w.Leads true here steps there) :
    w.Leads false here steps there := by
  induction leads with
  | stop here => exact .stop here
  | pause still _ ih => exact .pause still (ih fun member => straight (List.mem_cons_of_mem _ member))
  | up _ _ _ => exact absurd List.mem_cons_self straight
  | name real plain _ ih =>
    exact .name real plain (ih fun member => straight (List.mem_cons_of_mem _ member))
  | link real found _ ih =>
    refine .link real found (ih ?_)
    intro member
    rcases List.mem_append.mp member with member | member
    · exact level _ _ found member
    · exact straight (List.mem_cons_of_mem _ member)

/-! ## Settled places -/

/-- A place with real names and no link on the way, so that its names lead to it. -/
structure Settled (w : Workspace) (place : Location) : Prop where
  real : ∀ name ∈ place, isRealName name
  clear : ∀ {front target}, front <+: place → w.entryAt front ≠ some (.link target)

private theorem settled_root (w : Workspace) : w.Settled [] :=
  ⟨by simp, fun prefixed => by
    obtain rfl := List.prefix_nil.mp prefixed
    simp⟩

theorem Settled.front (settled : w.Settled there) (before : here <+: there) : w.Settled here :=
  ⟨fun name member => settled.real name (before.subset member),
    fun prefixed => settled.clear (prefixed.trans before)⟩

theorem Settled.child (settled : w.Settled here) (real : isRealName step)
    (plain : ∀ target, w.entryAt (here ++ [step]) ≠ some (.link target)) :
    w.Settled (here ++ [step]) := by
  constructor
  · intro name member
    rcases List.mem_append.mp member with member | member
    · exact settled.real name member
    · exact List.mem_singleton.mp member ▸ real
  · intro front target prefixed
    rcases List.prefix_concat_iff.mp prefixed with rfl | prefixed
    · exact plain target
    · exact settled.clear prefixed

theorem Settled.start (settled : w.Settled here) (target : String) :
    w.Settled (linkStart here target) := by
  unfold linkStart
  split
  · exact settled_root w
  · exact settled

/-- Wherever steps lead from a settled place is settled. -/
theorem Leads.settled (leads : w.Leads ups here steps there) (settled : w.Settled here) :
    w.Settled there := by
  induction leads with
  | stop _ => exact settled
  | pause _ _ ih => exact ih settled
  | up _ _ ih => exact ih (settled.front (List.dropLast_prefix _))
  | name real plain _ ih => exact ih (settled.child real plain)
  | link _ _ _ ih => exact ih (settled.start _)

/-- A settled place is where its own names lead. -/
theorem Settled.leads (settled : w.Settled (here ++ rest)) :
    w.Leads ups here rest (here ++ rest) := by
  induction rest generalizing here with
  | nil => simpa using Leads.stop here
  | cons step rest ih =>
    have next : here ++ step :: rest = (here ++ [step]) ++ rest := by simp
    refine .name (settled.real step (by simp)) (fun target => ?_) ?_
    · exact settled.clear ⟨rest, next.symm⟩
    · rw [next] at settled ⊢
      exact ih settled

/-- A walk along the names of a settled place comes to that place. -/
theorem Settled.walks_eq (settled : w.Settled (here ++ rest))
    (walks : w.Walks atEnd links here rest there) : there = here ++ rest := by
  induction rest generalizing here links with
  | nil =>
    cases walks
    simp
  | cons step rest ih =>
    have next : here ++ step :: rest = (here ++ [step]) ++ rest := by simp
    have real := settled.real step (by simp)
    have plain : ∀ target, w.entryAt (here ++ [step]) ≠ some (.link target) :=
      fun target => settled.clear ⟨rest, next.symm⟩
    rw [next] at settled ⊢
    cases walks with
    | pause _ still => exact absurd still (by simp [real.1])
    | up => exact absurd rfl real.2
    | name _ _ _ _ onward => exact ih settled onward
    | stay _ _ _ found | link _ _ _ _ found => exact absurd found (plain _)

theorem Settled.leads_root (settled : w.Settled there) : w.Leads ups [] there there :=
  @Settled.leads w ups [] there settled

/-- The names on the way to an entry are real, and all before the last are directories. -/
theorem WellFormed.settled (tree : w.WellFormed) (found : w.entryAt there ≠ none)
    (plain : ∀ target, w.entryAt there ≠ some (.link target)) : w.Settled there := by
  constructor
  · intro name member
    obtain ⟨front, rest, rfl⟩ := List.append_of_mem member
    have split : front ++ name :: rest = (front ++ [name]) ++ rest := by simp
    rw [split] at found
    cases rest with
    | nil => exact tree.name (by simpa using found)
    | cons next rest => exact tree.name (by rw [tree.above found (by simp)]; simp)
  · rintro front target ⟨rest, rfl⟩
    cases rest with
    | nil => simpa using plain target
    | cons next rest =>
      rw [tree.above found (by simp)]
      simp

private theorem WellFormed.settled_base (tree : w.WellFormed) (path : Path) :
    w.Settled (w.base path) := by
  unfold base
  split
  · exact settled_root w
  · exact tree.settled (by rw [tree.home]; simp) (by rw [tree.home]; simp)

/-- A place that a path leads to is settled. -/
theorem LeadsTo.settled {path : Path} (tree : w.WellFormed) (leads : w.LeadsTo ups path there) :
    w.Settled there :=
  Leads.settled leads (tree.settled_base path)

/-! ## Walking back

New directories hold nothing old, so a walk that ends at something old has not been through any. -/

/-- Below a place that is missing, steps only lead further down. -/
theorem Leads.under (tree : w.WellFormed) (leads : w.Leads false here steps there)
    (missing : w.entryAt here = none) :
    w.entryAt there = none ∧ there = here ++ steps.filter fun step => !isPause step := by
  induction leads with
  | stop here => exact ⟨missing, by simp⟩
  | pause still _ ih =>
    obtain ⟨none, same⟩ := ih missing
    exact ⟨none, by simp [still, same]⟩
  | up allowed => cases allowed
  | name real _ _ ih =>
    obtain ⟨none, same⟩ := ih (tree.below (by rw [missing]; simp) _)
    exact ⟨none, by simp [real.1, same]⟩
  | link _ found => rw [tree.below (by rw [missing]; simp)] at found; cases found

theorem Walks.under (tree : w.WellFormed) (extends_ : w.Extends w')
    (leads : w.Leads false here steps other) (missing : w.entryAt here = none)
    (walks : w'.Walks atEnd links here steps there) : w.entryAt there = none := by
  induction leads generalizing links there with
  | stop here =>
    cases walks
    exact missing
  | pause still _ ih =>
    cases walks with
    | pause _ _ onward => exact ih missing onward
    | up => exact absurd still (by simp [dots_not_pause])
    | name _ real | stay _ real | link _ real => exact absurd still (by simp [real.1])
  | up allowed => cases allowed
  | name real plain _ ih =>
    cases walks with
    | pause _ still => exact absurd still (by simp [real.1])
    | up => exact absurd rfl real.2
    | name _ _ _ _ onward => exact ih (tree.below (by rw [missing]; simp) _) onward
    | stay _ _ _ found | link _ _ _ _ found => exact absurd (extends_.noNewLink found) (plain _)
  | link _ found => rw [tree.below (by rw [missing]; simp)] at found; cases found

/-- What was there already was reached in the same way before. -/
theorem Walks.back (tree : w.WellFormed) (extends_ : w.Extends w')
    (leads : w.Leads false here steps other) (walks : w'.Walks atEnd links here steps there)
    (old : w.entryAt there ≠ none) : w.Walks atEnd links here steps there := by
  have inside : ∀ {here steps other links}, w.Leads false here steps other →
      w'.Walks atEnd links here steps there → w'.entryAt here = some .directory →
      w.entryAt here = some .directory := by
    intro here steps other links leads walks made
    cases held : w.entryAt here with
    | none => exact absurd (Walks.under tree extends_ leads held walks) old
    | some entry =>
      cases entry with
      | directory => rfl
      | file mode bytes =>
        obtain ⟨mode, bytes, found⟩ := extends_.file held
        rw [found] at made
        cases made
      | link target =>
        rw [extends_.links held] at made
        cases made
  induction leads generalizing links with
  | stop here =>
    cases walks
    exact .stop _ _
  | pause still onward ih =>
    cases walks with
    | pause made _ walks =>
      exact .pause (inside onward walks made) still (ih walks)
    | up => exact absurd still (by simp [dots_not_pause])
    | name _ real | stay _ real | link _ real => exact absurd still (by simp [real.1])
  | up allowed => cases allowed
  | name real plain onward ih =>
    cases walks with
    | pause _ still => exact absurd still (by simp [real.1])
    | up => exact absurd rfl real.2
    | name made _ allowed unlinked walks =>
      exact .name (inside (.name real plain onward) (.name made real allowed unlinked walks) made)
        real allowed plain (ih walks)
    | stay _ _ _ found | link _ _ _ _ found => exact absurd (extends_.noNewLink found) (plain _)
  | link real found _ ih =>
    have parent := tree.parent (by rw [found]; simp)
    cases walks with
    | pause _ still => exact absurd still (by simp [real.1])
    | up => exact absurd rfl real.2
    | name _ _ _ unlinked => exact absurd (extends_.links found) (unlinked _)
    | stay _ _ staying => exact .stay parent real staying found
    | link _ _ allowed leaving found' walks =>
      have same := extends_.noNewLink found'
      rw [found] at same
      cases same
      exact .link parent real allowed leaving found (ih walks)

end Scaffold.Files.Workspace
