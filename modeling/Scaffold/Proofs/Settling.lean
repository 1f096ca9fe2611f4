import Mathlib.Data.List.Perm.Subperm
import Scaffold.Proofs.Resolution

/-! Resolution finds the place that a path leads to, and only that: it gives up at a link that it
meets inside of itself, and such a link leads nowhere. The number of steps that lead from one place
to another is what makes this precise, because inside of a link there are fewer of them left. -/
namespace Scaffold.Files

/-- The names that a text spells all lead somewhere. -/
theorem Path.not_pause_of_mem {text name : String} (member : name ∈ (Path.ofString text).names) :
    Workspace.isPause name = false := by
  have step := List.of_mem_filter member
  simp only [Path.isStep, Bool.and_eq_true, bne_iff_ne] at step
  simp [Workspace.isPause, Workspace.slashStep, Workspace.dotStep, step.1, step.2]

/-- Every name of a path leads somewhere. -/
def Path.Proper (path : Path) : Prop :=
  ∀ name ∈ path.names, Workspace.isPause name = false

theorem Path.proper_ofString (text : String) : (Path.ofString text).Proper :=
  fun _ member => Path.not_pause_of_mem member

theorem Path.Proper.append {base path : Path} (first : base.Proper) (second : path.Proper) :
    (base ++ path).Proper := by
  change (Path.append base path).Proper
  unfold Path.append
  split
  · intro name member
    rcases List.mem_append.mp member with member | member
    · exact first name member
    · exact second name member
  · exact second

theorem Path.Proper.child {base : Path} (proper : base.Proper) (text : String) :
    (base.child text).Proper :=
  proper.append (Path.proper_ofString text)

namespace Workspace

variable {w : Workspace} {ups : Bool} {here there mid : Location} {steps rest more : List String}
  {count bound depth : Nat} {path spelled : Path} {inside : List Path}

/-- A link is followed by the names of its target and then at most by a step that stays. -/
theorem linkSteps_eq (target : String) :
    ∃ pauses, (∀ pause ∈ pauses, isPause pause = true) ∧
      linkSteps target = (Path.ofString target).names ++ pauses := by
  unfold linkSteps
  dsimp only
  by_cases bare : (Path.ofString target).names.isEmpty = true
  · exact ⟨[], by simp, by simp [List.isEmpty_iff.mp bare]⟩
  · rw [if_neg bare]
    refine ⟨_, ?_, rfl⟩
    intro pause member
    split at member
    · rw [List.mem_singleton.mp member]
      decide
    · rw [List.mem_singleton.mp member]
      decide
    · split at member
      · rw [List.mem_singleton.mp member]
        decide
      · cases member

private theorem leads_pauses (still : ∀ pause ∈ steps, isPause pause = true)
    (leads : w.Leads ups here rest there) : w.Leads ups here (steps ++ rest) there := by
  induction steps with
  | nil => exact leads
  | cons pause steps ih =>
    exact .pause (still _ List.mem_cons_self)
      (ih fun _ member => still _ (List.mem_cons_of_mem _ member))

/-- Following a link to the names of its target is following it to the end. -/
theorem leads_linkSteps {target : String}
    (leads : w.Leads ups here (Path.ofString target).names mid)
    (onward : w.Leads ups mid rest there) : w.Leads ups here (linkSteps target ++ rest) there := by
  obtain ⟨pauses, still, same⟩ := linkSteps_eq target
  rw [same, List.append_assoc]
  exact leads.append (leads_pauses still onward)

/-! ## Spellings -/

private theorem plainFrom_append (here : Location) (names more : List String) :
    plainFrom here (names ++ more) = plainFrom (plainFrom here names) more :=
  List.foldl_append

/-- Two more dots lead one place up. -/
theorem plainPlace_above (w : Workspace) (path : Path) :
    w.plainPlace (above path) = (w.plainPlace path).dropLast := by
  obtain ⟨start, names⟩ := path
  rcases List.eq_nil_or_concat' names with rfl | ⟨init, last, rfl⟩
  · cases start <;> rfl
  · have known : (⟨start, init ++ [last]⟩ : Path).names.getLast? = some last :=
      List.getLast?_concat
    simp only [above, known, plainPlace, List.dropLast_concat]
    by_cases dots : last = ".."
    · subst dots
      exact plainFrom_append ..
    · have other : (last == "..") = false := by simpa using dots
      rw [other, plainFrom_append]
      simp [plainFrom, dots, base, Path.isAbsolute]

private theorem plainPlace_next (w : Workspace) (path : Path) {name : String}
    (named : name ≠ "..") :
    w.plainPlace ⟨path.start, path.names ++ [name]⟩ = w.plainPlace path ++ [name] := by
  rw [plainPlace, plainFrom_append]
  simp [plainFrom, plainPlace, named, base, Path.isAbsolute]

private theorem plainPlace_beside (w : Workspace) (link : Path) (target : String) :
    w.plainPlace (beside link target) = linkStart (w.plainPlace link).dropLast target := by
  unfold beside linkStart
  split
  · rfl
  · exact plainPlace_above w link

/-! ## Resolution is sound -/

private theorem leads_of_settleOn {enter : Path → String → Except (List String) Path}
    (entered : ∀ {link target there}, enter link target = .ok there →
      w.Leads true (linkStart (w.plainPlace link).dropLast target) (Path.ofString target).names
        (w.plainPlace there))
    (proper : ∀ name ∈ steps, isPause name = false)
    (settled : settleOn w enter path steps = .ok spelled) :
    w.Leads true (w.plainPlace path) steps (w.plainPlace spelled) := by
  induction steps generalizing path with
  | nil =>
    cases settled
    exact .stop _
  | cons name rest ih =>
    have properRest : ∀ next ∈ rest, isPause next = false :=
      fun next member => proper next (List.mem_cons_of_mem _ member)
    rw [settleOn] at settled
    split at settled
    · rename_i dots
      obtain rfl : name = ".." := by simpa using dots
      have onward := ih properRest settled
      rw [plainPlace_above] at onward
      exact .up rfl onward
    · rename_i named
      have named : name ≠ ".." := by simpa using named
      have real : isRealName name := ⟨proper name List.mem_cons_self, named⟩
      have next := plainPlace_next w path named
      simp only [next] at settled
      split at settled
      · rename_i target found
        split at settled
        · rename_i mid arrived
          have first := entered arrived
          rw [next, List.dropLast_concat] at first
          exact .link real found (leads_linkSteps first (ih properRest settled))
        · cases settled
      · rename_i plain
        have onward := ih properRest settled
        rw [next] at onward
        exact .name real (fun target found => plain target found) onward

private theorem leads_of_settle (proper : ∀ name ∈ steps, isPause name = false)
    (settled : settle w depth inside path steps = .ok spelled) :
    w.Leads true (w.plainPlace path) steps (w.plainPlace spelled) := by
  induction depth generalizing inside path steps spelled with
  | zero =>
    refine leads_of_settleOn (fun impossible => ?_) proper settled
    cases impossible
  | succ depth ih =>
    refine leads_of_settleOn (fun {link target there} entered => ?_) proper settled
    split at entered
    · cases entered
    · have onward := ih (fun _ member => Path.not_pause_of_mem member) entered
      rwa [plainPlace_beside] at onward

/-! ## Resolution is complete -/

/-- Following steps in a number of single steps. -/
inductive LeadsIn (w : Workspace) (ups : Bool) :
    Nat → Location → List String → Location → Prop where
  | stop (here : Location) : LeadsIn w ups 0 here [] here
  | pause {count : Nat} {here there : Location} {step : String} {rest : List String}
      (still : isPause step = true) (onward : LeadsIn w ups count here rest there) :
      LeadsIn w ups (count + 1) here (step :: rest) there
  | up {count : Nat} {here there : Location} {rest : List String}
      (allowed : ups = true) (onward : LeadsIn w ups count here.dropLast rest there) :
      LeadsIn w ups (count + 1) here (".." :: rest) there
  | name {count : Nat} {here there : Location} {step : String} {rest : List String}
      (real : isRealName step)
      (plain : ∀ target, w.entryAt (here ++ [step]) ≠ some (.link target))
      (onward : LeadsIn w ups count (here ++ [step]) rest there) :
      LeadsIn w ups (count + 1) here (step :: rest) there
  | link {count : Nat} {here there : Location} {step target : String} {rest : List String}
      (real : isRealName step) (found : w.entryAt (here ++ [step]) = some (.link target))
      (onward : LeadsIn w ups count (linkStart here target) (linkSteps target ++ rest) there) :
      LeadsIn w ups (count + 1) here (step :: rest) there

theorem Leads.counted (leads : w.Leads ups here steps there) :
    ∃ count, w.LeadsIn ups count here steps there := by
  induction leads with
  | stop here => exact ⟨0, .stop here⟩
  | pause still _ ih =>
    obtain ⟨count, leads⟩ := ih
    exact ⟨_, .pause still leads⟩
  | up allowed _ ih =>
    obtain ⟨count, leads⟩ := ih
    exact ⟨_, .up allowed leads⟩
  | name real plain _ ih =>
    obtain ⟨count, leads⟩ := ih
    exact ⟨_, .name real plain leads⟩
  | link real found _ ih =>
    obtain ⟨count, leads⟩ := ih
    exact ⟨_, .link real found leads⟩

theorem LeadsIn.leads (leads : w.LeadsIn ups count here steps there) :
    w.Leads ups here steps there := by
  induction leads with
  | stop here => exact .stop here
  | pause still _ ih => exact .pause still ih
  | up allowed _ ih => exact .up allowed ih
  | name real plain _ ih => exact .name real plain ih
  | link real found _ ih => exact .link real found ih

/-- The first of some steps come to an end on the way, after their share of the single steps. -/
theorem LeadsIn.split (leads : w.LeadsIn ups count here (steps ++ more) there) :
    ∃ first second mid, first + second = count ∧ w.LeadsIn ups first here steps mid ∧
      w.LeadsIn ups second mid more there := by
  generalize joined : steps ++ more = all at leads
  induction leads generalizing steps with
  | stop here =>
    obtain ⟨rfl, rfl⟩ := List.append_eq_nil_iff.mp joined
    exact ⟨0, 0, here, rfl, .stop here, .stop here⟩
  | @pause count here there step rest still onward ih =>
    cases steps with
    | nil =>
      subst joined
      exact ⟨0, _, here, by simp, .stop here, .pause still onward⟩
    | cons head tail =>
      cases joined
      obtain ⟨first, second, mid, rfl, before, after⟩ := ih rfl
      exact ⟨first + 1, second, mid, by omega, .pause still before, after⟩
  | @up count here there rest allowed onward ih =>
    cases steps with
    | nil =>
      subst joined
      exact ⟨0, _, here, by simp, .stop here, .up allowed onward⟩
    | cons head tail =>
      cases joined
      obtain ⟨first, second, mid, rfl, before, after⟩ := ih rfl
      exact ⟨first + 1, second, mid, by omega, .up allowed before, after⟩
  | @name count here there step rest real plain onward ih =>
    cases steps with
    | nil =>
      subst joined
      exact ⟨0, _, here, by simp, .stop here, .name real plain onward⟩
    | cons head tail =>
      cases joined
      obtain ⟨first, second, mid, rfl, before, after⟩ := ih rfl
      exact ⟨first + 1, second, mid, by omega, .name real plain before, after⟩
  | @link count here there step target rest real found onward ih =>
    cases steps with
    | nil =>
      subst joined
      exact ⟨0, _, here, by simp, .stop here, .link real found onward⟩
    | cons head tail =>
      cases joined
      obtain ⟨first, second, mid, rfl, before, after⟩ := ih (List.append_assoc ..)
      exact ⟨first + 1, second, mid, by omega, .link real found before, after⟩

/-- The first of some steps lead to a place from which the others lead on. -/
theorem Leads.split (leads : w.Leads ups here (steps ++ more) there) :
    ∃ mid, w.Leads ups here steps mid ∧ w.Leads ups mid more there := by
  obtain ⟨_, counted⟩ := leads.counted
  obtain ⟨_, _, mid, -, before, after⟩ := counted.split
  exact ⟨mid, before.leads, after.leads⟩

theorem LeadsIn.unique {count' : Nat} {other : Location} (first : w.LeadsIn ups count here steps there)
    (second : w.LeadsIn ups count' here steps other) : count = count' := by
  induction first generalizing count' with
  | stop _ =>
    cases second
    rfl
  | pause still _ ih =>
    cases second with
    | pause _ onward => rw [ih onward]
    | up => exact absurd still (by simp [dots_not_pause])
    | name real | link real => exact absurd still (by simp [real.1])
  | up _ _ ih =>
    cases second with
    | pause still => exact absurd still (by simp [dots_not_pause])
    | up _ onward => rw [ih onward]
    | name real | link real => exact absurd rfl real.2
  | name real plain _ ih =>
    cases second with
    | pause still => exact absurd still (by simp [real.1])
    | up => exact absurd rfl real.2
    | name _ _ onward => rw [ih onward]
    | link _ found => exact absurd found (plain _)
  | link real found _ ih =>
    cases second with
    | pause still => exact absurd still (by simp [real.1])
    | up => exact absurd rfl real.2
    | name _ plain => exact absurd found (plain _)
    | link _ found' onward =>
      rw [found] at found'
      cases found'
      rw [ih onward]

/-- The names of a link's target are done with after no more steps than its steps, and lead to the
same place. -/
theorem LeadsIn.names {target : String} (leads : w.LeadsIn ups count here (linkSteps target) there) :
    ∃ first, first ≤ count ∧ w.LeadsIn ups first here (Path.ofString target).names there := by
  obtain ⟨pauses, still, same⟩ := linkSteps_eq target
  rw [same] at leads
  obtain ⟨first, second, mid, rfl, before, after⟩ := leads.split
  have rests : w.Leads ups mid pauses mid := by
    simpa using leads_pauses still (Leads.stop mid)
  rw [rests.unique after.leads] at before
  exact ⟨first, by omega, before⟩

/-- A link that is being resolved, when so many single steps are left to be made inside of it. -/
def Inside (w : Workspace) (count : Nat) (link : Location) : Prop :=
  ∃ target, w.entryAt link = some (.link target) ∧ ∀ whole there,
    w.LeadsIn true whole (linkStart link.dropLast target) (Path.ofString target).names there →
      count ≤ whole

theorem Inside.mono {link : Location} (within : w.Inside count link) (fewer : bound ≤ count) :
    w.Inside bound link := by
  obtain ⟨target, found, most⟩ := within
  exact ⟨target, found, fun whole there leads => fewer.trans (most whole there leads)⟩

/-- There are at least as many entries as links that are being resolved. -/
theorem length_le_entries {links : List Location} (within : ∀ link ∈ links, w.Inside count link)
    (nodup : links.Nodup) : links.length ≤ w.entries.length := by
  have known : links ⊆ w.entries.map (·.1) := by
    intro link member
    obtain ⟨target, found, -⟩ := within link member
    exact List.mem_map.mpr ⟨_, mem_of_entryAt found (by rintro rfl; simp at found), rfl⟩
  simpa using (nodup.subperm known).length_le

/-- What resolution does at a link, inside of others. -/
def entering (w : Workspace) :
    Nat → List Path → Path → String → Except (List String) Path
  | 0, _, link, _ => .error (w.base link ++ link.names)
  | depth + 1, inside, link, target =>
    if inside.contains link then .error (w.base link ++ link.names)
    else settle w depth (link :: inside) (beside link target) (Path.ofString target).names

private theorem settle_eq (w : Workspace) (depth : Nat) (inside : List Path) :
    settle w depth inside = settleOn w (entering w depth inside) := by
  cases depth <;> rfl

/-- Where steps lead in some number of single steps is found, as long as they are more than a link
around them can hold. -/
theorem settle_of_leadsIn (proper : ∀ name ∈ steps, isPause name = false)
    (leads : w.LeadsIn true count (w.plainPlace path) steps there)
    (within : ∀ link ∈ inside.map w.plainPlace, w.Inside count link)
    (nodup : (inside.map w.plainPlace).Nodup) (enough : w.entries.length ≤ depth + inside.length) :
    ∃ spelled, settle w depth inside path steps = .ok spelled ∧ w.plainPlace spelled = there := by
  induction count using Nat.strong_induction_on generalizing depth inside path steps there with
  | _ count ih =>
  have properRest : ∀ {name rest}, steps = name :: rest → ∀ next ∈ rest, isPause next = false := by
    rintro name rest rfl next member
    exact proper next (List.mem_cons_of_mem _ member)
  generalize start : w.plainPlace path = here at leads
  cases leads with
  | stop => exact ⟨path, by cases depth <;> rfl, start⟩
  | pause still => exact absurd still (by simp [proper _ List.mem_cons_self])
  | up _ onward =>
    rw [settle_eq, settleOn, if_pos (by simp), ← settle_eq]
    rw [← start, ← plainPlace_above] at onward
    exact ih _ (by omega) (properRest rfl) onward
      (fun link member => (within link member).mono (by omega)) nodup enough
  | @name _ _ _ step _ real plain onward =>
    rw [settle_eq, settleOn, if_neg (by simpa using real.2), ← settle_eq]
    have next := plainPlace_next w path real.2
    rw [← start, ← next] at plain onward
    dsimp only
    split
    · rename_i target found
      exact absurd found (plain target)
    · exact ih _ (by omega) (properRest rfl) onward
        (fun link member => (within link member).mono (by omega)) nodup enough
  | @link count _ _ step target rest real found onward =>
    rw [settle_eq, settleOn, if_neg (by simpa using real.2), ← settle_eq]
    have next := plainPlace_next w path real.2
    rw [start] at next
    simp only [next, found]
    obtain ⟨first, second, mid, total, before, after⟩ := onward.split
    obtain ⟨fewer, atMost, named⟩ := before.names
    have outside : here ++ [step] ∉ inside.map w.plainPlace := by
      intro member
      obtain ⟨target', found', most⟩ := within _ member
      rw [found] at found'
      cases found'
      rw [List.dropLast_concat] at most
      have := most fewer mid named
      omega
    generalize (⟨path.start, path.names ++ [step]⟩ : Path) = link at next
    have here_within : w.Inside fewer (here ++ [step]) := by
      refine ⟨target, found, ?_⟩
      intro whole there leads
      rw [List.dropLast_concat] at leads
      exact (named.unique leads).le
    have all_within : ∀ known ∈ (link :: inside).map w.plainPlace, w.Inside fewer known := by
      rw [List.map_cons, next]
      intro known member
      rcases List.mem_cons.mp member with rfl | member
      · exact here_within
      · exact (within known member).mono (by omega)
    have distinct : ((link :: inside).map w.plainPlace).Nodup := by
      rw [List.map_cons, next]
      exact List.nodup_cons.mpr ⟨outside, nodup⟩
    have room := length_le_entries all_within distinct
    simp only [List.length_map, List.length_cons] at room
    cases depth with
    | zero => omega
    | succ depth =>
      have inner : w.LeadsIn true fewer (w.plainPlace (beside link target))
          (Path.ofString target).names mid := by
        rwa [plainPlace_beside, next, List.dropLast_concat]
      obtain ⟨reached, settled, arrived⟩ : ∃ reached, settle w depth (link :: inside)
          (beside link target) (Path.ofString target).names = .ok reached ∧
            w.plainPlace reached = mid :=
        ih fewer (by omega) (fun _ member => Path.not_pause_of_mem member) inner all_within distinct
          (by simp only [List.length_cons]; omega)
      have missing : inside.contains link = false := by
        rw [← Bool.not_eq_true, List.contains_iff_mem]
        exact fun member => outside (next ▸ List.mem_map_of_mem member)
      simp only [entering, missing, Bool.false_eq_true, if_false, settled]
      rw [← arrived] at after
      exact ih second (by omega) (properRest rfl) after
        (fun link member => (within link member).mono (by omega)) nodup enough

/-- A path resolves to a place exactly when it leads there. -/
theorem resolve_eq_ok_iff (proper : path.Proper) {place : Location} :
    w.resolve path = .ok place ↔ w.LeadsTo true path place := by
  have start : w.plainPlace ⟨if path.isAbsolute then .root else .here, []⟩ = w.base path := by
    unfold base
    split <;> rfl
  have enough : w.entries.length ≤ w.entries.length * (w.home.length + 2) + ([] : List Path).length :=
    Nat.le_mul_of_pos_right _ (by omega)
  simp only [resolve, LeadsTo, ← start]
  constructor
  · intro resolved
    cases settled : settle w (w.entries.length * (w.home.length + 2)) []
        ⟨if path.isAbsolute then .root else .here, []⟩ path.names with
    | error names =>
      rw [settled] at resolved
      cases resolved
    | ok spelled =>
      rw [settled] at resolved
      cases resolved
      exact leads_of_settle proper settled
  · intro leads
    obtain ⟨count, counted⟩ := Leads.counted leads
    obtain ⟨spelled, settled, arrived⟩ :=
      settle_of_leadsIn proper counted (by simp) (by simp) enough
    rw [settled]
    exact congrArg Except.ok arrived

end Workspace

end Scaffold.Files
