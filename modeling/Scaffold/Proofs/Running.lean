import Scaffold.Session

/-! How work that may fail runs: one step at a time, with what was done before a failure left in
place. Both changes of a workspace and actions in a session are work of this kind. -/
namespace Scaffold.Running

variable {ε σ α β : Type} {first : ExceptT ε (StateM σ) α} {next : α → ExceptT ε (StateM σ) β}
  {s t : σ}

theorem run_bind (first : ExceptT ε (StateM σ) α) (next : α → ExceptT ε (StateM σ) β) (s : σ) :
    (first >>= next).run s =
      match first.run s with
      | (.ok a, m) => (next a).run m
      | (.error e, m) => (.error e, m) := by
  simp only [ExceptT.run_bind]
  change (match (first.run s).1 with | .ok a => (next a).run | .error e => pure (.error e))
    (first.run s).2 = _
  rcases first.run s with ⟨_ | _, m⟩ <;> rfl

theorem run_pure (a : α) (s : σ) : (pure a : ExceptT ε (StateM σ) α).run s = (.ok a, s) := rfl

theorem run_throw (e : ε) (s : σ) : (throw e : ExceptT ε (StateM σ) α).run s = (.error e, s) := rfl

theorem run_get (s : σ) : (get : ExceptT ε (StateM σ) σ).run s = (.ok s, s) := rfl

theorem run_set (s t : σ) : (set t : ExceptT ε (StateM σ) PUnit).run s = (.ok ⟨⟩, t) := rfl

theorem run_modify (f : σ → σ) (s : σ) :
    (modify f : ExceptT ε (StateM σ) PUnit).run s = (.ok ⟨⟩, f s) := rfl

theorem run_tryCatch (first : ExceptT ε (StateM σ) α) (handle : ε → ExceptT ε (StateM σ) α) (s : σ) :
    (tryCatch first handle).run s =
      match first.run s with
      | (.ok a, m) => (.ok a, m)
      | (.error e, m) => (handle e).run m := by
  change (match (first.run s).1 with
    | .ok a => (pure (.ok a) : StateM σ (Except ε α))
    | .error e => (handle e).run) (first.run s).2 = _
  rcases first.run s with ⟨_ | _, m⟩ <;> rfl

theorem run_map (f : α → β) (first : ExceptT ε (StateM σ) α) (s : σ) :
    (f <$> first).run s =
      match first.run s with
      | (.ok a, m) => (.ok (f a), m)
      | (.error e, m) => (.error e, m) := by
  simp only [ExceptT.run_map]
  change (Except.map f (first.run s).1, (first.run s).2) = _
  rcases first.run s with ⟨_ | _, m⟩ <;> rfl

/-- Two results in a row are one when both are. -/
theorem ok_of_bind_iff {first : Except ε α} {next : α → Except ε β} {b : β} :
    (first >>= next) = .ok b ↔ ∃ a, first = .ok a ∧ next a = .ok b := by
  cases first with
  | error reason => simp [bind, Except.bind]
  | ok a => simp [bind, Except.bind]

/-- Two results in a row are a failure when the first one is, or the second one after it. -/
theorem error_of_bind {first : Except ε α} {next : α → Except ε β} {e : ε}
    (failed : (first >>= next) = .error e) :
    first = .error e ∨ ∃ a, first = .ok a ∧ next a = .error e := by
  cases first with
  | error reason =>
    cases failed
    exact .inl rfl
  | ok a => exact .inr ⟨a, rfl, failed⟩

end Scaffold.Running
