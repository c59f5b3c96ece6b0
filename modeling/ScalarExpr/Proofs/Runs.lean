import ScalarExpr.Evaluation.Run
/-!
# Laws of runs

Runs that follow one another may be regrouped, and a run of two parts comes to a
value exactly if both parts do.

## Main statements

- `LawfulMonad Run`
- `Run.bind_of_ok`, `Run.bind_of_error`: a run that goes on, and one that does not
- `Run.result_bind_eq_ok_iff`: what a run of two parts comes to
-/

namespace ScalarExpr

namespace Run

variable {α β γ : Type}

theorem ok_bind (calls : List String) (a : α) (next : α → Run β) :
    (⟨calls, .ok a⟩ : Run α) >>= next = ⟨calls ++ (next a).calls, (next a).result⟩ := rfl

theorem error_bind (calls : List String) (e : Error) (next : α → Run β) :
    (⟨calls, .error e⟩ : Run α) >>= next = ⟨calls, .error e⟩ := rfl

theorem fail_bind (e : Error) (next : α → Run β) : fail e >>= next = fail e := rfl

theorem of_ok (a : α) : (of (.ok a) : Run α) = pure a := rfl

theorem of_error (e : Error) : (of (.error e) : Run α) = fail e := rfl

theorem bind_assoc (r : Run α) (first : α → Run β) (second : β → Run γ) :
    r >>= first >>= second = r >>= fun a => first a >>= second := by
  rcases r with ⟨calls, e | a⟩
  · rfl
  · cases h : first a with
    | mk calls' result =>
      cases result with
      | error e => simp only [ok_bind, error_bind, h]
      | ok b => simp only [ok_bind, h, List.append_assoc]

instance : LawfulMonad Run :=
  LawfulMonad.mk' Run
    (fun r => by
      rcases r with ⟨calls, e | a⟩
      · rfl
      · exact congrArg (Run.mk · (.ok a)) (List.append_nil calls))
    (fun _ _ => rfl)
    bind_assoc

theorem bind_of_ok {r : Run α} {a : α} (h : r.result = .ok a) (next : α → Run β) :
    r >>= next = ⟨r.calls ++ (next a).calls, (next a).result⟩ := by
  rcases r with ⟨calls, e | a⟩
  · cases h
  · cases h
    rfl

theorem bind_of_error {r : Run α} {e : Error} (h : r.result = .error e) (next : α → Run β) :
    r >>= next = ⟨r.calls, .error e⟩ := by
  rcases r with ⟨calls, e | a⟩
  · cases h
    rfl
  · cases h

/-- What a run goes on with matters only at the value that it comes to. -/
theorem bind_congr_of_ok {r : Run α} {first second : α → Run β}
    (h : ∀ a, r.result = .ok a → first a = second a) : r >>= first = r >>= second := by
  cases hr : r.result with
  | error e => rw [bind_of_error hr, bind_of_error hr]
  | ok a => rw [bind_of_ok hr, bind_of_ok hr, h a hr]

/-- A run that goes on has asked for what it asked for before. -/
theorem calls_prefix_bind (r : Run α) (next : α → Run β) : r.calls <+: (r >>= next).calls := by
  cases hr : r.result with
  | error e => exact ⟨[], by rw [bind_of_error hr, List.append_nil]⟩
  | ok a => exact ⟨(next a).calls, by rw [bind_of_ok hr]⟩

theorem calls_bind_of_silent {r : Run α} {next : α → Run β} (h : ∀ a, (next a).calls = []) :
    (r >>= next).calls = r.calls := by
  cases hr : r.result with
  | error e => rw [bind_of_error hr]
  | ok a =>
    rw [bind_of_ok hr, h a]
    exact List.append_nil _

/-- A run of two parts comes to a value exactly if both parts come to one. -/
theorem result_bind_eq_ok_iff {r : Run α} {next : α → Run β} {b : β} :
    (r >>= next).result = .ok b ↔ ∃ a, r.result = .ok a ∧ (next a).result = .ok b := by
  rcases r with ⟨calls, e | a⟩
  · simp [error_bind]
  · simp [ok_bind]

/-- A run of two parts fails exactly if its first part does, or its second one at the
    value of the first. -/
theorem result_bind_eq_error_iff {r : Run α} {next : α → Run β} {e : Error} :
    (r >>= next).result = .error e ↔
      r.result = .error e ∨ ∃ a, r.result = .ok a ∧ (next a).result = .error e := by
  rcases r with ⟨calls, e | a⟩
  · simp [error_bind]
  · simp [ok_bind]

end Run

end ScalarExpr
