namespace AuthGate

variable {ε α β : Type}

theorem bind_eq_ok {first : Except ε α} {next : α → Except ε β} {result : β}
    (succeeded : first >>= next = .ok result) :
    ∃ value, first = .ok value ∧ next value = .ok result := by
  cases first with
  | error cause => cases succeeded
  | ok value => exact ⟨value, rfl, succeeded⟩

theorem map_eq_ok {change : α → β} {first : Except ε α} {result : β}
    (succeeded : change <$> first = .ok result) :
    ∃ value, first = .ok value ∧ change value = result := by
  cases first with
  | error cause => cases succeeded
  | ok value => exact ⟨value, rfl, Except.ok.inj succeeded⟩

theorem ok_of_toOption {computation : Except ε α} {value : α}
    (succeeded : computation.toOption = some value) : computation = .ok value := by
  cases computation with
  | error cause => cases succeeded
  | ok result => rw [Option.some.inj succeeded]

/-- Computations that agree in a part of their results agree in what is made of that part. -/
theorem map_bind_congr {γ δ : Type} {first second : Except ε α} {part : α → β}
    {next : α → Except ε γ} {last : γ → δ} (same : first.map part = second.map part)
    (each : ∀ value other, part value = part other → (next value).map last = (next other).map last) :
    (first >>= next).map last = (second >>= next).map last := by
  cases first with
  | error cause =>
    cases second with
    | error other =>
      cases same
      rfl
    | ok other => cases same
  | ok value =>
    cases second with
    | error cause => cases same
    | ok other => exact each value other (Except.ok.inj same)

/-- A computation that succeeds under a condition, and otherwise fails for a reason. -/
structure Decides (computation : Except ε α) (condition : Prop) (reason : ε → Prop) : Prop where
  succeeds : condition → ∃ value, computation = .ok value
  fails : ¬ condition → ∃ cause, computation = .error cause ∧ reason cause

namespace Decides

variable {computation : Except ε α} {condition other : Prop} {reason : ε → Prop}

theorem of_ok {value : α} (result : computation = .ok value) (holds : condition) :
    Decides computation condition reason :=
  ⟨fun _ => ⟨value, result⟩, fun fails => absurd holds fails⟩

theorem of_error {cause : ε} (result : computation = .error cause) (fails : ¬ condition)
    (because : reason cause) : Decides computation condition reason :=
  ⟨fun holds => absurd holds fails, fun _ => ⟨cause, result, because⟩⟩

theorem of_iff (succeeds : (∃ value, computation = .ok value) ↔ condition) :
    Decides computation condition fun _ => True := by
  cases result : computation with
  | ok value => exact of_ok rfl (succeeds.mp ⟨value, result⟩)
  | error cause =>
    refine of_error rfl ?_ trivial
    intro holds
    obtain ⟨value, ok⟩ := succeeds.mpr holds
    rw [result] at ok
    cases ok

theorem succeeds_iff (decided : Decides computation condition reason) :
    (∃ value, computation = .ok value) ↔ condition := by
  refine ⟨?_, decided.succeeds⟩
  rintro ⟨value, ok⟩
  by_cases holds : condition
  · exact holds
  · obtain ⟨cause, failed, _⟩ := decided.fails holds
    rw [ok] at failed
    cases failed

theorem reason_of_error (decided : Decides computation condition reason) {cause : ε}
    (failed : computation = .error cause) : reason cause := by
  have fails : ¬ condition := by
    intro holds
    obtain ⟨value, ok⟩ := decided.succeeds holds
    rw [failed] at ok
    cases ok
  obtain ⟨other, same, because⟩ := decided.fails fails
  cases failed.symm.trans same
  exact because

theorem congr (decided : Decides computation condition reason) (same : condition ↔ other) :
    Decides computation other reason :=
  ⟨fun holds => decided.succeeds (same.mpr holds),
    fun fails => decided.fails fun holds => fails (same.mp holds)⟩

theorem weaken {weaker : ε → Prop} (decided : Decides computation condition reason)
    (because : ∀ cause, reason cause → weaker cause) : Decides computation condition weaker where
  succeeds := decided.succeeds
  fails fails :=
    have ⟨cause, failed, held⟩ := decided.fails fails
    ⟨cause, failed, because cause held⟩

/-- A computation that succeeds or fails with another one is decided with it. -/
theorem carry {κ : Type} {result : Except κ β} {blame : κ → Prop}
    (decided : Decides computation condition reason)
    (ok : ∀ value, computation = .ok value → ∃ other, result = .ok other)
    (error : ∀ cause, computation = .error cause → reason cause →
      ∃ problem, result = .error problem ∧ blame problem) : Decides result condition blame where
  succeeds holds :=
    have ⟨value, succeeded⟩ := decided.succeeds holds
    ok value succeeded
  fails fails :=
    have ⟨cause, failed, because⟩ := decided.fails fails
    error cause failed because

theorem bind {next : α → Except ε β} (first : Decides computation condition reason)
    (later : ∀ value, computation = .ok value → Decides (next value) other reason) :
    Decides (computation >>= next) (condition ∧ other) reason := by
  by_cases holds : condition
  · obtain ⟨value, ok⟩ := first.succeeds holds
    have rest := later value ok
    have goesOn : computation >>= next = next value := by rw [ok]; rfl
    rw [goesOn]
    exact ⟨fun both => rest.succeeds both.2, fun neither => rest.fails fun second =>
      neither ⟨holds, second⟩⟩
  · obtain ⟨cause, failed, because⟩ := first.fails holds
    have stops : computation >>= next = .error cause := by rw [failed]; rfl
    exact of_error stops (fun both => holds both.1) because

end Decides
end AuthGate
