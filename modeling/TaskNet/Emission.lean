import TaskNet.ArgumentList
import TaskNet.Relation

/-!
# Emissions

Reading a form from a knowledge base yields a value or one error, and on the way it may give
warnings. An `Emission` holds both; warnings that came before an error are kept.
-/

namespace TaskNet

/-- Why a form cannot be read from a knowledge base. Entities are given as messages name them. -/
inductive EmitError where
  /-- An entity that has to be named has no label. -/
  | missingLabel (entity : String)
  /-- A comment does not hold what it has to. -/
  | malformedComment (entity : String) (fault : CommentFault)
  /-- A relation that takes one target has several. -/
  | ambiguous (entity : String) (relation : Relation) (count : Nat)
  /-- A relation that needs a target has none. -/
  | missingRelation (entity : String) (relation : Relation)
deriving DecidableEq, Repr

/-- What is reported although the form can be read. -/
inductive Warning where
  /-- A relation that takes one target has several, and the first was taken. -/
  | severalTargets (entity : String) (relation : Relation) (count : Nat)
  /-- A method without flows yields no clause. -/
  | noFlows (method : String)
deriving DecidableEq, Repr

/-- The result of a reading and the warnings that were given on the way. -/
structure Emission (α : Type) where
  /-- The warnings, in the order in which they were given. -/
  warnings : List Warning := []
  /-- The value that was read, or why there is none. -/
  outcome : Except EmitError α
deriving Repr

namespace Emission

variable {α β : Type}

/-- A value, without warnings. -/
protected def pure (value : α) : Emission α := { outcome := .ok value }

/-- A failure, without warnings. -/
def fail (error : EmitError) : Emission α := { outcome := .error error }

/-- A warning. -/
def warn (warning : Warning) : Emission Unit := { warnings := [warning], outcome := .ok () }

/-- Reads on with the value, if there is one; warnings add up. -/
protected def bind (first : Emission α) (next : α → Emission β) : Emission β :=
  match first.outcome with
  | .error error => { warnings := first.warnings, outcome := .error error }
  | .ok value =>
    { warnings := first.warnings ++ (next value).warnings, outcome := (next value).outcome }

instance : Monad Emission where
  pure := Emission.pure
  bind := Emission.bind

@[simp] theorem pure_eq (value : α) : (pure value : Emission α) = ⟨[], .ok value⟩ := rfl

@[simp] theorem fail_bind (error : EmitError) (next : α → Emission β) :
    (fail error >>= next) = fail error := rfl

@[simp] theorem ok_bind (warnings : List Warning) (value : α) (next : α → Emission β) :
    ((⟨warnings, .ok value⟩ : Emission α) >>= next) =
      ⟨warnings ++ (next value).warnings, (next value).outcome⟩ := rfl

@[simp] theorem error_bind (warnings : List Warning) (error : EmitError) (next : α → Emission β) :
    ((⟨warnings, .error error⟩ : Emission α) >>= next) = ⟨warnings, .error error⟩ := rfl

private theorem id_map' (emission : Emission α) : id <$> emission = emission := by
  obtain ⟨warnings, outcome | outcome⟩ := emission
  · rfl
  · simp [Functor.map, Emission.bind, Emission.pure]

private theorem pure_bind' (value : α) (next : α → Emission β) :
    pure value >>= next = next value := by
  simp [bind, Emission.bind]

private theorem bind_assoc' {γ : Type} (emission : Emission α) (f : α → Emission β)
    (g : β → Emission γ) : emission >>= f >>= g = emission >>= fun value => f value >>= g := by
  obtain ⟨warnings, outcome | outcome⟩ := emission
  · rfl
  · simp only [bind, Emission.bind]
    split <;> simp_all

instance : LawfulMonad Emission := LawfulMonad.mk' Emission id_map' pure_bind' bind_assoc'

/-- Changing the value changes nothing else. -/
theorem map_eq (f : α → β) (emission : Emission α) :
    f <$> emission = ⟨emission.warnings, emission.outcome.map f⟩ := by
  obtain ⟨warnings, error | value⟩ := emission
  · rfl
  · simp [map_eq_pure_bind, Except.map]

/-- A sequence yields a value exactly if both parts do. -/
theorem outcome_bind_eq_ok_iff {emission : Emission α} {next : α → Emission β} {result : β} :
    (emission >>= next).outcome = .ok result ↔
      ∃ value, emission.outcome = .ok value ∧ (next value).outcome = .ok result := by
  obtain ⟨warnings, error | first⟩ := emission
  · exact iff_of_false nofun nofun
  · constructor
    · intro h
      exact ⟨first, rfl, h⟩
    · rintro ⟨value, hvalue, h⟩
      cases hvalue
      exact h

/-- A sequence fails where its first part does, or else where the second part does. -/
theorem outcome_bind_eq_error_iff {emission : Emission α} {next : α → Emission β}
    {error : EmitError} : (emission >>= next).outcome = .error error ↔
      emission.outcome = .error error ∨
        ∃ value, emission.outcome = .ok value ∧ (next value).outcome = .error error := by
  obtain ⟨warnings, first | first⟩ := emission
  · constructor
    · intro h
      cases h
      exact .inl rfl
    · rintro (h | ⟨value, hvalue, -⟩)
      · cases h
        rfl
      · cases hvalue
  · constructor
    · intro h
      exact .inr ⟨first, rfl, h⟩
    · rintro (h | ⟨value, hvalue, h⟩)
      · cases h
      · cases hvalue
        exact h

/-- Changing the value does not make a failure of it, or of another error. -/
theorem outcome_map_eq_error_iff {f : α → β} {emission : Emission α} {error : EmitError} :
    (f <$> emission).outcome = .error error ↔ emission.outcome = .error error := by
  rw [map_eq]
  cases emission.outcome with
  | error other => rw [Except.map, Except.error.injEq, Except.error.injEq]
  | ok value => exact iff_of_false nofun nofun

/-- A value that was changed comes from a value. -/
theorem exists_of_outcome_map {f : α → β} {emission : Emission α} {result : β}
    (h : (f <$> emission).outcome = .ok result) :
    ∃ value, emission.outcome = .ok value ∧ f value = result := by
  rw [map_eq] at h
  cases houtcome : emission.outcome with
  | error error =>
    rw [houtcome] at h
    cases h
  | ok value =>
    rw [houtcome] at h
    exact ⟨value, rfl, Except.ok.inj h⟩

theorem outcome_map_eq_ok_iff {f : α → β} {emission : Emission α} {result : β} :
    (f <$> emission).outcome = .ok result ↔
      ∃ value, emission.outcome = .ok value ∧ f value = result := by
  constructor
  · exact exists_of_outcome_map
  · rintro ⟨value, hvalue, rfl⟩
    rw [map_eq, hvalue]
    rfl

/-- A value that a fallible function yields. -/
def lift (result : Except EmitError α) : Emission α := { outcome := result }

/-- Reads every entry in order and stops at the first failure. -/
def forEach (read : α → Emission β) : List α → Emission (List β)
  | [] => pure []
  | entry :: rest => do
    let value ← read entry
    let values ← forEach read rest
    return value :: values

end Emission

end TaskNet
