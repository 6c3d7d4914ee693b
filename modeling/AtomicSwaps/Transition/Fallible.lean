namespace Fallible

universe u

variable {ε : Type u} {α β : Type} {condition : Prop} [Decidable condition] {error : ε} {result : β}

def ensure (condition : Prop) [Decidable condition] (error : ε) : Except ε Unit :=
  if condition then .ok () else .error error

@[simp] theorem ensure_ok_iff {result : Unit} : ensure condition error = .ok result ↔ condition := by
  unfold ensure
  split <;> simp_all

theorem ensure_ok (holds : condition) : ensure condition error = .ok () := if_pos holds

theorem ensure_error (fails : ¬condition) : ensure condition error = .error error := if_neg fails

variable {next : α → Except ε β}

theorem ok_bind {value : α} : (Except.ok value >>= next) = next value := rfl

variable {first : Except ε α}

theorem bind_ok_iff : (first >>= next) = .ok result ↔ ∃ value, first = .ok value ∧ next value = .ok result := by
  cases first <;> simp [bind, Except.bind]

theorem bind_ne_error {raised : ε}
    (passes : first ≠ .error raised) (rest : ∀ value, first = .ok value → next value ≠ .error raised) :
    (first >>= next) ≠ .error raised := by
  cases first with
  | error other => exact fun same => passes (by cases same; rfl)
  | ok value => exact rest value rfl

theorem ensure_ne_error {raised : ε} (harmless : ¬condition → error ≠ raised) :
    ensure condition error ≠ .error raised := by
  unfold ensure
  split
  · exact fun impossible => nomatch impossible
  · rename_i fails
    exact fun same => harmless fails (Except.error.inj same)

/-- With `bind_ok_iff`, checks that return nothing become plain conjuncts. -/
theorem exists_unit {holds : Unit → Prop} : (∃ value, holds value) ↔ holds () :=
  ⟨fun ⟨(), held⟩ => held, fun held => ⟨(), held⟩⟩

theorem pure_ok {value result : α} : (pure value : Except ε α) = .ok result ↔ value = result := by
  simp [pure, Except.pure]

/-- The rules that take a chain of checks apart, together. -/
theorem checked_ok : (∀ {ε α β : Type} {first : Except ε α} {next : α → Except ε β} {result : β},
      (first >>= next) = .ok result ↔ ∃ value, first = .ok value ∧ next value = .ok result) ∧
    (∀ {ε : Type} {condition : Prop} [Decidable condition] {error : ε} {result : Unit},
      ensure condition error = .ok result ↔ condition) ∧
    ∀ {holds : Unit → Prop}, (∃ value, holds value) ↔ holds () :=
  ⟨bind_ok_iff, ensure_ok_iff, exists_unit⟩

theorem ensure_bind_ok_iff {next : Unit → Except ε β} :
    (ensure condition error >>= next) = .ok result ↔ condition ∧ next () = .ok result := by
  unfold ensure
  split <;> simp_all [bind, Except.bind]

section MapError

variable {ε' : Type u} {rename : ε → ε'}

theorem mapError_ok {value : α} : (Except.ok value).mapError rename = .ok value := rfl

theorem mapError_error : (Except.error error : Except ε α).mapError rename = .error (rename error) := rfl

@[simp] theorem mapError_ok_iff {result : α} : first.mapError rename = .ok result ↔ first = .ok result := by
  cases first <;> simp [mapError_ok, mapError_error]

end MapError

def required (value : Option α) (error : ε) : Except ε α :=
  match value with
  | some held => .ok held
  | none => .error error

@[simp] theorem required_ok_iff {value : Option α} {held : α} :
    required value error = .ok held ↔ value = some held := by
  cases value <;> simp [required]

theorem ok_of_toOption {value : α} (found : first.toOption = some value) : first = .ok value := by
  cases first with
  | error => cases found
  | ok =>
    cases found
    rfl

theorem ok_get (succeeds : first.toOption.isSome) : first = .ok (first.toOption.get succeeds) :=
  ok_of_toOption (Option.some_get succeeds).symm

theorem isSome_of_bind (succeeds : (first >>= next).toOption.isSome) : first.toOption.isSome := by
  cases first with
  | error => exact succeeds
  | ok => rfl

def raised? : Except ε α → Option ε
  | .ok _ => none
  | .error raised => some raised

theorem error_of_raised {raised : ε} (raises : raised? first = some raised) : first = .error raised := by
  cases first with
  | ok => cases raises
  | error => cases raises; rfl

/-- What a computation returns, where it returns, and which errors it may raise instead. -/
def Meets (computation : Except ε α) (returns : α → Prop) (raises : ε → Prop) : Prop :=
  match computation with
  | .ok value => returns value
  | .error raised => raises raised

section Meets

variable {returns : α → Prop} {raises : ε → Prop} {computation : Except ε α}

theorem Meets.value {value : α} (meets : Meets computation returns raises) (ok : computation = .ok value) :
    returns value := by
  rw [ok] at meets
  exact meets

theorem Meets.raised {raised : ε} (meets : Meets computation returns raises)
    (fails : computation = .error raised) : raises raised := by
  rw [fails] at meets
  exact meets

theorem Meets.mono {weaker : α → Prop} (meets : Meets computation returns raises)
    (imply : ∀ value, returns value → weaker value) : Meets computation weaker raises := by
  cases computation with
  | ok value => exact imply value meets
  | error raised => exact meets

theorem Meets.bind {next : α → Except ε β} {result : β → Prop} (first : Meets computation returns raises)
    (rest : ∀ value, returns value → Meets (next value) result raises) :
    Meets (computation >>= next) result raises := by
  cases computation with
  | ok value => exact rest value first
  | error raised => exact first

theorem Meets.ensure (harmless : ¬condition → raises error) :
    Meets (ensure condition error) (fun _ => condition) raises := by
  unfold Fallible.ensure
  split
  · assumption
  · rename_i fails
    exact harmless fails

theorem Meets.check {rest : Unit → Except ε α} (harmless : raises error)
    (meets : condition → Meets (rest ()) returns raises) :
    Meets (Fallible.ensure condition error >>= rest) returns raises :=
  Meets.bind (Meets.ensure fun _ => harmless) fun _ held => meets held

theorem Meets.required {value : Option α} (harmless : value = none → raises error) :
    Meets (required value error) (fun held => value = some held) raises := by
  cases value with
  | none => exact harmless rfl
  | some held => exact rfl

end Meets

@[simp] theorem throw_ne_ok {result : α} : (throw error : Except ε α) ≠ .ok result :=
  fun impossible => nomatch impossible

end Fallible
