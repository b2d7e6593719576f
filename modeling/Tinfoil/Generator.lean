import Mathlib.Data.List.Basic

/-! # Generators

A generator yields items while it runs and ends with a value or with an error; what it has
yielded before an error stays yielded.
-/

/-- Items of type `ι`, then a value of type `α` or an error of type `ε`. -/
structure Generator (ι ε α : Type) where
  yielded : List ι
  result : Except ε α

namespace Generator

variable {ι ε α β : Type}

@[ext] theorem ext {left right : Generator ι ε α} (yielded : left.yielded = right.yielded)
    (result : left.result = right.result) : left = right := by
  cases left
  cases right
  cases yielded
  cases result
  rfl

def yield (item : ι) : Generator ι ε Unit := ⟨[item], .ok ()⟩

def fail (error : ε) : Generator ι ε α := ⟨[], .error error⟩

def ofExcept : Except ε α → Generator ι ε α
  | .ok value => ⟨[], .ok value⟩
  | .error error => fail error

/-- The second generator runs only where the first one ends with a value. -/
def andThen (first : Generator ι ε α) (next : α → Generator ι ε β) : Generator ι ε β :=
  match first.result with
  | .error error => ⟨first.yielded, .error error⟩
  | .ok value => ⟨first.yielded ++ (next value).yielded, (next value).result⟩

instance : Monad (Generator ι ε) where
  pure value := ⟨[], .ok value⟩
  bind := andThen

def error (generator : Generator ι ε α) : Option ε :=
  match generator.result with
  | .error error => some error
  | .ok _ => none

@[simp] theorem yielded_pure (value : α) : (pure value : Generator ι ε α).yielded = [] := rfl

@[simp] theorem result_pure (value : α) : (pure value : Generator ι ε α).result = .ok value := rfl

@[simp] theorem fail_bind (error : ε) (next : α → Generator ι ε β) : (fail error >>= next) = fail error := rfl

@[simp] theorem yielded_fail (error : ε) : (fail error : Generator ι ε α).yielded = [] := rfl

@[simp] theorem error_fail (error : ε) : (fail error : Generator ι ε α).error = some error := rfl

@[simp] theorem error_pure (value : α) : (pure value : Generator ι ε α).error = none := rfl

theorem bind_of_ok {first : Generator ι ε α} {value : α} (ends : first.result = .ok value)
    (next : α → Generator ι ε β) :
    (first >>= next) = ⟨first.yielded ++ (next value).yielded, (next value).result⟩ := by
  change andThen first next = _
  rw [andThen, ends]

theorem bind_of_error {first : Generator ι ε α} {error : ε} (ends : first.result = .error error)
    (next : α → Generator ι ε β) : (first >>= next) = ⟨first.yielded, .error error⟩ := by
  change andThen first next = _
  rw [andThen, ends]

theorem bind_congr_ok {first : Generator ι ε α} {next next' : α → Generator ι ε β}
    (same : ∀ value, first.result = .ok value → next value = next' value) :
    (first >>= next) = (first >>= next') := by
  cases ends : first.result with
  | error error => rw [bind_of_error ends, bind_of_error ends]
  | ok value => rw [bind_of_ok ends, bind_of_ok ends, same value ends]

theorem map_id (generator : Generator ι ε α) : id <$> generator = generator := by
  cases ends : generator.result with
  | error error =>
    change (generator >>= fun value => pure (id value)) = generator
    rw [bind_of_error ends, ← ends]
  | ok value =>
    change (generator >>= fun value => pure (id value)) = generator
    rw [bind_of_ok ends, yielded_pure, List.append_nil, result_pure, id_eq, ← ends]

theorem bind_assoc {γ : Type} (first : Generator ι ε α) (next : α → Generator ι ε β)
    (last : β → Generator ι ε γ) : (first >>= next) >>= last = first >>= fun value => next value >>= last := by
  cases ends : first.result with
  | error error => rw [bind_of_error ends, bind_of_error ends, bind_of_error rfl]
  | ok value =>
    rw [bind_of_ok ends, bind_of_ok ends]
    cases ends' : (next value).result with
    | error error => rw [bind_of_error ends', bind_of_error rfl]
    | ok value' => rw [bind_of_ok ends', bind_of_ok rfl, List.append_assoc]

instance : LawfulMonad (Generator ι ε) :=
  LawfulMonad.mk' _ map_id (fun _ _ => rfl) bind_assoc

end Generator
