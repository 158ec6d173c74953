import SqlGateway.Driver.Session

/-!
# Readings

A reading is a program that asks for things one after another, each question depending on the
answers so far, and ends with a result. What a caller does with a row or with the values that a
call brings out is a reading: it can ask, and nothing else.
-/

namespace SqlGateway

/-- A program that asks questions from `ρ`, each answered by an `A ρ` or a failure. -/
inductive Reading (ρ : Type) (A : ρ → Type) (α : Type) where
  | done (a : α)
  | ask (r : ρ) (next : Except Failure (A r) → Reading ρ A α)

namespace Reading

variable {ρ : Type} {A : ρ → Type} {α β : Type}

protected def bind (p : Reading ρ A α) (f : α → Reading ρ A β) : Reading ρ A β :=
  match p with
  | .done a => f a
  | .ask r next => .ask r fun answer => (next answer).bind f

instance : Monad (Reading ρ A) where
  pure := .done
  bind := Reading.bind

instance : LawfulMonad (Reading ρ A) := LawfulMonad.mk' _
  (fun p => by
    induction p with
    | done a => rfl
    | ask r next ih => exact congrArg (Reading.ask r) (funext ih))
  (fun _ _ => rfl)
  (fun p f g => by
    induction p with
    | done a => rfl
    | ask r next ih => exact congrArg (Reading.ask r) (funext ih))

def question (r : ρ) : ExceptT Failure (Reading ρ A) (A r) :=
  ExceptT.mk (.ask r .done)

def run {σ : Type} (answer : (r : ρ) → Act σ Failure (A r)) : Reading ρ A α → Plain σ α
  | .done a => pure a
  | .ask r next => fun s =>
    let (result, s) := answer r s
    (next result).run answer s

end Reading

end SqlGateway
