import Mathlib.Tactic.Common

namespace Algorandscout.Library

/-!
# Programs that perform operations

A program asks its environment to perform operations and goes on with the answers; it ends with a
result or an error.  What an operation answers depends on the operation.

* `Program` — the tree of all its possible courses, a monad;
* `caught` — the program with its error as a result;
* `run` — one course, in an environment that answers from a state of its own;
* `run_bind` — a sequence runs its first part, then the rest on what that gave.
-/

/-- A program whose operations `op` are answered by an `Answer op`. -/
inductive Program {Op : Type} (Answer : Op → Type) (ε α : Type) : Type where
  | done (result : Except ε α)
  | perform (op : Op) (next : Answer op → Program Answer ε α)

namespace Program

variable {Op : Type} {Answer : Op → Type} {ε ε' α β State : Type}

/-- Sequencing; an error skips the rest. -/
def bind (p : Program Answer ε α) (f : α → Program Answer ε β) : Program Answer ε β :=
  match p with
  | done (.ok a) => f a
  | done (.error e) => done (.error e)
  | perform op next => perform op fun answer => (next answer).bind f

instance : Monad (Program Answer ε) where
  pure a := done (.ok a)
  bind := bind

/-- Perform one operation. -/
def ask (op : Op) : Program Answer ε (Answer op) := perform op fun answer => done (.ok answer)

/-- End with an error. -/
def raise (e : ε) : Program Answer ε α := done (.error e)

/-- A step that performs nothing. -/
def ofExcept (x : Except ε α) : Program Answer ε α := done x

/-- The program with its error caught. -/
def caught : Program Answer ε α → Program Answer ε' (Except ε α)
  | done result => done (.ok result)
  | perform op next => perform op fun answer => (next answer).caught

/-- The course of a program in an environment, from the environment's state. -/
def run (env : (op : Op) → State → Answer op × State) :
    Program Answer ε α → State → Except ε α × State
  | done result, s => (result, s)
  | perform op next, s => (next (env op s).1).run env (env op s).2

variable {env : (op : Op) → State → Answer op × State} {s : State}

@[simp] theorem run_pure (a : α) :
    (pure a : Program Answer ε α).run env s = (.ok a, s) := rfl

/-- **Sequences.** -/
theorem run_bind (p : Program Answer ε α) (f : α → Program Answer ε β) :
    (p >>= f).run env s =
      match p.run env s with
      | (.ok a, s') => (f a).run env s'
      | (.error e, s') => (.error e, s') := by
  induction p generalizing s with
  | done result =>
    cases result with
    | ok a => rfl
    | error e => rfl
  -- Both sides perform the operation and go on with its answer.
  | perform op next ih => exact ih (env op s).1

/-- The result of a sequence. -/
theorem run_bind_fst (p : Program Answer ε α) (f : α → Program Answer ε β) :
    ((p >>= f).run env s).1 =
      (p.run env s).1 >>= fun a => ((f a).run env (p.run env s).2).1 := by
  rw [run_bind]
  rcases p.run env s with ⟨result, s'⟩
  cases result with
  | ok a => rfl
  | error e => rfl

/-- What is caught runs as before, and does not fail. -/
@[simp] theorem run_caught (p : Program Answer ε α) :
    (p.caught : Program Answer ε' (Except ε α)).run env s =
      (.ok (p.run env s).1, (p.run env s).2) := by
  induction p generalizing s with
  | done result => rfl
  | perform op next ih => exact ih (env op s).1

/-- What performs nothing fails or goes on in the same state. -/
@[simp] theorem run_ofExcept_ok_bind (a : α) (f : α → Program Answer ε β) :
    (ofExcept (.ok a) >>= f).run env s = (f a).run env s := rfl

end Program

end Algorandscout.Library
