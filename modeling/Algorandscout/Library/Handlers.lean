import Algorandscout.Library.Courses

namespace Algorandscout.Library.Program

/-!
# Programs implemented by programs

The operations of one level may be programs of the level below.

* `handle` — a program with each of its operations replaced by the program that implements it;
* `Implements` — a log of the level above, as the level below has it;
* `course_handle` — a course below is one above, unless an operation failed on the way;
* `Course.handle`, `Course.handle_cut` — and every such course there is.
-/

variable {Op Op' : Type} {Answer : Op → Type} {Answer' : Op' → Type} {ε ε' α : Type}

/-- Each operation of the program runs what implements it; its own errors are wrapped. -/
def handle (impl : (op : Op) → Program Answer' ε' (Answer op)) (wrap : ε → ε') :
    Program Answer ε α → Program Answer' ε' α
  | done result => done (result.mapError wrap)
  | perform op next => impl op >>= fun answer => (next answer).handle impl wrap

/-- The lower log is that of the operations above, one after the other. -/
inductive Implements (impl : (op : Op) → Program Answer' ε' (Answer op)) :
    Log Answer → Log Answer' → Prop
  | nil : Implements impl [] []
  | cons {op : Op} {answer : Answer op} {first rest' : Log Answer'} {rest : Log Answer}
      (performed : Course (impl op) first (.ok answer)) (later : Implements impl rest rest') :
      Implements impl (⟨op, answer⟩ :: rest) (first ++ rest')

variable {impl : (op : Op) → Program Answer' ε' (Answer op)} {wrap : ε → ε'}
  {p : Program Answer ε α} {log' : Log Answer'} {result' : Except ε' α}

/-- **A course below is one above**, with the same end, unless what implements an operation ends
    in an error of its own. -/
theorem course_handle (h : Course (p.handle impl wrap) log' result') :
    (∃ log result, Course p log result ∧ Implements impl log log' ∧
      result' = result.mapError wrap) ∨
    ∃ (log : Log Answer) (op : Op) (next : Answer op → Program Answer ε α)
      (first last : Log Answer') (e : ε'), Reaches p log (.perform op next) ∧
      Implements impl log first ∧ Course (impl op) last (.error e) ∧ log' = first ++ last ∧
      result' = .error e := by
  induction p generalizing log' with
  | done result =>
    obtain ⟨rfl, rfl⟩ := course_done_iff.mp h
    exact .inl ⟨[], result, .done result, .nil, rfl⟩
  | perform op next ih =>
    rcases course_bind_iff.mp h with ⟨e, hop, rfl⟩ | ⟨first, rest', answer, rfl, hop, hrest⟩
    · exact .inr ⟨[], op, next, [], log', e, .here _, .nil, hop, rfl, rfl⟩
    · rcases ih answer hrest with ⟨log, result, hcourse, himpl, rfl⟩ |
        ⟨log, op', next', before, last, e, hreaches, himpl, hlast, rfl, rfl⟩
      · exact .inl ⟨⟨op, answer⟩ :: log, result, .perform hcourse, .cons hop himpl, rfl⟩
      · exact .inr ⟨⟨op, answer⟩ :: log, op', next', first ++ before, last, e, .perform hreaches,
          .cons hop himpl, hlast, (List.append_assoc _ _ _).symm, rfl⟩

/-- What a course above is below, once its operations are implemented. -/
theorem Course.handle {log : Log Answer} {result : Except ε α} (h : Course p log result)
    (himpl : Implements impl log log') :
    Course (p.handle impl wrap) log' (result.mapError wrap) := by
  induction h generalizing log' with
  | done result =>
    cases himpl
    exact .done _
  | perform rest ih =>
    cases himpl with
    | cons performed later => exact course_bind_iff.mpr (.inr ⟨_, _, _, rfl, performed, ih later⟩)

/-- An operation that fails leaves the program where it is reached. -/
theorem Course.handle_cut {log : Log Answer} {op : Op} {next : Answer op → Program Answer ε α}
    {first last : Log Answer'} {e : ε'} (h : Reaches p log (.perform op next))
    (himpl : Implements impl log first) (hfailed : Course (impl op) last (.error e)) :
    Course (p.handle impl wrap) (first ++ last) (.error e) := by
  generalize hq : Program.perform op next = q at h
  induction h generalizing first with
  | here p =>
    subst hq
    cases himpl
    exact course_bind_iff.mpr (.inl ⟨e, hfailed, rfl⟩)
  | perform rest ih =>
    cases himpl with
    | @cons _ _ before rest' _ performed later =>
      rw [List.append_assoc]
      exact course_bind_iff.mpr (.inr ⟨_, _, _, rfl, performed, ih later hq⟩)

end Algorandscout.Library.Program
