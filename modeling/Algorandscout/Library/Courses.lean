import Algorandscout.Library.Program

namespace Algorandscout.Library.Program

/-!
# Courses of a program

What a program may do, whatever its environment answers.

* `Course` — one course: the operations with the answers they got, in order, and the end;
* `course_bind_iff` — a course of a sequence is one of its first part, then one of the rest;
* `trace`, `course_run` — a run in any environment is a course;
* `Performs` — what holds of every operation a program may perform;
* `FailsBy` — every failure is one of the program's own, or caused by its last operation;
* `Reaches` — a course that may not have ended yet.
-/

variable {Op : Type} {Answer : Op → Type} {ε ε' α β State : Type}

/-- The operations a program performed, in order, each with its answer. -/
abbrev Log (Answer : Op → Type) := List ((op : Op) × Answer op)

/-- `Course p log result`: given the answers of the log, `p` performs its operations and ends in
    the result. -/
inductive Course : Program Answer ε α → Log Answer → Except ε α → Prop
  | done (result : Except ε α) : Course (.done result) [] result
  | perform {op : Op} {next : Answer op → Program Answer ε α} {answer : Answer op}
      {log : Log Answer} {result : Except ε α} (rest : Course (next answer) log result) :
      Course (.perform op next) (⟨op, answer⟩ :: log) result

variable {log : Log Answer} {result : Except ε α}

theorem course_done_iff {final : Except ε α} :
    Course (.done final : Program Answer ε α) log result ↔ log = [] ∧ result = final := by
  constructor
  · rintro ⟨⟩
    exact ⟨rfl, rfl⟩
  · rintro ⟨rfl, rfl⟩
    exact .done _

theorem course_perform_iff {op : Op} {next : Answer op → Program Answer ε α} :
    Course (.perform op next) log result ↔
      ∃ answer rest, log = ⟨op, answer⟩ :: rest ∧ Course (next answer) rest result := by
  constructor
  · rintro ⟨⟩
    exact ⟨_, _, rfl, ‹_›⟩
  · rintro ⟨answer, rest, rfl, h⟩
    exact .perform h

@[simp] theorem course_pure_iff {a : α} :
    Course (pure a : Program Answer ε α) log result ↔ log = [] ∧ result = .ok a :=
  course_done_iff

@[simp] theorem course_raise_iff {e : ε} :
    Course (raise e : Program Answer ε α) log result ↔ log = [] ∧ result = .error e :=
  course_done_iff

@[simp] theorem course_ofExcept_iff {x : Except ε α} :
    Course (ofExcept x : Program Answer ε α) log result ↔ log = [] ∧ result = x :=
  course_done_iff

/-- An operation, and what is done with its answer. -/
theorem course_ask_bind_iff {op : Op} {f : Answer op → Program Answer ε α} :
    Course (ask op >>= f) log result ↔
      ∃ answer rest, log = ⟨op, answer⟩ :: rest ∧ Course (f answer) rest result :=
  course_perform_iff

/-- **Sequences.** The first part fails and the rest is skipped, or the rest goes on from what
    the first part gave. -/
theorem course_bind_iff {p : Program Answer ε β} {f : β → Program Answer ε α} :
    Course (p >>= f) log result ↔
      (∃ e, Course p log (.error e) ∧ result = .error e) ∨
        ∃ first rest b, log = first ++ rest ∧ Course p first (.ok b) ∧
          Course (f b) rest result := by
  induction p generalizing log with
  | done final =>
    cases final with
    | ok b =>
      show Course (f b) log result ↔ _
      simp [course_done_iff]
    | error e =>
      show Course (.done (.error e)) log result ↔ _
      simp [course_done_iff]
  | perform op next ih =>
    show Course (.perform op fun answer => next answer >>= f) log result ↔ _
    rw [course_perform_iff]
    constructor
    · rintro ⟨answer, rest, rfl, h⟩
      -- The same cut, one operation later.
      rcases (ih answer).mp h with ⟨e, hfirst, rfl⟩ | ⟨first, rest', b, rfl, hfirst, hrest⟩
      · exact .inl ⟨e, .perform hfirst, rfl⟩
      · exact .inr ⟨⟨op, answer⟩ :: first, rest', b, rfl, .perform hfirst, hrest⟩
    · rintro (⟨e, hfirst, rfl⟩ | ⟨first, rest', b, rfl, hfirst, hrest⟩)
      · obtain ⟨answer, rest, rfl, hnext⟩ := course_perform_iff.mp hfirst
        exact ⟨answer, rest, rfl, (ih answer).mpr (.inl ⟨e, hnext, rfl⟩)⟩
      · obtain ⟨answer, rest, rfl, hnext⟩ := course_perform_iff.mp hfirst
        exact ⟨answer, rest ++ rest', rfl,
          (ih answer).mpr (.inr ⟨rest, rest', b, rfl, hnext, hrest⟩)⟩

/-- A step that performs nothing, then the rest. -/
theorem course_ofExcept_bind_iff {x : Except ε β} {f : β → Program Answer ε α} :
    Course (ofExcept x >>= f) log result ↔
      (∃ e, x = .error e ∧ log = [] ∧ result = .error e) ∨
        ∃ b, x = .ok b ∧ Course (f b) log result := by
  cases x with
  | ok b =>
    show Course (f b) log result ↔ _
    simp
  | error e =>
    show Course (.done (.error e)) log result ↔ _
    simp [course_done_iff]

/-- A program that is caught takes the same courses, and does not fail. -/
theorem course_caught_iff {p : Program Answer ε β} {log : Log Answer}
    {result : Except ε' (Except ε β)} :
    Course p.caught log result ↔ ∃ final, Course p log final ∧ result = .ok final := by
  induction p generalizing log with
  | done final =>
    refine course_done_iff.trans ⟨?_, ?_⟩
    · rintro ⟨rfl, rfl⟩
      exact ⟨final, .done final, rfl⟩
    · rintro ⟨final', h, rfl⟩
      obtain ⟨rfl, rfl⟩ := course_done_iff.mp h
      exact ⟨rfl, rfl⟩
  | perform op next ih =>
    refine course_perform_iff.trans ⟨?_, ?_⟩
    · rintro ⟨answer, rest, rfl, h⟩
      obtain ⟨final, hfinal, rfl⟩ := (ih answer).mp h
      exact ⟨final, .perform hfinal, rfl⟩
    · rintro ⟨final, h, rfl⟩
      obtain ⟨answer, rest, rfl, hrest⟩ := course_perform_iff.mp h
      exact ⟨answer, rest, rfl, (ih answer).mpr ⟨final, hrest, rfl⟩⟩

/-- A caught program, then what goes on with its end. -/
theorem course_caught_bind_iff {p : Program Answer ε β} {f : Except ε β → Program Answer ε' α}
    {log : Log Answer} {result : Except ε' α} :
    Course (p.caught >>= f) log result ↔
      ∃ first rest final, log = first ++ rest ∧ Course p first final ∧
        Course (f final) rest result := by
  rw [course_bind_iff]
  constructor
  · rintro (⟨e, h, -⟩ | ⟨first, rest, final, rfl, h, hrest⟩)
    · obtain ⟨final, -, heq⟩ := course_caught_iff.mp h
      cases heq
    · obtain ⟨final', hfinal, heq⟩ := course_caught_iff.mp h
      obtain rfl := Except.ok.inj heq
      exact ⟨first, rest, final, rfl, hfinal, hrest⟩
  · rintro ⟨first, rest, final, rfl, h, hrest⟩
    exact .inr ⟨first, rest, final, rfl, course_caught_iff.mpr ⟨final, h, rfl⟩, hrest⟩

/-- The operations of a run, each with the answer of the environment. -/
def trace (env : (op : Op) → State → Answer op × State) :
    Program Answer ε α → State → Log Answer
  | done _, _ => []
  | perform op next, s => ⟨op, (env op s).1⟩ :: (next (env op s).1).trace env (env op s).2

/-- **A run is a course.** -/
theorem course_run (p : Program Answer ε α) (env : (op : Op) → State → Answer op × State)
    (s : State) : Course p (p.trace env s) (p.run env s).1 := by
  induction p generalizing s with
  | done final => exact .done final
  | perform op next ih => exact .perform (ih (env op s).1 (env op s).2)

/-- What is run in an environment takes a course. -/
theorem exists_course_run (p : Program Answer ε α)
    (env : (op : Op) → State → Answer op × State) (s : State) :
    ∃ log, Course p log (p.run env s).1 := ⟨p.trace env s, course_run p env s⟩

@[simp] theorem course_map_iff {p : Program Answer ε β} {f : β → α} :
    Course (f <$> p) log result ↔ ∃ result', Course p log result' ∧ result = result'.map f := by
  show Course (p >>= fun b => pure (f b)) log result ↔ _
  rw [course_bind_iff]
  constructor
  · rintro (⟨e, hp, rfl⟩ | ⟨first, rest, b, rfl, hp, hrest⟩)
    · exact ⟨.error e, hp, rfl⟩
    · obtain ⟨rfl, rfl⟩ := course_pure_iff.mp hrest
      exact ⟨.ok b, by rwa [List.append_nil], rfl⟩
  · rintro ⟨result', hp, rfl⟩
    cases result' with
    | error e => exact .inl ⟨e, hp, rfl⟩
    | ok b =>
      refine .inr ⟨log, [], b, (List.append_nil log).symm, hp, ?_⟩
      exact course_pure_iff.mpr ⟨rfl, rfl⟩

/-! ### What every operation satisfies -/

/-- Every operation that `p` may perform satisfies `P`, with its answer. -/
def Performs (P : (op : Op) × Answer op → Prop) (p : Program Answer ε α) : Prop :=
  ∀ log result, Course p log result → ∀ entry ∈ log, P entry

variable {P : (op : Op) × Answer op → Prop}

theorem Performs.pure {a : α} : Performs P (Pure.pure a : Program Answer ε α) := by
  intro log result h entry hentry
  obtain ⟨rfl, -⟩ := course_pure_iff.mp h
  cases hentry

theorem Performs.ofExcept {x : Except ε α} : Performs P (ofExcept x : Program Answer ε α) := by
  intro log result h entry hentry
  obtain ⟨rfl, -⟩ := course_ofExcept_iff.mp h
  cases hentry

theorem Performs.bind {p : Program Answer ε β} {f : β → Program Answer ε α} (hp : Performs P p)
    (hf : ∀ b, Performs P (f b)) : Performs P (p >>= f) := by
  intro log result h
  rcases course_bind_iff.mp h with ⟨e, hfirst, -⟩ | ⟨first, rest, b, rfl, hfirst, hrest⟩
  · exact hp log _ hfirst
  · rw [List.forall_mem_append]
    exact ⟨hp first _ hfirst, hf b rest result hrest⟩

/-- What follows a check may rely on it. -/
theorem Performs.check {x : Except ε β} {f : β → Program Answer ε α}
    (hf : ∀ b, x = .ok b → Performs P (f b)) :
    Performs P (Program.ofExcept x >>= f) := by
  intro log result h entry hentry
  rcases course_ofExcept_bind_iff.mp h with ⟨e, -, rfl, -⟩ | ⟨b, hb, hrest⟩
  · cases hentry
  · exact hf b hb log result hrest entry hentry

theorem Performs.map {p : Program Answer ε β} {f : β → α} (hp : Performs P p) :
    Performs P (f <$> p) := by
  intro log result h
  obtain ⟨result', hcourse, -⟩ := course_map_iff.mp h
  exact hp log result' hcourse

/-! ### Where failures come from -/

/-- An error that `p` ends in is one of its own (`Own`), or its last operation is to blame
    (`Cause`). -/
def FailsBy (Own : ε → Prop) (Cause : (op : Op) × Answer op → ε → Prop)
    (p : Program Answer ε α) : Prop :=
  ∀ log e, Course p log (.error e) → Own e ∨ ∃ entry, log.getLast? = some entry ∧ Cause entry e

variable {Own : ε → Prop} {Cause : (op : Op) × Answer op → ε → Prop}

theorem FailsBy.pure {a : α} : FailsBy Own Cause (Pure.pure a : Program Answer ε α) := by
  intro log e h
  obtain ⟨-, heq⟩ := course_pure_iff.mp h
  cases heq

theorem FailsBy.raise {e : ε} (h : Own e) :
    FailsBy Own Cause (raise e : Program Answer ε α) := by
  intro log e' hcourse
  obtain ⟨-, heq⟩ := course_raise_iff.mp hcourse
  exact .inl (Except.error.inj heq ▸ h)

theorem FailsBy.ofExcept {x : Except ε α} (h : ∀ e, x = .error e → Own e) :
    FailsBy Own Cause (ofExcept x : Program Answer ε α) := by
  intro log e hcourse
  obtain ⟨-, heq⟩ := course_ofExcept_iff.mp hcourse
  exact .inl (h e heq.symm)

/-- A sequence whose parts fail so. -/
theorem FailsBy.bind {p : Program Answer ε β} {f : β → Program Answer ε α}
    (hp : FailsBy Own Cause p) (hf : ∀ b, FailsBy Own Cause (f b)) :
    FailsBy Own Cause (p >>= f) := by
  intro log e h
  rcases course_bind_iff.mp h with ⟨e', hfirst, heq⟩ | ⟨first, rest, b, rfl, hfirst, hrest⟩
  · obtain rfl := Except.error.inj heq
    exact hp log e hfirst
  · rcases hf b rest e hrest with hown | ⟨entry, hlast, hcause⟩
    · exact .inl hown
    · -- The last operation of the rest is the last of all.
      refine .inr ⟨entry, ?_, hcause⟩
      rw [List.getLast?_append, hlast, Option.some_or]

theorem FailsBy.map {p : Program Answer ε β} {f : β → α} (hp : FailsBy Own Cause p) :
    FailsBy Own Cause (f <$> p) :=
  FailsBy.bind hp fun _ => FailsBy.pure

/-! ### Parts of a course -/

/-- An operation with its answer. -/
abbrev Entry (Answer : Op → Type) := (op : Op) × Answer op

/-- `Reaches p log q`: given the answers of the log, `p` performs its operations and goes on as
    `q`. -/
inductive Reaches : Program Answer ε α → Log Answer → Program Answer ε α → Prop
  | here (p : Program Answer ε α) : Reaches p [] p
  | perform {op : Op} {next : Answer op → Program Answer ε α} {answer : Answer op}
      {log : Log Answer} {q : Program Answer ε α} (rest : Reaches (next answer) log q) :
      Reaches (.perform op next) (⟨op, answer⟩ :: log) q

theorem Reaches.trans {p q r : Program Answer ε α} {log log' : Log Answer}
    (h : Reaches p log q) (h' : Reaches q log' r) : Reaches p (log ++ log') r := by
  induction h with
  | here p => exact h'
  | perform rest ih => exact .perform (ih h')

/-- A course may go on from what has been reached. -/
theorem Reaches.course {p q : Program Answer ε α} {log log' : Log Answer} {result : Except ε α}
    (h : Reaches p log q) (h' : Course q log' result) : Course p (log ++ log') result := by
  induction h with
  | here p => exact h'
  | perform rest ih => exact .perform (ih h')

/-- What has reached its end has taken a course. -/
theorem Reaches.course_of_done {p : Program Answer ε α} {log : Log Answer} {result : Except ε α}
    (h : Reaches p log (.done result)) : Course p log result := by
  have hcourse := h.course (.done result)
  rwa [List.append_nil] at hcourse

end Algorandscout.Library.Program
