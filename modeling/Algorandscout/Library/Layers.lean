import Algorandscout.Library.EventLoop
import Algorandscout.Library.Handlers

namespace Algorandscout.Library

/-!
# Systems implemented by systems

The operations of the programs on an event loop may themselves be programs of a level below, whose
own operations are awaited one by one: other tasks then run in the middle of what the level above
takes for one operation.

* `Program.Awaits` — a program all of whose operations are awaited;
* `Layered` — a system with its operations implemented by programs;
* `Layered.At` — where a task of the level above is when the one below is there;
* `Layered.Timed` — the log of a task above, as the level below has it;
* `Layered.step`, `Layered.run` — every run below is one above, with the same shared state: an event
  in the middle of an operation changes nothing above.
-/

namespace Program

variable {Op Op' : Type} {Answer : Op → Type} {Answer' : Op' → Type} {ε ε' α β State : Type}
  {awaited : Op → Bool} {env : (op : Op) → State → Answer op × State}

/-! ### Programs that only await -/

/-- Every operation that the program may perform is awaited. -/
def Awaits (awaited : Op → Bool) : Program Answer ε α → Prop
  | done _ => True
  | perform op next => awaited op = true ∧ ∀ answer, (next answer).Awaits awaited

theorem Awaits.bind {p : Program Answer ε β} {f : β → Program Answer ε α}
    (hp : p.Awaits awaited) (hf : ∀ b, (f b).Awaits awaited) : (p >>= f).Awaits awaited := by
  induction p with
  | done result =>
    cases result with
    | ok b => exact hf b
    | error e => trivial
  | perform op next ih => exact ⟨hp.1, fun answer => ih answer (hp.2 answer)⟩

theorem handle_perform {impl : (op : Op) → Program Answer' ε' (Answer op)} {wrap : ε → ε'} {op : Op}
    {next : Answer op → Program Answer ε α} :
    (perform op next).handle impl wrap = impl op >>= fun answer => (next answer).handle impl wrap :=
  rfl

theorem Awaits.handle {impl : (op : Op') → Program Answer ε (Answer' op)} {wrap : ε' → ε}
    (himpl : ∀ op, (impl op).Awaits awaited) (p : Program Answer' ε' α) :
    (p.handle impl wrap).Awaits awaited := by
  induction p with
  | done result => trivial
  | perform op next ih => exact (himpl op).bind ih

theorem Awaits.reaches {p q : Program Answer ε α} {log : Log Answer} (hp : p.Awaits awaited)
    (h : Reaches p log q) : q.Awaits awaited := by
  induction h with
  | here p => exact hp
  | perform rest ih => exact ih (hp.2 _)

/-- What ends at once goes on with what follows. -/
theorem advance_bind_of_done {p : Program Answer ε β} {f : β → Program Answer ε α} {s s' : State}
    {log : Log Answer} {b : β} (h : p.advance awaited env s = (log, done (.ok b), s')) :
    (p >>= f).advance awaited env s =
      let advanced := (f b).advance awaited env s'
      (log ++ advanced.1, advanced.2.1, advanced.2.2) := by
  induction p generalizing s log with
  | done result =>
    simp only [advance, Prod.mk.injEq, done.injEq] at h
    obtain ⟨rfl, rfl, rfl⟩ := h
    rfl
  | perform op next ih =>
    cases hop : awaited op with
    | true =>
      rw [advance_perform_of_awaited hop] at h
      simp at h
    | false =>
      rw [advance_perform_at_once hop] at h
      simp only [Prod.mk.injEq] at h
      obtain ⟨rfl, hrest, hs⟩ := h
      show (perform op fun answer => next answer >>= f).advance awaited env s = _
      rw [advance_perform_at_once hop, ih _ (Prod.ext rfl (Prod.ext hrest hs))]
      rfl

end Program

open Program

variable {Op Op' : Type} {Answer : Op → Type} {Answer' : Op' → Type}
  {ε ε' α State Time Request : Type} [LinearOrder Time]

/-- `sys'` is `sys` with its operations implemented: what is awaited by a program that awaits, and
    what is answered at once by one that ends at once, with the same answer. -/
structure Layered (sys : System Answer ε α State Time Request)
    (sys' : System Answer' ε' α State Time Request)
    (impl : (op : Op) → Program Answer' ε' (Answer op)) (wrap : ε → ε') : Prop where
  program : ∀ request, sys'.program request = (sys.program request).handle impl wrap
  awaits : ∀ op, sys.awaited op = true → (impl op).Awaits sys'.awaited
  /-- An operation that is awaited does not end before the first await. -/
  starts : ∀ op, sys.awaited op = true → ∃ op' next, impl op = .perform op' next
  at_once : ∀ op now s, sys.awaited op = false → ∃ log,
    (impl op).advance sys'.awaited (sys'.env now) s =
      (log, .done (.ok (sys.env now op s).1), (sys.env now op s).2)

namespace Layered

variable {sys : System Answer ε α State Time Request}
  {sys' : System Answer' ε' α State Time Request}
  {impl : (op : Op) → Program Answer' ε' (Answer op)} {wrap : ε → ε'}

omit [LinearOrder Time] in
/-- Up to the next await, the two do the same. -/
theorem advance (layered : Layered sys sys' impl wrap) (now : Time) (p : Program Answer ε α)
    (s : State) :
    let high := p.advance sys.awaited (sys.env now) s
    let low := (p.handle impl wrap).advance sys'.awaited (sys'.env now) s
    low.2.2 = high.2.2 ∧ low.2.1 = high.2.1.handle impl wrap ∧ Implements impl high.1 low.1 := by
  induction p generalizing s with
  | done result => exact ⟨rfl, rfl, .nil⟩
  | perform op next ih =>
    cases hop : sys.awaited op with
    | true =>
      obtain ⟨op', next', heq⟩ := layered.starts op hop
      have hop' : sys'.awaited op' = true := by
        have hawaits := layered.awaits op hop
        rw [heq] at hawaits
        exact hawaits.1
      have hlow : ((Program.perform op next).handle impl wrap).advance sys'.awaited
          (sys'.env now) s = ([], (Program.perform op next).handle impl wrap, s) := by
        rw [handle_perform, heq]
        exact advance_perform_of_awaited hop' _ s
      rw [advance_perform_of_awaited hop, hlow]
      exact ⟨rfl, rfl, .nil⟩
    | false =>
      obtain ⟨log, hlog⟩ := layered.at_once op now s hop
      have hlow := advance_bind_of_done (f := fun answer => (next answer).handle impl wrap) hlog
      rw [advance_perform_at_once hop, handle_perform, hlow]
      obtain ⟨hs, hrest, himpl⟩ := ih (sys.env now op s).1 (sys.env now op s).2
      refine ⟨hs, hrest, .cons ?_ himpl⟩
      have hreaches : Reaches (impl op)
          ((impl op).advance sys'.awaited (sys'.env now) s).1
          ((impl op).advance sys'.awaited (sys'.env now) s).2.1 := reaches_advance (impl op) s
      rw [hlog] at hreaches
      exact hreaches.course_of_done

/-! ### Where the tasks are -/

/-- Where a task is above, when the task below has the given program left and has performed `first`
    of the operation that it is in. -/
inductive At (sys : System Answer ε α State Time Request)
    (impl : (op : Op) → Program Answer' ε' (Answer op)) (wrap : ε → ε') :
    Program Answer ε α → Program Answer' ε' α → Log Answer' → Prop
  | done (result : Except ε α) : At sys impl wrap (.done result) (.done (result.mapError wrap)) []
  /-- In the middle of an operation. -/
  | within {op : Op} {next : Answer op → Program Answer ε α} {first : Log Answer'}
      {op' : Op'} {next' : Answer' op' → Program Answer' ε' (Answer op)}
      (awaited : sys.awaited op = true) (reached : Reaches (impl op) first (.perform op' next')) :
      At sys impl wrap (.perform op next) (.perform op' fun answer' =>
        next' answer' >>= fun answer => (next answer).handle impl wrap) first
  /-- What implements the operation failed; above, its answer never comes. -/
  | cut {op : Op} {next : Answer op → Program Answer ε α} {first : Log Answer'} {e : ε'}
      (awaited : sys.awaited op = true) (failed : Course (impl op) first (.error e)) :
      At sys impl wrap (.perform op next) (.done (.error e)) first

omit [LinearOrder Time] in
/-- A task that has ended above is in no operation. -/
theorem At.eq_nil_of_done {rest : Program Answer ε α} {rest' : Program Answer' ε' α}
    {first : Log Answer'} {result : Except ε α} (h : At sys impl wrap rest rest' first)
    (hdone : rest = .done result) : first = [] := by
  cases h with
  | done _ => rfl
  | within awaited reached => cases hdone
  | cut awaited failed => cases hdone

omit [LinearOrder Time] in
/-- A task ends below as it does above, or in the middle of an operation that failed. -/
theorem At.done_cases {rest : Program Answer ε α} {rest' : Program Answer' ε' α}
    {first : Log Answer'} {result' : Except ε' α} (h : At sys impl wrap rest rest' first)
    (hdone : rest' = .done result') :
    (∃ result, rest = .done result ∧ result' = result.mapError wrap) ∨
      ∃ op next e, sys.awaited op = true ∧ rest = .perform op next ∧ result' = .error e ∧
        Course (impl op) first (.error e) := by
  cases h with
  | done result =>
    obtain rfl := Program.done.inj hdone
    exact .inl ⟨result, rfl, rfl⟩
  | within awaited reached => cases hdone
  | @cut op next _ e awaited failed =>
    obtain rfl := Program.done.inj hdone
    exact .inr ⟨op, next, e, awaited, rfl, rfl, failed⟩

/-- The log below is that of the operations above, one after the other, each answered when its last
    part was. -/
inductive Timed (impl : (op : Op) → Program Answer' ε' (Answer op)) :
    List (Time × Entry Answer) → List (Time × Entry Answer') → Prop
  | nil : Timed impl [] []
  | snoc {log : List (Time × Entry Answer)} {log' first : List (Time × Entry Answer')} {op : Op}
      {answer : Answer op} {t : Time} (earlier : Timed impl log log')
      (performed : Course (impl op) (first.map Prod.snd) (.ok answer))
      (ends : ∀ entry, first.getLast? = some entry → entry.1 = t) :
      Timed impl (log ++ [(t, ⟨op, answer⟩)]) (log' ++ first)

/-- One task, above and below. -/
structure TaskSim (sys : System Answer ε α State Time Request)
    (impl : (op : Op) → Program Answer' ε' (Answer op)) (wrap : ε → ε')
    (task : LoopTask Answer ε α Time Request) (task' : LoopTask Answer' ε' α Time Request) :
    Prop where
  request : task'.request = task.request
  startedAt : task'.startedAt = task.startedAt
  progress : ∃ settled first, task'.log = settled ++ first ∧ Timed impl task.log settled ∧
    At sys impl wrap task.rest task'.rest (first.map Prod.snd)

/-- A state above, and one below. -/
structure Sim (sys : System Answer ε α State Time Request)
    (impl : (op : Op) → Program Answer' ε' (Answer op)) (wrap : ε → ε')
    (l : EventLoop Answer ε α State Time Request)
    (l' : EventLoop Answer' ε' α State Time Request) : Prop where
  shared : l'.shared = l.shared
  clock : l.clock ≤ l'.clock
  tasks : ∀ i, Option.Rel (TaskSim sys impl wrap) (l.tasks i) (l'.tasks i)

omit [LinearOrder Time] in
/-- Nothing above is nothing below. -/
theorem Timed.eq_nil {log : List (Time × Entry Answer)} {log' : List (Time × Entry Answer')}
    (h : Timed impl log log') (hnone : log = []) : log' = [] := by
  cases h with
  | nil => rfl
  | snoc earlier performed ends => simp at hnone

omit [LinearOrder Time] in
/-- What was performed at once, at time `now`. -/
theorem Timed.append_now {log : List (Time × Entry Answer)} {log' : List (Time × Entry Answer')}
    (h : Timed impl log log') (now : Time) {high : Log Answer} {low : Log Answer'}
    (himpl : Implements impl high low) :
    Timed impl (log ++ high.map fun entry => (now, entry))
      (log' ++ low.map fun entry => (now, entry)) := by
  induction himpl generalizing log log' with
  | nil => simpa using h
  | @cons op answer first rest' rest performed later ih =>
    have hfirst : Course (impl op) ((first.map fun entry => (now, entry)).map Prod.snd)
        (.ok answer) := by
      rwa [List.map_map, Function.comp_def, List.map_id']
    have hnow : ∀ last, (first.map fun entry => (now, entry)).getLast? = some last →
        last.1 = now := by
      intro last hlast
      obtain ⟨_, -, rfl⟩ := List.mem_map.mp (List.mem_of_getLast? hlast)
      rfl
    have hrest := ih (h.snoc hfirst hnow)
    rw [List.append_assoc, List.append_assoc] at hrest
    rwa [List.map_append, List.map_cons]

/-! ### Events -/

variable {l : EventLoop Answer ε α State Time Request}
  {l' : EventLoop Answer' ε' α State Time Request} {now : Time} {i : ℕ}
  {task : LoopTask Answer ε α Time Request} {task' : LoopTask Answer' ε' α Time Request}

/-- What is above of a state in which a task was changed. -/
theorem Sim.update (hsim : Sim sys impl wrap l l') (htask : TaskSim sys impl wrap task task')
    (j : ℕ) : Option.Rel (TaskSim sys impl wrap) (Function.update l.tasks i (some task) j)
      (Function.update l'.tasks i (some task') j) := by
  by_cases hij : j = i
  · subst hij
    rw [Function.update_self, Function.update_self]
    exact .some htask
  · rw [Function.update_of_ne hij, Function.update_of_ne hij]
    exact hsim.tasks j

/-- Between two operations, both go on up to the next await. -/
theorem proceed (layered : Layered sys sys' impl wrap) (hsim : Sim sys impl wrap l l')
    (hrequest : task'.request = task.request) (hstarted : task'.startedAt = task.startedAt)
    (hlog : Timed impl task.log task'.log) (hrest : task'.rest = task.rest.handle impl wrap) :
    Sim sys impl wrap (sys.proceed l now i task) (sys'.proceed l' now i task') := by
  obtain ⟨hshared, hleft, himpl⟩ := layered.advance now task.rest l.shared
  rw [← hrest] at hshared hleft himpl
  unfold System.proceed
  rw [hsim.shared]
  refine ⟨hshared, le_rfl, hsim.update ⟨hrequest, hstarted, _, [], (List.append_nil _).symm,
    hlog.append_now now himpl, ?_⟩⟩
  show At sys impl wrap (task.rest.advance sys.awaited (sys.env now) l.shared).2.1
    (task'.rest.advance sys'.awaited (sys'.env now) l.shared).2.1 []
  rw [hleft]
  cases hhigh : (task.rest.advance sys.awaited (sys.env now) l.shared).2.1 with
  | done result => exact .done result
  | perform op next =>
    have hop := awaited_of_advance hhigh
    obtain ⟨op', next', heq⟩ := layered.starts op hop
    rw [handle_perform, heq]
    exact .within hop (heq ▸ .here _)

omit [LinearOrder Time] in
/-- A program that awaits, or has ended, stays where it is. -/
theorem advance_of_awaits {p : Program Answer' ε' α} (h : ∀ op next, p = .perform op next →
    sys'.awaited op = true) (s : State) :
    p.advance sys'.awaited (sys'.env now) s = ([], p, s) := by
  cases p with
  | done result => rfl
  | perform op next => exact advance_perform_of_awaited (h op next rfl) next s

/-- In the middle of an operation, nothing happens above. -/
theorem Sim.stutter (hsim : Sim sys impl wrap l l') (hle : l'.clock ≤ now)
    (hfound : l.tasks i = some task) (htask : TaskSim sys impl wrap task task')
    (hstays : ∀ op next, task'.rest = .perform op next → sys'.awaited op = true) :
    Sim sys impl wrap l (sys'.proceed l' now i task') := by
  unfold System.proceed
  rw [advance_of_awaits hstays]
  refine ⟨hsim.shared, hsim.clock.trans hle, fun j => ?_⟩
  have hsame : { task' with
      log := task'.log ++ ([] : Log Answer').map fun entry => (now, entry)
      rest := task'.rest } = task' := by
    rw [List.map_nil, List.append_nil]
  have hupdate := hsim.update (i := i) htask j
  rw [← hfound, Function.update_eq_self] at hupdate
  rwa [← hsame] at hupdate

omit [LinearOrder Time] in
/-- Some answers to all operations have this one among them. -/
theorem exists_answers [∀ op, Nonempty (Answer op)] {op : Op} (answer : Answer op) :
    ∃ answers : (op : Op) → Answer op, answers op = answer := by
  classical
  exact ⟨Function.update (fun op => Classical.arbitrary (Answer op)) op answer,
    Function.update_self op answer _⟩

theorem step_start (hle : l.clock ≤ now) (hfree : l.tasks i = none) (request : Request) :
    sys.step l (now, .start i request) = some (sys.proceed l now i (sys.started now request)) := by
  simp only [System.step, not_lt.mpr hle, ↓reduceIte, hfree]

theorem step_resume {op : Op} {next : Answer op → Program Answer ε α} (hle : l.clock ≤ now)
    (hfound : l.tasks i = some task) (hrest : task.rest = .perform op next)
    (answers : (op : Op) → Answer op) :
    sys.step l (now, .resume i answers) = some (sys.proceed l now i { task with
      log := task.log ++ [(now, ⟨op, answers op⟩)]
      rest := next (answers op) }) := by
  simp only [System.step, not_lt.mpr hle, ↓reduceIte, hfound, hrest]

/-- **One event below** is one above, or none. -/
theorem step [∀ op, Nonempty (Answer op)] (layered : Layered sys sys' impl wrap)
    (hsim : Sim sys impl wrap l l') {event' : LoopEvent Answer' Request}
    {l₁' : EventLoop Answer' ε' α State Time Request}
    (h : sys'.step l' (now, event') = some l₁') :
    ∃ events l₁, runFrom sys.step l events = some l₁ ∧ Sim sys impl wrap l₁ l₁' := by
  obtain ⟨hle, hcase⟩ := System.step_cases h
  cases hcase with
  | start i request free heq =>
    have hfree : l.tasks i = none := by
      have hrel := hsim.tasks i
      rw [free] at hrel
      cases hl : l.tasks i with
      | none => rfl
      | some task =>
        rw [hl] at hrel
        cases hrel
    refine ⟨[(now, .start i request)], _, runFrom_cons_eq_some.mpr
      ⟨l, rfl, step_start (hsim.clock.trans hle) hfree request⟩, ?_⟩
    rw [heq]
    exact layered.proceed hsim rfl rfl .nil (layered.program request)
  | resume i task' op' next' answer' found awaits heq =>
    obtain ⟨task, htask, hrel⟩ : ∃ task, l.tasks i = some task ∧
        TaskSim sys impl wrap task task' := by
      have hrel := hsim.tasks i
      rw [found] at hrel
      cases hl : l.tasks i with
      | none =>
        rw [hl] at hrel
        cases hrel
      | some task =>
        rw [hl] at hrel
        cases hrel with
        | some hrel => exact ⟨task, rfl, hrel⟩
    obtain ⟨settled, first, hlog, htimed, hat⟩ := hrel.progress
    rw [awaits] at hat
    generalize hrest : task.rest = rest at hat
    cases hat with
    | @within op next _ _ inner awaited reached =>
      let entry : Time × Entry Answer' := (now, ⟨op', answer'⟩)
      have hlog' : task'.log ++ [entry] = settled ++ (first ++ [entry]) := by
        rw [hlog, List.append_assoc]
      have hreached : Reaches (impl op) ((first ++ [entry]).map Prod.snd) (inner answer') := by
        rw [List.map_append]
        exact reached.trans (.perform (.here _))
      rw [heq]
      cases hinner : inner answer' with
      | perform op'' inner' =>
        have hop'' : sys'.awaited op'' = true := by
          have hawaits := (layered.awaits op awaited).reaches hreached
          rw [hinner] at hawaits
          exact hawaits.1
        refine ⟨[], l, rfl, ?_⟩
        apply hsim.stutter hle htask
        · refine ⟨hrel.request, hrel.startedAt, settled, _, hlog', htimed, ?_⟩
          dsimp only
          rw [hrest, hinner]
          exact .within awaited (hinner ▸ hreached)
        · intro op₁ next₁ heq₁
          dsimp only at heq₁
          rw [hinner] at heq₁
          cases heq₁
          exact hop''
      | done result =>
        cases result with
        | error e =>
          refine ⟨[], l, rfl, ?_⟩
          apply hsim.stutter hle htask
          · refine ⟨hrel.request, hrel.startedAt, settled, _, hlog', htimed, ?_⟩
            dsimp only
            rw [hrest, hinner]
            exact .cut awaited (hinner ▸ hreached).course_of_done
          · intro op₁ next₁ heq₁
            dsimp only at heq₁
            rw [hinner] at heq₁
            cases heq₁
        | ok answer =>
          -- The operation ends here, and so does its answer above.
          obtain ⟨answers, rfl⟩ := exists_answers answer
          refine ⟨[(now, .resume i answers)], _, runFrom_cons_eq_some.mpr
            ⟨l, rfl, step_resume (hsim.clock.trans hle) htask hrest answers⟩, ?_⟩
          refine layered.proceed hsim hrel.request hrel.startedAt ?_ ?_
          · dsimp only
            rw [hlog']
            rw [hinner] at hreached
            refine htimed.snoc hreached.course_of_done ?_
            intro last hlast
            rw [List.getLast?_append, List.getLast?_singleton] at hlast
            obtain rfl := Option.some.inj hlast
            rfl
          · dsimp only
            rw [hinner]
            rfl

/-- **Every run below is one above**, with the same shared state, and the tasks where they are. -/
theorem run [∀ op, Nonempty (Answer op)] (layered : Layered sys sys' impl wrap) {s : State}
    {clock : Time} {events' : List (Time × LoopEvent Answer' Request)}
    (h : runFrom sys'.step (System.init s clock) events' = some l') :
    ∃ events l, runFrom sys.step (System.init s clock) events = some l ∧
      Sim sys impl wrap l l' := by
  refine runFrom_invariant (P := fun _ l' => ∃ events l,
    runFrom sys.step (System.init s clock) events = some l ∧ Sim sys impl wrap l l') ?_ ?_ h
  · exact ⟨[], _, rfl, rfl, le_rfl, fun _ => .none⟩
  · rintro _ _ ⟨now, event'⟩ _ _ ⟨earlier, l, hrun, hsim⟩ hstep
    obtain ⟨later, l₁, hlater, hsim₁⟩ := layered.step hsim hstep
    exact ⟨later ++ earlier, l₁, (runFrom_append hrun).trans hlater, hsim₁⟩

end Layered

end Algorandscout.Library
