import Switchboard.Proofs.Accounts
import Switchboard.Proofs.SeriesKeys
import Switchboard.Proofs.Turns

/-!
# Series of commands

When a worker ends the execution of a command or of a pending step, and it has not panicked, three
series are written (`Runner.ended?`, `Runner.seriesOf_move`). So at any time of a run the series of
a command are what comes of the executions that have ended of this command, and of those that share
its series (`RunnerPlan.seriesOf_after`). Each of these executions was begun by name
(`RunnerPlan.exists_begin_of_mem_conclusions`).

Which commands share their series is a matter of the text that the key makes of them
(`RunnerPlan.series_are_apart_up_to_text`).
-/

namespace Switchboard

namespace Metrics

/-- What the series of a command say: how often it was executed, how long that took, and how often
it failed. -/
structure CommandSeries where
  executions : Nat := 0
  durations : Option Durations := none
  failures : Nat := 0
  deriving DecidableEq, Repr

/-- The series of a command. -/
def seriesOf (m : Metrics) (bot : BotType) (label : String) : CommandSeries where
  executions := m.counter Runner.executionCounter (Runner.commandLabels bot label)
  durations := m.duration? Runner.executionDuration (Runner.commandLabels bot label)
  failures := m.counter Runner.failureCounter (Runner.commandLabels bot label)

/-- An execution that has ended, without a panic. -/
structure Ending where
  bot : BotType
  label : String
  ms : Nat
  failed : Bool
  deriving DecidableEq, Repr

/-- Whether an execution is counted in the series of a command. -/
def Ending.concerns (bot : BotType) (label : String) (e : Ending) : Bool :=
  decide (Runner.SharesSeries bot label e.bot e.label)

/-- The series after one more execution. -/
def CommandSeries.add (s : CommandSeries) (e : Ending) : CommandSeries where
  executions := min limit (s.executions + 1)
  durations := some ((s.durations.getD {}).record e.ms)
  failures := if e.failed then min limit (s.failures + 1) else s.failures

/-- The series after some of the executions of a list. -/
def CommandSeries.addAll (s : CommandSeries) (counts : Ending → Bool) (es : List Ending) :
    CommandSeries :=
  (es.filter counts).foldl CommandSeries.add s

end Metrics

/-- The execution that a record is about. -/
def Record.ending? : Record → Option Metrics.Ending
  | execution bot label ms failed => some ⟨bot, label, ms, failed⟩
  | _ => none

namespace Metrics

variable {m : Metrics} {bot : BotType} {label name : String}

/-! ## Records -/

theorem CommandSeries.addAll_append (s : CommandSeries) (counts : Ending → Bool)
    (es es' : List Ending) :
    s.addAll counts (es ++ es') = (s.addAll counts es).addAll counts es' := by
  rw [addAll, List.filter_append, List.foldl_append, addAll, addAll]

/-- Counting under another name leaves the series of commands as they are. -/
theorem seriesOf_increment (plain : IsPlain name) (executions : Runner.executionCounter ≠ name)
    (failures : Runner.failureCounter ≠ name) (labels : Labels) :
    (m.increment name 1 labels).seriesOf bot label = m.seriesOf bot label := by
  simp only [seriesOf, CommandSeries.mk.injEq]
  exact ⟨counter_increment_other plain (by decide) executions .., duration?_increment ..,
    counter_increment_other plain (by decide) failures ..⟩

theorem duration?_execute (m : Metrics) (labels labels' : Labels) (ms : Nat) :
    (m.execute labels ms).duration? Runner.executionDuration labels' =
      if seriesKey "" labels' = seriesKey "" labels
      then some (((m.duration? Runner.executionDuration labels').getD {}).record ms)
      else m.duration? Runner.executionDuration labels' :=
  duration?_observe_self (m.increment Runner.executionCounter 1 labels) _ ms labels labels'

theorem seriesOf_execute (m : Metrics) (bot : BotType) (label : String) (e : Ending) :
    (m.execute (Runner.commandLabels e.bot e.label) e.ms).seriesOf bot label =
      if Runner.SharesSeries bot label e.bot e.label
      then (m.seriesOf bot label).add { e with failed := false }
      else m.seriesOf bot label := by
  simp only [seriesOf, executions_execute, failures_execute, duration?_execute,
    Runner.seriesKey_eq_iff_sharesSeries]
  split <;> rfl

/-- A failure is counted next to its execution. -/
theorem seriesOf_fail (m : Metrics) (bot : BotType) (label : String) (e : Ending) :
    (m.increment Runner.failureCounter 1 (Runner.commandLabels e.bot e.label)).seriesOf bot label =
      if Runner.SharesSeries bot label e.bot e.label
      then { m.seriesOf bot label with failures := min limit ((m.seriesOf bot label).failures + 1) }
      else m.seriesOf bot label := by
  have executions : ∀ labels labels', (m.increment Runner.failureCounter 1 labels).counter
      Runner.executionCounter labels' = m.counter Runner.executionCounter labels' :=
    counter_increment_other (by decide) (by decide) (by decide)
  simp only [seriesOf, duration?_increment, counter_increment_self, executions,
    Runner.seriesKey_eq_iff_sharesSeries]
  split <;> rfl

/-- An execution is added to the series that it concerns. -/
theorem seriesOf_book_execution (m : Metrics) (bot : BotType) (label : String) (e : Ending) :
    (m.book (.execution e.bot e.label e.ms e.failed)).seriesOf bot label =
      (m.seriesOf bot label).addAll (Ending.concerns bot label) [e] := by
  obtain ⟨bot', label', ms, failed⟩ := e
  have executed := seriesOf_execute m bot label ⟨bot', label', ms, failed⟩
  have failure := seriesOf_fail (m.execute (Runner.commandLabels bot' label') ms) bot label
    ⟨bot', label', ms, failed⟩
  simp only [book, CommandSeries.addAll, Ending.concerns, List.filter_cons, List.filter_nil,
    decide_eq_true_eq]
  cases failed with
  | false =>
    refine executed.trans ?_
    split <;> rfl
  | true =>
    refine failure.trans ?_
    rw [executed]
    split <;> rfl

theorem seriesOf_book (m : Metrics) (bot : BotType) (label : String) (x : Record) :
    (m.book x).seriesOf bot label =
      (m.seriesOf bot label).addAll (Ending.concerns bot label) x.ending?.toList := by
  cases x with
  | execution bot' label' ms failed => exact seriesOf_book_execution m bot label ⟨_, _, _, _⟩
  | input bot' => exact seriesOf_increment (by decide) (by decide) (by decide) _
  | panic => exact seriesOf_increment (by decide) (by decide) (by decide) _
  | firing task => exact seriesOf_increment (by decide) (by decide) (by decide) _
  | queueLength n => rfl

/-- Records count in the series that their executions concern. -/
theorem seriesOf_foldl_book (m : Metrics) (bot : BotType) (label : String) (xs : List Record) :
    (xs.foldl book m).seriesOf bot label =
      (m.seriesOf bot label).addAll (Ending.concerns bot label) (xs.filterMap Record.ending?) := by
  induction xs generalizing m with
  | nil => rfl
  | cons x rest ih =>
    have ahead : (x :: rest).filterMap Record.ending? =
        x.ending?.toList ++ rest.filterMap Record.ending? := by
      cases h : x.ending? <;> simp [h]
    rw [List.foldl_cons, ih, seriesOf_book, ahead, CommandSeries.addAll_append]

end Metrics

/-! ## Executions that end -/

/-- The execution that a worker with some job in its hands is about to end. -/
def Runner.endingOf? {κ : Type} (r : Runner κ) (w : Work κ) : Option Metrics.Ending :=
  match w.job, w.stage with
  | .converse k _ _, .talking label since e =>
    match e.outcome? with
    | some (.done _) => some ⟨r.botTypeOf k, label, r.now - since, false⟩
    | some (.failed _) => some ⟨r.botTypeOf k, label, r.now - since, true⟩
    | _ => none
  | _, _ => none

/-- The execution that a move ends. -/
def Runner.ended? {κ : Type} (r : Runner κ) : Runner.Move → Option Metrics.Ending
  | .act (.worker n) => (r.pool.job? n).bind r.endingOf?
  | _ => none

namespace Runner

variable {κ : Type} {r r' : Runner κ} {n w k : Nat} {m : Move}

/-- What is booked between two states of a runner: of executions these, and perhaps something
else. -/
def Books (r r' : Runner κ) (es : List Metrics.Ending) : Prop :=
  ∃ xs : List Record, r'.metrics = xs.foldl Metrics.book r.metrics ∧
    xs.filterMap Record.ending? = es

theorem Books.of_eq (same : r'.metrics = r.metrics) : r.Books r' [] := ⟨[], same, rfl⟩

theorem Books.giveUp (same : r'.metrics = r.metrics) (n : Nat) (job : Job κ) (message : String) :
    r.Books (r'.giveUp n job message) [] := by
  refine ⟨[.panic], ?_, rfl⟩
  rw [List.foldl_cons, List.foldl_nil, ← same]
  rfl

theorem Books.firing {task : String}
    (counted : r'.metrics = r.metrics.increment firingCounter 1 [("task", task)]) :
    r.Books r' [] :=
  ⟨[.firing task], counted, rfl⟩

theorem books_respond (r : Runner κ) (n : Nat) (job : Job κ) (i : Input) :
    r.Books (r.respond n job i) [] := by
  unfold respond
  split
  · exact .of_eq rfl
  · dsimp only
    split
    · exact .giveUp rfl ..
    · exact .of_eq rfl

theorem books_begin (r : Runner κ) (n : Nat) (v : Work κ) : r.Books (r.begin n v) [] := by
  unfold begin
  dsimp only
  split
  · exact .of_eq rfl
  · split
    · exact .of_eq rfl
    · split
      · exact .of_eq rfl
      · exact books_respond ..
      · exact .giveUp rfl ..
  · exact .of_eq rfl

theorem metrics_keep (r : Runner κ) (sender : String) (next : Option (Step κ)) :
    (r.keep sender next).metrics = r.metrics := by
  cases next <;> rfl

theorem books_concludeTask (r : Runner κ) (n : Nat) (v : Work κ) (t : ScheduledTask)
    (outcome : Outcome (List TaskResult)) : r.Books (r.concludeTask n v t outcome) [] := by
  unfold concludeTask
  split
  · exact .giveUp rfl ..
  · rw [foldl_note]
    exact .of_eq rfl
  · exact .of_eq rfl

theorem books_sendNext (r : Runner κ) (n : Nat) (v : Work κ) (o : Output) (rest : List Output) :
    r.Books (r.sendNext n v o rest) [] := by
  unfold sendNext
  split
  · exact .of_eq rfl
  · dsimp only
    split
    · exact .giveUp rfl ..
    · exact .of_eq rfl

/-- A worker books the execution that it ends, and no other. -/
theorem books_carryOn (r : Runner κ) (n : Nat) (v : Work κ) :
    r.Books (r.carryOn n v) (r.endingOf? v).toList := by
  obtain ⟨job, stage⟩ := v
  cases stage with
  | ready =>
    cases job <;> exact books_begin ..
  | talking label since e =>
    cases job with
    | deliver k sender o => exact .of_eq rfl
    | perform k t => exact .of_eq rfl
    | converse k i pending =>
      simp only [carryOn, endingOf?]
      cases e.outcome? with
      | none => exact .of_eq rfl
      | some outcome =>
        cases outcome with
        | panicked m => exact .giveUp rfl ..
        | done t =>
          refine ⟨[.execution (r.botTypeOf k) label (r.now - since) false], ?_, rfl⟩
          exact metrics_keep ..
        | failed c => exact ⟨[.execution (r.botTypeOf k) label (r.now - since) true], rfl, rfl⟩
  | working e =>
    cases job with
    | deliver k sender o => exact .of_eq rfl
    | converse k i pending => exact .of_eq rfl
    | perform k t =>
      simp only [carryOn, endingOf?]
      split
      · exact books_concludeTask ..
      · exact .of_eq rfl
  | sending outputs =>
    cases outputs with
    | nil => cases job <;> exact .of_eq rfl
    | cons o rest => cases job <;> exact books_sendNext ..

/-- Timers book firings only. -/
theorem books_timerStep (r : Runner κ) (n : Nat) : r.Books (r.timerStep n) [] := by
  unfold timerStep
  split
  · exact .of_eq rfl
  · split
    · dsimp only
      split
      · exact .of_eq rfl
      · split
        · exact .of_eq rfl
        · exact .of_eq rfl
    · unfold fire
      dsimp only
      split
      · exact .of_eq rfl
      · split
        · exact .firing rfl
        · split
          · exact .firing rfl
          · exact .firing rfl

theorem books_workerStep (r : Runner κ) (n : Nat) :
    r.Books (r.workerStep n) ((r.pool.job? n).bind r.endingOf?).toList := by
  unfold workerStep
  cases r.pool.job? n with
  | some v => exact books_carryOn ..
  | none =>
    dsimp only
    split <;> exact .of_eq rfl

/-- A worker that is about to end an execution is able to. -/
theorem workerIsAble_of_endingOf? {v : Work κ} {e : Metrics.Ending} (hands : r.pool.job? n = some v)
    (ending : r.endingOf? v = some e) : r.workerIsAble n = true := by
  unfold endingOf? at ending
  split at ending
  · next talking =>
    rw [workerIsAble, hands]
    simp only [Work.canGoOn, talking]
    unfold Execution.canGoOn
    split
    · next rest => simp [Execution.outcome?, rest] at ending
    · next rest => simp [Execution.outcome?, rest] at ending
    · rfl
  · cases ending

/-- A move books the execution that it ends, and no other. -/
theorem books_move (r : Runner κ) (m : Move) : r.Books (r.move m) (r.ended? m).toList := by
  by_cases worker : ∃ n, m = .act (.worker n)
  · obtain ⟨n, rfl⟩ := worker
    rw [move]
    split
    · exact books_workerStep r n
    · next unable =>
      have none : r.ended? (.act (.worker n)) = none := by
        rw [ended?, Option.bind_eq_none_iff]
        intro v hands
        by_contra ending
        obtain ⟨e, ending⟩ := Option.ne_none_iff_exists'.mp ending
        exact unable (workerIsAble_of_endingOf? hands ending)
      rw [none]
      exact .of_eq rfl
  · have nothing : r.ended? m = none := by
      unfold ended?
      split
      · next n => exact absurd ⟨n, rfl⟩ worker
      · rfl
    rw [nothing]
    by_cases timer : ∃ n, m = .act (.timer n)
    · obtain ⟨n, rfl⟩ := timer
      rw [move]
      split
      · exact books_timerStep r n
      · exact .of_eq rfl
    · obtain ⟨es, x, writes, entry⟩ :=
        exists_writes_move r (not_exists.mp worker) (not_exists.mp timer)
      refine ⟨x.toList, writes.metrics, ?_⟩
      cases entry <;> rfl

/-- A move changes the series of a command if it ends an execution that concerns them. -/
theorem seriesOf_move (r : Runner κ) (m : Move) (bot : BotType) (label : String) :
    (r.move m).metrics.seriesOf bot label =
      (r.metrics.seriesOf bot label).addAll (Metrics.Ending.concerns bot label)
        (r.ended? m).toList := by
  obtain ⟨xs, metrics, ended⟩ := books_move r m
  rw [metrics, Metrics.seriesOf_foldl_book, ended]

/-! ## Executions that begin -/

/-- Among some happenings is the begin of an execution for a message: of a command under its
identifier, or of a pending step under the name of all steps. -/
def IsBegunIn (es : List (Happening κ)) (bot : BotType) (label : String) (i : Input) :
    Option (Step κ) → Prop
  | none => .executed bot label i ∈ es
  | some step => label = stepLabel ∧ .resumed bot i step ∈ es

theorem IsBegunIn.mono {es es' : List (Happening κ)} {bot : BotType} {label : String} {i : Input}
    {pending : Option (Step κ)} (h : IsBegunIn es bot label i pending) (more : es ⊆ es') :
    IsBegunIn es' bot label i pending := by
  cases pending with
  | none => exact more h
  | some step => exact ⟨h.1, more h.2⟩

/-- What workers execute for messages has been begun. -/
def KnowsTurns (r : Runner κ) : Prop :=
  ∀ w k i pending label since e,
    r.pool.job? w = some ⟨.converse k i pending, .talking label since e⟩ →
      IsBegunIn r.trace (r.botTypeOf k) label i pending

/-- A worker executes what it has executed before, or what it has just begun. -/
theorem Labour.isBegunIn {v : Work κ} {conversations : Conversations κ} {es : List (Happening κ)}
    {i : Input} {pending : Option (Step κ)} {label : String} {since : Nat} {e : Execution (Turn κ)}
    (labour : Labour r v (some ⟨.converse k i pending, .talking label since e⟩) conversations es) :
    (∃ e', v = ⟨.converse k i pending, .talking label since e'⟩) ∨
      IsBegunIn es (r.botTypeOf k) label i pending := by
  cases labour with
  | resume _ _ step => exact .inr ⟨rfl, List.mem_singleton_self _⟩
  | execute _ _ c => exact .inr (List.mem_singleton_self _)
  | wait _ _ _ _ _ e' => exact .inl ⟨e', rfl⟩

/-- What a worker makes of the job of an input, and what happens. -/
theorem exists_labour (orderly : r.IsOrderly) (fit : r.IsFit) {v : Work κ}
    (hands : r.pool.job? n = some v) (own : v.ofLane = true) :
    ∃ next conversations es, Labour r v next conversations es ∧
      (r.workerStep n).pool = putDown r.pool n next ∧ (r.workerStep n).trace = r.trace ++ es := by
  obtain ⟨fitting, bound⟩ := fit v (orderly.mem_works hands own)
  obtain ⟨next, conversations, es, metrics, labour, frame⟩ :=
    carryOn_spec (n := n) own fitting (List.getElem?_eq_getElem bound)
  have step : r.workerStep n = r.carryOn n v := by simp only [workerStep, hands]
  exact ⟨next, conversations, es, labour, by rw [step, frame], by rw [step, frame]⟩

/-- What a worker has in hand after a step of its own has been begun. -/
theorem KnowsTurns.workerStep (knows : r.KnowsTurns) (orderly : r.IsOrderly) (fit : r.IsFit)
    (unbegun : r.IsUnbegun) {i : Input} {pending : Option (Step κ)} {label : String} {since : Nat}
    {e : Execution (Turn κ)}
    (hands : (r.workerStep n).pool.job? n = some ⟨.converse k i pending, .talking label since e⟩) :
    IsBegunIn (r.workerStep n).trace (r.botTypeOf k) label i pending := by
  cases held : r.pool.job? n with
  | some v =>
    cases own : v.ofLane with
    | true =>
      obtain ⟨next, conversations, es, labour, pool, trace⟩ := exists_labour orderly fit held own
      rw [pool, job?_putDown_self held] at hands
      subst hands
      rw [trace]
      rcases labour.isBegunIn with ⟨e', rfl⟩ | begun
      · exact (knows _ _ _ _ _ _ _ held).mono (List.subset_append_left ..)
      · exact begun.mono (List.subset_append_right ..)
    | false =>
      obtain ⟨next, es, task, -, -, pool, -, -⟩ := carryOn_task (r := r) (n := n) own
      have step : r.workerStep n = r.carryOn n v := by simp only [Runner.workerStep, held]
      rw [step, pool, job?_putDown_self held] at hands
      cases task _ hands
  | none =>
    rcases pool_workerStep orderly fit n with ⟨v, -, some, -⟩ | ⟨-, pool | pool⟩
    · rw [held] at some
      cases some
    · rw [pool] at hands
      cases unbegun _ (Pool.mem_untaken_of_take held hands)
    · rw [pool, Pool.job?_leave, held] at hands
      cases hands

theorem KnowsTurns.move (knows : r.KnowsTurns) (orderly : r.IsOrderly) (fit : r.IsFit)
    (unbegun : r.IsUnbegun) (m : Move) : (r.move m).KnowsTurns := by
  intro w k i pending label since e hands
  rw [(isLater_move r m).botTypeOf]
  by_cases own : m = .act (.worker w)
  · subst own
    rw [Runner.move] at hands ⊢
    split at hands
    · next able =>
      rw [if_pos able]
      exact knows.workerStep orderly fit unbegun hands
    · next unable =>
      rw [if_neg unable]
      exact knows _ _ _ _ _ _ _ hands
  · rw [job?_move orderly fit own] at hands
    obtain ⟨-, es, trace, -⟩ := move_spec orderly fit m
    rw [trace]
    exact (knows _ _ _ _ _ _ _ hands).mono (List.subset_append_left ..)

/-- An execution that ends is one that a worker has in hand. -/
theorem exists_of_ended? {e : Metrics.Ending} (ends : r.ended? m = some e) :
    ∃ w k i pending since e', e.bot = r.botTypeOf k ∧
      r.pool.job? w = some ⟨.converse k i pending, .talking e.label since e'⟩ := by
  unfold ended? at ends
  split at ends
  · next w =>
    obtain ⟨⟨_, _⟩, hands, ending⟩ := Option.bind_eq_some_iff.mp ends
    unfold endingOf? at ending
    split at ending
    · next k i pending label since e' job stage =>
      subst job stage
      refine ⟨w, k, i, pending, since, e', ?_⟩
      split at ending
      · cases ending
        exact ⟨rfl, hands⟩
      · cases ending
        exact ⟨rfl, hands⟩
      · cases ending
    · cases ending
  · cases ends

/-- An execution that ends was begun under its label. -/
theorem KnowsTurns.exists_begin (knows : r.KnowsTurns) {e : Metrics.Ending}
    (ends : r.ended? m = some e) :
    ∃ i pending, IsBegunIn r.trace e.bot e.label i pending := by
  obtain ⟨w, k, i, pending, since, e', bot, hands⟩ := exists_of_ended? ends
  exact ⟨i, pending, bot ▸ knows _ _ _ _ _ _ _ hands⟩

/-! ## Runs -/

/-- The executions that end in the course of the first moves of a schedule, in order. -/
def conclusions (r : Runner κ) (schedule : Nat → Move) : Nat → List Metrics.Ending
  | 0 => []
  | n + 1 => r.conclusions schedule n ++ ((r.after schedule n).ended? (schedule n)).toList

/-- The series of a command are what comes of the executions that concern them. -/
theorem seriesOf_after (r : Runner κ) (schedule : Nat → Move) (n : Nat) (bot : BotType)
    (label : String) :
    (r.after schedule n).metrics.seriesOf bot label =
      (r.metrics.seriesOf bot label).addAll (Metrics.Ending.concerns bot label)
        (r.conclusions schedule n) := by
  induction n with
  | zero => rfl
  | succ n ih => rw [after, seriesOf_move, ih, conclusions, Metrics.CommandSeries.addAll_append]

/-- Executions that end are those of lanes. -/
theorem exists_botTypeOf_eq (schedule : Nat → Move) {n : Nat} {e : Metrics.Ending}
    (ended : e ∈ r.conclusions schedule n) : ∃ k, r.botTypeOf k = e.bot := by
  induction n with
  | zero => cases ended
  | succ n ih =>
    rcases List.mem_append.mp ended with before | last
    · exact ih before
    · obtain ⟨-, k, -, -, -, -, bot, -⟩ := exists_of_ended? (Option.mem_toList.mp last)
      exact ⟨k, by rw [bot, (isLater_after r schedule n.zero_le).botTypeOf]; rfl⟩

end Runner

namespace RunnerPlan

variable {κ : Type} (p : RunnerPlan κ) (schedule : Nat → Runner.Move)

theorem knowsTurns_after (n : Nat) : (p.start.after schedule n).KnowsTurns := by
  induction n with
  | zero =>
    intro w k i pending label since e hands
    rw [Runner.after, p.start_spec.2.1] at hands
    cases hands
  | succ n ih =>
    obtain ⟨orderly, fit⟩ := p.isOrderly_after schedule n
    exact ih.move orderly fit (p.isUnbegun_after schedule n) _

/-- Every execution that has ended was begun under its label. -/
theorem exists_begin_of_mem_conclusions {n : Nat} {e : Metrics.Ending}
    (ended : e ∈ p.start.conclusions schedule n) :
    ∃ i pending, Runner.IsBegunIn (p.start.after schedule n).trace e.bot e.label i pending := by
  induction n with
  | zero => cases ended
  | succ n ih =>
    have grown : (p.start.after schedule n).trace ⊆ (p.start.after schedule (n + 1)).trace := by
      rw [(p.effect_after schedule n).1]
      exact List.subset_append_left ..
    rcases List.mem_append.mp ended with before | last
    · obtain ⟨i, pending, begun⟩ := ih before
      exact ⟨i, pending, begun.mono grown⟩
    · obtain ⟨i, pending, begun⟩ :=
        (p.knowsTurns_after schedule n).exists_begin (Option.mem_toList.mp last)
      exact ⟨i, pending, begun.mono grown⟩

theorem seriesOf_after (n : Nat) (bot : BotType) (label : String) :
    (p.start.after schedule n).metrics.seriesOf bot label =
      ({} : Metrics.CommandSeries).addAll (Metrics.Ending.concerns bot label)
        (p.start.conclusions schedule n) := by
  rw [Runner.seriesOf_after, p.nothing_counted_at_start.1]
  rfl

theorem isClear_botTypeOf (clear : ∀ bot ∈ p.bots, Runner.IsClear bot.botType) (k : Nat) :
    Runner.IsClear (p.start.botTypeOf k) := by
  have noLane : Runner.IsClear default := by decide
  rw [Runner.botTypeOf]
  cases lane : p.start.lanes[k]? with
  | none => exact noLane
  | some l =>
    rcases p.start_spec.1 with lanes | lanes
    · rw [lanes] at lane
      obtain ⟨bot, hbot, rfl⟩ := List.mem_map.mp (List.mem_of_getElem? lane)
      exact clear bot hbot
    · rw [lanes] at lane
      cases lane

/-- Where no bot type has the text in it that stands between bot type and identifier, the series of
a command are what comes of its own executions. -/
theorem seriesOf_after_of_isClear (clear : ∀ bot ∈ p.bots, Runner.IsClear bot.botType) (n : Nat)
    {bot : BotType} (own : Runner.IsClear bot) (label : String) :
    (p.start.after schedule n).metrics.seriesOf bot label =
      ({} : Metrics.CommandSeries).addAll (fun e => e.bot = bot ∧ e.label = label)
        (p.start.conclusions schedule n) := by
  rw [seriesOf_after, Metrics.CommandSeries.addAll, Metrics.CommandSeries.addAll]
  refine congrArg (List.foldl _ _) (List.filter_congr fun e ended => ?_)
  obtain ⟨k, bot'⟩ := Runner.exists_botTypeOf_eq schedule ended
  have other : Runner.IsClear e.bot := bot' ▸ p.isClear_botTypeOf clear k
  rw [Metrics.Ending.concerns, decide_eq_decide, Runner.sharesSeries_iff_of_isClear own other]
  exact and_congr eq_comm eq_comm

/-- Keys do not depend on the order of labels. They tell names and labels apart as long as no name
holds an opening brace, no label key an equals sign and no label value a comma. The series of two
commands have the same keys if the commands are the same, or if the text between bot type and
identifier is also found within one of them and the rest fits. In every run the series of a command
are what comes of the executions that have ended of commands with the same keys; each of these was
begun under its label, a pending step under the name of all steps. Where the text is found in no bot
type, only the command's own executions count. -/
theorem series_are_apart_up_to_text :
    (∀ name labels labels', (labels.map Prod.fst).Nodup → labels.Perm labels' →
      Metrics.seriesKey name labels = Metrics.seriesKey name labels') ∧
    (∀ name name' labels labels', Metrics.IsPlain name → Metrics.IsPlain name' →
      Metrics.IsReadable labels → Metrics.IsReadable labels' → (labels.map Prod.fst).Nodup →
      (Metrics.seriesKey name labels = Metrics.seriesKey name' labels' ↔
        name = name' ∧ labels.Perm labels')) ∧
    (∀ name bot label bot' label',
      (Metrics.seriesKey name (Runner.commandLabels bot label) =
          Metrics.seriesKey name (Runner.commandLabels bot' label') ↔
        (bot = bot' ∧ label = label') ∨
        (∃ x, bot'.name = bot.name ++ ",command=" ++ x ∧ label = x ++ ",command=" ++ label') ∨
        (∃ x, bot.name = bot'.name ++ ",command=" ++ x ∧ label' = x ++ ",command=" ++ label))) ∧
    (∀ name bot label e, Metrics.Ending.concerns bot label e = true ↔
      Metrics.seriesKey name (Runner.commandLabels bot label) =
        Metrics.seriesKey name (Runner.commandLabels e.bot e.label)) ∧
    (∀ n bot label, (p.start.after schedule n).metrics.seriesOf bot label =
      ({} : Metrics.CommandSeries).addAll (Metrics.Ending.concerns bot label)
        (p.start.conclusions schedule n)) ∧
    (∀ n, ∀ e ∈ p.start.conclusions schedule n, ∃ i pending,
      Runner.IsBegunIn (p.start.after schedule n).trace e.bot e.label i pending) ∧
    ((∀ bot ∈ p.bots, Runner.IsClear bot.botType) → ∀ n bot label, Runner.IsClear bot →
      (p.start.after schedule n).metrics.seriesOf bot label =
        ({} : Metrics.CommandSeries).addAll (fun e => e.bot = bot ∧ e.label = label)
          (p.start.conclusions schedule n)) := by
  refine ⟨fun name _ _ distinct perm => Metrics.seriesKey_eq_of_perm name distinct perm,
    fun _ _ _ _ plain plain' readable readable' distinct =>
      Metrics.seriesKey_eq_iff_perm plain plain' readable readable' distinct,
    fun name bot label bot' label' => ?_, fun name bot label e => ?_, p.seriesOf_after schedule,
    fun n e ended => p.exists_begin_of_mem_conclusions schedule ended,
    fun clear n bot label own => p.seriesOf_after_of_isClear schedule clear n own label⟩
  · exact (Runner.seriesKey_eq_iff_sharesSeries name).trans Runner.sharesSeries_iff
  · exact decide_eq_true_iff.trans (Runner.seriesKey_eq_iff_sharesSeries name).symm

end RunnerPlan

/-! ## Runs of two bots -/

namespace Namesakes

/-- A command that takes every message and fails. -/
def draft (bot : BotType) (identifier : String) : CommandDraft Unit where
  botType := some bot
  identifier := some identifier
  matcher := some (.predicate fun _ => .ok true)
  executor := some (.fixed fun _ => .fail ["no"])

/-- What is made of a draft. -/
def template (bot : BotType) (identifier : String) : CommandTemplate Unit where
  botType := bot
  identifier
  matcher := .predicate fun _ => .ok true
  executor := .fixed fun _ => .fail ["no"]

/-- Two bots with one command each. -/
def plan (bot : BotType) (identifier : String) (bot' : BotType) (identifier' : String) :
    RunnerPlan Unit where
  language _ _ := .done {}
  origin := default
  settings := { worker := { workers := 1 } }
  bots := [{ botType := bot }, { botType := bot' }]
  registry := .ofTemplates [template bot identifier, template bot' identifier'] []

/-- The first bot hands over a message, and a worker carries out its job. -/
def moves : List Runner.Move :=
  [.act (.supervisor 0), .tell 0 { sender := "ann", message := "hello", replyTo := ⟨"ann"⟩ },
    .act (.runLoop 0), .act (.runLoop 0), .act (.intake 0), .act (.intake 0)] ++
    List.replicate 3 (.act (.worker 0))

def schedule (n : Nat) : Runner.Move := moves[n]?.getD (.pass 0)

def slack : BotType := ⟨"slack"⟩

def discord : BotType := ⟨"discord"⟩

/-- A bot type with a text that belongs in front of an identifier. -/
def slackWithCommand : BotType := ⟨"slack,command=a"⟩

/-- Two commands of one identifier and different bot types: the execution of one is counted in its
own series only. -/
theorem executions_count_in_own_series :
    let labels : Labels := [("bot_type", "slack"), ("command", "echo")]
    let labels' : Labels := [("command", "echo"), ("bot_type", "slack")]
    let r := (plan slack "echo" discord "echo").start.after schedule 9
    (labels.map Prod.fst).Nodup ∧ labels.Perm labels' ∧ Metrics.IsPlain "inputs_total" ∧
    Metrics.IsReadable labels ∧ Metrics.IsReadable labels' ∧
    Metrics.seriesKey "inputs_total" labels = Metrics.seriesKey "inputs_total" labels' ∧
    Runner.IsClear slack ∧ Runner.IsClear discord ∧
    r.metrics.seriesOf slack "echo" = ⟨1, some ⟨1, 0, 0⟩, 1⟩ ∧
    r.metrics.seriesOf discord "echo" = {} := by
  intro labels labels' r
  have distinct : (labels.map Prod.fst).Nodup := by decide
  have perm : labels.Perm labels' := by decide
  have plain : Metrics.IsPlain "inputs_total" := by decide
  have readable : Metrics.IsReadable labels := by decide
  have readable' : Metrics.IsReadable labels' := by decide
  have first : Runner.IsClear slack := by decide
  have second : Runner.IsClear discord := by decide
  have clear : ∀ bot ∈ (plan slack "echo" discord "echo").bots, Runner.IsClear bot.botType := by
    intro bot hbot
    rcases List.mem_pair.mp hbot with rfl | rfl
    · exact first
    · exact second
  have ended : (plan slack "echo" discord "echo").start.conclusions schedule 9 =
      [⟨slack, "echo", 0, true⟩] := by decide +kernel
  obtain ⟨-, keys, -, -, -, -, own⟩ :=
    (plan slack "echo" discord "echo").series_are_apart_up_to_text schedule
  refine ⟨distinct, perm, plain, readable, readable',
    (keys _ _ _ _ plain plain readable readable' distinct).mpr ⟨rfl, perm⟩, first, second, ?_, ?_⟩
  · rw [own clear 9 slack "echo" first, ended]
    decide
  · rw [own clear 9 discord "echo" second, ended]
    decide

/-- Different names and labels of one key, and two commands that are made of drafts: the execution
of the first is counted in all series of the second. -/
theorem executions_count_in_series_of_other_command :
    let p := plan slack "a,command=b" slackWithCommand "b"
    Metrics.seriesKey "a" [("b", "c")] = Metrics.seriesKey "a\x7bb=c\x7d" [] ∧
    Metrics.seriesKey "a" [("b=c", "d")] = Metrics.seriesKey "a" [("b", "c=d")] ∧
    Metrics.seriesKey "a" [("bot_type", "b,command=c")] =
      Metrics.seriesKey "a" [("bot_type", "b"), ("command", "c")] ∧
    (draft slack "a,command=b").finish = .ok (template slack "a,command=b") ∧
    (draft slackWithCommand "b").finish = .ok (template slackWithCommand "b") ∧
    (slack, "a,command=b") ≠ (slackWithCommand, "b") ∧
    p.start.conclusions schedule 9 = [⟨slack, "a,command=b", 0, true⟩] ∧
    p.start.metrics.seriesOf slackWithCommand "b" = {} ∧
    (p.start.after schedule 9).metrics.seriesOf slackWithCommand "b" =
      ⟨1, some ⟨1, 0, 0⟩, 1⟩ := by
  intro p
  have shared : Metrics.seriesKey "a" [("bot_type", "b"), ("command", "c")] =
      "a\x7bbot_type=b,command=c\x7d" :=
    (Runner.seriesKey_commandLabels "a" ⟨"b"⟩ "c").trans (by decide)
  have ended : p.start.conclusions schedule 9 = [⟨slack, "a,command=b", 0, true⟩] := by
    decide +kernel
  refine ⟨by decide +kernel, by decide +kernel, ?_, rfl, rfl, by decide, ended,
    by decide +kernel, ?_⟩
  · rw [shared]
    decide +kernel
  · rw [p.seriesOf_after, ended]
    decide

end Namesakes

end Switchboard
