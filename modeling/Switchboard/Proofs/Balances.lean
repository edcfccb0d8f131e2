import Switchboard.Proofs.Counters
import Switchboard.Proofs.FiringTimers

/-!
# What a move counts

Every move writes what it counts into the metrics (`Record`), and what happens by it into the trace
(`Runner.Writes`). The two are in balance with the jobs on their way (`Balance`): an input is
counted when it is accepted; a message is settled when its execution has ended, when the bot has
responded, or by a panic; a firing is counted before its job is put on its way, and a task is begun
once.

`Runner.tallies_move` says so of every move of a runner whose pool is open, from what intakes
(`Entry`), timers (`TimerMove`) and workers (`Labour.balance`, `exists_writes_task`) write.
-/

namespace Switchboard

/-! ## What is counted -/

namespace Happening

variable {κ : Type}

/-- An input was accepted. -/
def isInput : Happening κ → Bool
  | accepted .. => true
  | _ => false

/-- A message was accepted. -/
def isMessage : Happening κ → Bool
  | accepted _ i => i.kind == .message
  | _ => false

/-- A bot responded, without a panic. -/
def isAnswer : Happening κ → Bool
  | responded _ _ (.panicked _) => false
  | responded .. => true
  | _ => false

/-- The job of an input panicked. -/
def isTalkPanic : Happening κ → Bool
  | panicked sender _ => sender.isSome
  | _ => false

/-- The job of a task panicked. -/
def isTaskPanic : Happening κ → Bool
  | panicked sender _ => sender.isNone
  | _ => false

/-- The execution of a task was begun. -/
def isTaskStart : Happening κ → Bool
  | performed _ => true
  | _ => false

/-- Whether a happening has to do with what is counted. -/
def isCounted : Happening κ → Bool
  | accepted .. | responded .. | panicked .. | performed _ => true
  | _ => false

/-- All that is told apart above is counted. -/
theorem eq_false_of_aside {e : Happening κ} (aside : e.isCounted = false) :
    e.isInput = false ∧ e.isMessage = false ∧ e.isAnswer = false ∧ e.isTalkPanic = false ∧
      e.isTaskPanic = false ∧ e.isTaskStart = false := by
  cases e <;> first | exact ⟨rfl, rfl, rfl, rfl, rfl, rfl⟩ | cases aside

end Happening

namespace Work

variable {κ : Type}

/-- The job of a message whose execution has not ended. -/
def isUnsettled (w : Work κ) : Bool :=
  match w.job, w.stage with
  | .converse .., .ready => true
  | .converse .., .talking .. => true
  | _, _ => false

/-- The job of a task that has not begun. -/
def isUnbegun (w : Work κ) : Bool :=
  match w.job, w.stage with
  | .perform .., .ready => true
  | _, _ => false

end Work

namespace Runner

variable {κ : Type} {r r' r'' : Runner κ} {es es' : List (Happening κ)} {rs rs' : List Record}
  {n k : Nat} {w : Work κ}

/-- What has happened of what is counted. -/
def account (r : Runner κ) : List (Happening κ) := r.trace.filter Happening.isCounted

/-- How many messages are not settled. -/
def unsettled (r : Runner κ) : Nat := r.works.countP fun w => w.isUnsettled = true

/-- How many tasks are to begin. -/
def unbegun (r : Runner κ) : Nat := r.taskWorks.countP fun w => w.isUnbegun = true

/-- What happens and what is counted are in balance, with as many messages that are not settled and
as many tasks that have not begun before and after. -/
@[mk_iff]
structure Balance (es : List (Happening κ)) (rs : List Record)
    (messages messages' tasks tasks' : Nat) : Prop where
  inputs : rs.countP (Record.counts inputCounter) = es.countP Happening.isInput
  panics : rs.countP (Record.counts Pool.panicCounter) =
    es.countP Happening.isTalkPanic + es.countP Happening.isTaskPanic
  messages : rs.countP (Record.counts executionCounter) + es.countP Happening.isAnswer +
    es.countP Happening.isTalkPanic + messages' = es.countP Happening.isMessage + messages
  tasks : rs.countP (Record.counts firingCounter) + tasks = es.countP Happening.isTaskStart + tasks'

namespace Balance

variable {a a' a'' b b' b'' : Nat}

theorem nothing (messages tasks : Nat) :
    Balance ([] : List (Happening κ)) [] messages messages tasks tasks :=
  ⟨rfl, rfl, rfl, rfl⟩

theorem append (h : Balance es rs a a' b b') (h' : Balance es' rs' a' a'' b' b'') :
    Balance (es ++ es') (rs ++ rs') a a'' b b'' := by
  obtain ⟨inputs, panics, messages, tasks⟩ := h
  obtain ⟨inputs', panics', messages', tasks'⟩ := h'
  constructor <;> simp only [List.countP_append] <;> omega

/-- Messages and tasks that have nothing to do with it. -/
theorem add (h : Balance es rs a a' b b') (c d : Nat) :
    Balance es rs (a + c) (a' + c) (b + d) (b' + d) :=
  ⟨h.inputs, h.panics, by have := h.messages; omega, by have := h.tasks; omega⟩

end Balance

/-- What of a move can be read in the account and in the metrics. -/
structure Writes (r r' : Runner κ) (es : List (Happening κ)) (rs : List Record) : Prop where
  account : r'.account = r.account ++ es
  metrics : r'.metrics = rs.foldl Metrics.book r.metrics

namespace Writes

theorem refl (r : Runner κ) : r.Writes r [] [] := ⟨(List.append_nil _).symm, rfl⟩

/-- A change of fields where nothing is written. -/
theorem update (h : r.Writes r' es rs) (trace : r''.trace = r'.trace)
    (metrics : r''.metrics = r'.metrics) : r.Writes r'' es rs :=
  ⟨by rw [Runner.account, trace]; exact h.account, metrics.trans h.metrics⟩

theorem setLane (h : r.Writes r' es rs) (k : Nat) (f : Lane κ → Lane κ) :
    r.Writes (r'.setLane k f) es rs :=
  h.update rfl rfl

/-- Something happens that is not counted. -/
theorem emit (h : r.Writes r' es rs) {e : Happening κ} (aside : e.isCounted = false) :
    r.Writes (r'.emit e) es rs := by
  refine ⟨?_, h.metrics⟩
  rw [← h.account, Runner.account, Runner.emit, List.filter_append,
    List.filter_cons_of_neg (by simp [aside]), List.filter_nil, List.append_nil, Runner.account]

theorem giveUp (h : r.Writes r' es rs) (n : Nat) (job : Job κ) (m : String) :
    r.Writes (r'.giveUp n job m) (es ++ [.panicked job.sender? m]) (rs ++ [.panic]) := by
  refine ⟨?_, ?_⟩
  · rw [← List.append_assoc, ← h.account]
    simp [Runner.account, Runner.giveUp, Runner.emit, Runner.finish, List.filter_append,
      Happening.isCounted]
  · rw [List.foldl_append, ← h.metrics]
    rfl

theorem append (h : r.Writes r' es rs) (h' : r'.Writes r'' es' rs') :
    r.Writes r'' (es ++ es') (rs ++ rs') :=
  ⟨by rw [h'.account, h.account, List.append_assoc],
    by rw [h'.metrics, h.metrics, List.foldl_append]⟩

end Writes

/-! ## Lanes and the background -/

/-- What anybody but a worker or a timer writes: nothing, an input that is accepted, or the length
of the queue. -/
inductive Entry : List (Happening κ) → Option Record → Prop
  | nothing : Entry [] none
  | input (bot : BotType) (i : Input) : Entry [.accepted bot i] (some (.input bot))
  | length (n : Nat) : Entry [] (some (.queueLength n))

theorem writes_errorStep (r : Runner κ) (k : Nat) : r.Writes (r.errorStep k) [] [] := by
  have refl := Writes.refl r
  unfold errorStep
  split
  · exact refl
  · split
    · exact refl
    · exact (refl.emit rfl).setLane ..
    · exact (refl.setLane k _).setLane ..
    · split
      · exact refl.setLane ..
      · split
        · exact refl.setLane ..
        · exact (refl.emit (e := .noted _) rfl).setLane ..

theorem writes_supervisorStep (r : Runner κ) (k : Nat) : r.Writes (r.supervisorStep k) [] [] := by
  have refl := Writes.refl r
  unfold supervisorStep
  split
  · exact refl
  · dsimp only
    split
    · exact refl.update rfl rfl
    · split
      · exact (refl.emit (e := .noted .runLoopFailed) rfl).update rfl rfl
      · exact refl.update rfl rfl
    · exact refl.setLane ..
    · exact refl

theorem writes_accept (r : Runner κ) (k : Nat) (i : Input) :
    r.Writes (r.accept k i) [.accepted (r.botTypeOf k) i] [.input (r.botTypeOf k)] := by
  have accepted : r.Writes ({ r with
      metrics := r.metrics.increment inputCounter 1 (botLabels (r.botTypeOf k)) }.emit
        (.accepted (r.botTypeOf k) i))
      [.accepted (r.botTypeOf k) i] [.input (r.botTypeOf k)] := by
    refine ⟨?_, rfl⟩
    simp [account, emit, List.filter_append, Happening.isCounted]
  unfold accept
  dsimp only
  split
  · exact accepted.update rfl rfl
  · exact accepted.update rfl rfl
  · exact accepted.update rfl rfl

theorem exists_writes_intakeStep (r : Runner κ) (k : Nat) :
    ∃ es x, r.Writes (r.intakeStep k) es x.toList ∧ Entry es x := by
  have refl := Writes.refl r
  unfold intakeStep
  split
  · exact ⟨[], none, refl, .nothing⟩
  · split
    · exact ⟨[], none, refl, .nothing⟩
    · refine ⟨[], none, ?_, .nothing⟩
      unfold offer
      split
      · exact refl.setLane ..
      · split
        · exact refl.update rfl rfl
        · exact refl.update rfl rfl
    · refine ⟨[], none, ?_, .nothing⟩
      unfold enter
      dsimp only
      split
      · exact refl.update rfl rfl
      · split
        · exact refl
        · exact refl.update rfl rfl
    · split
      · exact ⟨[], none, refl.setLane .., .nothing⟩
      · split
        · exact ⟨[], none, refl, .nothing⟩
        · next i rest _ =>
          exact ⟨_, some (.input _), (refl.setLane k _).append (writes_accept _ k i), .input _ i⟩

theorem exists_writes_step (r : Runner κ) {a : Actor} (worker : ∀ n, a ≠ .worker n)
    (timer : ∀ n, a ≠ .timer n) : ∃ es x, r.Writes (step a r) es x.toList ∧ Entry es x := by
  have refl := Writes.refl r
  cases a with
  | worker n => exact absurd rfl (worker n)
  | timer n => exact absurd rfl (timer n)
  | intake k => exact exists_writes_intakeStep r k
  | errorLoop k => exact ⟨[], none, writes_errorStep r k, .nothing⟩
  | supervisor k => exact ⟨[], none, writes_supervisorStep r k, .nothing⟩
  | gauge => exact ⟨[], some (.queueLength _), ⟨(List.append_nil _).symm, rfl⟩, .length _⟩
  | course =>
    refine ⟨[], none, ?_, .nothing⟩
    show r.Writes r.courseStep _ _
    unfold courseStep
    split
    all_goals exact refl.update rfl rfl
  | planner =>
    refine ⟨[], none, ?_, .nothing⟩
    show r.Writes r.plannerStep _ _
    unfold plannerStep
    split
    · exact refl
    · exact refl.update rfl rfl
  | watcher =>
    refine ⟨[], none, ⟨?_, rfl⟩, .nothing⟩
    simp [account, step, watch, Happening.isCounted, List.filter_append]
  | runLoop k => exact ⟨[], none, refl.setLane .., .nothing⟩
  | timerExit n => exact ⟨[], none, refl.update rfl rfl, .nothing⟩
  | plannerExit => exact ⟨[], none, refl.update rfl rfl, .nothing⟩
  | sweeperExit => exact ⟨[], none, refl.update rfl rfl, .nothing⟩
  | sweeper => exact ⟨[], none, refl.update rfl rfl, .nothing⟩
  | gaugeExit => exact ⟨[], none, refl.update rfl rfl, .nothing⟩

theorem exists_writes_move (r : Runner κ) {m : Move} (worker : ∀ n, m ≠ .act (.worker n))
    (timer : ∀ n, m ≠ .act (.timer n)) : ∃ es x, r.Writes (r.move m) es x.toList ∧ Entry es x := by
  have refl := Writes.refl r
  cases m with
  | act a =>
    simp only [move]
    split
    · exact exists_writes_step r (fun n same => worker n (same ▸ rfl))
        (fun n same => timer n (same ▸ rfl))
    · exact ⟨[], none, refl, .nothing⟩
  | tell k i => exact ⟨[], none, refl.setLane .., .nothing⟩
  | raise k e => exact ⟨[], none, refl.setLane .., .nothing⟩
  | hangUp k => exact ⟨[], none, refl.setLane .., .nothing⟩
  | _ => exact ⟨[], none, refl.update rfl rfl, .nothing⟩

/-! ## Moves of others -/

/-- Whoever counts only what is counted may as well read the account. -/
theorem countP_filter_isCounted {q : Happening κ → Bool}
    (aside : ∀ e, e.isCounted = false → q e = false) (es : List (Happening κ)) :
    (es.filter Happening.isCounted).countP q = es.countP q := by
  rw [List.countP_filter]
  refine List.countP_congr fun e _ => ?_
  cases counted : e.isCounted with
  | true => simp
  | false => simp [aside e counted]

theorem countP_isMessage_filter (es : List (Happening κ)) :
    (es.filter Happening.isCounted).countP Happening.isMessage = es.countP Happening.isMessage :=
  countP_filter_isCounted (fun _ aside => (Happening.eq_false_of_aside aside).2.1) es

/-- What happens that is not counted leaves the balance as it is. -/
theorem balance_filter {a a' b b' : Nat} :
    Balance (es.filter Happening.isCounted) rs a a' b b' ↔ Balance es rs a a' b b' := by
  have inputs := countP_filter_isCounted (q := Happening.isInput)
    (fun _ aside => (Happening.eq_false_of_aside aside).1) es
  have answers := countP_filter_isCounted (q := Happening.isAnswer)
    (fun _ aside => (Happening.eq_false_of_aside aside).2.2.1) es
  have talkPanics := countP_filter_isCounted (q := Happening.isTalkPanic)
    (fun _ aside => (Happening.eq_false_of_aside aside).2.2.2.1) es
  have taskPanics := countP_filter_isCounted (q := Happening.isTaskPanic)
    (fun _ aside => (Happening.eq_false_of_aside aside).2.2.2.2.1) es
  have taskStarts := countP_filter_isCounted (q := Happening.isTaskStart)
    (fun _ aside => (Happening.eq_false_of_aside aside).2.2.2.2.2) es
  simp only [balance_iff, inputs, countP_isMessage_filter, answers, talkPanics, taskPanics,
    taskStarts]

/-- What happens of what is counted, read off all that happens. -/
theorem account_eq (trace : r'.trace = r.trace ++ es) (account : r'.account = r.account ++ es') :
    es.filter Happening.isCounted = es' := by
  rw [Runner.account, trace, List.filter_append] at account
  exact List.append_cancel_left account

/-- Unless a worker moves, messages that are accepted are on their way, and none is settled. -/
theorem Effect.messages {m : Move} (h : r.Effect m r' es) (isOpen : r.pool.closed = false)
    (worker : ∀ n, m ≠ .act (.worker n)) :
    r'.unsettled = es.countP Happening.isMessage + r.unsettled := by
  cases h with
  | quiet silent works =>
    have none : es.countP Happening.isMessage = 0 := by
      refine List.countP_eq_zero.mpr fun e he message => ?_
      have aside := silent e he
      cases e <;> first | cases message | cases aside
    rw [none, zero_add, unsettled, works, unsettled]
  | drop closed => exact absurd (isOpen.symm.trans closed) Bool.false_ne_true
  | sweep works => rw [unsettled, works, List.countP_nil, zero_add, unsettled]
  | abort k i kind works =>
    rw [unsettled, works, List.countP_singleton, Happening.isMessage, kind]
    simp [unsettled]
  | help k i kind _ works =>
    rw [unsettled, works, List.countP_singleton, Happening.isMessage, kind, Multiset.countP_cons]
    simp [unsettled, helpJob, Work.isUnsettled]
  | message k i kind _ works =>
    rw [unsettled, works, List.countP_singleton, Happening.isMessage, kind, Multiset.countP_cons]
    simp [unsettled, Work.isUnsettled, Nat.add_comm]
  | labour n => exact absurd rfl (worker n)

/-- What a move writes is in balance, and is one record at most. -/
def Tallies (r r' : Runner κ) : Prop :=
  ∃ es, ∃ x : Option Record, r.Writes r' es x.toList ∧
    Balance es x.toList r.unsettled r'.unsettled r.unbegun r'.unbegun

/-- The jobs on their way are the same, and nothing is counted. -/
theorem tallies_of_works (writes : r.Writes r' [] []) (works : r'.works = r.works)
    (taskWorks : r'.taskWorks = r.taskWorks) : r.Tallies r' := by
  refine ⟨[], none, writes, ?_⟩
  rw [unsettled, unsettled, works, unbegun, unbegun, taskWorks]
  exact .nothing ..

theorem tallies_refl (r : Runner κ) : r.Tallies r := tallies_of_works (.refl r) rfl rfl

theorem Entry.balance {x : Option Record} (h : Entry es x) (messages tasks : Nat) :
    Balance es x.toList messages (es.countP Happening.isMessage + messages) tasks tasks := by
  cases h with
  | nothing => exact ⟨rfl, rfl, Nat.zero_add _, rfl⟩
  | length n => exact ⟨rfl, rfl, Nat.zero_add _, rfl⟩
  | input bot i => exact ⟨rfl, rfl, Nat.zero_add _, rfl⟩

/-- What lanes and the background do. -/
theorem tallies_other {m : Move} (orderly : r.IsOrderly) (fit : r.IsFit)
    (isOpen : r.pool.closed = false) (worker : ∀ n, m ≠ .act (.worker n))
    (timer : ∀ n, m ≠ .act (.timer n)) : r.Tallies (r.move m) := by
  obtain ⟨es, x, writes, entry⟩ := exists_writes_move r worker timer
  obtain ⟨-, all, trace, effect⟩ := move_spec orderly fit m
  have messages : (r.move m).unsettled = es.countP Happening.isMessage + r.unsettled := by
    rw [effect.messages isOpen worker, ← countP_isMessage_filter, account_eq trace writes.account]
  have tasks : (r.move m).unbegun = r.unbegun := by
    rw [unbegun, (keepsTasks_move orderly worker timer).works, unbegun]
  refine ⟨es, x, writes, ?_⟩
  rw [messages, tasks]
  exact entry.balance ..

theorem account_emit {e : Happening κ} (aside : e.isCounted = false) :
    (r.emit e).account = r.account :=
  ((Writes.refl r).emit aside).account.trans (List.append_nil _)

/-- Firings are not in the account: tasks are, when they begin. -/
theorem account_timerStep (r : Runner κ) (n : Nat) : (r.timerStep n).account = r.account := by
  unfold timerStep
  split
  · rfl
  · next t _ =>
    split
    · dsimp only
      split
      · rfl
      · split <;> rfl
    · have fired : ({ r with timers := r.timers.update n fun t => t.fire r.now }.emit
          (.fired t.task.key)).account = r.account := account_emit rfl
      unfold fire
      dsimp only
      split
      · exact (account_emit (e := .noted .taskWithoutBot) rfl).trans fired
      · split
        · exact fired
        · split <;> exact fired

theorem tallies_timer (orderly : r.IsOrderly) (served : r.IsServed)
    (isOpen : r.pool.closed = false) (n : Nat) : r.Tallies (r.timerStep n) := by
  have account : (r.timerStep n).account = r.account ++ [] :=
    (account_timerStep r n).trans (List.append_nil _).symm
  have messages : (r.timerStep n).unsettled = r.unsettled := by
    obtain ⟨all, work⟩ := exists_isTaskWork_timerStep orderly n
    have effect := work.effect (.act (.timer n))
    rw [effect.messages isOpen (by rintro k ⟨⟩), ← countP_isMessage_filter,
      account_eq work.trace account, List.countP_nil, zero_add]
  rw [Tallies, messages]
  cases (timerMove_timerStep orderly served isOpen n).2 with
  | keeps works metrics =>
    rw [unbegun, unbegun, works]
    exact ⟨[], none, ⟨account, metrics⟩, .nothing ..⟩
  | fires k t works metrics =>
    refine ⟨[], some (.firing t.identifier), ⟨account, metrics⟩, ?_⟩
    rw [unbegun, unbegun, works, Multiset.countP_cons]
    refine ⟨rfl, rfl, rfl, ?_⟩
    simp [Record.counts, Record.counter?, Work.isUnbegun, Nat.add_comm]

/-! ## Workers -/

section Workers

variable {p : Pool (Work κ)} {own : Work κ → Bool} {next : Option (Work κ)}

theorem exists_jobs_putDown (h : p.IsOrderly own) (hands : p.job? n = some w) :
    ∃ rest, p.jobs own = pick own [w] + rest ∧
      ∀ next, (putDown p n next).jobs own = pick own next.toList + rest := by
  obtain ⟨rest, before, changed, finished⟩ := Pool.exists_jobs_eq h hands
  refine ⟨rest, before, fun next => ?_⟩
  cases next with
  | none => exact finished.trans (zero_add rest).symm
  | some v => exact changed v

/-- Jobs of another kind are not touched. -/
theorem jobs_putDown_other (h : p.IsOrderly own) (hands : p.job? n = some w)
    (other : own w = false) (others : ∀ v, next = some v → own v = false) :
    (putDown p n next).jobs own = p.jobs own := by
  obtain ⟨rest, before, after⟩ := exists_jobs_putDown h hands
  rw [before, after, pick_of_not_own other]
  cases next with
  | none => rfl
  | some v => rw [Option.toList_some, pick_of_not_own (others v rfl)]

end Workers

/-- No bot panics when it is to send. -/
def IsPolite (r : Runner κ) : Prop := ∀ l ∈ r.lanes, ∀ o m, l.bot.send o ≠ .panicked m

theorem sendNext_of_lane {l : Lane κ} (r : Runner κ) (n : Nat) (w : Work κ) (o : Output)
    (rest : List Output) (lane : r.lanes[w.job.lane]? = some l)
    (kept : ∀ m, l.bot.send o ≠ .panicked m) :
    r.sendNext n w o rest =
      (r.emit (.sent l.botType w.job.sender? o (l.send o))).setStage n w (.sending rest) := by
  cases sent : l.send o with
  | panicked m => exact absurd (Lane.send_eq_panicked.mp sent) (kept m)
  | done u => simp only [sendNext, lane, sent]
  | failed c => simp only [sendNext, lane, sent]

/-- What is counted of a worker that goes on with the job of an input. -/
theorem Labour.balance {next : Option (Work κ)} {conversations : Conversations κ}
    (h : Labour r w next conversations es) (polite : r.IsPolite) (n : Nat) :
    ∃ x : Option Record, (r.carryOn n w).metrics = x.toList.foldl Metrics.book r.metrics ∧
      Balance es x.toList ([w].countP Work.isUnsettled) (next.toList.countP Work.isUnsettled)
        0 0 := by
  cases h with
  | deliver k sender o => exact ⟨none, rfl, rfl, rfl, rfl, rfl⟩
  | resume k i step => exact ⟨none, rfl, rfl, rfl, rfl, rfl⟩
  | execute k i c matched =>
    refine ⟨none, ?_, rfl, rfl, rfl, rfl⟩
    simp [carryOn, begin, Job.lane, matched, setStage, emit]
  | respond k i l lane unmatched =>
    have responds : r.carryOn n ⟨.converse k i none, .ready⟩ =
        r.respond n (.converse k i none) i := by
      simp [carryOn, begin, Job.lane, unmatched]
    simp only [responds, Runner.respond, Job.lane, lane]
    cases outcome : l.bot.respond i with
    | panicked m => exact ⟨some .panic, rfl, rfl, rfl, rfl, rfl⟩
    | done u => exact ⟨none, rfl, rfl, rfl, rfl, rfl⟩
    | failed c => exact ⟨none, rfl, rfl, rfl, rfl, rfl⟩
  | searchPanics k i m broken =>
    refine ⟨some .panic, ?_, rfl, rfl, rfl, rfl⟩
    simp only [carryOn, begin, Job.lane, broken]
    rfl
  | wait k i pending label since e going =>
    refine ⟨none, ?_, rfl, rfl, rfl, rfl⟩
    simp [carryOn, going, setStage]
  -- From here on the execution has ended, which settles the message, whatever is sent afterwards.
  | conclude k i pending label since e t ended last =>
    refine ⟨some (.execution (r.botTypeOf k) label (r.now - since) false), ?_, rfl, rfl, rfl, rfl⟩
    simp only [carryOn, ended, concludeTalk, last]
    rfl
  | store k i pending label since e t step ended next =>
    refine ⟨some (.execution (r.botTypeOf k) label (r.now - since) false), ?_, rfl, rfl, rfl, rfl⟩
    simp only [carryOn, ended, concludeTalk, next]
    rfl
  | fail k i pending label since e c ended =>
    refine ⟨some (.execution (r.botTypeOf k) label (r.now - since) true), ?_, rfl, rfl, rfl, rfl⟩
    simp only [carryOn, ended, concludeTalk]
    rfl
  | panic k i pending label since e m ended =>
    refine ⟨some .panic, ?_, rfl, rfl, rfl, rfl⟩
    simp only [carryOn, ended, concludeTalk]
    rfl
  | send job o rest l lane kept =>
    have sends : r.carryOn n ⟨job, .sending (o :: rest)⟩ =
        r.sendNext n ⟨job, .sending (o :: rest)⟩ o rest := by
      cases job <;> rfl
    rw [sends, sendNext_of_lane r n ⟨job, .sending (o :: rest)⟩ o rest lane kept]
    cases job <;> exact ⟨none, rfl, rfl, rfl, rfl, rfl⟩
  -- The message would be settled twice: by its execution and by the panic.
  | sendPanics job o rest l lane m lost =>
    exact absurd lost (polite l (List.mem_of_getElem? lane) o m)
  | finish job => cases job <;> exact ⟨none, rfl, rfl, rfl, rfl, rfl⟩

/-- What a worker does with the job of a task, and what is counted of it. -/
theorem exists_writes_task (task : w.ofLane = false) (r : Runner κ) (n : Nat) :
    ∃ next es, ∃ x : Option Record, (∀ v, next = some v → v.ofLane = false) ∧
      (r.carryOn n w).pool = putDown r.pool n next ∧ (r.carryOn n w).lanes = r.lanes ∧
      r.Writes (r.carryOn n w) es x.toList ∧
      Balance es x.toList 0 0 ([w].countP Work.isUnbegun) (next.toList.countP Work.isUnbegun) := by
  have refl := Writes.refl r
  obtain ⟨job, stage⟩ := w
  cases job with
  | deliver k sender o => cases task
  | converse k i pending => cases task
  | perform k t =>
    have goesOn : ∀ stage, ∀ v, some (⟨.perform k t, stage⟩ : Work κ) = some v →
        v.ofLane = false := by
      rintro stage v ⟨⟩
      rfl
    have gone : ∀ v, (none : Option (Work κ)) = some v → v.ofLane = false := by simp
    cases stage with
    | ready =>
      refine ⟨some ⟨.perform k t, .working _⟩, [.performed t.key], none, goesOn _, rfl, rfl,
        ⟨?_, rfl⟩, ⟨rfl, rfl, rfl, rfl⟩⟩
      simp [account, carryOn, begin, setStage, emit, List.filter_append, Happening.isCounted]
    | talking label since e =>
      exact ⟨none, [], none, gone, rfl, rfl, refl.update rfl rfl, ⟨rfl, rfl, rfl, rfl⟩⟩
    | working e =>
      simp only [carryOn]
      cases e.outcome? with
      | none =>
        exact ⟨some ⟨.perform k t, .working _⟩, [], none, goesOn _, rfl, rfl, refl.update rfl rfl,
          ⟨rfl, rfl, rfl, rfl⟩⟩
      | some outcome =>
        cases outcome with
        | panicked m =>
          exact ⟨none, _, some .panic, gone, rfl, rfl, refl.giveUp n _ m, ⟨rfl, rfl, rfl, rfl⟩⟩
        | failed c =>
          exact ⟨none, [], none, gone, rfl, rfl,
            (refl.emit (e := .taskFailed t.key c) rfl).update rfl rfl, ⟨rfl, rfl, rfl, rfl⟩⟩
        | done results =>
          simp only [concludeTask, foldl_note]
          refine ⟨some ⟨.perform k t, .sending (t.outputs results)⟩, [], none, goesOn _, rfl, rfl,
            ⟨?_, rfl⟩, ⟨rfl, rfl, rfl, rfl⟩⟩
          simp [account, setStage, List.filter_append, Happening.isCounted]
    | sending outputs =>
      cases outputs with
      | nil => exact ⟨none, [], none, gone, rfl, rfl, refl.update rfl rfl, ⟨rfl, rfl, rfl, rfl⟩⟩
      | cons o rest =>
        simp only [carryOn, sendNext]
        cases r.lanes[(Job.perform k t : Job κ).lane]? with
        | none => exact ⟨none, [], none, gone, rfl, rfl, refl.update rfl rfl, ⟨rfl, rfl, rfl, rfl⟩⟩
        | some l =>
          have sent := refl.emit (e := .sent l.botType none o (l.send o)) rfl
          dsimp only
          cases outcome : l.send o with
          | panicked m =>
            rw [outcome] at sent
            exact ⟨none, _, some .panic, gone, rfl, rfl, sent.giveUp n _ m, ⟨rfl, rfl, rfl, rfl⟩⟩
          | done u =>
            rw [outcome] at sent
            exact ⟨some ⟨.perform k t, .sending rest⟩, [], none, goesOn _, rfl, rfl,
              sent.update rfl rfl, ⟨rfl, rfl, rfl, rfl⟩⟩
          | failed c =>
            rw [outcome] at sent
            exact ⟨some ⟨.perform k t, .sending rest⟩, [], none, goesOn _, rfl, rfl,
              sent.update rfl rfl, ⟨rfl, rfl, rfl, rfl⟩⟩

theorem countP_toList_add (next : Option (Work κ)) (rest : Multiset (Work κ)) (q : Work κ → Bool) :
    ((next.toList : Multiset (Work κ)) + rest).countP (fun w => q w = true) =
      next.toList.countP q + rest.countP fun w => q w = true := by
  rw [Multiset.countP_add, Multiset.coe_countP]
  simp only [Bool.decide_eq_true]

/-- What a worker with the job of an input in its hands does. -/
theorem tallies_labour (orderly : r.IsOrderly) (fit : r.IsFit) (served : r.IsServed)
    (polite : r.IsPolite) (hands : r.pool.job? n = some w) (own : w.ofLane = true) :
    r.Tallies (r.workerStep n) := by
  obtain ⟨-, next, conversations, es, rest, trace, labour, before, after, -⟩ :=
    effect_labour orderly fit hands own
  have step : r.workerStep n = r.carryOn n w := by simp only [workerStep, hands]
  rw [step] at trace after ⊢
  obtain ⟨x, metrics, balance⟩ := labour.balance polite n
  have tasks : (r.carryOn n w).unbegun = r.unbegun := by
    obtain ⟨v, pool, same⟩ := handles_carryOn r n w
    have other : ∀ u : Work κ, u.job = w.job → u.ofTask = false := fun u hu => by
      rw [Work.ofTask, Work.ofLane, hu, ← Work.ofLane, own]
      rfl
    rw [unbegun, taskWorks, pool, jobs_putDown_other (served.isOrderly orderly) hands
      (other w rfl) fun u hu => other u (same u hu)]
    rfl
  have next_eq : next.elim 0 ({·}) = (next.toList : Multiset (Work κ)) := by cases next <;> rfl
  have messages : r.unsettled =
      [w].countP Work.isUnsettled + rest.countP (·.isUnsettled = true) := by
    rw [unsettled, before]
    exact countP_toList_add (some w) rest _
  have messages' : (r.carryOn n w).unsettled =
      next.toList.countP Work.isUnsettled + rest.countP (·.isUnsettled = true) := by
    rw [unsettled, after, next_eq]
    exact countP_toList_add next rest _
  refine ⟨es.filter Happening.isCounted, x, ⟨?_, metrics⟩, balance_filter.mpr ?_⟩
  · rw [account, trace, List.filter_append, account]
  · rw [tasks, messages, messages']
    simpa only [zero_add] using balance.add (rest.countP (·.isUnsettled = true)) r.unbegun

/-- What a worker with the job of a task in its hands does. -/
theorem tallies_task (orderly : r.IsOrderly) (served : r.IsServed)
    (hands : r.pool.job? n = some w) (task : w.ofLane = false) : r.Tallies (r.workerStep n) := by
  have step : r.workerStep n = r.carryOn n w := by simp only [workerStep, hands]
  rw [step]
  obtain ⟨next, es, x, others, pool, lanes, writes, balance⟩ := exists_writes_task task r n
  have messages : (r.carryOn n w).unsettled = r.unsettled := by
    rw [unsettled, works, heldWorks, lanes, pool, jobs_putDown_other orderly.pool hands task others]
    rfl
  obtain ⟨rest, before, after⟩ := exists_jobs_putDown (served.isOrderly orderly) hands
  have next_eq : pick Work.ofTask next.toList = (next.toList : Multiset (Work κ)) := by
    cases next with
    | none => rfl
    | some v => exact pick_of_own (by simp [Work.ofTask, others v rfl])
  have tasks : r.unbegun = [w].countP Work.isUnbegun + rest.countP (·.isUnbegun = true) := by
    rw [unbegun, taskWorks, before, pick_of_own (by simp [Work.ofTask, task])]
    exact countP_toList_add (some w) rest _
  have tasks' : (r.carryOn n w).unbegun =
      next.toList.countP Work.isUnbegun + rest.countP (·.isUnbegun = true) := by
    rw [unbegun, taskWorks, pool, after, next_eq]
    exact countP_toList_add next rest _
  refine ⟨es, x, writes, ?_⟩
  rw [messages, tasks, tasks']
  simpa only [zero_add] using balance.add r.unsettled (rest.countP (·.isUnbegun = true))

/-- What workers of an open pool do. -/
theorem tallies_workerStep (orderly : r.IsOrderly) (fit : r.IsFit) (served : r.IsServed)
    (isOpen : r.pool.closed = false) (polite : r.IsPolite) (n : Nat) :
    r.Tallies (r.workerStep n) := by
  cases hands : r.pool.job? n with
  | some w =>
    cases own : w.ofLane with
    | true => exact tallies_labour orderly fit served polite hands own
    | false => exact tallies_task orderly served hands own
  | none =>
    have stays : r.pool.canLeave n = false := by rw [Pool.canLeave, isOpen, Bool.false_and]
    have takes : r.workerStep n = { r with pool := r.pool.take n } := by
      simp only [workerStep, hands, stays]
      rfl
    rw [takes]
    refine tallies_of_works ((Writes.refl r).update rfl rfl) ?_ (r.pool.jobs_take n)
    exact congrArg (r.heldWorks + ·) (r.pool.jobs_take n)

/-- Every move of an open pool counts what it does. -/
theorem tallies_move (orderly : r.IsOrderly) (fit : r.IsFit) (served : r.IsServed)
    (isOpen : r.pool.closed = false) (polite : r.IsPolite) (m : Move) : r.Tallies (r.move m) := by
  by_cases worker : ∃ n, m = .act (.worker n)
  · obtain ⟨n, rfl⟩ := worker
    simp only [move]
    split
    · exact tallies_workerStep orderly fit served isOpen polite n
    · exact tallies_refl r
  · by_cases timer : ∃ n, m = .act (.timer n)
    · obtain ⟨n, rfl⟩ := timer
      simp only [move]
      split
      · exact tallies_timer orderly served isOpen n
      · exact tallies_refl r
    · exact tallies_other orderly fit isOpen (not_exists.mp worker) (not_exists.mp timer)

end Runner

end Switchboard
