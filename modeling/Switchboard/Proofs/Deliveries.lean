import Switchboard.Proofs.FairTimers

/-!
# Firings deliver their results once and in order

A task fires by its timer, its job waits for room in the pool, a worker executes the task, and what
the execution returns is sent by the bot of the task's type. In a run that is not told to stop, each
execution is due to a firing of its own and is told as a story of its own, whatever becomes of the
others; in a fair one each firing of a task that has a bot has its execution
(`RunnerPlan.exists_isOrigin_of_fires`), each execution is told to its end
(`RunnerPlan.exists_putDown`), and the timers go on. `RunnerPlan.firings_deliver_once` says all of
it.

A send that fails keeps nothing back, but one that panics is the last of its story; and an execution
that takes long keeps back later firings when the pool has no room for their jobs
(`Notices.sends_and_firings_are_missed`).
-/

namespace Switchboard

namespace RunnerPlan

variable {κ : Type} {p : RunnerPlan κ} {schedule : Nat → Runner.Move} {n b f w : Nat}
  {t : ScheduledTask}

/-! ## Tasks in fair runs -/

/-- A job that is underway is put down or stays underway. -/
theorem IsUnderway.next (h : p.IsUnderway schedule b w t n)
    (going : ∀ m < n, schedule m ≠ .cancel) :
    (p.start.after schedule (n + 1)).pool.job? w = none ∨ p.IsUnderway schedule b w t (n + 1) := by
  rcases h.later.eq_or_lt with rfl | later
  · obtain ⟨k, hands⟩ := h.begins.2
    obtain ⟨-, s, held, begun, -⟩ := h.begins.tells going hands (default : Bot)
    exact .inr (h.succ held begun)
  · obtain ⟨k, s, hands, begun⟩ := h.held n later le_rfl
    rcases hands_after going hands with ⟨next, acts, labour, after⟩ | ⟨same, -⟩
    · cases next with
      | none => exact .inl after
      | some s' => exact .inr (h.succ after labour.ne_ready)
    · exact .inr (h.succ same begun)

/-- A worker begins the execution of a task whose job it has in hand. -/
theorem exists_begins_of_hands (fair : p.IsFair schedule) {k : Nat}
    (hands : (p.start.after schedule n).pool.job? w = some ⟨.perform k t, .ready⟩) :
    ∃ b, n ≤ b ∧ ∃ w, p.BeginsTask schedule b w t := by
  obtain ⟨b, later, held, acts, -⟩ := exists_handles fair hands
  exact ⟨b, later, w, acts, k, held⟩

section Fair

variable (fair : p.IsFair schedule) (going : ∀ m, schedule m ≠ .cancel)
include fair going

/-- An execution that has been begun is finished. -/
theorem exists_putDown (begins : p.BeginsTask schedule b w t) :
    ∃ n, p.IsUnderway schedule b w t n ∧ (p.start.after schedule (n + 1)).pool.job? w = none := by
  by_contra never
  have forEver : ∀ n, b ≤ n → p.IsUnderway schedule b w t n := by
    intro n later
    induction n, later using Nat.le_induction with
    | base => exact begins.isUnderway
    | succ n later ih =>
      rcases ih.next fun m _ => going m with down | goesOn
      · exact absurd ⟨n, ih, down⟩ never
      · exact goesOn
  obtain ⟨k, hands⟩ := begins.2
  obtain ⟨m, later, finished⟩ := exists_finish fair going hands
  exact never ⟨m, forEver m later, by rw [finished, Pool.job?_finish_self]⟩

/-- A job that has not been begun is begun. -/
theorem exists_begins (fresh : 0 < (p.start.after schedule n).newWorks t) :
    ∃ b, n ≤ b ∧ ∃ w, p.BeginsTask schedule b w t := by
  obtain ⟨k, mem⟩ := Runner.newWorks_pos_iff.mp fresh
  have fromQueue : ∀ m, n ≤ m → ⟨.perform k t, .ready⟩ ∈ (p.start.after schedule m).pool.queue →
      ∃ b, n ≤ b ∧ ∃ w, p.BeginsTask schedule b w t := by
    intro m later queued
    obtain ⟨j, w, later', hands⟩ := exists_hands_of_queue fair going queued
    obtain ⟨b, later'', begins⟩ := exists_begins_of_hands fair hands
    exact ⟨b, by omega, begins⟩
  simp only [Runner.taskWorks, Pool.jobs, Multiset.mem_add, pick, Multiset.mem_coe,
    List.mem_filter] at mem
  rcases mem with (⟨waits, -⟩ | ⟨queued, -⟩) | ⟨busy, -⟩
  · obtain ⟨e, waits, job⟩ := List.mem_map.mp waits
    obtain ⟨m, later, enters, there⟩ := exists_enters fair going waits
    have pool := pool_after_enters (fun j _ => going j) there enters
    refine fromQueue (m + 1) (by omega) ?_
    rw [pool, ← job]
    simp [Pool.push]
  · exact fromQueue n le_rfl queued
  · obtain ⟨⟨w, v⟩, hb, rfl⟩ := List.mem_map.mp busy
    exact exists_begins_of_hands fair ((p.isOrderly_after schedule n).1.pool.job?_of_mem hb)

open Classical in
/-- After a firing there are executions until it is the origin of one. -/
theorem exists_lt_executions (fires : p.Fires schedule f t) (c : Nat)
    (few : c ≤ p.firings schedule t f + 1) : ∃ n, f < n ∧ c ≤ p.executions schedule t n := by
  induction c with
  | zero => exact ⟨f + 1, f.lt_succ_self, Nat.zero_le _⟩
  | succ c ih =>
    obtain ⟨n, later, reached⟩ := ih (Nat.le_of_succ_le few)
    by_cases more : c < p.executions schedule t n
    · exact ⟨n, later, more⟩
    · have sum := p.executions_add_newWorks (n := n) (fun m _ => going m) t
      have fired := firings_lt fires later
      obtain ⟨b, hb, begins⟩ := exists_begins fair going (n := n) (t := t) (by omega)
      have grown : p.executions schedule t n < p.executions schedule t (b + 1) :=
        (Nat.count_monotone _ hb).trans_lt (Nat.count_strict_mono begins b.lt_succ_self)
      exact ⟨b + 1, by omega, by omega⟩

/-- Each firing of a task that has a bot is the origin of an execution. -/
theorem exists_isOrigin_of_fires (fires : p.Fires schedule f t) :
    ∃ b, f < b ∧ p.IsOrigin schedule t f b := by
  obtain ⟨n, -, enough⟩ := exists_lt_executions fair going fires _ le_rfl
  obtain ⟨b, -, later, origin⟩ := exists_isOrigin_of_lt (fun m _ => going m) fires enough
  exact ⟨b, later, origin⟩

end Fair

/-! ## Firings and executions -/

variable (p schedule) in
/-- What the firing of a task does: it puts one job on its way, unless there is no bot for it. -/
structure Answers (f : Nat) (t : ScheduledTask) : Prop where
  served : (∃ bot ∈ p.bots, bot.botType = t.botType) →
    p.start.happens schedule f = [.fired t.key] ∧
      ∃ k, (p.start.after schedule (f + 1)).taskWorks =
        ⟨.perform k t, .ready⟩ ::ₘ (p.start.after schedule f).taskWorks
  unserved : (∀ bot ∈ p.bots, bot.botType ≠ t.botType) →
    p.start.happens schedule f = [.fired t.key, .noted .taskWithoutBot] ∧
      (p.start.after schedule (f + 1)).taskWorks = (p.start.after schedule f).taskWorks

variable (p schedule) in
/-- How an execution that a worker has begun is carried out: the worker tells a story with a bot of
the task's type. It is whole when the worker puts the job down. Then the outputs of the results have
been sent, in order, up to the first whose send panics; and if there are no results, nothing has. -/
def Delivers (b w : Nat) (t : ScheduledTask) (n : Nat) : Prop :=
  let outcome := (t.run ((p.start.after schedule b).taskCallOf t)).outcome
  ∃ bot ∈ p.bots, bot.botType = t.botType ∧
    (∃ es, t.Story bot outcome es ∧ p.doings schedule w b n <+: .performed t.key :: es) ∧
    ((p.start.after schedule (n + 1)).pool.job? w = none →
      ∃ es, t.Story bot outcome es ∧ p.doings schedule w b (n + 1) = .performed t.key :: es ∧
        (∀ results, outcome = .done results → ∃ outputs, t.Addresses results outputs ∧
          bot.SentOf outputs (es.filterMap Happening.taskOutput?)) ∧
        ((∀ results, outcome ≠ .done results) → es.filterMap Happening.taskOutput? = []))

theorem answers_of_firing (started : p.start.course = .running)
    (going : ∀ m < f, schedule m ≠ .cancel)
    (firing : (p.start.after schedule f).firing? (schedule f) = some t) :
    p.Answers schedule f t := by
  have lane : (p.start.after schedule f).laneOf? t.botType ≠ none ↔
      ∃ bot ∈ p.bots, bot.botType = t.botType := laneOf?_ne_none_iff started
  cases taskMove_after going with
  | aside works _ _ unserved =>
    obtain ⟨none, happens⟩ := unserved t firing
    exact ⟨fun some => absurd none (lane.mpr some), fun _ => ⟨happens, works⟩⟩
  | comes k t' firing' lane' fired works =>
    obtain rfl : t = t' := Option.some_inj.mp (firing.symm.trans firing')
    refine ⟨fun _ => ⟨fired, k, works⟩, fun none => ?_⟩
    obtain ⟨bot, mem, same⟩ := lane.mp (by simp [lane'])
    exact absurd same (none bot mem)
  | labours w k t' s next rest acts =>
    rw [acts] at firing
    cases firing

/-- The bot through which the outputs of an execution are sent. -/
theorem BeginsTask.exists_bot (h : p.BeginsTask schedule b w t)
    (started : p.start.course = .running) (going : ∀ m < b, schedule m ≠ .cancel) :
    ∃ k, ∃ bot ∈ p.bots, bot.botType = t.botType ∧
      (p.start.after schedule b).pool.job? w = some ⟨.perform k t, .ready⟩ ∧
      (p.start.after schedule b).lanes[k]?.map Lane.bot = some bot := by
  obtain ⟨orderly, -⟩ := p.isOrderly_after schedule b
  obtain ⟨k, hands⟩ := h.2
  obtain ⟨k', t', s', same, lane, -⟩ :=
    (tasksAreFit_after going).of_hands orderly (p.isServed_after going) hands rfl
  cases same
  obtain ⟨l, hl, own⟩ := Runner.exists_lane_of_laneOf? lane
  have bots := (Runner.isLater_after p.start schedule b.zero_le).bots
  rw [Runner.after, start_lanes started, List.map_map] at bots
  have mem : l.bot ∈ (p.start.after schedule b).lanes.map Lane.bot :=
    List.mem_map_of_mem (List.mem_of_getElem? hl)
  rw [bots] at mem
  obtain ⟨bot, registered, same⟩ := List.mem_map.mp mem
  refine ⟨k, l.bot, same ▸ registered, own, hands, by rw [hl]; rfl⟩

theorem IsUnderway.delivers (h : p.IsUnderway schedule b w t n)
    (started : p.start.course = .running) (going : ∀ m < n, schedule m ≠ .cancel) :
    p.Delivers schedule b w t n := by
  obtain ⟨k, bot, registered, own, hands, lane⟩ :=
    h.begins.exists_bot started fun m hm => going m (hm.trans_le h.later)
  obtain ⟨told, whole⟩ := h.story going hands lane
  refine ⟨bot, registered, own, told, fun down => ?_⟩
  obtain ⟨es, story, all⟩ := whole down
  refine ⟨es, story, all, fun results returned => ?_, story.sent_eq_nil⟩
  rw [returned] at story
  exact story.sentOf

/-- Each execution has the firing to which it is due. -/
theorem exists_origin (p : RunnerPlan κ) (schedule : Nat → Runner.Move) :
    ∃ origin : Nat → Nat, ∀ t f b, p.IsOrigin schedule t f b → origin b = f := by
  have unique : ∀ b, ∃ f, ∀ t f', p.IsOrigin schedule t f' b → f = f' := by
    intro b
    by_cases some : ∃ f t, p.IsOrigin schedule t f b
    · obtain ⟨f, t, origin⟩ := some
      exact ⟨f, fun t' f' origin' => origin.eq origin'⟩
    · exact ⟨0, fun t' f' origin' => absurd ⟨f', t', origin'⟩ some⟩
  choose origin isOrigin using unique
  exact ⟨origin, fun t f b => isOrigin b t f⟩

/-- What becomes of an execution is no business of the timers. -/
theorem background_after_worker (acts : schedule n = .act (.worker w)) :
    (p.start.after schedule (n + 1)).background = (p.start.after schedule n).background ∧
      (p.start.after schedule (n + 1)).now = (p.start.after schedule n).now := by
  rw [Runner.after, acts, Runner.move]
  split
  · exact ⟨Runner.background_workerStep _ w, (Runner.isNext_workerStep _ w).now⟩
  · exact ⟨rfl, rfl⟩

/-- As long as a run is not told to stop, a firing of a task puts one job on its way if there is a
bot of its type, and none else. Each execution that is begun is due to an earlier firing of the same
task, no two are due to the same one, and the firings that have not had theirs have a job on its way
each. The worker that begins an execution tells its story and nothing else, through a bot of the
task's type, and tasks are called in such stories only. Workers do not touch the timers, and a timer
whose time has come can go on unless it is in a firing for which the pool has no room. In a fair run
each firing of a task that has a bot has its execution, and all executions are told to their ends;
every firing is dealt with, and a timer that is due fires unless it is told to stop. -/
theorem firings_deliver_once (started : p.start.course = .running)
    (schedule : Nat → Runner.Move) :
    let r := p.start.after schedule
    ∃ origin : Nat → Nat,
      (∀ n, (∀ m < n, schedule m ≠ .cancel) →
        (∀ f < n, ∀ t, (r f).firing? (schedule f) = some t → p.Answers schedule f t) ∧
        (∀ b < n, ∀ w t, p.BeginsTask schedule b w t →
          origin b < b ∧ p.Fires schedule (origin b) t) ∧
        (∀ b < n, ∀ b' < n, ∀ w w' t t', p.BeginsTask schedule b w t →
          p.BeginsTask schedule b' w' t' → origin b = origin b' → b = b') ∧
        (∀ t, p.executions schedule t n + (r n).newWorks t = p.firings schedule t n) ∧
        (∀ b w t, p.IsUnderway schedule b w t n → p.Delivers schedule b w t n) ∧
        (∀ m < n, ∀ e ∈ p.start.happens schedule m, e.isTaskCall = true →
          ∃ b w t, schedule m = .act (.worker w) ∧ p.IsUnderway schedule b w t m) ∧
        ∀ k x, (r n).timers.timer? k = some x → Runner.able (.timer k) (r n) = false →
          (x.isFiring = true ∧ (r n).pool.hasRoom = false) ∨
            (x.isFiring = false ∧ ∀ due, x.due = some due → (r n).now < due)) ∧
      (∀ n w, schedule n = .act (.worker w) →
        (r (n + 1)).background = (r n).background ∧ (r (n + 1)).now = (r n).now) ∧
      ((∀ m, schedule m ≠ .cancel) → p.IsFair schedule →
        (∀ f t, p.Fires schedule f t → ∃ b w, p.BeginsTask schedule b w t ∧ origin b = f) ∧
        (∀ b w t, p.BeginsTask schedule b w t →
          ∃ n, p.IsUnderway schedule b w t n ∧ (r (n + 1)).pool.job? w = none) ∧
        ∀ i n x, (r i).timers.timer? n = some x →
          (x.isFiring = true → ∃ m, i ≤ m ∧ ∃ y, (r m).timers.timer? n = some y ∧
            y.isFiring = false) ∧
          (x.isFiring = false → x.due.isSome = true → ∃ m, i ≤ m ∧
            (schedule m = .act (.timer n) ∧ (r m).firing? (schedule m) = some x.task ∨
              ∃ y, (r m).timers.timer? n = some y ∧ y.isStopped = true))) := by
  intro r
  obtain ⟨origin, isOrigin⟩ := p.exists_origin schedule
  have due : ∀ n, (∀ m < n, schedule m ≠ .cancel) → ∀ b < n, ∀ w t, p.BeginsTask schedule b w t →
      origin b < b ∧ p.IsOrigin schedule t (origin b) b := by
    intro n going b hb w t begins
    obtain ⟨f, earlier, h⟩ := exists_isOrigin (fun m hm => going m (hm.trans hb)) begins
    rw [isOrigin t f b h]
    exact ⟨earlier, h⟩
  refine ⟨origin, fun n going => ⟨?_, ?_, ?_, ?_, ?_, ?_, ?_⟩,
    fun n w acts => background_after_worker acts, fun going fair => ⟨?_, ?_, ?_⟩⟩
  · exact fun f hf t => answers_of_firing started fun m hm => going m (hm.trans hf)
  · intro b hb w t begins
    obtain ⟨earlier, h⟩ := due n going b hb w t begins
    exact ⟨earlier, h.fires⟩
  · intro b hb b' hb' w w' t t' begins begins' same
    have h := (due n going b hb w t begins).2
    rw [same] at h
    exact h.inj (due n going b' hb' w' t' begins').2
  · exact p.executions_add_newWorks going
  · exact fun b w t underway => underway.delivers started going
  · exact fun m hm e happens => exists_of_isTaskCall (fun j hj => going j (hj.trans hm)) happens
  · exact fun k x found unable => timer_waits going found unable
  · intro f t fires
    obtain ⟨b, later, h⟩ := exists_isOrigin_of_fires fair going fires
    obtain ⟨w, begins⟩ := h.begins
    exact ⟨b, w, begins, isOrigin t f b h⟩
  · exact fun b w t => exists_putDown fair going
  · exact fun i n x found => ⟨exists_rearmed fair going found, exists_firing fair found⟩

end RunnerPlan

/-! ## A firing whose outputs get lost -/

namespace Notices

def chat : BotType := ⟨"chat"⟩

/-- Two results, of which one names its destination. -/
def news : List TaskResult :=
  [{ content := .text "up" }, { content := .text "load", destination := some ⟨"ops"⟩ }]

/-- A task that is due again and again. -/
def task (identifier schedule : String) (activity : Activity (List TaskResult)) : TaskTemplate where
  botType := chat
  identifier
  schedule := some schedule
  destination := some ⟨"all"⟩
  executor := TaskTemplate.fixed fun _ => activity

/-- A runner with one worker and room for one job. -/
def plan (send : Output → Outcome Unit) (tasks : List TaskTemplate) : RunnerPlan Unit where
  language _ _ := .done {}
  origin := default
  settings :=
    { worker := { workers := 1, queueSize := 1, superviseSeconds := 0 }
      conversation := { sweepSeconds := 0 } }
  bots := [{ botType := chat, send }]
  registry := .ofTemplates [] tasks

/-- A runner through whose bot nothing can be sent. -/
def mute : RunnerPlan Unit :=
  plan (fun _ => .failed Bot.disconnected) [task "notice" "@every 1s" (.done news)]

/-- The task fires and is executed. -/
def moves : List Runner.Move :=
  [.act (.supervisor 0), .act .planner, .pass 1000, .act (.timer 0)] ++
    List.replicate 6 (.act (.worker 0))

def schedule (n : Nat) : Runner.Move := moves[n]?.getD (RunnerPlan.rounds n)

/-- Where outputs of tasks have been sent. -/
def addressees (r : Runner Unit) : List String :=
  r.trace.filterMap fun e => e.taskOutput?.map fun o => o.destination.name

/-- The firing has its execution, which is told to its end, and both outputs have been sent in order
although no send succeeds. -/
theorem both_results_are_sent :
    let r := mute.start.after schedule
    mute.start.course = .running ∧ (∀ m, schedule m ≠ .cancel) ∧ mute.IsFair schedule ∧
    (∃ t bot b w n es, (r 3).firing? (schedule 3) = some t ∧ bot ∈ mute.bots ∧
      mute.BeginsTask schedule b w t ∧ mute.IsUnderway schedule b w t n ∧
      t.Story bot (t.run ((r b).taskCallOf t)).outcome es ∧
      mute.doings schedule w b (n + 1) = .performed t.key :: es) ∧
    addressees (r 10) = ["all", "ops"] := by
  intro r
  have started : mute.start.course = .running := by decide +kernel
  have going : ∀ m, schedule m ≠ .cancel := by
    intro m
    rw [schedule]
    cases early : moves[m]? with
    | none => exact RunnerPlan.rounds_ne_cancel m
    | some move =>
      have none : ∀ m ∈ moves, m ≠ .cancel := by simp [moves]
      exact none move (List.mem_of_getElem? early)
  have fair : mute.IsFair schedule :=
    mute.isFair_continued (n := 10) fun m late => by
      rw [schedule, List.getElem?_eq_none (by simpa [moves] using late)]
      rfl
  obtain ⟨origin, told, -, onward⟩ := mute.firings_deliver_once started schedule
  obtain ⟨begun, finished, -⟩ := onward going fair
  have fires : ∃ t, mute.Fires schedule 3 t := by
    have firing : ((r 3).firing? (schedule 3)).isSome = true := by decide +kernel
    obtain ⟨t, firing⟩ := Option.isSome_iff_exists.mp firing
    have lane : ((r 3).firing? (schedule 3)).any
        (fun t => ((r 3).laneOf? t.botType).isSome) = true := by decide +kernel
    rw [firing, Option.any_some] at lane
    exact ⟨t, firing, Option.isSome_iff_ne_none.mp lane⟩
  obtain ⟨t, fires⟩ := fires
  obtain ⟨b, w, begins, -⟩ := begun 3 t fires
  obtain ⟨n, underway, down⟩ := finished b w t begins
  obtain ⟨-, -, -, -, delivers, -⟩ := told n fun m _ => going m
  obtain ⟨bot, registered, -, -, whole⟩ := delivers b w t underway
  obtain ⟨es, story, all, -⟩ := whole down
  exact ⟨started, going, fair,
    ⟨t, bot, b, w, n, es, fires.1, registered, begins, underway, story, all⟩, by decide +kernel⟩

/-- A runner whose bot does not survive a send. -/
def brittle : RunnerPlan Unit :=
  plan (fun _ => .panicked "closed") [task "notice" "@every 1s" (.done news)]

/-- A runner of two tasks, of which one takes ten seconds. -/
def crowded : RunnerPlan Unit :=
  plan (fun _ => .done ())
    [task "long" "@every 1s" (.sleep 10000 (.done [])), task "tick" "@every 1700ms" (.done [])]

/-- Both timers fire whenever they can, and the worker goes on whenever it can. -/
def busy : List Runner.Move :=
  [.act (.supervisor 0), .act .planner, .act .planner,
    .pass 1000, .act (.timer 0), .act (.worker 0), .act (.worker 0),
    .pass 700, .act (.timer 1),
    .pass 300, .act (.timer 0),
    .pass 1400, .act (.timer 1),
    .pass 6100]

/-- The tasks that have fired. -/
def fired (r : Runner Unit) : List String :=
  r.trace.filterMap fun
    | .fired key => some key.identifier
    | _ => none

/-- Of the two outputs of a firing only the first is sent when that send panics, and the worker has
put the job down. And a long execution keeps back later firings of its own task and of others: in
nine and a half seconds the task of every second and the one of every 1.7 seconds have fired twice
each, both have been due again long since, and nobody can go on. -/
theorem sends_and_firings_are_missed :
    (let r := brittle.start.after fun n => moves[n]?.getD (.pass 0)
     (∀ m ∈ moves, m ≠ .cancel) ∧
      ((r 3).firing? (.act (.timer 0))).map
        (fun t => (t.outputs news).map fun o => o.destination.name) = some ["all", "ops"] ∧
      addressees (r 10) = ["all"] ∧
      Runner.processes.isQuiet (r 10) = true ∧ ((r 10).pool.job? 0).isNone = true) ∧
    (let r := crowded.start.after (fun n => busy[n]?.getD (.pass 0)) 14
     (∀ m ∈ busy, m ≠ .cancel) ∧ r.now = 9500 ∧
      fired r = ["long", "tick", "long", "tick"] ∧
      (r.timers.timers.map fun x => (x.isFiring, x.isStopped, x.due)) =
        [(true, false, some 3000), (true, false, some 5100)] ∧
      Runner.processes.isQuiet r = true ∧ r.pool.hasRoom = false) := by
  refine ⟨⟨by simp [moves], ?_, ?_, ?_, ?_⟩, ⟨by simp [busy], ?_, ?_, ?_, ?_, ?_⟩⟩
  all_goals decide +kernel

end Notices

end Switchboard
