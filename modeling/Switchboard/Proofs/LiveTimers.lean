import Switchboard.Proofs.ServedTasks

/-!
# The registry and the timers agree on the tasks

A build of a task is made live at once, and it is handed over to the planner, which starts its timer
when it gets to it. Templates may be built anew at any time and with any configuration files
(`Runner.Deed`), so of a key several builds can be on their way. At each moment of a run that has
not been told to stop, what the planner has taken and what is on its way are together the tasks that
were built, and the timers serve those that the planner has taken (`Runner.Background.Follows`).
When nothing is on its way any more, the timer of a key is that of its latest build, which is the
live one: `RunnerPlan.timers_follow_registry`.
-/

namespace Switchboard

/-! ## Builds are handed over -/

/-- The task that a product is. -/
def Product.task? {κ : Type} : Product κ → Option ScheduledTask
  | .command _ _ => none
  | .task t => some t

/-- The tasks among some products. -/
def tasksOf {κ : Type} (ps : List (Product κ)) : List ScheduledTask := ps.filterMap Product.task?

section TasksOf

variable {κ : Type}

@[simp] theorem tasksOf_nil : tasksOf ([] : List (Product κ)) = [] := rfl

@[simp] theorem tasksOf_command (bot : BotType) (c : Command κ) :
    tasksOf [.command bot c] = [] := rfl

@[simp] theorem tasksOf_task (t : ScheduledTask) : tasksOf [(.task t : Product κ)] = [t] := rfl

theorem tasksOf_append (ps qs : List (Product κ)) : tasksOf (ps ++ qs) = tasksOf ps ++ tasksOf qs :=
  List.filterMap_append

/-- The latest product of a key is the latest task of it. -/
theorem latestTask?_eq (ps : List (Product κ)) (key : TaskKey) :
    latestTask? ps key = latestOf? (tasksOf ps) key := by
  induction ps using List.reverseRecOn with
  | nil => rfl
  | append_singleton ps p ih =>
    rw [latestTask?, latest?_append_one, ← latestTask?, ih, tasksOf_append]
    cases p with
    | command bot c => simp [Product.taskOf?]
    | task t =>
      rw [tasksOf_task, Product.taskOf?, latestOf?, latestOf?, latest?_append_one]

end TasksOf

theorem TaskFeed.foldl_send {f : TaskFeed} (isOpen : f.isOpen = true) (ts : List ScheduledTask) :
    ts.foldl TaskFeed.send f = { f with tasks := f.tasks ++ ts } := by
  induction ts generalizing f with
  | nil => simp
  | cons t rest ih =>
    have sent : f.send t = { f with tasks := f.tasks ++ [t] } := by rw [send, if_pos isOpen]
    rw [List.foldl_cons, sent, ih (f := { f with tasks := f.tasks ++ [t] }) isOpen,
      List.append_assoc, List.singleton_append]

namespace Workshop

variable {κ : Type} {w : Workshop κ}

/-- A build that succeeds hands over its product, if that is a task. -/
theorem feed_of_build {built : Workshop κ} {t : TemplateRef} (h : w.build t = .ok built) :
    built.feed = (tasksOf (w.product? t).toList).foldl TaskFeed.send w.feed := by
  cases t with
  | command i =>
    simp only [build] at h
    split at h
    · next hi => cases h; simp [product?, hi]
    · next c hi =>
      cases hc : c.build w.source w.files with
      | error e => simp [hc, Except.map] at h
      | ok live =>
        simp only [hc, Except.map, Except.ok.injEq] at h
        subst h
        simp [product?, hi, hc, Except.toOption]
  | task i =>
    simp only [build] at h
    split at h
    · next hi => cases h; simp [product?, hi]
    · next c hi =>
      cases hc : c.build w.source w.files with
      | error e => simp [hc, Except.map] at h
      | ok live =>
        simp only [hc, Except.map, Except.ok.injEq] at h
        subst h
        have sent : (w.publish live).feed = w.feed.send live := by
          unfold publish
          dsimp only
          split <;> rfl
        simp [product?, hi, hc, Except.toOption, sent]

theorem feed_rebuild (w : Workshop κ) (t : TemplateRef) :
    (w.rebuild t).feed = (tasksOf (w.product? t).toList).foldl TaskFeed.send w.feed := by
  unfold rebuild
  split
  · next h => exact feed_of_build h
  · next h => rw [product?_of_build_error h]; rfl

theorem feed_buildFirst {next : Workshop κ} {t : TemplateRef} (h : w.buildFirst t = .ok next) :
    next.feed = (tasksOf (w.product? t).toList).foldl TaskFeed.send w.feed := by
  unfold buildFirst at h
  split at h
  · next hb => cases h; exact feed_of_build hb
  · next hb =>
    split at h
    · cases h
    · cases h; rw [product?_of_build_error hb]; rfl

theorem feed_act (w : Workshop κ) (a : Act) :
    (w.act a).feed = (tasksOf (w.productOf? a).toList).foldl TaskFeed.send w.feed := by
  cases a with
  | opening s =>
    cases s with
    | build t =>
      simp only [act, openStep, productOf?]
      split
      · next h => exact feed_buildFirst h
      · next h =>
        unfold buildFirst at h
        split at h
        · cases h
        · next hb => rw [product?_of_build_error hb]; rfl
    | subscribe t =>
      obtain ⟨watcher, notes, frame, -⟩ := frame_subscribe w t
      simp [act, openStep, productOf?, frame]
  | rebuild t => exact feed_rebuild w t
  | files t => rfl

/-- The products of a history are handed over in their order. -/
theorem feed_perform (w : Workshop κ) (acts : List Act) :
    (w.perform acts).feed = (tasksOf (w.products acts)).foldl TaskFeed.send w.feed := by
  induction acts generalizing w with
  | nil => rfl
  | cons a rest ih =>
    rw [perform, List.foldl_cons, ← perform, ih, feed_act, products, tasksOf_append,
      List.foldl_append]

end Workshop

namespace Registry

variable {κ : Type} {r : Registry κ}

theorem task?_adopt (r : Registry κ) (p : Product κ) (key : TaskKey) :
    (r.adopt p).task? key = (p.taskOf? key).or (r.task? key) := by
  cases p with
  | command bot c => rfl
  | task t =>
    rw [adopt, task?_install, Product.taskOf?]
    split <;> rfl

/-- The live tasks stay in step with the builds. -/
theorem task?_foldl_adopt {done : List (Product κ)}
    (h : ∀ key, r.task? key = latestTask? done key) (ps : List (Product κ)) (key : TaskKey) :
    (ps.foldl adopt r).task? key = latestTask? (done ++ ps) key := by
  induction ps generalizing r done with
  | nil => simpa using h key
  | cons p rest ih =>
    have once : ∀ key, (r.adopt p).task? key = latestTask? (done ++ [p]) key := by
      intro key
      rw [task?_adopt, h key, latestTask?, latestTask?, latest?_append_one]
    rw [List.foldl_cons, ih once, List.append_assoc, List.singleton_append]

end Registry

namespace Runner

variable {κ : Type}

/-! ## Runs with builds -/

/-- A template is built anew. -/
def rebuild (r : Runner κ) (t : TemplateRef) : Runner κ :=
  let w := r.workshop.rebuild t
  { r with
    workshop := { w with notes := [] }
    trace := r.trace ++ w.notes.map .noted }

/-- What may happen next: a move, or a template is built anew at anybody's wish. -/
inductive Deed where
  | move (m : Move)
  | rebuild (t : TemplateRef)

def deed (r : Runner κ) : Deed → Runner κ
  | .move m => r.move m
  | .rebuild t => r.rebuild t

def run (r : Runner κ) (deeds : List Deed) : Runner κ := deeds.foldl deed r

/-- What is built in the next step of the watcher. -/
def watchProducts (r : Runner κ) : List (Product κ) :=
  r.workshop.roused.1.products (r.workshop.roused.2.map .rebuild)

/-- What a deed builds. -/
def deedProducts (r : Runner κ) : Deed → List (Product κ)
  | .rebuild t => (r.workshop.product? t).toList
  | .move (.act .watcher) => if able .watcher r then r.watchProducts else []
  | .move _ => []

/-- What is built in a run, the first first. -/
def products (r : Runner κ) : List Deed → List (Product κ)
  | [] => []
  | d :: rest => r.deedProducts d ++ products (r.deed d) rest

/-! ## The background follows the builds -/

/-- The run goes on, the live tasks are the latest builds, and the timers serve the tasks that were
built but for those that are on their way. -/
structure Background.Follows (b : Background) (ps : List (Product κ)) : Prop where
  course : b.course = .running
  going : b.isCancelled = false
  isOpen : b.feed.isOpen = true
  live : ∀ key, b.liveTasks.find? (fun t => t.key = key) = latestTask? ps key
  served : ∃ taken, tasksOf ps = taken ++ b.feed.tasks ∧ b.timers.Serves taken

section Follows

variable {r : Runner κ} {b : Background} {ps : List (Product κ)}

/-- Tasks are built and handed over. -/
theorem Background.Follows.build (follows : b.Follows ps) (qs : List (Product κ))
    (registry : Registry κ) {built : Registry κ} (live : registry.liveTasks = b.liveTasks)
    (adopted : built = qs.foldl Registry.adopt registry)
    (watcher : Option (Watcher RebuildTarget)) :
    { b with
      feed := (tasksOf qs).foldl TaskFeed.send b.feed
      liveTasks := built.liveTasks
      watcher }.Follows (ps ++ qs) where
  course := follows.course
  going := follows.going
  isOpen := by
    rw [TaskFeed.foldl_send follows.isOpen]
    exact follows.isOpen
  live key := by
    have before : ∀ key, registry.task? key = latestTask? ps key := by
      intro key
      rw [Registry.task?, live]
      exact follows.live key
    have after := Registry.task?_foldl_adopt before qs key
    rw [← adopted] at after
    exact after
  served := by
    obtain ⟨taken, split, served⟩ := follows.served
    refine ⟨taken, ?_, served⟩
    rw [TaskFeed.foldl_send follows.isOpen, tasksOf_append, split, List.append_assoc]

/-- The planner takes a task. -/
theorem Background.Follows.plan (follows : b.Follows ps) {t : ScheduledTask}
    {rest : List ScheduledTask} (next : b.feed.tasks = t :: rest) (now : Nat) (clock : Timestamp) :
    { b with
      feed := { b.feed with tasks := rest }
      timers := b.timers.schedule t now clock }.Follows ps where
  course := follows.course
  going := follows.going
  isOpen := follows.isOpen
  live := follows.live
  served := by
    obtain ⟨taken, split, served⟩ := follows.served
    refine ⟨taken ++ [t], ?_, served.schedule t now clock⟩
    rw [split, next, List.append_assoc, List.singleton_append]

theorem Background.Follows.timers (follows : b.Follows ps) {timers : Timers}
    (serves : ∀ taken, b.timers.Serves taken → timers.Serves taken) :
    { b with timers }.Follows ps where
  course := follows.course
  going := follows.going
  isOpen := follows.isOpen
  live := follows.live
  served := by
    obtain ⟨taken, split, served⟩ := follows.served
    exact ⟨taken, split, serves taken served⟩

/-- The watcher's step builds what it has been roused for. -/
theorem follows_watch (follows : r.background.Follows ps) :
    r.watch.background.Follows (ps ++ r.watchProducts) := by
  have registry : r.workshop.roused.1.registry = r.workshop.registry := by
    unfold Workshop.roused
    split <;> rfl
  have feed : r.workshop.roused.1.feed = r.workshop.feed := by
    unfold Workshop.roused
    split <;> rfl
  have built : r.workshop.watch.registry =
      r.watchProducts.foldl Registry.adopt r.workshop.registry := by
    rw [r.workshop.watch_eq, Workshop.registry_perform, registry]
    rfl
  have handed : r.workshop.watch.feed =
      (tasksOf r.watchProducts).foldl TaskFeed.send r.workshop.feed := by
    rw [r.workshop.watch_eq, Workshop.feed_perform, feed]
    rfl
  have := follows.build r.watchProducts r.workshop.registry rfl built
    r.workshop.watch.watcher
  show Background.Follows { r.background with
    feed := r.workshop.watch.feed
    liveTasks := r.workshop.watch.registry.liveTasks
    watcher := r.workshop.watch.watcher } _
  rw [handed]
  exact this

theorem follows_rebuild (follows : r.background.Follows ps) (t : TemplateRef) :
    (r.rebuild t).background.Follows (ps ++ (r.workshop.product? t).toList) := by
  have built : (r.workshop.rebuild t).registry =
      (r.workshop.product? t).toList.foldl Registry.adopt r.workshop.registry := by
    rw [Workshop.registry_rebuild]
    cases r.workshop.product? t <;> rfl
  have := follows.build (r.workshop.product? t).toList r.workshop.registry rfl built
    (r.workshop.rebuild t).watcher
  show Background.Follows { r.background with
    feed := (r.workshop.rebuild t).feed
    liveTasks := (r.workshop.rebuild t).registry.liveTasks
    watcher := (r.workshop.rebuild t).watcher } _
  rw [Workshop.feed_rebuild]
  exact this

/-- A run that goes on keeps its background in step with the builds, and but for the watcher nobody
builds anything. -/
theorem BackgroundMove.follows {m : Move} (h : r.BackgroundMove m b)
    (follows : r.background.Follows ps) (going : m ≠ .cancel) (other : m ≠ .act .watcher) :
    b.Follows ps := by
  cases h with
  | aside => exact follows
  | attends k status =>
    exact ⟨follows.course, follows.going, follows.isOpen, follows.live, follows.served⟩
  | ticks timers ticks => exact follows.timers fun taken served => served.ticks ticks
  | leaves n able => exact follows.timers fun taken served => served.leave able
  | plans t rest next => exact follows.plan next r.now r.clock
  | stopsPlanning cancelled =>
    rw [show r.isCancelled = false from follows.going] at cancelled
    cases cancelled
  | watches => exact absurd rfl other
  | goesOn able =>
    have course : r.course = .running := follows.course
    have cancelled : r.isCancelled = false := follows.going
    simp [courseIsAble, course, cancelled] at able
  | reports x =>
    exact ⟨follows.course, follows.going, follows.isOpen, follows.live, follows.served⟩
  | cancels => exact absurd rfl going

theorem follows_deed (follows : r.background.Follows ps) {d : Deed} (going : d ≠ .move .cancel) :
    (r.deed d).background.Follows (ps ++ r.deedProducts d) := by
  cases d with
  | rebuild t => exact follows_rebuild follows t
  | move m =>
    by_cases watcher : m = .act .watcher
    · subst watcher
      simp only [deed, move, deedProducts]
      split
      · exact follows_watch follows
      · rwa [List.append_nil]
    · have nothing : r.deedProducts (.move m) = [] := by
        unfold deedProducts
        split
        · next h => cases h
        · next h => cases h; exact absurd rfl watcher
        · rfl
      rw [nothing, List.append_nil]
      exact (r.backgroundMove_move m).follows follows (fun h => going (h ▸ rfl)) watcher

/-- In a run that is not told to stop the background follows the builds. -/
theorem follows_run (follows : r.background.Follows ps) {deeds : List Deed}
    (going : .move .cancel ∉ deeds) :
    (r.run deeds).background.Follows (ps ++ r.products deeds) := by
  induction deeds generalizing r ps with
  | nil =>
    rw [products, List.append_nil]
    exact follows
  | cons d rest ih =>
    have once := follows_deed follows fun h => going (h ▸ List.mem_cons_self)
    have all := ih once fun later => going (List.mem_cons_of_mem d later)
    rwa [List.append_assoc] at all

end Follows

end Runner

/-! ## Runs of a plan -/

namespace Timers

variable {s : Timers} {tasks : List ScheduledTask} {key : TaskKey} {timer : Timer}

theorem Serves.contains_eq (serves : s.Serves tasks) (key : TaskKey) :
    s.contains key = (latestOf? tasks key).isSome := by
  rw [Bool.eq_iff_iff, contains, List.any_eq_true, latestOf?_eq]
  constructor
  · rintro ⟨⟨k, n⟩, stands, same⟩
    obtain rfl : k = key := by simpa using same
    have place := (serves.latest k n).mp stands
    obtain ⟨t, here, -⟩ := exists_of_place? place
    rw [place, Option.bind_some, here]
    rfl
  · intro some
    obtain ⟨t, found⟩ := Option.isSome_iff_exists.mp some
    obtain ⟨n, place, -⟩ := Option.bind_eq_some_iff.mp found
    exact ⟨(key, n), (serves.latest key n).mpr place, by simp⟩

/-- The timer that goes on is that of the latest task of its key. -/
theorem Serves.latest_of_goesOn (serves : s.Serves tasks) (present : timer ∈ s.timers)
    (goesOn : timer.isStopped = false) :
    place? tasks timer.task.key = some timer.number ∧
      latestOf? tasks timer.task.key = some timer.task := by
  have place := (serves.latest _ _).mp (serves.stands timer present goesOn)
  refine ⟨place, ?_⟩
  rw [latestOf?_eq, place, Option.bind_some]
  exact serves.task timer present

/-- There is such a timer if the task has an interval. -/
theorem Serves.exists_goesOn (serves : s.Serves tasks) {task : ScheduledTask} {ms : Nat}
    (latest : latestOf? tasks key = some task) (every : task.schedule = .every ms) :
    ∃ timer ∈ s.timers, timer.task = task ∧ timer.isStopped = false := by
  rw [latestOf?_eq] at latest
  obtain ⟨n, place, here⟩ := Option.bind_eq_some_iff.mp latest
  have stands := (serves.latest key n).mpr place
  obtain ⟨timer, present, rfl⟩ := serves.stays key n task ms stands here every
  have same := serves.key_of_current present stands
  have driven := serves.task timer present
  rw [here] at driven
  cases driven
  exact ⟨timer, present, rfl, serves.goesOn timer present (same ▸ stands)⟩

end Timers

namespace RunnerPlan

variable {κ : Type}

/-- What is built when the run starts. -/
def openingProducts (p : RunnerPlan κ) : List (Product κ) :=
  match p.makeWatcher with
  | .error _ => []
  | .ok (watcher, _) =>
    let w := (p.runner watcher).workshop
    w.products (w.openingSteps.map .opening)

/-- A run that has started has opened its workshop, and nothing else has happened. -/
theorem exists_opening (p : RunnerPlan κ) (started : p.start.course = .running) :
    ∃ watcher owns, p.makeWatcher = .ok (watcher, owns) ∧
      (p.runner watcher).workshop.openAll.1 = none ∧
      p.start.background =
        { course := .running
          isCancelled := false
          status := (Status.ofBots (p.bots.map Bot.botType)).setPhase .running
          plannerIsOver := false
          timers := {}
          feed := (p.runner watcher).workshop.openAll.2.feed
          liveTasks := (p.runner watcher).workshop.openAll.2.registry.liveTasks
          watcher := (p.runner watcher).workshop.openAll.2.watcher } := by
  unfold start at started ⊢
  cases made : p.makeWatcher with
  | error e =>
    rw [made] at started
    cases started
  | ok opened =>
    obtain ⟨watcher, owns⟩ := opened
    simp only [made] at started ⊢
    cases ok : (p.runner watcher).workshop.openAll.1 with
    | none => exact ⟨watcher, owns, rfl, ok, rfl⟩
    | some e =>
      rw [ok] at started
      cases started

/-- A run that has started follows the builds of its opening. -/
theorem follows_start (p : RunnerPlan κ) (fresh : p.registry.Unbuilt)
    (started : p.start.course = .running) : p.start.background.Follows p.openingProducts := by
  obtain ⟨watcher, owns, made, ok, background⟩ := p.exists_opening started
  have history : (p.runner watcher).workshop.openAll.2 = _ := Workshop.perform_openBy ok
  rw [background, openingProducts, made, history]
  dsimp only
  have handed := Workshop.feed_perform (p.runner watcher).workshop
    ((p.runner watcher).workshop.openingSteps.map .opening)
  have isOpen : (p.runner watcher).workshop.feed.isOpen = true := rfl
  rw [handed, TaskFeed.foldl_send isOpen]
  exact {
    course := rfl
    going := rfl
    isOpen := isOpen
    live := (Workshop.followsBuilds_perform (w := (p.runner watcher).workshop) fresh _).tasks
    served := ⟨[], rfl, Timers.serves_empty⟩ }

/-- In a run that has started and is not told to stop the live task of each key is its latest
build, whatever is built anew and with whatever files, and a build that fails changes neither what
is live nor what is handed over nor the timers. Whenever the planner has taken all that was handed
over, there is a timer for a key just if there is a live task of it; the timer that stands for the
key is that of its latest build, no other timer of it goes on, and one that goes on drives the live
task. -/
theorem timers_follow_registry (p : RunnerPlan κ) (fresh : p.registry.Unbuilt)
    (started : p.start.course = .running) (deeds : List Runner.Deed)
    (going : .move .cancel ∉ deeds) :
    let r := p.start.run deeds
    let built := p.openingProducts ++ p.start.products deeds
    (∀ key, r.workshop.registry.task? key = latestTask? built key) ∧
    (∀ t, r.workshop.product? t = none →
      (r.rebuild t).workshop.registry = r.workshop.registry ∧
        (r.rebuild t).workshop.feed = r.workshop.feed ∧ (r.rebuild t).timers = r.timers) ∧
    (r.workshop.feed.tasks = [] → ∀ key,
      r.timers.contains key = (r.workshop.registry.task? key).isSome ∧
      (∀ n, (key, n) ∈ r.timers.current ↔ place? (tasksOf built) key = some n) ∧
      (∀ timer ∈ r.timers.timers, timer.task.key = key → timer.isStopped = false →
        (key, timer.number) ∈ r.timers.current ∧
          r.workshop.registry.task? key = some timer.task) ∧
      (∀ a ∈ r.timers.timers, ∀ b ∈ r.timers.timers, a.task.key = key → b.task.key = key →
        a.isStopped = false → b.isStopped = false → a = b) ∧
      ∀ task ms, r.workshop.registry.task? key = some task → task.schedule = .every ms →
        ∃ timer ∈ r.timers.timers, timer.task = task ∧ timer.isStopped = false) := by
  intro r built
  have follows : r.background.Follows built :=
    Runner.follows_run (p.follows_start fresh started) going
  refine ⟨follows.live, fun t failed => ?_, fun drained key => ?_⟩
  · refine ⟨?_, ?_, rfl⟩
    · show (r.workshop.rebuild t).registry = _
      rw [Workshop.registry_rebuild, failed, Option.elim_none]
    · show (r.workshop.rebuild t).feed = _
      rw [Workshop.feed_rebuild, failed]
      rfl
  · obtain ⟨taken, split, serves⟩ := follows.served
    have all : taken = tasksOf built := by
      rw [split, show r.background.feed.tasks = [] from drained, List.append_nil]
    subst all
    have live : r.workshop.registry.task? key = latestOf? (tasksOf built) key :=
      (follows.live key).trans (latestTask?_eq built key)
    refine ⟨?_, serves.latest key, ?_, ?_, ?_⟩
    · rw [live]
      exact serves.contains_eq key
    · rintro timer present rfl goesOn
      rw [live]
      exact ⟨serves.stands timer present goesOn, (serves.latest_of_goesOn present goesOn).2⟩
    · intro a ha b hb keyA keyB goesOn goesOn'
      exact serves.eq_of_key ha hb goesOn goesOn' (keyA.trans keyB.symm)
    · intro task ms latest every
      rw [live] at latest
      exact serves.exists_goesOn latest every

/-! ### A task that is built three times -/

namespace Thrice

def task : TaskTemplate where
  botType := ⟨"slack"⟩
  identifier := "report"
  schedule := some "@every 1h"
  executor := TaskTemplate.configured (⟨none, none, none⟩ : TaskSettings) fun _ _ => .done []

def bare : FileTree := ({} : FileTree).makeDirectory ["conf", "slack"]

/-- The files when the task's own file says this. -/
def saying (words : String) : FileTree :=
  bare.write ["conf", "slack", "report.yaml"] words.toUTF8.toList

def plan : RunnerPlan Unit where
  language _ _ := .done {}
  origin := default
  settings := { watch := { baseDirectory := some "/conf" } }
  bots := [{ botType := ⟨"slack"⟩ }]
  registry := .ofTemplates [] [task]
  files := bare

/-- The planner takes the first build, the task is built anew, a third build fails, and the planner
takes the second build. -/
def deeds : List Runner.Deed :=
  [.move (.act .planner), .move (.edit (saying "schedule: \"@every 2s\"")), .rebuild (.task 0),
    .move (.edit (saying "schedule: \"soon\"")), .rebuild (.task 0), .move (.act .planner)]

def key : TaskKey := ⟨⟨"slack"⟩, "report"⟩

/-- What tells timers apart. -/
def shown (t : Timer) : Nat × Bool × TaskKey × Schedule :=
  (t.number, t.isStopped, t.task.key, t.task.schedule)

/-- The second timer drives the live task, which is due every two seconds, and the first has been
told to stop. -/
theorem second_timer_drives_report :
    let r := plan.start.run deeds
    r.timers.timers.map shown =
      [(0, true, key, .every 3600000), (1, false, key, .every 2000)] ∧
    ∃ timer ∈ r.timers.timers, shown timer = (1, false, key, .every 2000) ∧
      (key, timer.number) ∈ r.timers.current ∧
        r.workshop.registry.task? key = some timer.task := by
  intro r
  have timers : r.timers.timers.map shown =
      [(0, true, key, .every 3600000), (1, false, key, .every 2000)] := by decide +kernel
  have drained : r.workshop.feed.tasks = [] := List.isEmpty_iff.mp (by decide +kernel)
  obtain ⟨-, -, agree⟩ := timers_follow_registry plan (Registry.unbuilt_ofTemplates [] [task])
    (by decide +kernel) deeds (by simp [deeds])
  obtain ⟨-, -, drives, -⟩ := agree drained key
  obtain ⟨timer, present, second⟩ : ∃ timer ∈ r.timers.timers,
      shown timer = (1, false, key, .every 2000) := List.mem_map.mp (timers ▸ by simp)
  have goesOn : timer.isStopped = false := congrArg (fun x => x.2.1) second
  have own : timer.task.key = key := congrArg (fun x => x.2.2.1) second
  exact ⟨timers, timer, present, second, drives timer present own goesOn⟩

end Thrice

end RunnerPlan

end Switchboard
