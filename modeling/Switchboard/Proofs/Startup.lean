import Switchboard.Bundled.Commands
import Switchboard.Proofs.Opening

/-!
# Openings and configuration files

An opening is meant to fail only by templates that are themselves at fault. Of the errors of a build
those of reading a file and those of a schedule that a file supplies are not fatal
(`Binding.isFatal_of_resolve`, `TaskTemplate.scheduleOf_error`), and the parts of a
template are checked when it is made. One case is left: settings may supply the only schedule of a
task, and a file may take it away. `TaskTemplate.Lacks` is that case, and an opening fails in it and
in no other (`opening_fails_only_without_schedule`).

When an opening does not fail, what is live of each template is what it would make alone. That is
read off the history of the opening: no step changes what a build reads, so a template whose build
succeeds has made just that (`upToDate_perform`), and one whose build fails has made nothing
(`latestProduct?_perform`).
-/

namespace Switchboard

/-! ## Errors of builds -/

theorem exists_of_bind_eq_ok {ε α β : Type} {x : Except ε α} {f : α → Except ε β} {b : β}
    (h : x >>= f = .ok b) : ∃ a, x = .ok a ∧ f a = .ok b := by
  cases x with
  | error e => cases h
  | ok a => exact ⟨a, rfl, h⟩

/-- What can be wrong with a schedule is its expression. -/
theorem Schedule.exists_of_parse_error {text : String} {e : BuildError}
    (h : Schedule.parse text = .error e) :
    ∃ expression reason, e = .invalidSchedule expression reason := by
  unfold Schedule.parse at h
  dsimp only at h
  split at h
  · split at h
    · cases h
    · cases h; exact ⟨_, _, rfl⟩
  · split at h
    · cases h
    · cases h; exact ⟨_, _, rfl⟩

/-- What can be wrong with settings is their file. -/
theorem Binding.isFatal_of_resolve {ε : Type} {b : Binding ε} {source : Source} {files : FileTree}
    {bot : BotType} {identifier : String} {e : BuildError}
    (h : b.resolve source files bot identifier = .error e) : e.isFatal = false := by
  cases b with
  | fixed made => cases h
  | configured bind =>
    rw [Binding.resolve] at h
    split at h
    · cases h; rfl
    · split at h
      · cases h
      · cases h; rfl
    · split at h
      · cases h
      · cases h; rfl

theorem CommandTemplate.isFatal_of_build {κ : Type} {t : CommandTemplate κ} {source : Source}
    {files : FileTree} {e : BuildError} (h : t.build source files = .error e) :
    e.isFatal = false := by
  unfold CommandTemplate.build at h
  cases hr : t.executor.resolve source files t.botType t.identifier with
  | ok run => rw [hr] at h; cases h
  | error e' => rw [hr] at h; cases h; exact Binding.isFatal_of_resolve hr

namespace TaskTemplate

variable {t : TaskTemplate} {source : Source} {files : FileTree} {e : BuildError}

/-- A task has no schedule: the template has none, and its settings supply none. -/
def Lacks (t : TaskTemplate) (source : Source) (files : FileTree) : Prop :=
  t.schedule = none ∧
    ∃ bound, t.executor.resolve source files t.botType t.identifier = .ok bound ∧
      bound.schedule = none

/-- The schedule of a finished template is one. -/
theorem exists_parse_of_finish {d : TaskDraft} (h : d.finish = .ok t) {expression : String}
    (supplied : t.schedule = some expression) : ∃ s, Schedule.parse expression = .ok s := by
  unfold TaskDraft.finish at h
  obtain ⟨bot, -, h⟩ := exists_of_bind_eq_ok h
  obtain ⟨identifier, -, h⟩ := exists_of_bind_eq_ok h
  obtain ⟨executor, -, h⟩ := exists_of_bind_eq_ok h
  cases hs : d.schedule with
  | some e =>
    rw [hs] at h
    obtain ⟨_, parsed, h⟩ := exists_of_bind_eq_ok h
    cases h
    cases supplied
    cases hp : Schedule.parse expression with
    | error e' => rw [hp] at parsed; cases parsed
    | ok s => exact ⟨s, rfl⟩
  | none =>
    rw [hs] at h
    dsimp only at h
    split at h
    · cases h; cases supplied
    · cases h

/-- A finished template has a schedule unless neither it nor its settings supply one. A schedule
that the settings supply may be wrong, but that is not fatal. -/
theorem scheduleOf_error {d : TaskDraft} (h : d.finish = .ok t) {supplied : Option String}
    (failed : t.scheduleOf supplied = .error e) :
    (e = .missing "schedule" ∧ t.schedule = none ∧ supplied = none) ∨ e.isFatal = false := by
  unfold scheduleOf at failed
  cases supplied with
  | some expression =>
    dsimp only at failed
    cases hp : Schedule.parse expression with
    | ok s => rw [hp] at failed; cases failed
    | error e' =>
      obtain ⟨text, reason, rfl⟩ := Schedule.exists_of_parse_error hp
      rw [hp] at failed
      cases failed
      exact .inr rfl
  | none =>
    cases hs : t.schedule with
    | some expression =>
      obtain ⟨s, parsed⟩ := exists_parse_of_finish h hs
      rw [hs] at failed
      dsimp only at failed
      rw [parsed] at failed
      cases failed
    | none =>
      rw [hs] at failed
      cases failed
      exact .inl ⟨rfl, rfl, rfl⟩

/-- A build of a finished template fails fatally only if the task has no schedule. -/
theorem build_error {d : TaskDraft} (h : d.finish = .ok t)
    (failed : t.build source files = .error e) :
    (e = .missing "schedule" ∧ t.Lacks source files) ∨ e.isFatal = false := by
  unfold build at failed
  cases hr : t.executor.resolve source files t.botType t.identifier with
  | error e' =>
    rw [hr] at failed
    cases failed
    exact .inr (Binding.isFatal_of_resolve hr)
  | ok bound =>
    rw [hr] at failed
    cases hs : t.scheduleOf bound.schedule with
    | ok s => simp [bind, Except.bind, hs, pure, Except.pure] at failed
    | error e' =>
      simp only [bind, Except.bind, hs, Except.error.injEq] at failed
      subst failed
      exact (scheduleOf_error h hs).imp_left fun ⟨same, missing, unsupplied⟩ =>
        ⟨same, missing, bound, hr, unsupplied⟩

theorem scheduleOf_none (missing : t.schedule = none) :
    t.scheduleOf none = .error (.missing "schedule") := by
  unfold scheduleOf
  rw [missing]

theorem Lacks.build_eq (h : t.Lacks source files) :
    t.build source files = .error (.missing "schedule") := by
  obtain ⟨missing, bound, resolved, unsupplied⟩ := h
  rw [TaskTemplate.build, resolved]
  simp only [bind, Except.bind, unsupplied, scheduleOf_none missing]

end TaskTemplate

/-! ## Registries of drafts -/

namespace Registry

variable {κ : Type}

/-- The commands and tasks of these drafts, without those that cannot be finished and those that are
refused. -/
def ofDrafts (commands : List (CommandDraft κ)) (tasks : List TaskDraft) : Registry κ :=
  ofTemplates (commands.filterMap fun d => d.finish.toOption)
    (tasks.filterMap fun d => d.finish.toOption)

theorem mem_tasks_enrollTasks {r : Registry κ} {ts : List TaskTemplate} {t : TaskTemplate}
    (h : t ∈ (r.enrollTasks ts).tasks) : t ∈ r.tasks ∨ t ∈ ts := by
  induction ts generalizing r with
  | nil => exact .inl h
  | cons u rest ih =>
    rw [enrollTasks, List.foldl_cons, ← enrollTasks] at h
    rcases ih h with mem | mem
    · unfold addTask at mem
      split at mem
      · next hu =>
        split at hu
        · cases hu
        · cases hu
          rcases List.mem_append.mp mem with old | new
          · exact .inl old
          · exact .inr (List.mem_singleton.mp new ▸ List.mem_cons_self)
      · exact .inl mem
    · exact .inr (List.mem_cons_of_mem u mem)

theorem tasks_enroll (r : Registry κ) (ts : List (CommandTemplate κ)) :
    (r.enroll ts).tasks = r.tasks := by
  induction ts generalizing r with
  | nil => rfl
  | cons u rest ih =>
    rw [enroll, List.foldl_cons, ← enroll, ih]
    unfold addCommand
    split
    · next hu =>
      split at hu
      · cases hu
      · cases hu; rfl
    · rfl

/-- Every task of such a registry is the template of a draft. -/
theorem exists_finish_of_mem_tasks {commands : List (CommandDraft κ)} {tasks : List TaskDraft}
    {t : TaskTemplate} (h : t ∈ (ofDrafts commands tasks).tasks) :
    ∃ d : TaskDraft, d.finish = .ok t := by
  rcases mem_tasks_enrollTasks h with registered | made
  · rw [tasks_enroll] at registered
    cases registered
  · obtain ⟨d, -, finished⟩ := List.mem_filterMap.mp made
    refine ⟨d, ?_⟩
    cases hd : d.finish with
    | error e => rw [hd] at finished; cases finished
    | ok t' => rw [hd] at finished; cases finished; rfl

end Registry

namespace Workshop

variable {κ : Type} {w v : Workshop κ}

/-! ## Builds that fail -/

/-- Why a template cannot be built by the files as they are. -/
def fault? (w : Workshop κ) : TemplateRef → Option BuildError
  | .command i =>
    w.registry.commands[i]?.bind fun c =>
      match c.build w.source w.files with
      | .ok _ => none
      | .error e => some e
  | .task i =>
    w.registry.tasks[i]?.bind fun c =>
      match c.build w.source w.files with
      | .ok _ => none
      | .error e => some e

theorem fault?_eq_some {t : TemplateRef} {e : BuildError} :
    w.fault? t = some e ↔ w.build t = .error e := by
  cases t with
  | command i =>
    simp only [fault?, build]
    cases w.registry.commands[i]? with
    | none => simp
    | some c =>
      rw [Option.bind_some]
      cases hb : c.build w.source w.files <;> simp [Except.map, hb]
  | task i =>
    simp only [fault?, build]
    cases w.registry.tasks[i]? with
    | none => simp
    | some c =>
      rw [Option.bind_some]
      cases hb : c.build w.source w.files <;> simp [Except.map, hb]

theorem SameGround.fault? (h : w.SameGround v) (t : TemplateRef) : v.fault? t = w.fault? t := by
  cases t <;> simp only [Workshop.fault?, h.commands, h.tasks, h.files, h.source]

/-- A build that is fatal fails a step of the opening, and no other. -/
theorem openStep_eq_error {s : OpeningStep} {e : BuildError} :
    w.openStep s = .error e ↔ ∃ t, s = .build t ∧ w.fault? t = some e ∧ e.isFatal = true := by
  cases s with
  | subscribe t =>
    refine iff_of_false nofun ?_
    rintro ⟨u, same, -⟩
    cases same
  | build t =>
    simp only [openStep, buildFirst, OpeningStep.build.injEq, exists_eq_left', fault?_eq_some]
    cases w.build t with
    | ok built => simp
    | error e' =>
      by_cases fatal : e'.isFatal = true
      · simp only [fatal, if_true, Except.error.injEq]
        exact ⟨fun same => ⟨same, same ▸ fatal⟩, And.left⟩
      · simp only [fatal, Bool.false_eq_true, if_false, reduceCtorEq, Except.error.injEq, false_iff]
        rintro ⟨rfl, fatal'⟩
        exact fatal fatal'

/-- An opening fails by the first template whose build is fatal. -/
theorem exists_of_openBy_eq_some {steps : List OpeningStep} {e : BuildError}
    (h : (w.openBy steps).1 = some e) :
    ∃ t, .build t ∈ steps ∧ w.fault? t = some e ∧ e.isFatal = true := by
  induction steps generalizing w with
  | nil => cases h
  | cons s rest ih =>
    cases hs : w.openStep s with
    | error e' =>
      rw [openBy, hs] at h
      cases h
      obtain ⟨t, rfl, fault, fatal⟩ := openStep_eq_error.mp hs
      exact ⟨t, List.mem_cons_self, fault, fatal⟩
    | ok next =>
      rw [openBy, hs] at h
      obtain ⟨t, mem, fault, fatal⟩ := ih h
      rw [(sameGround_openStep hs).fault?] at fault
      exact ⟨t, List.mem_cons_of_mem s mem, fault, fatal⟩

/-- In an opening that does not fail no build is fatal, and those that fail are told of. -/
theorem told_of_openBy_eq_none {steps : List OpeningStep} (h : (w.openBy steps).1 = none)
    {t : TemplateRef} (mem : .build t ∈ steps) {e : BuildError} (fault : w.fault? t = some e) :
    e.isFatal = false ∧ notBuilt t e ∈ (w.openBy steps).2.notes := by
  induction steps generalizing w with
  | nil => cases mem
  | cons s rest ih =>
    cases hs : w.openStep s with
    | error e' => rw [openBy, hs] at h; cases h
    | ok next =>
      rw [openBy, hs] at h ⊢
      rcases List.mem_cons.mp mem with rfl | later
      · have harmless : e.isFatal = false := by
          refine Bool.eq_false_iff.mpr fun fatal => ?_
          rw [openStep_eq_error.mpr ⟨t, rfl, fault, fatal⟩] at hs
          cases hs
        refine ⟨harmless, mem_notes_openBy ?_⟩
        rw [openStep, buildFirst, fault?_eq_some.mp fault] at hs
        dsimp only at hs
        rw [harmless] at hs
        cases hs
        exact List.mem_append_right _ List.mem_cons_self
      · exact ih h later ((sameGround_openStep hs).fault? t ▸ fault)

/-! ## What is live -/

/-- What a template never made it has not made at last. -/
theorem latestProduct?_perform {ps : List (Product κ)} {t : TemplateRef} {acts : List Act}
    (distinct : w.registry.Distinct) (noFiles : ∀ a ∈ acts, ∀ t, a ≠ .files t)
    (none_made : w.product? t = none) (before : w.latestProduct? ps t = none) :
    w.latestProduct? (ps ++ w.products acts) t = none := by
  induction acts generalizing w ps with
  | nil => rwa [products, List.append_nil]
  | cons a rest ih =>
    have same := w.sameGround_act (noFiles a List.mem_cons_self)
    have after : w.latestProduct? (ps ++ (w.productOf? a).toList) t = none := by
      rw [productOf?_eq]
      cases made : a.template?.bind w.product? with
      | none => rwa [Option.toList_none, List.append_nil]
      | some p =>
        obtain ⟨u, -, hu⟩ := Option.bind_eq_some_iff.mp made
        rw [Option.toList_some, latestProduct?_append_one distinct hu]
        split
        · next here => rw [here, none_made] at hu; cases hu
        · exact before
    rw [products, ← List.append_assoc, ← same.latestProduct?]
    refine ih (same.distinct distinct) (fun b hb => noFiles b (List.mem_cons_of_mem a hb)) ?_ ?_
    · rw [same.product?]; exact none_made
    · rw [same.latestProduct?]; exact after

/-- Every template that is there is built by an opening. -/
theorem build_mem_openingSteps {t : TemplateRef} (there : (w.nameOf? t).isSome) :
    .build t ∈ w.openingSteps := by
  refine List.mem_flatMap.mpr ⟨t, ?_, List.mem_cons_self⟩
  cases t with
  | command i =>
    rw [nameOf?, Option.isSome_map] at there
    obtain ⟨c, hc⟩ := Option.isSome_iff_exists.mp there
    have bound := (List.getElem?_eq_some_iff.mp hc).1
    exact List.mem_append_left _ (List.mem_map_of_mem (List.mem_range.mpr bound))
  | task i =>
    rw [nameOf?, Option.isSome_map] at there
    obtain ⟨c, hc⟩ := Option.isSome_iff_exists.mp there
    have bound := (List.getElem?_eq_some_iff.mp hc).1
    exact List.mem_append_right _ (List.mem_map_of_mem (List.mem_range.mpr bound))

theorem isSome_nameOf?_of_product? {t : TemplateRef} {p : Product κ} (h : w.product? t = some p) :
    (w.nameOf? t).isSome := by
  cases t <;>
  · obtain ⟨c, hc, -⟩ := Option.bind_eq_some_iff.mp h
    rw [nameOf?, hc]
    rfl

theorem isSome_nameOf?_of_fault? {t : TemplateRef} {e : BuildError} (h : w.fault? t = some e) :
    (w.nameOf? t).isSome := by
  cases t <;>
  · obtain ⟨c, hc, -⟩ := Option.bind_eq_some_iff.mp h
    rw [nameOf?, hc]
    rfl

/-- After an opening that did not fail, what is live of a template is what its build gives by the
files as they are. -/
theorem instance?_openAll (unbuilt : w.registry.Unbuilt) (ok : w.openAll.1 = none)
    (t : TemplateRef) : w.openAll.2.instance? t = w.product? t := by
  have history : w.openAll.2 = w.perform (w.openingSteps.map .opening) := perform_openBy ok
  have same := w.sameGround_perform (noFiles_opening w.openingSteps)
  rw [history, instance?_of_followsBuilds (followsBuilds_perform unbuilt _)]
  cases made : w.product? t with
  | some p =>
    have built : ∃ a ∈ w.openingSteps.map Act.opening, a.template? = some t :=
      ⟨.opening (.build t),
        List.mem_map_of_mem (build_mem_openingSteps (isSome_nameOf?_of_product? made)), rfl⟩
    have upToDate : (w.perform (w.openingSteps.map .opening)).UpToDate
        ([] ++ w.products (w.openingSteps.map .opening)) t :=
      upToDate_perform unbuilt.toDistinct (noFiles_opening _) (.inl built)
    exact upToDate p (by rw [same.product?, made])
  | none =>
    have before : w.latestProduct? [] t = none := by
      cases t <;> simp [latestProduct?, latestCommand?, latestTask?, latest?]
    have after := latestProduct?_perform unbuilt.toDistinct (noFiles_opening w.openingSteps) made
      before
    rwa [same.latestProduct?, ← List.nil_append (w.products _)]

/-! ## Openings -/

/-- All tasks are templates of finished drafts. -/
def IsDrafted (w : Workshop κ) : Prop :=
  ∀ c ∈ w.registry.tasks, ∃ d : TaskDraft, d.finish = .ok c

/-- A build is fatal only for a task that has no schedule. -/
theorem IsDrafted.exists_lacks_of_fatal (h : w.IsDrafted) {t : TemplateRef} {e : BuildError}
    (fault : w.fault? t = some e) (fatal : e.isFatal = true) :
    e = .missing "schedule" ∧ ∃ c ∈ w.registry.tasks, c.Lacks w.source w.files := by
  cases t with
  | command i =>
    obtain ⟨c, -, failed⟩ := Option.bind_eq_some_iff.mp fault
    split at failed
    · cases failed
    · next hb =>
      cases failed
      rw [CommandTemplate.isFatal_of_build hb] at fatal
      cases fatal
  | task i =>
    obtain ⟨c, hc, failed⟩ := Option.bind_eq_some_iff.mp fault
    have mem : c ∈ w.registry.tasks := List.mem_of_getElem? hc
    obtain ⟨d, finished⟩ := h c mem
    split at failed
    · cases failed
    · next hb =>
      cases failed
      rcases TaskTemplate.build_error finished hb with ⟨rfl, lacks⟩ | harmless
      · exact ⟨rfl, c, mem, lacks⟩
      · rw [harmless] at fatal
        cases fatal

/-- An opening fails if some task has no schedule. -/
theorem openAll_ne_none {c : TaskTemplate} (mem : c ∈ w.registry.tasks)
    (lacks : c.Lacks w.source w.files) : w.openAll.1 ≠ none := by
  intro ok
  obtain ⟨i, bound, rfl⟩ := List.mem_iff_getElem.mp mem
  have fault : w.fault? (.task i) = some (.missing "schedule") := by
    rw [fault?, List.getElem?_eq_getElem bound, Option.bind_some, lacks.build_eq]
  have built := build_mem_openingSteps (isSome_nameOf?_of_fault? fault)
  have harmless := (told_of_openBy_eq_none ok built fault).1
  cases harmless

theorem IsDrafted.openAll_eq_none_iff (h : w.IsDrafted) :
    w.openAll.1 = none ↔ ∀ c ∈ w.registry.tasks, ¬c.Lacks w.source w.files := by
  constructor
  · exact fun ok c mem lacks => openAll_ne_none mem lacks ok
  · intro supplied
    cases failed : w.openAll.1 with
    | none => rfl
    | some e =>
      obtain ⟨t, -, fault, fatal⟩ := exists_of_openBy_eq_some failed
      obtain ⟨-, c, mem, lacks⟩ := h.exists_lacks_of_fatal fault fatal
      exact absurd lacks (supplied c mem)

/-- **An opening fails only without a schedule.** Whatever the configuration files hold, an opening
of commands and tasks that were finished and registered fails just if a task is left without any
schedule, since it has none of its own and its settings, with its file laid over them, supply none.
If it does not fail, what is live of each template is what its build gives, just as if it had been
opened alone; of a template whose build fails nothing is live, and that is told. -/
theorem opening_fails_only_without_schedule (w : Workshop κ) (commands : List (CommandDraft κ))
    (tasks : List TaskDraft) :
    let now : Workshop κ := { w with registry := .ofDrafts commands tasks }
    (∀ e, now.openAll.1 = some e → e = .missing "schedule") ∧
    (now.openAll.1 = none ↔ ∀ c ∈ now.registry.tasks, ¬c.Lacks now.source now.files) ∧
    (now.openAll.1 = none →
      (∀ t e, now.build t = .error e → e.isFatal = false ∧
        notBuilt t e ∈ now.openAll.2.notes ∧ now.openAll.2.instance? t = none) ∧
      (∀ t, now.openAll.2.instance? t = now.product? t) ∧
      (∀ i c, now.registry.commands[i]? = some c →
        let alone : Workshop κ := { w with registry := .ofTemplates [c] [] }
        alone.openAll.1 = none ∧
          now.openAll.2.instance? (.command i) = alone.openAll.2.instance? (.command 0)) ∧
      ∀ i c, now.registry.tasks[i]? = some c →
        let alone : Workshop κ := { w with registry := .ofTemplates [] [c] }
        alone.openAll.1 = none ∧
          now.openAll.2.instance? (.task i) = alone.openAll.2.instance? (.task 0)) := by
  intro now
  have drafted : now.IsDrafted := fun c mem => Registry.exists_finish_of_mem_tasks mem
  have unbuilt : now.registry.Unbuilt := Registry.unbuilt_ofTemplates _ _
  refine ⟨?fatal, drafted.openAll_eq_none_iff, ?opened⟩
  case fatal =>
    intro e failed
    obtain ⟨t, -, fault, fatal⟩ := exists_of_openBy_eq_some failed
    exact (drafted.exists_lacks_of_fatal fault fatal).1
  case opened =>
    intro ok
    have live : ∀ t, now.openAll.2.instance? t = now.product? t := instance?_openAll unbuilt ok
    refine ⟨?failing, live, ?commands, ?tasks⟩
    case failing =>
      intro t e failed
      have fault := fault?_eq_some.mpr failed
      obtain ⟨harmless, told⟩ := told_of_openBy_eq_none ok
        (build_mem_openingSteps (isSome_nameOf?_of_fault? fault)) fault
      exact ⟨harmless, told, (live t).trans (product?_of_build_error failed)⟩
    case commands =>
      intro i c hc alone
      have no_tasks : alone.IsDrafted := fun _ mem => nomatch mem
      have alone_ok : alone.openAll.1 = none :=
        no_tasks.openAll_eq_none_iff.mpr fun _ mem => nomatch mem
      refine ⟨alone_ok, ?_⟩
      rw [live, instance?_openAll (Registry.unbuilt_ofTemplates [c] []) alone_ok, product?, hc]
      rfl
    case tasks =>
      intro i c hc alone
      have mem : c ∈ now.registry.tasks := List.mem_of_getElem? hc
      have one_task : ∀ u ∈ alone.registry.tasks, u = c := fun u hu => List.mem_singleton.mp hu
      have alone_drafted : alone.IsDrafted := fun u hu => one_task u hu ▸ drafted c mem
      have alone_ok : alone.openAll.1 = none :=
        alone_drafted.openAll_eq_none_iff.mpr fun u hu =>
          one_task u hu ▸ drafted.openAll_eq_none_iff.mp ok c mem
      refine ⟨alone_ok, ?_⟩
      rw [live, instance?_openAll (Registry.unbuilt_ofTemplates [] [c]) alone_ok, product?, hc]
      rfl

/-! ## A heartbeat without a schedule -/

namespace Heartbeat

/-- The bundled heartbeat: its settings supply the schedule. -/
def draft : TaskDraft :=
  let heartbeat := Bundled.heartbeat ⟨"slack"⟩
  { botType := heartbeat.botType, identifier := heartbeat.identifier
    executor := heartbeat.executor }

/-- The heartbeat, and a file for it or none. -/
def workshop (file : Option String) : Workshop Routine :=
  let bare := ({} : FileTree).makeDirectory ["conf", "slack"]
  { registry := .ofDrafts [] [draft]
    files := file.elim bare fun text =>
      bare.write ["conf", "slack", "heartbeat.yaml"] text.toUTF8.toList
    watcher := some (.ofBase ⟨"/conf"⟩ 200) }

end Heartbeat

/-- A file can fail an opening that succeeds without it: one that clears the schedule is taken for
the absence of a mandatory argument, whereas one that spoils it only leaves the task out. -/
theorem cleared_schedule_fails_opening :
    (Heartbeat.workshop none).openAll.1 = none ∧
      (Heartbeat.workshop (some "schedule: null\n")).openAll.1 = some (.missing "schedule") ∧
      (BuildError.missing "schedule").isFatal = true ∧
      (Heartbeat.workshop (some "schedule: soon\n")).openAll.1 = none := by
  decide +kernel

end Workshop

end Switchboard
