import Switchboard.Proofs.Bindings
import Switchboard.Proofs.LiveInstances
import Switchboard.Proofs.Watching

/-!
# Opened workshops

What holds of a workshop when its opening is over. Every template that can be built by the files as
they are is live by them (`upToDate_perform`): no act but a change of the files changes what a build
would make, so the latest product of a template stays the one that a build now would give. And every
configurable template whose subscription was accepted is subscribed to its file
(`isSubscribed_openBy`).
-/

namespace Switchboard

/-! ## Templates apart -/

namespace Registry

variable {κ : Type} {r : Registry κ}

theorem Distinct.apart_commands (h : r.Distinct) {i j : Nat} {t u : CommandTemplate κ}
    (hi : r.commands[i]? = some t) (hj : r.commands[j]? = some u) (apart : i ≠ j) :
    ¬(t.botType = u.botType ∧ t.identifier = u.identifier) := by
  obtain ⟨hli, rfl⟩ := List.getElem?_eq_some_iff.mp hi
  obtain ⟨hlj, rfl⟩ := List.getElem?_eq_some_iff.mp hj
  have pairs := List.pairwise_iff_getElem.mp h.commands
  rcases Nat.lt_or_gt_of_ne apart with less | more
  · exact pairs i j hli hlj less
  · rintro ⟨bot, name⟩
    exact pairs j i hlj hli more ⟨bot.symm, name.symm⟩

theorem Distinct.apart_tasks (h : r.Distinct) {i j : Nat} {t u : TaskTemplate}
    (hi : r.tasks[i]? = some t) (hj : r.tasks[j]? = some u) (apart : i ≠ j) :
    ¬(t.botType = u.botType ∧ t.identifier = u.identifier) := by
  obtain ⟨hli, rfl⟩ := List.getElem?_eq_some_iff.mp hi
  obtain ⟨hlj, rfl⟩ := List.getElem?_eq_some_iff.mp hj
  have pairs := List.pairwise_iff_getElem.mp h.tasks
  rcases Nat.lt_or_gt_of_ne apart with less | more
  · exact pairs i j hli hlj less
  · rintro ⟨bot, name⟩
    exact pairs j i hlj hli more ⟨bot.symm, name.symm⟩

end Registry

namespace Workshop

variable {κ : Type} {w v : Workshop κ}

/-! ## What is live of a template -/

/-- What is live of a template. -/
def instance? (w : Workshop κ) : TemplateRef → Option (Product κ)
  | .command i =>
    w.registry.commands[i]?.bind fun t =>
      ((w.registry.commandsOf t.botType).commands.find? fun c => c.identifier == t.identifier).map
        (.command t.botType)
  | .task i =>
    w.registry.tasks[i]?.bind fun t =>
      (w.registry.task? ⟨t.botType, t.identifier⟩).map .task

/-- The latest of some products that a template made. -/
def latestProduct? (w : Workshop κ) (ps : List (Product κ)) : TemplateRef → Option (Product κ)
  | .command i =>
    w.registry.commands[i]?.bind fun t =>
      (latestCommand? ps t.botType t.identifier).map (.command t.botType)
  | .task i =>
    w.registry.tasks[i]?.bind fun t => (latestTask? ps ⟨t.botType, t.identifier⟩).map .task

/-- What is live of a template is its latest product. -/
theorem instance?_of_followsBuilds {ps : List (Product κ)} (h : w.registry.FollowsBuilds ps)
    (t : TemplateRef) : w.instance? t = w.latestProduct? ps t := by
  cases t with
  | command i =>
    simp only [instance?, latestProduct?]
    cases ht : w.registry.commands[i]? with
    | none => rfl
    | some t =>
      have registered : t.identifier ∈ w.registry.registered t.botType := by
        refine List.mem_map_of_mem (List.mem_filter.mpr ⟨List.mem_of_getElem? ht, ?_⟩)
        exact decide_eq_true rfl
      rw [Option.bind_some, Option.bind_some, h.commands t.botType,
        find?_filterMap (fun _ _ => And.right ∘ mem_of_latestCommand?) registered]
  | task i =>
    simp only [instance?, latestProduct?]
    cases ht : w.registry.tasks[i]? with
    | none => rfl
    | some t => rw [Option.bind_some, Option.bind_some, h.tasks]

/-- A product is the latest of the template that made it, and of no other. -/
theorem latestProduct?_append_one (distinct : w.registry.Distinct) {u : TemplateRef}
    {p : Product κ} (made : w.product? u = some p) (ps : List (Product κ)) (t : TemplateRef) :
    w.latestProduct? (ps ++ [p]) t = if u = t then some p else w.latestProduct? ps t := by
  cases u with
  | command j =>
    obtain ⟨u, hu, built⟩ := Option.bind_eq_some_iff.mp made
    obtain ⟨c, hc, rfl⟩ := Option.map_eq_some_iff.mp built
    have name : c.identifier = u.identifier := by
      unfold CommandTemplate.build at hc
      cases hr : u.executor.resolve w.source w.files u.botType u.identifier with
      | error e => rw [hr] at hc; cases hc
      | ok run => rw [hr] at hc; cases hc; rfl
    cases t with
    | task i => simp [latestProduct?, latestTask?, latest?_append_one, Product.taskOf?]
    | command i =>
      unfold latestProduct? latestCommand?
      simp only [latest?_append_one, Product.commandOf?, TemplateRef.command.injEq]
      by_cases same : j = i
      · subst same
        simp [hu, name]
      · rw [if_neg same]
        cases ht : w.registry.commands[i]? with
        | none => rfl
        | some t =>
          have apart := distinct.apart_commands hu ht same
          rw [← name] at apart
          simp [apart]
  | task j =>
    obtain ⟨u, hu, built⟩ := Option.bind_eq_some_iff.mp made
    obtain ⟨c, hc, rfl⟩ := Option.map_eq_some_iff.mp built
    have key : c.key = ⟨u.botType, u.identifier⟩ := by
      unfold TaskTemplate.build at hc
      cases hr : u.executor.resolve w.source w.files u.botType u.identifier with
      | error e => rw [hr] at hc; cases hc
      | ok bound =>
        cases hs : u.scheduleOf bound.schedule with
        | error e => simp [hr, hs, bind, Except.bind, Except.toOption] at hc
        | ok schedule =>
          simp only [hr, hs, bind, Except.bind, pure, Except.pure, Except.toOption,
            Option.some.injEq] at hc
          subst hc
          rfl
    cases t with
    | command i => simp [latestProduct?, latestCommand?, latest?_append_one, Product.commandOf?]
    | task i =>
      unfold latestProduct? latestTask?
      simp only [latest?_append_one, Product.taskOf?, TemplateRef.task.injEq, key]
      by_cases same : j = i
      · subst same
        simp [hu]
      · rw [if_neg same]
        cases ht : w.registry.tasks[i]? with
        | none => rfl
        | some t =>
          have apart := distinct.apart_tasks hu ht same
          simp [apart]

/-! ## What acts leave alone -/

/-- A build changes the registry, hands over a task and tells of it; no more. -/
theorem frame_build {built : Workshop κ} {t : TemplateRef} (h : w.build t = .ok built) :
    ∃ registry feed notes, built = { w with registry, feed, notes } ∧
      ∀ n ∈ w.notes, n ∈ notes := by
  cases t with
  | command i =>
    simp only [build] at h
    split at h
    · cases h; exact ⟨_, _, _, rfl, fun _ hn => hn⟩
    · next c _ =>
      cases hc : c.build w.source w.files with
      | error e => rw [hc] at h; cases h
      | ok live => rw [hc] at h; cases h; exact ⟨_, _, _, rfl, fun _ hn => hn⟩
  | task i =>
    simp only [build] at h
    split at h
    · cases h; exact ⟨_, _, _, rfl, fun _ hn => hn⟩
    · next c _ =>
      cases hc : c.build w.source w.files with
      | error e => rw [hc] at h; cases h
      | ok live =>
        rw [hc] at h
        cases h
        unfold publish
        dsimp only
        split
        · exact ⟨_, _, _, rfl, fun _ hn => hn⟩
        · exact ⟨_, _, _, rfl, fun _ hn => List.mem_append_left _ hn⟩

theorem frame_rebuild (w : Workshop κ) (t : TemplateRef) :
    ∃ registry feed notes, w.rebuild t = { w with registry, feed, notes } := by
  unfold rebuild
  split
  · next h =>
    obtain ⟨registry, feed, notes, rfl, -⟩ := frame_build h
    exact ⟨_, _, _, rfl⟩
  · exact ⟨_, _, _, rfl⟩

theorem frame_buildFirst {next : Workshop κ} {t : TemplateRef} (h : w.buildFirst t = .ok next) :
    ∃ registry feed notes, next = { w with registry, feed, notes } ∧
      ∀ n ∈ w.notes, n ∈ notes := by
  unfold buildFirst at h
  split at h
  · next hb => cases h; exact frame_build hb
  · split at h
    · cases h
    · cases h; exact ⟨_, _, _, rfl, fun _ hn => List.mem_append_left _ hn⟩

/-- A subscription changes the watcher's subscriptions and tells if it is refused; no more. -/
theorem frame_subscribe (w : Workshop κ) (t : TemplateRef) :
    ∃ watcher notes, w.subscribe t = { w with watcher, notes } ∧
      (∀ n ∈ w.notes, n ∈ notes) ∧ watcher.map Watcher.base = w.watcher.map Watcher.base := by
  unfold subscribe
  split
  · next x bot identifier hx ht =>
    have base : ∀ s, (x.subscribe w.os s).2.base = x.base := by
      intro s
      unfold Watcher.subscribe Watcher.request
      split <;> rfl
    dsimp only
    split
    · exact ⟨_, _, rfl, fun _ hn => hn, by simp [base, hx]⟩
    · exact ⟨_, _, rfl, fun _ hn => List.mem_append_left _ hn, by simp [base, hx]⟩
  · exact ⟨_, _, rfl, fun _ hn => hn, rfl⟩

theorem source_of_base (h : v.watcher.map Watcher.base = w.watcher.map Watcher.base) :
    v.source = w.source := by
  have of_base : ∀ u : Workshop κ,
      u.source = ((u.watcher.map Watcher.base).map Source.directory).getD .nowhere := by
    intro u
    rw [source, Option.map_map]
    rfl
  rw [of_base, of_base, h]

/-- What builds read, and the clock, are the same in both. -/
structure SameGround (w v : Workshop κ) : Prop where
  now : v.now = w.now
  commands : v.registry.commands = w.registry.commands
  tasks : v.registry.tasks = w.registry.tasks
  files : v.files = w.files
  source : v.source = w.source
  replaced : v.replaced = w.replaced

namespace SameGround

theorem refl (w : Workshop κ) : w.SameGround w := ⟨rfl, rfl, rfl, rfl, rfl, rfl⟩

theorem trans {u : Workshop κ} (h : w.SameGround v) (h' : v.SameGround u) : w.SameGround u :=
  ⟨h'.now.trans h.now, h'.commands.trans h.commands, h'.tasks.trans h.tasks,
    h'.files.trans h.files, h'.source.trans h.source, h'.replaced.trans h.replaced⟩

theorem product? (h : w.SameGround v) (t : TemplateRef) : v.product? t = w.product? t := by
  cases t <;> simp only [Workshop.product?, h.commands, h.tasks, h.files, h.source]

theorem subscriber? (h : w.SameGround v) (t : TemplateRef) : v.subscriber? t = w.subscriber? t := by
  cases t <;> simp only [Workshop.subscriber?, h.commands, h.tasks]

theorem latestProduct? (h : w.SameGround v) (ps : List (Product κ)) (t : TemplateRef) :
    v.latestProduct? ps t = w.latestProduct? ps t := by
  cases t <;> simp only [Workshop.latestProduct?, h.commands, h.tasks]

theorem distinct (h : w.SameGround v) (distinct : w.registry.Distinct) : v.registry.Distinct :=
  ⟨h.commands ▸ distinct.commands, h.tasks ▸ distinct.tasks⟩

end SameGround

/-- Templates are never touched. -/
theorem templates_act (w : Workshop κ) (a : Act) :
    (w.act a).registry.commands = w.registry.commands ∧
      (w.act a).registry.tasks = w.registry.tasks := by
  rw [registry_act]
  cases w.productOf? a with
  | none => exact ⟨rfl, rfl⟩
  | some p => exact ⟨Registry.commands_adopt _ p, Registry.tasks_adopt _ p⟩

/-- Every act but a change of the files leaves what builds read. -/
theorem sameGround_act (w : Workshop κ) {a : Act} (noFiles : ∀ t, a ≠ .files t) :
    w.SameGround (w.act a) := by
  obtain ⟨commands, tasks⟩ := templates_act w a
  cases a with
  | files t => exact absurd rfl (noFiles t)
  | rebuild t =>
    obtain ⟨registry, feed, notes, frame⟩ := frame_rebuild w t
    have frame : w.act (.rebuild t) = { w with registry, feed, notes } := frame
    exact ⟨by rw [frame], commands, tasks, by rw [frame], by rw [frame]; rfl, by rw [frame]⟩
  | opening s =>
    cases s with
    | subscribe t =>
      obtain ⟨watcher, notes, frame, -, base⟩ := frame_subscribe w t
      have frame : w.act (.opening (.subscribe t)) = { w with watcher, notes } := frame
      refine ⟨?_, commands, tasks, ?_, source_of_base ?_, ?_⟩ <;> rw [frame]
      exact base
    | build t =>
      cases hb : w.buildFirst t with
      | error e =>
        have frame : w.act (.opening (.build t)) = w := by simp [act, openStep, hb]
        rw [frame]
        exact .refl w
      | ok next =>
        obtain ⟨registry, feed, notes, rfl, -⟩ := frame_buildFirst hb
        have frame : w.act (.opening (.build t)) = { w with registry, feed, notes } := by
          simp [act, openStep, hb]
        exact ⟨by rw [frame], commands, tasks, by rw [frame], by rw [frame]; rfl, by rw [frame]⟩

/-- A step of an opening that does not fail leaves what builds read. -/
theorem sameGround_openStep {s : OpeningStep} (h : w.openStep s = .ok v) : w.SameGround v := by
  have same := w.sameGround_act (a := .opening s) (fun _ => nofun)
  rwa [show w.act (.opening s) = v by simp [act, h]] at same

theorem sameGround_perform (w : Workshop κ) {acts : List Act}
    (noFiles : ∀ a ∈ acts, ∀ t, a ≠ .files t) : w.SameGround (w.perform acts) := by
  induction acts generalizing w with
  | nil => exact .refl w
  | cons a rest ih =>
    have first := w.sameGround_act (noFiles a List.mem_cons_self)
    exact first.trans (ih (w.act a) fun b hb => noFiles b (List.mem_cons_of_mem a hb))

/-! ## Up to date -/

/-- If a build would succeed now, the template has made just that. -/
def UpToDate (w : Workshop κ) (ps : List (Product κ)) (t : TemplateRef) : Prop :=
  ∀ p, w.product? t = some p → w.latestProduct? ps t = some p

theorem SameGround.upToDate {ps : List (Product κ)} {t : TemplateRef} (h : w.SameGround v)
    (current : w.UpToDate ps t) : v.UpToDate ps t := by
  intro p hp
  rw [h.product?] at hp
  rw [h.latestProduct?]
  exact current p hp

/-- The template that an act builds. -/
def Act.template? : Act → Option TemplateRef
  | .opening (.build t) => some t
  | .rebuild t => some t
  | _ => none

theorem productOf?_eq (w : Workshop κ) (a : Act) :
    w.productOf? a = a.template?.bind w.product? := by
  cases a with
  | opening s => cases s <;> rfl
  | rebuild t => rfl
  | files t => rfl

/-- What an act builds is up to date, and what was up to date stays so. -/
theorem upToDate_act {ps : List (Product κ)} {t : TemplateRef} {a : Act}
    (distinct : w.registry.Distinct) (noFiles : ∀ t, a ≠ .files t)
    (h : a.template? = some t ∨ w.UpToDate ps t) :
    (w.act a).UpToDate (ps ++ (w.productOf? a).toList) t := by
  have same := w.sameGround_act noFiles
  intro p hp
  rw [same.product?] at hp
  rw [same.latestProduct?, productOf?_eq]
  cases ha : a.template? with
  | none =>
    rw [ha] at h
    rcases h with h | h
    · cases h
    · simpa using h p hp
  | some u =>
    rw [Option.bind_some]
    cases hu : w.product? u with
    | none =>
      rcases h with h | h
      · rw [ha] at h
        cases h
        rw [hp] at hu
        cases hu
      · simpa using h p hp
    | some q =>
      rw [Option.toList_some, latestProduct?_append_one distinct hu]
      by_cases hut : u = t
      · subst hut
        rw [if_pos rfl, ← hu, hp]
      · rw [if_neg hut]
        rcases h with h | h
        · rw [ha] at h
          cases h
          exact absurd rfl hut
        · exact h p hp

/-- A history without changes of the files builds what it builds by the files as they are. -/
theorem upToDate_perform {ps : List (Product κ)} {t : TemplateRef} {acts : List Act}
    (distinct : w.registry.Distinct) (noFiles : ∀ a ∈ acts, ∀ t, a ≠ .files t)
    (h : (∃ a ∈ acts, a.template? = some t) ∨ w.UpToDate ps t) :
    (w.perform acts).UpToDate (ps ++ w.products acts) t := by
  induction acts generalizing w ps with
  | nil =>
    rcases h with ⟨a, ha, -⟩ | h
    · cases ha
    · simpa [products, perform] using h
  | cons a rest ih =>
    have same := w.sameGround_act (noFiles a List.mem_cons_self)
    rw [products, ← List.append_assoc]
    refine ih (same.distinct distinct) (fun b hb => noFiles b (List.mem_cons_of_mem a hb)) ?_
    rcases h with ⟨b, hb, made⟩ | h
    · rcases List.mem_cons.mp hb with rfl | later
      · exact .inr (upToDate_act distinct (noFiles b List.mem_cons_self) (.inl made))
      · exact .inl ⟨b, later, made⟩
    · exact .inr (upToDate_act distinct (noFiles a List.mem_cons_self) (.inr h))

/-! ## Subscribed -/

/-- A template is subscribed to its file, if it has one, at a watcher that runs. -/
def IsSubscribed (w : Workshop κ) (base : FilePath) (t : TemplateRef) : Prop :=
  ∃ x, w.watcher = some x ∧ x.Runs base ∧
    ∀ bot identifier, w.subscriber? t = some (bot, identifier) →
      x.watches.Has (Source.directoryFor base bot) ⟨bot, identifier, ⟨w.replaced, t⟩⟩

theorem IsSubscribed.of_watcher {base : FilePath} {t : TemplateRef} (h : w.IsSubscribed base t)
    (same : w.SameGround v) (watcher : v.watcher = w.watcher) : v.IsSubscribed base t := by
  obtain ⟨x, hx, runs, has⟩ := h
  refine ⟨x, watcher.trans hx, runs, ?_⟩
  rw [same.subscriber?, same.replaced]
  exact has

/-- A watcher serves a subscription while it runs. -/
theorem subscribe_eq {base : FilePath} {t : TemplateRef} {x : Watcher RebuildTarget}
    (hx : w.watcher = some x) (runs : x.Runs base) {bot : BotType} {identifier : String}
    (ht : w.subscriber? t = some (bot, identifier)) :
    let served := x.watches.subscribe w.os (Source.directoryFor base bot)
      ⟨bot, identifier, ⟨w.replaced, t⟩⟩
    let next := { w with watcher := some { x with watches := served.2 } }
    (served.1 = .ok () → w.subscribe t = next) ∧
      ∀ e, served.1 = .error e → w.subscribe t = next.tell (.changesMissed e) := by
  refine ⟨?_, ?_⟩
  · intro answer
    simp [subscribe, hx, ht, Watcher.subscribe, Watcher.request, runs.running,
      Watcher.directoryFor, runs.base, answer]
  · intro e answer
    simp [subscribe, hx, ht, Watcher.subscribe, Watcher.request, runs.running,
      Watcher.directoryFor, runs.base, answer]

/-- A watcher runs on when a template subscribes. The subscription is there afterwards unless it is
refused, with those that were there before. -/
theorem isSubscribed_subscribe {base : FilePath} {u : TemplateRef} {x : Watcher RebuildTarget}
    (hx : w.watcher = some x) (runs : x.Runs base)
    (accepted : ∀ e, .changesMissed e ∉ (w.subscribe u).notes) :
    (∃ y, (w.subscribe u).watcher = some y ∧ y.Runs base) ∧
      ∀ t, u = t ∨ w.IsSubscribed base t → (w.subscribe u).IsSubscribed base t := by
  have same : w.SameGround (w.subscribe u) := sameGround_openStep (s := .subscribe u) rfl
  cases hu : w.subscriber? u with
  | none =>
    have frame : w.subscribe u = w := by simp [subscribe, hx, hu]
    rw [frame]
    refine ⟨⟨x, hx, runs⟩, ?_⟩
    rintro t (rfl | h)
    · refine ⟨x, hx, runs, ?_⟩
      intro bot identifier found
      rw [hu] at found
      cases found
    · exact h
  | some name =>
    obtain ⟨bot, identifier⟩ := name
    obtain ⟨granted, refused⟩ := subscribe_eq hx runs hu
    cases answer : (x.watches.subscribe w.os (Source.directoryFor base bot)
        ⟨bot, identifier, ⟨w.replaced, u⟩⟩).1 with
    | ok _ =>
      have frame := granted answer
      have runs' : Watcher.Runs { x with watches := (x.watches.subscribe w.os
          (Source.directoryFor base bot) ⟨bot, identifier, ⟨w.replaced, u⟩⟩).2 } base :=
        ⟨runs.base, runs.running, runs.alive⟩
      have watcher := congrArg Workshop.watcher frame
      refine ⟨⟨_, watcher, runs'⟩, ?_⟩
      intro t h
      refine ⟨_, watcher, runs', ?_⟩
      intro bot' identifier' found
      rw [same.subscriber?] at found
      rw [same.replaced]
      rcases h with rfl | ⟨x', hx', -, has⟩
      · rw [hu] at found
        cases found
        exact Watches.has_subscribe answer
      · rw [hx] at hx'
        cases hx'
        exact (has bot' identifier' found).subscribe w.os _ _
    | error e =>
      refine absurd ?_ (accepted e)
      rw [refused e answer]
      exact List.mem_append_right _ List.mem_cons_self

/-- One step of the opening, if it does not fail. -/
theorem openStep_spec {base : FilePath} {s : OpeningStep} {next : Workshop κ}
    {x : Watcher RebuildTarget} (hx : w.watcher = some x) (runs : x.Runs base)
    (h : w.openStep s = .ok next) (accepted : ∀ e, .changesMissed e ∉ next.notes) :
    (∃ y, next.watcher = some y ∧ y.Runs base) ∧
      ∀ t, s = .subscribe t ∨ w.IsSubscribed base t → next.IsSubscribed base t := by
  cases s with
  | subscribe u =>
    cases h
    obtain ⟨watched, subscribed⟩ := isSubscribed_subscribe hx runs accepted
    refine ⟨watched, ?_⟩
    rintro t (h | h)
    · cases h
      exact subscribed u (.inl rfl)
    · exact subscribed t (.inr h)
  | build u =>
    obtain ⟨registry, feed, notes, frame, -⟩ := frame_buildFirst h
    have same : w.SameGround next := sameGround_openStep (s := .build u) h
    have watcher : next.watcher = w.watcher := by rw [frame]
    refine ⟨⟨x, watcher.trans hx, runs⟩, ?_⟩
    rintro t (h | h)
    · cases h
    · exact h.of_watcher same watcher

theorem mem_notes_openStep {s : OpeningStep} {next : Workshop κ} (h : w.openStep s = .ok next)
    {n : Note} (hn : n ∈ w.notes) : n ∈ next.notes := by
  cases s with
  | build t =>
    obtain ⟨registry, feed, notes, rfl, grows⟩ := frame_buildFirst h
    exact grows n hn
  | subscribe t =>
    cases h
    obtain ⟨watcher, notes, frame, grows, -⟩ := frame_subscribe w t
    rw [frame]
    exact grows n hn

theorem mem_notes_openBy {steps : List OpeningStep} {n : Note} (hn : n ∈ w.notes) :
    n ∈ (w.openBy steps).2.notes := by
  induction steps generalizing w with
  | nil => exact hn
  | cons s rest ih =>
    unfold openBy
    split
    · next hs => exact ih (mem_notes_openStep hs hn)
    · exact hn

/-- An opening that does not fail is the history of its steps. -/
theorem perform_openBy {steps : List OpeningStep} (h : (w.openBy steps).1 = none) :
    (w.openBy steps).2 = w.perform (steps.map .opening) := by
  induction steps generalizing w with
  | nil => rfl
  | cons s rest ih =>
    cases hs : w.openStep s with
    | error e => simp [openBy, hs] at h
    | ok next =>
      rw [openBy, hs] at h ⊢
      rw [List.map_cons, perform, List.foldl_cons, ← perform, act, hs]
      exact ih h

theorem noFiles_opening (steps : List OpeningStep) :
    ∀ a ∈ steps.map Act.opening, ∀ t, a ≠ .files t := by
  intro a ha
  obtain ⟨s, -, rfl⟩ := List.mem_map.mp ha
  exact fun _ => nofun

theorem sameGround_openAll (ok : w.openAll.1 = none) : w.SameGround w.openAll.2 := by
  have history : w.openAll.2 = w.perform (w.openingSteps.map .opening) := perform_openBy ok
  rw [history]
  exact w.sameGround_perform (noFiles_opening w.openingSteps)

/-- An opening in which no subscription is refused leaves every template subscribed that was to
subscribe. -/
theorem isSubscribed_openBy {base : FilePath} {t : TemplateRef} {steps : List OpeningStep}
    (watched : ∃ x, w.watcher = some x ∧ x.Runs base) (ok : (w.openBy steps).1 = none)
    (accepted : ∀ e, .changesMissed e ∉ (w.openBy steps).2.notes)
    (h : .subscribe t ∈ steps ∨ w.IsSubscribed base t) :
    (w.openBy steps).2.IsSubscribed base t := by
  induction steps generalizing w with
  | nil => exact h.resolve_left nofun
  | cons s rest ih =>
    obtain ⟨x, hx, runs⟩ := watched
    cases hs : w.openStep s with
    | error e => simp [openBy, hs] at ok
    | ok next =>
      simp only [openBy, hs] at ok accepted ⊢
      have quiet : ∀ e, .changesMissed e ∉ next.notes := fun e he =>
        accepted e (mem_notes_openBy he)
      obtain ⟨watched, subscribed⟩ := openStep_spec hx runs hs quiet
      refine ih watched ok accepted ?_
      rcases h with mem | h
      · rcases List.mem_cons.mp mem with rfl | later
        · exact .inr (subscribed t (.inl rfl))
        · exact .inl later
      · exact .inr (subscribed t (.inr h))

end Workshop

end Switchboard
