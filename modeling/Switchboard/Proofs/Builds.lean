import Switchboard.Registry.Workshop

/-!
# Builds and their products

What a build does to a workshop depends on its product alone: a command takes its place among the
live commands of its bot type, a task becomes the live task of its key, and a build that fails or
finds no template has no product and changes nothing in the registry. `Registry.adopt` is that
effect, and `registry_rebuild` and `registry_openStep` say that first builds and later builds have
it alike.

A workshop's history is a list of acts: steps of the opening, builds of templates anew, and changes
of the configuration files, in any order. `Workshop.products` lists the products of a history, the
first first, and `registry_perform` says that a registry is what its history's products made of it.
-/

namespace Switchboard

/-- What a build makes. -/
inductive Product (κ : Type) where
  | command (bot : BotType) (c : Command κ)
  | task (t : ScheduledTask)

namespace Registry

variable {κ : Type}

/-- Makes the product of a build live. -/
def adopt (r : Registry κ) : Product κ → Registry κ
  | .command bot c => r.place bot c
  | .task t => r.install t

@[simp] theorem commands_adopt (r : Registry κ) (p : Product κ) :
    (r.adopt p).commands = r.commands := by cases p <;> rfl

@[simp] theorem tasks_adopt (r : Registry κ) (p : Product κ) : (r.adopt p).tasks = r.tasks := by
  cases p <;> rfl

@[simp] theorem registered_adopt (r : Registry κ) (p : Product κ) (bot : BotType) :
    (r.adopt p).registered bot = r.registered bot := by simp [registered]

@[simp] theorem commandsOf_install (r : Registry κ) (t : ScheduledTask) (bot : BotType) :
    (r.install t).commandsOf bot = r.commandsOf bot := rfl

@[simp] theorem task?_place (r : Registry κ) (bot : BotType) (c : Command κ) (key : TaskKey) :
    (r.place bot c).task? key = r.task? key := rfl

/-- The installed task is the live task of its key, and of no other key. -/
theorem task?_install (r : Registry κ) (t : ScheduledTask) (key : TaskKey) :
    (r.install t).task? key = if t.key = key then some t else r.task? key := by
  simp only [task?, install, List.find?_append]
  split
  · next h =>
    subst h
    have replaced : (r.liveTasks.filter fun u => u.key ≠ t.key).find? (fun u => u.key = t.key)
        = none := by
      rw [List.find?_eq_none]
      intro u hu
      simpa using (List.mem_filter.mp hu).2
    rw [replaced]
    simp
  · next h =>
    have kept : (r.liveTasks.filter fun u => u.key ≠ t.key).find? (fun u => u.key = key)
        = r.liveTasks.find? fun u => u.key = key := by
      rw [List.find?_filter]
      congr 1
      funext u
      by_cases hu : u.key = key
      · simp [hu, Ne.symm h]
      · simp [hu]
    rw [kept]
    simp [h]

end Registry

namespace Workshop

variable {κ : Type}

/-- The product of a build of a template by the files as they are, if the build succeeds. -/
def product? (w : Workshop κ) : TemplateRef → Option (Product κ)
  | .command i =>
    w.registry.commands[i]?.bind fun t =>
      (t.build w.source w.files).toOption.map (.command t.botType)
  | .task i =>
    w.registry.tasks[i]?.bind fun t => (t.build w.source w.files).toOption.map .task

/-- A build that succeeds has its product's effect. -/
theorem registry_of_build {w built : Workshop κ} {t : TemplateRef} (h : w.build t = .ok built) :
    built.registry = (w.product? t).elim w.registry w.registry.adopt := by
  cases t with
  | command i =>
    simp only [build] at h
    split at h
    · next hi => cases h; simp [product?, hi]
    · next c hi =>
      cases hc : c.build w.source w.files with
      | error e => simp [hc, Except.map] at h
      | ok live =>
        simp only [hc, Except.map, Except.ok.injEq] at h
        subst h
        simp [product?, hi, hc, Except.toOption, Registry.adopt]
  | task i =>
    simp only [build] at h
    split at h
    · next hi => cases h; simp [product?, hi]
    · next c hi =>
      cases hc : c.build w.source w.files with
      | error e => simp [hc, Except.map] at h
      | ok live =>
        simp only [hc, Except.map, Except.ok.injEq] at h
        subst h
        have live_eq : (w.publish live).registry = w.registry.install live := by
          unfold publish
          dsimp only
          split <;> rfl
        simp [product?, hi, hc, Except.toOption, Registry.adopt, live_eq]

/-- A build that fails has no product. -/
theorem product?_of_build_error {w : Workshop κ} {t : TemplateRef} {e : BuildError}
    (h : w.build t = .error e) : w.product? t = none := by
  cases t with
  | command i =>
    simp only [build] at h
    split at h
    · cases h
    · next c hi =>
      cases hc : c.build w.source w.files with
      | error e => simp [product?, hi, hc, Except.toOption]
      | ok live => simp [hc, Except.map] at h
  | task i =>
    simp only [build] at h
    split at h
    · cases h
    · next c hi =>
      cases hc : c.build w.source w.files with
      | error e => simp [product?, hi, hc, Except.toOption]
      | ok live => simp [hc, Except.map] at h

theorem registry_rebuild (w : Workshop κ) (t : TemplateRef) :
    (w.rebuild t).registry = (w.product? t).elim w.registry w.registry.adopt := by
  unfold rebuild
  split
  · next h => exact registry_of_build h
  · next h => rw [product?_of_build_error h]; rfl

theorem registry_buildFirst {w next : Workshop κ} {t : TemplateRef}
    (h : w.buildFirst t = .ok next) :
    next.registry = (w.product? t).elim w.registry w.registry.adopt := by
  unfold buildFirst at h
  split at h
  · next hb => cases h; exact registry_of_build hb
  · next hb =>
    split at h
    · cases h
    · cases h; rw [product?_of_build_error hb]; rfl

@[simp] theorem registry_subscribe (w : Workshop κ) (t : TemplateRef) :
    (w.subscribe t).registry = w.registry := by
  unfold subscribe
  split
  · dsimp only
    split <;> rfl
  · rfl

/-! ## Histories -/

/-- What happens to the templates of a workshop. -/
inductive Act where
  | opening (s : OpeningStep)
  | rebuild (t : TemplateRef)
  /-- The configuration files become these. -/
  | files (t : FileTree)

/-- The workshop after an act. A step of the opening that fails changes nothing. -/
def act (w : Workshop κ) : Act → Workshop κ
  | .opening s =>
    match w.openStep s with
    | .ok next => next
    | .error _ => w
  | .rebuild t => w.rebuild t
  | .files t => { w with files := t }

/-- The product of an act, if it builds a template and succeeds. -/
def productOf? (w : Workshop κ) : Act → Option (Product κ)
  | .opening (.build t) => w.product? t
  | .rebuild t => w.product? t
  | _ => none

/-- The workshop after a history. -/
def perform (w : Workshop κ) (acts : List Act) : Workshop κ := acts.foldl act w

/-- The products of a history, the first first. -/
def products (w : Workshop κ) : List Act → List (Product κ)
  | [] => []
  | a :: rest => (w.productOf? a).toList ++ products (w.act a) rest

theorem perform_append (w : Workshop κ) (acts more : List Act) :
    w.perform (acts ++ more) = (w.perform acts).perform more := List.foldl_append

theorem products_append (w : Workshop κ) (acts more : List Act) :
    w.products (acts ++ more) = w.products acts ++ (w.perform acts).products more := by
  induction acts generalizing w with
  | nil => rfl
  | cons a rest ih => simp [products, perform, ih, List.append_assoc]

theorem registry_act (w : Workshop κ) (a : Act) :
    (w.act a).registry = (w.productOf? a).elim w.registry w.registry.adopt := by
  cases a with
  | opening s =>
    cases s with
    | build t =>
      simp only [act, openStep, productOf?]
      split
      · next h => exact registry_buildFirst h
      · next h =>
        unfold buildFirst at h
        split at h
        · cases h
        · next hb => rw [product?_of_build_error hb]; rfl
    | subscribe t => simp [act, openStep, productOf?]
  | rebuild t => exact registry_rebuild w t
  | files t => rfl

/-- A registry is what the products of its history made of it. -/
theorem registry_perform (w : Workshop κ) (acts : List Act) :
    (w.perform acts).registry = (w.products acts).foldl Registry.adopt w.registry := by
  induction acts generalizing w with
  | nil => rfl
  | cons a rest ih =>
    rw [perform, List.foldl_cons, ← perform, ih, registry_act, products, List.foldl_append]
    cases w.productOf? a <;> rfl

/-- An opening is the history of its steps: of all, or of those before the first that fails. -/
theorem openBy_spec (w : Workshop κ) (steps : List OpeningStep) :
    ∃ front back, steps = front ++ back ∧ (w.openBy steps).2 = w.perform (front.map .opening) ∧
      ((w.openBy steps).1 = none ∧ back = [] ∨
        ∃ e s rest, (w.openBy steps).1 = some e ∧ back = s :: rest ∧
          (w.openBy steps).2.openStep s = .error e) := by
  induction steps generalizing w with
  | nil => exact ⟨[], [], rfl, rfl, .inl ⟨rfl, rfl⟩⟩
  | cons s rest ih =>
    cases hs : w.openStep s with
    | error e =>
      refine ⟨[], s :: rest, rfl, by simp [openBy, hs, perform], .inr ⟨e, s, rest, ?_, rfl, ?_⟩⟩
      · simp [openBy, hs]
      · simp [openBy, hs]
    | ok next =>
      obtain ⟨front, back, split, history, ending⟩ := ih next
      have onward : w.openBy (s :: rest) = next.openBy rest := by rw [openBy, hs]
      have first : w.act (.opening s) = next := by rw [act, hs]
      refine ⟨s :: front, back, congrArg (s :: ·) split, ?_, onward ▸ ending⟩
      rw [onward, history, List.map_cons, perform, perform, List.foldl_cons, first]

end Workshop

end Switchboard
