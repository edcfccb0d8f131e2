import Mathlib.Data.List.Basic
import Mathlib.Data.List.Find
import Switchboard.Proofs.Builds

/-!
# What is live follows the builds

Whatever the history of a workshop was, what is live of it are the latest products of its builds:
the live commands of a bot type are its registered identifiers, in the order of registration, each
with the command of its latest successful build, and identifiers that have never been built are left
out (`followsBuilds_perform`). A build recomputes the whole list from the registered identifiers and
the current list; the statement is kept by one build (`Registry.FollowsBuilds.adopt`) because both
lists are the same function of the identifiers.

From it the rest is read off: the order, the absence of repetitions, and the routing of inputs,
which depends on the identifiers that have been built and not on which builds those were.
-/

namespace Switchboard

/-! ## Latest products -/

/-- What `f` gives for the latest of some things for which it gives anything. -/
def latest? {α β : Type} (f : α → Option β) (xs : List α) : Option β := xs.reverse.findSome? f

section Latest

variable {α β : Type} {f : α → Option β}

theorem latest?_append_one (f : α → Option β) (xs : List α) (x : α) :
    latest? f (xs ++ [x]) = (f x).or (latest? f xs) := by
  unfold latest?
  rw [List.reverse_append, List.reverse_singleton, List.singleton_append, List.findSome?_cons]
  cases f x <;> rfl

theorem exists_of_latest? {xs : List α} {y : β} (h : latest? f xs = some y) :
    ∃ x ∈ xs, f x = some y := by
  obtain ⟨x, hx, hy⟩ := List.exists_of_findSome?_eq_some h
  exact ⟨x, List.mem_reverse.mp hx, hy⟩

/-- What has been given once has a latest ever after. -/
theorem isSome_latest?_append {xs : List α} (h : (latest? f xs).isSome) (more : List α) :
    (latest? f (xs ++ more)).isSome := by
  unfold latest? at h ⊢
  rw [List.reverse_append, List.findSome?_append, Option.isSome_or, h, Bool.or_true]

end Latest

namespace Product

variable {κ : Type}

/-- The command that a product is, if it is one of this bot type and identifier. -/
def commandOf? (bot : BotType) (identifier : String) : Product κ → Option (Command κ)
  | .command b c => if b = bot ∧ c.identifier = identifier then some c else none
  | .task _ => none

/-- The task that a product is, if it is one of this key. -/
def taskOf? (key : TaskKey) : Product κ → Option ScheduledTask
  | .command _ _ => none
  | .task t => if t.key = key then some t else none

theorem eq_of_commandOf? {bot : BotType} {identifier : String} {p : Product κ} {c : Command κ}
    (h : p.commandOf? bot identifier = some c) : p = .command bot c ∧ c.identifier = identifier := by
  cases p with
  | task t => cases h
  | command b d =>
    simp only [commandOf?] at h
    split at h
    · next same =>
      obtain ⟨rfl, rfl⟩ := same
      cases h
      exact ⟨rfl, rfl⟩
    · cases h

end Product

/-- The latest of some products that is a command of a bot type and an identifier. -/
def latestCommand? {κ : Type} (ps : List (Product κ)) (bot : BotType) (identifier : String) :
    Option (Command κ) :=
  latest? (Product.commandOf? bot identifier) ps

/-- The latest of some products that is a task of a key. -/
def latestTask? {κ : Type} (ps : List (Product κ)) (key : TaskKey) : Option ScheduledTask :=
  latest? (Product.taskOf? key) ps

/-- A latest command is one of the products, and has the identifier that was asked for. -/
theorem mem_of_latestCommand? {κ : Type} {ps : List (Product κ)} {bot : BotType}
    {identifier : String} {c : Command κ} (h : latestCommand? ps bot identifier = some c) :
    .command bot c ∈ ps ∧ c.identifier = identifier := by
  obtain ⟨p, hp, hc⟩ := exists_of_latest? h
  obtain ⟨rfl, same⟩ := Product.eq_of_commandOf? hc
  exact ⟨hp, same⟩

/-! ## Lists by identifiers -/

section Named

variable {κ : Type} {f : String → Option (Command κ)}

theorem identifiers_filterMap (named : ∀ i c, f i = some c → c.identifier = i) (l : List String) :
    (l.filterMap f).map Command.identifier = l.filter fun i => (f i).isSome := by
  induction l with
  | nil => rfl
  | cons i rest ih =>
    cases hi : f i with
    | none => simp [hi, ih]
    | some c => simp [hi, ih, named i c hi]

theorem find?_filterMap (named : ∀ i c, f i = some c → c.identifier = i) {l : List String}
    {i : String} (hi : i ∈ l) : (l.filterMap f).find? (fun c => c.identifier == i) = f i := by
  induction l with
  | nil => cases hi
  | cons j rest ih =>
    by_cases hji : j = i
    · subst hji
      cases hj : f j with
      | some c => simp [hj, named j c hj]
      | none =>
        -- No later element has this identifier, since `f` gives none for it.
        rw [List.filterMap_cons_none hj, List.find?_eq_none]
        intro c hc same
        obtain ⟨k, -, hk⟩ := List.mem_filterMap.mp hc
        have : k = j := by rw [← named k c hk]; simpa using same
        rw [this, hj] at hk
        cases hk
    · have hrest : i ∈ rest := (List.mem_cons.mp hi).resolve_left (Ne.symm hji)
      cases hj : f j with
      | none => rw [List.filterMap_cons_none hj, ih hrest]
      | some c =>
        rw [List.filterMap_cons_some hj, List.find?_cons_of_neg, ih hrest]
        simp [named j c hj, hji]

end Named

namespace Registry

variable {κ : Type}

/-- What is live are the latest products: the commands of a bot type in the order in which their
identifiers are registered, and the task of each key. -/
structure FollowsBuilds (r : Registry κ) (ps : List (Product κ)) : Prop where
  commands : ∀ bot,
    (r.commandsOf bot).commands = (r.registered bot).filterMap (latestCommand? ps bot)
  tasks : ∀ key, r.task? key = latestTask? ps key

/-- One build keeps what is live in step with the builds. -/
theorem FollowsBuilds.adopt {r : Registry κ} {ps : List (Product κ)} (h : r.FollowsBuilds ps)
    (p : Product κ) : (r.adopt p).FollowsBuilds (ps ++ [p]) := by
  cases p with
  | task t =>
    refine ⟨?_, ?_⟩
    · intro bot
      rw [registered_adopt, Registry.adopt, commandsOf_install, h.commands bot]
      congr 1
      funext i
      rw [latestCommand?, latestCommand?, latest?_append_one, Product.commandOf?, Option.none_or]
    · intro key
      rw [Registry.adopt, task?_install, latestTask?, latest?_append_one, Product.taskOf?,
        h.tasks key, latestTask?]
      split <;> simp
  | command b c =>
    refine ⟨?_, ?_⟩
    · intro bot
      rw [registered_adopt, Registry.adopt]
      by_cases hb : bot = b
      · subst hb
        rw [commandsOf_place_self, h.commands bot, arrange]
        apply List.filterMap_congr
        intro i hi
        rw [find?_filterMap (fun _ _ => And.right ∘ mem_of_latestCommand?) hi, latestCommand?,
          latestCommand?, latest?_append_one]
        by_cases hc : i = c.identifier
        · simp [Product.commandOf?, hc]
        · simp [Product.commandOf?, hc, Ne.symm hc]
      · rw [commandsOf_place_of_ne r hb, h.commands bot]
        congr 1
        funext i
        simp [latestCommand?, latest?_append_one, Product.commandOf?, Ne.symm hb]
    · intro key
      rw [Registry.adopt, task?_place, h.tasks key, latestTask?, latestTask?, latest?_append_one,
        Product.taskOf?, Option.none_or]

theorem FollowsBuilds.foldl_adopt {r : Registry κ} {done : List (Product κ)}
    (h : r.FollowsBuilds done) (ps : List (Product κ)) :
    (ps.foldl Registry.adopt r).FollowsBuilds (done ++ ps) := by
  induction ps generalizing r done with
  | nil => simpa using h
  | cons p rest ih => simpa using ih (h.adopt p)

theorem registered_foldl_adopt (r : Registry κ) (ps : List (Product κ)) (bot : BotType) :
    (ps.foldl Registry.adopt r).registered bot = r.registered bot := by
  induction ps generalizing r with
  | nil => rfl
  | cons p rest ih => rw [List.foldl_cons, ih, registered_adopt]

/-! ## Registration -/

/-- The registry after an attempt to register each of some commands. A command that is refused
changes nothing. -/
def enroll (r : Registry κ) (ts : List (CommandTemplate κ)) : Registry κ :=
  ts.foldl (fun r t => match r.addCommand t with | .ok next => next | .error _ => r) r

/-- The registry after an attempt to register each of some tasks. -/
def enrollTasks (r : Registry κ) (ts : List TaskTemplate) : Registry κ :=
  ts.foldl (fun r t => match r.addTask t with | .ok next => next | .error _ => r) r

/-- Commands and tasks, registered one after another, of which nothing is live. -/
def ofTemplates (commands : List (CommandTemplate κ)) (tasks : List TaskTemplate) : Registry κ :=
  (enroll {} commands).enrollTasks tasks

/-- No two commands of a bot type share an identifier, and neither do two tasks. -/
structure Distinct (r : Registry κ) : Prop where
  commands :
    r.commands.Pairwise fun t u => ¬(t.botType = u.botType ∧ t.identifier = u.identifier)
  tasks : r.tasks.Pairwise fun t u => ¬(t.botType = u.botType ∧ t.identifier = u.identifier)

/-- Templates are registered, and nothing has been built of them. -/
structure Unbuilt (r : Registry κ) : Prop extends r.Distinct where
  live : r.live = []
  liveTasks : r.liveTasks = []

theorem Unbuilt.followsBuilds {r : Registry κ} (h : r.Unbuilt) : r.FollowsBuilds [] where
  commands bot := by simp [commandsOf, h.live, latestCommand?, latest?]
  tasks key := by simp [task?, h.liveTasks, latestTask?, latest?]

theorem Unbuilt.addCommand {r next : Registry κ} {t : CommandTemplate κ} (h : r.Unbuilt)
    (added : r.addCommand t = .ok next) : next.Unbuilt := by
  unfold Registry.addCommand at added
  split at added
  · cases added
  · next fresh =>
    cases added
    refine ⟨⟨List.pairwise_append.mpr ⟨h.commands, List.pairwise_singleton _ _, ?_⟩, h.tasks⟩,
      h.live, h.liveTasks⟩
    intro u hu v hv same
    obtain rfl := List.mem_singleton.mp hv
    refine fresh (List.any_eq_true.mpr ⟨u, hu, ?_⟩)
    simp [same.1, same.2]

theorem Unbuilt.addTask {r next : Registry κ} {t : TaskTemplate} (h : r.Unbuilt)
    (added : r.addTask t = .ok next) : next.Unbuilt := by
  unfold Registry.addTask at added
  split at added
  · cases added
  · next fresh =>
    cases added
    refine ⟨⟨h.commands, List.pairwise_append.mpr ⟨h.tasks, List.pairwise_singleton _ _, ?_⟩⟩,
      h.live, h.liveTasks⟩
    intro u hu v hv same
    obtain rfl := List.mem_singleton.mp hv
    refine fresh (List.any_eq_true.mpr ⟨u, hu, ?_⟩)
    simp [same.1, same.2]

theorem Unbuilt.enroll {r : Registry κ} (h : r.Unbuilt) (ts : List (CommandTemplate κ)) :
    (r.enroll ts).Unbuilt := by
  induction ts generalizing r with
  | nil => exact h
  | cons t rest ih =>
    rw [Registry.enroll, List.foldl_cons, ← Registry.enroll]
    cases ht : r.addCommand t with
    | error e => exact ih h
    | ok next => exact ih (h.addCommand ht)

theorem Unbuilt.enrollTasks {r : Registry κ} (h : r.Unbuilt) (ts : List TaskTemplate) :
    (r.enrollTasks ts).Unbuilt := by
  induction ts generalizing r with
  | nil => exact h
  | cons t rest ih =>
    rw [Registry.enrollTasks, List.foldl_cons, ← Registry.enrollTasks]
    cases ht : r.addTask t with
    | error e => exact ih h
    | ok next => exact ih (h.addTask ht)

theorem unbuilt_ofTemplates (commands : List (CommandTemplate κ)) (tasks : List TaskTemplate) :
    (ofTemplates commands tasks).Unbuilt :=
  have blank : ({} : Registry κ).Unbuilt := ⟨⟨.nil, .nil⟩, rfl, rfl⟩
  (blank.enroll commands).enrollTasks tasks

theorem Distinct.nodup_registered {r : Registry κ} (h : r.Distinct) (bot : BotType) :
    (r.registered bot).Nodup := by
  unfold registered
  rw [List.nodup_iff_pairwise_ne, List.pairwise_map, List.pairwise_filter]
  refine h.commands.imp ?_
  intro t u apart ht hu same
  rw [decide_eq_true_eq] at ht hu
  exact apart ⟨ht.trans hu.symm, same⟩

/-- The matcher that a bot type has registered under an identifier. -/
def matcherOf? (r : Registry κ) (bot : BotType) (identifier : String) : Option Matcher :=
  (r.commands.find? fun t => t.botType = bot ∧ t.identifier = identifier).map
    CommandTemplate.matcher

theorem Distinct.matcherOf?_eq {r : Registry κ} (h : r.Distinct) {t : CommandTemplate κ}
    (ht : t ∈ r.commands) : r.matcherOf? t.botType t.identifier = some t.matcher := by
  have found : r.commands.find? (fun u => u.botType = t.botType ∧ u.identifier = t.identifier)
      = some t := by
    have distinct := h.commands
    generalize r.commands = ts at ht distinct
    induction ts with
    | nil => cases ht
    | cons u rest ih =>
      obtain ⟨apart, hrest⟩ := List.pairwise_cons.mp distinct
      rcases List.mem_cons.mp ht with rfl | ht
      · simp
      · have differs := apart t ht
        rw [List.find?_cons_of_neg (by simpa using differs)]
        exact ih ht hrest
  rw [matcherOf?, found, Option.map_some]

end Registry

/-- Which command is found depends on the answers that belong to the identifiers. -/
theorem LiveSet.identifier_of_search {κ : Type} {s : LiveSet κ} {i : Input}
    {answer : String → Except String Bool}
    (same : ∀ c ∈ s.commands, answer c.identifier = c.matcher.answer i) :
    (s.search i).map (Option.map Command.identifier) = s.identifiers.findM? answer := by
  obtain ⟨bot, commands⟩ := s
  induction commands with
  | nil => rfl
  | cons c rest ih =>
    obtain ⟨here, later⟩ := List.forall_mem_cons.mp same
    have next : (⟨bot, c :: rest⟩ : LiveSet κ).identifiers.findM? answer =
        (answer c.identifier >>= fun takes =>
          if takes then pure (some c.identifier)
          else (⟨bot, rest⟩ : LiveSet κ).identifiers.findM? answer) := by
      rw [identifiers, List.map_cons, List.findM?]
      congr 1
      funext takes
      cases takes <;> rfl
    rw [search_cons, next, here]
    cases c.matcher.answer i with
    | error m => rfl
    | ok takes =>
      cases takes with
      | true => rfl
      | false => exact ih later

namespace Workshop

variable {κ : Type}

/-- The products of a history are made of registered templates, with their matchers. -/
theorem template_of_mem_products {w : Workshop κ} {acts : List Act} {bot : BotType}
    {c : Command κ} (h : .command bot c ∈ w.products acts) :
    ∃ t ∈ w.registry.commands,
      t.botType = bot ∧ t.identifier = c.identifier ∧ t.matcher = c.matcher := by
  induction acts generalizing w with
  | nil => cases h
  | cons a rest ih =>
    rcases List.mem_append.mp h with now | later
    · -- Only a build of a command template makes a command.
      have of_product : ∀ ref, w.product? ref = some (.command bot c) →
          ∃ t ∈ w.registry.commands,
            t.botType = bot ∧ t.identifier = c.identifier ∧ t.matcher = c.matcher := by
        intro ref href
        cases ref with
        | task i =>
          obtain ⟨t, -, ht⟩ := Option.bind_eq_some_iff.mp href
          obtain ⟨made, -, hm⟩ := Option.map_eq_some_iff.mp ht
          cases hm
        | command i =>
          obtain ⟨t, hi, ht⟩ := Option.bind_eq_some_iff.mp href
          obtain ⟨made, hbuilt, hm⟩ := Option.map_eq_some_iff.mp ht
          cases hm
          refine ⟨t, List.mem_of_getElem? hi, rfl, ?_⟩
          unfold CommandTemplate.build at hbuilt
          cases hr : t.executor.resolve w.source w.files t.botType t.identifier with
          | error e => rw [hr] at hbuilt; cases hbuilt
          | ok run => rw [hr] at hbuilt; cases hbuilt; exact ⟨rfl, rfl⟩
      have made := Option.mem_toList.mp now
      cases a with
      | opening s =>
        cases s with
        | build t => exact of_product t made
        | subscribe t => cases made
      | rebuild t => exact of_product t made
      | files t => cases made
    · obtain ⟨t, ht, same⟩ := ih later
      rw [registry_act] at ht
      cases hp : w.productOf? a with
      | none => rw [hp] at ht; exact ⟨t, ht, same⟩
      | some p => rw [hp] at ht; exact ⟨t, by simpa using ht, same⟩

/-- What is live after a history are its latest products. -/
theorem followsBuilds_perform {w : Workshop κ} (h : w.registry.Unbuilt) (acts : List Act) :
    (w.perform acts).registry.FollowsBuilds (w.products acts) := by
  rw [registry_perform]
  simpa using h.followsBuilds.foldl_adopt (w.products acts)

/-- The live commands of a bot type have the matchers that are registered for their identifiers. -/
theorem matcherOf?_of_mem_perform {w : Workshop κ} (h : w.registry.Unbuilt) (acts : List Act)
    {bot : BotType} {c : Command κ}
    (hc : c ∈ ((w.perform acts).registry.commandsOf bot).commands) :
    w.registry.matcherOf? bot c.identifier = some c.matcher := by
  rw [(followsBuilds_perform h acts).commands bot] at hc
  obtain ⟨i, -, hi⟩ := List.mem_filterMap.mp hc
  obtain ⟨t, ht, rfl, sameName, sameMatcher⟩ :=
    template_of_mem_products (mem_of_latestCommand? hi).1
  rw [← sameName, ← sameMatcher]
  exact h.matcherOf?_eq ht

/-- The identifiers that are live after a history are the registered ones that have been built. -/
theorem identifiers_perform {w : Workshop κ} (h : w.registry.Unbuilt) (acts : List Act)
    (bot : BotType) :
    ((w.perform acts).registry.commandsOf bot).identifiers =
      (w.registry.registered bot).filter fun i =>
        (latestCommand? (w.products acts) bot i).isSome := by
  have same : (w.perform acts).registry.registered bot = w.registry.registered bot := by
    rw [registry_perform, Registry.registered_foldl_adopt]
  rw [LiveSet.identifiers, (followsBuilds_perform h acts).commands bot, same,
    identifiers_filterMap fun _ _ => And.right ∘ mem_of_latestCommand?]

/-- Where an input goes depends on which identifiers are live, and not on their builds. -/
theorem identifier_of_routed {w : Workshop κ} (h : w.registry.Unbuilt) (acts : List Act)
    (bot : BotType) (i : Input) :
    (((w.perform acts).registry.commandsOf bot).search i).map (Option.map Command.identifier) =
      ((w.perform acts).registry.commandsOf bot).identifiers.findM? fun name =>
        ((w.registry.matcherOf? bot name).map fun m => m.answer i).getD (.ok false) := by
  refine LiveSet.identifier_of_search fun c hc => ?_
  rw [matcherOf?_of_mem_perform h acts hc]
  rfl

/-- **Live commands follow the builds.** Commands are registered one after another, and then any
history of first builds, builds anew and changes of the files takes place. An opening is such a
history: that of its steps, up to the first that fails. At every moment the live commands of a bot
type stand in the order of registration, none twice, and they are the latest successful builds; a
build that fails, or is of another bot type, changes nothing; and when all commands of a bot type
have been built, no later history changes to which of them an input goes. -/
theorem live_commands_follow_builds (w : Workshop κ) (commands : List (CommandTemplate κ))
    (tasks : List TaskTemplate) :
    let start : Workshop κ := { w with registry := .ofTemplates commands tasks }
    (∃ front back, start.openingSteps = front ++ back ∧
      start.openAll.2 = start.perform (front.map .opening) ∧
      (start.openAll.1 = none ∧ back = [] ∨
        ∃ e s rest, start.openAll.1 = some e ∧ back = s :: rest ∧
          start.openAll.2.openStep s = .error e)) ∧
    ∀ acts,
      let now := start.perform acts
      (∀ bot,
        (now.registry.commandsOf bot).identifiers.Sublist (start.registry.registered bot) ∧
        (now.registry.commandsOf bot).identifiers.Nodup ∧
        ∀ c, c ∈ (now.registry.commandsOf bot).commands ↔
          latestCommand? (start.products acts) bot c.identifier = some c) ∧
      (∀ t e, now.build t = .error e →
        (now.act (.rebuild t)).registry = now.registry ∧
        (now.act (.opening (.build t))).registry = now.registry) ∧
      (∀ k t, now.registry.commands[k]? = some t → ∀ bot, bot ≠ t.botType →
        (now.act (.rebuild (.command k))).registry.commandsOf bot =
          now.registry.commandsOf bot) ∧
      (∀ bot, (now.registry.commandsOf bot).identifiers = start.registry.registered bot →
        ∀ (more : List Act) (i : Input),
          (((now.perform more).registry.commandsOf bot).search i).map
              (Option.map Command.identifier) =
            ((now.registry.commandsOf bot).search i).map (Option.map Command.identifier)) := by
  intro start
  have unbuilt : start.registry.Unbuilt := Registry.unbuilt_ofTemplates commands tasks
  refine ⟨start.openBy_spec start.openingSteps, ?_⟩
  intro acts now
  refine ⟨?order, ?failure, ?others, ?routing⟩
  case order =>
    intro bot
    have identifiers := identifiers_perform unbuilt acts bot
    refine ⟨?_, ?_, ?_⟩
    · rw [identifiers]
      exact List.filter_sublist
    · rw [identifiers]
      exact (unbuilt.nodup_registered bot).filter _
    · intro c
      have live := (followsBuilds_perform unbuilt acts).commands bot
      rw [registry_perform, Registry.registered_foldl_adopt, ← registry_perform] at live
      rw [live, List.mem_filterMap]
      constructor
      · rintro ⟨i, -, hi⟩
        rwa [(mem_of_latestCommand? hi).2]
      · intro latest
        obtain ⟨t, ht, sameBot, sameName, -⟩ :=
          template_of_mem_products (mem_of_latestCommand? latest).1
        refine ⟨c.identifier, ?_, latest⟩
        refine List.mem_map.mpr ⟨t, List.mem_filter.mpr ⟨ht, ?_⟩, sameName⟩
        exact decide_eq_true sameBot
  case failure =>
    intro t e failed
    have none_made := product?_of_build_error failed
    constructor
    · rw [registry_act, productOf?, none_made]
      rfl
    · rw [registry_act, productOf?, none_made]
      rfl
  case others =>
    intro k t ht bot apart
    rw [registry_act, productOf?, product?, ht, Option.bind_some]
    cases (t.build now.source now.files).toOption with
    | none => rfl
    | some c => exact Registry.commandsOf_place_of_ne _ apart c
  case routing =>
    intro bot complete more i
    -- What has been built stays built, so the live identifiers are the same before and after.
    have built := identifiers_perform unbuilt acts bot
    rw [complete, eq_comm, List.filter_eq_self] at built
    have still : ((start.perform (acts ++ more)).registry.commandsOf bot).identifiers =
        start.registry.registered bot := by
      rw [identifiers_perform unbuilt, List.filter_eq_self]
      intro name hname
      rw [products_append]
      exact isSome_latest?_append (built name hname) _
    rw [← perform_append, identifier_of_routed unbuilt, still,
      identifier_of_routed unbuilt, complete]

end Workshop

end Switchboard
