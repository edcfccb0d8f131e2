import Switchboard.Proofs.HotReload
import Switchboard.Proofs.WatchCalls

/-!
# The first subscriber of a file

The registry tells templates apart by their kind, their bot type and their identifier; the watcher
tells subscriptions apart by their directory and their identifier. So a command and a task of one
identifier, or templates of bot types that share a directory, are all registered, but only the first
of them in the order of the opening gets a subscription: the others are refused, which is told and
does not fail the opening. `IsFirst` is that order.

After an opening whose calls to the operating system all succeed, the subscriptions are those of the
first templates (`isOccupied_openAll`), and they stay the same while the watcher runs. Therefore a
write of the file of a first template is followed by a build of that template, and other templates
are never built anew (`only_first_subscribers_are_rebuilt`).
-/

namespace Switchboard

namespace Watches

variable {α : Type} {w : Watches α} {s t : Subscription α} {dir path : FilePath}

/-- Somebody waits for the file of an identifier. -/
def IsTaken (w : Watches α) (path : FilePath) (identifier : String) : Prop :=
  ∃ s, w.Has path s ∧ s.identifier = identifier

/-- If the operating system accepts, a subscription is refused just if somebody waits already; the
others stay. -/
theorem has_subscribe_iff {os : DirectoryWatch} (accepts : os.add path = none) :
    (w.subscribe os path s).2.Has dir t ↔
      w.Has dir t ∨ (dir.same path = true ∧ t = s ∧ ¬w.IsTaken path s.identifier) := by
  unfold subscribe
  cases found : w.directory? path with
  | some d =>
    have here : d.path.same path = true := (mem_of_directory? found).2
    have taken : w.IsTaken path s.identifier ↔
        (d.subscriptions.any fun u => u.identifier == s.identifier) = true := by
      simp [IsTaken, Has, found]
    dsimp only
    split
    · next busy => simp [taken, busy]
    · next free =>
      simp only [taken, free, Bool.false_eq_true, not_false_eq_true, and_true]
      unfold Has
      rw [directory?_append]
      by_cases same : dir.same path = true
      · rw [directory?_of_same same, found]
        simp [here, same]
      · cases other : w.directory? dir with
        | none => simp [same]
        | some e =>
          have apart : ¬e.path.same path = true := fun there =>
            same (FilePath.same_trans (FilePath.same_symm (mem_of_directory? other).2) there)
          simp [apart, same]
  | none =>
    have free : ¬w.IsTaken path s.identifier := by simp [IsTaken, Has, found]
    dsimp only
    rw [accepts]
    simp only [free, not_false_eq_true, and_true]
    unfold Has directory?
    rw [List.find?_append, List.find?_singleton]
    by_cases same : dir.same path = true
    · have none_there : w.directories.find? (fun d => d.path.same dir) = none := by
        have := directory?_of_same (w := w) same
        rw [found] at this
        exact this
      rw [none_there]
      simp [FilePath.same_symm same, same]
    · have elsewhere : ¬path.same dir = true := fun h => same (FilePath.same_symm h)
      simp [elsewhere, same]

theorem IsSound.has_of_mem (h : w.IsSound) {d : WatchedDirectory α} (hd : d ∈ w.directories)
    (hs : s ∈ d.subscriptions) : w.Has d.path s := by
  have found : (w.directory? d.path).isSome :=
    isSome_directory?.mpr ⟨d.path, List.mem_map_of_mem hd, FilePath.same_refl _⟩
  obtain ⟨e, he⟩ := Option.isSome_iff_exists.mp found
  obtain ⟨mem, same⟩ := mem_of_directory? he
  obtain rfl := h.eq_of_same mem hd same
  exact ⟨e, he, hs⟩

end Watches

namespace Workshop

variable {κ : Type} {w v : Workshop κ} {base : FilePath} {t u : TemplateRef}

/-! ## The first of each place -/

/-- Where the watcher keeps the subscription of a template: its directory and its identifier. -/
def slot? (w : Workshop κ) (base : FilePath) (t : TemplateRef) :
    Option ((Bool × List String) × String) :=
  (w.subscriber? t).map fun name => ((Source.directoryFor base name.1).place, name.2)

/-- A template is the first of some that has its slot. -/
def IsFirstOf (w : Workshop κ) (base : FilePath) (ts : List TemplateRef) (t : TemplateRef) : Prop :=
  ∃ slot, w.slot? base t = some slot ∧ ts.find? (fun u => w.slot? base u = some slot) = some t

instance (w : Workshop κ) (base : FilePath) (ts : List TemplateRef) (t : TemplateRef) :
    Decidable (w.IsFirstOf base ts t) :=
  decidable_of_iff
    ((w.slot? base t).any (fun slot =>
      decide (ts.find? (fun u => w.slot? base u = some slot) = some t)) = true)
    (by simp [IsFirstOf, Option.any_eq_true])

theorem isFirstOf_append_one {ts : List TemplateRef} :
    w.IsFirstOf base (ts ++ [u]) t ↔ w.IsFirstOf base ts t ∨
      (t = u ∧ ∃ slot, w.slot? base u = some slot ∧ ∀ v ∈ ts, w.slot? base v ≠ some slot) := by
  have alone : ∀ slot, [u].find? (fun v => decide (w.slot? base v = some slot)) = some t ↔
      t = u ∧ w.slot? base u = some slot := by
    intro slot
    rw [List.find?_singleton]
    by_cases here : w.slot? base u = some slot
    · simp [here, eq_comm]
    · simp [here]
  unfold IsFirstOf
  constructor
  · rintro ⟨slot, own, found⟩
    rw [List.find?_append] at found
    cases earlier : ts.find? (fun v => decide (w.slot? base v = some slot)) with
    | some v =>
      rw [earlier, Option.some_or] at found
      exact .inl ⟨slot, own, earlier.trans found⟩
    | none =>
      rw [earlier, Option.none_or, alone] at found
      obtain ⟨same, here⟩ := found
      refine .inr ⟨same, slot, here, fun v hv => ?_⟩
      simpa using List.find?_eq_none.mp earlier v hv
  · rintro (⟨slot, own, found⟩ | ⟨rfl, slot, own, free⟩)
    · exact ⟨slot, own, by rw [List.find?_append, found, Option.some_or]⟩
    · refine ⟨slot, own, ?_⟩
      have earlier : ts.find? (fun v => decide (w.slot? base v = some slot)) = none :=
        List.find?_eq_none.mpr fun v hv => by simpa using free v hv
      rw [List.find?_append, earlier, Option.none_or, alone]
      exact ⟨rfl, own⟩

/-- If some template has a slot, one is the first. -/
theorem exists_isFirstOf {ts : List TemplateRef} {slot : (Bool × List String) × String}
    (mem : u ∈ ts) (own : w.slot? base u = some slot) :
    ∃ t, w.IsFirstOf base ts t ∧ w.slot? base t = some slot := by
  cases found : ts.find? (fun v => decide (w.slot? base v = some slot)) with
  | none =>
    have := List.find?_eq_none.mp found u mem
    simp [own] at this
  | some t =>
    have here : w.slot? base t = some slot := by simpa using List.find?_some found
    exact ⟨t, ⟨slot, here, found⟩, here⟩

/-! ## Openings -/

/-- The watcher runs, and its subscriptions are those of the first of some templates. -/
structure IsOccupied (w : Workshop κ) (base : FilePath) (ts : List TemplateRef)
    (x : Watcher RebuildTarget) : Prop where
  watcher : w.watcher = some x
  runs : x.Runs base
  sound : x.watches.IsSound
  has : ∀ dir s, x.watches.Has dir s ↔ ∃ t bot identifier, w.IsFirstOf base ts t ∧
    w.subscriber? t = some (bot, identifier) ∧
    dir.same (Source.directoryFor base bot) = true ∧ s = ⟨bot, identifier, ⟨w.replaced, t⟩⟩

section Occupied

variable {ts : List TemplateRef} {x y : Watcher RebuildTarget}

theorem isFirstOf_congr (same : ∀ u, v.subscriber? u = w.subscriber? u) :
    v.IsFirstOf base ts t ↔ w.IsFirstOf base ts t := by
  have slots : v.slot? base = w.slot? base := funext fun u => by rw [slot?, slot?, same u]
  rw [IsFirstOf, IsFirstOf, slots]

/-- Only who has subscribed matters. -/
theorem IsOccupied.of_watcher (h : w.IsOccupied base ts x)
    (same : ∀ u, v.subscriber? u = w.subscriber? u) (replaced : v.replaced = w.replaced)
    (watcher : v.watcher = some y) (runs : y.Runs base) (sound : y.watches.IsSound)
    (directories : y.watches.directories = x.watches.directories) : v.IsOccupied base ts y := by
  refine ⟨watcher, runs, sound, ?_⟩
  intro dir s
  have has : y.watches.Has dir s ↔ x.watches.Has dir s := by
    rw [Watches.Has, Watches.directory?, directories]
    rfl
  simp only [has, h.has, isFirstOf_congr same, same, replaced]

/-- Somebody waits for a file of a bot type if a template has that slot. -/
theorem IsOccupied.isTaken_iff (h : w.IsOccupied base ts x) {bot : BotType} {identifier : String} :
    x.watches.IsTaken (Source.directoryFor base bot) identifier ↔
      ∃ v ∈ ts, w.slot? base v = some ((Source.directoryFor base bot).place, identifier) := by
  constructor
  · rintro ⟨s, has, rfl⟩
    obtain ⟨v, bot', identifier', ⟨slot, own, first⟩, subscriber, here, rfl⟩ := (h.has _ s).mp has
    refine ⟨v, List.mem_of_find?_eq_some first, ?_⟩
    rw [slot?, subscriber, Option.map_some, FilePath.same_iff.mp here]
  · rintro ⟨v, mem, own⟩
    obtain ⟨t, first, own⟩ := exists_isFirstOf mem own
    obtain ⟨⟨bot', identifier'⟩, subscriber, same⟩ := Option.map_eq_some_iff.mp own
    obtain ⟨place, rfl⟩ := Prod.mk.inj same
    exact ⟨_, (h.has _ _).mpr ⟨t, bot', identifier', first, subscriber,
      FilePath.same_iff.mpr place.symm, rfl⟩, rfl⟩

/-- Another template gets a subscription if it is the first with its slot, and changes nothing if it
is not. -/
theorem IsOccupied.subscribe (h : w.IsOccupied base ts x)
    (accepts : ∀ path, w.os.add path = none) (u : TemplateRef) :
    ∃ y, (w.subscribe u).IsOccupied base (ts ++ [u]) y := by
  have same : w.SameGround (w.subscribe u) := sameGround_openStep (s := .subscribe u) rfl
  cases hu : w.subscriber? u with
  | none =>
    have frame : w.subscribe u = w := by simp [Workshop.subscribe, h.watcher, hu]
    have no_slot : w.slot? base u = none := by rw [slot?, hu, Option.map_none]
    rw [frame]
    refine ⟨x, h.watcher, h.runs, h.sound, ?_⟩
    intro dir s
    simp only [h.has, isFirstOf_append_one, no_slot, reduceCtorEq, false_and, exists_false,
      and_false, or_false]
  | some name =>
    obtain ⟨bot, identifier⟩ := name
    let s : Subscription RebuildTarget := ⟨bot, identifier, ⟨w.replaced, u⟩⟩
    let y := { x with watches := (x.watches.subscribe w.os (Source.directoryFor base bot) s).2 }
    have watcher : (w.subscribe u).watcher = some y := by
      obtain ⟨granted, refused⟩ := subscribe_eq h.watcher h.runs hu
      cases answer : (x.watches.subscribe w.os (Source.directoryFor base bot) s).1 with
      | ok _ => rw [granted answer]
      | error e => rw [refused e answer]; rfl
    have own : w.slot? base u = some ((Source.directoryFor base bot).place, identifier) := by
      rw [slot?, hu, Option.map_some]
    refine ⟨y, watcher, ⟨h.runs.base, h.runs.running, h.runs.alive⟩, h.sound.subscribe _ _ _, ?_⟩
    intro dir s'
    simp only [same.subscriber?, same.replaced, isFirstOf_congr same.subscriber?]
    rw [Watches.has_subscribe_iff (accepts _), h.has, h.isTaken_iff]
    simp only [isFirstOf_append_one]
    constructor
    · rintro (⟨t, bot', identifier', first, rest⟩ | ⟨here, rfl, free⟩)
      · exact ⟨t, bot', identifier', .inl first, rest⟩
      · refine ⟨u, bot, identifier, .inr ⟨rfl, _, own, ?_⟩, hu, here, rfl⟩
        exact fun v hv taken => free ⟨v, hv, taken⟩
    · rintro ⟨t, bot', identifier', first | ⟨rfl, slot, own', free⟩, subscriber, here, rfl⟩
      · exact .inl ⟨t, bot', identifier', first, subscriber, here, rfl⟩
      · rw [hu] at subscriber
        cases subscriber
        rw [own] at own'
        cases own'
        refine .inr ⟨here, rfl, ?_⟩
        rintro ⟨v, hv, taken⟩
        exact free v hv taken

theorem IsOccupied.buildFirst (h : w.IsOccupied base ts x) (built : w.buildFirst u = .ok v) :
    v.IsOccupied base ts x := by
  have same : w.SameGround v := sameGround_openStep (s := .build u) built
  obtain ⟨registry, feed, notes, frame, -⟩ := frame_buildFirst built
  have watcher : v.watcher = some x := by rw [frame]; exact h.watcher
  exact h.of_watcher same.subscriber? same.replaced watcher h.runs h.sound rfl

/-- An opening subscribes the first of its templates, if the operating system accepts. -/
theorem IsOccupied.openBy (h : w.IsOccupied base ts x) (accepts : ∀ path, w.os.add path = none)
    {us : List TemplateRef}
    (ok : (w.openBy (us.flatMap fun t => [.build t, .subscribe t])).1 = none) :
    ∃ y, (w.openBy (us.flatMap fun t => [.build t, .subscribe t])).2.IsOccupied base (ts ++ us)
      y := by
  induction us generalizing w ts x with
  | nil => exact ⟨x, by rwa [List.append_nil]⟩
  | cons u rest ih =>
    rw [List.flatMap_cons, List.cons_append, List.cons_append, List.nil_append] at ok ⊢
    cases built : w.buildFirst u with
    | error e => simp [Workshop.openBy, openStep, built] at ok
    | ok v =>
      simp only [Workshop.openBy, openStep, built] at ok ⊢
      obtain ⟨registry, feed, notes, frame, -⟩ := frame_buildFirst built
      have accepts_v : ∀ path, v.os.add path = none := by rw [frame]; exact accepts
      obtain ⟨watcher, notes', frame', -⟩ := frame_subscribe v u
      have accepts_next : ∀ path, (v.subscribe u).os.add path = none := by
        rw [frame']; exact accepts_v
      obtain ⟨y, occupied⟩ := (h.buildFirst built).subscribe accepts_v u
      rw [List.append_cons]
      exact ih occupied accepts_next ok

/-! ## While the watcher runs -/

/-- The targets that are called belong to subscriptions. -/
theorem exists_has_of_target {x : Watcher RebuildTarget} (sound : x.watches.IsSound)
    {os : DirectoryWatch} {files : FileTree} {now : Nat} {target : RebuildTarget}
    (called : target ∈ (x.act os files now).2.1) :
    ∃ dir s, x.watches.Has dir s ∧ s.target = target := by
  unfold Watcher.act at called
  split at called
  · cases called
  · split at called
    · cases called
    · cases called
    · obtain ⟨p, -, mem⟩ := List.mem_flatMap.mp called
      unfold Watches.targets at mem
      split at mem
      · next d stem around _ =>
        obtain ⟨s, hs, rfl⟩ := List.mem_map.mp mem
        have there := (Watches.mem_of_around? around).1
        exact ⟨d.path, s, sound.has_of_mem there (List.mem_filter.mp hs).1, rfl⟩
      · cases mem

/-- Only first templates are built anew. -/
theorem IsOccupied.isFirstOf_of_roused (h : w.IsOccupied base ts x) (mem : t ∈ w.roused.2) :
    w.IsFirstOf base ts t := by
  simp only [roused, h.watcher] at mem
  obtain ⟨target, called, rfl⟩ := List.mem_map.mp mem
  obtain ⟨dir, s, has, rfl⟩ := exists_has_of_target h.sound (List.mem_filter.mp called).1
  obtain ⟨t, bot, identifier, first, -, -, rfl⟩ := (h.has dir s).mp has
  exact first

/-- A first template is subscribed. -/
theorem IsOccupied.isSubscribed (h : w.IsOccupied base ts x) (first : w.IsFirstOf base ts t) :
    w.IsSubscribed base t := by
  refine ⟨x, h.watcher, h.runs, ?_⟩
  intro bot identifier subscriber
  exact (h.has _ _).mpr ⟨t, bot, identifier, first, subscriber, FilePath.same_refl _, rfl⟩

end Occupied

end Workshop

namespace Reload

variable {κ : Type} {r : Reload κ} {base : FilePath} {t : TemplateRef} {bot : BotType}
  {identifier : String} {ts : List TemplateRef}

theorem subscriber?_run (r : Reload κ) (moves : List Move) (u : TemplateRef) :
    (r.run moves).workshop.subscriber? u = r.workshop.subscriber? u := by
  obtain ⟨commands, tasks⟩ := r.templates_run moves
  cases u <;> simp only [Workshop.subscriber?, commands, tasks]

theorem replaced_move (r : Reload κ) (m : Move) :
    (r.move m).workshop.replaced = r.workshop.replaced := by
  cases m with
  | deliver k => cases he : r.underway[k]? <;> simp [move, he, Workshop.report]
  | watch => exact r.workshop.replaced_watch
  | edit files events => rfl
  | report e => rfl
  | pass ms => rfl

/-- A watcher runs on, with the directories that it watches. -/
theorem exists_watcher_move {x : Watcher RebuildTarget} (hx : r.workshop.watcher = some x)
    (runs : x.Runs base) (sound : x.watches.IsSound) (m : Move) :
    ∃ y, (r.move m).workshop.watcher = some y ∧ y.Runs base ∧ y.watches.IsSound ∧
      y.watches.directories = x.watches.directories := by
  have reported : ∀ e, ∃ y, (r.workshop.report e).watcher = some y ∧ y.Runs base ∧
      y.watches.IsSound ∧ y.watches.directories = x.watches.directories := by
    intro e
    have watcher : (r.workshop.report e).watcher = some { x with inbox := x.inbox ++ [e] } := by
      simp [Workshop.report, hx, Watcher.deliver, runs.alive]
    exact ⟨_, watcher, ⟨runs.base, runs.running, runs.alive⟩, sound, rfl⟩
  cases m with
  | edit files events => exact ⟨x, hx, runs, sound, rfl⟩
  | deliver k =>
    rcases r.move_deliver k with stays | ⟨e, underway, delivered, -⟩
    · rw [stays]
      exact ⟨x, hx, runs, sound, rfl⟩
    · rw [delivered]
      exact reported (.event e)
  | report e => exact reported e
  | watch =>
    obtain ⟨runs', directories⟩ :=
      Watcher.runs_act runs r.workshop.os r.workshop.files r.workshop.now
    have sound' := Watcher.isSound_act sound r.workshop.os r.workshop.files r.workshop.now
    exact ⟨_, watcher_watch hx, runs', sound', directories⟩
  | pass ms => exact ⟨x, hx, runs, sound, rfl⟩

/-- The watcher's subscriptions are those of first templates, whatever happens to the files. -/
theorem isOccupied_move (h : ∃ x, r.workshop.IsOccupied base ts x) (m : Move) :
    ∃ x, (r.move m).workshop.IsOccupied base ts x := by
  obtain ⟨x, h⟩ := h
  obtain ⟨y, hy, runs, sound, directories⟩ := exists_watcher_move h.watcher h.runs h.sound m
  exact ⟨y, h.of_watcher (r.subscriber?_run [m]) (r.replaced_move m) hy runs sound directories⟩

theorem isOccupied_run (h : ∃ x, r.workshop.IsOccupied base ts x) (moves : List Move) :
    ∃ x, (r.run moves).workshop.IsOccupied base ts x := by
  induction moves generalizing r with
  | nil => exact h
  | cons m rest ih => exact ih (isOccupied_move h m)

/-- What is on its way in a watched directory stays on its way, unless the move flushes it. -/
theorem IsComing.move (coming : r.IsComing (Source.candidates base bot identifier))
    {x : Watcher RebuildTarget} (hx : r.workshop.watcher = some x) (runs : x.Runs base)
    (hid : FilePath.IsName identifier)
    (watched : (x.watches.directory? (Source.directoryFor base bot)).isSome) {m : Move}
    (announces : m.Announces (Source.candidates base bot identifier) r.workshop.files) :
    (m = .watch ∧ x.Flushes r.workshop.now (Source.candidates base bot identifier)) ∨
      (r.move m).IsComing (Source.candidates base bot identifier) := by
  cases m with
  | edit files events => exact .inr (coming.edit announces)
  | deliver k =>
    rcases r.move_deliver k with stays | ⟨e, underway, reported, sub⟩
    · rw [stays]
      exact .inr coming
    · rw [reported]
      exact .inr (coming.report hx runs sub)
  | report e => exact .inr (coming.report hx runs fun _ he => .inr he)
  | watch =>
    exact (coming.roused hx runs hid watched).imp (fun flushes => ⟨rfl, flushes⟩) isComing_watch
  | pass ms => exact .inr coming

/-- A write that is on its way to a first template is followed by a build of that template before
everything has settled. -/
theorem IsComing.exists_rebuilt {moves : List Move}
    (coming : r.IsComing (Source.candidates base bot identifier))
    (occupied : ∃ x, r.workshop.IsOccupied base ts x) (first : r.workshop.IsFirstOf base ts t)
    (subscriber : r.workshop.subscriber? t = some (bot, identifier))
    (hid : FilePath.IsName identifier)
    (announced : Announced (Source.candidates base bot identifier) r.workshop.files moves)
    (settled : (r.run moves).IsSettled) :
    ∃ before after, moves = before ++ .watch :: after ∧ t ∈ (r.run before).workshop.roused.2 := by
  induction moves generalizing r with
  | nil =>
    obtain ⟨x, h⟩ := occupied
    exact absurd coming (settled.not_isComing h.watcher h.runs _)
  | cons m rest ih =>
    obtain ⟨x, h⟩ := occupied
    obtain ⟨announces, later⟩ := announced
    have has := (h.has _ _).mpr ⟨t, bot, identifier, first, subscriber, FilePath.same_refl _, rfl⟩
    rcases coming.move h.watcher h.runs hid has.isSome_directory? announces with
      ⟨rfl, flushes⟩ | still
    · exact ⟨[], rest, rfl, mem_roused h.watcher h.runs hid has flushes⟩
    · have same : ∀ u, (r.move m).workshop.subscriber? u = r.workshop.subscriber? u :=
        r.subscriber?_run [m]
      rw [← files_move] at later
      obtain ⟨before, after, rfl, called⟩ := ih still (isOccupied_move ⟨x, h⟩ m)
        ((Workshop.isFirstOf_congr same).mpr first) ((same t).trans subscriber) later settled
      exact ⟨m :: before, after, rfl, called⟩

end Reload

namespace Workshop

variable {κ : Type}

/-- **First templates are rebuilt, and no others.** The operating system accepts to watch every
directory, and the opening succeeds. A configurable template whose identifier is the name of a file,
and which is the first of those that share its directory and its identifier, is built anew after
every write of its file that is reported, before all has settled; and if all is left alone it does
settle. A template that is not the first is never built anew. -/
theorem only_first_subscribers_are_rebuilt (w : Workshop κ) (commands : List (CommandTemplate κ))
    (tasks : List TaskTemplate) (base : FilePath) (debounce : Nat)
    (accepts : ∀ path, w.os.add path = none)
    (ok : (w.watching commands tasks base debounce).openAll.1 = none) :
    let before := w.watching commands tasks base debounce
    let start := Reload.opened before
    (∀ t bot identifier, before.IsFirstOf base before.registry.templates t →
      before.subscriber? t = some (bot, identifier) → FilePath.IsName identifier →
      ∀ (moves : List Reload.Move) (files : FileTree) (events : List FileEvent)
        (more : List Reload.Move),
        (∃ e ∈ events, e.Names files (Source.candidates base bot identifier)) →
        Reload.Announced (Source.candidates base bot identifier) files more →
        let written := (start.run moves).move (.edit files events)
        ((written.run more).IsSettled → ∃ mid rest, more = mid ++ .watch :: rest ∧
          t ∈ (written.run mid).workshop.roused.2) ∧
        ∃ rest : List Reload.Move, (∀ m ∈ rest, m.IsQuiet) ∧
          ((written.run more).run rest).IsSettled) ∧
    ∀ t, ¬before.IsFirstOf base before.registry.templates t →
      ∀ moves, t ∉ (start.run moves).workshop.roused.2 := by
  intro before start
  have unoccupied : before.IsOccupied base [] (.ofBase base debounce) := by
    refine ⟨rfl, ⟨rfl, rfl, rfl⟩, Watcher.isSound_ofBase base debounce, fun dir s => ?_⟩
    refine iff_of_false ?_ ?_
    · rintro ⟨d, found, -⟩
      cases found
    · rintro ⟨t, bot, identifier, ⟨slot, -, found⟩, -⟩
      cases found
  obtain ⟨x, opened⟩ := unoccupied.openBy accepts ok
  have occupied : ∃ x, start.workshop.IsOccupied base before.registry.templates x := ⟨x, opened⟩
  have subscriber : ∀ moves u, (start.run moves).workshop.subscriber? u = before.subscriber? u :=
    fun moves u => (start.subscriber?_run moves u).trans ((sameGround_openAll ok).subscriber? u)
  refine ⟨?first, ?others⟩
  case first =>
    intro t bot identifier first own single moves files events more announced later written
    obtain ⟨e, mem, names⟩ := announced
    have occupied := Reload.isOccupied_run occupied (moves ++ [.edit files events])
    rw [Reload.run_append] at occupied
    have same : ∀ u, written.workshop.subscriber? u = before.subscriber? u := subscriber moves
    obtain ⟨y, now_occupied⟩ := occupied
    have coming : written.IsComing (Source.candidates base bot identifier) :=
      ⟨y, now_occupied.watcher, .inr ⟨e, .inr (List.mem_append_right _ mem), names⟩⟩
    refine ⟨?_, ?_⟩
    · intro settled
      exact coming.exists_rebuilt ⟨y, now_occupied⟩ ((isFirstOf_congr same).mpr first)
        ((same t).trans own) single later settled
    · obtain ⟨z, still⟩ := Reload.isOccupied_run ⟨y, now_occupied⟩ more
      exact Reload.exists_isSettled _ still.watcher still.runs
  case others =>
    intro t other moves rebuilt
    obtain ⟨y, still⟩ := Reload.isOccupied_run occupied moves
    exact other ((isFirstOf_congr (subscriber moves)).mp (still.isFirstOf_of_roused rebuilt))

/-! ## A command and a task of one name -/

namespace Report

/-- A command with a configuration file. -/
def command : CommandTemplate Routine :=
  { Bundled.greet ⟨"slack"⟩ with identifier := "report" }

/-- A task with the same configuration file. -/
def task : TaskTemplate where
  botType := ⟨"slack"⟩
  identifier := "report"
  schedule := some "@every 1h"
  executor := TaskTemplate.configured (⟨none, none, none⟩ : TaskSettings) fun _ _ => .done []

def bare : FileTree := ({} : FileTree).makeDirectory ["conf", "slack"]

def written : FileTree :=
  bare.write ["conf", "slack", "report.yaml"] "schedule: \"@every 2s\"".toUTF8.toList

def events : List FileEvent := [⟨.content, [⟨"/conf/slack/report.yaml"⟩]⟩]

/-- The write is reported, read, at rest, and flushed. -/
def moves : List Reload.Move := [.deliver 0, .watch, .pass 10, .watch]

def workshop : Workshop Routine := watching { files := bare } [command] [task] ⟨"/conf"⟩ 10

/-- The schedule of a product that is a task. -/
def schedule? : Product Routine → Option Schedule
  | .command _ _ => none
  | .task t => some t.schedule

end Report

/-- The command comes first: it is built anew after the write, and the task never is. -/
theorem report_command_is_rebuilt :
    let start := Reload.opened Report.workshop
    let written := start.move (.edit Report.written Report.events)
    (∃ mid rest, Report.moves = mid ++ .watch :: rest ∧
      .command 0 ∈ (written.run mid).workshop.roused.2) ∧
    ∀ moves, .task 0 ∉ (start.run moves).workshop.roused.2 := by
  intro start written
  obtain ⟨first, others⟩ := only_first_subscribers_are_rebuilt
    { files := Report.bare } [Report.command] [Report.task] ⟨"/conf"⟩ 10 (fun _ => rfl)
    (by decide +kernel)
  refine ⟨?_, others (.task 0) (by decide +kernel)⟩
  have announced : Reload.Announced (Source.candidates ⟨"/conf"⟩ ⟨"slack"⟩ "report") Report.written
      Report.moves := ⟨trivial, trivial, trivial, trivial, trivial⟩
  have settled : (written.run Report.moves).IsSettled :=
    ⟨by decide +kernel, by decide +kernel, by decide +kernel⟩
  exact (first (.command 0) ⟨"slack"⟩ "report" (by decide +kernel) (by decide +kernel)
    (by decide +kernel) [] Report.written Report.events Report.moves
    (by decide +kernel) announced).1 settled

/-- Not every configurable template is built anew after a write of its file: the opening succeeds,
the file of the task is written, reported and settles, and what is live of the task is what was
built before, though a build would make another of it. -/
theorem report_task_is_not_rebuilt :
    Report.workshop.openAll.1 = none ∧
      Report.workshop.subscriber? (.task 0) = some (⟨"slack"⟩, "report") ∧
      let now := ((Reload.opened Report.workshop).move
        (.edit Report.written Report.events)).run Report.moves
      now.IsSettled ∧
        (now.workshop.product? (.task 0)).bind Report.schedule? = some (.every 2000) ∧
        (now.workshop.instance? (.task 0)).bind Report.schedule? = some (.every 3600000) :=
  ⟨by decide +kernel, by decide +kernel,
    ⟨by decide +kernel, by decide +kernel, by decide +kernel⟩, by decide +kernel,
    by decide +kernel⟩

end Workshop

end Switchboard
