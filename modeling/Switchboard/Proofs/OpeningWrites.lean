import Switchboard.Proofs.FirstSubscribers
import Switchboard.Proofs.PendingFiles

/-!
# Writes while a workshop is opened

An opening builds each template by its file as it is, and then subscribes it to the changes of that
file. `Opening` is a workshop that is being opened while others write files and the watcher acts:
the steps of the opening come in their order, and anything may happen between any two of them.

Of a template that is first with its file it is always known where it stands (`Opening.Stands`). It
is still to be built, and then earlier writes do not matter; or it has been built and subscribes
next, and it is up to date or a write is on its way; or it is subscribed, and each later write is on
its way to it. A write between the build and the subscription can break this in two ways: the
directory is not watched yet (`unwatched_write_is_lost`), or the file is flushed while nobody waits
for it (`early_flush_is_lost`). If neither happens, the opened workshop settles on the files as they
are (`other_writes_are_not_lost`).

All this is about identifiers that are names of files. One that leads below the directory of its bot
type has a file that is read and never watched (`nested_write_is_lost`).
-/

namespace Switchboard

namespace Workshop

variable {κ : Type} {w : Workshop κ} {base : FilePath} {t : TemplateRef}

/-- The steps of an opening that are for these templates. -/
def stepsFor (ts : List TemplateRef) : List OpeningStep :=
  ts.flatMap fun t => [.build t, .subscribe t]

/-- The first of all is the first of some, if it is among them. -/
theorem IsFirstOf.of_append {ts us : List TemplateRef} (h : w.IsFirstOf base (ts ++ us) t)
    (mem : t ∈ ts) : w.IsFirstOf base ts t := by
  obtain ⟨slot, own, found⟩ := h
  refine ⟨slot, own, ?_⟩
  rw [List.find?_append] at found
  cases earlier : ts.find? (fun u => decide (w.slot? base u = some slot)) with
  | some v => rwa [earlier, Option.some_or] at found
  | none =>
    have := List.find?_eq_none.mp earlier t mem
    simp [own] at this

theorem os_perform_rebuilds (w : Workshop κ) (ts : List TemplateRef) :
    (w.perform (ts.map .rebuild)).os = w.os := by
  induction ts generalizing w with
  | nil => rfl
  | cons t rest ih =>
    obtain ⟨registry, feed, notes, frame⟩ := frame_rebuild w t
    have frame : w.act (.rebuild t) = { w with registry, feed, notes } := frame
    rw [List.map_cons, perform, List.foldl_cons, ← perform, ih, frame]

theorem os_watch (w : Workshop κ) : w.watch.os = w.os := by
  rw [watch_eq, os_perform_rebuilds]
  unfold roused
  split <;> rfl

/-- A subscription leaves what the watcher has to read and to flush. -/
theorem watcher_subscribe {x : Watcher RebuildTarget} (hx : w.watcher = some x) (u : TemplateRef) :
    ∃ y, (w.subscribe u).watcher = some y ∧ y.inbox = x.inbox ∧
      y.watches.pending = x.watches.pending := by
  cases hu : w.subscriber? u with
  | none =>
    refine ⟨x, ?_, rfl, rfl⟩
    simp [Workshop.subscribe, hx, hu]
  | some name =>
    refine ⟨(x.subscribe w.os ⟨name.1, name.2, ⟨w.replaced, u⟩⟩).2, ?_, ?_⟩
    · simp only [Workshop.subscribe, hx, hu]
      split <;> rfl
    · unfold Watcher.subscribe Watcher.request
      split
      · exact ⟨rfl, rfl⟩
      · exact ⟨rfl, Watches.pending_subscribe _ _ _ _⟩

/-- A step of an opening that is taken keeps what is live in step with the builds. -/
theorem followsBuilds_openStep {ps : List (Product κ)} {s : OpeningStep} {v : Workshop κ}
    (h : w.registry.FollowsBuilds ps) (taken : w.openStep s = .ok v) :
    v.registry.FollowsBuilds (ps ++ (w.productOf? (.opening s)).toList) := by
  have effect := w.registry_act (.opening s)
  simp only [act, taken] at effect
  rw [effect]
  cases w.productOf? (.opening s) with
  | none =>
    rw [Option.toList_none, List.append_nil]
    exact h
  | some p => exact h.adopt p

/-- What a step builds is up to date then, and what was up to date stays so. -/
theorem upToDate_openStep (ps : List (Product κ)) {s : OpeningStep} {v : Workshop κ}
    (distinct : w.registry.Distinct) (taken : w.openStep s = .ok v)
    (h : s = .build t ∨ w.UpToDate ps t) :
    v.UpToDate (ps ++ (w.productOf? (.opening s)).toList) t := by
  have same : w.act (.opening s) = v := by simp only [act, taken]
  rw [← same]
  refine upToDate_act distinct (noFiles_opening [s] _ List.mem_cons_self) (h.imp_left ?_)
  rintro rfl
  rfl

end Workshop

namespace Reload

variable {κ : Type} {r : Reload κ} {base : FilePath} {t : TemplateRef} {bot : BotType}
  {identifier : String} {own : List FilePath}

theorem os_move (r : Reload κ) (m : Move) : (r.move m).workshop.os = r.workshop.os := by
  cases m with
  | deliver k => cases he : r.underway[k]? <;> simp [move, he, Workshop.report]
  | watch => exact r.workshop.os_watch
  | edit files events => rfl
  | report x => rfl
  | pass ms => rfl

theorem followsBuilds_move (h : r.workshop.registry.FollowsBuilds r.built) (m : Move) :
    (r.move m).workshop.registry.FollowsBuilds (r.move m).built := by
  cases m with
  | deliver k => cases he : r.underway[k]? <;> simpa [move, he, Workshop.report] using h
  | watch =>
    have roused : r.workshop.roused.1.registry = r.workshop.registry := by
      unfold Workshop.roused
      split <;> rfl
    rw [move, Workshop.watch_eq, Workshop.registry_perform, roused]
    exact h.foldl_adopt _
  | edit files events => exact h
  | report x => exact h
  | pass ms => exact h

theorem distinct_move (h : r.workshop.registry.Distinct) (m : Move) :
    (r.move m).workshop.registry.Distinct := by
  obtain ⟨commands, tasks⟩ := r.templates_run [m]
  have commands : (r.move m).workshop.registry.commands = r.workshop.registry.commands := commands
  have tasks : (r.move m).workshop.registry.tasks = r.workshop.registry.tasks := tasks
  exact ⟨commands ▸ h.commands, tasks ▸ h.tasks⟩

/-- A template stays up to date when its files stay as they are. -/
theorem upToDate_move {x : Watcher RebuildTarget} (hx : r.workshop.watcher = some x)
    (runs : x.Runs base) (distinct : r.workshop.registry.Distinct)
    (subscriber : r.workshop.subscriber? t = some (bot, identifier))
    (current : r.workshop.UpToDate r.built t) {m : Move}
    (same : ∀ p ∈ Source.candidates base bot identifier,
      (m.filesAfter r.workshop.files).content? p = r.workshop.files.content? p) :
    (r.move m).workshop.UpToDate (r.move m).built t := by
  cases m with
  | edit files events => exact upToDate_edit hx runs subscriber current same
  | deliver k =>
    rcases r.move_deliver k with stays | ⟨e, underway, delivered, -⟩
    · rw [stays]
      exact current
    · rw [delivered]
      exact (sameGround_report hx runs (.event e)).upToDate current
  | report y => exact (sameGround_report hx runs y).upToDate current
  | watch =>
    have ground := sameGround_roused hx runs
    rw [move, Workshop.watch_eq]
    exact Workshop.upToDate_perform (ground.distinct distinct) (Workshop.noFiles_rebuilds _)
      (.inr (ground.upToDate current))
  | pass ms => exact current

end Reload

open Workshop (OpeningStep)

/-- A workshop that is being opened, while files change. -/
structure Opening (κ : Type) extends Reload κ where
  /-- The steps that have not been taken. -/
  left : List OpeningStep
  /-- Why a step has failed; no other is taken then. -/
  failure : Option BuildError := none

namespace Opening

variable {κ : Type}

/-- What can happen. -/
inductive Move where
  /-- The next step of the opening is taken. -/
  | step
  | meanwhile (m : Reload.Move)

/-- The opening of a workshop. -/
def ofWorkshop (w : Workshop κ) : Opening κ := { workshop := w, left := w.openingSteps }

/-- A step has been taken, and these are left. -/
def advance (o : Opening κ) (s : OpeningStep) (next : Workshop κ) (left : List OpeningStep) :
    Opening κ :=
  { o with
    workshop := next, built := o.built ++ (o.workshop.productOf? (.opening s)).toList, left }

def step (o : Opening κ) : Opening κ :=
  match o.failure, o.left with
  | none, s :: rest =>
    match o.workshop.openStep s with
    | .ok next => o.advance s next rest
    | .error e => { o with failure := some e }
  | _, _ => o

def move (o : Opening κ) : Move → Opening κ
  | .step => o.step
  | .meanwhile m => { o with toReload := o.toReload.move m }

def run (o : Opening κ) (moves : List Move) : Opening κ := moves.foldl move o

/-- An opening that has failed takes no more steps. -/
theorem run_steps_of_failure {o : Opening κ} {e : BuildError} (failed : o.failure = some e)
    (n : Nat) : o.run (List.replicate n .step) = o := by
  induction n with
  | zero => rfl
  | succ n ih =>
    have stays : o.move .step = o := by simp [move, step, failed]
    rw [List.replicate_succ, run, List.foldl_cons, ← run, stays, ih]

/-- An opening to which nothing happens meanwhile is the one that takes its steps at once. -/
theorem run_steps (o : Opening κ) (fresh : o.failure = none) :
    let last := o.run (List.replicate o.left.length .step)
    last.failure = (o.workshop.openBy o.left).1 ∧ last.workshop = (o.workshop.openBy o.left).2 := by
  generalize left : o.left = steps
  induction steps generalizing o with
  | nil => exact ⟨fresh, rfl⟩
  | cons s rest ih =>
    rw [List.length_cons, List.replicate_succ, run, List.foldl_cons, ← run, Workshop.openBy]
    cases taken : o.workshop.openStep s with
    | ok next =>
      have stepped : o.move .step = o.advance s next rest := by
        simp [move, step, fresh, left, taken]
      rw [stepped]
      exact ih (o.advance s next rest) fresh rfl
    | error e =>
      have stepped : o.move .step = { o with failure := some e } := by
        simp [move, step, fresh, left, taken]
      rw [stepped, run_steps_of_failure rfl]
      exact ⟨rfl, rfl⟩

theorem files_step (o : Opening κ) : (o.move .step).workshop.files = o.workshop.files := by
  rw [move, step]
  split
  · split
    · next taken => exact (Workshop.sameGround_openStep taken).files
    · rfl
  · rfl

/-! ## Writes -/

/-- The watcher watches a directory. -/
def Watches (o : Opening κ) (dir : FilePath) : Prop :=
  (o.workshop.watcher.bind fun x => x.watches.directory? dir).isSome

instance (o : Opening κ) (dir : FilePath) : Decidable (o.Watches dir) :=
  inferInstanceAs (Decidable (Option.isSome _ = true))

theorem watches_iff {o : Opening κ} {x : Watcher RebuildTarget} (hx : o.workshop.watcher = some x)
    {dir : FilePath} : o.Watches dir ↔ (x.watches.directory? dir).isSome := by
  rw [Watches, hx, Option.bind_some]

/-- There are events to tell of a change of some files, if their directory is watched. -/
def Announces (dir : FilePath) (own : List FilePath) (o : Opening κ) : Move → Prop
  | .meanwhile (.edit files events) =>
    o.Watches dir → FileEvent.Announce events own o.workshop.files files
  | _ => True

/-- The watcher flushes one of these files if it acts. -/
def Flushes (o : Opening κ) (own : List FilePath) : Prop :=
  ∃ x ∈ o.workshop.watcher, x.Flushes o.workshop.now own

instance (o : Opening κ) (own : List FilePath) : Decidable (o.Flushes own) :=
  inferInstanceAs (Decidable (∃ x, x ∈ o.workshop.watcher ∧ _))

/-- Between the build of a template and its subscription its files are not changed unless their
directory is watched, and not flushed unless the template is up to date. -/
def Spares (t : TemplateRef) (dir : FilePath) (own : List FilePath) (o : Opening κ) : Move → Prop
  | .meanwhile (.edit files _) =>
    o.left.head? = some (.subscribe t) →
      o.Watches dir ∨ ∀ p ∈ own, files.content? p = o.workshop.files.content? p
  | .meanwhile .watch =>
    o.left.head? = some (.subscribe t) → o.Flushes own → o.workshop.UpToDate o.built t
  | _ => True

/-- All moves of a run have a property at their time. -/
def Along (P : Opening κ → Move → Prop) (o : Opening κ) : List Move → Prop
  | [] => True
  | m :: rest => P o m ∧ (o.move m).Along P rest

/-! ## Where a template stands -/

section Stands

variable {o : Opening κ} {base : FilePath} {ts us : List TemplateRef} {t : TemplateRef}
  {bot : BotType} {identifier : String} {own : List FilePath}

/-- How far an opening has come: `ts` have subscribed, and `us` are still to do so. -/
structure Reaches (o : Opening κ) (base : FilePath) (ts us : List TemplateRef) : Prop where
  accepts : ∀ path, o.workshop.os.add path = none
  occupied : ∃ x, o.workshop.IsOccupied base ts x
  left : o.left = Workshop.stepsFor us ∨
    ∃ u rest, us = u :: rest ∧ o.left = .subscribe u :: Workshop.stepsFor rest

/-- Where a template stands: it is still to be built, it has been built and subscribes next, or it
has subscribed. -/
inductive Stands (o : Opening κ) (ts : List TemplateRef) (t : TemplateRef) (dir : FilePath)
    (own : List FilePath) : Prop
  | ahead (left : .build t ∈ o.left)
  | next (left : o.left.head? = some (.subscribe t))
    (current : o.workshop.UpToDate o.built t ∨ (o.Watches dir ∧ o.toReload.IsComing own))
  | subscribed (mem : t ∈ ts)
    (current : o.workshop.UpToDate o.built t ∨ o.toReload.IsComing own)

/-- What is kept of a template that is the first with its file. -/
structure Sound (o : Opening κ) (base : FilePath) (t : TemplateRef) (bot : BotType)
    (identifier : String) (ts us : List TemplateRef) : Prop where
  distinct : o.workshop.registry.Distinct
  follows : o.workshop.registry.FollowsBuilds o.built
  subscriber : o.workshop.subscriber? t = some (bot, identifier)
  first : o.workshop.IsFirstOf base (ts ++ us) t
  reaches : o.Reaches base ts us
  stands : o.Stands ts t (Source.directoryFor base bot) (Source.candidates base bot identifier)

/-- A template that has subscribed goes on as in an opened workshop. -/
theorem Sound.toReload (h : o.Sound base t bot identifier ts us) (mem : t ∈ ts)
    (current : o.workshop.UpToDate o.built t ∨
      o.toReload.IsComing (Source.candidates base bot identifier)) :
    o.toReload.Sound base t bot identifier := by
  obtain ⟨x, occupied⟩ := h.reaches.occupied
  exact ⟨h.distinct, h.follows, h.subscriber, occupied.isSubscribed (h.first.of_append mem),
    current⟩

theorem Reaches.meanwhile (h : o.Reaches base ts us) (m : Reload.Move) :
    (o.move (.meanwhile m)).Reaches base ts us :=
  ⟨fun path => (congrArg (fun os => DirectoryWatch.add os path) (o.toReload.os_move m)).trans
      (h.accepts path),
    Reload.isOccupied_move h.occupied m, h.left⟩

/-- A directory goes on to be watched. -/
theorem Reaches.watches (h : o.Reaches base ts us) {dir : FilePath} (watched : o.Watches dir)
    (m : Reload.Move) : (o.move (.meanwhile m)).Watches dir := by
  obtain ⟨x, occupied⟩ := h.occupied
  obtain ⟨y, hy, -, -, directories⟩ :=
    Reload.exists_watcher_move occupied.watcher occupied.runs occupied.sound m
  rw [watches_iff occupied.watcher, Watches.directory?, ← directories] at watched
  exact (watches_iff hy).mpr watched

theorem Announces.of_watches {dir : FilePath} {m : Reload.Move}
    (h : Announces dir own o (.meanwhile m)) (watched : o.Watches dir) :
    m.Announces own o.workshop.files := by
  cases m with
  | edit files events => exact h watched
  | _ => exact trivial

/-- Between its build and its subscription a template is up to date, or a write is on its way that
the watcher will not flush. -/
theorem Sound.between (h : o.Sound base t bot identifier ts us)
    (single : FilePath.IsName identifier) {m : Reload.Move}
    (announced : Announces (Source.directoryFor base bot) (Source.candidates base bot identifier) o
      (.meanwhile m))
    (spared : Spares t (Source.directoryFor base bot) (Source.candidates base bot identifier) o
      (.meanwhile m))
    (left : o.left.head? = some (.subscribe t))
    (current : o.workshop.UpToDate o.built t ∨ (o.Watches (Source.directoryFor base bot) ∧
      o.toReload.IsComing (Source.candidates base bot identifier))) :
    let next := o.move (.meanwhile m)
    next.workshop.UpToDate next.built t ∨ (next.Watches (Source.directoryFor base bot) ∧
      next.toReload.IsComing (Source.candidates base bot identifier)) := by
  obtain ⟨x, occupied⟩ := h.reaches.occupied
  have stays := Reload.upToDate_move occupied.watcher occupied.runs h.distinct h.subscriber (m := m)
  rcases current with current | ⟨watched, coming⟩
  · cases m with
    | edit files events =>
      rcases spared left with watched | same
      · have onward := Reload.upToDate_or_isComing_edit occupied.watcher occupied.runs h.subscriber
          (.inl current) (announced watched)
        exact onward.imp_right fun coming => ⟨h.reaches.watches watched _, coming⟩
      · exact .inl (stays current same)
    | _ => exact .inl (stays current fun _ _ => rfl)
  · have onward := coming.move occupied.watcher occupied.runs single
      ((watches_iff occupied.watcher).mp watched) (announced.of_watches watched)
    rcases onward with ⟨rfl, flushes⟩ | still
    · exact .inl (stays (spared left ⟨x, occupied.watcher, flushes⟩) fun _ _ => rfl)
    · exact .inr ⟨h.reaches.watches watched m, still⟩

/-- What happens between two steps. -/
theorem Sound.meanwhile (h : o.Sound base t bot identifier ts us)
    (single : FilePath.IsName identifier) {m : Reload.Move}
    (announced : Announces (Source.directoryFor base bot) (Source.candidates base bot identifier) o
      (.meanwhile m))
    (spared : Spares t (Source.directoryFor base bot) (Source.candidates base bot identifier) o
      (.meanwhile m)) :
    (o.move (.meanwhile m)).Sound base t bot identifier ts us := by
  have subscribers : ∀ u, (o.move (.meanwhile m)).workshop.subscriber? u =
      o.workshop.subscriber? u := o.toReload.subscriber?_run [m]
  refine ⟨Reload.distinct_move h.distinct m, Reload.followsBuilds_move h.follows m,
    (subscribers t).trans h.subscriber, (Workshop.isFirstOf_congr subscribers).mpr h.first,
    h.reaches.meanwhile m, ?_⟩
  cases h.stands with
  | ahead left => exact .ahead left
  | next left current => exact .next left (h.between single announced spared left current)
  | subscribed mem current =>
    have sound := h.toReload mem current
    obtain ⟨x, hx, -, has⟩ := sound.subscribed
    have watched := (watches_iff hx).mpr (has bot identifier h.subscriber).isSome_directory?
    exact .subscribed mem (sound.move single (announced.of_watches watched)).current

/-- A template is built. -/
theorem Sound.build (h : o.Sound base t bot identifier ts us) {u : TemplateRef}
    {rest : List TemplateRef} {v : Workshop κ} (ahead : us = u :: rest)
    (left : o.left = .build u :: .subscribe u :: Workshop.stepsFor rest)
    (taken : o.workshop.openStep (.build u) = .ok v) :
    (o.advance (.build u) v (.subscribe u :: Workshop.stepsFor rest)).Sound base t bot identifier
      ts us := by
  have same := Workshop.sameGround_openStep taken
  obtain ⟨registry, feed, notes, frame, -⟩ := Workshop.frame_buildFirst taken
  obtain ⟨x, occupied⟩ := h.reaches.occupied
  have watcher : v.watcher = some x := by
    rw [frame]
    exact occupied.watcher
  have current := Workshop.upToDate_openStep (t := t) o.built h.distinct taken
  refine ⟨same.distinct h.distinct, Workshop.followsBuilds_openStep h.follows taken,
    (same.subscriber? t).trans h.subscriber,
    (Workshop.isFirstOf_congr same.subscriber?).mpr h.first,
    ⟨?_, ⟨x, occupied.buildFirst taken⟩, .inr ⟨u, rest, ahead, rfl⟩⟩, ?_⟩
  · change ∀ path, v.os.add path = none
    rw [frame]
    exact h.reaches.accepts
  cases h.stands with
  | ahead there =>
    rw [left] at there
    rcases List.mem_cons.mp there with own | later
    · obtain rfl : t = u := OpeningStep.build.inj own
      exact .next rfl (.inl (current (.inl rfl)))
    · exact .ahead later
  | next next =>
    rw [left] at next
    cases next
  | subscribed mem up =>
    refine .subscribed mem (up.imp (fun up => current (.inr up)) fun coming => ?_)
    exact coming.of_watcher occupied.watcher watcher rfl rfl same.files _

/-- A template subscribes. -/
theorem Sound.subscribe (h : o.Sound base t bot identifier ts us) {u : TemplateRef}
    {rest : List TemplateRef} (ahead : us = u :: rest)
    (left : o.left = .subscribe u :: Workshop.stepsFor rest) :
    (o.advance (.subscribe u) (o.workshop.subscribe u) (Workshop.stepsFor rest)).Sound base t bot
      identifier (ts ++ [u]) rest := by
  have taken : o.workshop.openStep (.subscribe u) = .ok (o.workshop.subscribe u) := rfl
  have same := Workshop.sameGround_openStep taken
  obtain ⟨watcher, notes, frame, -⟩ := Workshop.frame_subscribe o.workshop u
  obtain ⟨x, occupied⟩ := h.reaches.occupied
  obtain ⟨y, hy, inbox, pending⟩ := Workshop.watcher_subscribe occupied.watcher u
  have current := Workshop.upToDate_openStep (t := t) o.built h.distinct taken
  -- Neither builds nor the watcher's reading and flushing have changed.
  have stays : o.workshop.UpToDate o.built t ∨
      o.toReload.IsComing (Source.candidates base bot identifier) →
      let next := o.advance (.subscribe u) (o.workshop.subscribe u) (Workshop.stepsFor rest)
      next.workshop.UpToDate next.built t ∨
        next.toReload.IsComing (Source.candidates base bot identifier) := by
    intro up
    refine up.imp (fun up => current (.inr up)) fun coming => ?_
    exact coming.of_watcher occupied.watcher hy inbox pending same.files _
  refine ⟨same.distinct h.distinct, Workshop.followsBuilds_openStep h.follows taken,
    (same.subscriber? t).trans h.subscriber, ?_,
    ⟨?_, occupied.subscribe h.reaches.accepts u, .inl rfl⟩, ?_⟩
  · rw [List.append_assoc, List.singleton_append, ← ahead]
    exact (Workshop.isFirstOf_congr same.subscriber?).mpr h.first
  · change ∀ path, (o.workshop.subscribe u).os.add path = none
    rw [frame]
    exact h.reaches.accepts
  cases h.stands with
  | ahead there =>
    rw [left] at there
    exact .ahead ((List.mem_cons.mp there).resolve_left nofun)
  | next next up =>
    rw [left] at next
    cases next
    exact .subscribed (List.mem_append_right _ List.mem_cons_self) (stays (up.imp_right And.right))
  | subscribed mem up => exact .subscribed (List.mem_append_left _ mem) (stays up)

/-- A step of the opening, of which there may be none. -/
theorem Sound.step (h : o.Sound base t bot identifier ts us) :
    ∃ ts us, o.step.Sound base t bot identifier ts us := by
  have stays : o.step = o → ∃ ts us, o.step.Sound base t bot identifier ts us := by
    intro same
    exact ⟨ts, us, same.symm ▸ h⟩
  cases failure : o.failure with
  | some e => exact stays (by simp [Opening.step, failure])
  | none =>
    rcases h.reaches.left with left | ⟨u, rest, ahead, left⟩
    · cases us with
      | nil => exact stays (by simp [Opening.step, failure, left, Workshop.stepsFor])
      | cons u rest =>
        replace left : o.left = .build u :: .subscribe u :: Workshop.stepsFor rest := left
        cases taken : o.workshop.openStep (.build u) with
        | error e =>
          have failed : o.step = { o with failure := some e } := by
            simp [Opening.step, failure, left, taken]
          rw [failed]
          refine ⟨ts, u :: rest, h.distinct, h.follows, h.subscriber, h.first,
            ⟨h.reaches.accepts, h.reaches.occupied, h.reaches.left⟩, ?_⟩
          cases h.stands with
          | ahead there => exact .ahead there
          | next next up => exact .next next up
          | subscribed mem up => exact .subscribed mem up
        | ok v =>
          have taken' : o.step = o.advance (.build u) v (.subscribe u :: Workshop.stepsFor rest) :=
            by simp [Opening.step, failure, left, taken]
          rw [taken']
          exact ⟨ts, u :: rest, h.build rfl left taken⟩
    · have taken : o.step =
          o.advance (.subscribe u) (o.workshop.subscribe u) (Workshop.stepsFor rest) := by
        simp [Opening.step, failure, left, Workshop.openStep]
      rw [taken]
      exact ⟨ts ++ [u], rest, h.subscribe ahead left⟩

theorem Sound.run (h : o.Sound base t bot identifier ts us)
    (single : FilePath.IsName identifier) {moves : List Move}
    (announced : o.Along
      (Announces (Source.directoryFor base bot) (Source.candidates base bot identifier)) moves)
    (spared : o.Along
      (Spares t (Source.directoryFor base bot) (Source.candidates base bot identifier)) moves) :
    ∃ ts us, (o.run moves).Sound base t bot identifier ts us := by
  induction moves generalizing o ts us with
  | nil => exact ⟨ts, us, h⟩
  | cons m rest ih =>
    cases m with
    | step =>
      obtain ⟨ts, us, h⟩ := h.step
      exact ih h announced.2 spared.2
    | meanwhile m =>
      exact ih (h.meanwhile single announced.1 spared.1) announced.2 spared.2

/-- When no step is left, a first template has subscribed. -/
theorem Sound.opened (h : o.Sound base t bot identifier ts us) (done : o.left = []) :
    o.toReload.Sound base t bot identifier := by
  cases h.stands with
  | ahead there =>
    rw [done] at there
    cases there
  | next next =>
    rw [done] at next
    cases next
  | subscribed mem current => exact h.toReload mem current

end Stands

end Opening

namespace Workshop

variable {κ : Type}

/-- Before its opening a workshop has a watcher without subscriptions. -/
theorem isOccupied_watching (w : Workshop κ) (commands : List (CommandTemplate κ))
    (tasks : List TaskTemplate) (base : FilePath) (debounce : Nat) :
    (w.watching commands tasks base debounce).IsOccupied base [] (.ofBase base debounce) := by
  refine ⟨rfl, ⟨rfl, rfl, rfl⟩, Watcher.isSound_ofBase base debounce, fun dir s => ?_⟩
  refine iff_of_false ?_ ?_
  · rintro ⟨d, found, -⟩
    cases found
  · rintro ⟨t, bot, identifier, ⟨slot, -, found⟩, -⟩
    cases found

/-- **No other write is lost.** The steps of an opening, when nothing happens meanwhile, are what
opening the workshop does. While a workshop is opened files are written, at any moments; the events
of these writes are reported at any later moments, if the directory was watched, and the watcher
acts in between. The operating system accepts to watch every directory. A configurable template is
the first of those with its file. If, between the build of the template and its subscription, the
file is written only while its directory is watched, and is not flushed after such a write, then
after the opening all settles on the files as they are. -/
theorem other_writes_are_not_lost (w : Workshop κ) (commands : List (CommandTemplate κ))
    (tasks : List TaskTemplate) (base : FilePath) (debounce : Nat)
    (accepts : ∀ path, w.os.add path = none) (t : TemplateRef) (bot : BotType)
    (identifier : String)
    (first : (w.watching commands tasks base debounce).IsFirstOf base
      (w.watching commands tasks base debounce).registry.templates t)
    (configurable :
      (w.watching commands tasks base debounce).subscriber? t = some (bot, identifier))
    (single : FilePath.IsName identifier) (moves : List Opening.Move)
    (announced : (Opening.ofWorkshop (w.watching commands tasks base debounce)).Along
      (Opening.Announces (Source.directoryFor base bot) (Source.candidates base bot identifier))
      moves)
    (spared : (Opening.ofWorkshop (w.watching commands tasks base debounce)).Along
      (Opening.Spares t (Source.directoryFor base bot) (Source.candidates base bot identifier))
      moves) :
    let start := Opening.ofWorkshop (w.watching commands tasks base debounce)
    let alone := start.run (List.replicate start.left.length .step)
    let now := start.run moves
    (alone.failure = (w.watching commands tasks base debounce).openAll.1 ∧
      alone.workshop = (w.watching commands tasks base debounce).openAll.2) ∧
    (now.left = [] →
      (∃ more : List Reload.Move, (∀ m ∈ more, m.IsQuiet) ∧
        (now.toReload.run more).IsSettled) ∧
      (now.toReload.IsSettled →
        (∀ p, now.workshop.product? t = some p → now.workshop.instance? t = some p) ∧
        (now.workshop.product? t = none →
          now.workshop.instance? t = now.workshop.latestProduct? now.built t))) := by
  intro start alone now
  refine ⟨start.run_steps rfl, fun done => ?_⟩
  have unbuilt := Registry.unbuilt_ofTemplates commands tasks
  have begun : (Opening.ofWorkshop (w.watching commands tasks base debounce)).Sound base t bot
      identifier [] (w.watching commands tasks base debounce).registry.templates :=
    ⟨unbuilt.toDistinct, unbuilt.followsBuilds, configurable, first,
      ⟨accepts, ⟨_, isOccupied_watching w commands tasks base debounce⟩, .inl rfl⟩,
      .ahead (Reload.mem_openingSteps configurable).1⟩
  obtain ⟨ts, us, reached⟩ := begun.run single announced spared
  have sound := reached.opened done
  obtain ⟨x, hx, runs, -⟩ := sound.subscribed
  refine ⟨now.toReload.exists_isSettled hx runs, fun settled => ?_⟩
  have live := sound.instance?_of_isSettled settled
  refine ⟨fun p made => ?_, fun none_made => ?_⟩
  · rw [live, made, Option.some_or]
  · rw [live, none_made, Option.none_or]

namespace Report

def early : FileTree :=
  bare.write ["conf", "slack", "report.yaml"] "schedule: \"@every 5s\"".toUTF8.toList

def late : FileTree :=
  early.write ["conf", "slack", "report.yaml"] "schedule: \"@every 2s\"".toUTF8.toList

/-- The opening of a workshop with these commands and the task. -/
def opening (commands : List (CommandTemplate Routine)) : Opening Routine :=
  .ofWorkshop (watching { files := bare } commands [task] ⟨"/conf"⟩ 10)

/-- One write before the build of the task, and one between its build and its subscription, when its
directory is watched for the sake of a command. The event of the second is read before the
subscription, and the file is flushed afterwards. -/
def writes : List Opening.Move :=
  [.meanwhile (.edit early []), .step, .step, .step, .meanwhile (.edit late events),
    .meanwhile (.deliver 0), .meanwhile .watch, .step, .meanwhile (.pass 10), .meanwhile .watch]

end Report

/-- Both writes are seen: the first by the build, and the second by the watcher. -/
theorem report_writes_are_not_lost :
    let now := (Report.opening [Bundled.greet ⟨"slack"⟩]).run Report.writes
    now.toReload.IsSettled ∧ ∃ p, now.workshop.instance? (.task 0) = some p ∧
      Report.schedule? p = some (.every 2000) := by
  intro now
  have keeps : Report.early.Keeps Report.late := FileTree.keeps_write (by decide +kernel) _
  let start := Report.opening [Bundled.greet ⟨"slack"⟩]
  have announced : start.Along (Opening.Announces
      (Source.directoryFor ⟨"/conf"⟩ ⟨"slack"⟩)
      (Source.candidates ⟨"/conf"⟩ ⟨"slack"⟩ "report")) Report.writes := by
    refine ⟨fun watched => absurd watched (by decide +kernel), trivial, trivial, trivial,
      fun _ => ⟨fun _ _ q _ file => .inl ?_, by decide +kernel⟩, trivial, trivial, trivial, trivial,
      trivial, trivial⟩
    rw [Opening.files_step, Opening.files_step, Opening.files_step] at file
    exact keeps.isFile file
  have spared : start.Along (Opening.Spares (.task 0) (Source.directoryFor ⟨"/conf"⟩ ⟨"slack"⟩)
      (Source.candidates ⟨"/conf"⟩ ⟨"slack"⟩ "report")) Report.writes :=
    ⟨fun next => absurd next (by decide +kernel), trivial, trivial, trivial,
      fun _ => .inl (by decide +kernel), trivial,
      fun _ flushes => absurd flushes (by decide +kernel), trivial, trivial,
      fun next => absurd next (by decide +kernel), trivial⟩
  obtain ⟨done, settled, made⟩ : now.left = [] ∧ now.toReload.IsSettled ∧
      (now.workshop.product? (.task 0)).bind Report.schedule? = some (.every 2000) := by
    decide +kernel
  obtain ⟨-, opened⟩ := other_writes_are_not_lost { files := Report.bare }
    [Bundled.greet ⟨"slack"⟩] [Report.task] ⟨"/conf"⟩ 10 (fun _ => rfl) (.task 0) ⟨"slack"⟩ "report"
    (by decide +kernel) (by decide +kernel) (by decide +kernel) Report.writes announced spared
  obtain ⟨-, live⟩ := opened done
  obtain ⟨p, product, schedule⟩ := Option.bind_eq_some_iff.mp made
  exact ⟨settled, p, (live settled).1 p product, schedule⟩

/-- A write between the build of the only template of a directory and its subscription raises no
event, since nobody watches. All has settled then, and what is live is what was built before. -/
theorem unwatched_write_is_lost :
    let between := (Report.opening []).run [.step]
    let now := (between.move (.meanwhile (.edit Report.written []))).run [.step]
    ¬between.Watches (Source.directoryFor ⟨"/conf"⟩ ⟨"slack"⟩) ∧
      now.left = [] ∧ now.toReload.IsSettled ∧
      (now.workshop.product? (.task 0)).bind Report.schedule? = some (.every 2000) ∧
      (now.workshop.instance? (.task 0)).bind Report.schedule? = some (.every 3600000) := by
  decide +kernel

/-- Where the directory is watched already, for the sake of another template, such a write is
reported. It is lost all the same if it is flushed before the subscription. -/
theorem early_flush_is_lost :
    let between := (Report.opening [Bundled.greet ⟨"slack"⟩]).run [.step, .step, .step]
    let now := (between.move (.meanwhile (.edit Report.written Report.events))).run
      (Report.moves.map .meanwhile ++ [.step])
    between.Watches (Source.directoryFor ⟨"/conf"⟩ ⟨"slack"⟩) ∧ now.left = [] ∧
      now.toReload.IsSettled ∧
      (now.workshop.product? (.task 0)).bind Report.schedule? = some (.every 2000) ∧
      (now.workshop.instance? (.task 0)).bind Report.schedule? = some (.every 3600000) := by
  decide +kernel

/-- An identifier may lead below the directory of its bot type. A build reads the file there, but a
write of it is not taken for one of that identifier, even if it is reported. -/
theorem nested_write_is_lost :
    let start : Opening Routine := .ofWorkshop (watching { files := Report.bare } []
      [{ Report.task with identifier := "sub/report" }] ⟨"/conf"⟩ 10)
    let written := Report.bare.write ["conf", "slack", "sub", "report.yaml"]
      "schedule: \"@every 2s\"".toUTF8.toList
    let now := start.run ([.step, .step,
      .meanwhile (.edit written [⟨.content, [⟨"/conf/slack/sub/report.yaml"⟩]⟩])] ++
      Report.moves.map .meanwhile)
    now.left = [] ∧ now.toReload.IsSettled ∧
      (now.workshop.product? (.task 0)).bind Report.schedule? = some (.every 2000) ∧
      (now.workshop.instance? (.task 0)).bind Report.schedule? = some (.every 3600000) := by
  decide +kernel

end Workshop

end Switchboard
