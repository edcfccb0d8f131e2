import Switchboard.Bundled.Commands
import Switchboard.Proofs.Opening
import Switchboard.Proofs.Writes

/-!
# Hot reload settles on the files as they are

An opened workshop is left to itself: files are written, the operating system reports the writes in
whatever order and as late as it likes, time passes, and the watcher acts when it can. `Reload` is
such a workshop with the events that have not been reported yet, and `Reload.run` one of its runs.

At every moment a configurable template is up to date, or a write of its file is on its way: still
to be reported, in the inbox of the watcher, or pending (`Reload.Sound`). One move keeps that
(`Sound.move`), and when nothing is on its way any more, what is live is what a build of the files
as they are would give (`hot_reload_settles`).
-/

namespace Switchboard

/-! ## Writes -/

/-- Files at these places are written, or moved from one of them to another. Where one has a new
content or is gone, an event names one that is there. -/
structure FileEvent.Announce (events : List FileEvent) (own : List FilePath)
    (files files' : FileTree) : Prop where
  keeps : ∀ p ∈ own, ∀ q, q.same p = true → files.isFile q = true →
    files'.isFile q = true ∨ ∃ e ∈ events, e.Names files' own
  tells : ∀ p ∈ own, files'.content? p ≠ files.content? p → ∃ e ∈ events, e.Names files' own

/-! ## The watcher's act -/

namespace Workshop

variable {κ : Type} {w : Workshop κ}

/-- The workshop when the watcher has acted, and the templates that are built anew thereupon. -/
def roused (w : Workshop κ) : Workshop κ × List TemplateRef :=
  match w.watcher with
  | none => (w, [])
  | some watcher =>
    let (watcher, targets, notes) := watcher.act w.os w.files w.now
    ({ w with watcher := some watcher, notes := w.notes ++ notes },
      (targets.filter fun t => t.registry = w.replaced).map RebuildTarget.template)

/-- Calls of targets are builds of those of the present registry. -/
theorem foldl_call (w : Workshop κ) (targets : List RebuildTarget) :
    targets.foldl call w = w.perform
      (((targets.filter fun t => t.registry = w.replaced).map RebuildTarget.template).map
        .rebuild) := by
  induction targets generalizing w with
  | nil => rfl
  | cons t rest ih =>
    rw [List.foldl_cons, ih, call]
    by_cases present : t.registry = w.replaced
    · have same := w.sameGround_act (a := .rebuild t.template) (fun _ => nofun)
      have replaced : (w.rebuild t.template).replaced = w.replaced := same.replaced
      rw [if_pos present, replaced, List.filter_cons_of_pos (by simpa using present)]
      rfl
    · rw [if_neg present, List.filter_cons_of_neg (by simpa using present)]

theorem watch_eq (w : Workshop κ) : w.watch = w.roused.1.perform (w.roused.2.map .rebuild) := by
  unfold watch roused
  cases w.watcher with
  | none => rfl
  | some x => exact foldl_call _ _

theorem noFiles_rebuilds (ts : List TemplateRef) :
    ∀ a ∈ ts.map Act.rebuild, ∀ t, a ≠ .files t := by
  intro a ha
  obtain ⟨u, -, rfl⟩ := List.mem_map.mp ha
  exact fun _ => nofun

theorem files_watch (w : Workshop κ) : w.watch.files = w.files := by
  rw [watch_eq, (w.roused.1.sameGround_perform (noFiles_rebuilds w.roused.2)).files]
  unfold roused
  split <;> rfl

theorem now_watch (w : Workshop κ) : w.watch.now = w.now := by
  rw [watch_eq, (w.roused.1.sameGround_perform (noFiles_rebuilds w.roused.2)).now]
  unfold roused
  split <;> rfl

theorem replaced_watch (w : Workshop κ) : w.watch.replaced = w.replaced := by
  rw [watch_eq, (w.roused.1.sameGround_perform (noFiles_rebuilds w.roused.2)).replaced]
  unfold roused
  split <;> rfl

theorem templates_watch (w : Workshop κ) :
    w.watch.registry.commands = w.registry.commands ∧
      w.watch.registry.tasks = w.registry.tasks := by
  have roused : w.roused.1.registry = w.registry := by
    unfold Workshop.roused
    split <;> rfl
  have same := w.roused.1.sameGround_perform (noFiles_rebuilds w.roused.2)
  rw [watch_eq]
  exact ⟨same.commands.trans (congrArg _ roused), same.tasks.trans (congrArg _ roused)⟩

theorem watcher_perform_rebuilds (w : Workshop κ) (ts : List TemplateRef) :
    (w.perform (ts.map .rebuild)).watcher = w.watcher := by
  induction ts generalizing w with
  | nil => rfl
  | cons t rest ih =>
    obtain ⟨registry, feed, notes, frame⟩ := frame_rebuild w t
    have frame : w.act (.rebuild t) = { w with registry, feed, notes } := frame
    rw [List.map_cons, perform, List.foldl_cons, ← perform, ih, frame]

end Workshop

/-! ## Runs -/

/-- An opened workshop, while files change. -/
structure Reload (κ : Type) where
  workshop : Workshop κ
  /-- The events that the operating system has not reported yet. -/
  underway : List FileEvent := []
  /-- The products of all builds so far that succeeded, the first first. -/
  built : List (Product κ) := []

namespace Reload

variable {κ : Type}

/-- What can happen. -/
inductive Move where
  /-- The files become these, and there are these events to report. -/
  | edit (files : FileTree) (events : List FileEvent)
  /-- One of the events is reported. -/
  | deliver (k : Nat)
  /-- Something else is reported. -/
  | report (r : WatchReport)
  | watch
  /-- Time passes, in milliseconds. -/
  | pass (ms : Nat)

/-- A workshop after its opening. -/
def opened (w : Workshop κ) : Reload κ :=
  { workshop := w.openAll.2, built := w.products (w.openingSteps.map .opening) }

def move (r : Reload κ) : Move → Reload κ
  | .edit files events =>
    { r with workshop := { r.workshop with files }, underway := r.underway ++ events }
  | .deliver k =>
    match r.underway[k]? with
    | none => r
    | some e =>
      { r with workshop := r.workshop.report (.event e), underway := r.underway.eraseIdx k }
  | .report x => { r with workshop := r.workshop.report x }
  | .watch =>
    { r with
      workshop := r.workshop.watch
      built := r.built ++ r.workshop.roused.1.products (r.workshop.roused.2.map .rebuild) }
  | .pass ms => { r with workshop := { r.workshop with now := r.workshop.now + ms } }

def run (r : Reload κ) (moves : List Move) : Reload κ := moves.foldl move r

/-- The files after a move. -/
def Move.filesAfter (files : FileTree) : Move → FileTree
  | .edit files' _ => files'
  | _ => files

/-- What a move changes of files at these places there are events to tell of. -/
def Move.Announces (own : List FilePath) (files : FileTree) : Move → Prop
  | .edit files' events => FileEvent.Announce events own files files'
  | _ => True

/-- All moves announce what they change of files at these places. -/
def Announced (own : List FilePath) (files : FileTree) : List Move → Prop
  | [] => True
  | m :: rest => m.Announces own files ∧ Announced own (m.filesAfter files) rest

/-- All events have been reported and read, and whatever was pending is over. -/
structure IsSettled (r : Reload κ) : Prop where
  reported : r.underway = []
  idle : r.workshop.isAble = false
  past : ∀ due ∈ r.workshop.dues, due ≤ r.workshop.now

instance (r : Reload κ) : Decidable r.IsSettled :=
  decidable_of_iff (r.underway = [] ∧ r.workshop.isAble = false ∧
      ∀ due ∈ r.workshop.dues, due ≤ r.workshop.now)
    ⟨fun h => ⟨h.1, h.2.1, h.2.2⟩, fun h => ⟨h.reported, h.idle, h.past⟩⟩

/-- A write at one of these places is on its way to the subscribers. -/
def IsComing (r : Reload κ) (own : List FilePath) : Prop :=
  ∃ x, r.workshop.watcher = some x ∧
    (x.watches.Awaits own ∨
      ∃ e : FileEvent, (.event e ∈ x.inbox ∨ e ∈ r.underway) ∧ e.Names r.workshop.files own)

/-- A template is subscribed to its file, and it is up to date or will be. -/
structure Sound (r : Reload κ) (base : FilePath) (t : TemplateRef) (bot : BotType)
    (identifier : String) : Prop where
  distinct : r.workshop.registry.Distinct
  follows : r.workshop.registry.FollowsBuilds r.built
  subscriber : r.workshop.subscriber? t = some (bot, identifier)
  subscribed : r.workshop.IsSubscribed base t
  current : r.workshop.UpToDate r.built t ∨ r.IsComing (Source.candidates base bot identifier)

section Moves

variable {r : Reload κ} {base : FilePath} {t : TemplateRef} {bot : BotType} {identifier : String}

/-! ## Files change -/

theorem nameOf?_of_subscriber? {w : Workshop κ} (h : w.subscriber? t = some (bot, identifier)) :
    w.nameOf? t = some (bot, identifier) := by
  cases t with
  | command i =>
    obtain ⟨c, hc, name⟩ := Option.map_eq_some_iff.mp h
    exact Option.map_eq_some_iff.mpr ⟨c, (Option.filter_eq_some_iff.mp hc).1, name⟩
  | task i =>
    obtain ⟨c, hc, name⟩ := Option.map_eq_some_iff.mp h
    exact Option.map_eq_some_iff.mpr ⟨c, (Option.filter_eq_some_iff.mp hc).1, name⟩

theorem source_of_runs {w : Workshop κ} {x : Watcher RebuildTarget} (hx : w.watcher = some x)
    (runs : x.Runs base) : w.source = .directory base := by
  rw [Workshop.source, hx, Option.map_some, Watcher.source, runs.base, Option.getD_some]

/-- A build reads no files but those of its template, so it would make the same when others change.
-/
theorem upToDate_edit {w : Workshop κ} {x : Watcher RebuildTarget} (hx : w.watcher = some x)
    (runs : x.Runs base) (subscriber : w.subscriber? t = some (bot, identifier))
    {ps : List (Product κ)} (current : w.UpToDate ps t) {files : FileTree}
    (same : ∀ p ∈ Source.candidates base bot identifier, files.content? p = w.files.content? p) :
    ({ w with files } : Workshop κ).UpToDate ps t := by
  intro p hp
  let next : Workshop κ := { w with files }
  have congr : next.product? t = w.product? t :=
    Workshop.product?_congr (nameOf?_of_subscriber? subscriber) rfl rfl
      (source_of_runs hx runs) (source_of_runs hx runs) same
  exact current p (congr.symm.trans hp)

/-- What is on its way stays on its way when files change, or an event takes its place. -/
theorem IsComing.edit {own : List FilePath} (h : r.IsComing own) {files : FileTree}
    {events : List FileEvent}
    (announce : FileEvent.Announce events own r.workshop.files files) :
    (r.move (.edit files events)).IsComing own := by
  obtain ⟨x, hx, coming⟩ := h
  refine ⟨x, hx, ?_⟩
  rcases coming with awaits | ⟨e, he, names⟩
  · exact .inl awaits
  · rcases names.of_keeps announce.keeps with names | ⟨e', he', names⟩
    · exact .inr ⟨e, he.imp_right fun later => List.mem_append_left _ later, names⟩
    · exact .inr ⟨e', .inr (List.mem_append_right _ he'), names⟩

/-- After a change of the files a template is up to date as before, or an event names its file. -/
theorem upToDate_or_isComing_edit {x : Watcher RebuildTarget} (hx : r.workshop.watcher = some x)
    (runs : x.Runs base) (subscriber : r.workshop.subscriber? t = some (bot, identifier))
    (current : r.workshop.UpToDate r.built t ∨ r.IsComing (Source.candidates base bot identifier))
    {files : FileTree} {events : List FileEvent}
    (announce : FileEvent.Announce events (Source.candidates base bot identifier)
      r.workshop.files files) :
    (r.move (.edit files events)).workshop.UpToDate r.built t ∨
      (r.move (.edit files events)).IsComing (Source.candidates base bot identifier) := by
  by_cases changed : ∃ p ∈ Source.candidates base bot identifier,
      files.content? p ≠ r.workshop.files.content? p
  · obtain ⟨p, hp, differs⟩ := changed
    obtain ⟨e, he, names⟩ := announce.tells p hp differs
    exact .inr ⟨x, hx, .inr ⟨e, .inr (List.mem_append_right _ he), names⟩⟩
  · have same : ∀ p ∈ Source.candidates base bot identifier,
        files.content? p = r.workshop.files.content? p := by
      intro p hp
      exact Classical.byContradiction fun differs => changed ⟨p, hp, differs⟩
    exact current.imp (fun current => upToDate_edit hx runs subscriber current same)
      fun coming => coming.edit announce

theorem Sound.edit (h : r.Sound base t bot identifier) {files : FileTree} {events : List FileEvent}
    (announce : FileEvent.Announce events (Source.candidates base bot identifier)
      r.workshop.files files) :
    (r.move (.edit files events)).Sound base t bot identifier := by
  obtain ⟨x, hx, runs, has⟩ := h.subscribed
  exact ⟨h.distinct, h.follows, h.subscriber, ⟨x, hx, runs, has⟩,
    upToDate_or_isComing_edit hx runs h.subscriber h.current announce⟩

/-! ## Reports -/

/-- What is on its way is still to be reported, or waits in the inbox then. -/
theorem IsComing.report {own : List FilePath} (h : r.IsComing own) {y : Watcher RebuildTarget}
    (hy : r.workshop.watcher = some y) (runs : y.Runs base) {x : WatchReport}
    {underway : List FileEvent} (sub : ∀ e ∈ r.underway, x = .event e ∨ e ∈ underway) :
    ({ r with workshop := r.workshop.report x, underway } : Reload κ).IsComing own := by
  obtain ⟨y', hy', coming⟩ := h
  rw [hy] at hy'
  cases hy'
  have delivered : (r.workshop.report x).watcher = some { y with inbox := y.inbox ++ [x] } := by
    simp [Workshop.report, hy, Watcher.deliver, runs.alive]
  refine ⟨_, delivered, ?_⟩
  rcases coming with awaits | ⟨e, he, names⟩
  · exact .inl awaits
  · refine .inr ⟨e, ?_, names⟩
    rcases he with read | later
    · exact .inl (List.mem_append_left _ read)
    · rcases sub e later with rfl | still
      · exact .inl (List.mem_append_right _ List.mem_cons_self)
      · exact .inr still

theorem sameGround_report {w : Workshop κ} {y : Watcher RebuildTarget} (hy : w.watcher = some y)
    (runs : y.Runs base) (x : WatchReport) : w.SameGround (w.report x) := by
  refine ⟨rfl, rfl, rfl, rfl, Workshop.source_of_base ?_, rfl⟩
  simp [Workshop.report, hy, Watcher.deliver, runs.alive]

/-- An event that is delivered is reported, and no other is lost. -/
theorem move_deliver (r : Reload κ) (k : Nat) :
    r.move (.deliver k) = r ∨ ∃ e underway,
      r.move (.deliver k) = { r with workshop := r.workshop.report (.event e), underway } ∧
        ∀ e' ∈ r.underway, WatchReport.event e = .event e' ∨ e' ∈ underway := by
  cases he : r.underway[k]? with
  | none => exact .inl (by simp [Reload.move, he])
  | some e =>
    refine .inr ⟨e, r.underway.eraseIdx k, by simp [Reload.move, he], ?_⟩
    intro e' he'
    obtain ⟨i, hi, rfl⟩ := List.mem_iff_getElem.mp he'
    by_cases here : i = k
    · subst here
      rw [List.getElem?_eq_getElem hi] at he
      cases he
      exact .inl rfl
    · exact .inr (List.mem_eraseIdx_iff_getElem.mpr ⟨i, hi, here, rfl⟩)

/-- A report waits in the inbox until it is read; it changes nothing else. -/
theorem Sound.report (h : r.Sound base t bot identifier) (x : WatchReport)
    {underway : List FileEvent} (sub : ∀ e ∈ r.underway, x = .event e ∨ e ∈ underway) :
    ({ r with workshop := r.workshop.report x, underway } : Reload κ).Sound base t bot
      identifier := by
  obtain ⟨y, hy, runs, has⟩ := h.subscribed
  have delivered : (r.workshop.report x).watcher = some { y with inbox := y.inbox ++ [x] } := by
    simp [Workshop.report, hy, Watcher.deliver, runs.alive]
  refine ⟨h.distinct, h.follows, h.subscriber, ?_, ?_⟩
  · exact ⟨_, delivered, ⟨runs.base, runs.running, runs.alive⟩, has⟩
  · exact h.current.imp (sameGround_report hy runs x).upToDate
      fun coming => coming.report hy runs sub

/-! ## The watcher acts -/

/-- What is on its way stays so as long as the watcher has it to read or to flush. -/
theorem IsComing.of_watcher {own : List FilePath} (h : r.IsComing own) {x y : Watcher RebuildTarget}
    (hx : r.workshop.watcher = some x) {v : Workshop κ} (hy : v.watcher = some y)
    (inbox : y.inbox = x.inbox) (pending : y.watches.pending = x.watches.pending)
    (files : v.files = r.workshop.files) (built : List (Product κ)) :
    ({ r with workshop := v, built } : Reload κ).IsComing own := by
  obtain ⟨x', hx', coming⟩ := h
  obtain rfl := Option.some_inj.mp (hx.symm.trans hx')
  refine ⟨y, hy, coming.imp ?_ ?_⟩
  · rintro ⟨f, hf, place⟩
    exact ⟨f, pending ▸ hf, place⟩
  · rintro ⟨e, he, names⟩
    exact ⟨e, inbox ▸ he, files ▸ names⟩

theorem roused_eq {w : Workshop κ} {x : Watcher RebuildTarget} (hx : w.watcher = some x) :
    w.roused =
      ({ w with
          watcher := some (x.act w.os w.files w.now).1
          notes := w.notes ++ (x.act w.os w.files w.now).2.2 },
        ((x.act w.os w.files w.now).2.1.filter fun t => t.registry = w.replaced).map
          RebuildTarget.template) := by
  simp only [Workshop.roused, hx]

/-- What the watcher does leaves what builds read. -/
theorem sameGround_roused {w : Workshop κ} {x : Watcher RebuildTarget} (hx : w.watcher = some x)
    (runs : x.Runs base) : w.SameGround w.roused.1 := by
  obtain ⟨runs', -⟩ := Watcher.runs_act runs w.os w.files w.now
  rw [roused_eq hx]
  refine ⟨rfl, rfl, rfl, rfl, ?_, rfl⟩
  rw [source_of_runs hx runs]
  exact source_of_runs rfl runs'

/-- A template is built anew when its file is flushed. -/
theorem mem_roused {x : Watcher RebuildTarget} (hx : r.workshop.watcher = some x)
    (runs : x.Runs base) (hid : FilePath.IsName identifier)
    (has : x.watches.Has (Source.directoryFor base bot)
      ⟨bot, identifier, ⟨r.workshop.replaced, t⟩⟩)
    (flushes : x.Flushes r.workshop.now (Source.candidates base bot identifier)) :
    t ∈ r.workshop.roused.2 := by
  have called := Watcher.Flushes.target_mem (s := ⟨bot, identifier, ⟨r.workshop.replaced, t⟩⟩)
    runs hid has flushes r.workshop.os r.workshop.files
  rw [roused_eq hx]
  exact List.mem_map.mpr ⟨_, List.mem_filter.mpr ⟨called, decide_eq_true rfl⟩, rfl⟩

/-- When the watcher acts, a write that was on its way still is, if its directory is watched, or the
file is flushed. -/
theorem IsComing.roused (h : r.IsComing (Source.candidates base bot identifier))
    {x : Watcher RebuildTarget} (hx : r.workshop.watcher = some x) (runs : x.Runs base)
    (hid : FilePath.IsName identifier)
    (watched : (x.watches.directory? (Source.directoryFor base bot)).isSome) :
    x.Flushes r.workshop.now (Source.candidates base bot identifier) ∨
      ({ r with workshop := r.workshop.roused.1 } : Reload κ).IsComing
        (Source.candidates base bot identifier) := by
  obtain ⟨x', hx', coming⟩ := h
  obtain rfl := Option.some_inj.mp (hx.symm.trans hx')
  obtain ⟨pending, read⟩ :=
    Watcher.onward runs hid watched r.workshop.os r.workshop.files r.workshop.now
  rw [roused_eq hx]
  rcases coming with awaits | ⟨e, there | later, names⟩
  · exact (pending awaits).imp_right fun still => ⟨_, rfl, .inl still⟩
  · rcases read e there names with noticed | still
    · exact .inr ⟨_, rfl, .inl noticed⟩
    · exact .inr ⟨_, rfl, .inr ⟨e, .inl still, names⟩⟩
  · exact .inr ⟨_, rfl, .inr ⟨e, .inr later, names⟩⟩

/-- The builds that follow leave the watcher and the files alone. -/
theorem isComing_watch {own : List FilePath}
    (h : ({ r with workshop := r.workshop.roused.1 } : Reload κ).IsComing own) :
    (r.move .watch).IsComing own := by
  obtain ⟨y, hy, coming⟩ := h
  have built := r.workshop.roused.1.sameGround_perform (Workshop.noFiles_rebuilds
    r.workshop.roused.2)
  have watcher := r.workshop.roused.1.watcher_perform_rebuilds r.workshop.roused.2
  rw [move, Workshop.watch_eq]
  exact IsComing.of_watcher ⟨y, hy, coming⟩ hy (watcher.trans hy) rfl rfl built.files _

/-- When the watcher acts, a write that was on its way still is, or its template is built anew. -/
theorem roused_spec (subscribed : r.workshop.IsSubscribed base t)
    (subscriber : r.workshop.subscriber? t = some (bot, identifier))
    (hid : FilePath.IsName identifier) :
    r.workshop.SameGround r.workshop.roused.1 ∧
      r.workshop.roused.1.registry = r.workshop.registry ∧
      r.workshop.roused.1.IsSubscribed base t ∧
      (r.IsComing (Source.candidates base bot identifier) →
        t ∈ r.workshop.roused.2 ∨
          ({ r with workshop := r.workshop.roused.1 } : Reload κ).IsComing
            (Source.candidates base bot identifier)) := by
  obtain ⟨x, hx, runs, subscription⟩ := subscribed
  have has := subscription bot identifier subscriber
  obtain ⟨runs', directories⟩ :=
    Watcher.runs_act runs r.workshop.os r.workshop.files r.workshop.now
  refine ⟨sameGround_roused hx runs, ?_, ?_, fun coming => ?_⟩
  · rw [roused_eq hx]
  · rw [roused_eq hx]
    refine ⟨_, rfl, runs', ?_⟩
    intro bot' identifier' found
    exact (subscription bot' identifier' found).of_directories directories
  · exact (coming.roused hx runs hid has.isSome_directory?).imp_left (mem_roused hx runs hid has)

theorem Sound.watch (h : r.Sound base t bot identifier) (hid : FilePath.IsName identifier) :
    (r.move .watch).Sound base t bot identifier := by
  obtain ⟨same, registry, subscribed, onward⟩ := roused_spec h.subscribed h.subscriber hid
  have noFiles := Workshop.noFiles_rebuilds r.workshop.roused.2
  have built := r.workshop.roused.1.sameGround_perform noFiles
  have watcher := r.workshop.roused.1.watcher_perform_rebuilds r.workshop.roused.2
  have distinct := same.distinct h.distinct
  have frame : (r.move .watch).workshop =
      r.workshop.roused.1.perform (r.workshop.roused.2.map .rebuild) := r.workshop.watch_eq
  have ghost : (r.move .watch).built =
      r.built ++ r.workshop.roused.1.products (r.workshop.roused.2.map .rebuild) := rfl
  refine ⟨?_, ?_, ?_, ?_, ?_⟩
  · rw [frame]
    exact built.distinct distinct
  · rw [frame, ghost, Workshop.registry_perform, registry]
    exact h.follows.foldl_adopt _
  · rw [frame, built.subscriber?, same.subscriber?, h.subscriber]
  · rw [frame]
    exact subscribed.of_watcher built watcher
  · -- What is built anew is up to date then; the rest stays as it was.
    have fresh : t ∈ r.workshop.roused.2 ∨ r.workshop.roused.1.UpToDate r.built t →
        (r.move .watch).workshop.UpToDate (r.move .watch).built t := by
      intro h'
      rw [frame, ghost]
      refine Workshop.upToDate_perform distinct noFiles (h'.imp_left ?_)
      intro called
      exact ⟨.rebuild t, List.mem_map_of_mem called, rfl⟩
    rcases h.current with current | coming
    · exact .inl (fresh (.inr (same.upToDate current)))
    · rcases onward coming with called | still
      · exact .inl (fresh (.inl called))
      · exact .inr (isComing_watch still)

/-- One move keeps a template up to date, or its write on the way. -/
theorem Sound.move (h : r.Sound base t bot identifier) (hid : FilePath.IsName identifier)
    {m : Move} (announced : m.Announces (Source.candidates base bot identifier) r.workshop.files) :
    (r.move m).Sound base t bot identifier := by
  cases m with
  | edit files events => exact h.edit announced
  | deliver k =>
    rcases r.move_deliver k with stays | ⟨e, underway, reported, sub⟩
    · rw [stays]
      exact h
    · rw [reported]
      exact h.report (.event e) sub
  | report x => exact h.report x fun e he => .inr he
  | watch => exact h.watch hid
  | pass ms => exact ⟨h.distinct, h.follows, h.subscriber, h.subscribed, h.current⟩

theorem files_move (r : Reload κ) (m : Move) :
    (r.move m).workshop.files = m.filesAfter r.workshop.files := by
  cases m with
  | deliver k =>
    cases he : r.underway[k]? <;> simp [move, he, Workshop.report, Move.filesAfter]
  | watch => exact r.workshop.files_watch
  | edit files events => rfl
  | report x => rfl
  | pass ms => rfl

theorem templates_run (r : Reload κ) (moves : List Move) :
    (r.run moves).workshop.registry.commands = r.workshop.registry.commands ∧
      (r.run moves).workshop.registry.tasks = r.workshop.registry.tasks := by
  induction moves generalizing r with
  | nil => exact ⟨rfl, rfl⟩
  | cons m rest ih =>
    obtain ⟨commands, tasks⟩ := ih (r.move m)
    rw [run, List.foldl_cons, ← run, commands, tasks]
    cases m with
    | deliver k => cases he : r.underway[k]? <;> simp [move, he, Workshop.report]
    | watch => exact r.workshop.templates_watch
    | edit files events => exact ⟨rfl, rfl⟩
    | report x => exact ⟨rfl, rfl⟩
    | pass ms => exact ⟨rfl, rfl⟩

theorem Sound.run (h : r.Sound base t bot identifier) (hid : FilePath.IsName identifier)
    {moves : List Move}
    (announced : Announced (Source.candidates base bot identifier) r.workshop.files moves) :
    (r.run moves).Sound base t bot identifier := by
  induction moves generalizing r with
  | nil => exact h
  | cons m rest ih =>
    obtain ⟨announces, later⟩ := announced
    refine ih (h.move hid announces) ?_
    rw [files_move]
    exact later

/-! ## The opening -/

theorem mem_openingSteps {w : Workshop κ} (h : w.subscriber? t = some (bot, identifier)) :
    .build t ∈ w.openingSteps ∧ .subscribe t ∈ w.openingSteps := by
  have registered : t ∈ w.registry.templates := by
    cases t with
    | command i =>
      obtain ⟨c, hc, -⟩ := Option.map_eq_some_iff.mp h
      have bound := (List.getElem?_eq_some_iff.mp (Option.filter_eq_some_iff.mp hc).1).1
      exact List.mem_append_left _ (List.mem_map_of_mem (List.mem_range.mpr bound))
    | task i =>
      obtain ⟨c, hc, -⟩ := Option.map_eq_some_iff.mp h
      have bound := (List.getElem?_eq_some_iff.mp (Option.filter_eq_some_iff.mp hc).1).1
      exact List.mem_append_right _ (List.mem_map_of_mem (List.mem_range.mpr bound))
  constructor
  · exact List.mem_flatMap.mpr ⟨t, registered, List.mem_cons_self⟩
  · exact List.mem_flatMap.mpr ⟨t, registered, List.mem_cons_of_mem _ List.mem_cons_self⟩

/-- After an opening every template is up to date, and subscribed. -/
theorem sound_opened {w : Workshop κ} {x : Watcher RebuildTarget} (unbuilt : w.registry.Unbuilt)
    (hx : w.watcher = some x) (runs : x.Runs base) (ok : w.openAll.1 = none)
    (accepted : ∀ e, .changesMissed e ∉ w.openAll.2.notes)
    (subscriber : w.subscriber? t = some (bot, identifier)) :
    (opened w).Sound base t bot identifier := by
  obtain ⟨builds, subscribes⟩ := mem_openingSteps subscriber
  have history : w.openAll.2 = w.perform (w.openingSteps.map .opening) :=
    Workshop.perform_openBy ok
  have same := Workshop.sameGround_openAll ok
  have workshop : (opened w).workshop = w.perform (w.openingSteps.map .opening) := history
  refine ⟨same.distinct unbuilt.toDistinct, ?_, ?_, ?_, .inl ?_⟩
  · rw [workshop]
    exact Workshop.followsBuilds_perform unbuilt _
  · exact (same.subscriber? t).trans subscriber
  · exact Workshop.isSubscribed_openBy ⟨x, hx, runs⟩ ok accepted (.inl subscribes)
  · have built : ∃ a ∈ w.openingSteps.map Workshop.Act.opening, a.template? = some t :=
      ⟨.opening (.build t), List.mem_map_of_mem builds, rfl⟩
    have fresh : (w.perform (w.openingSteps.map .opening)).UpToDate
        ([] ++ w.products (w.openingSteps.map .opening)) t :=
      Workshop.upToDate_perform unbuilt.toDistinct (Workshop.noFiles_opening _) (.inl built)
    rw [workshop]
    exact fresh

/-! ## Settling -/

/-- When all has settled, nothing is on its way. -/
theorem IsSettled.not_isComing (settled : r.IsSettled) {x : Watcher RebuildTarget}
    (hx : r.workshop.watcher = some x) (runs : x.Runs base) (own : List FilePath) :
    ¬r.IsComing own := by
  rintro ⟨y, hy, coming⟩
  rw [hx] at hy
  cases hy
  have idle : x.isAble r.workshop.now = false := by
    have := settled.idle
    rwa [Workshop.isAble, hx, Option.any_some] at this
  have past : ∀ due ∈ x.dues, due ≤ r.workshop.now := by
    have := settled.past
    rwa [Workshop.dues, hx, Option.map_some, Option.getD_some] at this
  obtain ⟨inbox, pending⟩ := Watcher.idle_of_not_isAble runs idle past
  rcases coming with ⟨f, hf, -⟩ | ⟨e, read | later, -⟩
  · rw [pending] at hf
    cases hf
  · rw [inbox] at read
    cases read
  · rw [settled.reported] at later
    cases later

/-- When nothing is on its way, what is live is what the latest build made that could succeed. -/
theorem Sound.instance?_of_isSettled (h : r.Sound base t bot identifier) (settled : r.IsSettled) :
    r.workshop.instance? t =
      (r.workshop.product? t).or (r.workshop.latestProduct? r.built t) := by
  rw [Workshop.instance?_of_followsBuilds h.follows]
  obtain ⟨x, hx, runs, -⟩ := h.subscribed
  have current : r.workshop.UpToDate r.built t :=
    h.current.resolve_right (settled.not_isComing hx runs _)
  cases hp : r.workshop.product? t with
  | none => rfl
  | some p => rw [current p hp, Option.some_or]

/-- A move that leaves the files alone. -/
def Move.IsQuiet : Move → Prop
  | .edit _ _ => False
  | _ => True

theorem run_append (r : Reload κ) (moves more : List Move) :
    r.run (moves ++ more) = (r.run moves).run more := List.foldl_append

/-- What is underway can be reported. -/
theorem exists_reported (r : Reload κ) {x : Watcher RebuildTarget}
    (hx : r.workshop.watcher = some x) (runs : x.Runs base) :
    ∃ moves : List Move, (∀ m ∈ moves, m.IsQuiet) ∧ (r.run moves).underway = [] ∧
      ∃ y, (r.run moves).workshop.watcher = some y ∧ y.Runs base := by
  generalize hn : r.underway = underway
  induction underway generalizing r x with
  | nil => exact ⟨[], nofun, hn, x, hx, runs⟩
  | cons e rest ih =>
    have reported : r.move (.deliver 0) =
        { r with workshop := r.workshop.report (.event e), underway := rest } := by
      simp [move, hn]
    have watcher : (r.workshop.report (.event e)).watcher =
        some { x with inbox := x.inbox ++ [.event e] } := by
      simp [Workshop.report, hx, Watcher.deliver, runs.alive]
    obtain ⟨moves, quiet, rest⟩ := ih (r.move (.deliver 0))
      (x := { x with inbox := x.inbox ++ [.event e] }) (by rw [reported]; exact watcher)
      ⟨runs.base, runs.running, runs.alive⟩ (by rw [reported])
    refine ⟨.deliver 0 :: moves, ?_, rest⟩
    exact List.forall_mem_cons.mpr ⟨trivial, quiet⟩

theorem watcher_watch {w : Workshop κ} {x : Watcher RebuildTarget} (hx : w.watcher = some x) :
    w.watch.watcher = some (x.act w.os w.files w.now).1 := by
  rw [Workshop.watch_eq, Workshop.watcher_perform_rebuilds]
  simp only [Workshop.roused, hx]

/-- What has been reported can be read. -/
theorem exists_read (r : Reload κ) {x : Watcher RebuildTarget}
    (hx : r.workshop.watcher = some x) (runs : x.Runs base) (reported : r.underway = []) :
    ∃ moves : List Move, (∀ m ∈ moves, m.IsQuiet) ∧ (r.run moves).underway = [] ∧
      ∃ y, (r.run moves).workshop.watcher = some y ∧ y.Runs base ∧ y.inbox = [] := by
  generalize hn : x.inbox = inbox
  induction inbox generalizing r x with
  | nil => exact ⟨[], nofun, reported, x, hx, runs, hn⟩
  | cons e rest ih =>
    obtain ⟨runs', -⟩ := Watcher.runs_act runs r.workshop.os r.workshop.files r.workshop.now
    obtain ⟨moves, quiet, rest⟩ := ih (r.move .watch) (watcher_watch hx) runs' reported
      (by rw [Watcher.inbox_act runs, hn, List.tail_cons])
    refine ⟨.watch :: moves, ?_, rest⟩
    exact List.forall_mem_cons.mpr ⟨trivial, quiet⟩

/-- What has been read can be flushed. -/
theorem exists_flushed (r : Reload κ) {x : Watcher RebuildTarget}
    (hx : r.workshop.watcher = some x) (runs : x.Runs base) (reported : r.underway = [])
    (read : x.inbox = []) :
    ∃ moves : List Move, (∀ m ∈ moves, m.IsQuiet) ∧ (r.run moves).IsSettled := by
  let wait := x.dues.max?.getD 0
  let waited := r.move (.pass wait)
  have past : ∀ f ∈ x.watches.pending, f.due ≤ waited.workshop.now := by
    intro f hf
    have : f.due ≤ wait := List.le_max?_getD_of_mem (List.mem_map_of_mem hf)
    exact this.trans (Nat.le_add_left _ _)
  have flushed : (x.act waited.workshop.os waited.workshop.files waited.workshop.now).1 =
      { x with watches := { x.watches with pending := [] } } := by
    have due : x.watches.pending.filter (fun f => waited.workshop.now < f.due) = [] := by
      rw [List.filter_eq_nil_iff]
      intro f hf
      simpa using past f hf
    simp only [Watcher.act, runs.running, read, Watches.flush, due, Bool.false_eq_true, ↓reduceIte]
  have watcher : (r.run [.pass wait, .watch]).workshop.watcher =
      some { x with watches := { x.watches with pending := [] } } := by
    rw [← flushed]
    exact watcher_watch (w := waited.workshop) hx
  refine ⟨[.pass wait, .watch], ?_, reported, ?_, ?_⟩
  · exact List.forall_mem_cons.mpr ⟨trivial, List.forall_mem_singleton.mpr trivial⟩
  · rw [Workshop.isAble, watcher]
    simp [Watcher.isAble, runs.alive, runs.running, read, Watches.nextDue?]
  · rw [Workshop.dues, watcher]
    exact fun d hd => absurd hd List.not_mem_nil

/-- A workshop that is left alone long enough settles. -/
theorem exists_isSettled (r : Reload κ) {x : Watcher RebuildTarget}
    (hx : r.workshop.watcher = some x) (runs : x.Runs base) :
    ∃ moves : List Move, (∀ m ∈ moves, m.IsQuiet) ∧ (r.run moves).IsSettled := by
  obtain ⟨first, quiet, reported, y, hy, runs⟩ := exists_reported r hx runs
  obtain ⟨second, quiet', reported, z, hz, runs, read⟩ := exists_read _ hy runs reported
  obtain ⟨third, quiet'', settled⟩ := exists_flushed _ hz runs reported read
  refine ⟨first ++ second ++ third, ?_, ?_⟩
  · intro m hm
    rw [List.mem_append, List.mem_append] at hm
    rcases hm with (hm | hm) | hm
    · exact quiet m hm
    · exact quiet' m hm
    · exact quiet'' m hm
  · rw [run_append, run_append]
    exact settled

end Moves

end Reload

namespace Workshop

variable {κ : Type}

/-- A workshop with these templates and a watcher of the files below a directory. -/
def watching (w : Workshop κ) (commands : List (CommandTemplate κ)) (tasks : List TaskTemplate)
    (base : FilePath) (debounce : Nat) : Workshop κ :=
  { w with
    registry := .ofTemplates commands tasks, watcher := some (.ofBase base debounce), notes := [] }

/-- **Hot reload settles on the files as they are.** The opening succeeds and refuses no
subscription. Then files are written and moved to preferred names in any order and with any
contents, the events of that are reported at any later moments, and time passes. If all is left
alone it settles, and whenever it is settled, of each configurable template that is live which a
build of the files as they are would give: its defaults with the selected file laid over them,
whatever earlier builds have seen. If that build would fail, the latest successful one is live. -/
theorem hot_reload_settles (w : Workshop κ) (commands : List (CommandTemplate κ))
    (tasks : List TaskTemplate) (base : FilePath) (debounce : Nat)
    (ok : (w.watching commands tasks base debounce).openAll.1 = none)
    (accepted : ∀ e, .changesMissed e ∉ (w.watching commands tasks base debounce).openAll.2.notes)
    (t : TemplateRef) (bot : BotType) (identifier : String)
    (configurable :
      (w.watching commands tasks base debounce).subscriber? t = some (bot, identifier))
    (single : FilePath.IsName identifier) (moves : List Reload.Move)
    (announced : Reload.Announced (Source.candidates base bot identifier) w.files moves) :
    let now := (Reload.opened (w.watching commands tasks base debounce)).run moves
    (∃ more : List Reload.Move, (∀ m ∈ more, m.IsQuiet) ∧ (now.run more).IsSettled) ∧
    (now.IsSettled →
      (∀ p, now.workshop.product? t = some p → now.workshop.instance? t = some p) ∧
      (now.workshop.product? t = none →
        now.workshop.instance? t = now.workshop.latestProduct? now.built t) ∧
      (∀ (i : Nat) (c : CommandTemplate κ) (α : Type) [Settings α] (defaults s : α)
        (make : α → Executor κ),
        t = .command i → (Registry.ofTemplates commands tasks).commands[i]? = some c →
        c.executor = .ofSettings defaults make →
        Source.settings? now.workshop.files base bot identifier defaults = some s →
        now.workshop.instance? t = some (.command bot
          { identifier, instruction := c.instruction, matcher := c.matcher, run := make s })) ∧
      (∀ (i : Nat) (c : TaskTemplate) (α : Type) [TaskConfiguration α] (defaults s : α)
        (run : α → TaskExecutor) (schedule : Schedule),
        t = .task i → (Registry.ofTemplates commands tasks).tasks[i]? = some c →
        c.executor = TaskTemplate.configured defaults run →
        Source.settings? now.workshop.files base bot identifier defaults = some s →
        c.scheduleOf (TaskConfiguration.schedule s) = .ok schedule →
        now.workshop.instance? t = some (.task
          { botType := bot, identifier, schedule
            destination := (TaskConfiguration.destination s).or c.destination
            run := run s }))) := by
  intro now
  have same := sameGround_openAll ok
  have sound : now.Sound base t bot identifier := by
    refine Reload.Sound.run ?_ single ?_
    · exact Reload.sound_opened (Registry.unbuilt_ofTemplates commands tasks) rfl
        ⟨rfl, rfl, rfl⟩ ok accepted configurable
    · exact same.files ▸ announced
  obtain ⟨x, hx, runs, -⟩ := sound.subscribed
  have source := Reload.source_of_runs hx runs
  obtain ⟨commands_run, tasks_run⟩ :=
    (Reload.opened (w.watching commands tasks base debounce)).templates_run moves
  refine ⟨Reload.exists_isSettled now hx runs, ?_⟩
  intro settled
  have live := sound.instance?_of_isSettled settled
  have of_product : ∀ p, now.workshop.product? t = some p → now.workshop.instance? t = some p := by
    intro p hp
    rw [live, hp, Option.some_or]
  refine ⟨of_product, ?_, ?_, ?_⟩
  · intro none_built
    rw [live, none_built, Option.none_or]
  · rintro i c α _ defaults s make rfl hc executor selected
    have registered : now.workshop.registry.commands[i]? = some c := by
      rw [commands_run]
      exact same.commands ▸ hc
    have name := Reload.nameOf?_of_subscriber? sound.subscriber
    simp only [nameOf?, registered, Option.map_some, Option.some.injEq, Prod.mk.injEq] at name
    obtain ⟨rfl, rfl⟩ := name
    apply of_product
    rw [product?, registered, Option.bind_some, source, CommandTemplate.build_ofSettings executor,
      selected]
    rfl
  · rintro i c α _ defaults s run schedule rfl hc executor selected scheduled
    have registered : now.workshop.registry.tasks[i]? = some c := by
      rw [tasks_run]
      exact same.tasks ▸ hc
    have name := Reload.nameOf?_of_subscriber? sound.subscriber
    simp only [nameOf?, registered, Option.map_some, Option.some.injEq, Prod.mk.injEq] at name
    obtain ⟨rfl, rfl⟩ := name
    apply of_product
    rw [product?, registered, Option.bind_some, source, TaskTemplate.build_configured executor,
      selected, Option.bind_some, scheduled]
    rfl

/-! ## A greeting that changes -/

namespace Greeting

/-- The directory of the greeting, without files. -/
def bare : FileTree := ({} : FileTree).makeDirectory ["conf", "chat"]

/-- First two files are written, the second of which is preferred, and then the second gets the name
that is preferred to all. -/
def first : FileTree :=
  bare.write ["conf", "chat", "greet.json"] "\x7b\"greeting\": \"Good day\"\x7d".toUTF8.toList

def second : FileTree :=
  first.write ["conf", "chat", "greet.yml"] "greeting: Hey".toUTF8.toList

def third : FileTree :=
  (second.remove ["conf", "chat", "greet.yml"]).write ["conf", "chat", "greet.yaml"]
    "greeting: Hey".toUTF8.toList

/-- The events arrive in another order, one of them while the other file is pending, and one that
names a file which is no longer there. -/
def moves : List Reload.Move :=
  [.edit first [⟨.created, [⟨"/conf/chat/greet.json"⟩]⟩],
    .edit second [⟨.created, [⟨"/conf/chat/greet.yml"⟩]⟩],
    .edit third [⟨.movedHere, [⟨"/conf/chat/greet.yaml"⟩]⟩],
    .deliver 2, .watch, .pass 7, .deliver 0, .deliver 0, .watch, .watch, .pass 7, .watch, .pass 7,
    .watch]

theorem keeps_first : bare.Keeps first := FileTree.keeps_write (by decide +kernel) _

theorem keeps_second : first.Keeps second := FileTree.keeps_write (by decide +kernel) _

/-- The writes are announced. -/
theorem announced_moves :
    Reload.Announced (Source.candidates ⟨"/conf"⟩ ⟨"chat"⟩ "greet") bare moves :=
  ⟨⟨fun _ _ _ _ file => .inl (keeps_first.isFile file), by decide +kernel⟩,
    ⟨fun _ _ _ _ file => .inl (keeps_second.isFile file), by decide +kernel⟩,
    ⟨fun _ _ _ _ _ => .inr (by decide +kernel), by decide +kernel⟩,
    trivial, trivial, trivial, trivial, trivial, trivial, trivial, trivial, trivial, trivial,
    trivial, trivial⟩

end Greeting

/-- The live greeting is the one of the `yaml` file, which was reported first. -/
theorem hot_reload_settles_greeting :
    let greet := Bundled.greet ⟨"chat"⟩
    let now := (Reload.opened
      (watching { files := Greeting.bare } [greet] [] ⟨"/conf"⟩ 10)).run Greeting.moves
    now.IsSettled ∧ ∃ make : GreetSettings → Executor Routine,
      greet.executor = .ofSettings ({} : GreetSettings) make ∧
        now.workshop.instance? (.command 0) = some (.command ⟨"chat"⟩
          { identifier := "greet", instruction := greet.instruction, matcher := greet.matcher
            run := make ⟨"Hey", none⟩ }) := by
  intro greet now
  have settled : now.IsSettled :=
    ⟨by decide +kernel, by decide +kernel, by decide +kernel⟩
  obtain ⟨-, live⟩ := hot_reload_settles
    { files := Greeting.bare } [Bundled.greet ⟨"chat"⟩] [] ⟨"/conf"⟩ 10
    (by decide +kernel)
    (by
      have quiet : (watching { files := Greeting.bare } [Bundled.greet ⟨"chat"⟩] [] ⟨"/conf"⟩
          10).openAll.2.notes = [] := by decide +kernel
      rw [quiet]
      exact fun _ => nofun)
    (.command 0) ⟨"chat"⟩ "greet" (by decide +kernel) (by decide +kernel) Greeting.moves
    Greeting.announced_moves
  obtain ⟨-, -, command, -⟩ := live settled
  have selected : Source.settings? now.workshop.files ⟨"/conf"⟩ ⟨"chat"⟩ "greet"
      ({} : GreetSettings) = some ⟨"Hey", none⟩ := by decide +kernel
  exact ⟨settled, _, rfl, command 0 _ GreetSettings {} ⟨"Hey", none⟩ _ rfl rfl rfl selected⟩

end Workshop

end Switchboard
