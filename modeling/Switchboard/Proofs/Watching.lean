import Switchboard.Proofs.Paths
import Switchboard.Watch.Watcher

/-!
# No write is lost on the watcher's way

A write of a configuration file passes three places before its subscriber is called: the inbox of
the watcher, its pending files, and the flush. Each hands it on. A report that is read makes its
files pending (`awaits_observe`), a file that is pending stays so until it is flushed, however often
it is touched (`Awaits.observe`), and a flush gives the target of each subscription to its file
(`target_mem_flush`). Subscriptions themselves are kept by all of these.

All of it is said of places and not of paths, since the operating system may write a path otherwise
than the one who subscribed.
-/

namespace Switchboard

theorem FileTree.holds_of_isFile {t : FileTree} {p : FilePath} (h : t.isFile p = true) :
    t.holds p = true := by
  unfold isFile read at h
  unfold holds
  cases hr : t.resolve p with
  | error e => rw [hr] at h; cases h
  | ok place => rfl

/-! ## Writes and their events -/

namespace FileEvent

/-- An event says of a file at one of these places that it was written. -/
def Names (e : FileEvent) (files : FileTree) (own : List FilePath) : Prop :=
  ∃ q ∈ e.written files, files.isFile q = true ∧ ∃ p ∈ own, q.same p = true

instance (e : FileEvent) (files : FileTree) (own : List FilePath) :
    Decidable (e.Names files own) := inferInstanceAs (Decidable (∃ q, q ∈ e.written files ∧ _))

/-- An event goes on to name files at some places, unless one that was there is taken away. -/
theorem Names.of_keeps {e : FileEvent} {own : List FilePath} {files files' : FileTree} {P : Prop}
    (h : e.Names files own)
    (keeps : ∀ p ∈ own, ∀ q, q.same p = true → files.isFile q = true →
      files'.isFile q = true ∨ P) :
    e.Names files' own ∨ P := by
  obtain ⟨q, written, isFile, p, hp, place⟩ := h
  refine (keeps p hp q place isFile).imp_left fun still => ⟨q, ?_, still, p, hp, place⟩
  unfold FileEvent.written at written ⊢
  split at written
  all_goals first
    | exact written
    | cases written
    | exact List.mem_filter.mpr ⟨(List.mem_filter.mp written).1, FileTree.holds_of_isFile still⟩

end FileEvent

namespace Watches

variable {α : Type} {w : Watches α}

/-! ## Subscriptions -/

/-- A subscription is among those of a directory. -/
def Has (w : Watches α) (path : FilePath) (s : Subscription α) : Prop :=
  ∃ d, w.directory? path = some d ∧ s ∈ d.subscriptions

theorem directory?_append (w : Watches α) (path other : FilePath) (s : Subscription α) :
    (w.append path s).directory? other = (w.directory? other).map fun d =>
      if d.path.same path then { d with subscriptions := d.subscriptions ++ [s] } else d := by
  unfold directory? append
  rw [List.find?_map]
  congr 2
  funext d
  dsimp only [Function.comp]
  split <;> rfl

/-- Who has subscribed stays subscribed when others come. -/
theorem Has.subscribe {path : FilePath} {s : Subscription α} (h : w.Has path s)
    (os : DirectoryWatch) (other : FilePath) (t : Subscription α) :
    (w.subscribe os other t).2.Has path s := by
  obtain ⟨d, found, mem⟩ := h
  unfold Watches.subscribe
  split
  · split
    · exact ⟨d, found, mem⟩
    · -- The directory is still the first of its place, with one more subscription or none.
      refine ⟨_, by rw [directory?_append, found, Option.map_some], ?_⟩
      split
      · exact List.mem_append_left _ mem
      · exact mem
  · dsimp only
    split
    · exact ⟨d, found, mem⟩
    · refine ⟨d, ?_, mem⟩
      unfold directory? at found ⊢
      rw [List.find?_append, found]
      rfl

theorem Has.isSome_directory? {path : FilePath} {s : Subscription α} (h : w.Has path s) :
    (w.directory? path).isSome := by
  obtain ⟨d, found, -⟩ := h
  rw [found, Option.isSome_some]

/-- Who subscribes with success has subscribed. -/
theorem has_subscribe {os : DirectoryWatch} {path : FilePath} {s : Subscription α}
    (h : (w.subscribe os path s).1 = .ok ()) : (w.subscribe os path s).2.Has path s := by
  unfold Watches.subscribe at h ⊢
  split
  · next d found =>
    rw [found] at h
    dsimp only at h
    split at h
    · cases h
    · next fresh =>
      rw [if_neg fresh]
      have here : d.path.same path = true := by
        unfold directory? at found
        exact List.find?_some (p := fun d : WatchedDirectory α => d.path.same path) found
      refine ⟨_, by rw [directory?_append, found, Option.map_some], ?_⟩
      rw [if_pos here]
      exact List.mem_append_right _ List.mem_cons_self
  · next missing =>
    rw [missing] at h
    dsimp only at h ⊢
    split at h
    · cases h
    · next answer =>
      rw [answer]
      refine ⟨⟨path, [s]⟩, ?_, List.mem_cons_self⟩
      unfold directory? at missing ⊢
      rw [List.find?_append, missing, Option.none_or, List.find?_singleton]
      simp [FilePath.same_refl]

/-- Only the directories matter to who has subscribed. -/
theorem Has.of_directories {v : Watches α} {path : FilePath} {s : Subscription α}
    (h : w.Has path s) (same : v.directories = w.directories) : v.Has path s := by
  obtain ⟨d, found, mem⟩ := h
  refine ⟨d, ?_, mem⟩
  rw [directory?, same]
  exact found

/-! ## Pending files -/

/-- A file at one of these places is pending. -/
def Awaits (w : Watches α) (own : List FilePath) : Prop :=
  ∃ f ∈ w.pending, ∃ p ∈ own, f.path.same p = true

theorem directories_touch (w : Watches α) (now : Nat) (file : FilePath) :
    (w.touch now file).directories = w.directories := by
  unfold touch
  split <;> rfl

theorem directories_observe (w : Watches α) (now : Nat) (files : FileTree) (e : FileEvent) :
    (w.observe now files e).directories = w.directories := by
  unfold observe
  generalize e.written files = written
  induction written generalizing w with
  | nil => rfl
  | cons file rest ih => rw [List.foldl_cons, ih, directories_touch]

/-- A file that is touched is pending, if it is of a known format and in a watched directory. -/
theorem awaits_touch {own : List FilePath} {file p : FilePath} (now : Nat) (hp : p ∈ own)
    (place : file.same p = true) (around : (w.around? file).isSome)
    (format : (FileFormat.ofPath? file).isSome) : (w.touch now file).Awaits own := by
  unfold touch
  rw [around, format]
  refine ⟨⟨file, now + w.debounce⟩, ?_, p, hp, place⟩
  exact List.mem_append_right _ List.mem_cons_self

/-- A pending file stays pending when files are touched, with another due time perhaps. -/
theorem Awaits.touch {own : List FilePath} (h : w.Awaits own) (now : Nat) (file : FilePath) :
    (w.touch now file).Awaits own := by
  obtain ⟨f, hf, p, hp, place⟩ := h
  unfold Watches.touch
  split
  · by_cases again : f.path.same file = true
    · refine ⟨⟨file, now + w.debounce⟩, ?_, p, hp, ?_⟩
      · exact List.mem_append_right _ List.mem_cons_self
      · exact FilePath.same_trans (FilePath.same_symm again) place
    · refine ⟨f, List.mem_append_left _ (List.mem_filter.mpr ⟨hf, ?_⟩), p, hp, place⟩
      simpa using again
  · exact ⟨f, hf, p, hp, place⟩

theorem Awaits.foldl_touch {own : List FilePath} (h : w.Awaits own) (now : Nat)
    (written : List FilePath) :
    (written.foldl (fun w file => w.touch now file) w).Awaits own := by
  induction written generalizing w with
  | nil => exact h
  | cons file rest ih => exact ih (h.touch now file)

theorem Awaits.observe {own : List FilePath} (h : w.Awaits own) (now : Nat) (files : FileTree)
    (e : FileEvent) : (w.observe now files e).Awaits own := h.foldl_touch now _

/-- A flush leaves a pending file pending, or the file is due. -/
theorem Awaits.flush {own : List FilePath} (h : w.Awaits own) (now : Nat) :
    (∃ q ∈ w.ripe now, ∃ p ∈ own, q.same p = true) ∨ (w.flush now).2.Awaits own := by
  obtain ⟨f, hf, p, hp, place⟩ := h
  by_cases due : f.due ≤ now
  · refine .inl ⟨f.path, List.mem_map_of_mem (List.mem_filter.mpr ⟨hf, ?_⟩), p, hp, place⟩
    simpa using due
  · refine .inr ⟨f, List.mem_filter.mpr ⟨hf, ?_⟩, p, hp, place⟩
    simpa using due

/-! ## From an event to its subscribers -/

section Candidates

variable {base : FilePath} {s : Subscription α} {bot : BotType} {identifier : String}
  {p q : FilePath}

/-- Around a candidate is the directory of its bot type. -/
theorem around?_candidate (w : Watches α) (hid : FilePath.IsName identifier)
    (hp : p ∈ Source.candidates base bot identifier) (place : q.same p = true) :
    w.around? q = w.directory? (Source.directoryFor base bot) := by
  unfold around? directory?
  congr 1
  funext d
  rw [FilePath.isIn_of_same place, Source.isIn_of_mem_candidates hid hp]

/-- An event that names a candidate makes it pending, if its directory is watched. -/
theorem awaits_observe (hid : FilePath.IsName identifier)
    (watched : (w.directory? (Source.directoryFor base bot)).isSome)
    (hp : p ∈ Source.candidates base bot identifier) (place : q.same p = true)
    {files : FileTree} {e : FileEvent} (named : q ∈ e.written files) (now : Nat) :
    (w.observe now files e).Awaits (Source.candidates base bot identifier) := by
  unfold observe
  generalize e.written files = written at named
  induction written generalizing w with
  | nil => cases named
  | cons file rest ih =>
    rw [List.foldl_cons]
    rcases List.mem_cons.mp named with rfl | later
    · refine Awaits.foldl_touch (awaits_touch now hp place ?_ ?_) now rest
      · rwa [around?_candidate w hid hp place]
      · rw [FilePath.ofPath?_of_same place]
        exact Source.isSome_ofPath?_candidate hid hp
    · refine ih ?_ later
      rwa [directory?, directories_touch]

/-- Whoever subscribed to a candidate is among its targets. -/
theorem target_mem_targets (hid : FilePath.IsName s.identifier)
    (has : w.Has (Source.directoryFor base s.botType) s)
    (hp : p ∈ Source.candidates base s.botType s.identifier) (place : q.same p = true) :
    s.target ∈ w.targets q := by
  obtain ⟨d, found, mem⟩ := has
  unfold targets
  rw [around?_candidate w hid hp place, found, FilePath.stem?_of_same place,
    Source.stem?_candidate hid hp]
  exact List.mem_map_of_mem (List.mem_filter.mpr ⟨mem, by simp⟩)

/-- A flush gives the target of whoever subscribed to a candidate that is due. -/
theorem target_mem_flush (hid : FilePath.IsName s.identifier)
    (has : w.Has (Source.directoryFor base s.botType) s)
    (hp : p ∈ Source.candidates base s.botType s.identifier) (place : q.same p = true) {now : Nat}
    (ripe : q ∈ w.ripe now) : s.target ∈ (w.flush now).1 :=
  List.mem_flatMap.mpr ⟨q, ripe, target_mem_targets hid has hp place⟩

end Candidates

end Watches

/-! ## The watcher -/

namespace Watcher

variable {α : Type} {w : Watcher α}

/-- A watcher of the files below a directory that has not been cancelled. -/
structure Runs (w : Watcher α) (base : FilePath) : Prop where
  base : w.base = base
  running : w.isCancelled = false
  alive : w.isOver = false

/-- A watcher that runs is able to act as long as there is a report to be read or a file that is
due. -/
theorem idle_of_not_isAble {base : FilePath} {now : Nat} (runs : w.Runs base)
    (idle : w.isAble now = false) (past : ∀ due ∈ w.dues, due ≤ now) :
    w.inbox = [] ∧ w.watches.pending = [] := by
  simp only [isAble, runs.alive, runs.running, Bool.not_false, Bool.true_and, Bool.false_or,
    Bool.or_eq_false_iff, Bool.not_eq_false', List.isEmpty_iff] at idle
  obtain ⟨empty, quiet⟩ := idle
  refine ⟨empty, ?_⟩
  unfold Watches.nextDue? at quiet
  cases hm : (w.watches.pending.map PendingFile.due).min? with
  | none => exact List.map_eq_nil_iff.mp (List.min?_eq_none_iff.mp hm)
  | some due =>
    have reached : due ≤ now := past due (List.min?_mem hm)
    rw [hm] at quiet
    simp [reached] at quiet

section Act

variable {base : FilePath} {s : Subscription α} {bot : BotType} {identifier : String}

/-- A watcher that runs goes on to run, with the subscriptions that it has. -/
theorem runs_act (runs : w.Runs base) (os : DirectoryWatch) (files : FileTree) (now : Nat) :
    (w.act os files now).1.Runs base ∧
      (w.act os files now).1.watches.directories = w.watches.directories := by
  unfold act
  rw [runs.running, if_neg Bool.false_ne_true]
  split
  · exact ⟨⟨runs.base, rfl, runs.alive⟩, rfl⟩
  · exact ⟨⟨runs.base, rfl, runs.alive⟩, Watches.directories_observe _ _ _ _⟩
  · exact ⟨⟨runs.base, rfl, runs.alive⟩, rfl⟩

/-- Each act reads one report, if there is one. -/
theorem inbox_act (runs : w.Runs base) (os : DirectoryWatch) (files : FileTree) (now : Nat) :
    (w.act os files now).1.inbox = w.inbox.tail := by
  unfold act
  rw [runs.running, if_neg Bool.false_ne_true]
  split
  · next inbox => rw [inbox, List.tail_cons]
  · next inbox => rw [inbox, List.tail_cons]
  · next inbox => rw [inbox, List.tail_nil]

/-- What the watcher does next is a flush of one of these files. -/
def Flushes (w : Watcher α) (now : Nat) (own : List FilePath) : Prop :=
  w.inbox.isEmpty ∧ ∃ q ∈ w.watches.ripe now, ∃ p ∈ own, q.same p = true

instance (w : Watcher α) (now : Nat) (own : List FilePath) : Decidable (w.Flushes now own) :=
  inferInstanceAs (Decidable (_ ∧ ∃ q, q ∈ w.watches.ripe now ∧ _))

/-- What the watcher does with a write on its way in a watched directory: an event stays in the
inbox or makes the file pending, and a pending file stays pending or is flushed. -/
theorem onward (runs : w.Runs base) (hid : FilePath.IsName identifier)
    (watched : (w.watches.directory? (Source.directoryFor base bot)).isSome) (os : DirectoryWatch)
    (files : FileTree) (now : Nat) :
    let own := Source.candidates base bot identifier
    (w.watches.Awaits own → w.Flushes now own ∨ (w.act os files now).1.watches.Awaits own) ∧
    ∀ e : FileEvent, .event e ∈ w.inbox → e.Names files own →
      (w.act os files now).1.watches.Awaits own ∨ .event e ∈ (w.act os files now).1.inbox := by
  unfold act
  rw [runs.running, if_neg Bool.false_ne_true]
  split
  · next reason rest inbox =>
    refine ⟨.inr, ?_⟩
    intro e he _
    rw [inbox] at he
    exact .inr ((List.mem_cons.mp he).resolve_left nofun)
  · next first rest inbox =>
    refine ⟨fun awaits => .inr (awaits.observe now files first), ?_⟩
    intro e he names
    rw [inbox] at he
    rcases List.mem_cons.mp he with same | later
    · cases same
      obtain ⟨q, written, -, p, hp, place⟩ := names
      exact .inl (Watches.awaits_observe hid watched hp place written now)
    · exact .inr later
  · next inbox =>
    refine ⟨fun awaits => ?_, ?_⟩
    · exact (awaits.flush now).imp_left fun due => ⟨List.isEmpty_iff.mpr inbox, due⟩
    · intro e he _
      rw [inbox] at he
      cases he

/-- When a file is flushed its subscriber is called. -/
theorem Flushes.target_mem (runs : w.Runs base) (hid : FilePath.IsName s.identifier)
    (has : w.watches.Has (Source.directoryFor base s.botType) s) {now : Nat}
    (flushes : w.Flushes now (Source.candidates base s.botType s.identifier))
    (os : DirectoryWatch) (files : FileTree) : s.target ∈ (w.act os files now).2.1 := by
  obtain ⟨inbox, q, ripe, p, hp, place⟩ := flushes
  unfold act
  rw [runs.running, if_neg Bool.false_ne_true, List.isEmpty_iff.mp inbox]
  exact Watches.target_mem_flush hid has hp place ripe

end Act

end Watcher

end Switchboard
