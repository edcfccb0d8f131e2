import Mathlib.Data.List.Chain
import Mathlib.Data.List.Nodup
import Switchboard.Proofs.Watching

/-!
# Watched directories and the calls for them

The operating system is asked to watch a directory for its first subscriber and to stop for its
last, and it may refuse either. A refused beginning has not happened; an end has happened even if it
is refused, since nobody waits for the directory any more. So for every directory there is a list of
begins and ends, `Watches.switches`, and what it tells has to agree with the subscriptions.

`Watches.IsSound` is that agreement, together with what holds of the subscriptions and the pending
files. Each operation keeps it (`IsSound.subscribe` to `IsSound.shutdown`), therefore each move of a
watcher does (`IsSound.move`), and every run of one (`watches_follow_subscriptions`), whatever the
operating system answers, the files hold and the clock says at each move.
-/

namespace Switchboard

/-- Whether a call begins (`true`) or ends (`false`) the watch of a directory. A refused begin does
nothing. -/
def WatchCall.switch? (dir : FilePath) : WatchCall → Option Bool
  | .add path none => if path.same dir then some true else none
  | .add _ (some _) => none
  | .remove path _ => if path.same dir then some false else none

/-- Begins and ends take turns, and a begin is the first. -/
def Alternates (switches : List Bool) : Prop := List.IsChain (· ≠ ·) (false :: switches)

instance (switches : List Bool) : Decidable (Alternates switches) :=
  inferInstanceAs (Decidable (List.IsChain _ _))

/-- What is on is switched off next, and what is off is switched on. -/
theorem alternates_append_one {switches : List Bool} {b : Bool} :
    Alternates (switches ++ [b]) ↔
      Alternates switches ∧ (switches.getLast? = some true ↔ b = false) := by
  unfold Alternates
  rw [← List.cons_append, List.isChain_append]
  cases hl : switches.getLast? with
  | none =>
    obtain rfl := List.getLast?_eq_none_iff.mp hl
    cases b <;> simp
  | some last => cases last <;> cases b <;> simp [List.getLast?_cons, hl]

namespace Watches

variable {α : Type} {w : Watches α}

/-- The begins and ends of the watch of a directory, in order. -/
def switches (w : Watches α) (dir : FilePath) : List Bool :=
  w.calls.filterMap (WatchCall.switch? dir)

/-- The paths of the watched directories. -/
def paths (w : Watches α) : List FilePath := w.directories.map WatchedDirectory.path

/-- The subscriptions, the pending files and the calls to the operating system agree. -/
structure IsSound (w : Watches α) : Prop where
  /-- No directory is watched twice. -/
  apart : (w.paths.map FilePath.place).Nodup
  /-- Somebody waits in every watched directory. -/
  wanted : ∀ d ∈ w.directories, d.subscriptions ≠ []
  /-- Nobody waits twice for the file of an identifier. -/
  once : ∀ d ∈ w.directories, (d.subscriptions.map Subscription.identifier).Nodup
  /-- Pending files are of a known format and lie in watched directories. -/
  pending : ∀ f ∈ w.pending, (w.around? f.path).isSome ∧ (FileFormat.ofPath? f.path).isSome
  /-- No file is pending twice. -/
  single : (w.pending.map fun f => f.path.place).Nodup
  alternates : ∀ dir, Alternates (w.switches dir)
  /-- A directory is watched if the last that happened was a begin. -/
  watched : ∀ dir, (w.directory? dir).isSome ↔ (w.switches dir).getLast? = some true

/-! ## Watched directories by their paths -/

theorem isSome_directory? {dir : FilePath} :
    (w.directory? dir).isSome ↔ ∃ path ∈ w.paths, path.same dir = true := by
  simp [directory?, paths]

theorem isSome_around? {file : FilePath} :
    (w.around? file).isSome ↔ ∃ path ∈ w.paths, file.isIn path = true := by
  simp [around?, paths]

/-- Whether a file lies in a watched directory depends on its place. -/
theorem around?_of_same {p q : FilePath} (h : p.same q = true) : w.around? p = w.around? q := by
  unfold around?
  congr 1
  funext d
  exact FilePath.isIn_of_same h d.path

theorem directory?_of_same {dir path : FilePath} (h : dir.same path = true) :
    w.directory? dir = w.directory? path := by
  unfold directory?
  congr 1
  funext d
  exact FilePath.same_congr_right h d.path

theorem mem_of_directory? {dir : FilePath} {d : WatchedDirectory α}
    (h : w.directory? dir = some d) : d ∈ w.directories ∧ d.path.same dir = true :=
  ⟨List.mem_of_find?_eq_some h,
    List.find?_some (p := fun d : WatchedDirectory α => d.path.same dir) h⟩

theorem mem_of_around? {file : FilePath} {d : WatchedDirectory α} (h : w.around? file = some d) :
    d ∈ w.directories ∧ file.isIn d.path = true :=
  ⟨List.mem_of_find?_eq_some h,
    List.find?_some (p := fun d : WatchedDirectory α => file.isIn d.path) h⟩

/-- At one place there is one watched directory. -/
theorem IsSound.eq_of_same (h : w.IsSound) {d e : WatchedDirectory α} (hd : d ∈ w.directories)
    (he : e ∈ w.directories) (same : d.path.same e.path = true) : d = e := by
  have apart := h.apart
  rw [paths, List.map_map] at apart
  exact List.inj_on_of_nodup_map apart hd he (FilePath.same_iff.mp same)

theorem IsSound.around?_eq (h : w.IsSound) {d : WatchedDirectory α} (hd : d ∈ w.directories)
    {file : FilePath} (here : file.isIn d.path = true) : w.around? file = some d := by
  have found : (w.around? file).isSome := isSome_around?.mpr ⟨_, List.mem_map_of_mem hd, here⟩
  obtain ⟨e, he⟩ := Option.isSome_iff_exists.mp found
  obtain ⟨mem, around⟩ := mem_of_around? he
  rw [he, h.eq_of_same mem hd (FilePath.same_of_isIn around here)]

/-- Subscriptions may change as long as the directories stay, and somebody waits in each. -/
theorem IsSound.of_paths (h : w.IsSound) {v : Watches α} (paths : v.paths = w.paths)
    (pending : v.pending = w.pending) (calls : v.calls = w.calls)
    (wanted : ∀ d ∈ v.directories, d.subscriptions ≠ [])
    (once : ∀ d ∈ v.directories, (d.subscriptions.map Subscription.identifier).Nodup) :
    v.IsSound := by
  have around : ∀ file, (v.around? file).isSome ↔ (w.around? file).isSome := by
    intro file
    rw [isSome_around?, isSome_around?, paths]
  have switches : ∀ dir, v.switches dir = w.switches dir := by
    intro dir
    rw [Watches.switches, Watches.switches, calls]
  refine ⟨paths ▸ h.apart, wanted, once, ?_, pending ▸ h.single, ?_, ?_⟩
  · intro f hf
    rw [pending] at hf
    rw [around]
    exact h.pending f hf
  · intro dir
    rw [switches]
    exact h.alternates dir
  · intro dir
    rw [switches, ← h.watched, isSome_directory?, isSome_directory?, paths]

/-- Fewer files may be pending. -/
theorem IsSound.of_pending (h : w.IsSound) {pending : List PendingFile}
    (fewer : pending.Sublist w.pending) : ({ w with pending } : Watches α).IsSound :=
  ⟨h.apart, h.wanted, h.once, fun f hf => h.pending f (fewer.subset hf),
    h.single.sublist (fewer.map _), h.alternates, h.watched⟩

/-! ## Subscriptions come and go -/

theorem switches_append (w : Watches α) (calls : List WatchCall) (dir : FilePath) :
    ({ w with calls := w.calls ++ calls } : Watches α).switches dir =
      w.switches dir ++ calls.filterMap (WatchCall.switch? dir) := List.filterMap_append

theorem paths_replace (w : Watches α) (path : FilePath)
    (f : List (Subscription α) → List (Subscription α)) :
    (w.directories.map fun d =>
      if d.path.same path then { d with subscriptions := f d.subscriptions } else d).map
        WatchedDirectory.path = w.paths := by
  unfold paths
  rw [List.map_map]
  refine List.map_congr_left ?_
  intro d _
  dsimp only [Function.comp]
  split <;> rfl

/-- The subscriptions of one directory may be replaced by others, if some are left. -/
theorem IsSound.replace (h : w.IsSound) {path : FilePath} {d : WatchedDirectory α}
    (found : w.directory? path = some d)
    {f : List (Subscription α) → List (Subscription α)} (wanted : f d.subscriptions ≠ [])
    (once : ((f d.subscriptions).map Subscription.identifier).Nodup) :
    ({ w with
        directories := w.directories.map fun d =>
          if d.path.same path then { d with subscriptions := f d.subscriptions } else d } :
      Watches α).IsSound := by
  obtain ⟨mem, here⟩ := mem_of_directory? found
  -- Only the directory that was found is at this place.
  have only : ∀ e ∈ w.directories, e.path.same path = true → e = d := by
    intro e he same
    exact h.eq_of_same he mem (FilePath.same_trans same (FilePath.same_symm here))
  refine h.of_paths (paths_replace w path f) rfl rfl ?_ ?_
  · intro e he
    obtain ⟨e', he', rfl⟩ := List.mem_map.mp he
    split
    · next same => rw [only e' he' same]; exact wanted
    · exact h.wanted e' he'
  · intro e he
    obtain ⟨e', he', rfl⟩ := List.mem_map.mp he
    split
    · next same => rw [only e' he' same]; exact once
    · exact h.once e' he'

/-- A call that the operating system refuses begins nothing. -/
theorem IsSound.refused (h : w.IsSound) (path : FilePath) (reason : String) :
    ({ w with calls := w.calls ++ [.add path (some reason)] } : Watches α).IsSound := by
  have switches : ∀ dir, ({ w with calls := w.calls ++ [.add path (some reason)] } :
      Watches α).switches dir = w.switches dir := by
    intro dir
    rw [switches_append]
    exact List.append_nil _
  refine ⟨h.apart, h.wanted, h.once, h.pending, h.single, ?_, ?_⟩
  · intro dir
    rw [switches]
    exact h.alternates dir
  · intro dir
    rw [switches]
    exact h.watched dir

/-- The watch of a directory begins with its first subscriber. -/
theorem IsSound.begin (h : w.IsSound) {path : FilePath} (missing : w.directory? path = none)
    (s : Subscription α) :
    ({ w with
        directories := w.directories ++ [⟨path, [s]⟩]
        calls := w.calls ++ [.add path none] } : Watches α).IsSound := by
  have off : ¬∃ p ∈ w.paths, p.same path = true := by
    rw [← isSome_directory?, missing]
    exact Bool.false_ne_true
  have switches : ∀ dir, ({ w with
      directories := w.directories ++ [⟨path, [s]⟩]
      calls := w.calls ++ [.add path none] } : Watches α).switches dir =
        w.switches dir ++ if path.same dir then [true] else [] := by
    intro dir
    refine List.filterMap_append.trans (congrArg _ ?_)
    by_cases here : path.same dir = true <;> simp [WatchCall.switch?, here]
  have paths : ({ w with
      directories := w.directories ++ [⟨path, [s]⟩]
      calls := w.calls ++ [.add path none] } : Watches α).paths = w.paths ++ [path] := by
    simp [Watches.paths]
  -- At the place of the path nothing has been watched so far.
  have unwatched : ∀ dir, path.same dir = true → (w.switches dir).getLast? ≠ some true := by
    intro dir here on
    obtain ⟨p, hp, same⟩ := isSome_directory?.mp ((h.watched dir).mpr on)
    exact off ⟨p, hp, FilePath.same_trans same (FilePath.same_symm here)⟩
  refine ⟨?_, ?_, ?_, ?_, h.single, ?_, ?_⟩
  · rw [paths, List.map_append, List.map_singleton, ← List.concat_eq_append, List.nodup_concat]
    refine ⟨?_, h.apart⟩
    intro twice
    obtain ⟨p, hp, same⟩ := List.mem_map.mp twice
    exact off ⟨p, hp, FilePath.same_iff.mpr same⟩
  · intro d hd
    rcases List.mem_append.mp hd with old | new
    · exact h.wanted d old
    · obtain rfl := List.mem_singleton.mp new
      exact List.cons_ne_nil _ _
  · intro d hd
    rcases List.mem_append.mp hd with old | new
    · exact h.once d old
    · obtain rfl := List.mem_singleton.mp new
      exact List.nodup_singleton _
  · intro f hf
    obtain ⟨around, format⟩ := h.pending f hf
    obtain ⟨p, hp, here⟩ := isSome_around?.mp around
    refine ⟨isSome_around?.mpr ⟨p, ?_, here⟩, format⟩
    rw [paths]
    exact List.mem_append_left _ hp
  · intro dir
    rw [switches]
    split
    · next here =>
      rw [alternates_append_one]
      exact ⟨h.alternates dir, iff_of_false (unwatched dir here) nofun⟩
    · rw [List.append_nil]
      exact h.alternates dir
  · intro dir
    rw [switches, isSome_directory?, paths]
    split
    · next here => simp [here]
    · next elsewhere =>
      rw [List.append_nil, ← h.watched, isSome_directory?]
      simp [elsewhere]

/-- Whoever subscribes, and whatever the operating system answers, subscriptions and calls agree. -/
theorem IsSound.subscribe (h : w.IsSound) (os : DirectoryWatch) (path : FilePath)
    (s : Subscription α) : (w.subscribe os path s).2.IsSound := by
  unfold Watches.subscribe
  split
  · next d found =>
    split
    · exact h
    · next fresh =>
      refine h.replace (f := (· ++ [s])) found (by simp) ?_
      rw [List.map_append, List.map_singleton, ← List.concat_eq_append, List.nodup_concat]
      refine ⟨?_, h.once d (mem_of_directory? found).1⟩
      intro twice
      obtain ⟨t, ht, same⟩ := List.mem_map.mp twice
      exact fresh (List.any_eq_true.mpr ⟨t, ht, beq_iff_eq.mpr same⟩)
  · next missing =>
    dsimp only
    split
    · next reason answer =>
      rw [answer]
      exact h.refused path reason
    · next answer =>
      rw [answer]
      exact h.begin missing s

/-- A directory is given up whatever the operating system answers. -/
theorem abandon_eq (w : Watches α) (os : DirectoryWatch) (path : FilePath) :
    (w.abandon os path).2 =
      { w with
        directories := w.directories.filter fun d => !d.path.same path
        pending := w.pending.filter fun p => !p.path.isIn path
        calls := w.calls ++ [.remove path (os.remove path)] } := by
  unfold Watches.abandon
  dsimp only
  split <;> rfl

/-- The watch of a directory ends with its last subscriber, also if the operating system refuses. -/
theorem IsSound.abandon (h : w.IsSound) (os : DirectoryWatch) {path : FilePath}
    (there : (w.directory? path).isSome) : (w.abandon os path).2.IsSound := by
  have frame := w.abandon_eq os path
  have paths : (w.abandon os path).2.paths = w.paths.filter fun p => !p.same path := by
    rw [frame]
    exact (List.filter_map (p := fun p : FilePath => !p.same path)).symm
  have switches : ∀ dir, (w.abandon os path).2.switches dir =
      w.switches dir ++ if path.same dir then [false] else [] := by
    intro dir
    rw [frame]
    refine List.filterMap_append.trans (congrArg _ ?_)
    by_cases here : path.same dir = true <;> simp [WatchCall.switch?, here]
  have on : ∀ dir, path.same dir = true → (w.switches dir).getLast? = some true := by
    intro dir here
    obtain ⟨p, hp, same⟩ := isSome_directory?.mp there
    exact (h.watched dir).mp (isSome_directory?.mpr ⟨p, hp, FilePath.same_trans same here⟩)
  refine ⟨?_, ?_, ?_, ?_, ?_, ?_, ?_⟩
  · rw [paths]
    exact h.apart.sublist (List.filter_sublist.map _)
  · rw [frame]
    exact fun d hd => h.wanted d (List.mem_filter.mp hd).1
  · rw [frame]
    exact fun d hd => h.once d (List.mem_filter.mp hd).1
  · intro f hf
    rw [frame] at hf
    obtain ⟨mem, outside⟩ := List.mem_filter.mp hf
    obtain ⟨around, format⟩ := h.pending f mem
    obtain ⟨p, hp, here⟩ := isSome_around?.mp around
    refine ⟨isSome_around?.mpr ⟨p, ?_, here⟩, format⟩
    rw [paths]
    refine List.mem_filter.mpr ⟨hp, ?_⟩
    -- The directory around the file is another one, or the file would have been dropped.
    cases same : p.same path with
    | false => rfl
    | true =>
      rw [FilePath.isIn_congr same] at here
      simp [here] at outside
  · rw [frame]
    exact h.single.sublist (List.filter_sublist.map _)
  · intro dir
    rw [switches]
    split
    · next here =>
      rw [alternates_append_one]
      exact ⟨h.alternates dir, iff_of_true (on dir here) rfl⟩
    · rw [List.append_nil]
      exact h.alternates dir
  · intro dir
    rw [switches, isSome_directory?, paths]
    split
    · next here =>
      simp only [List.getLast?_concat, Option.some.injEq, Bool.false_eq_true, iff_false]
      rintro ⟨p, hp, same⟩
      have gone := (List.mem_filter.mp hp).2
      rw [FilePath.same_congr_right here, same] at gone
      exact Bool.false_ne_true gone
    · next elsewhere =>
      rw [List.append_nil, ← h.watched, isSome_directory?]
      refine ⟨fun ⟨p, hp, same⟩ => ⟨p, (List.mem_filter.mp hp).1, same⟩, ?_⟩
      rintro ⟨p, hp, same⟩
      refine ⟨p, List.mem_filter.mpr ⟨hp, ?_⟩, same⟩
      cases here : p.same path with
      | false => rfl
      | true => exact absurd ((FilePath.same_congr here dir).symm.trans same) elsewhere

/-- Whoever leaves, subscriptions and calls agree. -/
theorem IsSound.unsubscribe (h : w.IsSound) (os : DirectoryWatch) (path : FilePath) (bot : BotType)
    (identifier : Option String) : (w.unsubscribe os path bot identifier).2.IsSound := by
  unfold Watches.unsubscribe
  split
  · cases identifier <;> exact h
  · next d found =>
    dsimp only
    split
    · exact h
    · split
      · exact h.abandon os (by rw [found]; rfl)
      · next left =>
        refine h.replace (f := fun _ => staying d.subscriptions bot _) found ?_ ?_
        · simpa using left
        · exact (h.once d (mem_of_directory? found).1).sublist (List.filter_sublist.map _)

/-! ## Files become pending and are flushed -/

theorem IsSound.touch (h : w.IsSound) (now : Nat) (file : FilePath) :
    (w.touch now file).IsSound := by
  unfold Watches.touch
  split
  · next minded =>
    obtain ⟨around, format⟩ := Bool.and_eq_true_iff.mp minded
    refine ⟨h.apart, h.wanted, h.once, ?_, ?_, h.alternates, h.watched⟩
    · intro f hf
      rcases List.mem_append.mp hf with old | new
      · exact h.pending f (List.mem_filter.mp old).1
      · obtain rfl := List.mem_singleton.mp new
        exact ⟨around, format⟩
    · rw [List.map_append, List.map_singleton, ← List.concat_eq_append, List.nodup_concat]
      refine ⟨?_, h.single.sublist (List.filter_sublist.map _)⟩
      intro twice
      obtain ⟨f, hf, same⟩ := List.mem_map.mp twice
      have other := (List.mem_filter.mp hf).2
      rw [FilePath.same_iff.mpr same] at other
      exact Bool.false_ne_true other
  · exact h

theorem IsSound.observe (h : w.IsSound) (now : Nat) (files : FileTree) (e : FileEvent) :
    (w.observe now files e).IsSound := by
  unfold Watches.observe
  generalize e.written files = written
  induction written generalizing w with
  | nil => exact h
  | cons file rest ih => exact ih (h.touch now file)

theorem IsSound.flush (h : w.IsSound) (now : Nat) : (w.flush now).2.IsSound :=
  h.of_pending List.filter_sublist

/-! ## Everything ends -/

/-- Of paths of different places, at most one leads to a directory. -/
theorem filter_same_eq {paths : List FilePath} (apart : (paths.map FilePath.place).Nodup)
    {path dir : FilePath} (mem : path ∈ paths) (here : path.same dir = true) :
    paths.filter (fun p => p.same dir) = [path] := by
  induction paths with
  | nil => cases mem
  | cons p rest ih =>
    rw [List.map_cons, List.nodup_cons] at apart
    rcases List.mem_cons.mp mem with rfl | later
    · rw [List.filter_cons_of_pos (p := fun p : FilePath => p.same dir) here, List.cons.injEq,
        List.filter_eq_nil_iff]
      refine ⟨rfl, ?_⟩
      intro q hq same
      have twice : q.place = path.place :=
        FilePath.same_iff.mp (FilePath.same_trans same (FilePath.same_symm here))
      exact apart.1 (List.mem_map.mpr ⟨q, hq, twice⟩)
    · rw [List.filter_cons_of_neg (p := fun p : FilePath => p.same dir), ih apart.2 later]
      intro same
      have twice : path.place = p.place :=
        FilePath.same_iff.mp (FilePath.same_trans here (FilePath.same_symm same))
      exact apart.1 (List.mem_map.mpr ⟨path, later, twice⟩)

theorem switches_shutdown (w : Watches α) (os : DirectoryWatch) (dir : FilePath) :
    (w.shutdown os).2.switches dir =
      w.switches dir ++ (w.paths.filter fun p => p.same dir).map fun _ => false := by
  unfold Watches.shutdown Watches.switches
  dsimp only
  rw [List.filterMap_append, List.filterMap_map, ← paths]
  congr 1
  induction w.paths with
  | nil => rfl
  | cons p rest ih =>
    by_cases here : p.same dir = true <;>
      simp [WatchCall.switch?, here] <;> simpa [WatchCall.switch?] using ih

theorem IsSound.shutdown (h : w.IsSound) (os : DirectoryWatch) : (w.shutdown os).2.IsSound := by
  have off : ∀ dir, Alternates ((w.shutdown os).2.switches dir) ∧
      ((w.shutdown os).2.switches dir).getLast? ≠ some true := by
    intro dir
    rw [switches_shutdown]
    by_cases on : (w.directory? dir).isSome
    · obtain ⟨p, hp, here⟩ := isSome_directory?.mp on
      rw [filter_same_eq h.apart hp here, List.map_singleton, alternates_append_one]
      exact ⟨⟨h.alternates dir, iff_of_true ((h.watched dir).mp on) rfl⟩, by simp⟩
    · have none_there : w.paths.filter (fun p => p.same dir) = [] :=
        List.filter_eq_nil_iff.mpr fun p hp here => on (isSome_directory?.mpr ⟨p, hp, here⟩)
      rw [none_there, List.map_nil, List.append_nil]
      exact ⟨h.alternates dir, fun last => on ((h.watched dir).mpr last)⟩
  refine ⟨List.nodup_nil, nofun, nofun, nofun, List.nodup_nil, fun dir => (off dir).1, ?_⟩
  exact fun dir => iff_of_false Bool.false_ne_true (off dir).2

end Watches

/-! ## Runs of a watcher -/

/-- What a watcher is asked for. -/
inductive WatchRequest (α : Type) where
  | subscribe (s : Subscription α)
  | unsubscribe (bot : BotType) (identifier : String)
  | unwatch (bot : BotType)

/-- How a request is answered, and the watches thereafter. -/
def WatchRequest.answer {α : Type} (base : FilePath) (os : DirectoryWatch) (w : Watches α) :
    WatchRequest α → Except WatchError Unit × Watches α
  | subscribe s => w.subscribe os (Source.directoryFor base s.botType) s
  | unsubscribe bot identifier =>
    w.unsubscribe os (Source.directoryFor base bot) bot (some identifier)
  | unwatch bot => w.unsubscribe os (Source.directoryFor base bot) bot none

theorem Watches.IsSound.answer {α : Type} {w : Watches α} (h : w.IsSound) (base : FilePath)
    (os : DirectoryWatch) (r : WatchRequest α) : (r.answer base os w).2.IsSound := by
  cases r with
  | subscribe s => exact h.subscribe os _ s
  | unsubscribe bot identifier => exact h.unsubscribe os _ bot (some identifier)
  | unwatch bot => exact h.unsubscribe os _ bot none

namespace Watcher

variable {α : Type} {w : Watcher α}

/-- The answer to a request, and the watcher thereafter. -/
def serve (w : Watcher α) (os : DirectoryWatch) :
    WatchRequest α → Except WatchError Unit × Watcher α
  | .subscribe s => w.subscribe os s
  | .unsubscribe bot identifier => w.unsubscribe os bot identifier
  | .unwatch bot => w.unwatch os bot

/-- What can happen to a watcher. The answers of the operating system, the files and the clock are
those of the moment. -/
inductive Move (α : Type) where
  | request (os : DirectoryWatch) (r : WatchRequest α)
  | report (r : WatchReport)
  | act (os : DirectoryWatch) (files : FileTree) (now : Nat)
  | cancel

def move (w : Watcher α) : Move α → Watcher α
  | .request os r => (w.serve os r).2
  | .report r => w.deliver r
  | .act os files now => (w.act os files now).1
  | .cancel => w.cancel

def run (w : Watcher α) (moves : List (Move α)) : Watcher α := moves.foldl move w

theorem isSound_ofBase (base : FilePath) (debounce : Nat) :
    (ofBase base debounce : Watcher α).watches.IsSound :=
  ⟨List.nodup_nil, nofun, nofun, nofun, List.nodup_nil, fun _ => List.isChain_singleton _,
    fun _ => iff_of_false Bool.false_ne_true nofun⟩

theorem serve_of_running (h : w.isCancelled = false) (os : DirectoryWatch) (r : WatchRequest α) :
    w.serve os r =
      ((r.answer w.base os w.watches).1,
        { w with watches := (r.answer w.base os w.watches).2 }) := by
  cases r <;>
    simp [serve, subscribe, unsubscribe, unwatch, request, h, WatchRequest.answer, directoryFor]

theorem serve_of_cancelled (h : w.isCancelled = true) (os : DirectoryWatch) (r : WatchRequest α) :
    w.serve os r = (.error .notRunning, w) := by
  cases r <;> simp [serve, subscribe, unsubscribe, unwatch, request, h]

/-- What a watcher does next keeps the agreement. -/
theorem isSound_act (h : w.watches.IsSound) (os : DirectoryWatch) (files : FileTree) (now : Nat) :
    (w.act os files now).1.watches.IsSound := by
  unfold act
  split
  · exact h.shutdown os
  · split
    · exact h
    · exact h.observe now files _
    · exact h.flush now

theorem isSound_move (h : w.watches.IsSound) (m : Move α) : (w.move m).watches.IsSound := by
  cases m with
  | request os r =>
    cases hc : w.isCancelled with
    | true => rw [move, serve_of_cancelled hc]; exact h
    | false => rw [move, serve_of_running hc]; exact h.answer w.base os r
  | report r =>
    rw [move, deliver]
    split <;> exact h
  | act os files now => exact isSound_act h os files now
  | cancel => exact h

theorem isSound_run (h : w.watches.IsSound) (moves : List (Move α)) :
    (w.run moves).watches.IsSound := by
  induction moves generalizing w with
  | nil => exact h
  | cons m rest ih => exact ih (isSound_move h m)

/-! ## After the end -/

theorem isCancelled_move (h : w.isCancelled = true) (m : Move α) :
    (w.move m).isCancelled = true := by
  cases m with
  | request os r =>
    rw [move, serve_of_cancelled h]
    exact h
  | report r =>
    rw [move, deliver]
    split <;> exact h
  | act os files now => simp [move, act, h]
  | cancel => rfl

theorem isCancelled_run (h : w.isCancelled = true) (moves : List (Move α)) :
    (w.run moves).isCancelled = true := by
  induction moves generalizing w with
  | nil => exact h
  | cons m rest ih => exact ih (isCancelled_move h m)

theorem isCancelled_of_mem (w : Watcher α) {moves : List (Move α)} (h : .cancel ∈ moves) :
    (w.run moves).isCancelled = true := by
  induction moves generalizing w with
  | nil => cases h
  | cons m rest ih =>
    rcases List.mem_cons.mp h with rfl | later
    · exact isCancelled_run (w := w.cancel) rfl rest
    · exact ih (w.move m) later

/-- The watcher has stopped, and has let go of everything. -/
structure IsStopped (w : Watcher α) : Prop where
  cancelled : w.isCancelled = true
  halted : w.isOver = true
  directories : w.watches.directories = []
  pending : w.watches.pending = []

/-- A cancelled watcher stops with its next act. -/
theorem isStopped_act (h : w.isCancelled = true) (os : DirectoryWatch) (files : FileTree)
    (now : Nat) : (w.move (.act os files now)).IsStopped := by
  have stopped : w.move (.act os files now) =
      { w with watches := (w.watches.shutdown os).2, inbox := [], isOver := true } := by
    simp [move, act, h]
  rw [stopped]
  exact ⟨h, rfl, rfl, rfl⟩

theorem IsStopped.move (h : w.IsStopped) (m : Move α) : (w.move m).IsStopped := by
  cases m with
  | request os r =>
    rw [Watcher.move, serve_of_cancelled h.cancelled]
    exact h
  | report r =>
    rw [Watcher.move, deliver, if_pos h.halted]
    exact h
  | act os files now => exact isStopped_act h.cancelled os files now
  | cancel => exact ⟨rfl, h.halted, h.directories, h.pending⟩

theorem IsStopped.run (h : w.IsStopped) (moves : List (Move α)) : (w.run moves).IsStopped := by
  induction moves generalizing w with
  | nil => exact h
  | cons m rest ih => exact ih (h.move m)

/-- A watcher is over only when it has stopped. -/
theorem isStopped_move (h : w.isOver = true → w.IsStopped) {m : Move α}
    (halted : (w.move m).isOver = true) : (w.move m).IsStopped := by
  cases before : w.isOver with
  | true => exact (h before).move m
  | false =>
    cases m with
    | request os r =>
      cases hc : w.isCancelled with
      | true => rw [Watcher.move, serve_of_cancelled hc, before] at halted; cases halted
      | false =>
        rw [Watcher.move, serve_of_running hc] at halted
        exact absurd (halted.symm.trans before) nofun
    | report r =>
      rw [Watcher.move, deliver, before, if_neg Bool.false_ne_true] at halted
      cases halted
    | act os files now =>
      cases hc : w.isCancelled with
      | true => exact isStopped_act hc os files now
      | false =>
        have going : (w.move (.act os files now)).isOver = w.isOver := by
          rw [Watcher.move, act, hc, if_neg Bool.false_ne_true]
          split <;> rfl
        rw [going, before] at halted
        cases halted
    | cancel => exact absurd (halted.symm.trans before) nofun

/-- **Subscriptions are what the operating system watches.** In every run of a watcher the begins
and ends of the watch of a directory take turns, a begin first, and the directory has subscribers
just if the last that happened was a begin. Every watched directory is there once and has
subscribers, no two of them for one identifier; and every pending file is of a known format and lies
directly in a watched directory. A watcher that is cancelled goes on to act and has stopped then: no
directory is watched, no file is pending, every watch has ended, and it stays so. From its
cancellation on every request is answered that the watcher is not running, and changes nothing. -/
theorem watches_follow_subscriptions (base : FilePath) (debounce : Nat) (moves : List (Move α)) :
    let w := (ofBase base debounce : Watcher α).run moves
    (∀ dir, Alternates (w.watches.switches dir) ∧
      ((∃ d ∈ w.watches.directories, d.path.same dir = true) ↔
        (w.watches.switches dir).getLast? = some true)) ∧
    (w.watches.directories.map fun d => d.path.place).Nodup ∧
    (∀ d ∈ w.watches.directories,
      d.subscriptions ≠ [] ∧ (d.subscriptions.map Subscription.identifier).Nodup) ∧
    (∀ f ∈ w.watches.pending,
      (∃ d ∈ w.watches.directories, f.path.isIn d.path = true) ∧
        (FileFormat.ofPath? f.path).isSome) ∧
    (.cancel ∈ moves →
      (∀ now, w.isOver = true ∨ w.isAble now = true) ∧
      ∀ more : List (Move α),
        (∀ os r, (w.run more).serve os r = (.error .notRunning, w.run more)) ∧
        ∀ os files now,
          let stopped := (w.move (.act os files now)).run more
          stopped.isOver = true ∧ stopped.watches.directories = [] ∧ stopped.watches.pending = [] ∧
            ∀ dir, (stopped.watches.switches dir).getLast? ≠ some true) := by
  intro w
  have sound : w.watches.IsSound := isSound_run (isSound_ofBase base debounce) moves
  refine ⟨?calls, ?apart, fun d hd => ⟨sound.wanted d hd, sound.once d hd⟩, ?pending, ?after⟩
  case calls =>
    intro dir
    refine ⟨sound.alternates dir, ?_⟩
    rw [← sound.watched, Watches.isSome_directory?, Watches.paths]
    simp
  case apart =>
    have apart := sound.apart
    rwa [Watches.paths, List.map_map] at apart
  case pending =>
    intro f hf
    obtain ⟨around, format⟩ := sound.pending f hf
    obtain ⟨d, found⟩ := Option.isSome_iff_exists.mp around
    exact ⟨⟨d, Watches.mem_of_around? found⟩, format⟩
  case after =>
    intro cancel
    have cancelled : w.isCancelled = true := isCancelled_of_mem _ cancel
    refine ⟨?_, ?_⟩
    · intro now
      cases hover : w.isOver with
      | true => exact .inl rfl
      | false => exact .inr (by simp [isAble, hover, cancelled])
    intro more
    refine ⟨?_, ?_⟩
    · exact fun os r => serve_of_cancelled (isCancelled_run cancelled more) os r
    · intro os files now stopped
      have ended : stopped.IsStopped := (isStopped_act cancelled os files now).run more
      have sound' : stopped.watches.IsSound := isSound_run (isSound_act sound os files now) more
      refine ⟨ended.halted, ended.directories, ended.pending, ?_⟩
      intro dir on
      have there := (sound'.watched dir).mpr on
      rw [Watches.directory?, ended.directories] at there
      cases there

/-! ## A shared directory -/

namespace SharedDirectory

def subscribe (identifier : String) : Move Unit :=
  .request {} (.subscribe ⟨⟨"Slack"⟩, identifier, ()⟩)

/-- Directories are watched, and never released. -/
def stubborn : DirectoryWatch := { remove := fun _ => some "busy" }

/-- Two subscribers come, one of them twice, and leave; one comes back, and a file is written. -/
def moves : List (Move Unit) :=
  [subscribe "ping", subscribe "pong", subscribe "ping",
    .request {} (.unsubscribe ⟨"slack"⟩ "ping"), .request stubborn (.unsubscribe ⟨"slack"⟩ "pong"),
    subscribe "pong", .report (.event ⟨.created, [⟨"/conf/slack/pong.yaml"⟩]⟩), .act {} {} 3,
    .cancel]

end SharedDirectory

/-- The directory of two subscribers is watched once, released by the last of them even if that is
refused, watched anew, and released at the end. -/
theorem shared_directory_is_released :
    let w := (ofBase ⟨"/conf"⟩ 10).run SharedDirectory.moves
    let dir : FilePath := ⟨"/conf/slack"⟩
    w.watches.switches dir = [true, false, true] ∧ (∃ d ∈ w.watches.directories, d.path.same dir) ∧
      w.watches.pending = [⟨⟨"/conf/slack/pong.yaml"⟩, 13⟩] ∧
      (w.serve {} (.unwatch ⟨"slack"⟩)).1 = .error .notRunning ∧
      (w.move (.act {} {} 4)).watches.switches dir = [true, false, true, false] ∧
      (w.move (.act {} {} 4)).watches.directories = [] := by
  intro w dir
  have switched : w.watches.switches dir = [true, false, true] := by decide +kernel
  obtain ⟨calls, -, -, -, after⟩ :=
    watches_follow_subscriptions ⟨"/conf"⟩ 10 SharedDirectory.moves
  obtain ⟨-, later⟩ := after (by simp [SharedDirectory.moves])
  obtain ⟨refused, stopped⟩ := later []
  have gone : (w.run []).serve {} (.unwatch ⟨"slack"⟩) = (.error .notRunning, w.run []) :=
    refused {} _
  rw [show w.run [] = w from List.foldl_nil] at gone
  exact ⟨switched, (calls dir).2.mpr (by rw [switched]; rfl), by decide +kernel,
    congrArg Prod.fst gone, by decide +kernel, (stopped {} {} 4).2.1⟩

end Watcher

end Switchboard
