import Switchboard.Proofs.Targets
import Switchboard.Watch.Lookout

/-!
# Debouncing

A lookout is a watcher on a clock. In a run of one, `IsRun`, requests and reports come at any time,
the watcher acts when it is able to, and the clock moves on when it is not, but never beyond the
next due time.

A listener is called at a time just if a file it waits for settles then: the file was written the
debounce time before, has not been written since, and lay in a watched directory all the while
(`Settles`). The proof says what is pending after any run, `pends_iff`: the files that settle at
some time at which nothing has been flushed yet. One move keeps that (`pends_move`), since all
that can happen to a pending file is a later write, a flush at its due time, or the end of the watch
of its directory. From it follows the theorem, `settled_writes_are_delivered`.
-/

namespace Switchboard

namespace Lookout

/-! ## Runs -/

/-- What can happen to a lookout. -/
inductive Move where
  | request (r : WatchRequest Listener)
  /-- The operating system reports. -/
  | report (x : WatchReport)
  /-- The files become these. -/
  | edit (files : FileTree)
  /-- The operating system answers like this from now on. -/
  | replies (os : DirectoryWatch)
  | cancel
  | act
  /-- Time passes, in milliseconds. -/
  | pass (ms : Nat)

def move (l : Lookout) : Move → Lookout
  | .request r => { l with watcher := (l.watcher.serve l.os r).2 }
  | .report x => { l with watcher := l.watcher.deliver x }
  | .edit files => { l with files }
  | .replies os => { l with os }
  | .cancel => { l with watcher := l.watcher.cancel }
  | .act => l.act
  | .pass ms => { l with now := l.now + ms }

def run (l : Lookout) (moves : List Move) : Lookout := moves.foldl move l

/-- The watcher acts when it is able to, and while it waits the clock moves on to its next due time
at most. -/
def Allows (l : Lookout) : Move → Prop
  | .act => l.watcher.isAble l.now = true
  | .pass ms => l.watcher.isAble l.now = false ∧ ∀ due ∈ l.watcher.dues, l.now + ms ≤ due
  | _ => True

/-- Each move is allowed where it is made. -/
def IsRun (l : Lookout) : List Move → Prop
  | [] => True
  | m :: rest => l.Allows m ∧ (l.move m).IsRun rest

instance (l : Lookout) : (m : Move) → Decidable (l.Allows m)
  | .act => inferInstanceAs (Decidable (_ = true))
  | .pass _ => inferInstanceAs (Decidable (_ ∧ _))
  | .request _ | .report _ | .edit _ | .replies _ | .cancel => isTrue trivial

instance decidableIsRun : (l : Lookout) → (moves : List Move) → Decidable (l.IsRun moves)
  | _, [] => isTrue trivial
  | l, m :: rest =>
    have := decidableIsRun (l.move m) rest
    inferInstanceAs (Decidable (_ ∧ _))

/-- The move handles an event that counts as a write of a file. -/
def Writes (l : Lookout) (m : Move) (p : FilePath) : Prop :=
  m = .act ∧ l.watcher.isCancelled = false ∧
    ∃ e rest, l.watcher.inbox = .event e :: rest ∧ e.CountsFor l.files p

/-- The move flushes the files whose time has come. -/
def Flushes (l : Lookout) (m : Move) : Prop :=
  m = .act ∧ l.watcher.isCancelled = false ∧ l.watcher.inbox = []

/-- All along a file lies in a watched directory, and no move writes it. -/
def Rests (p : FilePath) (l : Lookout) : List Move → Prop
  | [] => l.watcher.watches.IsWatched p
  | m :: rest => l.watcher.watches.IsWatched p ∧ ¬l.Writes m p ∧ Rests p (l.move m) rest

/-- At a time a file settles: it is of a known format, it was written the debounce time before, and
it has been at rest since. -/
def Settles (start : Lookout) (moves : List Move) (p : FilePath) (t : Nat) : Prop :=
  (FileFormat.ofPath? p).isSome = true ∧ ∃ before m after, moves = before ++ m :: after ∧
    (start.run before).Writes m p ∧
    (start.run before).now + start.watcher.watches.debounce = t ∧
    Rests p (start.run (before ++ [m])) after

/-- Files have been flushed at a time. -/
def HasFlushed (start : Lookout) (moves : List Move) (t : Nat) : Prop :=
  ∃ before m after, moves = before ++ m :: after ∧ (start.run before).Flushes m ∧
    (start.run before).now = t

variable {l start : Lookout} {moves : List Move} {m : Move} {p : FilePath} {t : Nat}

theorem run_append (l : Lookout) (before after : List Move) :
    l.run (before ++ after) = (l.run before).run after := List.foldl_append

theorem run_append_one (l : Lookout) (moves : List Move) (m : Move) :
    l.run (moves ++ [m]) = (l.run moves).move m := by
  rw [run_append]
  rfl

theorem isRun_append {before after : List Move} :
    l.IsRun (before ++ after) ↔ l.IsRun before ∧ (l.run before).IsRun after := by
  induction before generalizing l with
  | nil => simp [IsRun, run]
  | cons m rest ih =>
    rw [List.cons_append, IsRun, IsRun, ih, and_assoc]
    rfl

theorem isRun_append_one :
    l.IsRun (moves ++ [m]) ↔ l.IsRun moves ∧ (l.run moves).Allows m := by
  rw [isRun_append]
  simp [IsRun]

theorem rests_append_one :
    Rests p l (moves ++ [m]) ↔ Rests p l moves ∧ ¬(l.run moves).Writes m p ∧
      (l.run (moves ++ [m])).watcher.watches.IsWatched p := by
  rw [run_append_one]
  induction moves generalizing l with
  | nil => exact Iff.rfl
  | cons n rest ih =>
    rw [List.cons_append, Rests, Rests, ih, and_assoc, and_assoc]
    rfl

/-- What is a step of a longer list is the last or one of those before. -/
theorem exists_split_append_one {C : List Move → Move → List Move → Prop} :
    (∃ before n after, moves ++ [m] = before ++ n :: after ∧ C before n after) ↔
      C moves m [] ∨
        ∃ before n after, moves = before ++ n :: after ∧ C before n (after ++ [m]) := by
  constructor
  · rintro ⟨before, n, after, split, holds⟩
    rcases List.eq_nil_or_concat after with rfl | ⟨front, last, rfl⟩
    · obtain ⟨rfl, same⟩ := List.append_inj' split rfl
      cases same
      exact .inl holds
    · rw [List.concat_eq_append] at split holds
      rw [← List.cons_append, ← List.append_assoc] at split
      obtain ⟨rfl, same⟩ := List.append_inj' split rfl
      cases same
      exact .inr ⟨before, n, front, rfl, holds⟩
  · rintro (holds | ⟨before, n, after, rfl, holds⟩)
    · exact ⟨moves, m, [], rfl, holds⟩
    · exact ⟨before, n, after ++ [m], by simp, holds⟩

theorem hasFlushed_append_one :
    HasFlushed start (moves ++ [m]) t ↔
      ((start.run moves).Flushes m ∧ (start.run moves).now = t) ∨ HasFlushed start moves t :=
  exists_split_append_one

/-- A file settles at a time because of the last move, or has begun to before and still does. -/
theorem settles_append_one :
    Settles start (moves ++ [m]) p t ↔
      ((start.run moves).Writes m p ∧ (FileFormat.ofPath? p).isSome = true ∧
          (start.run (moves ++ [m])).watcher.watches.IsWatched p ∧
          (start.run moves).now + start.watcher.watches.debounce = t) ∨
        (Settles start moves p t ∧ ¬(start.run moves).Writes m p ∧
          (start.run (moves ++ [m])).watcher.watches.IsWatched p) := by
  have through : ∀ (before : List Move) (n : Move) (after : List Move),
      (start.run (before ++ [n])).run after = start.run (before ++ n :: after) := by
    intro before n after
    rw [← run_append, List.append_assoc, List.singleton_append]
  rw [Settles, exists_split_append_one, Settles]
  constructor
  · rintro ⟨format, ⟨writes, due, watched⟩ | ⟨before, n, after, rfl, writes, due, rests⟩⟩
    · exact .inl ⟨writes, format, watched, due⟩
    · rw [rests_append_one, through, through] at rests
      obtain ⟨rests, unwritten, watched⟩ := rests
      refine .inr ⟨⟨format, before, n, after, rfl, writes, due, rests⟩, unwritten, ?_⟩
      rwa [List.append_assoc]
  · rintro (⟨writes, format, watched, due⟩ |
      ⟨⟨format, before, n, after, rfl, writes, due, rests⟩, unwritten, watched⟩)
    · exact ⟨format, .inl ⟨writes, due, watched⟩⟩
    · refine ⟨format, .inr ⟨before, n, after, rfl, writes, due, ?_⟩⟩
      rw [rests_append_one, through, through]
      refine ⟨rests, unwritten, ?_⟩
      rwa [List.append_assoc] at watched

/-! ## What a move does to a pending file -/

/-- What the watcher can do when it acts. -/
theorem act_spec (l : Lookout) :
    ((l.watcher.isCancelled = true ∧ (l.move .act).called = l.called ∧
        (l.move .act).watcher.watches = (l.watcher.watches.shutdown l.os).2) ∨
      (∃ reason rest, l.watcher.isCancelled = false ∧ l.watcher.inbox = .failure reason :: rest ∧
        (l.move .act).called = l.called ∧ (l.move .act).watcher.watches = l.watcher.watches) ∨
      (∃ e rest, l.watcher.isCancelled = false ∧ l.watcher.inbox = .event e :: rest ∧
        (l.move .act).called = l.called ∧
        (l.move .act).watcher.watches = l.watcher.watches.observe l.now l.files e) ∨
      (l.watcher.isCancelled = false ∧ l.watcher.inbox = [] ∧
        (l.move .act).called = l.called ++ (l.watcher.watches.flush l.now).1 ∧
        (l.move .act).watcher.watches = (l.watcher.watches.flush l.now).2)) := by
  have called : (l.move .act).called = l.called ++ (l.watcher.act l.os l.files l.now).2.1 := rfl
  have watcher : (l.move .act).watcher = (l.watcher.act l.os l.files l.now).1 := rfl
  rw [called, watcher]
  unfold Watcher.act
  cases hc : l.watcher.isCancelled with
  | true => exact .inl ⟨rfl, List.append_nil _, rfl⟩
  | false =>
    rw [if_neg Bool.false_ne_true]
    cases hi : l.watcher.inbox with
    | nil => exact .inr (.inr (.inr ⟨rfl, rfl, rfl, rfl⟩))
    | cons x rest =>
      cases x with
      | failure reason => exact .inr (.inl ⟨reason, rest, rfl, rfl, List.append_nil _, rfl⟩)
      | event e => exact .inr (.inr (.inl ⟨e, rest, rfl, rfl, List.append_nil _, rfl⟩))

theorem watches_request (l : Lookout) (r : WatchRequest Listener) :
    (l.move (.request r)).watcher.watches = l.watcher.watches ∨
      (l.move (.request r)).watcher.watches =
        (r.answer l.watcher.base l.os l.watcher.watches).2 := by
  rw [move]
  cases hc : l.watcher.isCancelled with
  | true => rw [Watcher.serve_of_cancelled hc]; exact .inl rfl
  | false => rw [Watcher.serve_of_running hc]; exact .inr rfl

theorem watches_report (l : Lookout) (x : WatchReport) :
    (l.move (.report x)).watcher.watches = l.watcher.watches := by
  rw [move, Watcher.deliver]
  split <;> rfl

theorem debounce_move (l : Lookout) (m : Move) :
    (l.move m).watcher.watches.debounce = l.watcher.watches.debounce := by
  cases m with
  | request r =>
    rcases l.watches_request r with same | answered
    · rw [same]
    · rw [answered, Watches.debounce_answer]
  | report x => rw [watches_report]
  | act =>
    rcases l.act_spec with ⟨-, -, watches⟩ | ⟨_, _, -, -, -, watches⟩ | ⟨_, _, -, -, -, watches⟩ |
      ⟨-, -, -, watches⟩
    · rw [watches]; rfl
    · rw [watches]
    · rw [watches, Watches.debounce_observe]
    · rw [watches]; rfl
  | _ => rfl

/-- A move that leaves the watches as they are leaves files pending. -/
theorem pends_of_same (sound : l.watcher.watches.IsSound)
    (same : (l.move m).watcher.watches = l.watcher.watches) (unwritten : ¬l.Writes m p)
    (unflushed : ¬l.Flushes m) :
    (l.move m).watcher.watches.Pends p t ↔
      (l.Writes m p ∧ (FileFormat.ofPath? p).isSome = true ∧
          (l.move m).watcher.watches.IsWatched p ∧ l.now + l.watcher.watches.debounce = t) ∨
        (l.watcher.watches.Pends p t ∧ ¬l.Writes m p ∧ ¬(l.Flushes m ∧ t ≤ l.now) ∧
          (l.move m).watcher.watches.IsWatched p) := by
  rw [same]
  simp only [unwritten, unflushed, false_and, not_false_eq_true, true_and, false_or]
  exact ⟨fun pends => ⟨pends, (sound.minds_of_pends pends).1⟩, And.left⟩

/-- After a move a file is pending because the move wrote it, or as before if the move neither wrote
nor flushed it nor ended the watch of its directory. -/
theorem pends_move (sound : l.watcher.watches.IsSound) (m : Move) :
    (l.move m).watcher.watches.Pends p t ↔
      (l.Writes m p ∧ (FileFormat.ofPath? p).isSome = true ∧
          (l.move m).watcher.watches.IsWatched p ∧ l.now + l.watcher.watches.debounce = t) ∨
        (l.watcher.watches.Pends p t ∧ ¬l.Writes m p ∧ ¬(l.Flushes m ∧ t ≤ l.now) ∧
          (l.move m).watcher.watches.IsWatched p) := by
  have minds : l.watcher.watches.Pends p t → l.watcher.watches.Minds p := sound.minds_of_pends
  cases m with
  | request r =>
    rcases l.watches_request r with same | answered
    · exact pends_of_same sound same (fun h => nomatch h.1) (fun h => nomatch h.1)
    · rw [answered, sound.pends_answer]
      simp [Writes, Flushes]
  | report x =>
    exact pends_of_same sound (l.watches_report x) (fun h => nomatch h.1) (fun h => nomatch h.1)
  | edit files => exact pends_of_same sound rfl (fun h => nomatch h.1) (fun h => nomatch h.1)
  | replies os => exact pends_of_same sound rfl (fun h => nomatch h.1) (fun h => nomatch h.1)
  | cancel => exact pends_of_same sound rfl (fun h => nomatch h.1) (fun h => nomatch h.1)
  | pass ms => exact pends_of_same sound rfl (fun h => nomatch h.1) (fun h => nomatch h.1)
  | act =>
    rcases l.act_spec with ⟨cancelled, -, watches⟩ | ⟨_, _, -, inbox, -, watches⟩ |
      ⟨e, rest, running, inbox, -, watches⟩ | ⟨running, inbox, -, watches⟩
    · -- Everything ends.
      rw [watches]
      simp [Watches.shutdown, Watches.Pends, Watches.IsWatched]
    · refine pends_of_same sound watches ?_ ?_
      · rintro ⟨-, -, e, rest, first, -⟩
        rw [inbox] at first
        cases first
      · rintro ⟨-, -, empty⟩
        rw [inbox] at empty
        cases empty
    · have writes : l.Writes .act p ↔ e.CountsFor l.files p := by
        simp [Writes, running, inbox]
      have unflushed : ¬l.Flushes .act := by simp [Flushes, inbox]
      have watched : (l.move .act).watcher.watches.IsWatched p ↔
          l.watcher.watches.IsWatched p := by
        rw [watches, Watches.IsWatched, Watches.directories_observe]
        rfl
      rw [writes, watched, watches, Watches.pends_observe]
      simp only [unflushed, false_and, not_false_eq_true, true_and, Watches.Minds] at minds ⊢
      constructor
      · rintro (⟨counts, ⟨around, format⟩, rfl⟩ | ⟨pends, other⟩)
        · exact .inl ⟨counts, format, around, rfl⟩
        · exact .inr ⟨pends, fun counts => other ⟨counts, minds pends⟩, (minds pends).1⟩
      · rintro (⟨counts, format, around, rfl⟩ | ⟨pends, uncounted, -⟩)
        · exact .inl ⟨counts, ⟨around, format⟩, rfl⟩
        · exact .inr ⟨pends, fun both => uncounted both.1⟩
    · have flushes : l.Flushes .act := ⟨rfl, running, inbox⟩
      have unwritten : ¬l.Writes .act p := by simp [Writes, inbox]
      have watched : (l.move .act).watcher.watches.IsWatched p ↔
          l.watcher.watches.IsWatched p := by
        rw [watches]
        rfl
      rw [watched, watches, Watches.pends_flush]
      simp only [flushes, unwritten, false_and, false_or, not_false_eq_true, true_and, not_le]
      exact and_congr_right fun pends => (and_iff_left (minds pends).1).symm

/-! ## What is pending -/

/-- Subscriptions and calls agree, and no due time has gone by. -/
structure IsTimely (l : Lookout) : Prop where
  sound : l.watcher.watches.IsSound
  ahead : ∀ {p t}, l.watcher.watches.Pends p t → l.now ≤ t
  stopped : l.watcher.isOver = true → l.watcher.IsStopped

theorem watcher_move (l : Lookout) (m : Move) :
    (l.move m).watcher = l.watcher ∨
      ∃ n : Watcher.Move Listener, (l.move m).watcher = l.watcher.move n := by
  cases m with
  | request r => exact .inr ⟨.request l.os r, rfl⟩
  | report x => exact .inr ⟨.report x, rfl⟩
  | cancel => exact .inr ⟨.cancel, rfl⟩
  | act => exact .inr ⟨.act l.os l.files l.now, rfl⟩
  | edit _ | replies _ | pass _ => exact .inl rfl

theorem now_le_move (l : Lookout) (m : Move) : l.now ≤ (l.move m).now := by
  cases m with
  | pass ms => exact Nat.le_add_right _ _
  | _ => exact Nat.le_refl _

theorem IsTimely.move (h : l.IsTimely) {m : Move} (allowed : l.Allows m) :
    (l.move m).IsTimely := by
  refine ⟨?sound, ?ahead, ?stopped⟩
  case sound =>
    rcases l.watcher_move m with same | ⟨n, moved⟩
    · rw [same]; exact h.sound
    · rw [moved]; exact Watcher.isSound_move h.sound n
  case ahead =>
    intro p t still
    rcases (pends_move h.sound m).mp still with ⟨⟨rfl, -⟩, -, -, rfl⟩ | ⟨pends, -, -, -⟩
    · exact Nat.le_add_right _ _
    · clear still
      cases m with
      | pass ms =>
        obtain ⟨f, hf, -, rfl⟩ := pends
        exact allowed.2 f.due (List.mem_map_of_mem hf)
      | _ => exact h.ahead pends
  case stopped =>
    rcases l.watcher_move m with same | ⟨n, moved⟩
    · rw [same]; exact h.stopped
    · rw [moved]; exact Watcher.isStopped_move h.stopped

theorem isTimely_run (h : l.IsTimely) (run : l.IsRun moves) : (l.run moves).IsTimely := by
  induction moves generalizing l with
  | nil => exact h
  | cons m rest ih => exact ih (h.move run.1) run.2

/-- A watcher is able to act when a file is due. -/
theorem IsTimely.isAble_of_due (h : l.IsTimely) (pends : l.watcher.watches.Pends p t)
    (past : t ≤ l.now) : l.watcher.isAble l.now = true := by
  obtain ⟨f, hf, -, rfl⟩ := pends
  have going : l.watcher.isOver = false := by
    refine Bool.eq_false_iff.mpr fun halted => ?_
    rw [(h.stopped halted).pending] at hf
    cases hf
  have due : (l.watcher.watches.nextDue?.any (· ≤ l.now)) = true := by
    unfold Watches.nextDue?
    cases hm : (l.watcher.watches.pending.map PendingFile.due).min? with
    | none =>
      rw [List.min?_eq_none_iff, List.map_eq_nil_iff] at hm
      rw [hm] at hf
      cases hf
    | some least =>
      have first : least ≤ f.due := (List.min?_eq_some_iff.mp hm).2 _ (List.mem_map_of_mem hf)
      simpa using first.trans past
  simp [Watcher.isAble, going, due]

/-- If a watcher that has nothing to read is able to act, a file is due. -/
theorem exists_due_of_isAble (able : l.watcher.isAble l.now = true)
    (running : l.watcher.isCancelled = false) (empty : l.watcher.inbox = []) :
    ∃ p, ∃ due ≤ l.now, l.watcher.watches.Pends p due := by
  simp only [Watcher.isAble, running, empty, List.isEmpty_nil, Bool.not_true, Bool.false_or,
    Bool.and_eq_true, Option.any_eq_true, decide_eq_true_eq] at able
  obtain ⟨-, due, least, past⟩ := able
  obtain ⟨f, hf, rfl⟩ := List.mem_map.mp (List.min?_mem least)
  exact ⟨f.path, f.due, past, f, hf, FilePath.same_refl _, rfl⟩

theorem isTimely_of_fresh {base : FilePath} {debounce : Nat}
    (fresh : start.watcher = .ofBase base debounce) : start.IsTimely := by
  refine ⟨?_, ?_, ?_⟩
  · rw [fresh]
    exact Watcher.isSound_ofBase base debounce
  · rintro p t ⟨f, hf, -⟩
    rw [fresh] at hf
    cases hf
  · rw [fresh]
    exact nofun

theorem debounce_run (l : Lookout) (moves : List Move) :
    (l.run moves).watcher.watches.debounce = l.watcher.watches.debounce := by
  induction moves generalizing l with
  | nil => rfl
  | cons m rest ih => exact (ih (l.move m)).trans (l.debounce_move m)

theorem now_le_run (l : Lookout) (moves : List Move) : l.now ≤ (l.run moves).now := by
  induction moves generalizing l with
  | nil => exact Nat.le_refl _
  | cons m rest ih => exact (l.now_le_move m).trans (ih (l.move m))

theorem HasFlushed.le_now (h : HasFlushed start moves t) : t ≤ (start.run moves).now := by
  obtain ⟨before, m, after, rfl, -, rfl⟩ := h
  rw [run_append]
  exact now_le_run _ _

/-- After any run those files are pending that settle at a time at which nothing has been flushed
yet. -/
theorem pends_iff {base : FilePath} {debounce : Nat}
    (fresh : start.watcher = .ofBase base debounce) (positive : 0 < debounce)
    (run : start.IsRun moves) :
    (start.run moves).watcher.watches.Pends p t ↔
      Settles start moves p t ∧ ¬HasFlushed start moves t := by
  have wait : 0 < start.watcher.watches.debounce := by rw [fresh]; exact positive
  induction moves using List.reverseRecOn with
  | nil =>
    refine iff_of_false ?_ ?_
    · rintro ⟨f, hf, -⟩
      rw [Lookout.run, List.foldl_nil, fresh] at hf
      cases hf
    · rintro ⟨⟨-, before, m, after, split, -⟩, -⟩
      simp at split
  | append_singleton moves m ih =>
    obtain ⟨run, allowed⟩ := isRun_append_one.mp run
    have timely : (start.run moves).IsTimely := isTimely_run (isTimely_of_fresh fresh) run
    have ahead : (start.run moves).watcher.watches.Pends p t → (start.run moves).now ≤ t :=
      timely.ahead
    rw [settles_append_one, hasFlushed_append_one, run_append_one, pends_move timely.sound,
      debounce_run]
    constructor
    · rintro (⟨writes, format, watched, rfl⟩ | ⟨pends, unwritten, unflushed, watched⟩)
      · -- What is written now is due later than everything that has been flushed.
        refine ⟨.inl ⟨writes, format, watched, rfl⟩, ?_⟩
        rintro (⟨-, same⟩ | before)
        · omega
        · have := before.le_now
          omega
      · obtain ⟨settles, unflushed_before⟩ := (ih run).mp pends
        refine ⟨.inr ⟨settles, unwritten, watched⟩, ?_⟩
        rintro (⟨flushes, same⟩ | before)
        · exact unflushed ⟨flushes, same.ge⟩
        · exact unflushed_before before
    · rintro ⟨now_written | ⟨settles, unwritten, watched⟩, unflushed⟩
      · exact .inl now_written
      · have pends := (ih run).mpr ⟨settles, fun before => unflushed (.inr before)⟩
        refine .inr ⟨pends, unwritten, ?_, watched⟩
        rintro ⟨flushes, past⟩
        exact unflushed (.inl ⟨flushes, (ahead pends).antisymm past⟩)

/-! ## Calls -/

/-- The watcher flushes once at most at each time. -/
theorem not_hasFlushed {base : FilePath} {debounce : Nat}
    (fresh : start.watcher = .ofBase base debounce) (positive : 0 < debounce)
    (run : start.IsRun moves) (allowed : (start.run moves).Allows m)
    (flushes : (start.run moves).Flushes m) :
    ¬HasFlushed start moves (start.run moves).now := by
  obtain ⟨rfl, running, empty⟩ := flushes
  obtain ⟨p, due, past, pends⟩ := exists_due_of_isAble allowed running empty
  have timely : (start.run moves).IsTimely := isTimely_run (isTimely_of_fresh fresh) run
  obtain rfl : due = (start.run moves).now := past.antisymm (timely.ahead pends)
  exact ((pends_iff fresh positive run).mp pends).2

/-- The calls of a move are those of the files that settle then, if it flushes. -/
theorem exists_calls {base : FilePath} {debounce : Nat}
    (fresh : start.watcher = .ofBase base debounce) (positive : 0 < debounce)
    (run : start.IsRun moves) (allowed : (start.run moves).Allows m) :
    ∃ calls : List (FilePath × Subscription Listener),
      ((start.run moves).move m).called =
        (start.run moves).called ++ calls.map (fun c => c.2.target) ∧
      (calls.map fun c => c.1.place).Nodup ∧
      ∀ p s, (∃ c ∈ calls, c.1.same p = true ∧ c.2 = s) ↔
        (start.run moves).Flushes m ∧ Settles start moves p (start.run moves).now ∧
          (start.run moves).watcher.watches.Waits p s := by
  have timely : (start.run moves).IsTimely := isTimely_run (isTimely_of_fresh fresh) run
  by_cases flushes : (start.run moves).Flushes m
  · have once := not_hasFlushed fresh positive run allowed flushes
    have pends : ∀ p, (∃ due ≤ (start.run moves).now,
        (start.run moves).watcher.watches.Pends p due) ↔
          Settles start moves p (start.run moves).now := by
      intro p
      constructor
      · rintro ⟨due, past, pends⟩
        obtain rfl : due = (start.run moves).now := past.antisymm (timely.ahead pends)
        exact ((pends_iff fresh positive run).mp pends).1
      · intro settles
        exact ⟨_, Nat.le_refl _, (pends_iff fresh positive run).mpr ⟨settles, once⟩⟩
    refine ⟨(start.run moves).watcher.watches.ringing (start.run moves).now, ?_,
      timely.sound.nodup_ringing _, ?_⟩
    · obtain ⟨rfl, running, empty⟩ := flushes
      rw [← Watches.targets_flush]
      rcases (start.run moves).act_spec with ⟨cancelled, -⟩ | ⟨_, _, -, inbox, -⟩ |
        ⟨_, _, -, inbox, -⟩ | ⟨-, -, called, -⟩
      · rw [running] at cancelled; cases cancelled
      · rw [empty] at inbox; cases inbox
      · rw [empty] at inbox; cases inbox
      · exact called
    · intro p s
      rw [timely.sound.mem_ringing, pends]
      exact ⟨fun h => ⟨flushes, h⟩, And.right⟩
  · refine ⟨[], ?_, List.nodup_nil, ?_⟩
    · cases m with
      | act =>
        rcases (start.run moves).act_spec with ⟨-, called, -⟩ | ⟨_, _, -, -, called, -⟩ |
          ⟨_, _, -, -, called, -⟩ | ⟨running, empty, -⟩
        · rw [called]; exact (List.append_nil _).symm
        · rw [called]; exact (List.append_nil _).symm
        · rw [called]; exact (List.append_nil _).symm
        · exact absurd ⟨rfl, running, empty⟩ flushes
      | _ => exact (List.append_nil _).symm
    · intro p s
      exact iff_of_false (fun ⟨_, hc, _⟩ => nomatch hc) fun h => flushes h.1

/-- What settles at a time has settled when the time comes. -/
theorem Settles.of_append {before after : List Move} (wait : 0 < start.watcher.watches.debounce)
    (h : Settles start (before ++ after) p t) (reached : t ≤ (start.run before).now) :
    Settles start before p t := by
  induction after using List.reverseRecOn with
  | nil => rwa [List.append_nil] at h
  | append_singleton after m ih =>
    rw [← List.append_assoc, settles_append_one, run_append] at h
    rcases h with ⟨-, -, -, rfl⟩ | ⟨settles, -, -⟩
    · have := now_le_run (start.run before) after
      omega
    · exact ih settles

/-- When its time has come, what settles has been flushed. -/
theorem hasFlushed_of_settles {base : FilePath} {debounce : Nat}
    (fresh : start.watcher = .ofBase base debounce) (positive : 0 < debounce)
    (run : start.IsRun moves) (settles : Settles start moves p t)
    (past : t < (start.run moves).now ∨
      t = (start.run moves).now ∧ (start.run moves).watcher.isAble t = false) :
    HasFlushed start moves t := by
  have timely : (start.run moves).IsTimely := isTimely_run (isTimely_of_fresh fresh) run
  refine Classical.byContradiction fun unflushed => ?_
  have pends := (pends_iff fresh positive run).mpr ⟨settles, unflushed⟩
  rcases past with gone | ⟨rfl, idle⟩
  · exact absurd (timely.ahead pends) (Nat.not_le.mpr gone)
  · rw [timely.isAble_of_due pends (Nat.le_refl _)] at idle
    cases idle

/-! ## Listeners that panic -/

end Lookout

/-- The same listener, which panics or not. -/
def Listener.marked (panics : Listener → Bool) (x : Listener) : Listener :=
  { x with panics := panics x }

namespace Lookout

/-- The same move with other listeners. -/
def Move.map (f : Listener → Listener) : Move → Move
  | .request r => .request (r.map f)
  | m => m

/-- A lookout with other listeners in the place of those of the first. -/
structure IsImage (f : Listener → Listener) (l l' : Lookout) : Prop where
  now : l'.now = l.now
  files : l'.files = l.files
  os : l'.os = l.os
  watcher : l'.watcher = l.watcher.map f
  called : l'.called = l.called.map f

theorem IsImage.move {f : Listener → Listener} {l' : Lookout} (h : IsImage f l l') (m : Move) :
    IsImage f (l.move m) (l'.move (m.map f)) := by
  obtain ⟨now, files, os, watcher, called⟩ := l'
  obtain ⟨rfl, rfl, rfl, rfl, rfl⟩ := h
  cases m with
  | request r =>
    refine ⟨rfl, rfl, rfl, ?_, rfl⟩
    exact congrArg Prod.snd (l.watcher.serve_map f l.os r)
  | report x => exact ⟨rfl, rfl, rfl, l.watcher.deliver_map f x, rfl⟩
  | act =>
    have acted := l.watcher.act_map f l.os l.files l.now
    refine ⟨rfl, rfl, rfl, congrArg Prod.fst acted, ?_⟩
    have targets := congrArg (fun x => l.called.map f ++ x.2.1) acted
    rw [← List.map_append] at targets
    exact targets
  | edit files => exact ⟨rfl, rfl, rfl, rfl, rfl⟩
  | replies os => exact ⟨rfl, rfl, rfl, rfl, rfl⟩
  | cancel => exact ⟨rfl, rfl, rfl, rfl, rfl⟩
  | pass ms => exact ⟨rfl, rfl, rfl, rfl, rfl⟩

theorem IsImage.run {f : Listener → Listener} {l' : Lookout} (h : IsImage f l l')
    (moves : List Move) : IsImage f (l.run moves) (l'.run (moves.map (Move.map f))) := by
  induction moves generalizing l l' with
  | nil => exact h
  | cons m rest ih => exact ih (h.move m)

/-- **Settled writes are delivered once, and nothing else is.** In every run of a lookout whose
debounce time is positive, a move calls the subscriptions that wait for the files that settle at its
time, if it is a flush, and none otherwise: one call for each such file, to the subscription that is
there then. It is the first flush at its time. A file that settles at a time, and goes on to until
that time is over, has settled at a flush then. And whoever panics, the calls are the same. -/
theorem settled_writes_are_delivered (base : FilePath) (debounce now : Nat) (files : FileTree)
    (os : DirectoryWatch) (positive : 0 < debounce) (moves : List Move) :
    let start : Lookout := { now, files, os, watcher := .ofBase base debounce }
    start.IsRun moves →
    (∀ before m after, moves = before ++ m :: after →
      let l := start.run before
      (∃ calls : List (FilePath × Subscription Listener),
        (l.move m).called = l.called ++ calls.map (fun c => c.2.target) ∧
        (calls.map fun c => c.1.place).Nodup ∧
        ∀ p s, (∃ c ∈ calls, c.1.same p = true ∧ c.2 = s) ↔
          l.Flushes m ∧ Settles start before p l.now ∧ l.watcher.watches.Waits p s) ∧
      (l.Flushes m → ¬HasFlushed start before l.now)) ∧
    (∀ p t, Settles start moves p t →
      t < (start.run moves).now ∨
        t = (start.run moves).now ∧ (start.run moves).watcher.isAble t = false →
      ∃ before m after, moves = before ++ m :: after ∧ (start.run before).Flushes m ∧
        (start.run before).now = t ∧ Settles start before p t) ∧
    ∀ panics : Listener → Bool,
      (start.run (moves.map (Move.map (Listener.marked panics)))).called =
        (start.run moves).called.map (Listener.marked panics) := by
  intro start run
  refine ⟨?calls, ?flushed, ?panics⟩
  case calls =>
    rintro before m after rfl l
    obtain ⟨run, allowed, -⟩ := isRun_append.mp run
    exact ⟨exists_calls rfl positive run allowed, not_hasFlushed rfl positive run allowed⟩
  case flushed =>
    intro p t settles past
    obtain ⟨before, m, after, rfl, flushes, rfl⟩ :=
      hasFlushed_of_settles rfl positive run settles past
    exact ⟨before, m, after, rfl, flushes, rfl, settles.of_append positive (Nat.le_refl _)⟩
  case panics =>
    intro panics
    have image : IsImage (Listener.marked panics) start start := ⟨rfl, rfl, rfl, rfl, rfl⟩
    exact (image.run moves).called

/-! ## Two listeners -/

namespace TwoFiles

/-- One of the listeners panics. -/
def hello : Listener := { botType := ⟨"chat"⟩, identifier := "hello", panics := true }

def bye : Listener := { botType := ⟨"chat"⟩, identifier := "bye" }

def start : Lookout := { files := {}, watcher := .ofBase ⟨"/conf"⟩ 10 }

/-- Both files are written at once, and one of them again. -/
def moves : List Move :=
  [.request (.subscribe ⟨hello.botType, hello.identifier, hello⟩),
    .request (.subscribe ⟨bye.botType, bye.identifier, bye⟩),
    .report (.event ⟨.created, [⟨"/conf/chat/hello.yaml"⟩, ⟨"/conf/chat/bye.json"⟩]⟩), .act,
    .pass 4, .report (.event ⟨.moved, [⟨"/conf/chat/x"⟩, ⟨"/conf/chat/bye.json"⟩]⟩), .act,
    .pass 6, .act, .pass 4]

end TwoFiles

/-- The file that was written twice settles after its second write; the listener of the other has
panicked meanwhile, as it might not have. -/
theorem bye_is_delivered :
    let l := TwoFiles.start.run TwoFiles.moves
    TwoFiles.start.IsRun (TwoFiles.moves ++ [.act]) ∧ l.called = [TwoFiles.hello] ∧ l.now = 14 ∧
      (l.move .act).called = [TwoFiles.hello, TwoFiles.bye] ∧
      (∃ p s, s.target = TwoFiles.bye ∧ Settles TwoFiles.start TwoFiles.moves p 14 ∧
        l.watcher.watches.Waits p s) ∧
      (TwoFiles.start.run
        (TwoFiles.moves.map (Move.map (Listener.marked fun _ => false)))).called =
          [{ TwoFiles.hello with panics := false }] := by
  intro l
  have run : TwoFiles.start.IsRun (TwoFiles.moves ++ [.act]) := by decide +kernel
  have before : l.called = [TwoFiles.hello] := by decide +kernel
  have after : (l.move .act).called = [TwoFiles.hello, TwoFiles.bye] := by decide +kernel
  have now : l.now = 14 := by decide +kernel
  obtain ⟨delivered, -, -⟩ :=
    settled_writes_are_delivered ⟨"/conf"⟩ 10 0 {} {} (by decide) (TwoFiles.moves ++ [Move.act]) run
  obtain ⟨-, -, marked⟩ :=
    settled_writes_are_delivered ⟨"/conf"⟩ 10 0 {} {} (by decide) TwoFiles.moves
      (isRun_append.mp run).1
  obtain ⟨⟨calls, called, -, who⟩, -⟩ := delivered TwoFiles.moves .act [] rfl
  have one : calls.map (fun c => c.2.target) = [TwoFiles.bye] := by
    have whole : [TwoFiles.hello, TwoFiles.bye] =
        [TwoFiles.hello] ++ calls.map (fun c => c.2.target) := after ▸ before ▸ called
    exact (List.cons_inj_right _).mp whole.symm
  obtain ⟨c, rfl, target⟩ := List.map_eq_singleton_iff.mp one
  obtain ⟨-, settles, waits⟩ := (who c.1 c.2).mp ⟨c, List.mem_cons_self, FilePath.same_refl _, rfl⟩
  refine ⟨run, before, now, after, ⟨c.1, c.2, target, now ▸ settles, waits⟩, ?_⟩
  refine (marked fun _ => false).trans ?_
  exact congrArg (List.map (Listener.marked fun _ => false)) before

end Lookout

end Switchboard
