import Switchboard.Proofs.PendingFiles

/-!
# Targets are only passed on

The watches keep the targets of their subscribers and give them back; they never look at one.
Therefore every operation commutes with a change of all targets, `Watches.map`: which subscribers
are called, and when, does not depend on what their targets do then.
-/

namespace Switchboard

variable {α β : Type}

def Subscription.map (f : α → β) (s : Subscription α) : Subscription β :=
  { botType := s.botType, identifier := s.identifier, target := f s.target }

def WatchedDirectory.map (f : α → β) (d : WatchedDirectory α) : WatchedDirectory β :=
  { path := d.path, subscriptions := d.subscriptions.map (Subscription.map f) }

def WatchRequest.map (f : α → β) : WatchRequest α → WatchRequest β
  | subscribe s => .subscribe (s.map f)
  | unsubscribe bot identifier => .unsubscribe bot identifier
  | unwatch bot => .unwatch bot

namespace Watches

/-- The same watches with other targets. -/
def map (f : α → β) (w : Watches α) : Watches β :=
  { debounce := w.debounce
    directories := w.directories.map (WatchedDirectory.map f)
    pending := w.pending
    calls := w.calls }

variable (f : α → β) (w : Watches α)

theorem directory?_map (path : FilePath) :
    (w.map f).directory? path = (w.directory? path).map (WatchedDirectory.map f) :=
  List.find?_map

theorem around?_map (file : FilePath) :
    (w.map f).around? file = (w.around? file).map (WatchedDirectory.map f) :=
  List.find?_map

/-- Subscriptions of a directory are replaced alike before and after a change of targets. -/
theorem replace_map {g : List (Subscription β) → List (Subscription β)}
    {h : List (Subscription α) → List (Subscription α)}
    (alike : ∀ ss, g (ss.map (Subscription.map f)) = (h ss).map (Subscription.map f))
    (path : FilePath) (ds : List (WatchedDirectory α)) :
    ((ds.map (WatchedDirectory.map f)).map fun d =>
        if d.path.same path then { d with subscriptions := g d.subscriptions } else d) =
      (ds.map fun d =>
        if d.path.same path then { d with subscriptions := h d.subscriptions } else d).map
          (WatchedDirectory.map f) := by
  rw [List.map_map, List.map_map]
  refine List.map_congr_left ?_
  intro d _
  dsimp only [Function.comp]
  by_cases here : d.path.same path = true
  · have here' : (d.map f).path.same path = true := here
    rw [if_pos here, if_pos here']
    exact congrArg (WatchedDirectory.mk d.path) (alike d.subscriptions)
  · have elsewhere : ¬(d.map f).path.same path = true := here
    rw [if_neg here, if_neg elsewhere]

theorem subscribe_map (os : DirectoryWatch) (path : FilePath) (s : Subscription α) :
    (w.map f).subscribe os path (s.map f) =
      ((w.subscribe os path s).1, (w.subscribe os path s).2.map f) := by
  unfold subscribe
  rw [directory?_map]
  cases w.directory? path with
  | none =>
    dsimp only [Option.map_none]
    cases os.add path with
    | none => simp [map, WatchedDirectory.map]
    | some reason => rfl
  | some d =>
    have taken : ((d.map f).subscriptions.any fun t => t.identifier == (s.map f).identifier) =
        d.subscriptions.any fun t => t.identifier == s.identifier := List.any_map
    dsimp only [Option.map_some]
    rw [taken]
    split
    · rfl
    · have replaced := replace_map f (g := (· ++ [s.map f])) (h := (· ++ [s]))
        (fun ss => by rw [List.map_append, List.map_singleton]) path w.directories
      simp only [append, map, replaced]

theorem staying_map (subscriptions : List (Subscription α)) (bot : BotType)
    (identifier : Option String) :
    staying (subscriptions.map (Subscription.map f)) bot identifier =
      (staying subscriptions bot identifier).map (Subscription.map f) := by
  unfold staying
  rw [List.filter_map]
  rfl

theorem abandon_map (os : DirectoryWatch) (path : FilePath) :
    (w.map f).abandon os path = ((w.abandon os path).1, (w.abandon os path).2.map f) := by
  unfold abandon
  dsimp only
  cases os.remove path <;> simp [map, List.filter_map, WatchedDirectory.map, Function.comp_def]

theorem unsubscribe_map (os : DirectoryWatch) (path : FilePath) (bot : BotType)
    (identifier : Option String) :
    (w.map f).unsubscribe os path bot identifier =
      ((w.unsubscribe os path bot identifier).1,
        (w.unsubscribe os path bot identifier).2.map f) := by
  unfold unsubscribe
  rw [directory?_map]
  cases w.directory? path with
  | none => cases identifier <;> rfl
  | some d =>
    have left : staying (d.map f).subscriptions bot identifier =
        (staying d.subscriptions bot identifier).map (Subscription.map f) :=
      staying_map f d.subscriptions bot identifier
    have count : (d.map f).subscriptions.length = d.subscriptions.length := List.length_map _
    have replaced : ∀ rest : List (Subscription α), _ := fun rest =>
      replace_map f (g := fun _ => rest.map (Subscription.map f)) (h := fun _ => rest)
        (fun _ => rfl) path w.directories
    dsimp only [Option.map_some]
    rw [left, List.length_map, count, List.isEmpty_map]
    split
    · rfl
    · split
      · exact abandon_map f w os path
      · simp only [map, replaced]

theorem observe_map (now : Nat) (files : FileTree) (e : FileEvent) :
    (w.map f).observe now files e = (w.observe now files e).map f := by
  have touched : ∀ (v : Watches α) (q : FilePath),
      (v.map f).touch now q = (v.touch now q).map f := by
    intro v q
    unfold touch
    rw [around?_map, Option.isSome_map]
    split <;> rfl
  unfold observe
  generalize e.written files = written
  induction written generalizing w with
  | nil => rfl
  | cons q rest ih => rw [List.foldl_cons, List.foldl_cons, touched, ih]

theorem targets_map (p : FilePath) : (w.map f).targets p = (w.targets p).map f := by
  unfold targets
  rw [around?_map]
  cases w.around? p with
  | none => rfl
  | some d =>
    cases p.stem? with
    | none => rfl
    | some stem =>
      dsimp only [Option.map_some, WatchedDirectory.map]
      rw [List.filter_map, List.map_map, List.map_map]
      rfl

theorem flush_map (now : Nat) :
    (w.map f).flush now = ((w.flush now).1.map f, (w.flush now).2.map f) := by
  have targets : (w.map f).targets = fun p => (w.targets p).map f := funext (w.targets_map f)
  simp only [flush, targets, List.map_flatMap]
  rfl

theorem shutdown_map (os : DirectoryWatch) :
    (w.map f).shutdown os = ((w.shutdown os).1, (w.shutdown os).2.map f) := by
  have paths : (w.map f).directories.map WatchedDirectory.path =
      w.directories.map WatchedDirectory.path := by
    rw [map, List.map_map]
    rfl
  simp only [shutdown, paths]
  rfl

end Watches

theorem WatchRequest.answer_map (f : α → β) (base : FilePath) (os : DirectoryWatch) (w : Watches α)
    (r : WatchRequest α) :
    (r.map f).answer base os (w.map f) =
      ((r.answer base os w).1, (r.answer base os w).2.map f) := by
  cases r with
  | subscribe s => exact w.subscribe_map f os _ s
  | unsubscribe bot identifier => exact w.unsubscribe_map f os _ bot (some identifier)
  | unwatch bot => exact w.unsubscribe_map f os _ bot none

namespace Watcher

/-- The same watcher with other targets. -/
def map (f : α → β) (w : Watcher α) : Watcher β :=
  { base := w.base
    watches := w.watches.map f
    inbox := w.inbox
    isCancelled := w.isCancelled
    isOver := w.isOver }

variable (f : α → β) (w : Watcher α)

theorem serve_map (os : DirectoryWatch) (r : WatchRequest α) :
    (w.map f).serve os (r.map f) = ((w.serve os r).1, (w.serve os r).2.map f) := by
  cases hc : w.isCancelled with
  | true => rw [serve_of_cancelled hc, serve_of_cancelled (w := w.map f) hc]
  | false =>
    rw [serve_of_running hc, serve_of_running (w := w.map f) hc]
    dsimp only [map]
    rw [WatchRequest.answer_map]

theorem deliver_map (x : WatchReport) : (w.map f).deliver x = (w.deliver x).map f := by
  unfold deliver map
  split <;> rfl

/-- A watcher with other targets calls those of the same subscribers. -/
theorem act_map (os : DirectoryWatch) (files : FileTree) (now : Nat) :
    (w.map f).act os files now =
      ((w.act os files now).1.map f, (w.act os files now).2.1.map f, (w.act os files now).2.2) := by
  have cancelled : (w.map f).isCancelled = w.isCancelled := rfl
  have inbox : (w.map f).inbox = w.inbox := rfl
  have watches : (w.map f).watches = w.watches.map f := rfl
  unfold act
  rw [cancelled, inbox, watches, Watches.shutdown_map, Watches.flush_map]
  cases hc : w.isCancelled with
  | true => simp [map, hc]
  | false =>
    cases hi : w.inbox with
    | nil => simp [map, hc]
    | cons x rest =>
      cases x with
      | failure reason => simp [map, hc]
      | event e => simp [map, hc, Watches.observe_map]

end Watcher

end Switchboard
