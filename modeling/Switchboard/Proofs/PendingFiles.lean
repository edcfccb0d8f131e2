import Switchboard.Proofs.WatchCalls

/-!
# Pending files and their due times

What each operation of the watches does to one pending file, said as an equivalence: it is pending
thereafter because it was written just now, or because it was pending before and nothing ended that.
A write ends it by a later due time (`pends_observe`), a flush does when the time has come
(`pends_flush`), and a request does when the directory around the file is no longer watched
(`pends_answer`).

A flush calls the subscribers of each file whose time has come, and of each file only one, since
nobody waits twice for the file of an identifier (`sublist_places`).
-/

namespace Switchboard

/-- An event counts as a write of a file. -/
inductive FileEvent.CountsFor (files : FileTree) (p : FilePath) : FileEvent → Prop where
  | created {paths q} : q ∈ paths → q.same p → CountsFor files p ⟨.created, paths⟩
  | content {paths q} : q ∈ paths → q.same p → CountsFor files p ⟨.content, paths⟩
  | changed {paths q} : q ∈ paths → q.same p → CountsFor files p ⟨.changed, paths⟩
  | movedHere {paths q} : q ∈ paths → q.same p → CountsFor files p ⟨.movedHere, paths⟩
  /-- The first path is where the file came from. -/
  | moved {source paths q} : q ∈ paths → q.same p → CountsFor files p ⟨.moved, source :: paths⟩
  /-- Only what is there has been moved there. -/
  | movedSomehow {paths q} :
      q ∈ paths → files.holds q → q.same p → CountsFor files p ⟨.movedSomehow, paths⟩

theorem FileEvent.countsFor_iff {files : FileTree} {p : FilePath} {e : FileEvent} :
    e.CountsFor files p ↔ ∃ q ∈ e.written files, q.same p = true := by
  constructor
  · intro counts
    cases counts with
    | created mem same => exact ⟨_, mem, same⟩
    | content mem same => exact ⟨_, mem, same⟩
    | changed mem same => exact ⟨_, mem, same⟩
    | movedHere mem same => exact ⟨_, mem, same⟩
    | moved mem same => exact ⟨_, mem, same⟩
    | movedSomehow mem there same => exact ⟨_, List.mem_filter.mpr ⟨mem, there⟩, same⟩
  · obtain ⟨kind, paths⟩ := e
    rintro ⟨q, mem, same⟩
    cases kind with
    | created => exact .created mem same
    | content => exact .content mem same
    | changed => exact .changed mem same
    | movedHere => exact .movedHere mem same
    | moved =>
      cases paths with
      | nil => cases mem
      | cons source rest => exact .moved mem same
    | movedSomehow =>
      obtain ⟨there, holds⟩ := List.mem_filter.mp mem
      exact .movedSomehow there holds same
    | _ => cases mem

namespace Watches

variable {α : Type} {w : Watches α} {p : FilePath} {t : Nat}

/-- A file lies in a watched directory. -/
def IsWatched (w : Watches α) (p : FilePath) : Prop := ∃ d ∈ w.directories, p.isIn d.path = true

/-- Writes of a file make it pending. -/
def Minds (w : Watches α) (p : FilePath) : Prop :=
  w.IsWatched p ∧ (FileFormat.ofPath? p).isSome = true

/-- A file is pending and due at a time. -/
def Pends (w : Watches α) (p : FilePath) (t : Nat) : Prop :=
  ∃ f ∈ w.pending, f.path.same p = true ∧ f.due = t

/-- A subscription waits for a file. -/
def Waits (w : Watches α) (p : FilePath) (s : Subscription α) : Prop :=
  ∃ d ∈ w.directories, p.isIn d.path = true ∧ s ∈ d.subscriptions ∧ p.stem? = some s.identifier

theorem isWatched_iff : w.IsWatched p ↔ (w.around? p).isSome = true := by
  simp [IsWatched, around?]

theorem minds_of_same {q : FilePath} (h : q.same p = true) : w.Minds q ↔ w.Minds p := by
  rw [Minds, Minds, isWatched_iff, isWatched_iff, around?_of_same h, FilePath.ofPath?_of_same h]

theorem IsSound.minds_of_pends (h : w.IsSound) (pends : w.Pends p t) : w.Minds p := by
  obtain ⟨f, hf, same, -⟩ := pends
  obtain ⟨around, format⟩ := h.pending f hf
  exact (minds_of_same same).mp ⟨isWatched_iff.mpr around, format⟩

/-! ## Writes -/

theorem pends_touch (w : Watches α) (now : Nat) (q : FilePath) :
    (w.touch now q).Pends p t ↔
      (q.same p = true ∧ w.Minds p ∧ t = now + w.debounce) ∨
        (w.Pends p t ∧ ¬(q.same p = true ∧ w.Minds p)) := by
  unfold touch
  split
  · next minded =>
    have minds : w.Minds q := by
      obtain ⟨around, format⟩ := Bool.and_eq_true_iff.mp minded
      exact ⟨isWatched_iff.mpr around, format⟩
    by_cases here : q.same p = true
    · -- Whatever was pending at this place has been replaced.
      have gone : ∀ f : PendingFile, f.path.same p = true → f.path.same q = true :=
        fun f same => FilePath.same_trans same (FilePath.same_symm here)
      simp only [here, (minds_of_same here).mp minds, true_and, not_true_eq_false, and_false,
        or_false]
      constructor
      · rintro ⟨f, hf, same, rfl⟩
        rcases List.mem_append.mp hf with old | new
        · have kept := (List.mem_filter.mp old).2
          rw [gone f same] at kept
          cases kept
        · obtain rfl := List.mem_singleton.mp new
          rfl
      · rintro rfl
        exact ⟨_, List.mem_append_right _ List.mem_cons_self, here, rfl⟩
    · simp only [here, Bool.false_eq_true, false_and, false_or, not_false_eq_true, and_true]
      constructor
      · rintro ⟨f, hf, same, due⟩
        rcases List.mem_append.mp hf with old | new
        · exact ⟨f, (List.mem_filter.mp old).1, same, due⟩
        · obtain rfl := List.mem_singleton.mp new
          exact absurd same here
      · rintro ⟨f, hf, same, due⟩
        refine ⟨f, List.mem_append_left _ (List.mem_filter.mpr ⟨hf, ?_⟩), same, due⟩
        rw [Bool.not_eq_true']
        exact Bool.eq_false_iff.mpr fun other =>
          here (FilePath.same_trans (FilePath.same_symm other) same)
  · next unminded =>
    have ignored : ¬(q.same p = true ∧ w.Minds p) := by
      rintro ⟨here, minds⟩
      obtain ⟨watched, format⟩ := (minds_of_same here).mpr minds
      exact unminded (Bool.and_eq_true_iff.mpr ⟨isWatched_iff.mp watched, format⟩)
    simp only [ignored, not_false_eq_true, and_true]
    refine ⟨.inr, ?_⟩
    rintro (⟨here, minds, -⟩ | pends)
    · exact absurd ⟨here, minds⟩ ignored
    · exact pends

theorem debounce_touch (w : Watches α) (now : Nat) (q : FilePath) :
    (w.touch now q).debounce = w.debounce := by
  unfold touch
  split <;> rfl

theorem debounce_observe (w : Watches α) (now : Nat) (files : FileTree) (e : FileEvent) :
    (w.observe now files e).debounce = w.debounce := by
  unfold observe
  generalize e.written files = written
  induction written generalizing w with
  | nil => rfl
  | cons q rest ih => rw [List.foldl_cons, ih, debounce_touch]

theorem minds_touch (w : Watches α) (now : Nat) (q : FilePath) :
    (w.touch now q).Minds p ↔ w.Minds p := by
  rw [Minds, Minds, IsWatched, IsWatched, directories_touch]

/-- After an event a file is pending with a new due time if the event counts as a write of it, and
as before otherwise. -/
theorem pends_observe (w : Watches α) (now : Nat) (files : FileTree) (e : FileEvent) :
    (w.observe now files e).Pends p t ↔
      (e.CountsFor files p ∧ w.Minds p ∧ t = now + w.debounce) ∨
        (w.Pends p t ∧ ¬(e.CountsFor files p ∧ w.Minds p)) := by
  rw [FileEvent.countsFor_iff]
  unfold observe
  generalize e.written files = written
  induction written generalizing w with
  | nil => simp
  | cons q rest ih =>
    have either : (∃ r ∈ q :: rest, r.same p = true) ↔
        q.same p = true ∨ ∃ r ∈ rest, r.same p = true := by simp
    rw [List.foldl_cons, ih, pends_touch, minds_touch, debounce_touch, either]
    by_cases minds : w.Minds p
    · by_cases later : ∃ r ∈ rest, r.same p = true
      · simp [minds, later]
      · simp [minds, later]
    · simp [minds]

/-! ## Flushes -/

theorem pends_flush (w : Watches α) (now : Nat) :
    (w.flush now).2.Pends p t ↔ w.Pends p t ∧ now < t := by
  constructor
  · rintro ⟨f, hf, same, rfl⟩
    obtain ⟨mem, later⟩ := List.mem_filter.mp hf
    exact ⟨⟨f, mem, same, rfl⟩, of_decide_eq_true later⟩
  · rintro ⟨⟨f, hf, same, rfl⟩, later⟩
    exact ⟨f, List.mem_filter.mpr ⟨hf, decide_eq_true later⟩, same, rfl⟩

/-- The subscriptions that wait for a file, as a flush finds them. -/
def subscribers (w : Watches α) (p : FilePath) : List (Subscription α) :=
  match w.around? p, p.stem? with
  | some d, some stem => d.subscriptions.filter fun s => s.identifier == stem
  | _, _ => []

theorem targets_eq (w : Watches α) (p : FilePath) :
    w.targets p = (w.subscribers p).map Subscription.target := by
  unfold targets subscribers
  cases w.around? p with
  | none => rfl
  | some d => cases p.stem? <;> rfl

theorem IsSound.mem_subscribers (h : w.IsSound) {s : Subscription α} :
    s ∈ w.subscribers p ↔ w.Waits p s := by
  unfold subscribers
  constructor
  · intro mem
    split at mem
    · next d stem around here =>
      obtain ⟨hd, isIn⟩ := mem_of_around? around
      obtain ⟨hs, named⟩ := List.mem_filter.mp mem
      exact ⟨d, hd, isIn, hs, by rw [here, beq_iff_eq.mp named]⟩
    · cases mem
  · rintro ⟨d, hd, isIn, hs, here⟩
    rw [h.around?_eq hd isIn, here]
    exact List.mem_filter.mpr ⟨hs, beq_self_eq_true _⟩

/-- At most one subscription waits for a file. -/
theorem IsSound.length_subscribers_le (h : w.IsSound) (p : FilePath) :
    (w.subscribers p).length ≤ 1 := by
  unfold subscribers
  split
  · next d stem around here =>
    have once : ((d.subscriptions.filter fun s => s.identifier == stem).map
        Subscription.identifier).Nodup :=
      (h.once d (mem_of_around? around).1).sublist (List.filter_sublist.map _)
    have alike : ∀ i ∈ (d.subscriptions.filter fun s => s.identifier == stem).map
        Subscription.identifier, i = stem := by
      intro i hi
      obtain ⟨s, hs, rfl⟩ := List.mem_map.mp hi
      exact beq_iff_eq.mp (List.mem_filter.mp hs).2
    rw [List.eq_replicate_of_mem alike, List.nodup_replicate, List.length_map] at once
    exact once
  · exact Nat.zero_le 1

/-- The calls of a flush: the files whose time has come, each with its subscribers. -/
def ringing (w : Watches α) (now : Nat) : List (FilePath × Subscription α) :=
  (w.ripe now).flatMap fun p => (w.subscribers p).map fun s => (p, s)

theorem targets_flush (w : Watches α) (now : Nat) :
    (w.flush now).1 = (w.ringing now).map fun c => c.2.target := by
  simp only [flush, ringing, List.map_flatMap, List.map_map]
  congr 1
  funext p
  exact targets_eq w p

/-- A call is made for a file whose time has come, to a subscription that waits for it. -/
theorem IsSound.mem_ringing (h : w.IsSound) {now : Nat} {s : Subscription α} :
    (∃ c ∈ w.ringing now, c.1.same p = true ∧ c.2 = s) ↔
      (∃ due ≤ now, w.Pends p due) ∧ w.Waits p s := by
  have waits_of_same : ∀ q : FilePath, q.same p = true → (w.Waits q s ↔ w.Waits p s) := by
    intro q same
    simp only [Waits, FilePath.isIn_of_same same, FilePath.stem?_of_same same]
  constructor
  · rintro ⟨c, hc, same, rfl⟩
    obtain ⟨q, hq, called⟩ := List.mem_flatMap.mp hc
    obtain ⟨s, hs, rfl⟩ := List.mem_map.mp called
    obtain ⟨f, hf, rfl⟩ := List.mem_map.mp hq
    obtain ⟨mem, due⟩ := List.mem_filter.mp hf
    exact ⟨⟨f.due, of_decide_eq_true due, f, mem, same, rfl⟩,
      (waits_of_same _ same).mp (h.mem_subscribers.mp hs)⟩
  · rintro ⟨⟨due, past, f, hf, same, rfl⟩, waits⟩
    refine ⟨(f.path, s), List.mem_flatMap.mpr ⟨f.path, ?_, ?_⟩, same, rfl⟩
    · exact List.mem_map_of_mem (List.mem_filter.mpr ⟨hf, decide_eq_true past⟩)
    · exact List.mem_map_of_mem (h.mem_subscribers.mpr ((waits_of_same _ same).mpr waits))

/-- Of each file there is at most one call. -/
theorem IsSound.nodup_ringing (h : w.IsSound) (now : Nat) :
    ((w.ringing now).map fun c => c.1.place).Nodup := by
  have apart : ((w.ripe now).map FilePath.place).Nodup := by
    rw [ripe, List.map_map]
    exact h.single.sublist (List.filter_sublist.map _)
  refine apart.sublist ?_
  unfold ringing
  induction w.ripe now with
  | nil => exact List.Sublist.slnil
  | cons q rest ih =>
    rw [List.flatMap_cons, List.map_append, List.map_map, List.map_cons, ← List.singleton_append]
    refine List.Sublist.append ?_ ih
    have bound := h.length_subscribers_le q
    match w.subscribers q, bound with
    | [], _ => exact List.nil_sublist _
    | [s], _ => exact List.Sublist.refl _

/-! ## Requests -/

theorem pending_subscribe (w : Watches α) (os : DirectoryWatch) (path : FilePath)
    (s : Subscription α) : (w.subscribe os path s).2.pending = w.pending := by
  unfold subscribe
  split
  · split <;> rfl
  · dsimp only
    split <;> rfl

theorem debounce_subscribe (w : Watches α) (os : DirectoryWatch) (path : FilePath)
    (s : Subscription α) : (w.subscribe os path s).2.debounce = w.debounce := by
  unfold subscribe
  split
  · split <;> rfl
  · dsimp only
    split <;> rfl

/-- Whoever leaves, the directory is given up, or nothing but its subscribers changes. -/
theorem unsubscribe_or (w : Watches α) (os : DirectoryWatch) (path : FilePath) (bot : BotType)
    (identifier : Option String) :
    (w.unsubscribe os path bot identifier).2 = (w.abandon os path).2 ∨
      ∃ directories, (w.unsubscribe os path bot identifier).2 = { w with directories } := by
  unfold unsubscribe
  split
  · refine .inr ⟨w.directories, ?_⟩
    cases identifier <;> rfl
  · dsimp only
    split
    · exact .inr ⟨w.directories, rfl⟩
    · split
      · exact .inl rfl
      · exact .inr ⟨_, rfl⟩

/-- Pending files are only dropped with the directory around them. -/
theorem mem_pending_answer {base : FilePath} {os : DirectoryWatch} {r : WatchRequest α}
    {f : PendingFile} :
    (f ∈ (r.answer base os w).2.pending → f ∈ w.pending) ∧
      ((r.answer base os w).2.IsWatched f.path → f ∈ w.pending →
        f ∈ (r.answer base os w).2.pending) := by
  have leave : ∀ path bot identifier,
      (f ∈ (w.unsubscribe os path bot identifier).2.pending → f ∈ w.pending) ∧
        ((w.unsubscribe os path bot identifier).2.IsWatched f.path → f ∈ w.pending →
          f ∈ (w.unsubscribe os path bot identifier).2.pending) := by
    intro path bot identifier
    rcases w.unsubscribe_or os path bot identifier with given_up | ⟨directories, left⟩
    · rw [given_up, abandon_eq]
      refine ⟨fun mem => (List.mem_filter.mp mem).1, ?_⟩
      rintro ⟨d, hd, isIn⟩ mem
      have other := (List.mem_filter.mp hd).2
      refine List.mem_filter.mpr ⟨mem, ?_⟩
      -- The file lies in a directory that has another place than the one given up.
      rw [Bool.not_eq_true'] at other ⊢
      refine Bool.eq_false_iff.mpr fun here => ?_
      rw [FilePath.same_of_isIn isIn here] at other
      cases other
    · rw [left]
      exact ⟨id, fun _ => id⟩
  cases r with
  | subscribe s =>
    rw [WatchRequest.answer, pending_subscribe]
    exact ⟨id, fun _ => id⟩
  | unsubscribe bot identifier => exact leave _ bot (some identifier)
  | unwatch bot => exact leave _ bot none

/-- Whoever comes or goes, a file is pending as before as long as its directory is watched. -/
theorem IsSound.pends_answer (h : w.IsSound) (base : FilePath) (os : DirectoryWatch)
    (r : WatchRequest α) :
    (r.answer base os w).2.Pends p t ↔ w.Pends p t ∧ (r.answer base os w).2.IsWatched p := by
  have watched_of_same : ∀ q : FilePath, q.same p = true →
      ((r.answer base os w).2.IsWatched q ↔ (r.answer base os w).2.IsWatched p) := by
    intro q same
    simp only [IsWatched, FilePath.isIn_of_same same]
  constructor
  · intro pends
    refine ⟨?_, ((h.answer base os r).minds_of_pends pends).1⟩
    obtain ⟨f, hf, same, due⟩ := pends
    exact ⟨f, mem_pending_answer.1 hf, same, due⟩
  · rintro ⟨⟨f, hf, same, due⟩, watched⟩
    exact ⟨f, mem_pending_answer.2 ((watched_of_same _ same).mpr watched) hf, same, due⟩

theorem debounce_answer (base : FilePath) (os : DirectoryWatch) (w : Watches α)
    (r : WatchRequest α) : (r.answer base os w).2.debounce = w.debounce := by
  have leave : ∀ path bot identifier,
      (w.unsubscribe os path bot identifier).2.debounce = w.debounce := by
    intro path bot identifier
    rcases w.unsubscribe_or os path bot identifier with given_up | ⟨directories, left⟩
    · rw [given_up, abandon_eq]
    · rw [left]
  cases r with
  | subscribe s => exact w.debounce_subscribe os _ s
  | unsubscribe bot identifier => exact leave _ bot (some identifier)
  | unwatch bot => exact leave _ bot none

end Watches

end Switchboard
