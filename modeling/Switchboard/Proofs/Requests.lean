import Switchboard.Proofs.WatchCalls

/-!
# What requests change

A request names a bot type, but subscriptions are kept by directory and identifier, and bot types
whose names differ in case only share a directory. So whoever leaves by an identifier takes the
subscription of that identifier along, also one of another bot type; whoever leaves as a bot type
takes exactly its own subscriptions along (`Watcher.unsubscribing_goes_by_directory`).

A request that is answered with an error changes neither the subscriptions nor the pending files,
with one exception: when the last subscribers leave a directory, it is given up before the operating
system is asked, and its refusal does not bring them back
(`Watcher.failed_requests_change_nothing_else`). `Watches.Leaving` says all that a request to leave
can do.
-/

namespace Switchboard

namespace Watches

variable {α : Type} {w : Watches α} {os : DirectoryWatch} {path : FilePath} {bot : BotType}
  {identifier : Option String} {r : Except WatchError Unit × Watches α} {s : Subscription α}

/-- The subscriptions at the place of a directory, the first comer first. -/
def subscriptionsAt (w : Watches α) (path : FilePath) : List (Subscription α) :=
  (w.directory? path).elim [] WatchedDirectory.subscriptions

theorem subscriptionsAt_of_directory? {d : WatchedDirectory α} (h : w.directory? path = some d) :
    w.subscriptionsAt path = d.subscriptions := by
  rw [subscriptionsAt, h, Option.elim_some]

theorem subscriptionsAt_of_missing (h : w.directory? path = none) :
    w.subscriptionsAt path = [] := by
  rw [subscriptionsAt, h, Option.elim_none]

theorem exists_of_mem_subscriptionsAt (h : s ∈ w.subscriptionsAt path) :
    ∃ d ∈ w.directories, d.path.same path = true ∧ s ∈ d.subscriptions := by
  cases found : w.directory? path with
  | none =>
    rw [subscriptionsAt_of_missing found] at h
    cases h
  | some d =>
    rw [subscriptionsAt_of_directory? found] at h
    obtain ⟨mem, same⟩ := mem_of_directory? found
    exact ⟨d, mem, same, h⟩

/-- At the place of one directory the subscriptions change, elsewhere they stay. -/
theorem subscriptionsAt_replace (found : (w.directory? path).isSome)
    (rest : List (Subscription α)) (other : FilePath) :
    ({ w with
        directories := w.directories.map fun d =>
          if d.path.same path then { d with subscriptions := rest } else d } :
      Watches α).subscriptionsAt other =
        if other.same path then rest else w.subscriptionsAt other := by
  have searched : ({ w with
      directories := w.directories.map fun d =>
        if d.path.same path then { d with subscriptions := rest } else d } :
      Watches α).directory? other = (w.directory? other).map fun d =>
        if d.path.same path then { d with subscriptions := rest } else d := by
    unfold directory?
    rw [List.find?_map]
    congr 2
    funext d
    dsimp only [Function.comp]
    split <;> rfl
  rw [subscriptionsAt, searched]
  cases there : w.directory? other with
  | none =>
    have apart : ¬other.same path = true := by
      intro same
      obtain ⟨p, hp, here⟩ := isSome_directory?.mp found
      have some_there : (w.directory? other).isSome := isSome_directory?.mpr
        ⟨p, hp, FilePath.same_trans here (FilePath.same_symm same)⟩
      rw [there] at some_there
      cases some_there
    rw [if_neg apart, subscriptionsAt_of_missing there]
    rfl
  | some d =>
    have here := (mem_of_directory? there).2
    rw [Option.map_some, Option.elim_some, FilePath.same_congr here path,
      subscriptionsAt_of_directory? there]
    split <;> rfl

theorem subscriptionsAt_abandon (w : Watches α) (os : DirectoryWatch) (path other : FilePath) :
    (w.abandon os path).2.subscriptionsAt other =
      if other.same path then [] else w.subscriptionsAt other := by
  rw [abandon_eq]
  unfold subscriptionsAt directory?
  dsimp only
  rw [List.find?_filter]
  split
  · next same =>
    rw [List.find?_eq_none.mpr]
    · rfl
    · intro d _ both
      obtain ⟨apart, here⟩ := of_decide_eq_true both
      rw [FilePath.same_trans here same] at apart
      cases apart
  · next apart =>
    congr 2
    funext d
    by_cases here : d.path.same other = true
    · have kept : d.path.same path = false :=
        Bool.eq_false_iff.mpr fun same => apart
          (FilePath.same_trans (FilePath.same_symm here) same)
      simp [here, kept]
    · simp [here]

/-! ## Requests to leave -/

/-- All that a request to leave a directory can do. -/
inductive Leaving (w : Watches α) (os : DirectoryWatch) (path : FilePath) (bot : BotType) :
    Option String → Except WatchError Unit × Watches α → Prop
  /-- Nobody waits for the file of the identifier. -/
  | unknown (i : String) (free : ∀ s ∈ w.subscriptionsAt path, s.identifier ≠ i) :
    Leaving w os path bot (some i) (.error (.notFound bot i), w)
  /-- Nobody is there. -/
  | nobody (missing : w.directory? path = none) : Leaving w os path bot none (.ok (), w)
  /-- All that are there leave, and the directory is given up. -/
  | everybody {identifier : Option String} (there : (w.directory? path).isSome)
    (known : ∀ i, identifier = some i → ∃ s ∈ w.subscriptionsAt path, s.identifier = i)
    (empty : staying (w.subscriptionsAt path) bot identifier = []) :
    Leaving w os path bot identifier (w.abandon os path)
  /-- Some stay. -/
  | somebody {identifier : Option String} (there : (w.directory? path).isSome)
    (known : ∀ i, identifier = some i → ∃ s ∈ w.subscriptionsAt path, s.identifier = i)
    (left : staying (w.subscriptionsAt path) bot identifier ≠ []) :
    Leaving w os path bot identifier (.ok (), { w with
      directories := w.directories.map fun d =>
        if d.path.same path then
          { d with subscriptions := staying (w.subscriptionsAt path) bot identifier }
        else d })

theorem leaving_unsubscribe (w : Watches α) (os : DirectoryWatch) (path : FilePath) (bot : BotType)
    (identifier : Option String) :
    w.Leaving os path bot identifier (w.unsubscribe os path bot identifier) := by
  unfold unsubscribe
  cases found : w.directory? path with
  | none =>
    cases identifier with
    | none => exact .nobody found
    | some i => exact .unknown i (by simp [subscriptionsAt_of_missing found])
  | some d =>
    have there : (w.directory? path).isSome := by rw [found]; rfl
    dsimp only
    rw [← subscriptionsAt_of_directory? found]
    -- All but the answer to an unknown identifier is the same with and without one.
    have leave : (∀ i, identifier = some i → ∃ s ∈ w.subscriptionsAt path, s.identifier = i) →
        w.Leaving os path bot identifier
          (if (staying (w.subscriptionsAt path) bot identifier).isEmpty then w.abandon os path
          else (.ok (), { w with
            directories := w.directories.map fun d =>
              if d.path.same path then
                { d with subscriptions := staying (w.subscriptionsAt path) bot identifier }
              else d })) := by
      intro known
      split
      · next empty => exact .everybody there known (List.isEmpty_iff.mp empty)
      · next left => exact .somebody there known fun empty => left (List.isEmpty_iff.mpr empty)
    cases identifier with
    | none => exact leave nofun
    | some i =>
      cases everyone : (staying (w.subscriptionsAt path) bot (some i)).length ==
          (w.subscriptionsAt path).length with
      | true =>
        refine .unknown i fun s hs => ?_
        have kept := List.length_filter_eq_length_iff.mp (beq_iff_eq.mp everyone) s hs
        simpa using kept
      | false =>
        refine leave fun j same => ?_
        cases same
        by_contra free
        refine beq_eq_false_iff_ne.mp everyone (List.length_filter_eq_length_iff.mpr ?_)
        intro s hs
        simpa using fun same => free ⟨s, hs, same⟩

/-- Who stays, whatever the answer is. -/
theorem Leaving.subscriptionsAt (h : w.Leaving os path bot identifier r) (other : FilePath) :
    r.2.subscriptionsAt other =
      if other.same path then staying (w.subscriptionsAt path) bot identifier
      else w.subscriptionsAt other := by
  have unchanged : staying (w.subscriptionsAt path) bot identifier = w.subscriptionsAt path →
      w.subscriptionsAt other =
        if other.same path then staying (w.subscriptionsAt path) bot identifier
        else w.subscriptionsAt other := by
    intro all
    split
    · next same => rw [all, Watches.subscriptionsAt, directory?_of_same same]; rfl
    · rfl
  cases h with
  | unknown i free =>
    exact unchanged (List.filter_eq_self.mpr fun s hs => by simpa using free s hs)
  | nobody missing =>
    refine unchanged ?_
    rw [subscriptionsAt_of_missing missing]
    rfl
  | everybody there known empty => rw [subscriptionsAt_abandon, empty]
  | somebody there known left => exact subscriptionsAt_replace there _ other

/-! ## Where subscriptions are -/

/-- Every subscription is in the directory of its bot type. -/
def IsHoused (base : FilePath) (w : Watches α) : Prop :=
  ∀ d ∈ w.directories, ∀ s ∈ d.subscriptions,
    d.path.same (Source.directoryFor base s.botType) = true

theorem IsHoused.of_mem {base : FilePath} (h : w.IsHoused base) (hs : s ∈ w.subscriptionsAt path) :
    path.same (Source.directoryFor base s.botType) = true := by
  obtain ⟨d, hd, same, mem⟩ := exists_of_mem_subscriptionsAt hs
  exact FilePath.same_trans (FilePath.same_symm same) (h d hd s mem)

theorem IsHoused.subscribe {base : FilePath} (h : w.IsHoused base) (os : DirectoryWatch)
    (s : Subscription α) :
    (w.subscribe os (Source.directoryFor base s.botType) s).2.IsHoused base := by
  unfold Watches.subscribe
  split
  · split
    · exact h
    · intro d hd t ht
      obtain ⟨e, he, rfl⟩ := List.mem_map.mp hd
      split at ht
      · next here =>
        rw [if_pos here]
        rcases List.mem_append.mp ht with old | new
        · exact h e he t old
        · rw [List.mem_singleton.mp new]
          exact here
      · next elsewhere =>
        rw [if_neg elsewhere]
        exact h e he t ht
  · dsimp only
    split
    · exact h
    · intro d hd t ht
      rcases List.mem_append.mp hd with old | new
      · exact h d old t ht
      · obtain rfl := List.mem_singleton.mp new
        rw [List.mem_singleton.mp ht]
        exact FilePath.same_refl _

theorem IsHoused.leaving {base : FilePath} (h : w.IsHoused base)
    (leaving : w.Leaving os path bot identifier r) : r.2.IsHoused base := by
  cases leaving with
  | unknown => exact h
  | nobody => exact h
  | everybody =>
    rw [abandon_eq]
    exact fun d hd => h d (List.mem_filter.mp hd).1
  | somebody =>
    intro d hd t ht
    obtain ⟨e, he, rfl⟩ := List.mem_map.mp hd
    split at ht
    · next here =>
      rw [if_pos here]
      have same := h.of_mem (List.mem_filter.mp ht).1
      exact FilePath.same_trans here same
    · next elsewhere =>
      rw [if_neg elsewhere]
      exact h e he t ht

/-- When all subscriptions are in the directories of their bot types, a bot type that leaves takes
its own along, wherever they are, and no others. -/
theorem IsHoused.unwatch {base : FilePath} (h : w.IsHoused base)
    (leaving : w.Leaving os (Source.directoryFor base bot) bot none r) (path : FilePath) :
    r.2.subscriptionsAt path = (w.subscriptionsAt path).filter fun s => s.botType ≠ bot := by
  rw [leaving.subscriptionsAt]
  split
  · next same =>
    rw [Watches.subscriptionsAt, Watches.subscriptionsAt, directory?_of_same same]
    rfl
  · next elsewhere =>
    symm
    rw [List.filter_eq_self]
    intro s hs
    refine decide_eq_true fun own => elsewhere ?_
    rw [← own]
    exact h.of_mem hs

/-- Whoever leaves by an identifier takes along what the directory has for it. -/
theorem Leaving.by_identifier {i : String} (h : w.Leaving os path bot (some i) r)
    (other : FilePath) :
    r.2.subscriptionsAt other =
      (w.subscriptionsAt other).filter fun s => ¬(other.same path ∧ s.identifier = i) := by
  rw [h.subscriptionsAt]
  split
  · next same =>
    rw [Watches.subscriptionsAt, Watches.subscriptionsAt, directory?_of_same same, same]
    refine List.filter_congr fun s _ => ?_
    simp
  · next elsewhere =>
    symm
    rw [List.filter_eq_self]
    intro s _
    simp [elsewhere]

theorem Leaving.notFound_iff {i : String} (h : w.Leaving os path bot (some i) r) :
    (r.1 = .error (.notFound bot i) ↔ ∀ s ∈ w.subscriptionsAt path, s.identifier ≠ i) ∧
      (r.1 = .error (.notFound bot i) → r.2 = w) := by
  cases h with
  | unknown _ free => exact ⟨iff_of_true rfl free, fun _ => rfl⟩
  | everybody _ known =>
    obtain ⟨s, hs, same⟩ := known i rfl
    have other : (w.abandon os path).1 ≠ .error (.notFound bot i) := by
      unfold abandon
      dsimp only
      split <;> simp
    exact ⟨iff_of_false other fun free => free s hs same, fun same => absurd same other⟩
  | somebody _ known =>
    obtain ⟨s, hs, same⟩ := known i rfl
    exact ⟨iff_of_false nofun fun free => free s hs same, nofun⟩

/-- Who leaves and is answered with an error has changed nothing, or was the last, and the operating
system does not release the directory. -/
theorem IsSound.of_failed_leaving {e : WatchError} (h : w.IsSound)
    (leaving : w.Leaving os path bot identifier r) (failed : r.1 = .error e) :
    (r.2.directories = w.directories ∧ r.2.pending = w.pending) ∨
      ∃ reason, w.subscriptionsAt path ≠ [] ∧
        staying (w.subscriptionsAt path) bot identifier = [] ∧
        os.remove path = some reason ∧ e = .notify reason ∧
        r.2.directories = w.directories.filter (fun d => !d.path.same path) ∧
        r.2.pending = w.pending.filter fun f => !f.path.isIn path := by
  cases leaving with
  | unknown => exact .inl ⟨rfl, rfl⟩
  | nobody => cases failed
  | somebody => cases failed
  | everybody there _ empty =>
    obtain ⟨d, found⟩ := Option.isSome_iff_exists.mp there
    have someone : w.subscriptionsAt path ≠ [] := by
      rw [subscriptionsAt_of_directory? found]
      exact h.wanted d (mem_of_directory? found).1
    rw [abandon_eq]
    unfold Watches.abandon at failed
    cases answer : os.remove path with
    | none =>
      rw [answer] at failed
      cases failed
    | some reason =>
      rw [answer] at failed
      cases failed
      exact .inr ⟨reason, someone, empty, rfl, rfl, rfl, rfl⟩

/-- A subscription that is refused leaves the subscriptions and the pending files as they are. -/
theorem subscribe_of_error {e : WatchError} (failed : (w.subscribe os path s).1 = .error e) :
    (w.subscribe os path s).2.directories = w.directories ∧
      (w.subscribe os path s).2.pending = w.pending := by
  unfold subscribe at failed ⊢
  cases found : w.directory? path with
  | some d =>
    rw [found] at failed
    dsimp only at failed ⊢
    split
    · exact ⟨rfl, rfl⟩
    · next fresh =>
      rw [if_neg fresh] at failed
      cases failed
  | none =>
    rw [found] at failed
    dsimp only at failed ⊢
    split
    · exact ⟨rfl, rfl⟩
    · next accepted =>
      rw [accepted] at failed
      cases failed

theorem IsSound.nodup_subscriptionsAt (h : w.IsSound) (path : FilePath) :
    ((w.subscriptionsAt path).map Subscription.identifier).Nodup := by
  cases found : w.directory? path with
  | none =>
    rw [subscriptionsAt_of_missing found]
    exact List.nodup_nil
  | some d =>
    rw [subscriptionsAt_of_directory? found]
    exact h.once d (mem_of_directory? found).1

end Watches

/-- By a request the last subscribers of a directory leave it. -/
inductive WatchRequest.Empties {α : Type} (base : FilePath) (w : Watches α) :
    WatchRequest α → FilePath → Prop
  | unsubscribe (bot : BotType) (i : String)
    (someone : w.subscriptionsAt (Source.directoryFor base bot) ≠ [])
    (last : ∀ s ∈ w.subscriptionsAt (Source.directoryFor base bot), s.identifier = i) :
    Empties base w (.unsubscribe bot i) (Source.directoryFor base bot)
  | unwatch (bot : BotType) (someone : w.subscriptionsAt (Source.directoryFor base bot) ≠ [])
    (last : ∀ s ∈ w.subscriptionsAt (Source.directoryFor base bot), s.botType = bot) :
    Empties base w (.unwatch bot) (Source.directoryFor base bot)

namespace Watcher

variable {α : Type} {w : Watcher α}

theorem base_act (w : Watcher α) (os : DirectoryWatch) (files : FileTree) (now : Nat) :
    (w.act os files now).1.base = w.base := by
  unfold act
  split
  · rfl
  · split <;> rfl

theorem IsHoused.act (h : w.watches.IsHoused w.base) (os : DirectoryWatch) (files : FileTree)
    (now : Nat) : (w.act os files now).1.watches.IsHoused w.base := by
  unfold Watcher.act
  split
  · exact fun d hd => absurd hd List.not_mem_nil
  · split
    · exact h
    · rw [Watches.IsHoused, Watches.directories_observe]
      exact h
    · exact h

/-- Every move keeps the subscriptions in the directories of their bot types. -/
theorem isHoused_move (h : w.watches.IsHoused w.base) (m : Move α) :
    (w.move m).base = w.base ∧ (w.move m).watches.IsHoused w.base := by
  cases m with
  | request os r =>
    cases hc : w.isCancelled with
    | true => rw [move, serve_of_cancelled hc]; exact ⟨rfl, h⟩
    | false =>
      rw [move, serve_of_running hc]
      refine ⟨rfl, ?_⟩
      cases r with
      | subscribe s => exact h.subscribe os s
      | unsubscribe bot i => exact h.leaving (w.watches.leaving_unsubscribe os _ bot (some i))
      | unwatch bot => exact h.leaving (w.watches.leaving_unsubscribe os _ bot none)
  | report r =>
    rw [move, deliver]
    split <;> exact ⟨rfl, h⟩
  | act os files now => exact ⟨base_act w os files now, IsHoused.act h os files now⟩
  | cancel => exact ⟨rfl, h⟩

theorem isHoused_run (h : w.watches.IsHoused w.base) (moves : List (Move α)) :
    (w.run moves).base = w.base ∧ (w.run moves).watches.IsHoused w.base := by
  induction moves generalizing w with
  | nil => exact ⟨rfl, h⟩
  | cons m rest ih =>
    obtain ⟨base, housed⟩ := isHoused_move h m
    obtain ⟨later, still⟩ := ih (w := w.move m) (base ▸ housed)
    exact ⟨later.trans base, base ▸ still⟩

/-- **Whoever unsubscribes leaves by directory and identifier.** In every state of a watcher, a bot
type that is no longer watched loses exactly its own subscriptions. Unsubscribing an identifier
removes exactly what the directory of the bot type has for that identifier, at most one
subscription, and is answered that there is none just if there is none, with nothing changed. If no
other bot type of the directory has subscribed for the identifier, that is exactly the subscription
made with this bot type and identifier. After the watcher was cancelled nothing is removed. -/
theorem unsubscribing_goes_by_directory (base : FilePath) (debounce : Nat) (moves : List (Move α))
    (os : DirectoryWatch) (bot : BotType) :
    let w := (ofBase base debounce : Watcher α).run moves
    let dir := w.directoryFor bot
    (w.isCancelled = true → w.unwatch os bot = (.error .notRunning, w) ∧
      ∀ i, w.unsubscribe os bot i = (.error .notRunning, w)) ∧
    (w.isCancelled = false →
      (∀ path, (w.unwatch os bot).2.watches.subscriptionsAt path =
        (w.watches.subscriptionsAt path).filter fun s => s.botType ≠ bot) ∧
      ∀ i, let r := w.unsubscribe os bot i
        (r.1 = .error (.notFound bot i) ↔
          ∀ s ∈ w.watches.subscriptionsAt dir, s.identifier ≠ i) ∧
        (r.1 = .error (.notFound bot i) → r.2 = w) ∧
        (∀ path, r.2.watches.subscriptionsAt path =
          (w.watches.subscriptionsAt path).filter fun s =>
            ¬(path.same dir ∧ s.identifier = i)) ∧
        (∀ s ∈ w.watches.subscriptionsAt dir, ∀ t ∈ w.watches.subscriptionsAt dir,
          s.identifier = i → t.identifier = i → s = t) ∧
        ((∀ s ∈ w.watches.subscriptionsAt dir, s.identifier = i → s.botType = bot) →
          ∀ path, r.2.watches.subscriptionsAt path =
            (w.watches.subscriptionsAt path).filter fun s =>
              ¬(s.botType = bot ∧ s.identifier = i))) := by
  intro w dir
  have sound : w.watches.IsSound := isSound_run (isSound_ofBase base debounce) moves
  obtain ⟨same_base, housed⟩ :=
    isHoused_run (w := (ofBase base debounce : Watcher α)) (fun d hd => absurd hd List.not_mem_nil)
      moves
  rw [← same_base] at housed
  refine ⟨fun cancelled => ?_, fun running => ⟨fun path => ?_, fun i => ?_⟩⟩
  · exact ⟨serve_of_cancelled cancelled os (.unwatch bot),
      fun i => serve_of_cancelled cancelled os (.unsubscribe bot i)⟩
  · have served : w.unwatch os bot = _ := serve_of_running running os (.unwatch bot)
    rw [served]
    exact housed.unwatch (w.watches.leaving_unsubscribe os _ bot none) path
  · have served : w.unsubscribe os bot i = _ := serve_of_running running os (.unsubscribe bot i)
    have leaving := Watches.leaving_unsubscribe w.watches os dir bot (some i)
    have removed := leaving.by_identifier
    obtain ⟨notFound, unchanged⟩ := leaving.notFound_iff
    intro r
    refine ⟨?_, fun unknown => ?_, fun path => ?_, ?_, fun own path => ?_⟩
    · rw [show r = _ from served]
      exact notFound
    · rw [show r = _ from served] at unknown ⊢
      dsimp only
      rw [show ((WatchRequest.unsubscribe bot i).answer w.base os w.watches).2 = w.watches from
        unchanged unknown]
    · rw [show r = _ from served]
      exact removed path
    · intro s hs t ht hi hj
      exact List.inj_on_of_nodup_map (sound.nodup_subscriptionsAt dir) hs ht (hi.trans hj.symm)
    · rw [show r = _ from served]
      refine (removed path).trans (List.filter_congr fun s hs => decide_eq_decide.mpr ?_)
      refine not_congr (and_congr_left fun named => ?_)
      constructor
      · intro same
        rw [Watches.subscriptionsAt, Watches.directory?_of_same same] at hs
        exact own s hs named
      · rintro rfl
        exact housed.of_mem hs

/-- **An error means that nothing has changed, but for one.** In every state of a watcher, for every
request and every answer of the operating system: if the request is answered with an error, the
subscriptions of all directories and the pending files are as before. The exception is a directory
whose last subscribers leave and that the operating system does not release: it is given up all the
same, with its pending files, and nothing else changes. -/
theorem failed_requests_change_nothing_else (base : FilePath) (debounce : Nat)
    (moves : List (Move α)) (os : DirectoryWatch) (r : WatchRequest α) (e : WatchError)
    (failed : (((ofBase base debounce : Watcher α).run moves).serve os r).1 = .error e) :
    let w := ((ofBase base debounce : Watcher α).run moves)
    let v := (w.serve os r).2.watches
    (v.directories = w.watches.directories ∧ v.pending = w.watches.pending) ∨
      ∃ dir reason, r.Empties w.base w.watches dir ∧ os.remove dir = some reason ∧
        e = .notify reason ∧
        v.directories = w.watches.directories.filter (fun d => !d.path.same dir) ∧
        v.pending = w.watches.pending.filter fun f => !f.path.isIn dir := by
  intro w v
  have sound : w.watches.IsSound := isSound_run (isSound_ofBase base debounce) moves
  cases hc : w.isCancelled with
  | true =>
    have served : w.serve os r = _ := serve_of_cancelled hc os r
    exact .inl ⟨by rw [show v = _ from congrArg (·.2.watches) served],
      by rw [show v = _ from congrArg (·.2.watches) served]⟩
  | false =>
    have served : w.serve os r = _ := serve_of_running hc os r
    rw [show v = _ from congrArg (·.2.watches) served]
    have answered : (r.answer w.base os w.watches).1 = .error e :=
      (congrArg Prod.fst served).symm.trans failed
    cases r with
    | subscribe s => exact .inl (Watches.subscribe_of_error answered)
    | unsubscribe bot i =>
      have leaving := w.watches.leaving_unsubscribe os (w.directoryFor bot) bot (some i)
      refine (sound.of_failed_leaving leaving answered).imp_right ?_
      rintro ⟨reason, someone, empty, rest⟩
      refine ⟨_, reason, .unsubscribe bot i someone fun s hs => ?_, rest⟩
      simpa using List.filter_eq_nil_iff.mp empty s hs
    | unwatch bot =>
      have leaving := w.watches.leaving_unsubscribe os (w.directoryFor bot) bot none
      refine (sound.of_failed_leaving leaving answered).imp_right ?_
      rintro ⟨reason, someone, empty, rest⟩
      refine ⟨_, reason, .unwatch bot someone fun s hs => ?_, rest⟩
      simpa using List.filter_eq_nil_iff.mp empty s hs

/-! ## Two bot types that share a directory -/

namespace Namesakes

def loud : BotType := ⟨"Slack"⟩

def plain : BotType := ⟨"slack"⟩

/-- Each of the two subscribes for an identifier of its own. -/
def moves : List (Move Unit) :=
  [.request {} (.subscribe ⟨loud, "weather", ()⟩), .request {} (.subscribe ⟨plain, "echo", ()⟩)]

def watcher : Watcher Unit := (ofBase ⟨"/conf"⟩ 10).run moves

/-- Who has subscribed in the directory of both, and for what. -/
def names (w : Watcher Unit) : List (BotType × String) :=
  (w.watches.subscriptionsAt ⟨"/conf/slack"⟩).map fun s => (s.botType, s.identifier)

end Namesakes

open Namesakes in
/-- A bot type that is no longer watched leaves those of the other alone, and one that unsubscribes
its own identifier too. -/
theorem only_own_subscriptions_leave :
    names watcher = [(loud, "weather"), (plain, "echo")] ∧
      names (watcher.unwatch {} plain).2 = [(loud, "weather")] ∧
      names (watcher.unsubscribe {} plain "echo").2 = [(loud, "weather")] := by
  obtain ⟨-, running⟩ := unsubscribing_goes_by_directory ⟨"/conf"⟩ 10 moves {} plain
  obtain ⟨unwatched, unsubscribed⟩ := running (by decide +kernel)
  refine ⟨by decide +kernel, ?_, ?_⟩
  · rw [names, watcher, unwatched]
    decide +kernel
  · rw [names, watcher, (unsubscribed "echo").2.2.1]
    decide +kernel

open Namesakes in
/-- A bot type that has not subscribed for an identifier unsubscribes it. It is not told that there
is no such subscription, and the one of another bot type is gone. -/
theorem subscription_of_namesake_is_removed :
    plain ≠ loud ∧ (plain, "weather") ∉ names watcher ∧ (loud, "weather") ∈ names watcher ∧
      (watcher.unsubscribe {} plain "weather").1.toOption = some () ∧
      names (watcher.unsubscribe {} plain "weather").2 = [(plain, "echo")] := by
  decide +kernel

/-! ## Requests that fail -/

open Namesakes in
/-- A bot type subscribes for what another one of its directory waits for already. The request
fails, and nothing has changed. -/
theorem second_subscription_changes_nothing :
    (watcher.serve {} (.subscribe ⟨plain, "weather", ()⟩)).1 =
        .error (.alreadySubscribing plain "weather") ∧
      (watcher.serve {} (.subscribe ⟨plain, "weather", ()⟩)).2.watches.directories =
        watcher.watches.directories := by
  have failed : (watcher.serve {} (.subscribe ⟨plain, "weather", ()⟩)).1 =
      .error (.alreadySubscribing plain "weather") := by decide +kernel
  refine ⟨failed, ?_⟩
  rw [watcher] at failed ⊢
  rcases failed_requests_change_nothing_else ⟨"/conf"⟩ 10 moves {} _ _ failed with
    ⟨directories, -⟩ | ⟨dir, reason, empties, -⟩
  · exact directories
  · cases empties

open Namesakes in
/-- Both bot types leave, the second one while a file is pending. The operating system does not
release the directory, which is told as an error; but the subscription and the pending file are
gone. -/
theorem unreleased_directory_is_given_up :
    let w := watcher.run [.request {} (.unwatch loud),
      .report (.event ⟨.created, [⟨"/conf/slack/echo.yaml"⟩]⟩), .act {} {} 3]
    let busy : DirectoryWatch := { remove := fun _ => some "busy" }
    names w = [(plain, "echo")] ∧ w.watches.pending = [⟨⟨"/conf/slack/echo.yaml"⟩, 13⟩] ∧
      (w.unsubscribe busy plain "echo").1 = .error (.notify "busy") ∧
      names (w.unsubscribe busy plain "echo").2 = [] ∧
      (w.unsubscribe busy plain "echo").2.watches.pending = [] := by
  decide +kernel

end Watcher

end Switchboard
