import Switchboard.Proofs.LaneMoves
import Switchboard.Proofs.Origins

/-!
# Executions of tasks

A worker that has begun to execute a task keeps the job in hand until it has been carried out
(`RunnerPlan.IsUnderway`), and what happens by its moves in the meantime is the story of this
execution and of nothing else: as far as it has got while the job is in hand, and the whole of it
when the worker puts the job down (`RunnerPlan.IsUnderway.story`). Whatever task is called is called
in such a story (`RunnerPlan.exists_of_isTaskCall`).
-/

namespace Switchboard

namespace Runner

variable {κ : Type} {r : Runner κ} {m : Move} {w k : Nat} {t : ScheduledTask} {s : Stage κ}

/-- Whether a move is the step of a worker. -/
def Move.isOf (w : Nat) : Move → Bool
  | .act (.worker v) => v == w
  | _ => false

theorem Move.isOf_iff : m.isOf w = true ↔ m = .act (.worker w) := by
  unfold Move.isOf
  split
  · simp
  · next other => exact ⟨fun h => (Bool.false_ne_true h).elim, fun h => absurd h (other w)⟩

end Runner

namespace RunnerPlan

variable {κ : Type} (p : RunnerPlan κ) (schedule : Nat → Runner.Move)

/-- A worker has had the job of a task in hand since it began it. -/
structure IsUnderway (b w : Nat) (t : ScheduledTask) (n : Nat) : Prop where
  begins : p.BeginsTask schedule b w t
  later : b ≤ n
  held : ∀ j, b < j → j ≤ n →
    ∃ k s, (p.start.after schedule j).pool.job? w = some ⟨.perform k t, s⟩ ∧ s ≠ .ready

/-- What happens by the moves of a worker, from one move up to another. -/
def doings (w b : Nat) : Nat → List (Happening κ)
  | 0 => []
  | n + 1 => doings w b n ++
      if b ≤ n ∧ (schedule n).isOf w = true then p.start.happens schedule n else []

variable {p schedule} {n b w k : Nat} {t : ScheduledTask} {s : Stage κ}

theorem doings_of_le (w : Nat) (h : n ≤ b) : p.doings schedule w b n = [] := by
  induction n with
  | zero => rfl
  | succ n ih =>
    rw [doings, ih (Nat.le_of_succ_le h), if_neg fun both => absurd both.1 (Nat.not_le.mpr h)]
    rfl

theorem doings_succ (later : b ≤ n) (acts : schedule n = .act (.worker w)) :
    p.doings schedule w b (n + 1) = p.doings schedule w b n ++ p.start.happens schedule n := by
  rw [doings, if_pos ⟨later, Runner.Move.isOf_iff.mpr acts⟩]

/-! ## Jobs in hand -/

/-- A worker that is not able to go on does nothing. -/
theorem after_of_unable (acts : schedule n = .act (.worker w))
    (unable : (p.start.after schedule n).workerIsAble w = false) :
    p.start.after schedule (n + 1) = p.start.after schedule n := by
  rw [Runner.after, acts]
  exact if_neg (by rw [Runner.able, unable]; exact Bool.false_ne_true)

theorem happens_of_unable (acts : schedule n = .act (.worker w))
    (unable : (p.start.after schedule n).workerIsAble w = false) :
    p.start.happens schedule n = [] := by
  rw [Runner.happens, after_of_unable acts unable, List.drop_length]

/-- What becomes of the job of a task that a worker has in hand: the worker goes on with it, or it
does nothing. -/
theorem hands_after (going : ∀ m < n, schedule m ≠ .cancel)
    (hands : (p.start.after schedule n).pool.job? w = some ⟨.perform k t, s⟩) :
    (∃ next, schedule n = .act (.worker w) ∧
      (p.start.after schedule n).TaskLabour k t s next (p.start.happens schedule n) ∧
      (p.start.after schedule (n + 1)).pool.job? w =
        next.map fun s => ⟨.perform k t, s⟩) ∨
    (p.start.after schedule (n + 1)).pool.job? w = some ⟨.perform k t, s⟩ ∧
      (schedule n = .act (.worker w) → (p.start.after schedule n).workerIsAble w = false) := by
  obtain ⟨orderly, fit⟩ := p.isOrderly_after schedule n
  have other : schedule n ≠ .act (.worker w) →
      (p.start.after schedule (n + 1)).pool.job? w = some ⟨.perform k t, s⟩ :=
    fun h => (Runner.job?_move orderly fit h).trans hands
  cases taskMove_after going with
  | aside works silent idle =>
    by_cases acts : schedule n = .act (.worker w)
    · have unable : (p.start.after schedule n).workerIsAble w = false :=
        Bool.eq_false_iff.mpr fun able => idle w k t s acts able hands
      exact .inr ⟨after_of_unable acts unable ▸ hands, fun _ => unable⟩
    · exact .inr ⟨other acts, fun h => absurd h acts⟩
  | comes k' u firing =>
    have acts : schedule n ≠ .act (.worker w) := by
      intro h
      rw [h] at firing
      cases firing
    exact .inr ⟨other acts, fun h => absurd h acts⟩
  | labours v k' u s' next rest acts hands' done _ _ pool =>
    by_cases own : w = v
    · subst own
      rw [hands] at hands'
      cases hands'
      refine .inl ⟨next, acts, done, ?_⟩
      rw [pool, Runner.job?_putDown_self hands]
    · have apart : schedule n ≠ .act (.worker w) := by
        rw [acts]
        rintro ⟨⟩
        exact own rfl
      exact .inr ⟨other apart, fun h => absurd h apart⟩

/-- A job that has been begun was in the same hands before. -/
theorem exists_hands_before
    (hands : (p.start.after schedule (n + 1)).pool.job? w = some ⟨.perform k t, s⟩)
    (begun : s ≠ .ready) :
    ∃ s', (p.start.after schedule n).pool.job? w = some ⟨.perform k t, s'⟩ := by
  rcases Runner.isQuiet_or_workerMove (p.start.after schedule n) (schedule n) with
    quiet | ⟨v, acts, step⟩
  · exact ⟨s, (quiet.job? w).symm.trans hands⟩
  · by_cases own : w = v
    · subst own
      cases step with
      | handles u held handled =>
        obtain ⟨next, pool, same⟩ := handled
        rw [Runner.after, pool, Runner.job?_putDown_self held] at hands
        obtain ⟨job, stage⟩ := u
        obtain rfl : Job.perform k t = job := same _ hands
        exact ⟨stage, held⟩
      | leaves free _ pool =>
        rw [Runner.after, pool, Pool.job?_leave, free] at hands
        cases hands
      | takes free pool =>
        rw [Runner.after, pool] at hands
        exact absurd (p.isUnbegun_after schedule n _ (Pool.mem_untaken_of_take free hands)) begun
    · have apart : schedule n ≠ .act (.worker w) := by
        rw [acts]
        rintro ⟨⟩
        exact own rfl
      obtain ⟨orderly, fit⟩ := p.isOrderly_after schedule n
      exact ⟨s, (Runner.job?_move orderly fit apart).symm.trans hands⟩

theorem IsUnderway.succ (h : p.IsUnderway schedule b w t n)
    (hands : (p.start.after schedule (n + 1)).pool.job? w = some ⟨.perform k t, s⟩)
    (begun : s ≠ .ready) : p.IsUnderway schedule b w t (n + 1) := by
  refine ⟨h.begins, h.later.trans n.le_succ, fun j after upTo => ?_⟩
  rcases Nat.lt_succ_iff_lt_or_eq.mp (Nat.lt_succ_of_le upTo) with early | rfl
  · exact h.held j after (Nat.le_of_lt_succ early)
  · exact ⟨k, s, hands, begun⟩

/-- The begin of an execution, as far as it has got. -/
theorem BeginsTask.isUnderway (h : p.BeginsTask schedule b w t) : p.IsUnderway schedule b w t b :=
  ⟨h, le_rfl, fun _ after upTo => absurd upTo (Nat.not_le.mpr after)⟩

/-- A job of a task that has been begun was begun by the worker that has it in hand. -/
theorem exists_isUnderway (going : ∀ m < n, schedule m ≠ .cancel)
    (hands : (p.start.after schedule n).pool.job? w = some ⟨.perform k t, s⟩)
    (begun : s ≠ .ready) : ∃ b, p.IsUnderway schedule b w t n := by
  induction n generalizing s with
  | zero =>
    rw [Runner.after, p.start_spec.2.1] at hands
    cases hands
  | succ n ih =>
    have going' : ∀ m < n, schedule m ≠ .cancel := fun m hm => going m (hm.trans n.lt_succ_self)
    obtain ⟨s', before⟩ := exists_hands_before hands begun
    by_cases ready : s' = .ready
    · subst ready
      rcases hands_after going' before with ⟨next, acts, -, -⟩ | ⟨same, -⟩
      · have begins : p.BeginsTask schedule n w t := ⟨acts, k, before⟩
        exact ⟨n, begins.isUnderway.succ hands begun⟩
      · rw [hands] at same
        cases same
        exact absurd rfl begun
    · obtain ⟨b, h⟩ := ih going' before ready
      exact ⟨b, h.succ hands begun⟩

/-- Whatever task is called is called by a worker that has its job underway. -/
theorem exists_of_isTaskCall (going : ∀ m < n, schedule m ≠ .cancel) {e : Happening κ}
    (happens : e ∈ p.start.happens schedule n) (call : e.isTaskCall = true) :
    ∃ b w t, schedule n = .act (.worker w) ∧ p.IsUnderway schedule b w t n := by
  cases taskMove_after going with
  | aside _ silent =>
    rw [silent e happens] at call
    cases call
  | comes k t _ _ fired =>
    rw [fired] at happens
    rw [List.mem_singleton.mp happens] at call
    cases call
  | labours w k t s next rest acts hands =>
    by_cases ready : s = .ready
    · subst ready
      have begins : p.BeginsTask schedule n w t := ⟨acts, k, hands⟩
      exact ⟨n, w, t, acts, begins.isUnderway⟩
    · obtain ⟨b, h⟩ := exists_isUnderway going hands ready
      exact ⟨b, w, t, acts, h⟩

/-! ## Stories -/

/-- What has happened of an execution, and the stage to which it has come: whatever is owed from
there on makes it a whole story. -/
def Tells (p : RunnerPlan κ) (schedule : Nat → Runner.Move) (b w k : Nat) (t : ScheduledTask)
    (bot : Bot) (n : Nat) (es : List (Happening κ)) : Prop :=
  p.doings schedule w b n = .performed t.key :: es ∧
    ∃ s, (p.start.after schedule n).pool.job? w = some ⟨.perform k t, s⟩ ∧ s ≠ .ready ∧
      ∀ later, t.Owes bot (some s) later →
        t.Story bot (t.run ((p.start.after schedule b).taskCallOf t)).outcome (es ++ later)

variable {bot : Bot} {es : List (Happening κ)}

/-- Lanes keep their bots. -/
theorem bot_after (h : b ≤ n) (hb : (p.start.after schedule b).lanes[k]?.map Lane.bot = some bot) :
    ∃ l, (p.start.after schedule n).lanes[k]? = some l ∧ l.bot = bot := by
  have same := (Runner.isLater_after p.start schedule h).bot k
  exact Option.map_eq_some_iff.mp (same.trans hb)

theorem BeginsTask.tells (going : ∀ m < b, schedule m ≠ .cancel) (h : p.BeginsTask schedule b w t)
    (hands : (p.start.after schedule b).pool.job? w = some ⟨.perform k t, .ready⟩) (bot : Bot) :
    p.Tells schedule b w k t bot (b + 1) [] := by
  rcases hands_after going hands with ⟨next, acts, labour, after⟩ | ⟨-, unable⟩
  · obtain ⟨rfl, happens⟩ := labour.of_ready
    refine ⟨?_, _, after, by simp, fun later owed => ?_⟩
    · rw [doings_succ le_rfl acts, doings_of_le w le_rfl, happens]
      rfl
    · rwa [ScheduledTask.Owes, Execution.rest_start] at owed
  · have able := Runner.workerIsAble_of_ready hands
    rw [unable h.1] at able
    cases able

/-- A story goes on until it is whole. -/
theorem Tells.succ (h : p.Tells schedule b w k t bot n es) (later : b ≤ n)
    (going : ∀ m < n, schedule m ≠ .cancel)
    (hb : (p.start.after schedule b).lanes[k]?.map Lane.bot = some bot) :
    (∃ es', p.Tells schedule b w k t bot (n + 1) es') ∨
      (p.start.after schedule (n + 1)).pool.job? w = none ∧
      ∃ es', p.doings schedule w b (n + 1) = .performed t.key :: es' ∧
        t.Story bot (t.run ((p.start.after schedule b).taskCallOf t)).outcome es' := by
  obtain ⟨told, s, hands, begun, whole⟩ := h
  rcases hands_after going hands with ⟨next, acts, labour, after⟩ | ⟨after, unable⟩
  · obtain ⟨l, lane, rfl⟩ := bot_after later hb
    have notYet := (p.orders_after going).1
    have grown : p.doings schedule w b (n + 1) =
        .performed t.key :: (es ++ p.start.happens schedule n) := by
      rw [doings_succ later acts, told, List.cons_append]
    have owes : ∀ more, t.Owes l.bot next more →
        t.Owes l.bot (some s) (p.start.happens schedule n ++ more) :=
      fun more => labour.owes begun lane notYet
    cases next with
    | some s' =>
      refine .inl ⟨_, grown, s', after, labour.ne_ready, fun more owed => ?_⟩
      rw [List.append_assoc]
      exact whole _ (owes more owed)
    | none =>
      refine .inr ⟨after, _, grown, ?_⟩
      have all := whole _ (owes [] rfl)
      rwa [List.append_nil] at all
  · have same : p.doings schedule w b (n + 1) = p.doings schedule w b n := by
      by_cases acts : schedule n = .act (.worker w)
      · rw [doings_succ later acts, happens_of_unable acts (unable acts), List.append_nil]
      · have apart : ¬(b ≤ n ∧ (schedule n).isOf w = true) :=
          fun both => acts (Runner.Move.isOf_iff.mp both.2)
        rw [doings, if_neg apart, List.append_nil]
    exact .inl ⟨es, same.trans told, s, after, begun, whole⟩

theorem IsUnderway.tells (h : p.IsUnderway schedule b w t n) (later : b < n)
    (going : ∀ m < n, schedule m ≠ .cancel)
    (hands : (p.start.after schedule b).pool.job? w = some ⟨.perform k t, .ready⟩)
    (hb : (p.start.after schedule b).lanes[k]?.map Lane.bot = some bot) :
    ∃ es, p.Tells schedule b w k t bot n es := by
  induction n, later using Nat.le_induction with
  | base => exact ⟨[], h.begins.tells (fun m hm => going m (hm.trans b.lt_succ_self)) hands bot⟩
  | succ n later ih =>
    have going' : ∀ m < n, schedule m ≠ .cancel := fun m hm => going m (hm.trans n.lt_succ_self)
    have before : p.IsUnderway schedule b w t n :=
      ⟨h.begins, Nat.le_of_succ_le later, fun j after upTo => h.held j after (upTo.trans n.le_succ)⟩
    obtain ⟨es, tells⟩ := ih before going'
    rcases tells.succ (Nat.le_of_succ_le later) going' hb with more | ⟨none, -⟩
    · exact more
    · obtain ⟨k', s, held, -⟩ := h.held (n + 1) (Nat.lt_succ_of_le (Nat.le_of_succ_le later)) le_rfl
      rw [none] at held
      cases held

/-- While a job is underway its story is told, and it is whole when the job is put down. -/
theorem IsUnderway.story (h : p.IsUnderway schedule b w t n) (going : ∀ m < n, schedule m ≠ .cancel)
    (hands : (p.start.after schedule b).pool.job? w = some ⟨.perform k t, .ready⟩)
    (hb : (p.start.after schedule b).lanes[k]?.map Lane.bot = some bot) :
    (∃ es, t.Story bot (t.run ((p.start.after schedule b).taskCallOf t)).outcome es ∧
      p.doings schedule w b n <+: .performed t.key :: es) ∧
    ((p.start.after schedule (n + 1)).pool.job? w = none →
      ∃ es, t.Story bot (t.run ((p.start.after schedule b).taskCallOf t)).outcome es ∧
        p.doings schedule w b (n + 1) = .performed t.key :: es) := by
  rcases h.later.eq_or_lt with rfl | later
  · refine ⟨?_, fun down => ?_⟩
    · obtain ⟨es, story⟩ := t.exists_story bot
        (t.run ((p.start.after schedule b).taskCallOf t)).outcome
      exact ⟨es, story, doings_of_le w le_rfl ▸ List.nil_prefix⟩
    · obtain ⟨-, s, held, -⟩ := h.begins.tells going hands bot
      rw [down] at held
      cases held
  · obtain ⟨es, tells⟩ := h.tells later going hands hb
    obtain ⟨told, s, held, begun, whole⟩ := id tells
    refine ⟨?_, fun down => ?_⟩
    · obtain ⟨orderly, -⟩ := p.isOrderly_after schedule n
      obtain ⟨k', t', s', same, -, fit⟩ :=
        (tasksAreFit_after going).of_hands orderly (p.isServed_after going) held rfl
      cases same
      obtain ⟨more, owed⟩ := t.exists_owes bot fit begun
      exact ⟨es ++ more, whole more owed, by rw [told]; exact List.prefix_append ..⟩
    · rcases tells.succ h.later going hb with ⟨es', -, s', held', -⟩ | ⟨-, es', told', story⟩
      · rw [down] at held'
        cases held'
      · exact ⟨es', story, told'⟩

end RunnerPlan

end Switchboard
