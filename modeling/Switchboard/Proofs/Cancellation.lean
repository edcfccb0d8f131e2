import Mathlib.Data.List.Infix
import Mathlib.Data.Nat.Find
import Switchboard.Scope

/-!
# When scopes are cancelled

Scopes are derived, held, released and stopped in any order, and each scope with a deadline has a
timer of its own, which goes off at the deadline if somebody holds the scope or one below it
(`ScopeEvent`, `Scopes.Happens`). Time does not pass while a timer is due. Whether a timer goes off
that loses its last holder at the moment of its deadline is left open: nobody releases a scope then.

A scope that is held is cancelled just if it or one above it has been stopped or has reached its
deadline, no matter who holds the ones above (`cancellation_follows_lineage`). The operations of
`Scopes`, in which timers go off as soon as they are due, are such histories (`run_derive`,
`exists_run_advance`).
-/

namespace Switchboard

/-- What happens in a tree of scopes. -/
inductive ScopeEvent where
  | derive (parent : Nat) (limit : Option Nat)
  | hold (scope : Nat)
  | release (scope : Nat)
  | stop (scope : Nat)
  /-- The timer of a scope goes off. -/
  | fire (scope : Nat)
  /-- Time passes, in milliseconds. -/
  | pass (ms : Nat)

namespace Scopes

def deadline? (s : Scopes) (n : Nat) : Option Nat := s.scopes[n]?.bind Scope.deadline

/-- A scope below another one, whose timer may be due at once. -/
def grow (s : Scopes) (parent : Nat) (limit : Option Nat) : Scopes :=
  { s with
    scopes := s.scopes ++
      [{ lineage := s.scopes.length :: s.lineage parent, deadline := limit.map (s.now + ·) }]
    held := s.held ++ [s.scopes.length] }

/-- The timer of a scope waits for its deadline: somebody needs it, and the scope goes on. -/
structure Waits (s : Scopes) (n d : Nat) : Prop where
  deadline : s.deadline? n = some d
  held : s.isHeld n = true
  going : s.isCancelled n = false

/-- What may happen. Only who holds a scope can derive from it; who knows a scope can stop it. -/
inductive Happens (s : Scopes) : ScopeEvent → Scopes → Prop
  | derive (p : Nat) (limit : Option Nat) (held : p ∈ s.held) :
    Happens s (.derive p limit) (s.grow p limit)
  | hold (n : Nat) (held : n ∈ s.held) : Happens s (.hold n) (s.hold n)
  | release (n : Nat) (held : n ∈ s.held) (apart : ∀ a ∈ s.lineage n, ¬ s.Waits a s.now) :
    Happens s (.release n) (s.release n)
  | stop (n : Nat) (made : n < s.scopes.length) : Happens s (.stop n) (s.stop n)
  | fire (n d : Nat) (deadline : s.deadline? n = some d) (due : d ≤ s.now)
    (held : s.isHeld n = true) : Happens s (.fire n) (s.stop n)
  | pass (ms : Nat) (quiet : ∀ n d, s.Waits n d → s.now + ms ≤ d) :
    Happens s (.pass ms) { s with now := s.now + ms }

/-- What has happened, in order, and what it has led to. -/
inductive Run (start : Scopes) : List ScopeEvent → Scopes → Prop
  | nil : Run start [] start
  | snoc {past : List ScopeEvent} {s t : Scopes} {e : ScopeEvent} (h : Run start past s)
    (happens : s.Happens e t) : Run start (past ++ [e]) t

variable {s t u : Scopes} {n m a d p : Nat} {e : ScopeEvent} {past more : List ScopeEvent}

theorem Run.append (h : Run s past t) (h' : Run t more u) : Run s (past ++ more) u := by
  induction h' with
  | nil => simpa using h
  | snoc _ happens ih =>
    rw [← List.append_assoc]
    exact ih.snoc happens

theorem Happens.run (h : s.Happens e t) : Run s [e] t := Run.nil.snoc h

/-! ## What each event does -/

theorem lineage_of_le (h : s.scopes.length ≤ n) : s.lineage n = [] := by
  rw [lineage, List.getElem?_eq_none h]
  rfl

theorem lt_length_of_mem_lineage (h : a ∈ s.lineage n) : n < s.scopes.length := by
  by_contra missing
  rw [lineage_of_le (Nat.le_of_not_lt missing)] at h
  exact List.not_mem_nil h

theorem lt_length_of_deadline? (h : s.deadline? n = some d) : n < s.scopes.length := by
  by_contra missing
  rw [deadline?, List.getElem?_eq_none (Nat.le_of_not_lt missing)] at h
  cases h

theorem lt_length_of_isStopped (h : s.isStopped n = true) : n < s.scopes.length := by
  by_contra missing
  rw [isStopped, List.getElem?_eq_none (Nat.le_of_not_lt missing)] at h
  cases h

theorem isCancelled_iff : s.isCancelled n = true ↔ ∃ a ∈ s.lineage n, s.isStopped a = true :=
  List.any_eq_true

theorem isHeld_iff : s.isHeld n = true ↔ ∃ h ∈ s.held, n ∈ s.lineage h := by
  simp [isHeld]

section Grow

variable {limit : Option Nat}

theorem lineage_grow_of_lt (h : n < s.scopes.length) :
    (s.grow p limit).lineage n = s.lineage n := by
  rw [lineage, grow, List.getElem?_append_left h, lineage]

theorem lineage_grow_self :
    (s.grow p limit).lineage s.scopes.length = s.scopes.length :: s.lineage p := by
  simp [lineage, grow]

theorem deadline?_grow_of_lt (h : n < s.scopes.length) :
    (s.grow p limit).deadline? n = s.deadline? n := by
  rw [deadline?, grow, List.getElem?_append_left h, deadline?]

theorem deadline?_grow_self :
    (s.grow p limit).deadline? s.scopes.length = limit.map (s.now + ·) := by
  simp [deadline?, grow]

theorem isStopped_grow : (s.grow p limit).isStopped n = s.isStopped n := by
  rcases Nat.lt_trichotomy n s.scopes.length with before | rfl | after
  · rw [isStopped, grow, List.getElem?_append_left before, isStopped]
  · simp [isStopped, grow]
  · have beyond : (s.grow p limit).scopes.length ≤ n := by
      rw [grow, List.length_append]
      exact after
    rw [isStopped, List.getElem?_eq_none beyond, isStopped, List.getElem?_eq_none after.le]

end Grow

theorem lineage_stop : (s.stop n).lineage m = s.lineage m := by
  rw [lineage, stop, List.getElem?_modify, lineage]
  split <;> cases s.scopes[m]? <;> rfl

theorem deadline?_stop : (s.stop n).deadline? m = s.deadline? m := by
  rw [deadline?, stop, List.getElem?_modify, deadline?]
  split <;> cases s.scopes[m]? <;> rfl

theorem isHeld_stop : (s.stop n).isHeld m = s.isHeld m := by
  simp only [isHeld, lineage_stop]
  rfl

theorem isStopped_stop (made : n < s.scopes.length) :
    (s.stop n).isStopped m = true ↔ s.isStopped m = true ∨ n = m := by
  rw [isStopped, stop, List.getElem?_modify, isStopped]
  by_cases same : n = m
  · subst same
    simp [List.getElem?_eq_getElem made]
  · simp [same]

theorem isCancelled_stop (made : n < s.scopes.length) :
    (s.stop n).isCancelled m = true ↔ s.isCancelled m = true ∨ n ∈ s.lineage m := by
  simp only [isCancelled_iff, lineage_stop, isStopped_stop made]
  grind

/-- A stopped scope cancels nothing but what is below it. -/
theorem isCancelled_stop_of_notMem (made : n < s.scopes.length) (h : n ∉ s.lineage m) :
    (s.stop n).isCancelled m = s.isCancelled m := by
  rw [Bool.eq_iff_iff, isCancelled_stop made]
  simp [h]

/-! ## What all events keep -/

/-- A tree that has grown from its root, with the time up to which its timers are done. -/
structure IsSound (s : Scopes) : Prop where
  lineage : ∀ n < s.scopes.length, ∃ above, s.lineage n = n :: above ∧ ∀ a ∈ above, a < n
  nested : ∀ n, ∀ a ∈ s.lineage n, s.lineage a <:+ s.lineage n
  held : ∀ n ∈ s.held, n < s.scopes.length
  timely : ∀ n d, s.Waits n d → s.now ≤ d

theorem isSound_root : IsSound {} where
  lineage n hn := by
    obtain rfl : n = 0 := by simpa using hn
    exact ⟨[], rfl, fun _ h => absurd h List.not_mem_nil⟩
  nested n a ha := by
    obtain rfl : n = 0 := by simpa using lt_length_of_mem_lineage ha
    obtain rfl : a = 0 := List.mem_singleton.mp ha
    exact List.suffix_rfl
  held n hn := by simpa using hn
  timely n d waits := by
    obtain rfl : n = 0 := by simpa using lt_length_of_deadline? waits.deadline
    cases waits.deadline

namespace IsSound

theorem mem_lineage_self (sound : s.IsSound) (made : n < s.scopes.length) : n ∈ s.lineage n := by
  obtain ⟨above, eq, -⟩ := sound.lineage n made
  simp [eq]

theorem le_of_mem_lineage (sound : s.IsSound) (h : a ∈ s.lineage n) : a ≤ n := by
  obtain ⟨above, eq, before⟩ := sound.lineage n (lt_length_of_mem_lineage h)
  rcases List.mem_cons.mp (eq ▸ h) with rfl | further
  · exact le_rfl
  · exact (before a further).le

theorem lt_length_of_mem (sound : s.IsSound) (h : a ∈ s.lineage n) : a < s.scopes.length :=
  (sound.le_of_mem_lineage h).trans_lt (lt_length_of_mem_lineage h)

/-- Cancellation goes down. -/
theorem isCancelled_of_mem (sound : s.IsSound) (h : a ∈ s.lineage n)
    (cancelled : s.isCancelled a = true) : s.isCancelled n = true := by
  obtain ⟨b, hb, stopped⟩ := isCancelled_iff.mp cancelled
  exact isCancelled_iff.mpr ⟨b, (sound.nested n a h).subset hb, stopped⟩

/-- Neither a scope above another one nor one beside it is below it. -/
theorem notMem_lineage (sound : s.IsSound) (other : m ≠ n)
    (h : m ∈ s.lineage n ∨ (s.lineage m).tail = (s.lineage n).tail) : n ∉ s.lineage m := by
  intro below
  have made : n < s.scopes.length := sound.lt_length_of_mem below
  rcases h with above | beside
  · exact other (le_antisymm (sound.le_of_mem_lineage above) (sound.le_of_mem_lineage below))
  · obtain ⟨over', eq, -⟩ := sound.lineage m (lt_length_of_mem_lineage below)
    obtain ⟨over'', eq', before⟩ := sound.lineage n made
    rw [eq, eq', List.tail_cons, List.tail_cons] at beside
    rcases List.mem_cons.mp (eq ▸ below) with same | further
    · exact other same.symm
    · exact (before n (beside ▸ further)).false

end IsSound

theorem isCancelled_grow {limit : Option Nat} (h : n < s.scopes.length) :
    (s.grow p limit).isCancelled n = s.isCancelled n := by
  rw [isCancelled, lineage_grow_of_lt h, isCancelled]
  exact congrArg _ (funext fun _ => isStopped_grow)

/-- Nobody gets hold of a scope that is not held any more. -/
theorem IsSound.isHeld_of_happens (sound : s.IsSound) (h : s.Happens e t)
    (made : n < s.scopes.length) (held : t.isHeld n = true) : s.isHeld n = true := by
  rw [isHeld_iff] at held ⊢
  obtain ⟨k, hk, below⟩ := held
  cases h with
  | derive p limit holds =>
    rcases List.mem_append.mp hk with old | new
    · exact ⟨k, old, lineage_grow_of_lt (sound.held k old) ▸ below⟩
    · rw [List.mem_singleton.mp new, lineage_grow_self] at below
      exact ⟨p, holds, (List.mem_cons.mp below).resolve_left made.ne⟩
  | hold m holds =>
    rcases List.mem_append.mp hk with old | new
    · exact ⟨k, old, below⟩
    · exact ⟨m, holds, List.mem_singleton.mp new ▸ below⟩
  | release m => exact ⟨k, List.mem_of_mem_erase hk, below⟩
  | stop => exact ⟨k, hk, lineage_stop ▸ below⟩
  | fire => exact ⟨k, hk, lineage_stop ▸ below⟩
  | pass => exact ⟨k, hk, below⟩

theorem Happens.length_le (h : s.Happens e t) : s.scopes.length ≤ t.scopes.length := by
  cases h <;> simp [grow, Scopes.hold, Scopes.release, Scopes.stop]

theorem Happens.deadline? (h : s.Happens e t) (made : n < s.scopes.length) :
    t.deadline? n = s.deadline? n := by
  cases h with
  | derive => exact deadline?_grow_of_lt made
  | stop => exact deadline?_stop
  | fire => exact deadline?_stop
  | _ => rfl

theorem Happens.isCancelled (h : s.Happens e t) (made : n < s.scopes.length)
    (cancelled : s.isCancelled n = true) : t.isCancelled n = true := by
  cases h with
  | derive => rwa [isCancelled_grow made]
  | stop k known => exact (isCancelled_stop known).mpr (.inl cancelled)
  | fire k d deadline =>
    exact (isCancelled_stop (lt_length_of_deadline? deadline)).mpr (.inl cancelled)
  | _ => exact cancelled

/-- A timer that waits has waited before. -/
theorem IsSound.waits_of_happens (sound : s.IsSound) (h : s.Happens e t)
    (made : n < s.scopes.length) (waits : t.Waits n d) : s.Waits n d where
  deadline := (h.deadline? made).symm.trans waits.deadline
  held := sound.isHeld_of_happens h made waits.held
  going := by
    by_contra cancelled
    exact Bool.eq_false_iff.mp waits.going (h.isCancelled made (Bool.not_eq_false _ ▸ cancelled))

theorem IsSound.grow (sound : s.IsSound) (holds : p ∈ s.held) (limit : Option Nat) :
    (s.grow p limit).IsSound where
  lineage n hn := by
    rcases Nat.lt_succ_iff_lt_or_eq.mp (by simpa [Scopes.grow] using hn) with old | rfl
    · rw [lineage_grow_of_lt old]
      exact sound.lineage n old
    · exact ⟨_, lineage_grow_self, fun a ha => sound.lt_length_of_mem ha⟩
  nested n a ha := by
    have made := lt_length_of_mem_lineage ha
    rcases Nat.lt_succ_iff_lt_or_eq.mp (by simpa [Scopes.grow] using made) with old | rfl
    · rw [lineage_grow_of_lt old] at ha ⊢
      rw [lineage_grow_of_lt (sound.lt_length_of_mem ha)]
      exact sound.nested n a ha
    · rw [lineage_grow_self] at ha
      rcases List.mem_cons.mp ha with rfl | above
      · exact List.suffix_rfl
      · rw [lineage_grow_self, lineage_grow_of_lt (sound.lt_length_of_mem above)]
        exact (sound.nested p a above).trans (List.suffix_cons ..)
  held n hn := by
    have length : (s.grow p limit).scopes.length = s.scopes.length + 1 := by simp [Scopes.grow]
    rw [length]
    rcases List.mem_append.mp hn with old | new
    · exact (sound.held n old).trans (Nat.lt_succ_self _)
    · exact List.mem_singleton.mp new ▸ Nat.lt_succ_self _
  timely n d waits := by
    have made := lt_length_of_deadline? waits.deadline
    rcases Nat.lt_succ_iff_lt_or_eq.mp (by simpa [Scopes.grow] using made) with old | rfl
    · exact sound.timely n d (sound.waits_of_happens (.derive p limit holds) old waits)
    · obtain ⟨ms, -, rfl⟩ := Option.map_eq_some_iff.mp (deadline?_grow_self ▸ waits.deadline)
      exact Nat.le_add_right ..

theorem IsSound.stop (sound : s.IsSound) (made : n < s.scopes.length) : (s.stop n).IsSound := by
  have length : (s.stop n).scopes.length = s.scopes.length := List.length_modify ..
  refine ⟨fun k hk => ?_, fun k a ha => ?_, fun k hk => ?_, fun k d waits => ?_⟩
  · rw [lineage_stop]
    exact sound.lineage k (length ▸ hk)
  · rw [lineage_stop] at ha
    rw [lineage_stop, lineage_stop]
    exact sound.nested k a ha
  · exact length ▸ sound.held k hk
  · have old := length ▸ lt_length_of_deadline? waits.deadline
    exact sound.timely k d (sound.waits_of_happens (.stop n made) old waits)

/-- The tree keeps its shape, and no timer is passed over. -/
theorem IsSound.happens (sound : s.IsSound) (h : s.Happens e t) : t.IsSound := by
  have before : ∀ n d, t.Waits n d → n < s.scopes.length → s.Waits n d := fun n d waits made =>
    sound.waits_of_happens h made waits
  cases h with
  | derive p limit holds => exact sound.grow holds limit
  | hold n holds =>
    refine { sound with held := fun k hk => ?_, timely := fun k d waits => ?_ }
    · rcases List.mem_append.mp hk with old | new
      · exact sound.held k old
      · exact List.mem_singleton.mp new ▸ sound.held n holds
    · exact sound.timely k d (before k d waits (lt_length_of_deadline? waits.deadline))
  | release n =>
    refine { sound with held := fun k hk => ?_, timely := fun k d waits => ?_ }
    · exact sound.held k (List.mem_of_mem_erase hk)
    · exact sound.timely k d (before k d waits (lt_length_of_deadline? waits.deadline))
  | stop n made => exact sound.stop made
  | fire n d deadline => exact sound.stop (lt_length_of_deadline? deadline)
  | pass ms quiet =>
    exact { sound with
      timely := fun k d waits => quiet k d ⟨waits.deadline, waits.held, waits.going⟩ }

theorem IsSound.run (sound : s.IsSound) (h : Run s past t) : t.IsSound := by
  induction h with
  | nil => exact sound
  | snoc _ happens ih => exact ih.happens happens

/-! ## What has been stopped -/

/-- What an event stops is stopped after it, and nothing else. -/
theorem Happens.isStopped_iff (h : s.Happens e t) :
    t.isStopped n = true ↔ s.isStopped n = true ∨ e = .stop n ∨ e = .fire n := by
  cases h with
  | derive => simp [isStopped_grow]
  | stop k made => simp [isStopped_stop made]
  | fire k d deadline => simp [isStopped_stop (lt_length_of_deadline? deadline)]
  | hold => simp [isStopped, Scopes.hold]
  | release => simp [isStopped, Scopes.release]
  | pass => simp [isStopped]

theorem Run.isStopped_iff (h : Run s past t) :
    t.isStopped n = true ↔ s.isStopped n = true ∨ .stop n ∈ past ∨ .fire n ∈ past := by
  induction h with
  | nil => simp
  | snoc _ happens ih =>
    rw [happens.isStopped_iff, ih]
    simp only [List.mem_append, List.mem_singleton]
    grind

theorem Happens.now_le (h : s.Happens e t) : s.now ≤ t.now := by
  cases h with
  | pass ms => exact Nat.le_add_right ..
  | _ => exact le_rfl

/-- A timer that has gone off was due. -/
theorem Run.exists_of_fire (h : Run s past t) (fired : .fire n ∈ past) :
    ∃ d, t.deadline? n = some d ∧ d ≤ t.now := by
  induction h with
  | nil => exact absurd fired List.not_mem_nil
  | snoc _ happens ih =>
    rcases List.mem_append.mp fired with earlier | now
    · obtain ⟨d, deadline, due⟩ := ih earlier
      exact ⟨d, (happens.deadline? (lt_length_of_deadline? deadline)).trans deadline,
        due.trans happens.now_le⟩
    · cases List.mem_singleton.mp now
      cases happens with
      | fire k d deadline due => exact ⟨d, deadline?_stop.trans deadline, due⟩

theorem Run.length_le (h : Run s past t) : s.scopes.length ≤ t.scopes.length := by
  induction h with
  | nil => exact le_rfl
  | snoc _ happens ih => exact ih.trans happens.length_le

/-- The timer of a scope that nobody holds, nor one below it, does not go off. -/
theorem IsSound.notMem_fire (sound : s.IsSound) (made : n < s.scopes.length)
    (idle : s.isHeld n = false) (h : Run s past t) : t.isHeld n = false ∧ .fire n ∉ past := by
  induction h with
  | nil => exact ⟨idle, List.not_mem_nil⟩
  | @snoc past t u e h happens ih =>
    obtain ⟨still, never⟩ := ih
    refine ⟨?_, fun fired => ?_⟩
    · by_contra held
      have := (sound.run h).isHeld_of_happens happens (made.trans_le h.length_le)
        (Bool.not_eq_false _ ▸ held)
      exact Bool.eq_false_iff.mp still this
    · rcases List.mem_append.mp fired with earlier | now
      · exact never earlier
      · cases List.mem_singleton.mp now
        cases happens with
        | fire k d _ _ held => exact Bool.eq_false_iff.mp still held

/-! ## Operations whose timers go off at once -/

/-- The scopes whose timers are due, and needed. -/
def due (s : Scopes) : List Nat :=
  (List.range s.scopes.length).filter fun n =>
    (s.deadline? n).any (· ≤ s.now) && s.isHeld n

theorem mem_due : n ∈ s.due ↔ (∃ d, s.deadline? n = some d ∧ d ≤ s.now) ∧ s.isHeld n = true := by
  simp only [due, List.mem_filter, List.mem_range, Bool.and_eq_true, Option.any_eq_true,
    decide_eq_true_eq]
  constructor
  · rintro ⟨-, dues⟩
    exact dues
  · rintro ⟨⟨d, deadline, passed⟩, held⟩
    exact ⟨lt_length_of_deadline? deadline, ⟨d, deadline, passed⟩, held⟩

theorem getElem?_foldl_stop (s : Scopes) (l : List Nat) :
    (l.foldl stop s).scopes[m]? =
      s.scopes[m]?.map fun c => if m ∈ l then { c with stopped := true } else c := by
  induction l generalizing s with
  | nil => simp
  | cons n rest ih =>
    rw [List.foldl_cons, ih, stop, List.getElem?_modify]
    by_cases same : n = m
    · subst same
      cases s.scopes[n]? <;> simp
    · simp [same, Ne.symm same]

theorem foldl_stop_eq (s : Scopes) (l : List Nat) :
    l.foldl stop s = { s with scopes := (l.foldl stop s).scopes } := by
  induction l generalizing s with
  | nil => rfl
  | cons n rest ih => rw [List.foldl_cons, ih]; rfl

theorem getElem?_expire (s : Scopes) :
    s.expire.scopes[m]? = s.scopes[m]?.map fun c =>
      if c.deadline.any (· ≤ s.now) && s.isHeld m then { c with stopped := true } else c := by
  rw [expire, List.getElem?_map, List.getElem?_zipIdx, Option.map_map]
  simp [Function.comp_def]

/-- The scopes that expire are those whose timers are due. -/
theorem expire_eq (s : Scopes) : s.expire = s.due.foldl stop s := by
  have scopes : s.expire.scopes = (s.due.foldl stop s).scopes := by
    refine List.ext_getElem? fun m => ?_
    rw [getElem?_foldl_stop, getElem?_expire]
    refine Option.map_congr fun c hc => ?_
    have deadline : s.deadline? m = c.deadline := by rw [deadline?, Option.mem_def.mp hc]; rfl
    have made : m < s.scopes.length := (List.getElem?_eq_some_iff.mp hc).1
    simp [due, deadline, made]
  rw [foldl_stop_eq, ← scopes]
  rfl

theorem due_stop : (s.stop n).due = s.due := by
  have length : (s.stop n).scopes.length = s.scopes.length := List.length_modify ..
  simp only [due, length, deadline?_stop, isHeld_stop]
  rfl

theorem due_foldl_stop (s : Scopes) (l : List Nat) : (l.foldl stop s).due = s.due := by
  induction l generalizing s with
  | nil => rfl
  | cons n rest ih => exact (ih _).trans due_stop

/-- Timers that are due go off one after the other. -/
theorem run_foldl_stop (l : List Nat) (dues : ∀ n ∈ l, n ∈ s.due) :
    Run s (l.map .fire) (l.foldl stop s) := by
  induction l generalizing s with
  | nil => exact .nil
  | cons n rest ih =>
    obtain ⟨⟨d, deadline, passed⟩, held⟩ := mem_due.mp (dues n List.mem_cons_self)
    refine (Happens.fire n d deadline passed held).run.append (ih fun k hk => ?_)
    rw [due_stop]
    exact dues k (List.mem_cons_of_mem n hk)

theorem run_expire (s : Scopes) : Run s (s.due.map .fire) s.expire := by
  rw [expire_eq]
  exact run_foldl_stop s.due fun _ h => h

/-- Then no timer is due any more. -/
theorem IsSound.not_waits_expire (sound : s.IsSound) (passed : d ≤ s.now) :
    ¬ s.expire.Waits n d := by
  intro waits
  have made := lt_length_of_deadline? waits.deadline
  have isDue : n ∈ s.expire.due := mem_due.mpr ⟨⟨d, waits.deadline, passed⟩, waits.held⟩
  rw [expire_eq, due_foldl_stop] at isDue
  have stopped : s.expire.isStopped n = true :=
    (run_expire s).isStopped_iff.mpr (.inr (.inr (List.mem_map_of_mem isDue)))
  have cancelled : s.expire.isCancelled n = true :=
    isCancelled_iff.mpr ⟨n, (sound.run (run_expire s)).mem_lineage_self made, stopped⟩
  exact Bool.eq_false_iff.mp waits.going cancelled

theorem run_derive (limit : Option Nat) (held : p ∈ s.held) :
    Run s (.derive p limit :: (s.grow p limit).due.map .fire) (s.derive p limit) :=
  (Happens.derive p limit held).run.append (run_expire _)

theorem lineage_expire : s.expire.lineage n = s.lineage n := by
  rw [lineage, getElem?_expire, lineage]
  cases s.scopes[n]? with
  | none => rfl
  | some c =>
    simp only [Option.map_some, Option.getD_some]
    split <;> rfl

/-- What has expired early has expired late. -/
theorem expire_expire {later : Nat} (h : s.now ≤ later) :
    { s.expire with now := later }.expire = { s with now := later }.expire := by
  have held : ∀ m, { s.expire with now := later }.isHeld m = { s with now := later }.isHeld m := by
    intro m
    rw [Bool.eq_iff_iff, isHeld_iff, isHeld_iff]
    exact exists_congr fun k => and_congr_right fun _ => iff_of_eq (congrArg (m ∈ ·) lineage_expire)
  have scopes :
      { s.expire with now := later }.expire.scopes = { s with now := later }.expire.scopes := by
    refine List.ext_getElem? fun m => ?_
    rw [getElem?_expire, getElem?_expire, held, getElem?_expire, Option.map_map]
    refine Option.map_congr fun c _ => ?_
    have earlier : c.deadline.any (· ≤ s.now) = true → c.deadline.any (· ≤ later) = true := by
      simp only [Option.any_eq_true, decide_eq_true_eq]
      exact fun ⟨d, deadline, passed⟩ => ⟨d, deadline, passed.trans h⟩
    have same : { s with now := later }.isHeld m = s.isHeld m := rfl
    rw [Function.comp_apply, same]
    cases s.isHeld m <;> cases hd : c.deadline.any (· ≤ s.now) <;> simp_all
  exact congrArg (fun c => { s with now := later, scopes := c }) scopes

/-- Two spells of time are one. -/
theorem advance_advance (s : Scopes) (j k : Nat) : (s.advance j).advance k = s.advance (j + k) := by
  have later : s.now + j ≤ s.now + (j + k) := Nat.add_le_add_left (Nat.le_add_right j k) _
  have eq := expire_expire (s := { s with now := s.now + j }) later
  rw [← Nat.add_assoc] at eq
  rw [advance, advance, advance, ← Nat.add_assoc]
  exact eq

/-- Of the timers that wait, one goes off first. -/
theorem Waits.exists_first (h : s.Waits n d) :
    ∃ m first, s.Waits m first ∧ ∀ k d, s.Waits k d → first ≤ d := by
  classical
  have some : ∃ d n, s.Waits n d := ⟨d, n, h⟩
  obtain ⟨m, waits⟩ := Nat.find_spec some
  exact ⟨m, _, waits, fun k d waits => Nat.find_min' some ⟨k, waits⟩⟩

/-- When time has passed as an operation, no timer is due. -/
theorem IsSound.not_waits_advance (sound : s.IsSound) {ms : Nat}
    (quiet : ∀ n d, s.Waits n d → s.now + ms ≤ d) (passed : d ≤ s.now + ms) :
    ¬ (s.advance ms).Waits n d :=
  (sound.happens (.pass ms quiet)).not_waits_expire passed

/-- Time that passes stops at each deadline that somebody waits for. -/
theorem exists_run_advance_of_settled (sound : s.IsSound) (ms : Nat)
    (settled : ∀ n d, s.Waits n d → s.now < d) : ∃ past, Run s past (s.advance ms) := by
  induction ms using Nat.strong_induction_on generalizing s with
  | _ ms ih =>
    by_cases quiet : ∀ n d, s.Waits n d → s.now + ms ≤ d
    · exact ⟨_, (Happens.pass ms quiet).run.append (run_expire _)⟩
    · push Not at quiet
      obtain ⟨n, d, waits, soon⟩ := quiet
      obtain ⟨m, next, wakes, first⟩ := waits.exists_first
      obtain ⟨k, rfl⟩ := Nat.exists_eq_add_of_le (settled m next wakes).le
      have ahead := settled m _ wakes
      have sooner := first n d waits
      have run : Run s _ (s.advance k) := (Happens.pass k first).run.append (run_expire _)
      obtain ⟨past, further⟩ := ih (ms - k) (by omega) (sound.run run) fun n d waits =>
        Nat.lt_of_not_le fun passed => sound.not_waits_advance first passed waits
      rw [advance_advance, show k + (ms - k) = ms by omega] at further
      exact ⟨_, run.append further⟩

theorem exists_run_advance (sound : s.IsSound) (ms : Nat) : ∃ past, Run s past (s.advance ms) := by
  have settled : ∀ n d, s.expire.Waits n d → s.now < d := fun n d waits =>
    Nat.lt_of_not_le fun passed => sound.not_waits_expire passed waits
  obtain ⟨past, run⟩ := exists_run_advance_of_settled (sound.run (run_expire s)) ms settled
  rw [show s.expire = s.advance 0 from rfl, advance_advance, Nat.zero_add] at run
  exact ⟨_, (run_expire s).append run⟩

/-! ## Lineages -/

/-- Whoever was stopped or timed out is to blame. -/
theorem Run.isCancelled_iff (h : Run {} past s) :
    s.isCancelled n = true ↔ ∃ a ∈ s.lineage n, .stop a ∈ past ∨ .fire a ∈ past := by
  rw [Scopes.isCancelled_iff]
  refine exists_congr fun a => and_congr_right fun above => ?_
  rw [h.isStopped_iff]
  have fresh : ({} : Scopes).isStopped a = false := by
    by_contra stopped
    have := lt_length_of_isStopped (Bool.not_eq_false _ ▸ stopped)
    obtain rfl : a = 0 := by simpa using this
    exact stopped rfl
  simp [fresh]

/-- **Cancellation follows the lineage.** However scopes were derived, held, released, stopped and
timed, with no handle released at the moment of a deadline:

* a scope is cancelled just if it or one above it was stopped or had its timer go off;
* while somebody holds a scope and no timer of its lineage is due at this moment, that is the case
  just if it or one above it was stopped or has reached its deadline;
* a scope that is stopped, or whose timer goes off, cancels no scope above or beside it;
* the timer of a scope that nobody holds, nor any below it, never goes off, so that the scope stops
  only if it is told to. -/
theorem cancellation_follows_lineage (run : Run {} past s) :
    (∀ n, s.isCancelled n = true ↔ ∃ a ∈ s.lineage n, .stop a ∈ past ∨ .fire a ∈ past) ∧
    (∀ n ∈ s.held, (∀ a ∈ s.lineage n, ¬ s.Waits a s.now) →
      (s.isCancelled n = true ↔
        ∃ a ∈ s.lineage n, .stop a ∈ past ∨ ∃ d, s.deadline? a = some d ∧ d ≤ s.now)) ∧
    (∀ n e t, e = .stop n ∨ e = .fire n → s.Happens e t →
      ∀ m ≠ n, m ∈ s.lineage n ∨ (s.lineage m).tail = (s.lineage n).tail →
        t.isCancelled m = s.isCancelled m) ∧
    ∀ n < s.scopes.length, s.isHeld n = false → ∀ more t, Run s more t →
      .fire n ∉ more ∧ (t.isStopped n = true ↔ s.isStopped n = true ∨ .stop n ∈ more) := by
  have sound := isSound_root.run run
  refine ⟨fun n => run.isCancelled_iff, fun n holds settled => ⟨fun cancelled => ?_, ?_⟩,
    fun n e t ends h m other near => ?_, fun n made idle more t further => ?_⟩
  · obtain ⟨a, above, stopped | fired⟩ := run.isCancelled_iff.mp cancelled
    · exact ⟨a, above, .inl stopped⟩
    · exact ⟨a, above, .inr (run.exists_of_fire fired)⟩
  · rintro ⟨a, above, stopped | ⟨d, deadline, passed⟩⟩
    · exact run.isCancelled_iff.mpr ⟨a, above, .inl stopped⟩
    · refine sound.isCancelled_of_mem above ?_
      by_contra going
      have waits : s.Waits a d :=
        ⟨deadline, isHeld_iff.mpr ⟨n, holds, above⟩, Bool.eq_false_iff.mpr going⟩
      have now : d = s.now := passed.antisymm (sound.timely a d waits)
      exact settled a above (now ▸ waits)
  · have apart := sound.notMem_lineage other near
    rcases ends with rfl | rfl
    · cases h with
      | stop _ made => exact isCancelled_stop_of_notMem made apart
    · cases h with
      | fire _ d deadline =>
        exact isCancelled_stop_of_notMem (lt_length_of_deadline? deadline) apart
  · have never := (sound.notMem_fire made idle further).2
    exact ⟨never, by rw [further.isStopped_iff]; simp [never]⟩

/-- A scope below one that has a second left is derived with a minute of its own, and the handles on
all between it and the root are given up. It keeps the earlier deadline. -/
theorem derived_scope_keeps_earlier_deadline :
    let timed := (({} : Scopes).derive 0 (some 1000)).derive 1
    let s := ((timed.derive 2 (some 60000)).release 2).release 1
    s.held = [0, 3] ∧ (s.advance 2000).isCancelled 3 = true ∧
      (s.advance 2000).isCancelled 0 = false := by
  intro timed s
  have apart : ∀ {s : Scopes} {n : Nat}, (∀ a ∈ s.lineage n, s.deadline? a ≠ some s.now) →
      ∀ a ∈ s.lineage n, ¬ s.Waits a s.now :=
    fun other a above waits => other a above waits.deadline
  have grown := ((run_derive (s := {}) (p := 0) (some 1000) (by decide)).append
    (run_derive (p := 1) none (by decide))).append (run_derive (p := 2) (some 60000) (by decide))
  have run : Run {} _ s :=
    (grown.snoc (.release 2 (by decide) (apart (by decide)))).snoc
      (.release 1 (by decide) (apart (by decide)))
  obtain ⟨past, passed⟩ := exists_run_advance (isSound_root.run run) 2000
  obtain ⟨-, lineage, -⟩ := cancellation_follows_lineage (run.append passed)
  refine ⟨by decide, ?_, by decide⟩
  exact (lineage 3 (by decide) (apart (by decide))).mpr
    ⟨1, by decide, .inr ⟨1000, by decide, by decide⟩⟩

end Scopes

end Switchboard
