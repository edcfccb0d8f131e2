import Switchboard.Proofs.ClosedLoop
import Switchboard.Proofs.Routing
import Switchboard.Proofs.Turns

/-!
# Aborted conversations

An abort drops what is stored for its sender and leaves the sender's jobs alone. Whatever a later
message resumes was therefore stored after the abort. It may still have been left by an older
message: one whose turn had not ended when the abort came (`Chat.abort_misses_turn`).
-/

namespace Switchboard

namespace RunnerPlan

variable {κ : Type} (p : RunnerPlan κ) (schedule : Nat → Runner.Move)

/-- The acceptances of the messages whose jobs are begun before move `n`. For a move that begins a
job, `accepted` gives the one that accepted its message; no two are the same. -/
structure IsAttributed (n : Nat) (accepted : Nat → Nat) : Prop where
  begun : ∀ m < n, ∀ k i pending, p.Begins schedule m k i pending →
    accepted m < m ∧ p.AcceptsWith schedule (accepted m) k i pending
  once : ∀ m < n, ∀ m' < n, ∀ k i pending k' i' pending', p.Begins schedule m k i pending →
    p.Begins schedule m' k' i' pending' → accepted m = accepted m' → m = m'

variable {p schedule} {n : Nat}

theorem Tickets.isAttributed {accepted : Nat → Nat} {unused : Multiset (Nat × Work κ)}
    (h : p.Tickets schedule n accepted unused) : p.IsAttributed schedule n accepted :=
  ⟨h.taken, h.once⟩

theorem IsTurn.begun {w b s k : Nat} {i : Input} {pending : Option (Step κ)}
    (h : p.IsTurn schedule w b s k i pending) : p.Begins schedule b k i pending :=
  ⟨w, h.worker, h.begins⟩

/-- An abort lies before whatever is kept for its sender, or after it is taken. -/
theorem IsKept.not_across_abort {c : Conversation κ} {s t a : Nat} {bot : BotType} {x : Input}
    (kept : p.IsKept schedule c s t) (abort : .accepted bot x ∈ p.start.happens schedule a)
    (kind : x.kind = .abort) (sender : c.sender = x.sender) (before : a < t) : a < s := by
  rcases lt_trichotomy a s with earlier | rfl | later
  · exact earlier
  · rw [kept.stored, List.mem_singleton] at abort
    cases abort
  · have untouched := kept.untouched a later before _ abort
    simp [Happening.touches, sender, kind] at untouched

/-- After an abort a sender resumes only what was stored after the abort. The turn that left it is
one of a message that was accepted after the abort too, or was on its way when the abort came: no
worker had begun it yet, or a worker had it in hand. -/
theorem continuations_after_abort (p : RunnerPlan κ) (schedule : Nat → Runner.Move) (n : Nat) :
    ∃ accepted, p.IsAttributed schedule n accepted ∧
      ∀ a bot x, .accepted bot x ∈ p.start.happens schedule a → x.kind = .abort →
      ∀ m < n, ∀ bot' i step, .resumed bot' i step ∈ p.start.happens schedule m →
        i.sender = x.sender → a < accepted m →
        ∃ w b s k j pending, p.Leaves schedule w b s k j pending step ∧ j.sender = x.sender ∧
          a < s ∧ s < accepted m ∧
          (a < accepted b ∨
            accepted b < a ∧ (a ≤ b ∨ (p.start.after schedule a).Talks w k j pending)) := by
  obtain ⟨accepted, unused, tickets⟩ := p.exists_tickets schedule n
  refine ⟨accepted, tickets.isAttributed, ?_⟩
  intro a bot x abort kind m hm bot' i step resumed same after
  obtain ⟨k', begins, -⟩ := begins_of_resumed resumed
  obtain ⟨earlier, accepts⟩ := tickets.taken m hm k' i _ begins
  obtain ⟨s, c, sender, rfl, kept, -⟩ := accepts.exists_isKept
  have past : a < s := kept.not_across_abort abort kind (sender.trans same) after
  obtain ⟨w, b, k, j, pending, left, due⟩ := exists_leaves kept.stored
  have owner : j.sender = x.sender := (due.trans sender).trans same
  refine ⟨w, b, s, k, j, pending, left, owner, past, kept.earlier, ?_⟩
  have inside : b < n := by
    have := left.earlier
    have := kept.earlier
    omega
  have message := (tickets.taken b inside k j pending left.begun).2
  rcases lt_trichotomy a (accepted b) with new | here | old
  · exact .inl new
  · -- An abort is no message.
    rw [here, message.happens, List.mem_singleton] at abort
    cases abort
    rw [message.kind] at kind
    cases kind
  · refine .inr ⟨old, ?_⟩
    rcases le_or_gt a b with waiting | begun
    · exact .inl waiting
    · exact .inr (left.held a begun past.le)

end RunnerPlan

/-! ## An abort that comes too early -/

namespace Chat

def stop : Input := .abort "ann" ⟨"ann"⟩

/-- The first message of a sender is with a worker when the sender aborts. The step that it leaves
is taken by the next message. -/
def hasty : List Runner.Move :=
  [.act (.supervisor 0), .tell 0 (message "ann" "hello"), .tell 0 stop,
    .tell 0 (message "ann" "Ann")] ++ hears ++ [works 0, works 0] ++
    [.act (.runLoop 0), .act (.runLoop 0), .act (.intake 0)] ++ [works 0] ++ hears ++
    [works 1, works 1]

def hastySchedule (n : Nat) : Runner.Move := hasty[n]?.getD (.pass 0)

/-- A message is accepted, and a worker begins its turn. Then an abort of the sender is accepted.
The turn ends, and the sender's next message resumes what it has left. -/
theorem abort_misses_turn :
    plan.start.happens hastySchedule 6 = [.accepted chat (message "ann" "hello")] ∧
      plan.Leaves hastySchedule 0 9 13 0 (message "ann" "hello") none { code := () } ∧
      plan.start.happens hastySchedule 12 = [.accepted chat stop] ∧
      plan.start.happens hastySchedule 16 = [.accepted chat (message "ann" "Ann")] ∧
      plan.start.happens hastySchedule 19 =
        [.resumed chat (message "ann" "Ann") { code := () }] := by
  refine ⟨by rfl, ⟨⟨by decide, by rfl, by rfl, ?_⟩, by rfl, by rfl⟩, by rfl, by rfl, by rfl⟩
  intro j after upTo
  obtain rfl | rfl | rfl | rfl : j = 10 ∨ j = 11 ∨ j = 12 ∨ j = 13 := by omega
  all_goals exact ⟨_, _, _, rfl⟩

end Chat

end Switchboard
