import CommandConsole.Proofs.Run

/-!
# Polls in between

A poll shows what waits and does nothing else, and an action polls by itself before it does anything.
So two consoles that a poll would make equal go through the same steps to consoles that a poll makes
equal again; and since polling twice is polling once, it does not matter to the end of a run where
it was polled on the way.

Results:
* `poll_poll`: polling twice is polling once.
* `SameOncePolled.step`: **consoles that are the same once polled stay so in every step**, and
  record the same.
* `run_withoutPolls`: a run that ends in a poll needs no other polls.
* `polls_are_unobservable`: **runs that differ in their polls end in the same console.**
-/

namespace CommandConsole

open Log

/-- The steps of a run that are not polls. -/
def withoutPolls (steps : List Step) : List Step :=
  steps.filter (· ≠ .poll)

namespace Console

/-- Two consoles that a poll makes equal. -/
def SameOncePolled (a b : Console) : Prop :=
  a.poll.2 = b.poll.2

/-! ## One step -/

/-- **Polling twice is polling once.** -/
theorem poll_poll (console : Console) : console.poll.2.poll.2 = console.poll.2 :=
  poll_of_empty rfl

theorem sameOncePolled_poll (console : Console) : console.poll.2.SameOncePolled console :=
  poll_poll console

/-- Messages that come behind a poll are shown behind what it showed. -/
theorem poll_sendAll_poll (console : Console) (messages : List Message) :
    { console.poll.2 with inbox := console.poll.2.inbox.sendAll messages }.poll.2 =
      { console with inbox := console.inbox.sendAll messages }.poll.2 :=
  congrArg (Console.mk · Inbox.empty console.forwarder)
    (Session.receive_receive console.session console.inbox.queued messages)

namespace SameOncePolled

variable {a b : Console}

theorem forwarder_eq (h : a.SameOncePolled b) : a.forwarder = b.forwarder := by
  unfold SameOncePolled at h
  rw [← forwarder_poll a, h, forwarder_poll]

/-- What arrives at both consoles is shown by both. -/
theorem sendAll (h : a.SameOncePolled b) (messages : List Message) :
    SameOncePolled { a with inbox := a.inbox.sendAll messages }
      { b with inbox := b.inbox.sendAll messages } := by
  unfold SameOncePolled at h ⊢
  rw [← poll_sendAll_poll, h, poll_sendAll_poll]

/-- An action polls first, so that it does the same in both consoles. -/
theorem act_eq (h : a.SameOncePolled b) (action : Action) : a.act action = b.act action := by
  unfold SameOncePolled at h
  unfold act
  rw [h]

/-- **Consoles that are the same once polled stay so in every step**, and record the same. -/
theorem step (h : a.SameOncePolled b) (step : Step) :
    (a.step step).value.SameOncePolled (b.step step).value ∧
      (a.step step).records = (b.step step).records := by
  cases step with
  | act action =>
    have hact : a.step (.act action) = b.step (.act action) := h.act_eq action
    rw [hact]
    exact ⟨rfl, rfl⟩
  | poll => exact ⟨congrArg (fun polled : Console => polled.poll.2) h, rfl⟩
  | send message => exact ⟨h.sendAll [message], rfl⟩
  | log record =>
    have harrive := h.sendAll (forwarded a.forwarder [record])
    refine ⟨?_, rfl⟩
    rw [h.forwarder_eq] at harrive
    unfold Console.step log observe
    rw [h.forwarder_eq]
    exact harrive

/-! ## Runs -/

/-- **Consoles that are the same once polled go through every run that ends in a poll alike.** -/
theorem run_eq (h : a.SameOncePolled b) (steps : List Step) :
    a.run (steps ++ [.poll]) = b.run (steps ++ [.poll]) := by
  induction steps generalizing a b with
  | nil => exact congrArg (fun polled => (pure polled : Logged Console)) h
  | cons first steps ih =>
    obtain ⟨hnext, hrecords⟩ := h.step first
    have hrest := ih hnext
    rw [List.cons_append, run_cons, run_cons]
    ext1
    · rw [Logged.value_bind, Logged.value_bind, hrest]
    · rw [Logged.records_bind, Logged.records_bind, hrecords, hrest]

end SameOncePolled

/-- **A run that ends in a poll needs no other polls.** -/
theorem run_withoutPolls (console : Console) (steps : List Step) :
    console.run (steps ++ [.poll]) = console.run (withoutPolls steps ++ [.poll]) := by
  induction steps generalizing console with
  | nil => rfl
  | cons first steps ih =>
    by_cases hpoll : first = .poll
    · subst hpoll
      have hrest : console.run (.poll :: steps ++ [.poll]) =
          console.poll.2.run (steps ++ [.poll]) := pure_bind ..
      rw [hrest, (sameOncePolled_poll console).run_eq, ih]
      rfl
    · have hkept : withoutPolls (first :: steps) = first :: withoutPolls steps :=
        List.filter_cons_of_pos (decide_eq_true hpoll)
      rw [hkept, List.cons_append, List.cons_append, run_cons, run_cons]
      exact congrArg (console.step first >>= ·) (funext ih)

/-- **Runs that differ in their polls end in the same console**, once it is polled: with the same
session, transcript and history included, and with nothing waiting. On the way the same records were
written. It does not matter which console they start from, what its forwarder lets pass, or what it
had waiting. -/
theorem polls_are_unobservable (console : Console) {steps steps' : List Step}
    (h : withoutPolls steps = withoutPolls steps') :
    console.run (steps ++ [.poll]) = console.run (steps' ++ [.poll]) := by
  rw [run_withoutPolls console steps, h, ← run_withoutPolls]

/-- Polls on the way show messages earlier, records of the console's own among them; in the end the
same six lines stand in the same order. -/
theorem polls_are_unobservable_chatty :
    let steps : List Step := [.act .toggleVisibility, .act (.insert 'x'), .send ⟨.error, "late"⟩,
      .act .submit, .log (.warn "heard")]
    let polled : List Step := [.act .toggleVisibility, .poll, .act (.insert 'x'), .poll,
      .send ⟨.error, "late"⟩, .poll, .poll, .act .submit, .log (.warn "heard"), .poll]
    withoutPolls steps = withoutPolls polled ∧
    ∃ console, (start .default .empty .empty (some ⟨.upTo .trace, none⟩)).value = .ok console ∧
      console.run (steps ++ [.poll]) = console.run (polled ++ [.poll]) ∧
      (console.run steps).value.session.transcript.size ≠
        (console.run polled).value.session.transcript.size ∧
      (console.run (steps ++ [.poll])).value.session.transcript.size = 6 := by
  intro steps polled
  have hstart := start_of_valid (show Config.default.validate = .ok () from rfl) .empty .empty
    (some ⟨.upTo .trace, none⟩)
  have hpolls : withoutPolls steps = withoutPolls polled := rfl
  refine ⟨hpolls, _, hstart, polls_are_unobservable _ hpolls, ?_, ?_⟩
  · decide +kernel
  · decide +kernel

end Console

end CommandConsole
