import CommandConsole.Proofs.Checked

/-!
# The slots of a history

What a history holds depends on the stored lines alone: recalls move the cursor and nothing else,
and every time the last slot is written the history starts over. `recent` cuts the stored lines
behind the last of those moments, and `Holds` is the invariant that ties the slots, `next` and the
cursor to them.

Results:
* `Holds.store`, `Holds.older`, `Holds.newer`, `Holds.run`: every use of a history keeps `Holds`.
* `Holds.result_store`: a store clears exactly when it completes a multiple of the capacity.
* `run_ofCapacity`: **after any series of uses** nothing was out of bounds, the slots from `next`
  on are empty, and the stored lines are the last `k % capacity` of the `k` lines so far.
-/

namespace CommandConsole.History

/-- The lines that a series of uses stores, in order. -/
def storedLines : List Step → List String
  | [] => []
  | .store line :: steps => line :: storedLines steps
  | .older :: steps => storedLines steps
  | .newer :: steps => storedLines steps

/-- The lines behind the last clearing, of all the lines stored in this many slots. -/
def recent (capacity : Nat) (lines : List String) : List String :=
  if capacity = 0 then [] else lines.drop (lines.length - lines.length % capacity)

/-- What a store answers, for a history that stored `count` lines before. -/
def resultAfter (capacity count : Nat) : StoreResult :=
  if capacity = 0 then .disabled else if capacity ∣ count + 1 then .cleared else .stored

/-- A history with this many slots holds what is left of the stored lines. -/
structure Holds (capacity : Nat) (lines : List String) (history : History) : Prop where
  slots : history.slots =
    recent capacity lines ++ List.replicate (capacity - (recent capacity lines).length) ""
  next : history.next = (recent capacity lines).length
  cursor : history.cursor ≤ history.next

/-! ## The recent lines -/

theorem recent_nil (capacity : Nat) : recent capacity [] = [] := by
  unfold recent
  split
  · rfl
  · rw [List.drop_nil]

theorem length_recent {capacity : Nat} (hpos : 0 < capacity) (lines : List String) :
    (recent capacity lines).length = lines.length % capacity := by
  have hle := Nat.mod_le lines.length capacity
  rw [recent, if_neg (Nat.ne_of_gt hpos), List.length_drop]
  omega

theorem length_recent_le (capacity : Nat) (lines : List String) :
    (recent capacity lines).length ≤ capacity := by
  by_cases h0 : capacity = 0
  · rw [recent, if_pos h0]
    exact Nat.zero_le _
  · rw [length_recent (Nat.pos_of_ne_zero h0)]
    exact Nat.le_of_lt (Nat.mod_lt _ (Nat.pos_of_ne_zero h0))

/-- One more line fills the last slot, and nothing is left. -/
theorem recent_concat_of_dvd {capacity : Nat} {lines : List String}
    (h : capacity ∣ lines.length + 1) (line : String) : recent capacity (lines ++ [line]) = [] := by
  unfold recent
  split
  · rfl
  · rw [List.length_append, List.length_singleton, Nat.mod_eq_zero_of_dvd h, Nat.sub_zero]
    exact List.drop_of_length_le (by simp)

/-- Counting on completes a multiple exactly behind the largest remainder. -/
theorem dvd_add_one_iff {n k : Nat} (hpos : 0 < n) : n ∣ k + 1 ↔ k % n + 1 = n := by
  have hlt := Nat.mod_lt k hpos
  rw [Nat.dvd_iff_mod_eq_zero, ← Nat.mod_add_mod]
  constructor
  · intro h
    rcases Nat.lt_or_ge (k % n + 1) n with hs | hs
    · rw [Nat.mod_eq_of_lt hs] at h
      exact absurd h (Nat.succ_ne_zero _)
    · omega
  · intro h
    rw [h, Nat.mod_self]

theorem add_one_mod_of_not_dvd {n k : Nat} (hpos : 0 < n) (h : ¬ n ∣ k + 1) :
    (k + 1) % n = k % n + 1 := by
  have hlt := Nat.mod_lt k hpos
  rw [dvd_add_one_iff hpos] at h
  rw [← Nat.mod_add_mod, Nat.mod_eq_of_lt (by omega)]

theorem recent_concat_of_not_dvd {capacity : Nat} (hpos : 0 < capacity) {lines : List String}
    (h : ¬ capacity ∣ lines.length + 1) (line : String) :
    recent capacity (lines ++ [line]) = recent capacity lines ++ [line] := by
  have hne := Nat.ne_of_gt hpos
  rw [recent, recent, if_neg hne, if_neg hne, List.length_append, List.length_singleton,
    add_one_mod_of_not_dvd hpos h, Nat.add_sub_add_right,
    List.drop_append_of_le_length (Nat.sub_le _ _)]

theorem set_append_replicate (front : List String) (line : String) {free : Nat} (h : 0 < free) :
    (front ++ List.replicate free "").set front.length line =
      front ++ [line] ++ List.replicate (free - 1) "" := by
  obtain ⟨rest, rfl⟩ := Nat.exists_eq_succ_of_ne_zero (Nat.ne_of_gt h)
  rw [List.set_append_right _ _ (Nat.le_refl _), Nat.sub_self, List.replicate_succ,
    List.set_cons_zero, List.append_assoc]
  rfl

/-! ## What every use keeps -/

namespace Holds

variable {capacity : Nat} {lines : List String} {history : History}

theorem ofCapacity (capacity : Nat) : Holds capacity [] (ofCapacity capacity) where
  slots := by rw [recent_nil]; rfl
  next := by rw [recent_nil]; rfl
  cursor := Nat.le_refl 0

theorem capacity_eq (h : Holds capacity lines history) : history.capacity = capacity := by
  have hle := length_recent_le capacity lines
  rw [History.capacity, h.slots, List.length_append, List.length_replicate]
  omega

theorem next_eq (h : Holds capacity lines history) (hpos : 0 < capacity) :
    history.next = lines.length % capacity := by
  rw [h.next, length_recent hpos]

theorem next_lt (h : Holds capacity lines history) (hpos : 0 < capacity) :
    history.next < capacity := by
  rw [h.next_eq hpos]
  exact Nat.mod_lt _ hpos

theorem inBounds (h : Holds capacity lines history) : history.InBounds where
  next_le := by
    rw [h.capacity_eq, h.next]
    exact length_recent_le capacity lines
  next_lt hne := by
    rw [h.capacity_eq] at hne ⊢
    exact h.next_lt (Nat.pos_of_ne_zero hne)
  cursor_le := h.cursor

theorem stored_eq (h : Holds capacity lines history) : history.stored = recent capacity lines := by
  rw [stored, h.slots, h.next, List.take_left]

/-- The slots from `next` on are empty. -/
theorem slot_eq_blank (h : Holds capacity lines history) {index : Nat} (hle : history.next ≤ index)
    (hlt : index < capacity) : history.slots[index]? = some "" := by
  have hnext := h.next
  have hfree : index - (recent capacity lines).length <
      capacity - (recent capacity lines).length := by omega
  rw [h.slots, List.getElem?_append_right (by omega), List.getElem?_replicate_of_lt hfree]

/-- Moving the cursor inside the stored lines keeps what is held. -/
theorem move (h : Holds capacity lines history) {cursor : Nat} (hle : cursor ≤ history.next) :
    Holds capacity lines { history with cursor } :=
  ⟨h.slots, h.next, hle⟩

/-- The last line of a multiple clears the slots. -/
theorem value_store_of_dvd (h : Holds capacity lines history) (hpos : 0 < capacity)
    (hd : capacity ∣ lines.length + 1) (line : String) :
    (history.store line).value = (.cleared, History.ofCapacity capacity) := by
  have hc := h.capacity_eq
  have hnext := h.next_eq hpos
  rw [dvd_add_one_iff hpos] at hd
  rw [value_store_of_full (by omega) (by omega), hc]

/-- Any other line takes the slot at `next`. -/
theorem store_of_not_dvd (h : Holds capacity lines history) (hpos : 0 < capacity)
    (hd : ¬ capacity ∣ lines.length + 1) (line : String) :
    history.store line = pure (.stored,
      ⟨history.slots.set history.next line, history.next + 1, history.next + 1⟩) := by
  have hc := h.capacity_eq
  have hnext := h.next_eq hpos
  have hlt := h.next_lt hpos
  rw [dvd_add_one_iff hpos] at hd
  exact store_of_room (by omega) line

/-- A store answers by the count of stored lines alone. -/
theorem result_store (h : Holds capacity lines history) (line : String) :
    (history.store line).value.1 = resultAfter capacity lines.length := by
  unfold resultAfter
  by_cases h0 : capacity = 0
  · rw [store_of_disabled (h.capacity_eq.trans h0), if_pos h0]
    rfl
  · rw [if_neg h0]
    have hpos := Nat.pos_of_ne_zero h0
    by_cases hd : capacity ∣ lines.length + 1
    · rw [h.value_store_of_dvd hpos hd, if_pos hd]
    · rw [h.store_of_not_dvd hpos hd, if_neg hd]
      rfl

/-- **A store keeps the history true to the stored lines.** -/
theorem store (h : Holds capacity lines history) (line : String) :
    Holds capacity (lines ++ [line]) (history.store line).value.2 := by
  by_cases h0 : capacity = 0
  · have hnone : ∀ lines, recent capacity lines = [] := fun _ => if_pos h0
    rw [store_of_disabled (h.capacity_eq.trans h0)]
    exact ⟨h.slots.trans (by rw [hnone, hnone]), h.next.trans (by rw [hnone, hnone]), h.cursor⟩
  have hpos := Nat.pos_of_ne_zero h0
  -- Which slot is the last one follows from the count of the lines.
  by_cases hd : capacity ∣ lines.length + 1
  · have hrecent := recent_concat_of_dvd hd line
    rw [h.value_store_of_dvd hpos hd]
    exact ⟨by rw [hrecent]; rfl, by rw [hrecent]; rfl, Nat.le_refl 0⟩
  · have hrecent := recent_concat_of_not_dvd hpos hd line
    have hlt := h.next_lt hpos
    have hnext := h.next
    have hslots : history.slots.set history.next line =
        recent capacity lines ++ [line] ++
          List.replicate (capacity - (recent capacity lines).length - 1) "" := by
      rw [h.slots, h.next]
      exact set_append_replicate _ line (by omega)
    rw [h.store_of_not_dvd hpos hd]
    refine ⟨?_, ?_, Nat.le_refl _⟩
    · rw [hrecent, List.length_append]
      exact hslots
    · rw [hrecent, List.length_append]
      exact congrArg (· + 1) hnext

theorem older (h : Holds capacity lines history) : Holds capacity lines history.older.2 := by
  unfold History.older
  split
  · exact h
  · exact h.move (Nat.le_trans (Nat.sub_le _ _) h.cursor)

theorem newer (h : Holds capacity lines history) : Holds capacity lines history.newer.2 := by
  unfold History.newer
  split
  · exact h
  · next hlt => exact h.move (by omega)

/-- One use of a history adds the line that it stores, if it stores one. -/
theorem step (h : Holds capacity lines history) (use : Step) :
    Holds capacity (lines ++ storedLines [use]) (history.step use) := by
  cases use with
  | store line => exact h.store line
  | older => rw [storedLines, storedLines, List.append_nil]; exact h.older
  | newer => rw [storedLines, storedLines, List.append_nil]; exact h.newer

/-- **A series of uses keeps the history true to the stored lines.** -/
theorem run (h : Holds capacity lines history) (steps : List Step) :
    Holds capacity (lines ++ storedLines steps) (history.run steps) := by
  induction steps generalizing lines history with
  | nil => rw [storedLines, List.append_nil]; exact h
  | cons use steps ih =>
    have hcons : storedLines (use :: steps) = storedLines [use] ++ storedLines steps := by
      cases use <;> rfl
    rw [hcons, ← List.append_assoc]
    exact ih (h.step use)

theorem run?_eq (h : Holds capacity lines history) (steps : List Step) :
    history.run? steps = some (history.run steps) := by
  induction steps generalizing lines history with
  | nil => rfl
  | cons use steps ih =>
    rw [run?, List.foldlM_cons, step?_eq h.inBounds, Option.bind_eq_bind, Option.bind_some]
    exact ih (h.step use)

/-- Without slots nothing ever changes. -/
theorem eq_ofCapacity_zero (h : Holds 0 lines history) : history = History.ofCapacity 0 := by
  obtain ⟨slots, next, cursor⟩ := history
  obtain ⟨hslots, hnext, hcursor⟩ := h
  have hnone : recent 0 lines = [] := rfl
  rw [hnone] at hslots hnext
  simp only [List.length_nil] at hslots hnext hcursor
  subst hslots hnext
  rw [Nat.le_zero.mp hcursor]
  rfl

end Holds

/-- **The history after any series of uses.** No slot was read or written outside the slots and no
difference went below zero; the slots from `next` on are empty; with slots, what is stored is the
rest that the lines so far leave modulo the capacity, and every store that completes a multiple of
it clears the slots; without slots, nothing ever happens. -/
theorem run_ofCapacity (capacity : Nat) (steps : List Step) :
    let history := (ofCapacity capacity).run steps
    let lines := storedLines steps
    (ofCapacity capacity).run? steps = some history ∧
    (∀ line, history.store? line = some (history.store line).value) ∧
    history.older? = some history.older ∧ history.newer? = some history.newer ∧
    history.stored? = some history.stored ∧
    history.slots.length = capacity ∧ history.cursor ≤ history.next ∧
    (∀ index, history.next ≤ index → index < capacity → history.slots[index]? = some "") ∧
    (0 < capacity →
      history.next = lines.length % capacity ∧
      history.stored = lines.drop (lines.length - lines.length % capacity) ∧
      ∀ line, (history.store line).value.1 =
        if capacity ∣ lines.length + 1 then .cleared else .stored) ∧
    (capacity = 0 →
      history = ofCapacity 0 ∧ (∀ line, history.store line = pure (.disabled, history)) ∧
      history.older = (none, history) ∧ history.newer = (none, history)) := by
  intro history lines
  have h : Holds capacity lines history := (Holds.ofCapacity capacity).run steps
  have hb := h.inBounds
  refine ⟨(Holds.ofCapacity capacity).run?_eq steps, store?_eq hb, older?_eq hb, newer?_eq hb,
    stored?_eq hb, h.capacity_eq, h.cursor, fun index => h.slot_eq_blank,
    fun hpos => ⟨h.next_eq hpos, ?_, fun line => ?_⟩, ?_⟩
  · rw [h.stored_eq, recent, if_neg (Nat.ne_of_gt hpos)]
  · rw [h.result_store, resultAfter, if_neg (Nat.ne_of_gt hpos)]
  · rintro rfl
    have hzero := h.eq_ofCapacity_zero
    refine ⟨hzero, store_of_disabled h.capacity_eq, ?_, ?_⟩
    · rw [hzero]; rfl
    · rw [hzero]; rfl

/-- Three slots start over behind the third line, and the fourth is the first again. -/
theorem run_ofCapacity_three :
    let history := (ofCapacity 3).run [.store "a", .store "b", .older, .store "c", .store "d"]
    history.next = 1 ∧ history.stored = ["d"] ∧ history.slots[2]? = some "" ∧
      (history.store "e").value.1 = .stored ∧
        (ofCapacity 0).run [.store "a", .newer] = ofCapacity 0 := by
  obtain ⟨-, -, -, -, -, -, -, hblank, hslots, -⟩ :=
    run_ofCapacity 3 [.store "a", .store "b", .older, .store "c", .store "d"]
  obtain ⟨hnext, hstored, hstore⟩ := hslots (by decide)
  obtain ⟨-, -, -, -, -, -, -, -, -, hnone⟩ := run_ofCapacity 0 [.store "a", .newer]
  exact ⟨hnext, hstored, hblank 2 (by decide) (by decide), hstore "e", (hnone rfl).1⟩

end CommandConsole.History
