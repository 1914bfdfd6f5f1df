import CommandConsole.Proofs.Slots
import CommandConsole.Proofs.Trace

/-!
# Walking over a history

Recalls move a cursor over the stored lines and the free slot behind them, one slot at a time. The
walk is clamped at both ends: at the oldest line `older` shows that line again, and at the free slot
`newer` shows nothing. Where the cursor is says what is shown, because the slots never change.

Results:
* `Holds.recalled_eq`, `Holds.recallAll_eq`: a recall, and any series of them, moves the cursor
  only.
* `Holds.older_line`, `Holds.newer_eq_none_iff`, `Holds.newer_line`, `Holds.newer_blank`: what a
  recall shows.
* `Holds.answers_older`, `Holds.answers_newer`: walks in one direction.
* `Holds.back_and_forth`, `Holds.answers_stored`: walks there and back, and back from a store.
* `recall_walks`: **every walk over a reachable history.**
-/

namespace CommandConsole.History

/-- One recall. -/
inductive Recall where
  | older
  | newer
  deriving Repr, DecidableEq

/-- Where a recall takes the cursor when `next` lines are stored: one slot back but not below the
first, or one slot on but not past the free one. -/
def Recall.target (next cursor : Nat) : Recall → Nat
  | older => cursor - 1
  | newer => min (cursor + 1) next

/-- Where a series of recalls takes the cursor. -/
def walk (next cursor : Nat) (moves : List Recall) : Nat :=
  moves.foldl (fun cursor move => move.target next cursor) cursor

/-- What a recall shows, and the history after it. -/
def recalled (history : History) : Recall → Option String × History
  | .older => history.older
  | .newer => history.newer

/-- The history after a series of recalls. -/
def recallAll (history : History) (moves : List Recall) : History :=
  moves.foldl (fun history move => (history.recalled move).2) history

/-- What a series of recalls shows, one answer for each. -/
def answers (history : History) (moves : List Recall) : List (Option String) :=
  Trace.collect (fun history move => (history.recalled move).2)
    (fun history move => [(history.recalled move).1]) history moves

variable {history : History}

theorem older_of_pos (h : 0 < history.next) :
    history.older =
      (history.slots[history.cursor - 1]?, { history with cursor := history.cursor - 1 }) :=
  if_neg (Nat.ne_of_gt h)

theorem newer_of_lt (h : history.cursor < history.next) :
    history.newer =
      (history.slots[history.cursor + 1]?, { history with cursor := history.cursor + 1 }) :=
  if_neg (by omega)

theorem newer_of_le (h : history.next ≤ history.cursor) : history.newer = (none, history) :=
  if_pos (.inr h)

/-- Where nothing is stored, a recall shows nothing and moves nothing. -/
theorem recalled_of_next_eq_zero (h : history.next = 0) (move : Recall) :
    history.recalled move = (none, history) := by
  cases move with
  | older => exact if_pos h
  | newer => exact if_pos (.inl h)

theorem walks_of_next_eq_zero (h : history.next = 0) (moves : List Recall) :
    history.answers moves = List.replicate moves.length none ∧
      history.recallAll moves = history := by
  induction moves with
  | nil => exact ⟨rfl, rfl⟩
  | cons move moves ih =>
    obtain ⟨hanswers, hafter⟩ := ih
    rw [answers, Trace.collect, recallAll, List.foldl_cons, recalled_of_next_eq_zero h]
    exact ⟨congrArg (none :: ·) hanswers, hafter⟩

/-- Whatever the history, a recall moves the cursor at most. -/
theorem exists_recalled_eq (history : History) (move : Recall) :
    ∃ cursor, (history.recalled move).2 = { history with cursor } := by
  by_cases h0 : history.next = 0
  · exact ⟨history.cursor, by rw [recalled_of_next_eq_zero h0]⟩
  have hpos := Nat.pos_of_ne_zero h0
  cases move with
  | older => exact ⟨_, by rw [recalled, older_of_pos hpos]⟩
  | newer =>
    by_cases hlt : history.cursor < history.next
    · exact ⟨_, by rw [recalled, newer_of_lt hlt]⟩
    · exact ⟨history.cursor, by rw [recalled, newer_of_le (Nat.le_of_not_lt hlt)]⟩

/-- Only a store with room behind its slot keeps the line. -/
theorem room_of_stored {line : String} (h : (history.store line).value.1 = .stored) :
    history.next + 1 < history.capacity := by
  by_cases h0 : history.capacity = 0
  · rw [store_of_disabled h0] at h
    cases h
  by_cases hroom : history.next + 1 < history.capacity
  · exact hroom
  · rw [value_store_of_full (Nat.pos_of_ne_zero h0) (Nat.le_of_not_lt hroom)] at h
    cases h

/-- Behind a store that keeps the line, the line is the first one that `older` shows. -/
theorem older_of_stored {line : String} (h : (history.store line).value.1 = .stored) :
    (history.store line).value.2.older.1 = some line := by
  have hroom := room_of_stored h
  have hlt : history.next < history.slots.length := Nat.lt_of_succ_lt hroom
  rw [store_of_room hroom, Log.Logged.value_pure, older_of_pos (Nat.succ_pos _), Nat.add_sub_cancel]
  exact List.getElem?_set_self hlt

/-! ## One recall and many -/

namespace Holds

variable {capacity : Nat} {lines : List String}

theorem recalled (h : Holds capacity lines history) (move : Recall) :
    Holds capacity lines (history.recalled move).2 := by
  cases move with
  | older => exact h.older
  | newer => exact h.newer

/-- **A recall moves the cursor to its target and nothing else.** -/
theorem recalled_eq (h : Holds capacity lines history) (hpos : 0 < history.next) (move : Recall) :
    (history.recalled move).2 =
      { history with cursor := move.target history.next history.cursor } := by
  have hcursor := h.cursor
  cases move with
  | older => rw [History.recalled, older_of_pos hpos]; rfl
  | newer =>
    rw [History.recalled, Recall.target]
    by_cases hlt : history.cursor < history.next
    · rw [newer_of_lt hlt, Nat.min_eq_left hlt]
    · have hend : history.cursor = history.next := by omega
      rw [newer_of_le (Nat.le_of_not_lt hlt), Nat.min_eq_right (by omega)]
      exact congrArg (fun cursor => { history with cursor }) hend

/-- **A series of recalls takes the cursor along its walk and leaves the rest alone.** -/
theorem recallAll_eq (h : Holds capacity lines history) (hpos : 0 < history.next)
    (moves : List Recall) :
    history.recallAll moves =
      { history with cursor := walk history.next history.cursor moves } := by
  induction moves generalizing history with
  | nil => rfl
  | cons move moves ih =>
    have hrest := ih (h.recalled move) (by rw [h.recalled_eq hpos]; exact hpos)
    rw [h.recalled_eq hpos] at hrest
    rw [History.recallAll, List.foldl_cons, h.recalled_eq hpos]
    exact hrest

theorem recallAll (h : Holds capacity lines history) (moves : List Recall) :
    Holds capacity lines (history.recallAll moves) :=
  Trace.foldl_keeps (fun _ move hh => hh.recalled move) h moves

/-! ## What a recall shows -/

theorem capacity_pos (h : Holds capacity lines history) (hpos : 0 < history.next) :
    0 < capacity := by
  have hnext := h.next
  have hle := length_recent_le capacity lines
  omega

/-- The slot behind the stored lines is one of the slots. -/
theorem next_lt_length (h : Holds capacity lines history) (hpos : 0 < history.next) :
    history.next < history.slots.length := by
  have hlt := h.next_lt (h.capacity_pos hpos)
  have hcapacity : history.slots.length = capacity := h.capacity_eq
  omega

theorem getElem?_stored {index : Nat} (hlt : index < history.next) :
    history.stored[index]? = history.slots[index]? :=
  List.getElem?_take_of_lt hlt

/-- **An older line is a stored one.** -/
theorem older_line (h : Holds capacity lines history) (hpos : 0 < history.next) :
    history.older.1 = history.stored[history.cursor - 1]? ∧ history.older.1 ≠ none := by
  have hcursor := h.cursor
  have hlength := h.next_lt_length hpos
  rw [older_of_pos hpos, getElem?_stored (by omega)]
  refine ⟨rfl, fun hnone => ?_⟩
  have hout := List.getElem?_eq_none_iff.mp hnone
  omega

/-- **Only at the free slot there is no newer line.** -/
theorem newer_eq_none_iff (h : Holds capacity lines history) (hpos : 0 < history.next) :
    history.newer.1 = none ↔ history.cursor = history.next := by
  have hcursor := h.cursor
  have hlength := h.next_lt_length hpos
  by_cases hlt : history.cursor < history.next
  · rw [newer_of_lt hlt, List.getElem?_eq_none_iff]
    omega
  · rw [newer_of_le (Nat.le_of_not_lt hlt)]
    exact iff_of_true rfl (by omega)

theorem newer_line (hlt : history.cursor + 1 < history.next) :
    history.newer.1 = history.stored[history.cursor + 1]? := by
  rw [newer_of_lt (by omega), getElem?_stored hlt]

/-- Behind the newest line comes the free slot, and it is empty. -/
theorem newer_blank (h : Holds capacity lines history)
    (hlast : history.cursor + 1 = history.next) : history.newer.1 = some "" := by
  have hpos : 0 < history.next := by omega
  rw [newer_of_lt (by omega), hlast]
  exact h.slot_eq_blank (Nat.le_refl _) (h.next_lt (h.capacity_pos hpos))

/-! ## Walks in one direction -/

/-- Going back shows the slots below the cursor, and the first one over and over. -/
theorem answers_older (h : Holds capacity lines history) (hpos : 0 < history.next) (n : Nat) :
    history.answers (List.replicate n .older) =
      (List.range n).map fun i => history.slots[history.cursor - 1 - i]? := by
  induction n generalizing history with
  | zero => rfl
  | succ n ih =>
    have hrest := ih h.older (by rw [older_of_pos hpos]; exact hpos)
    rw [older_of_pos hpos] at hrest
    rw [List.replicate_succ, answers, Trace.collect, History.recalled, older_of_pos hpos,
      List.range_succ_eq_map, List.map_cons, List.map_map]
    refine congrArg (_ :: ·) (hrest.trans (List.map_congr_left fun i _ => ?_))
    exact congrArg (history.slots[·]?) (by simp only; omega)

/-- Going on shows the slots above the cursor. -/
theorem answers_newer (h : Holds capacity lines history) {n : Nat}
    (hn : history.cursor + n ≤ history.next) :
    history.answers (List.replicate n .newer) =
      (List.range n).map fun i => history.slots[history.cursor + 1 + i]? := by
  induction n generalizing history with
  | zero => rfl
  | succ n ih =>
    have hlt : history.cursor < history.next := by omega
    have hrest := ih h.newer (by rw [newer_of_lt hlt]; simp only; omega)
    rw [newer_of_lt hlt] at hrest
    rw [List.replicate_succ, answers, Trace.collect, History.recalled, newer_of_lt hlt,
      List.range_succ_eq_map, List.map_cons, List.map_map]
    refine congrArg (_ :: ·) (hrest.trans (List.map_congr_left fun i _ => ?_))
    exact congrArg (history.slots[·]?) (by simp only; omega)

end Holds

theorem walk_older (next cursor n : Nat) :
    walk next cursor (List.replicate n .older) = cursor - n := by
  induction n generalizing cursor with
  | zero => rfl
  | succ n ih =>
    rw [List.replicate_succ, walk, List.foldl_cons]
    exact (ih (cursor - 1)).trans (by omega)

theorem walk_newer {next cursor n : Nat} (h : cursor + n ≤ next) :
    walk next cursor (List.replicate n .newer) = cursor + n := by
  induction n generalizing cursor with
  | zero => rfl
  | succ n ih =>
    rw [List.replicate_succ, walk, List.foldl_cons, Recall.target, Nat.min_eq_left (by omega)]
    exact (ih (by omega)).trans (by omega)

/-- Slots that exist show something. -/
theorem none_not_mem_slots {indices : List Nat}
    (h : ∀ index ∈ indices, index < history.slots.length) :
    none ∉ indices.map (history.slots[·]?) := by
  intro hmem
  obtain ⟨index, hindex, hnone⟩ := List.mem_map.mp hmem
  exact absurd (h index hindex) (Nat.not_lt.mpr (List.getElem?_eq_none_iff.mp hnone))

/-- A walk back and forth shows the slots below the cursor downwards and then, upwards, the slots
up to where it started. -/
theorem Holds.back_and_forth {capacity : Nat} {lines : List String}
    (h : Holds capacity lines history) {n : Nat} (hn : n ≤ history.cursor) :
    let moves := List.replicate n .older ++ List.replicate n .newer
    let indices := (List.range n).map (history.cursor - 1 - ·) ++
      (List.range n).map (history.cursor - n + 1 + ·)
    history.answers moves = indices.map (history.slots[·]?) ∧
      none ∉ history.answers moves ∧ history.recallAll moves = history := by
  intro moves indices
  have hcursor := h.cursor
  rcases Nat.eq_zero_or_pos n with rfl | hpos
  · exact ⟨rfl, List.not_mem_nil, rfl⟩
  have hnext : 0 < history.next := by omega
  -- The way forth starts where the way back ended.
  have hback : history.recallAll (List.replicate n .older) =
      { history with cursor := history.cursor - n } := by
    rw [h.recallAll_eq hnext, walk_older]
  have hthere := h.recallAll (List.replicate n .older)
  rw [hback] at hthere
  have hforth : history.cursor - n + n ≤ history.next := by omega
  have hanswers : history.answers moves = indices.map (history.slots[·]?) := by
    have happend : history.answers moves = history.answers (List.replicate n .older) ++
        (history.recallAll (List.replicate n .older)).answers (List.replicate n .newer) :=
      Trace.collect_append ..
    rw [happend, hback, h.answers_older hnext, hthere.answers_newer hforth, List.map_append,
      List.map_map, List.map_map]
    rfl
  refine ⟨hanswers, ?_, ?_⟩
  · have hlength := h.next_lt_length hnext
    rw [hanswers]
    refine none_not_mem_slots fun index hindex => ?_
    rw [List.mem_append, List.mem_map, List.mem_map] at hindex
    rcases hindex with ⟨i, -, rfl⟩ | ⟨i, hi, rfl⟩
    · omega
    · have hlt := List.mem_range.mp hi
      omega
  · have happend : history.recallAll moves =
        (history.recallAll (List.replicate n .older)).recallAll (List.replicate n .newer) :=
      List.foldl_append
    rw [happend, hback, hthere.recallAll_eq hnext, walk_newer hforth, Nat.sub_add_cancel hn]

/-- Behind a store, going back shows the stored lines from the newest to the oldest, and then the
oldest over and over. -/
theorem Holds.answers_stored {capacity : Nat} {lines : List String}
    (h : Holds capacity lines history) (hpos : 0 < history.next)
    (hend : history.cursor = history.next) (n : Nat) :
    history.answers (List.replicate n .older) =
        (List.range n).map (fun i => history.stored[history.next - min (i + 1) history.next]?) ∧
      none ∉ history.answers (List.replicate n .older) := by
  have hanswers := h.answers_older hpos n
  refine ⟨hanswers.trans (List.map_congr_left fun i _ => ?_), ?_⟩
  · rw [getElem?_stored (by omega), hend]
    exact congrArg (history.slots[·]?) (by omega)
  · have hlength := h.next_lt_length hpos
    have hmap : none ∉ ((List.range n).map (history.cursor - 1 - ·)).map (history.slots[·]?) :=
      none_not_mem_slots fun index hindex => by
        obtain ⟨i, -, rfl⟩ := List.mem_map.mp hindex
        omega
    rw [List.map_map] at hmap
    rw [hanswers]
    exact hmap

/-! ## From nothing -/

/-- **Every walk over a reachable history.** While lines are stored, recalls take the cursor along
the clamped walk and change nothing else: `older` shows the stored line that the cursor comes to,
and `newer` the next one, then the free slot, and behind that nothing. So a walk back and forth
shows each slot once on either way and ends where it began. Behind a store the way back starts at
the newest line and ends at the oldest. While nothing is stored, recalls come to nothing. -/
theorem recall_walks (capacity : Nat) (uses : List Step) :
    let history := (ofCapacity capacity).run uses
    (0 < history.next →
      (∀ moves,
        let after := history.recallAll moves
        after = { history with cursor := walk history.next history.cursor moves } ∧
        (after.older.1 = history.stored[after.cursor - 1]? ∧ after.older.1 ≠ none) ∧
        (after.newer.1 = none ↔ after.cursor = history.next) ∧
        (after.cursor + 1 < history.next → after.newer.1 = history.stored[after.cursor + 1]?) ∧
        (after.cursor + 1 = history.next → after.newer.1 = some "")) ∧
      ∀ n, n ≤ history.cursor →
        let moves := List.replicate n .older ++ List.replicate n .newer
        let indices := (List.range n).map (history.cursor - 1 - ·) ++
          (List.range n).map (history.cursor - n + 1 + ·)
        history.answers moves = indices.map (history.slots[·]?) ∧
          none ∉ history.answers moves ∧ history.recallAll moves = history) ∧
    (∀ line, (history.store line).value.1 = .stored →
      let stored := (history.store line).value.2
      ∀ n, stored.answers (List.replicate n .older) =
          (List.range n).map (fun i => stored.stored[stored.next - min (i + 1) stored.next]?) ∧
        none ∉ stored.answers (List.replicate n .older)) ∧
    (history.next = 0 → ∀ moves,
      history.answers moves = List.replicate moves.length none ∧
        history.recallAll moves = history) := by
  intro history
  have h : Holds capacity (storedLines uses) history := (Holds.ofCapacity capacity).run uses
  refine ⟨fun hpos => ⟨fun moves => ?_, fun n => h.back_and_forth⟩, fun line hstored n => ?_,
    walks_of_next_eq_zero⟩
  · intro after
    have hafter : Holds capacity (storedLines uses) after := h.recallAll moves
    have hwalk := h.recallAll_eq hpos moves
    -- The walk leaves the slots and their count alone.
    have hnext : after.next = history.next := by rw [show after = _ from hwalk]
    have hlines : after.stored = history.stored := by rw [show after = _ from hwalk]; rfl
    have hpos' : 0 < after.next := by rw [hnext]; exact hpos
    refine ⟨hwalk, ?_⟩
    rw [← hnext, ← hlines]
    exact ⟨hafter.older_line hpos', hafter.newer_eq_none_iff hpos', Holds.newer_line,
      hafter.newer_blank⟩
  · have hnext := store_of_room (room_of_stored hstored) line
    exact (h.store line).answers_stored (by rw [hnext]; exact Nat.succ_pos _)
      (by rw [hnext]; rfl) n

/-- A walk over two lines: down to the first, again to the first, and up to the free slot. -/
theorem recall_walks_two :
    let history := (ofCapacity 4).run [.store "a", .store "b"]
    let bottom := history.recallAll [.older, .older, .older]
    let middle := history.recallAll [.older]
    0 < history.next ∧ bottom = { history with cursor := 0 } ∧ bottom.older.1 = some "a" ∧
      bottom.cursor + 1 < history.next ∧ bottom.newer.1 = some "b" ∧
      middle.cursor + 1 = history.next ∧ middle.newer.1 = some "" ∧
      history.newer.1 = none ∧ 2 ≤ history.cursor ∧
      history.answers [.older, .older, .newer, .newer] = ["b", "a", "b", ""].map some ∧
      (history.store "c").value.1 = .stored ∧
      (history.store "c").value.2.answers (List.replicate 4 .older) =
        ["c", "b", "a", "a"].map some ∧
      (ofCapacity 4).next = 0 ∧ (ofCapacity 4).answers [.older, .newer] = [none, none] := by
  intro history bottom middle
  obtain ⟨hstored, hstore, -⟩ := recall_walks 4 [.store "a", .store "b"]
  obtain ⟨hmoves, hreturn⟩ := hstored (by decide)
  obtain ⟨hbottom, ⟨holder, -⟩, -, hnewer, -⟩ := hmoves [.older, .older, .older]
  obtain ⟨-, -, -, -, hblank⟩ := hmoves [.older]
  obtain ⟨-, -, hend, -, -⟩ := hmoves []
  obtain ⟨-, -, hnone⟩ := recall_walks 4 []
  exact ⟨by decide, hbottom, holder, by decide, hnewer (by decide), by decide, hblank (by decide),
    hend.mpr rfl, by decide, (hreturn 2 (by decide)).1, rfl, (hstore "c" rfl 4).1, rfl,
    (hnone rfl [.older, .newer]).1⟩

end CommandConsole.History
