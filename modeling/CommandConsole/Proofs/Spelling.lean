import CommandConsole.Invocation
import Mathlib.Data.Set.Function

/-!
# Lines and what they spell

Reading a line and writing an invocation undo each other. A line spells an invocation unless all its
characters are blank; and an invocation is spelled by a line if none of its pieces holds a space and
not all of them are blank. The property `White_Space` decides only whether a line is blank, the cuts
are at U+0020 alone.

Results:
* `isBlankLine_join`: joined texts are blank exactly if every one of them is.
* `pieces_join`: texts without spaces are the pieces of the line that joins them.
* `ofLine?_eq_none_iff`, `ofLine?_eq_some_iff`: **when a line spells nothing, and when it spells a
  certain invocation.**
* `length_args`: every space of a line begins an argument.
* `reads_what_is_spelled`: **lines that are not blank are in bijection with what they spell.**
-/

namespace CommandConsole.Invocation

/-- No piece holds a space, and not all of them are blank. -/
structure Spellable (call : Invocation) : Prop where
  unspaced : ∀ piece ∈ call.token :: call.args, ' ' ∉ piece.toList
  unblank : ¬ ∀ piece ∈ call.token :: call.args, ∀ c ∈ piece.toList, Text.isBlank c = true

theorem toList_join_cons_cons (head next : String) (rest : List String) :
    (join (head :: next :: rest)).toList = head.toList ++ ' ' :: (join (next :: rest)).toList := by
  rw [toList_join, toList_join, List.map_cons, List.map_cons, List.intercalate_cons_cons,
    List.append_assoc, List.singleton_append]

/-! ## Blank lines -/

theorem isBlankLine_iff {line : String} :
    isBlankLine line = true ↔ ∀ c ∈ line.toList, Text.isBlank c = true :=
  List.all_eq_true

/-- **Joined texts are blank exactly if every one of them is**, because the space is blank. -/
theorem isBlankLine_join (texts : List String) :
    isBlankLine (join texts) = true ↔ ∀ text ∈ texts, isBlankLine text = true := by
  induction texts with
  | nil => exact iff_of_true (by decide) (by simp)
  | cons head rest ih =>
    cases rest with
    | nil => simp [isBlankLine, toList_join]
    | cons next rest =>
      have hcut : isBlankLine (join (head :: next :: rest)) =
          (isBlankLine head && isBlankLine (join (next :: rest))) := by
        rw [isBlankLine, toList_join_cons_cons, List.all_append, List.all_cons,
          Text.isBlank_space, Bool.true_and]
        rfl
      rw [hcut, Bool.and_eq_true, ih, List.forall_mem_cons (l := next :: rest)]

/-! ## Pieces -/

theorem not_mem_of_mem_splitOn {separator : Char} {text run : List Char}
    (h : run ∈ text.splitOn separator) : separator ∉ run := by
  induction text generalizing run with
  | nil =>
    rw [List.splitOn_nil, List.mem_singleton] at h
    rw [h]
    exact List.not_mem_nil
  | cons c text ih =>
    rw [List.splitOn_cons_eq_if_modifyHead] at h
    split at h
    · rcases List.mem_cons.mp h with rfl | h
      · exact List.not_mem_nil
      · exact ih h
    · next hc =>
      -- The character belongs to the first run of the rest of the text.
      cases hrest : text.splitOn separator with
      | nil => exact absurd hrest (List.splitOn_ne_nil separator text)
      | cons first others =>
        rw [hrest, List.modifyHead_cons] at h
        rw [hrest] at ih
        rcases List.mem_cons.mp h with rfl | h
        · rw [List.mem_cons, not_or]
          exact ⟨fun e => hc (beq_iff_eq.mpr e.symm), ih (List.mem_cons_self ..)⟩
        · exact ih (List.mem_cons_of_mem _ h)

/-- No piece of a line holds a space. -/
theorem not_mem_of_mem_pieces {line piece : String} (h : piece ∈ pieces line) :
    ' ' ∉ piece.toList := by
  obtain ⟨run, hrun, rfl⟩ := List.mem_map.mp h
  rw [String.toList_ofList]
  exact not_mem_of_mem_splitOn hrun

theorem pieces_ne_nil (line : String) : pieces line ≠ [] := by
  unfold pieces
  rw [Ne, List.map_eq_nil_iff]
  exact List.splitOn_ne_nil ' ' line.toList

/-- **Texts without spaces are the pieces of the line that joins them.** -/
theorem pieces_join {texts : List String} (hne : texts ≠ [])
    (h : ∀ text ∈ texts, ' ' ∉ text.toList) : pieces (join texts) = texts := by
  have hsplit : (join texts).toList.splitOn ' ' = texts.map String.toList := by
    rw [toList_join]
    refine List.splitOn_intercalate ' ' ?_ (by simpa using hne)
    intro run hrun
    obtain ⟨text, htext, rfl⟩ := List.mem_map.mp hrun
    exact h text htext
  have hback : String.ofList ∘ String.toList = id := funext fun _ => String.ofList_toList
  rw [pieces, hsplit, List.map_map, hback, List.map_id]

/-! ## Invocations -/

theorem spellable_iff {call : Invocation} :
    call.Spellable ↔
      (∀ piece ∈ call.token :: call.args, ' ' ∉ piece.toList) ∧ isBlankLine call.line = false := by
  have hblank : isBlankLine call.line = true ↔
      ∀ piece ∈ call.token :: call.args, ∀ c ∈ piece.toList, Text.isBlank c = true := by
    rw [line, isBlankLine_join]
    simp only [isBlankLine_iff]
  rw [← Bool.not_eq_true, hblank]
  exact ⟨fun h => ⟨h.unspaced, h.unblank⟩, fun h => ⟨h.1, h.2⟩⟩

/-- **A line spells nothing exactly if it is blank.** -/
theorem ofLine?_eq_none_iff {line : String} :
    ofLine? line = none ↔ isBlankLine line = true := by
  unfold ofLine?
  split
  · next hb => exact iff_of_true rfl hb
  · next hb =>
    refine iff_of_false ?_ hb
    cases hp : pieces line with
    | nil => exact absurd hp (pieces_ne_nil line)
    | cons token args => exact Option.some_ne_none _

theorem ofLine?_eq_some_iff_pieces {line : String} {call : Invocation} :
    ofLine? line = some call ↔
      isBlankLine line = false ∧ pieces line = call.token :: call.args := by
  unfold ofLine?
  split
  · next hb => exact iff_of_false (by simp) (by simp [hb])
  · next hb =>
    rw [Bool.not_eq_true] at hb
    cases hp : pieces line with
    | nil => exact absurd hp (pieces_ne_nil line)
    | cons token args =>
      obtain ⟨token', args'⟩ := call
      simp [hb]

/-- **A line spells an invocation exactly if the invocation can be spelled and is written that
way.** -/
theorem ofLine?_eq_some_iff {line : String} {call : Invocation} :
    ofLine? line = some call ↔ call.Spellable ∧ call.line = line := by
  constructor
  · intro h
    have hline := line_ofLine? h
    obtain ⟨hblank, hpieces⟩ := ofLine?_eq_some_iff_pieces.mp h
    refine ⟨spellable_iff.mpr ⟨fun piece hpiece => ?_, hline ▸ hblank⟩, hline⟩
    exact not_mem_of_mem_pieces (hpieces ▸ hpiece)
  · rintro ⟨hcall, rfl⟩
    obtain ⟨hspaces, hblank⟩ := spellable_iff.mp hcall
    exact ofLine?_eq_some_iff_pieces.mpr ⟨hblank, pieces_join (List.cons_ne_nil _ _) hspaces⟩

/-- Texts without spaces are joined by one space fewer than there are texts. -/
theorem count_space_join {head : String} {rest : List String}
    (h : ∀ text ∈ head :: rest, ' ' ∉ text.toList) :
    (join (head :: rest)).toList.count ' ' = rest.length := by
  induction rest generalizing head with
  | nil =>
    rw [toList_join]
    exact List.count_eq_zero.mpr (by simpa using h)
  | cons next rest ih =>
    obtain ⟨hhead, hrest⟩ := List.forall_mem_cons.mp h
    rw [toList_join_cons_cons, List.count_append, List.count_eq_zero.mpr hhead,
      List.count_cons_self, ih hrest, Nat.zero_add, List.length_cons]

/-- **Every space of a line begins an argument**, so a space at the start, at the end or after
another one makes an empty piece. -/
theorem length_args {line : String} {call : Invocation} (h : ofLine? line = some call) :
    call.args.length = line.toList.count ' ' := by
  obtain ⟨hcall, rfl⟩ := ofLine?_eq_some_iff.mp h
  exact (count_space_join hcall.unspaced).symm

/-- **Lines that are not blank are in bijection with what they spell.** A line spells nothing
exactly if all its characters are blank. Any other line spells a token and arguments, as many as it
has spaces, without a space in any of them, and these joined by single spaces are the line. A token
and arguments without spaces, not all of them blank, are what the line that joins them spells. -/
theorem reads_what_is_spelled :
    (∀ line, ofLine? line = none ↔ ∀ c ∈ line.toList, Text.isBlank c = true) ∧
    (∀ line, (¬ ∀ c ∈ line.toList, Text.isBlank c = true) →
      ∃ token args, ofLine? line = some ⟨token, args⟩ ∧
        (∀ piece ∈ token :: args, ' ' ∉ piece.toList) ∧ join (token :: args) = line ∧
          args.length = line.toList.count ' ') ∧
    (∀ token args, (∀ piece ∈ token :: args, ' ' ∉ piece.toList) →
      (¬ ∀ piece ∈ token :: args, ∀ c ∈ piece.toList, Text.isBlank c = true) →
        ofLine? (join (token :: args)) = some ⟨token, args⟩) ∧
    Set.BijOn ofLine? {line | ¬ ∀ c ∈ line.toList, Text.isBlank c = true}
      (some '' {call | call.Spellable}) := by
  have hnone : ∀ line, ofLine? line = none ↔ ∀ c ∈ line.toList, Text.isBlank c = true :=
    fun line => ofLine?_eq_none_iff.trans isBlankLine_iff
  have hsome : ∀ line, (¬ ∀ c ∈ line.toList, Text.isBlank c = true) →
      ∃ call, ofLine? line = some call ∧ call.Spellable ∧ call.line = line := by
    intro line hline
    rw [← hnone] at hline
    obtain ⟨call, hcall⟩ := Option.ne_none_iff_exists'.mp hline
    exact ⟨call, hcall, ofLine?_eq_some_iff.mp hcall⟩
  have hback : ∀ call : Invocation, call.Spellable → ofLine? call.line = some call :=
    fun call hcall => ofLine?_eq_some_iff.mpr ⟨hcall, rfl⟩
  refine ⟨hnone, fun line hline => ?_, fun token args hspaces hblank => ?_, ?_, ?_, ?_⟩
  · obtain ⟨call, hcall, hspellable, hwritten⟩ := hsome line hline
    exact ⟨call.token, call.args, hcall, hspellable.unspaced, hwritten, length_args hcall⟩
  · exact hback ⟨token, args⟩ ⟨hspaces, hblank⟩
  · intro line hline
    obtain ⟨call, hcall, hspellable, -⟩ := hsome line hline
    exact ⟨call, hspellable, hcall.symm⟩
  · intro line hline other _ heq
    obtain ⟨call, hcall, -, hwritten⟩ := hsome line hline
    obtain ⟨-, hother⟩ := ofLine?_eq_some_iff.mp (heq ▸ hcall)
    exact hwritten.symm.trans hother
  · rintro _ ⟨call, hcall, rfl⟩
    refine ⟨call.line, fun hblank => ?_, hback call hcall⟩
    rw [← hnone, hback call hcall] at hblank
    exact Option.some_ne_none call hblank

/-- Spaces at both ends make empty pieces and a tab stays in its piece, while a line of other blank
characters spells nothing. -/
theorem reads_what_is_spelled_untidy :
    let line := " a\tb  "
    let pieces := ["", "a\tb", "", ""]
    ofLine? "\t\u00A0\u3000" = none ∧
      (¬ ∀ c ∈ line.toList, Text.isBlank c = true) ∧
      (∃ token args, ofLine? line = some ⟨token, args⟩ ∧ join (token :: args) = line ∧
        args.length = 3) ∧
      (∀ piece ∈ pieces, ' ' ∉ piece.toList) ∧
      (¬ ∀ piece ∈ pieces, ∀ c ∈ piece.toList, Text.isBlank c = true) ∧
      ofLine? line = some ⟨"", ["a\tb", "", ""]⟩ := by
  intro line pieces
  obtain ⟨hnone, hsome, hback, -⟩ := reads_what_is_spelled
  have hblank : ∀ c ∈ "\t\u00A0\u3000".toList, Text.isBlank c = true :=
    List.all_eq_true.mp (by decide)
  have hline : ¬ ∀ c ∈ line.toList, Text.isBlank c = true :=
    fun h => absurd (h 'a' (by decide)) (by decide)
  have hspaces : ∀ piece ∈ pieces, ' ' ∉ piece.toList := by decide
  have hpieces : ¬ ∀ piece ∈ pieces, ∀ c ∈ piece.toList, Text.isBlank c = true :=
    fun h => absurd (h "a\tb" (by decide) 'a' (by decide)) (by decide)
  obtain ⟨token, args, hread, -, hjoin, hlength⟩ := hsome line hline
  have hthree : args.length = 3 := hlength.trans (by decide)
  exact ⟨(hnone _).mpr hblank, hline, ⟨token, args, hread, hjoin, hthree⟩, hspaces, hpieces,
    hback "" ["a\tb", "", ""] hspaces hpieces⟩

end CommandConsole.Invocation
