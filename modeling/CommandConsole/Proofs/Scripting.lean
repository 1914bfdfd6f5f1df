import CommandConsole.KeyScript
import Mathlib.Data.List.Basic

/-!
# Key scripts and their lines

Reading a line and writing a script undo each other as far as two notations that share the backslash
can. Names of keys always read back; a text does unless it would be taken for the other notation.
Whatever can be read is what some script stands for, and only names can be wrong.

Results:
* `Text.words_append`, `Text.words_of_unblank`, `Text.words_intercalate`: the words of a text.
* `mapM_eq_error_iff`: the first failure is the failure of a list.
* `keys_of_marked`, `keys_of_not_marked`: the two notations.
* `keys_directive`, `keys_entered_iff`, `keys_completed_iff`: **when a script reads back.**
* `exists_script_of_keys`: every reading is that of a script.
* `keys_eq_error_iff`: **when a line is wrong, and which word is to blame.**
* `reads_what_is_printed`: all of it.
-/

namespace CommandConsole

/-! ## Words -/

namespace Text

/-- **A blank character cuts a text in two.** -/
theorem words_append {front rest : List Char} {c : Char} (h : isBlank c = true) :
    words (front ++ c :: rest) = words front ++ words rest := by
  unfold words
  rw [List.splitOnP_append_cons front rest h, List.filter_append]

/-- A text without blank characters is one word. -/
theorem words_of_unblank {run : List Char} (hne : run ≠ []) (h : ∀ c ∈ run, isBlank c = false) :
    words run = [run] := by
  unfold words
  rw [List.splitOnP_eq_singleton h]
  exact List.filter_cons_of_pos (by simpa using hne)

/-- **Words are read back from the text that joins them by spaces.** -/
theorem words_intercalate {runs : List (List Char)} (hne : ∀ run ∈ runs, run ≠ [])
    (h : ∀ run ∈ runs, ∀ c ∈ run, isBlank c = false) : words ([' '].intercalate runs) = runs := by
  induction runs with
  | nil => rfl
  | cons run runs ih =>
    obtain ⟨hrun, hruns⟩ := List.forall_mem_cons.mp hne
    obtain ⟨hunblank, hrest⟩ := List.forall_mem_cons.mp h
    have hword := words_of_unblank hrun hunblank
    cases runs with
    | nil => simpa using hword
    | cons next runs =>
      rw [List.intercalate_cons_cons, List.append_assoc, List.singleton_append,
        words_append isBlank_space, hword, ih hruns hrest]
      rfl

end Text

namespace KeyScript

variable {line text : String} {rest : List Char} {ks : List Key}

/-! ## Names -/

/-- The names of the keys that have one. -/
def keyNames : List String := ["up", "down", "tab", "toggle", "bs", "enter"]

theorem NamedKey.ofName?_isSome_iff {name : String} :
    (NamedKey.ofName? name).isSome = true ↔ name ∈ keyNames := by
  have hfound : ∀ name ∈ keyNames, (NamedKey.ofName? name).isSome = true := by decide
  refine ⟨fun h => ?_, hfound name⟩
  obtain ⟨named, hnamed⟩ := Option.isSome_iff_exists.mp h
  obtain rfl : named.name = name := by simpa using List.find?_some hnamed
  cases named <;> decide

theorem NamedKey.key_ne_char (named : NamedKey) (c : Char) : named.key ≠ .char c := by
  cases named <;> exact Key.noConfusion

/-- The keys that the words name, those that name none left out. -/
def namedKeys (words : List (List Char)) : List NamedKey :=
  words.filterMap fun word => NamedKey.ofName? (nameOfWord word)

/-- The first word that names no key. -/
def firstUnnamed? (words : List (List Char)) : Option (List Char) :=
  words.find? fun word => (NamedKey.ofName? (nameOfWord word)).isNone

/-- **The first word that names no key is to blame**; without one, every word is a key. -/
theorem mapM_keyOfWord (words : List (List Char)) :
    words.mapM keyOfWord =
      match firstUnnamed? words with
      | some word => .error ⟨nameOfWord word⟩
      | none => .ok ((namedKeys words).map NamedKey.key) := by
  induction words with
  | nil => rfl
  | cons word words ih =>
    unfold firstUnnamed? namedKeys at ih ⊢
    rw [List.mapM_cons, keyOfWord]
    cases hname : NamedKey.ofName? (nameOfWord word) with
    | none =>
      rw [List.find?_cons_of_pos (by rw [hname]; rfl)]
      rfl
    | some named =>
      rw [List.find?_cons_of_neg (by rw [hname]; exact Bool.false_ne_true), List.filterMap_cons,
        hname, ih]
      cases words.find? fun word => (NamedKey.ofName? (nameOfWord word)).isNone <;> rfl

theorem firstUnnamed?_eq_some_iff {words : List (List Char)} {word : List Char} :
    firstUnnamed? words = some word ↔
      nameOfWord word ∉ keyNames ∧ ∃ before after, words = before ++ word :: after ∧
        ∀ other ∈ before, nameOfWord other ∈ keyNames := by
  unfold firstUnnamed?
  simp only [List.find?_eq_some_iff_append, Option.isNone_iff_eq_none, Bool.not_eq_true',
    ← NamedKey.ofName?_isSome_iff, Option.not_isSome_iff_eq_none, Option.isNone_eq_false_iff]

/-! ## The two notations -/

/-- The line begins with the character that introduces names of keys. -/
def Marked (line : String) : Prop :=
  [marker] <+: line.toList

/-- The line ends in what asks for completion. -/
def EndsInTab (line : String) : Prop :=
  tabEnding <:+ line.toList

instance (line : String) : Decidable (Marked line) :=
  inferInstanceAs (Decidable (_ <+: _))

instance (line : String) : Decidable (EndsInTab line) :=
  inferInstanceAs (Decidable (_ <:+ _))

theorem toList_of_marked (h : Marked line) : ∃ rest, line.toList = '\\' :: rest := by
  obtain ⟨rest, hrest⟩ := h
  exact ⟨rest, hrest.symm⟩

theorem keys_of_marked (h : line.toList = '\\' :: rest) :
    keys line = (Text.words rest).mapM keyOfWord := by
  unfold keys
  rw [h]
  rfl

theorem keys_of_not_marked (h : ¬ Marked line) : keys line = .ok (keysOfText line.toList) := by
  unfold keys
  split
  · next rest hline => exact absurd ⟨rest, hline.symm⟩ h
  · rfl

/-- A text that asks for nothing else is typed and submitted. -/
theorem keys_entered (h : ¬ Marked text) (htab : ¬ EndsInTab text) :
    keys (Script.entered text).line = .ok (Script.entered text).keys := by
  have hending : ¬ tabEnding.isSuffixOf text.toList = true :=
    mt List.isSuffixOf_iff_suffix.mp htab
  rw [Script.line, keys_of_not_marked h, keysOfText, if_neg hending]
  rfl

theorem toList_completed (text : String) :
    (Script.completed text).line.toList = text.toList ++ tabEnding := by
  rw [Script.line, String.toList_append, String.toList_ofList]

theorem exists_completed_of_endsInTab (h : EndsInTab line) :
    ∃ text, line = (Script.completed text).line := by
  obtain ⟨front, hfront⟩ := h
  refine ⟨String.ofList front, String.toList_injective ?_⟩
  rw [toList_completed, String.toList_ofList, hfront]

/-- What is in front of the ending is typed and completed. -/
theorem keys_completed (h : ¬ Marked (Script.completed text).line) :
    keys (Script.completed text).line = .ok (Script.completed text).keys := by
  have hending : tabEnding.isSuffixOf (text.toList ++ tabEnding) = true :=
    List.isSuffixOf_iff_suffix.mpr (List.suffix_append _ _)
  rw [keys_of_not_marked h, toList_completed, keysOfText, if_pos hending, List.length_append,
    Nat.add_sub_cancel, List.take_left]
  rfl

/-- **Names of keys read back**, whichever and however many. -/
theorem keys_directive (names : List NamedKey) :
    keys (Script.directive names).line = .ok (names.map NamedKey.key) := by
  let runs := names.map fun named => named.name.toList
  have hline : (Script.directive names).line.toList = '\\' :: [' '].intercalate runs := by
    simp [Script.line, runs, String.toList_intercalate, Function.comp_def]
  have hword : ∀ named : NamedKey, named.name.toList ≠ [] ∧
      named.name.toList.any Text.isBlank = false ∧
        nameOfWord named.name.toList = named.name := by
    intro named
    cases named <;> decide
  have hwords : Text.words ([' '].intercalate runs) = runs := by
    refine Text.words_intercalate ?_ ?_
    · exact List.forall_mem_map.mpr fun named _ => (hword named).1
    · exact List.forall_mem_map.mpr fun named _ c hc =>
        Bool.eq_false_iff.mpr (List.any_eq_false.mp (hword named).2.1 c hc)
  have hnamed : ∀ named ∈ names,
      NamedKey.ofName? (nameOfWord named.name.toList) = some named := fun named _ => by
    rw [(hword named).2.2, NamedKey.ofName?_name]
  have hall : firstUnnamed? runs = none := by
    refine List.find?_eq_none.mpr (List.forall_mem_map.mpr fun named hmem => ?_)
    rw [hnamed named hmem]
    exact Bool.false_ne_true
  have hkeys : namedKeys runs = names := by
    unfold namedKeys
    rw [List.filterMap_map]
    exact (List.filterMap_congr hnamed).trans List.filterMap_some
  rw [keys_of_marked hline, hwords, mapM_keyOfWord, hall, hkeys]

/-- A line with names types no character. -/
theorem keys_ne_of_marked (h : Marked line) (c : Char) (ks : List Key) :
    keys line ≠ .ok (.char c :: ks) := by
  obtain ⟨rest, hline⟩ := toList_of_marked h
  rw [keys_of_marked hline, mapM_keyOfWord]
  cases firstUnnamed? (Text.words rest) with
  | some word => exact fun h => by cases h
  | none =>
    intro hkeys
    obtain ⟨named, others, -, hkey, -⟩ := List.map_eq_cons_iff.mp (Except.ok.inj hkeys)
    exact named.key_ne_char c hkey

/-! ## Reading back -/

/-- The keys of a text that begins with a backslash are those of no line with names. -/
theorem not_marked_of_typed {last : Key}
    (h : keys line = .ok (text.toList.map Key.char ++ [last]))
    (hmarked : Marked text → Marked line) : ¬ Marked text := by
  intro htext
  obtain ⟨rest, hrest⟩ := toList_of_marked htext
  rw [hrest] at h
  exact keys_ne_of_marked (hmarked htext) '\\' (rest.map Key.char ++ [last]) h

/-- **When a submitted text reads back.** -/
theorem keys_entered_iff :
    keys (Script.entered text).line = .ok (Script.entered text).keys ↔
      ¬ Marked text ∧ ¬ EndsInTab text := by
  refine ⟨fun h => ?_, fun h => keys_entered h.1 h.2⟩
  have hunmarked : ¬ Marked text := not_marked_of_typed h id
  refine ⟨hunmarked, fun htab => ?_⟩
  obtain ⟨front, rfl⟩ := exists_completed_of_endsInTab htab
  have hsame : Script.keys (.completed front) = Script.keys (.entered _) :=
    Except.ok.inj ((keys_completed hunmarked).symm.trans h)
  -- The last key is the one for completion on one side, and enter on the other.
  have hlast := congrArg List.getLast? hsame
  simp [Script.keys] at hlast

/-- A completed text makes a line with names out of one without only if it is empty. -/
theorem marked_completed_iff (hne : text ≠ "") :
    Marked (Script.completed text).line ↔ Marked text := by
  unfold Marked
  rw [toList_completed]
  cases htext : text.toList with
  | nil => exact absurd (String.toList_injective htext) hne
  | cons c rest => simp [List.cons_prefix_cons]

/-- **When a completed text reads back.** The empty one makes a line with a name, which is that of
the key that follows the text. -/
theorem keys_completed_iff :
    keys (Script.completed text).line = .ok (Script.completed text).keys ↔ ¬ Marked text := by
  by_cases hempty : text = ""
  · subst hempty
    exact iff_of_true rfl (by decide)
  · rw [← marked_completed_iff hempty]
    refine ⟨fun h => ?_, keys_completed⟩
    rw [marked_completed_iff hempty]
    exact not_marked_of_typed h (marked_completed_iff hempty).mpr

/-- **Every reading is that of a script which reads back.** -/
theorem exists_script_of_keys (h : keys line = .ok ks) :
    ∃ script : Script, script.keys = ks ∧ keys script.line = .ok ks := by
  by_cases hmarked : Marked line
  · obtain ⟨rest, hline⟩ := toList_of_marked hmarked
    rw [keys_of_marked hline, mapM_keyOfWord] at h
    cases hfirst : firstUnnamed? (Text.words rest) with
    | some word =>
      rw [hfirst] at h
      cases h
    | none =>
      rw [hfirst] at h
      obtain rfl := Except.ok.inj h
      exact ⟨.directive (namedKeys (Text.words rest)), rfl, keys_directive _⟩
  · by_cases htab : EndsInTab line
    · obtain ⟨text, rfl⟩ := exists_completed_of_endsInTab htab
      rw [keys_completed hmarked] at h
      exact ⟨.completed text, Except.ok.inj h, (keys_completed hmarked).trans h⟩
    · have hentered : keys line = .ok (Script.entered line).keys := keys_entered hmarked htab
      rw [hentered] at h
      exact ⟨.entered line, Except.ok.inj h, hentered.trans h⟩

theorem keys_eq_error_iff_firstUnnamed? {unknown : UnknownKey} (h : line.toList = '\\' :: rest) :
    keys line = .error unknown ↔
      ∃ word, firstUnnamed? (Text.words rest) = some word ∧ unknown.word = nameOfWord word := by
  rw [keys_of_marked h, mapM_keyOfWord]
  cases firstUnnamed? (Text.words rest) with
  | none => exact iff_of_false (fun h => by cases h) (by simp)
  | some word =>
    simp only [Except.error.injEq, Option.some.injEq, exists_eq_left']
    exact ⟨fun h => h ▸ rfl, fun h => congrArg UnknownKey.mk h.symm⟩

/-- **When a line with names is wrong.** -/
theorem exists_keys_eq_error_iff (h : line.toList = '\\' :: rest) :
    (∃ unknown, keys line = .error unknown) ↔
      ∃ word ∈ Text.words rest, nameOfWord word ∉ keyNames := by
  have hsome : (firstUnnamed? (Text.words rest)).isSome = true ↔
      ∃ word ∈ Text.words rest, nameOfWord word ∉ keyNames := by
    unfold firstUnnamed?
    simp only [List.find?_isSome, Option.isNone_iff_eq_none, ← NamedKey.ofName?_isSome_iff,
      Bool.not_eq_true, Option.isSome_eq_false_iff]
  rw [← hsome, Option.isSome_iff_exists]
  simp only [keys_eq_error_iff_firstUnnamed? h]
  constructor
  · rintro ⟨unknown, word, hword, -⟩
    exact ⟨word, hword⟩
  · rintro ⟨word, hword⟩
    exact ⟨⟨nameOfWord word⟩, word, hword, rfl⟩

/-- **Which word is to blame**: the first that names no key. -/
theorem keys_eq_error_iff {unknown : UnknownKey} (h : line.toList = '\\' :: rest) :
    keys line = .error unknown ↔ ∃ before word after, Text.words rest = before ++ word :: after ∧
      (∀ other ∈ before, nameOfWord other ∈ keyNames) ∧ nameOfWord word ∉ keyNames ∧
        unknown.word = nameOfWord word := by
  simp only [keys_eq_error_iff_firstUnnamed? h, firstUnnamed?_eq_some_iff]
  constructor
  · rintro ⟨word, ⟨hword, before, after, hwords, hbefore⟩, hunknown⟩
    exact ⟨before, word, after, hwords, hbefore, hword, hunknown⟩
  · rintro ⟨before, word, after, hwords, hbefore, hword, hunknown⟩
    exact ⟨word, ⟨hword, before, after, hwords, hbefore⟩, hunknown⟩

/-- **Reading lines and writing scripts.** Keys that have names read back, in any number; a text
that is submitted does exactly if it neither begins with a backslash nor ends in what asks for
completion, and a text that is completed exactly if it does not begin with a backslash. Whatever is
read is what one of these scripts stands for that reads back. A line that does not begin with a
backslash is never wrong; any other is wrong exactly if some word of its rest is, without the
backslashes in front, none of the six names, and the error names the first such word. -/
theorem reads_what_is_printed :
    (∀ names, keys (Script.directive names).line = .ok (names.map NamedKey.key)) ∧
    (∀ text, keys (Script.entered text).line = .ok (text.toList.map Key.char ++ [.enter]) ↔
      ¬ Marked text ∧ ¬ EndsInTab text) ∧
    (∀ text, keys (Script.completed text).line = .ok (text.toList.map Key.char ++ [.tab]) ↔
      ¬ Marked text) ∧
    (∀ line ks, keys line = .ok ks →
      ∃ script : Script, script.keys = ks ∧ keys script.line = .ok ks) ∧
    (∀ line, ¬ Marked line → ∃ ks, keys line = .ok ks) ∧
    ∀ line rest, line.toList = '\\' :: rest →
      ((∃ unknown, keys line = .error unknown) ↔
        ∃ word ∈ Text.words rest, nameOfWord word ∉ keyNames) ∧
      ∀ unknown, keys line = .error unknown →
        ∃ before word after, Text.words rest = before ++ word :: after ∧
          (∀ other ∈ before, nameOfWord other ∈ keyNames) ∧ nameOfWord word ∉ keyNames ∧
            unknown.word = nameOfWord word ∧
              unknown.message = "unknown key '\\" ++ nameOfWord word ++
                "' (up, down, tab, toggle, bs, enter)" := by
  refine ⟨keys_directive, fun text => keys_entered_iff, fun text => keys_completed_iff,
    fun line ks => exists_script_of_keys, fun line h => ⟨_, keys_of_not_marked h⟩,
    fun line rest hline => ⟨exists_keys_eq_error_iff hline, fun unknown h => ?_⟩⟩
  obtain ⟨before, word, after, hwords, hbefore, hword, hunknown⟩ := (keys_eq_error_iff hline).mp h
  refine ⟨before, word, after, hwords, hbefore, hword, hunknown, ?_⟩
  rw [← hunknown]
  rfl

/-- An ideographic space cuts words, a word may have any number of backslashes in front, the second
wrong word is not blamed, and backslashes alone are a wrong word; the line `\tab` is a name. -/
theorem reads_what_is_printed_blamed :
    let line := "\\ up \\\\bs\u3000\\left \\\\"
    let rest := " up \\\\bs\u3000\\left \\\\".toList
    line.toList = '\\' :: rest ∧ keys line = .error ⟨"left"⟩ ∧
      (∃ word ∈ Text.words rest, nameOfWord word ∉ keyNames) ∧
      (∃ before word after, Text.words rest = before ++ word :: after ∧
        (∀ other ∈ before, nameOfWord other ∈ keyNames) ∧ nameOfWord word ∉ keyNames ∧
          "left" = nameOfWord word) ∧
      keys "\\tab" = .ok [.tab] ∧ keys "a\\tab" ≠ .ok ("a\\tab".toList.map Key.char ++ [.enter]) ∧
      ¬ Marked "a\\" ∧ (∃ ks, keys "a\\" = .ok ks) := by
  intro line rest
  have hline : line.toList = '\\' :: rest := by decide
  have hkeys : keys line = .error ⟨"left"⟩ := by decide
  have hunmarked : ¬ Marked "a\\" := by decide
  obtain ⟨-, hentered, hcompleted, -, hnever, hwrong⟩ := reads_what_is_printed
  obtain ⟨hfails, hblames⟩ := hwrong line rest hline
  obtain ⟨before, word, after, hwords, hbefore, hword, hunknown, -⟩ := hblames _ hkeys
  exact ⟨hline, hkeys, hfails.mp ⟨_, hkeys⟩,
    ⟨before, word, after, hwords, hbefore, hword, hunknown⟩, (hcompleted "").mpr (by decide),
    fun h => ((hentered _).mp h).2 (by decide), hunmarked, hnever _ hunmarked⟩

end KeyScript

end CommandConsole
