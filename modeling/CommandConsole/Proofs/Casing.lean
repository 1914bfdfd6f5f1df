import CommandConsole.Command.Scripted
import CommandConsole.Proofs.Narrowing
import Mathlib.Data.List.Forall2

/-!
# Typing in another case

Completion looks at the typed text and at the tokens in lower case only, character by character.
What it needs to know of a text is therefore the list of the lower-case forms of its characters
(`Text.caseless`): how long the text is, where it is cut to the length of a token, and also whether
it has a blank character, because the lower-case forms of a character are blank exactly if the
character is. So the position of the suggestion is computed from texts without their case.

The case of what is typed shows elsewhere, as a submitted line is looked up as it is. It never comes
back from there to the input field but as a recalled line, which differs in its case again. So two
consoles that differ in the case of what is typed stay so, and completing makes their texts equal or
changes neither.

Results:
* `Text.isBlank_of_mem_lower`: lower case keeps blank characters blank, and the others not.
* `Completion.map_idxOf_suggest`: **the position of a suggestion, without case.**
* `Completion.exists_suggest_of_front`: the beginning of a token is completed in any case.
* `Session.SameButCase.act`, `Console.sameButCase_run`: what differs in case goes on to differ in
  case only.
* `Console.completion_ignores_case`: **completion ignores case**, of the tokens and of the text.
-/

namespace CommandConsole

open Log Text

namespace Text

/-- A text without its case: the lower-case form of every character. Texts that are equal so have
equally many characters, and each of them has the lower-case form of the one in its place. -/
def caseless (text : String) : List (List Char) :=
  text.toList.map lower

theorem length_caseless (text : String) : (caseless text).length = text.toList.length :=
  List.length_map _

theorem caseless_eq_nil_iff {text : String} : caseless text = [] ↔ text = "" := by
  rw [caseless, List.map_eq_nil_iff, String.toList_eq_nil_iff]

/-- The lower-case form of a text, cut behind as many of its characters. -/
theorem lowerAll_take_eq (text : String) (n : Nat) :
    lowerAll (text.toList.take n) = ((caseless text).take n).flatten := by
  rw [caseless, ← List.map_take, ← List.flatMap_def]
  rfl

/-! ## Blank characters -/

/-- No character that has another lower-case form is blank, and neither is that form: the runs of
the table and their targets lie beside the ranges of blank characters. -/
theorem caseRuns_beside_blankRanges : ∀ run ∈ caseRuns, ∀ range ∈ blankRanges,
    0 < range.1 ∧ (run.last < range.1 ∨ range.2 < run.first) ∧
      (run.target + (run.last - run.first) < range.1 ∨ range.2 < run.target) := by
  decide +kernel

theorem isBlank_eq_false_iff {c : Char} :
    isBlank c = false ↔ ∀ range ∈ blankRanges, range.1 ≤ c.toNat → range.2 < c.toNat := by
  simp only [isBlank, List.any_eq_false, Bool.and_eq_true, decide_eq_true_eq, not_and, Nat.not_le]

/-- A number that is no code point is read as zero. -/
theorem toNat_ofNat_or (n : Nat) : (Char.ofNat n).toNat = n ∨ (Char.ofNat n).toNat = 0 := by
  by_cases h : n.isValidChar
  · exact .inl (congrArg Char.toNat (dif_pos h))
  · exact .inr (congrArg Char.toNat (dif_neg h))

/-- **Lower case keeps blank characters blank, and the others not.** -/
theorem isBlank_of_mem_lower {c d : Char} (h : d ∈ lower c) : isBlank d = isBlank c := by
  unfold lower at h
  split at h
  · next hdotted =>
    rw [hdotted]
    rcases List.mem_pair.mp h with rfl | rfl
    · decide
    · decide
  split at h
  · next run hfind =>
    have hrun := caseRuns_beside_blankRanges run (List.mem_of_find?_eq_some hfind)
    have hholds : run.holds c.toNat = true := by simpa using List.find?_some hfind
    simp only [CaseRun.holds, Bool.and_eq_true, decide_eq_true_eq] at hholds
    obtain ⟨⟨hfirst, hlast⟩, -⟩ := hholds
    have hform := List.mem_singleton.mp h
    have hc : isBlank c = false := isBlank_eq_false_iff.mpr fun range hrange hle => by
      obtain ⟨-, hsource, -⟩ := hrun range hrange
      omega
    have hd : isBlank d = false := isBlank_eq_false_iff.mpr fun range hrange hle => by
      obtain ⟨hpos, -, htarget⟩ := hrun range hrange
      rw [hform] at hle ⊢
      -- Every target is a code point, but as zero is not blank either this need not be checked.
      rcases toNat_ofNat_or (run.target + (c.toNat - run.first)) with heq | heq
      · omega
      · omega
    rw [hc, hd]
  · rw [List.mem_singleton.mp h]

theorem any_isBlank_lower (c : Char) : (lower c).any isBlank = isBlank c := by
  obtain ⟨form, hform⟩ := List.exists_mem_of_ne_nil _ (lower_ne_nil c)
  cases h : isBlank c with
  | true => exact List.any_eq_true.mpr ⟨form, hform, (isBlank_of_mem_lower hform).trans h⟩
  | false =>
    refine List.any_eq_false.mpr fun d hd => ?_
    rw [isBlank_of_mem_lower hd, h]
    exact Bool.false_ne_true

end Text

/-! ## Suggestions -/

namespace Completion

variable {minChars : Nat} {tokens : List String} {typed typed' token : String}

/-- Whether two texts, without their case, agree on as many characters as both have. -/
def overlaps (typed token : List (List Char)) : Bool :=
  let common := min token.length typed.length
  (token.take common).flatten == (typed.take common).flatten

/-- Where the token stands that a text is completed to, told from the text and the tokens without
their case. -/
def suggestedAt? (minChars : Nat) (tokens : List (List (List Char)))
    (typed : List (List Char)) : Option Nat :=
  if minChars ≤ typed.length ∧ typed.any (·.any isBlank) = false then
    tokens.findIdx? (overlaps typed)
  else none

theorem agrees_eq_overlaps (typed token : String) :
    agrees typed.toList token.toList = overlaps (caseless typed) (caseless token) := by
  simp only [agrees, overlaps, lowerAll_take_eq, length_caseless]

theorem isCompletable_iff_caseless :
    isCompletable minChars typed.toList = true ↔
      minChars ≤ (caseless typed).length ∧ (caseless typed).any (·.any isBlank) = false := by
  have hblank : (caseless typed).any (·.any isBlank) = typed.toList.any isBlank := by
    rw [caseless, List.any_map]
    exact congrArg typed.toList.any (funext any_isBlank_lower)
  rw [hblank, length_caseless, isCompletable, Bool.and_eq_true, decide_eq_true_eq,
    Bool.not_eq_true']

/-- What is found first stands where the search for it ended. -/
theorem map_idxOf_find? (p : String → Bool) (tokens : List String) :
    (tokens.find? p).map tokens.idxOf = tokens.findIdx? p := by
  rw [List.findIdx?_eq_bind_find?_idxOf?]
  cases h : tokens.find? p with
  | none => rfl
  | some found =>
    have hfound := List.isSome_idxOf?.mpr (List.mem_of_find?_eq_some h)
    obtain ⟨position, hposition⟩ := Option.isSome_iff_exists.mp hfound
    rw [Option.map_some, Option.bind_some, List.idxOf_eq_getD_idxOf?, hposition, Option.getD_some]

/-- **The position of a suggestion does not depend on case.** -/
theorem map_idxOf_suggest (minChars : Nat) (tokens : List String) (typed : String) :
    (suggest minChars tokens typed).map tokens.idxOf =
      suggestedAt? minChars (tokens.map caseless) (caseless typed) := by
  unfold suggest suggestedAt?
  by_cases h : isCompletable minChars typed.toList = true
  · rw [if_pos h, if_pos (isCompletable_iff_caseless.mp h), map_idxOf_find?, List.findIdx?_map]
    exact congrArg (tokens.findIdx? ·) (funext fun token => agrees_eq_overlaps typed token)
  · rw [if_neg h, if_neg (mt isCompletable_iff_caseless.mpr h)]
    rfl

/-- A text is completed to the same token in any case. -/
theorem suggest_eq_of_caseless (h : caseless typed = caseless typed') :
    suggest minChars tokens typed = suggest minChars tokens typed' := by
  have hplace : (suggest minChars tokens typed).map tokens.idxOf =
      (suggest minChars tokens typed').map tokens.idxOf := by
    rw [map_idxOf_suggest, map_idxOf_suggest, h]
  cases hfirst : suggest minChars tokens typed with
  | none =>
    rw [hfirst] at hplace
    exact (Option.map_eq_none_iff.mp hplace.symm).symm
  | some token =>
    rw [hfirst] at hplace
    obtain ⟨other, hother, hsame⟩ := Option.map_eq_some_iff.mp hplace.symm
    rw [hother, (List.idxOf_inj (suggest_mem hother)).mp hsame]

/-- **The beginning of a token is completed in any case**, to that token or to one in front of
it. -/
theorem exists_suggest_of_front {front : String}
    (hcompletable : isCompletable minChars typed.toList = true) (hmem : token ∈ tokens)
    (hfront : front.toList <+: token.toList) (h : caseless typed = caseless front) :
    ∃ first, suggest minChars tokens typed = some first ∧
      tokens.idxOf first ≤ tokens.idxOf token := by
  refine exists_suggest_le hcompletable hmem ?_
  rw [agrees_eq_overlaps, h, ← agrees_eq_overlaps, agrees_iff_take,
    ← List.prefix_iff_eq_take.mp hfront, List.take_of_length_le hfront.length_le]

end Completion

/-! ## Input fields and histories -/

/-- Two input fields that differ in the case of their texts. -/
structure InputField.SameButCase (a b : InputField) : Prop where
  text : caseless a.text = caseless b.text
  caret : a.caret = b.caret

namespace InputField.SameButCase

variable {a b : InputField}

theorem ofText {text text' : String} (h : caseless text = caseless text') :
    (InputField.ofText text).SameButCase (.ofText text') := by
  refine ⟨h, ?_⟩
  have hlength := congrArg List.length h
  rw [length_caseless, length_caseless, String.length_toList, String.length_toList] at hlength
  exact hlength

theorem insert (h : a.SameButCase b) {c d : Char} (hc : lower c = lower d) :
    (a.insert c).SameButCase (b.insert d) := by
  have htext := h.text
  unfold caseless at htext
  refine ⟨?_, congrArg (· + 1) h.caret⟩
  simp only [caseless, InputField.insert, String.toList_ofList, List.map_append, List.map_cons,
    List.map_take, List.map_drop, htext, h.caret, hc]

theorem deleteBack (h : a.SameButCase b) : a.deleteBack.SameButCase b.deleteBack := by
  have htext := h.text
  unfold caseless at htext
  unfold InputField.deleteBack
  by_cases hstart : a.caret = 0
  · rw [if_pos hstart, if_pos (h.caret ▸ hstart)]
    exact h
  · rw [if_neg hstart, if_neg (h.caret ▸ hstart)]
    refine ⟨?_, congrArg (· - 1) h.caret⟩
    simp only [caseless, String.toList_ofList, List.map_append, List.map_take, List.map_drop,
      htext, h.caret]

end InputField.SameButCase

/-- Two histories that differ in the case of their lines. -/
structure History.SameButCase (a b : History) : Prop where
  slots : a.slots.map caseless = b.slots.map caseless
  next : a.next = b.next
  cursor : a.cursor = b.cursor

namespace History.SameButCase

variable {a b : History}

theorem capacity_eq (h : a.SameButCase b) : a.capacity = b.capacity := by
  have hlength := congrArg List.length h.slots
  rw [List.length_map, List.length_map] at hlength
  exact hlength

theorem slot?_eq (h : a.SameButCase b) : a.slot?.map caseless = b.slot?.map caseless := by
  unfold slot?
  rw [← List.getElem?_map, ← List.getElem?_map, h.slots, h.cursor]

theorem store (h : a.SameButCase b) {line line' : String} (hline : caseless line = caseless line') :
    (a.store line).value.2.SameButCase (b.store line').value.2 := by
  have hcapacity := h.capacity_eq
  have hnext := h.next
  rcases Nat.eq_zero_or_pos a.capacity with hzero | hpos
  · rw [store_of_disabled hzero, store_of_disabled (hcapacity ▸ hzero)]
    exact h
  rcases Nat.lt_or_ge (a.next + 1) a.capacity with hroom | hfull
  · have hroom' : b.next + 1 < b.capacity := by omega
    rw [store_of_room hroom, store_of_room hroom']
    refine ⟨?_, congrArg (· + 1) hnext, congrArg (· + 1) hnext⟩
    rw [Logged.value_pure, Logged.value_pure, List.map_set, List.map_set, h.slots, hnext, hline]
  · have hfull' : b.capacity ≤ b.next + 1 := by omega
    rw [value_store_of_full hpos hfull, value_store_of_full (hcapacity ▸ hpos) hfull', hcapacity]
    exact ⟨rfl, rfl, rfl⟩

/-- Both recall a line or neither, and the cursors move together. -/
theorem older (h : a.SameButCase b) :
    a.older.1.map caseless = b.older.1.map caseless ∧ a.older.2.SameButCase b.older.2 := by
  unfold History.older
  by_cases hempty : a.next = 0
  · rw [if_pos hempty, if_pos (h.next ▸ hempty)]
    exact ⟨rfl, h⟩
  · rw [if_neg hempty, if_neg (h.next ▸ hempty)]
    have hmoved : SameButCase { a with cursor := a.cursor - 1 } { b with cursor := b.cursor - 1 } :=
      ⟨h.slots, h.next, congrArg (· - 1) h.cursor⟩
    exact ⟨hmoved.slot?_eq, hmoved⟩

theorem newer (h : a.SameButCase b) :
    a.newer.1.map caseless = b.newer.1.map caseless ∧ a.newer.2.SameButCase b.newer.2 := by
  unfold History.newer
  by_cases hend : a.next = 0 ∨ a.next ≤ a.cursor
  · rw [if_pos hend, if_pos (h.next ▸ h.cursor ▸ hend)]
    exact ⟨rfl, h⟩
  · rw [if_neg hend, if_neg (h.next ▸ h.cursor ▸ hend)]
    have hmoved : SameButCase { a with cursor := a.cursor + 1 } { b with cursor := b.cursor + 1 } :=
      ⟨h.slots, h.next, congrArg (· + 1) h.cursor⟩
    exact ⟨hmoved.slot?_eq, hmoved⟩

end History.SameButCase

/-! ## Sessions -/

namespace Session

/-- Two sessions with the same settings and tokens that differ in the case of what was typed. What
their commands do, what they showed, and whether a command asked to quit is left open. -/
structure SameButCase (a b : Session) : Prop where
  config : a.config = b.config
  tokens : a.registry.tokens = b.registry.tokens
  history : a.history.SameButCase b.history
  field : a.field.SameButCase b.field
  visible : a.visible = b.visible

namespace SameButCase

variable {a b : Session}

theorem refl (session : Session) : session.SameButCase session :=
  ⟨rfl, rfl, ⟨rfl, rfl, rfl⟩, ⟨rfl, rfl⟩, rfl⟩

theorem receive (h : a.SameButCase b) (messages messages' : List Message) :
    (a.receive messages).SameButCase (b.receive messages') :=
  ⟨h.config, h.tokens, h.history, h.field, h.visible⟩

theorem toggleVisibility (h : a.SameButCase b) :
    a.toggleVisibility.value.SameButCase b.toggleVisibility.value := by
  rw [value_toggleVisibility, value_toggleVisibility, h.visible]
  refine ⟨h.config, h.tokens, h.history, ?_, rfl⟩
  cases b.visible with
  | true => exact ⟨rfl, rfl⟩
  | false => exact h.field

/-- The lines may come to different outcomes; they are stored in both histories. -/
theorem submit (h : a.SameButCase b) : a.submit.value.SameButCase b.submit.value := by
  have hempty : a.field.text = "" ↔ b.field.text = "" := by
    rw [← caseless_eq_nil_iff, h.field.text, caseless_eq_nil_iff]
  by_cases htext : a.field.text = ""
  · rw [submit_of_empty htext, submit_of_empty (hempty.mp htext)]
    exact h
  · rw [value_submit htext, value_submit (mt hempty.mpr htext)]
    -- The two outcomes go to the transcript and to the request to quit, which are not compared.
    exact ⟨h.config, h.tokens, h.history.store h.field.text, ⟨rfl, rfl⟩, h.visible⟩

theorem recallOlder (h : a.SameButCase b) : a.recallOlder.SameButCase b.recallOlder := by
  obtain ⟨hline, hhistory⟩ := h.history.older
  have htext : caseless (a.history.older.1.getD a.field.text) =
      caseless (b.history.older.1.getD b.field.text) := by
    rw [← Option.getD_map caseless, ← Option.getD_map caseless, hline, h.field.text]
  exact ⟨h.config, h.tokens, hhistory, .ofText htext, h.visible⟩

theorem recallNewer (h : a.SameButCase b) : a.recallNewer.SameButCase b.recallNewer := by
  obtain ⟨hline, hhistory⟩ := h.history.newer
  unfold Session.recallNewer
  revert hline hhistory
  rcases a.history.newer with ⟨line?, history⟩
  rcases b.history.newer with ⟨line?', history'⟩
  intro hline hhistory
  match line?, line?', hline with
  | none, none, _ => exact ⟨h.config, h.tokens, hhistory, h.field, h.visible⟩
  | some line, some line', hline =>
    exact ⟨h.config, h.tokens, hhistory, .ofText (Option.some.inj hline), h.visible⟩

theorem suggest_eq (h : a.SameButCase b) :
    Completion.suggest a.config.minChars a.registry.tokens a.field.text =
      Completion.suggest b.config.minChars b.registry.tokens b.field.text := by
  rw [h.config, h.tokens, Completion.suggest_eq_of_caseless h.field.text]

/-- **Completing makes the texts equal, or changes neither.** -/
theorem complete (h : a.SameButCase b) : a.complete.SameButCase b.complete := by
  have hsuggest := h.suggest_eq
  unfold Session.complete
  cases hb : Completion.suggest b.config.minChars b.registry.tokens b.field.text with
  | none =>
    rw [hsuggest, hb]
    exact h
  | some token =>
    rw [hsuggest, hb]
    exact ⟨h.config, h.tokens, h.history, ⟨rfl, rfl⟩, h.visible⟩

theorem insert (h : a.SameButCase b) {c d : Char} (hc : lower c = lower d) :
    (a.act (.insert c)).value.SameButCase (b.act (.insert d)).value := by
  by_cases hv : a.visible = true
  · rw [act_of_visible hv (by simp), act_of_visible (h.visible ▸ hv) (by simp)]
    exact ⟨h.config, h.tokens, h.history, h.field.insert hc, h.visible⟩
  · rw [Bool.not_eq_true] at hv
    rw [act_of_hidden hv (by simp), act_of_hidden (h.visible ▸ hv) (by simp)]
    exact h

/-- **An action keeps that two sessions differ in case.** -/
theorem act (h : a.SameButCase b) (action : Action) :
    (a.act action).value.SameButCase (b.act action).value := by
  by_cases ha : action = .toggleVisibility
  · rw [ha, act_toggleVisibility, act_toggleVisibility]
    exact h.toggleVisibility
  by_cases hv : a.visible = true
  · rw [act_of_visible hv ha, act_of_visible (h.visible ▸ hv) ha]
    cases action with
    | toggleVisibility => exact absurd rfl ha
    | submit => exact h.submit
    | recallOlder => exact h.recallOlder
    | recallNewer => exact h.recallNewer
    | complete => exact h.complete
    | insert c => exact ⟨h.config, h.tokens, h.history, h.field.insert rfl, h.visible⟩
    | deleteBack => exact ⟨h.config, h.tokens, h.history, h.field.deleteBack, h.visible⟩
  · rw [Bool.not_eq_true] at hv
    rw [act_of_hidden hv ha, act_of_hidden (h.visible ▸ hv) ha]
    exact h

end SameButCase

end Session

/-! ## Runs -/

/-- Two steps that are the same but for the case of a typed character. -/
inductive Step.SameButCase : Step → Step → Prop where
  | typed {c d : Char} (h : lower c = lower d) : SameButCase (.act (.insert c)) (.act (.insert d))
  | same (step : Step) : SameButCase step step

namespace Console

variable {console console' : Console}

/-- **A step keeps that two consoles differ in case**, whatever waits for them. -/
theorem sameButCase_step {step step' : Step} (h : console.session.SameButCase console'.session)
    (hstep : step.SameButCase step') :
    (console.step step).value.session.SameButCase (console'.step step').value.session := by
  have hreceived := h.receive console.inbox.queued console'.inbox.queued
  cases hstep with
  | typed hc => exact hreceived.insert hc
  | same =>
    cases step with
    | act action => exact hreceived.act action
    | poll => exact hreceived
    | send | log => exact h

theorem sameButCase_run {steps steps' : List Step}
    (h : console.session.SameButCase console'.session)
    (hsteps : List.Forall₂ Step.SameButCase steps steps') :
    (console.run steps).value.session.SameButCase (console'.run steps').value.session := by
  induction hsteps generalizing console console' with
  | nil => exact h
  | cons hstep _ ih => exact ih (sameButCase_step h hstep)

/-- **Completion ignores case**, that of the tokens and that of the text. If the tokens of two lists
and two typed texts have, character by character, the same lower-case forms, then the token at the
same position is suggested for both, or none for either; its position is that of the first token
that is equal to it, where the search ends. Something is suggested for every text that can be
completed and is, but for its case, the beginning of a token.

So take two consoles that differ at most in the case of what was typed, and any steps that differ in
the case of the typed characters. The consoles still differ in case only, and if they are visible
then completing puts the same token into both input fields, or leaves both as they are. -/
theorem completion_ignores_case :
    (∀ (minChars : Nat) (tokens tokens' : List String) (typed typed' : String),
      tokens.map caseless = tokens'.map caseless → caseless typed = caseless typed' →
        (Completion.suggest minChars tokens typed).map tokens.idxOf =
          (Completion.suggest minChars tokens' typed').map tokens'.idxOf) ∧
    (∀ (minChars : Nat) (tokens : List String) (typed front token : String),
      Completion.isCompletable minChars typed.toList = true → token ∈ tokens →
      front.toList <+: token.toList → caseless typed = caseless front →
        ∃ first, Completion.suggest minChars tokens typed = some first ∧
          tokens.idxOf first ≤ tokens.idxOf token) ∧
    ∀ (console console' : Console) (steps steps' : List Step),
      console.session.SameButCase console'.session →
      List.Forall₂ Step.SameButCase steps steps' →
      let before := (console.run steps).value
      let before' := (console'.run steps').value
      let suggestion := Completion.suggest before.session.config.minChars
        before.session.registry.tokens before.session.field.text
      before.session.SameButCase before'.session ∧
      (before.session.visible = true →
        (before.step (.act .complete)).value.session.field.text =
            suggestion.getD before.session.field.text ∧
          (before'.step (.act .complete)).value.session.field.text =
            suggestion.getD before'.session.field.text) := by
  refine ⟨fun minChars tokens tokens' typed typed' htokens htyped => ?_,
    fun _ _ _ _ _ => Completion.exists_suggest_of_front,
    fun console console' steps steps' h hsteps => ?_⟩
  · rw [Completion.map_idxOf_suggest, Completion.map_idxOf_suggest, htokens, htyped]
  · intro before before' suggestion
    have hbefore : before.session.SameButCase before'.session := sameButCase_run h hsteps
    refine ⟨hbefore, fun hv => ⟨(step_complete hv).1, ?_⟩⟩
    have hcompleted := (step_complete (hbefore.visible ▸ hv)).1
    unfold Completion.completed at hcompleted
    rw [← hbefore.suggest_eq] at hcompleted
    exact hcompleted

/-- The sign for a degree Kelvin is a K in another case, and the capital I with a dot keeps its two
lower-case characters in any text. -/
theorem completion_ignores_case_kelvin :
    let tokens := ["İzmir", "Kelvin", "kelp"]
    let tokens' := ["İZMIR", "\u212AELVIN", "KELP"]
    let registry := (Registry.empty.registerAll
      [Scripted.command ⟨"Kelvin", "Kelvin", "", ""⟩ .silent]).value
    let console : Console := ⟨.fresh ⟨5, 3⟩ registry, .empty, none⟩
    let typing := fun text : String => .act .toggleVisibility :: Step.typing text
    let completed := fun text : String =>
      ((console.run (typing text)).value.step (.act .complete)).value.session.field.text
    tokens.map caseless = tokens'.map caseless ∧ caseless "KEL" = caseless "\u212Ael" ∧
      (Completion.suggest 3 tokens "KEL").map tokens.idxOf =
        (Completion.suggest 3 tokens' "\u212Ael").map tokens'.idxOf ∧
      Completion.suggest 3 tokens "KEL" = some "Kelvin" ∧
      Completion.isCompletable 2 "İz".toList = true ∧ "İZ".toList <+: "İZMIR".toList ∧
      caseless "İz" = caseless "İZ" ∧ (∃ first, Completion.suggest 2 tokens' "İz" = some first ∧
        tokens'.idxOf first ≤ tokens'.idxOf "İZMIR") ∧
      console.session.SameButCase console.session ∧
      List.Forall₂ Step.SameButCase (typing "KEL") (typing "\u212Ael") ∧
      (console.run (typing "KEL")).value.session.visible = true ∧
      completed "KEL" = "Kelvin" ∧ completed "\u212Ael" = "Kelvin" := by
  intro tokens tokens' registry console typing completed
  obtain ⟨hplace, hfront, hruns⟩ := completion_ignores_case
  have htokens : tokens.map caseless = tokens'.map caseless := by decide
  have htyped : caseless "KEL" = caseless "\u212Ael" := by decide
  have hcompletable : Completion.isCompletable 2 "İz".toList = true := by decide
  have hbegins : "İZ".toList <+: "İZMIR".toList := by decide
  have hdotted : caseless "İz" = caseless "İZ" := by decide
  have hsteps : List.Forall₂ Step.SameButCase (typing "KEL") (typing "\u212Ael") :=
    .cons (.same _) (.cons (.typed (by decide)) (.cons (.typed (by decide))
      (.cons (.typed (by decide)) .nil)))
  have hsame : console.session.SameButCase console.session := .refl _
  obtain ⟨-, hcompleted⟩ := hruns console console _ _ hsame hsteps
  have hvisible : (console.run (typing "KEL")).value.session.visible = true := rfl
  obtain ⟨hfirst, hsecond⟩ := hcompleted hvisible
  exact ⟨htokens, htyped, hplace 3 _ _ _ _ htokens htyped, by decide, hcompletable, hbegins,
    hdotted, hfront 2 _ _ _ _ hcompletable (by decide) hbegins hdotted, hsame, hsteps, hvisible,
    hfirst.trans (by decide), hsecond.trans (by decide)⟩

end Console

end CommandConsole
