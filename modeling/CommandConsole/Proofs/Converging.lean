import CommandConsole.Command.Scripted
import CommandConsole.Proofs.Run
import Mathlib.Data.List.Basic
import Mathlib.Logic.Function.Iterate

/-!
# Completing over and over

A completed token can be completed again, and to another token: of `quiet` and `qui`, the text
`quit` is completed to `qui`, and that to `quiet`. This comes to an end, because a token agrees with
itself, so that a completion leads to the same token or to one that was registered before it.

Where every character has one lower-case character, two texts agree exactly if one begins with the
other. Then the second completion can only lead to a longer token, and there the third one stays.

Results:
* `Settling.iterate_eq`, `Settling.iterate_eq_of_eq`: iterating a function that lowers a rank until
  it stays.
* `Completion.settling_completed`: completing lowers the position of the text among the tokens.
* `Completion.agrees_iff`: what agreement means where lower case keeps the length.
* `Completion.completed_of_suggested`, `Completion.completed_completed_completed`: where the first
  completion is the last, and that the second one always is.
* `Console.text_run_complete`: completing a visible console over and over.
* `Console.completion_settles`: **a visible console settles.**
-/

namespace CommandConsole

open Log

/-! ## Iterating down to a fixed point -/

/-- A function that leaves a value alone or lowers its rank. -/
def Settling {α : Type} (rank : α → Nat) (f : α → α) : Prop :=
  ∀ x, f x = x ∨ rank (f x) < rank x

namespace Settling

variable {α : Type} {rank : α → Nat} {f : α → α}

theorem rank_iterate_le (h : Settling rank f) (x : α) (n : Nat) : rank (f^[n] x) ≤ rank x := by
  induction n generalizing x with
  | zero => exact Nat.le_refl _
  | succ n ih =>
    refine Nat.le_trans (ih (f x)) ?_
    rcases h x with hx | hx
    · exact Nat.le_of_eq (congrArg rank hx)
    · exact Nat.le_of_lt hx

/-- **The rank bounds how often the value can change.** -/
theorem iterate_eq (h : Settling rank f) {x : α} {n m : Nat} (hn : rank x ≤ n) (hm : n ≤ m) :
    f^[m] x = f^[n] x := by
  induction n generalizing x m with
  | zero =>
    have hx : f x = x := (h x).resolve_right (by omega)
    exact Function.iterate_fixed hx m
  | succ n ih =>
    obtain ⟨m, rfl⟩ := Nat.exists_eq_add_of_le' (Nat.le_trans (Nat.succ_pos n) hm)
    rw [Function.iterate_succ_apply, Function.iterate_succ_apply]
    rcases h x with hx | hx
    · rw [hx, Function.iterate_fixed hx, Function.iterate_fixed hx]
    · exact ih (by omega) (by omega)

/-- **No value comes back once it was left.** -/
theorem iterate_eq_of_eq (h : Settling rank f) {x : α} {i j : Nat} (hij : i < j)
    (heq : f^[j] x = f^[i] x) {k : Nat} (hk : i ≤ k) : f^[k] x = f^[i] x := by
  have hfixed : f (f^[i] x) = f^[i] x := by
    refine (h _).resolve_right fun hlt => ?_
    obtain ⟨d, rfl⟩ := Nat.exists_eq_add_of_le' hij
    have hle := h.rank_iterate_le (f (f^[i] x)) d
    rw [← Function.iterate_succ_apply' f i, ← Function.iterate_add_apply, heq] at hle
    rw [Function.iterate_succ_apply'] at hle
    omega
  obtain ⟨d, rfl⟩ := Nat.exists_eq_add_of_le' hk
  rw [Function.iterate_add_apply, Function.iterate_fixed hfixed]

end Settling

namespace Completion

open Text

/-- What completing makes of a text: the suggestion, or the text itself if there is none. -/
def completed (minChars : Nat) (tokens : List String) (typed : String) : String :=
  (suggest minChars tokens typed).getD typed

variable {minChars : Nat} {tokens : List String} {typed token : String}

theorem agrees_self (text : List Char) : agrees text text = true := by
  simp [agrees]

/-- Of all texts with a property the one that is found stands first. -/
theorem idxOf_le_of_find? {p : String → Bool} {first other : String}
    (hfirst : tokens.find? p = some first) (hmem : other ∈ tokens) (hother : p other = true) :
    tokens.idxOf first ≤ tokens.idxOf other := by
  induction tokens with
  | nil => cases hmem
  | cons head rest ih =>
    by_cases hhead : p head = true
    · rw [List.find?_cons_of_pos hhead, Option.some.injEq] at hfirst
      rw [hfirst, List.idxOf_cons_self]
      exact Nat.zero_le _
    · rw [List.find?_cons_of_neg hhead] at hfirst
      have hne : ∀ text, p text = true → head ≠ text := fun text ht he => hhead (he ▸ ht)
      have hrest : other ∈ rest :=
        (List.mem_cons.mp hmem).resolve_left (hne other hother).symm
      rw [List.idxOf_cons_ne _ (hne first (List.find?_some hfirst)),
        List.idxOf_cons_ne _ (hne other hother)]
      exact Nat.succ_le_succ (ih hfirst hrest)

theorem suggest_eq_find? (h : suggest minChars tokens typed = some token) :
    tokens.find? (fun token => agrees typed.toList token.toList) = some token := by
  unfold suggest at h
  split at h
  · exact h
  · cases h

/-- A suggestion agrees with the text, and no token that was registered before it does. -/
theorem suggest_first (h : suggest minChars tokens typed = some token) :
    agrees typed.toList token.toList = true ∧
      ∀ other ∈ tokens, agrees typed.toList other.toList = true →
        tokens.idxOf token ≤ tokens.idxOf other := by
  have hfind := suggest_eq_find? h
  refine ⟨by simpa using List.find?_some hfind, fun other hmem hother => ?_⟩
  exact idxOf_le_of_find? hfind hmem hother

/-- A token that the text agrees with, and that the suggestion is completed to, is the suggestion:
neither of the two was registered before the other. -/
theorem eq_of_suggested (h : suggest minChars tokens typed = some token) {next : String}
    (hnext : suggest minChars tokens token = some next)
    (hagrees : agrees typed.toList next.toList = true) : next = token := by
  have hmem := suggest_mem hnext
  have hle := (suggest_first hnext).2 token (suggest_mem h) (agrees_self _)
  have hge := (suggest_first h).2 next hmem hagrees
  exact (List.idxOf_inj hmem).mp (Nat.le_antisymm hle hge)

/-- **Completing leads to a token that was registered earlier**, a text that is no token counting as
the last. -/
theorem settling_completed (minChars : Nat) (tokens : List String) :
    Settling (tokens.idxOf ·) (completed minChars tokens) := by
  intro typed
  unfold completed
  cases h : suggest minChars tokens typed with
  | none => exact .inl rfl
  | some token =>
    have hmem := suggest_mem h
    by_cases heq : token = typed
    · exact .inl heq
    refine .inr ?_
    show tokens.idxOf token < tokens.idxOf typed
    by_cases htyped : typed ∈ tokens
    · have hle := (suggest_first h).2 typed htyped (agrees_self _)
      exact Nat.lt_of_le_of_ne hle (mt (List.idxOf_inj hmem).mp heq)
    · rw [List.idxOf_of_notMem htyped]
      exact List.idxOf_lt_length_iff.mpr hmem

/-! ## One character for one -/

/-- Every character of the text has one lower-case character. -/
def LowersOneToOne (text : List Char) : Prop :=
  ∀ c ∈ text, (lower c).length = 1

theorem lowersOneToOne_iff {text : List Char} :
    (text.all fun c => (lower c).length == 1) = true ↔ LowersOneToOne text := by
  simp only [List.all_eq_true, beq_iff_eq, LowersOneToOne]

instance (text : List Char) : Decidable (LowersOneToOne text) :=
  decidable_of_iff _ lowersOneToOne_iff

theorem lowerAll_take {text : List Char} (h : LowersOneToOne text) (n : Nat) :
    lowerAll (text.take n) = (lowerAll text).take n := by
  induction text generalizing n with
  | nil => simp
  | cons c text ih =>
    obtain ⟨hc, htext⟩ := List.forall_mem_cons.mp h
    obtain ⟨d, hd⟩ := List.length_eq_one_iff.mp hc
    cases n with
    | zero => rfl
    | succ n =>
      rw [List.take_succ_cons, lowerAll_cons, lowerAll_cons, hd, ih htext]
      rfl

theorem length_lowerAll {text : List Char} (h : LowersOneToOne text) :
    (lowerAll text).length = text.length := by
  induction text with
  | nil => rfl
  | cons c text ih =>
    obtain ⟨hc, htext⟩ := List.forall_mem_cons.mp h
    rw [lowerAll_cons, List.length_append, hc, ih htext, List.length_cons, Nat.add_comm]

theorem prefix_of_prefix_of_length_le {a b : List Char} (h : a <+: b) (hle : b.length ≤ a.length) :
    b <+: a := by
  obtain rfl := h.eq_of_length_le hle
  exact List.prefix_refl a

/-- **Two texts agree exactly if one of them begins with the other, in lower case.** -/
theorem agrees_iff {typed token : List Char} (htyped : LowersOneToOne typed)
    (htoken : LowersOneToOne token) :
    agrees typed token = true ↔
      lowerAll token <+: lowerAll typed ∨ lowerAll typed <+: lowerAll token := by
  have hlength := length_lowerAll htyped
  have hlength' := length_lowerAll htoken
  rw [agrees, beq_iff_eq, lowerAll_take htyped, lowerAll_take htoken]
  rcases Nat.le_total token.length typed.length with hle | hle
  · rw [Nat.min_eq_left hle, ← hlength', List.take_length, ← List.prefix_iff_eq_take]
    exact ⟨.inl, fun h => h.elim id fun hp => prefix_of_prefix_of_length_le hp (by omega)⟩
  · rw [Nat.min_eq_right hle, ← hlength, List.take_length, eq_comm, ← List.prefix_iff_eq_take]
    exact ⟨.inr, fun h => h.elim (fun hp => prefix_of_prefix_of_length_le hp (by omega)) id⟩

/-- Of two texts that agree, the longer one begins with the other. -/
theorem prefix_of_agrees {typed token : String} (htyped : LowersOneToOne typed.toList)
    (htoken : LowersOneToOne token.toList) (h : agrees typed.toList token.toList = true) :
    (typed.length ≤ token.length → lowerAll typed.toList <+: lowerAll token.toList) ∧
      (token.length ≤ typed.length → lowerAll token.toList <+: lowerAll typed.toList) := by
  have hlength := length_lowerAll htyped
  have hlength' := length_lowerAll htoken
  rw [String.length_toList] at hlength hlength'
  rcases (agrees_iff htyped htoken).mp h with hp | hp
  · exact ⟨fun hle => prefix_of_prefix_of_length_le hp (by omega), fun _ => hp⟩
  · exact ⟨fun _ => hp, fun hle => prefix_of_prefix_of_length_le hp (by omega)⟩

section OneToOne

variable (htyped : LowersOneToOne typed.toList)
  (htokens : ∀ token ∈ tokens, LowersOneToOne token.toList)

include htyped htokens

/-- **A suggestion that is no shorter than the text is completed to itself.** The text begins it, so
whatever agrees with the suggestion agrees with the text as well. -/
theorem completed_of_suggested (h : suggest minChars tokens typed = some token)
    (hle : typed.length ≤ token.length) : completed minChars tokens token = token := by
  have htoken := htokens token (suggest_mem h)
  unfold completed
  cases hnext : suggest minChars tokens token with
  | none => rfl
  | some next =>
    have hnextone := htokens next (suggest_mem hnext)
    have hbegins := (prefix_of_agrees htyped htoken (suggest_first h).1).1 hle
    refine eq_of_suggested h hnext ((agrees_iff htyped hnextone).mpr ?_)
    rcases (agrees_iff htoken hnextone).mp (suggest_first hnext).1 with hp | hp
    · exact List.prefix_or_prefix_of_prefix hp hbegins
    · exact .inr (hbegins.trans hp)

/-- A suggestion that is shorter than the text is not completed to a shorter token: the text, which
it begins, would have agreed with that one first. -/
theorem length_le_of_suggested (h : suggest minChars tokens typed = some token)
    (hlt : token.length < typed.length) {next : String}
    (hnext : suggest minChars tokens token = some next) : token.length ≤ next.length := by
  have htoken := htokens token (suggest_mem h)
  have hnextone := htokens next (suggest_mem hnext)
  refine Nat.le_of_not_lt fun hshort => ?_
  have hbegins := (prefix_of_agrees htyped htoken (suggest_first h).1).2 (Nat.le_of_lt hlt)
  have hbegins' :=
    (prefix_of_agrees htoken hnextone (suggest_first hnext).1).2 (Nat.le_of_lt hshort)
  have heq := eq_of_suggested h hnext
    ((agrees_iff htyped hnextone).mpr (.inl (hbegins'.trans hbegins)))
  rw [heq] at hshort
  exact Nat.lt_irrefl _ hshort

/-- **The third completion stays where the second one led.** -/
theorem completed_completed_completed :
    let complete := completed minChars tokens
    complete (complete (complete typed)) = complete (complete typed) := by
  intro complete
  have hsuggested : ∀ {text token : String}, suggest minChars tokens text = some token →
      complete text = token := fun h => congrArg (Option.getD · _) h
  have hfixed : ∀ {text : String}, suggest minChars tokens text = none → complete text = text :=
    fun h => congrArg (Option.getD · _) h
  cases h : suggest minChars tokens typed with
  | none => rw [hfixed h, hfixed h, hfixed h]
  | some token =>
    rw [hsuggested h]
    by_cases hle : typed.length ≤ token.length
    · have hstays : complete token = token := completed_of_suggested htyped htokens h hle
      rw [hstays, hstays]
    cases hnext : suggest minChars tokens token with
    | none => rw [hfixed hnext, hfixed hnext]
    | some next =>
      have hlonger := length_le_of_suggested htyped htokens h (Nat.lt_of_not_le hle) hnext
      have hstays : complete next = next :=
        completed_of_suggested (htokens token (suggest_mem h)) htokens hnext hlonger
      rw [hsuggested hnext, hstays]

end OneToOne

end Completion

namespace Console

variable {console : Console}

/-- A visible console completes the text in its input field and stays visible. -/
theorem step_complete (hv : console.session.visible = true) :
    let next := (console.step (.act .complete)).value
    next.session.field.text =
        Completion.completed console.session.config.minChars console.session.registry.tokens
          console.session.field.text ∧
      next.session.visible = true := by
  intro next
  rw [show next.session = _ from (step_act_of_visible hv (by simp)).1, Session.actVisible,
    Logged.value_pure]
  unfold Session.complete Completion.completed
  simp only [Session.config_receive, Session.registry_receive, Session.field_receive]
  cases Completion.suggest console.session.config.minChars console.session.registry.tokens
    console.session.field.text with
  | none => exact ⟨rfl, hv⟩
  | some token => exact ⟨rfl, hv⟩

theorem text_run_complete (hv : console.session.visible = true) (presses : Nat) :
    (console.run (List.replicate presses (.act .complete))).value.session.field.text =
      (Completion.completed console.session.config.minChars
        console.session.registry.tokens)^[presses] console.session.field.text := by
  induction presses generalizing console with
  | zero => rfl
  | succ presses ih =>
    obtain ⟨htext, hvisible⟩ := step_complete hv
    obtain ⟨hconfig, hregistry, -⟩ := console.setup_step (.act .complete)
    have hrest := ih hvisible
    rw [hconfig, hregistry, htext] at hrest
    rw [Function.iterate_succ_apply, ← hrest]
    rfl

/-- **A visible console settles when its text is completed over and over.** A completion leaves the
text alone or replaces it by a token, which was registered before the text if that is a token, too;
so no text comes back once it was left, and after as many completions as there are tokens nothing
changes any more. If every character has one lower-case character, nothing changes after two, and
after one if the first suggestion is no shorter than the text. -/
theorem completion_settles {console : Console} (hv : console.session.visible = true) :
    let minChars := console.session.config.minChars
    let tokens := console.session.registry.tokens
    let text := fun presses : Nat =>
      (console.run (List.replicate presses (.act .complete))).value.session.field.text
    (∀ n, text (n + 1) = (Completion.suggest minChars tokens (text n)).getD (text n)) ∧
    (∀ n, text (n + 1) = text n ∨ text (n + 1) ∈ tokens) ∧
    (∀ n, text n ∈ tokens →
      text (n + 1) = text n ∨ tokens.idxOf (text (n + 1)) < tokens.idxOf (text n)) ∧
    (∀ n, tokens.length ≤ n → text n = text tokens.length) ∧
    (∀ i j, i < j → text j = text i → ∀ n, i ≤ n → text n = text i) ∧
    (Completion.LowersOneToOne (text 0).toList →
      (∀ token ∈ tokens, Completion.LowersOneToOne token.toList) →
        (∀ n, 2 ≤ n → text n = text 2) ∧
        (∀ token, Completion.suggest minChars tokens (text 0) = some token →
          (text 0).length ≤ token.length → ∀ n, 1 ≤ n → text n = text 1)) := by
  intro minChars tokens text
  let complete := Completion.completed minChars tokens
  have htext : ∀ n, text n = complete^[n] console.session.field.text := text_run_complete hv
  have hnext : ∀ n, text (n + 1) = complete (text n) := fun n => by
    rw [htext, htext, Function.iterate_succ_apply']
  have hsettling : Settling (tokens.idxOf ·) complete :=
    Completion.settling_completed minChars tokens
  -- Once a completion changes nothing, no further one does.
  have hstays : ∀ {m}, complete (text m) = text m → ∀ n, m ≤ n → text n = text m := by
    intro m hm n hn
    obtain ⟨d, rfl⟩ := Nat.exists_eq_add_of_le' hn
    rw [htext, Function.iterate_add_apply, ← htext, Function.iterate_fixed hm]
  refine ⟨hnext, fun n => ?_, fun n _ => ?_, fun n hn => ?_, fun i j hij heq n hn => ?_, ?_⟩
  · rw [hnext]
    cases h : Completion.suggest minChars tokens (text n) with
    | none => exact .inl (congrArg (Option.getD · _) h)
    | some token =>
      refine .inr ?_
      rw [show complete (text n) = token from congrArg (Option.getD · _) h]
      exact Completion.suggest_mem h
  · rw [hnext]
    exact hsettling (text n)
  · rw [htext, htext]
    exact hsettling.iterate_eq List.idxOf_le_length hn
  · rw [htext, htext] at heq
    rw [htext, htext]
    exact hsettling.iterate_eq_of_eq hij heq hn
  · intro htyped htokens
    refine ⟨hstays ?_, fun token hsuggest hle => hstays ?_⟩
    · rw [hnext, hnext]
      exact Completion.completed_completed_completed htyped htokens
    · rw [hnext, show complete (text 0) = token from congrArg (Option.getD · _) hsuggest]
      exact Completion.completed_of_suggested htyped htokens hsuggest hle

/-- The text `quit` goes to the shorter `qui` and from there to the longer `quiet`, which was
registered before it; the text `qu` goes to `quiet` at once. -/
theorem completion_settles_in_two :
    let quiet := Scripted.command ⟨"Quiet", "quiet", "", ""⟩ .silent
    let qui := Scripted.command ⟨"Qui", "qui", "", ""⟩ .silent
    let registry := (Registry.empty.registerAll [quiet, qui]).value
    let console := fun typed : String =>
      (⟨{ Session.fresh ⟨5, 2⟩ registry with visible := true, field := .ofText typed },
        .empty, none⟩ : Console)
    let text := fun (typed : String) (presses : Nat) =>
      ((console typed).run (List.replicate presses (.act .complete))).value.session.field.text
    (console "quit").session.visible = true ∧
      Completion.LowersOneToOne (text "quit" 0).toList ∧
      (∀ token ∈ registry.tokens, Completion.LowersOneToOne token.toList) ∧
      text "quit" 1 = "qui" ∧ text "quit" 1 ∈ registry.tokens ∧
      (text "quit" 2 = text "quit" 1 ∨
        registry.tokens.idxOf (text "quit" 2) < registry.tokens.idxOf (text "quit" 1)) ∧
      text "quit" 2 = "quiet" ∧ text "quit" 7 = text "quit" 2 ∧
      Completion.suggest 2 registry.tokens "qu" = some "quiet" ∧ text "qu" 7 = text "qu" 1 := by
  intro quiet qui registry console text
  have hone : Completion.LowersOneToOne (text "quit" 0).toList := by decide
  have hone' : Completion.LowersOneToOne (text "qu" 0).toList := by decide
  have htokens : ∀ token ∈ registry.tokens, Completion.LowersOneToOne token.toList := by decide
  have hsuggest : Completion.suggest 2 registry.tokens "qu" = some "quiet" := by decide
  obtain ⟨hnext, -, hearlier, -, -, hsettles⟩ :=
    completion_settles (show (console "quit").session.visible = true from rfl)
  obtain ⟨-, -, -, -, -, hsettles'⟩ :=
    completion_settles (show (console "qu").session.visible = true from rfl)
  have hfirst : text "quit" 1 = "qui" := (hnext 0).trans (by decide)
  have hmem : text "quit" 1 ∈ registry.tokens := by rw [hfirst]; decide
  have hsecond : text "quit" 2 = "quiet" := by
    have hagain : text "quit" 2 = (Completion.suggest 2 registry.tokens (text "quit" 1)).getD
        (text "quit" 1) := hnext 1
    rw [hagain, hfirst]
    decide
  exact ⟨rfl, hone, htokens, hfirst, hmem, hearlier 1 hmem, hsecond,
    (hsettles hone htokens).1 7 (by decide), hsuggest,
    (hsettles' hone' htokens).2 "quiet" hsuggest (by decide) 7 (by decide)⟩

end Console

end CommandConsole
