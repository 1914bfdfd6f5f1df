import CommandConsole.Config.Document
import CommandConsole.Proofs.Scanning
import Mathlib.Algebra.Group.Nat.Defs

/-!
# Settings that are written and read back

A document with one line for each of a list of settings is read as a table that binds the keys to
the integers, whatever their number and as long as no key comes twice. The document of a
configuration has two such lines, so reading it back gives the same configuration, unless its
settings are not allowed: then it gives the error of the validation.

Results:
* `Writable.statementLine_eq`: one line.
* `Members.ofText?_settings`: **a document of settings is read as those settings.**
* `Config.ofToml_toToml?`: reading back what was written is validating it.
* `Config.reads_back`: **which configurations come back, and what is said of the others.**
-/

namespace CommandConsole

namespace Toml

open Scanner

/-! ## Keys -/

section Key

variable {name rest : List Char} {c : Char}

theorem stops_bare (hname : ∀ c ∈ name, isBare c = true) (hne : name ≠ [])
    (hc : isBare c = false) : Stops (· == c) (name ++ rest) :=
  stops_append hne fun d hd => beq_eq_false_of_holds (hname d hd) hc

theorem isGap_of_isBare (h : isBare c = true) : isGap c = false := by
  have hspace : (c == ' ') = false := beq_eq_false_of_holds h (by decide)
  have htab : (c == '\t') = false := beq_eq_false_of_holds h (by decide)
  rw [isGap, hspace, htab]
  rfl

theorem gap_of_stops (h : Stops isGap rest) : gap rest = some ((), rest) := by
  have hrun : run isGap ([] ++ rest) = some ([], rest) :=
    run_append (fun _ h => absurd h List.not_mem_nil) h
  rw [gap, discard_apply]
  exact congrArg (Option.map _) hrun

/-- A single space is a gap. -/
theorem gap_space (h : Stops isGap rest) : gap (' ' :: rest) = some ((), rest) := by
  have hrun : run isGap ([' '] ++ rest) = some ([' '], rest) := run_append (by simp [isGap]) h
  rw [gap, discard_apply]
  exact congrArg (Option.map _) hrun

theorem gap_bare (hname : ∀ c ∈ name, isBare c = true) (hne : name ≠ []) :
    gap (name ++ rest) = some ((), name ++ rest) :=
  gap_of_stops (stops_append hne fun c hc => isGap_of_isBare (hname c hc))

theorem keyPart_bare (hname : ∀ c ∈ name, isBare c = true) (hne : name ≠ [])
    (hrest : Stops isBare rest) : keyPart (name ++ rest) = some (String.ofList name, rest) := by
  have hquote : ∀ quote : Char, isBare quote = false → ∀ piece,
      lineString quote piece (name ++ rest) = none :=
    fun quote hq piece => bind_eq_none (char_eq_none (stops_bare hname hne hq))
  simp [keyPart, basicString, literalString, hquote '"' (by decide), hquote '\'' (by decide),
    run_append hname hrest, hne]

/-- A bare key in front of its equals sign. -/
theorem key_bare (hname : ∀ c ∈ name, isBare c = true) (hne : name ≠ []) (rest : List Char) :
    key (name ++ ' ' :: '=' :: rest) = some (⟨[], String.ofList name⟩, '=' :: rest) := by
  have hpart : (gap *> keyPart <* gap) (name ++ ' ' :: '=' :: rest) =
      some (String.ofList name, '=' :: rest) := by
    have hspace : gap (' ' :: '=' :: rest) = some ((), '=' :: rest) :=
      gap_space (stops_cons (by decide))
    have hkey : keyPart (name ++ ' ' :: '=' :: rest) =
        some (String.ofList name, ' ' :: '=' :: rest) :=
      keyPart_bare hname hne (stops_cons (by decide))
    simp [gap_bare hname hne, hkey, hspace]
  have hdot : char '.' ('=' :: rest) = none := char_eq_none (stops_cons (by decide))
  rw [key, bind_apply, separated_one hpart hdot]
  rfl

end Key

/-! ## Lines -/

/-- A setting that can be written: its key is bare, and its value an integer of the format. -/
structure Writable (setting : String × Nat) : Prop where
  bare : ∀ c ∈ setting.1.toList, isBare c = true
  named : setting.1 ≠ ""
  bounded : (setting.2 : Int) ≤ maxInteger

/-- The assignment of a setting. -/
def Assignment.ofSetting (setting : String × Nat) : Assignment :=
  ⟨⟨[], setting.1⟩, .integer setting.2⟩

/-- A document with one line for each setting. -/
def settingsText (settings : List (String × Nat)) : String :=
  String.join (settings.map fun setting => Config.settingLine setting.1 setting.2)

variable {setting : String × Nat} {settings : List (String × Nat)} {rest : List Char}

theorem toList_settingLine (key : String) (value : Nat) (rest : List Char) :
    (Config.settingLine key value).toList ++ rest =
      key.toList ++ ' ' :: '=' :: ' ' :: (Nat.toDigits 10 value ++ '\n' :: rest) := by
  simp [Config.settingLine]

theorem lineEnd_newline (rest : List Char) : lineEnd ('\n' :: rest) = some ((), rest) := by
  have hgap : gap ('\n' :: rest) = some ((), '\n' :: rest) :=
    gap_of_stops (stops_cons (by decide))
  have hcomment : comment ('\n' :: rest) = none :=
    bind_eq_none (char_eq_none (stops_cons (by decide)))
  simp [lineEnd, newline, hgap, hcomment]

/-- A bare key begins neither a comment nor a header, and its line is not blank. -/
theorem lineKind_of_bare {α : Type} {c : Char} (hc : isBare c = true)
    (blank opening binding : Scanner α) :
    (match some c with
      | none | some '#' | some '\n' | some '\r' => blank
      | some '[' => opening
      | some _ => binding) = binding := by
  split
  · next h => cases h
  · next h => exact absurd (Option.some.inj h ▸ hc) (by decide)
  · next h => exact absurd (Option.some.inj h ▸ hc) (by decide)
  · next h => exact absurd (Option.some.inj h ▸ hc) (by decide)
  · next h => exact absurd (Option.some.inj h ▸ hc) (by decide)
  · rfl

namespace Writable

theorem toList_ne_nil (h : Writable setting) : setting.1.toList ≠ [] := fun hnil =>
  h.named (String.toList_eq_nil_iff.mp hnil)

/-- The line of a setting begins with a character of its key. -/
theorem exists_cons (h : Writable setting) (rest : List Char) :
    ∃ c more, isBare c = true ∧
      (Config.settingLine setting.1 setting.2).toList ++ rest = c :: more := by
  obtain ⟨c, name, hname⟩ := List.exists_cons_of_ne_nil h.toList_ne_nil
  have hbare : isBare c = true := h.bare c (hname ▸ List.mem_cons_self ..)
  rw [toList_settingLine, hname, List.cons_append]
  exact ⟨c, _, hbare, rfl⟩

theorem assignment_eq (h : Writable setting) (rest : List Char) :
    assignment (value maxNesting) ((Config.settingLine setting.1 setting.2).toList ++ rest) =
      some (.ofSetting setting, '\n' :: rest) := by
  have hkey := key_bare h.bare h.toList_ne_nil (' ' :: (Nat.toDigits 10 setting.2 ++ '\n' :: rest))
  have hgap : gap (' ' :: (Nat.toDigits 10 setting.2 ++ '\n' :: rest)) =
      some ((), Nat.toDigits 10 setting.2 ++ '\n' :: rest) := by
    refine gap_space (stops_digits (fun c hc => ?_) (by decide))
    have hdigit := isDigit_toDigits setting.2 c hc
    exact isGap_of_isBare (by simp [isBare, Char.isAlphanum, hdigit])
  rw [toList_settingLine]
  simp [assignment, hkey, hgap, value_toDigits h.bounded, Assignment.ofSetting]

/-- **The line of a setting is read as its assignment**, and the text goes on behind it. -/
theorem statementLine_eq (h : Writable setting) (rest : List Char) :
    statementLine ((Config.settingLine setting.1 setting.2).toList ++ rest) =
      some (some (.assign (.ofSetting setting)), rest) := by
  have hassign := h.assignment_eq rest
  obtain ⟨c, more, hbare, htext⟩ := h.exists_cons rest
  have hgap : gap ((Config.settingLine setting.1 setting.2).toList ++ rest) =
      some ((), (Config.settingLine setting.1 setting.2).toList ++ rest) := by
    rw [toList_settingLine]
    exact gap_bare h.bare h.toList_ne_nil
  have hpeek : peek ((Config.settingLine setting.1 setting.2).toList ++ rest) =
      some (some c, (Config.settingLine setting.1 setting.2).toList ++ rest) := by
    rw [htext]
    rfl
  rw [statementLine, bind_apply, hgap, Option.bind_some, bind_apply, hpeek, Option.bind_some]
  refine (congrFun (lineKind_of_bare hbare _ _ _) _).trans ?_
  simp [hassign, lineEnd_newline]

end Writable

/-! ## Documents -/

theorem statementsWithin_succ {text : List Char} (hne : text ≠ []) {bound : Nat}
    {statement : Option Statement} {read : List Statement}
    (hline : statementLine text = some (statement, rest))
    (hrest : statementsWithin bound rest = some read) :
    statementsWithin (bound + 1) text = some (statement.toList ++ read) := by
  cases text with
  | nil => exact absurd rfl hne
  | cons c text => simp [statementsWithin, hline, hrest]

theorem settingsText_cons (setting : String × Nat) (settings : List (String × Nat)) :
    (settingsText (setting :: settings)).toList =
      (Config.settingLine setting.1 setting.2).toList ++ (settingsText settings).toList := by
  simp [settingsText, String.join_cons]

theorem statementsWithin_settings (h : ∀ setting ∈ settings, Writable setting) {bound : Nat}
    (hbound : settings.length ≤ bound) :
    statementsWithin bound (settingsText settings).toList =
      some (settings.map fun setting => .assign (.ofSetting setting)) := by
  induction settings generalizing bound with
  | nil => cases bound <;> rfl
  | cons setting settings ih =>
    obtain ⟨hsetting, hsettings⟩ := List.forall_mem_cons.mp h
    obtain ⟨bound, rfl⟩ := Nat.exists_eq_add_of_le' (Nat.lt_of_lt_of_le (Nat.succ_pos _) hbound)
    have hrest := ih hsettings (Nat.le_of_succ_le_succ hbound)
    have hline := hsetting.statementLine_eq (settingsText settings).toList
    rw [← settingsText_cons] at hline
    obtain ⟨c, more, -, htext⟩ := hsetting.exists_cons (settingsText settings).toList
    have hne : (settingsText (setting :: settings)).toList ≠ [] := by
      rw [settingsText_cons, htext]
      exact List.cons_ne_nil c more
    exact statementsWithin_succ hne hline hrest

/-- **A document of settings is read as their statements.** -/
theorem statements_settings (h : ∀ setting ∈ settings, Writable setting) :
    statements (settingsText settings).toList =
      some (settings.map fun setting => .assign (.ofSetting setting)) := by
  refine statementsWithin_settings h ?_
  induction settings with
  | nil => exact Nat.zero_le _
  | cons setting settings ih =>
    have hrest := ih fun setting hs => h setting (List.mem_cons_of_mem _ hs)
    rw [settingsText_cons, toList_settingLine]
    simp only [List.length_cons, List.length_append]
    omega

/-- A document of settings has no byte order mark. -/
theorem withoutMark_settings (h : ∀ setting ∈ settings, Writable setting) :
    withoutMark (settingsText settings).toList = (settingsText settings).toList := by
  cases settings with
  | nil => rfl
  | cons setting settings =>
    have hsetting := h setting (List.mem_cons_self ..)
    obtain ⟨c, more, hbare, htext⟩ := hsetting.exists_cons (settingsText settings).toList
    rw [settingsText_cons, htext]
    unfold withoutMark
    split
    · next h => exact absurd ((List.cons.inj h).1 ▸ hbare) (by decide)
    · rfl

namespace Members

/-- The table of settings. -/
def ofSettings (settings : List (String × Nat)) : Members :=
  settings.map fun setting => (setting.1, .integer setting.2)

theorem put_of_get?_eq_none {members : Members} {key : String} (h : members.get? key = none)
    (value : Value) : members.put key value = members ++ [(key, value)] := by
  induction members with
  | nil => rfl
  | cons entry members ih =>
    obtain ⟨other, old⟩ := entry
    rw [get?, List.lookup_cons] at h
    split at h
    · cases h
    · next hne =>
      have hother : (other == key) = false := Bool.beq_comm.trans (by simpa using hne)
      rw [put, hother, ih h]
      rfl

theorem get?_ofSettings_of_not_mem {key : String} (h : key ∉ settings.map Prod.fst) :
    (ofSettings settings).get? key = none := by
  refine List.lookup_eq_none_iff.mpr fun entry hentry => ?_
  obtain ⟨setting, hsetting, rfl⟩ := List.mem_map.mp hentry
  exact bne_iff_ne.mpr fun e => h (e ▸ List.mem_map_of_mem hsetting)

/-- Assignments to keys that are not bound yet are carried out one after the other. -/
theorem assignAll_settings (before : List (String × Nat))
    (h : ((before ++ settings).map Prod.fst).Nodup) :
    (ofSettings before).assignAll (settings.map .ofSetting) =
      some (ofSettings (before ++ settings)) := by
  induction settings generalizing before with
  | nil =>
    rw [List.append_nil]
    rfl
  | cons setting settings ih =>
    have hnew : setting.1 ∉ before.map Prod.fst := by
      rw [List.map_append, List.map_cons] at h
      exact fun hmem => (List.nodup_append.mp h).2.2 _ hmem _ (List.mem_cons_self ..) rfl
    have hget := get?_ofSettings_of_not_mem hnew
    have hinsert : (ofSettings before).insert [] setting.1 (.integer setting.2) =
        some (ofSettings (before ++ [setting])) := by
      rw [insert, hget, put_of_get?_eq_none hget, ofSettings, ofSettings, List.map_append]
      rfl
    rw [List.append_cons] at h ⊢
    have hrest := ih _ h
    rw [assignAll] at hrest ⊢
    rw [List.map_cons, List.foldlM_cons]
    exact (congrArg (· >>= _) hinsert).trans hrest

theorem leading_settings (settings : List (String × Nat)) :
    leading (settings.map fun setting => .assign (.ofSetting setting)) =
      settings.map .ofSetting := by
  induction settings with
  | nil => rfl
  | cons setting settings ih => exact congrArg (Assignment.ofSetting setting :: ·) ih

theorem openAll_settings (members : Members) (settings : List (String × Nat)) :
    openAll members (settings.map fun setting => .assign (.ofSetting setting)) = some members := by
  induction settings with
  | nil => rfl
  | cons setting settings ih => exact ih

/-- **A document of settings is read as those settings.** -/
theorem ofText?_settings (h : ∀ setting ∈ settings, Writable setting)
    (hkeys : (settings.map Prod.fst).Nodup) :
    ofText? (settingsText settings) = some (ofSettings settings) := by
  have hassign : assignAll [] (settings.map .ofSetting) = some (ofSettings settings) :=
    assignAll_settings [] hkeys
  rw [ofText?, withoutMark_settings h, statements_settings h]
  simp [ofStatements, leading_settings, hassign, openAll_settings]

end Members

end Toml

/-! ## Configurations -/

namespace Config

open Toml

variable {config : Config}

/-- The settings of a configuration with their keys. -/
def settings (config : Config) : List (String × Nat) :=
  [(historyCapacityKey, config.historyCapacity), (minCharsKey, config.minChars)]

theorem isWritable_iff :
    config.isWritable = true ↔
      (config.historyCapacity : Int) ≤ maxInteger ∧ (config.minChars : Int) ≤ maxInteger := by
  rw [isWritable, Bool.and_eq_true, decide_eq_true_eq, decide_eq_true_eq]

theorem writable_of_mem_settings (h : config.isWritable = true) {setting : String × Nat}
    (hmem : setting ∈ config.settings) : Writable setting := by
  obtain ⟨hcapacity, hchars⟩ := isWritable_iff.mp h
  have hbare : ∀ c ∈ historyCapacityKey.toList ++ minCharsKey.toList, isBare c = true :=
    List.all_eq_true.mp (by decide)
  rcases List.mem_pair.mp hmem with rfl | rfl
  · exact ⟨fun c hc => hbare c (List.mem_append_left _ hc), by simp [historyCapacityKey], hcapacity⟩
  · exact ⟨fun c hc => hbare c (List.mem_append_right _ hc), by simp [minCharsKey], hchars⟩

theorem toToml?_eq (h : config.isWritable = true) :
    config.toToml? = some (settingsText config.settings) := by
  rw [toToml?, if_pos h]
  simp [settingsText, settings, String.join_cons]

theorem ofMembers_settings (config : Config) :
    ofMembers (Members.ofSettings config.settings) = .ok config := by
  have hcapacity : setting (Members.ofSettings config.settings) historyCapacityKey
      default.historyCapacity = .ok config.historyCapacity := rfl
  have hchars : setting (Members.ofSettings config.settings) minCharsKey default.minChars =
      .ok config.minChars := rfl
  rw [ofMembers, hcapacity, hchars]
  rfl

/-- **Reading back what was written is validating it.** -/
theorem ofToml_toToml? {text : String} (h : config.toToml? = some text) :
    ofToml text = config.validate.map fun _ => config := by
  cases hw : config.isWritable with
  | false =>
    rw [toToml?, hw] at h
    cases h
  | true =>
    rw [toToml?_eq hw, Option.some.injEq] at h
    have hkeys : (config.settings.map Prod.fst).Nodup :=
      show [historyCapacityKey, minCharsKey].Nodup by decide
    rw [← h, ofToml, Members.ofText?_settings (fun _ => writable_of_mem_settings hw) hkeys]
    simp only [ofMembers_settings]
    show (config.validate >>= fun _ => pure config) = _
    cases config.validate <;> rfl

/-- The validation finds fault with settings and with nothing else. -/
theorem exists_config_of_validate {error : Error} (h : config.validate = .error error) :
    ∃ message, error = .config message := by
  unfold validate at h
  split at h
  · exact ⟨_, (Except.error.inj h).symm⟩
  · split at h
    · exact ⟨_, (Except.error.inj h).symm⟩
    · cases h

/-- **Which configurations come back, and what is said of the others.** A configuration whose
settings are integers of the format is written as one line for each, a key, an equals sign and the
decimal digits. Reading these lines gives the same configuration exactly if its settings are
allowed, which is so if completion needs a character and the history holds at most 4096 lines. All
others are refused with what the validation finds, and none because of the document. -/
theorem reads_back (config : Config) (hcapacity : config.historyCapacity ≤ 2 ^ 63 - 1)
    (hchars : config.minChars ≤ 2 ^ 63 - 1) :
    ∃ text, config.toToml? = some text ∧
      text = "history_capacity = " ++ toString config.historyCapacity ++ "\n" ++
        ("autocomplete_min_chars = " ++ toString config.minChars ++ "\n") ∧
      (config.validate = .ok () ↔ 1 ≤ config.minChars ∧ config.historyCapacity ≤ 4096) ∧
      (ofToml text = .ok config ↔ config.validate = .ok ()) ∧
      (∀ error, config.validate = .error error →
        ofToml text = .error error ∧ ∃ message, error = .config message) := by
  have hw : config.isWritable = true := by
    rw [isWritable_iff, maxInteger]
    omega
  have hwrite : config.toToml? = some (settingLine historyCapacityKey config.historyCapacity ++
      settingLine minCharsKey config.minChars) := if_pos hw
  have hread := ofToml_toToml? hwrite
  refine ⟨_, hwrite, ?_, validate_eq_ok_iff config, ?_, fun error herror => ⟨?_, ?_⟩⟩
  · simp [settingLine, historyCapacityKey, minCharsKey, String.append_assoc]
  · rw [hread]
    cases config.validate <;> simp [Except.map]
  · rw [hread, herror]
    rfl
  · exact exists_config_of_validate herror

/-- The largest integer of the format comes back; a history of one line too many is refused. -/
theorem reads_back_limits :
    let largest : Config := ⟨4096, 9223372036854775807⟩
    let oversized : Config := ⟨4097, 1⟩
    largest.historyCapacity ≤ 2 ^ 63 - 1 ∧ largest.minChars ≤ 2 ^ 63 - 1 ∧
      (∃ text, largest.toToml? = some text ∧ ofToml text = .ok largest) ∧
      oversized.historyCapacity ≤ 2 ^ 63 - 1 ∧ oversized.minChars ≤ 2 ^ 63 - 1 ∧
      (∃ text, oversized.toToml? = some text ∧
        text = "history_capacity = 4097\nautocomplete_min_chars = 1\n" ∧
        ofToml text = .error (.config "history_capacity must be at most 4096, got 4097")) := by
  intro largest oversized
  have hlargest : largest.historyCapacity ≤ 2 ^ 63 - 1 ∧ largest.minChars ≤ 2 ^ 63 - 1 := by decide
  have hoversized : oversized.historyCapacity ≤ 2 ^ 63 - 1 ∧ oversized.minChars ≤ 2 ^ 63 - 1 := by
    decide
  obtain ⟨text, hwrite, -, -, hread, -⟩ := reads_back largest hlargest.1 hlargest.2
  obtain ⟨text', hwrite', htext', -, -, herror⟩ := reads_back oversized hoversized.1 hoversized.2
  have hrefused : oversized.validate =
      .error (.config "history_capacity must be at most 4096, got 4097") :=
    congrArg (fun message => Except.error (Error.config message)) (by decide)
  exact ⟨hlargest.1, hlargest.2, ⟨text, hwrite, hread.mpr rfl⟩, hoversized.1, hoversized.2,
    text', hwrite', htext'.trans (by decide), (herror _ hrefused).1⟩

end Config

end CommandConsole
