import CommandConsole.Proofs.Ordering

/-!
# The columns of the help text

`help` without arguments lists the commands in two columns. How wide the first one is, is measured
in bytes, but it is filled up with spaces by counting characters. The descriptions start in one
column all the same, whatever tokens there are: a token has no more characters than bytes, so no
token is wider than its column and each is filled up to the width.

Results:
* `Builtin.utf8ByteSize_le_columnWidth`, `Builtin.columnWidth_attained`: the width is the largest
  number of bytes among the tokens.
* `Builtin.helpRow_eq`, `Builtin.length_lead`: **a row whose token fits its column**, from left to
  right, and where its description starts.
* `Builtin.helpAll_eq`: the text, as long as no token is too long for a column.
* `Registry.help_columns_line_up`: **all of it, for every registry.**
-/

namespace CommandConsole

namespace Builtin

variable {width : Nat} {token : String} {row : String × String} {rows : List (String × String)}

/-- A row up to its description: two spaces, the token, and spaces up to the description. -/
def lead (width : Nat) (token : String) : String :=
  "  " ++ token ++ String.ofList (List.replicate (width + 2 - token.length) ' ')

/-! ## The width of the column -/

theorem columnWidth_eq (rows : List (String × String)) :
    columnWidth rows = (rows.map fun row => row.1.utf8ByteSize).max?.getD 0 := by
  rw [columnWidth, List.foldl_max, Nat.zero_max]

/-- No token has more bytes than the column is wide. -/
theorem utf8ByteSize_le_columnWidth (h : row ∈ rows) :
    row.1.utf8ByteSize ≤ columnWidth rows := by
  rw [columnWidth_eq]
  exact List.le_max?_getD_of_mem (List.mem_map_of_mem h)

/-- Some token has as many bytes as the column is wide. -/
theorem columnWidth_attained (rows : List (String × String)) :
    rows = [] ∧ columnWidth rows = 0 ∨ ∃ row ∈ rows, row.1.utf8ByteSize = columnWidth rows := by
  cases hmax : (rows.map fun row => row.1.utf8ByteSize).max? with
  | none =>
    have hnil : rows = [] := List.map_eq_nil_iff.mp (List.max?_eq_none_iff.mp hmax)
    exact .inl ⟨hnil, by rw [hnil]; rfl⟩
  | some width =>
    obtain ⟨row, hmem, hwidth⟩ := List.mem_map.mp (List.max?_mem hmax)
    refine .inr ⟨row, hmem, ?_⟩
    rw [columnWidth_eq, hmax, hwidth, Option.getD_some]

/-- **No token has more characters than the column is wide.** -/
theorem length_le_columnWidth (h : row ∈ rows) : row.1.length ≤ columnWidth rows :=
  Nat.le_trans (Text.length_le_utf8ByteSize row.1) (utf8ByteSize_le_columnWidth h)

/-! ## A row -/

/-- A token that fits its column is filled up to the width, and two spaces follow. -/
theorem lead_eq_pad (h : token.length ≤ width) :
    lead width token = "  " ++ pad width token ++ "  " := by
  have hspaces : List.replicate (width + 2 - token.length) ' ' =
      List.replicate (width - token.length) ' ' ++ [' ', ' '] := by
    rw [Nat.sub_add_comm h, List.replicate_add]
    rfl
  rw [lead, hspaces, String.ofList_append, pad, String.append_assoc, String.append_assoc,
    String.append_assoc]

/-- **The description starts behind the width and four characters more.** -/
theorem length_lead (h : token.length ≤ width) : (lead width token).length = 4 + width := by
  rw [lead_eq_pad h, String.length_append, String.length_append, length_pad, Nat.max_eq_left h]
  show 2 + width + 2 = 4 + width
  omega

theorem helpRow_eq (h : row.1.length ≤ width) :
    helpRow width row = "\n" ++ lead width row.1 ++ row.2 := by
  rw [helpRow, lead_eq_pad h]
  simp only [String.append_assoc]
  rfl

/-! ## All rows -/

/-- **The text of the list**, as long as no token is too long for a column. -/
theorem helpAll_eq (h : ∀ row ∈ rows, row.1.utf8ByteSize ≤ maxColumnWidth) :
    helpAll rows = .finished (.ok (.text ("Commands (" ++ toString rows.length ++ "):" ++
      String.join (rows.map fun row => "\n" ++ lead (columnWidth rows) row.1 ++ row.2)))) := by
  have hfits : columnWidth rows ≤ maxColumnWidth := by
    rcases columnWidth_attained rows with ⟨-, hzero⟩ | ⟨row, hmem, hwidth⟩
    · exact hzero ▸ Nat.zero_le _
    · exact hwidth ▸ h row hmem
  have hrows : rows.map (helpRow (columnWidth rows)) =
      rows.map fun row => "\n" ++ lead (columnWidth rows) row.1 ++ row.2 :=
    List.map_congr_left fun row hmem => helpRow_eq (length_le_columnWidth hmem)
  rw [helpAll, if_pos hfits, helpTable, hrows]

end Builtin

namespace Registry

open Builtin

/-- **The columns of the help text line up.** As long as no token has more than 65535 bytes, `help`
without arguments shows how many commands there are, and then one row for each, in the order of the
listing. The column of tokens is as wide as the longest token has bytes. A row is a line break, two
spaces, the whole token, at least two spaces and the description, which starts after as many
characters as the column is wide and four more. -/
theorem help_columns_line_up {registry : Registry}
    (hshort : ∀ token ∈ registry.tokens, token.utf8ByteSize ≤ 65535) :
    let text := fun width => "Commands (" ++ toString registry.size ++ "):" ++
      String.join (registry.listing.map fun row => "\n" ++ lead width row.1 ++ row.2)
    ∃ width,
      ((∀ token ∈ registry.tokens, token.utf8ByteSize ≤ width) ∧
        (registry.tokens = [] ∧ width = 0 ∨
          ∃ token ∈ registry.tokens, token.utf8ByteSize = width)) ∧
      registry.reply? help [] = some (pure (.finished (.ok (.text (text width))))) ∧
      (help ∈ registry.commands → (registry.dispatch "help").value = .ok (.text (text width))) ∧
      registry.listing.Perm
        (registry.commands.map fun command => (command.token, command.description)) ∧
      ∀ row ∈ registry.listing,
        row.1.length ≤ width ∧ 2 ≤ width + 2 - row.1.length ∧
          (lead width row.1).length = 4 + width := by
  intro text
  have htoken : ∀ {token}, token ∈ registry.tokens ↔ ∃ row ∈ registry.listing, row.1 = token :=
    fun {token} => registry.perm_tokens.mem_iff.symm.trans List.mem_map
  have hlength : registry.listing.length = registry.size := by
    rw [registry.perm_listing.length_eq, List.length_map, size]
  have hfit : ∀ row ∈ registry.listing, row.1.utf8ByteSize ≤ maxColumnWidth :=
    fun row hmem => hshort _ (htoken.mpr ⟨row, hmem, rfl⟩)
  have hall := helpAll_eq hfit
  rw [hlength] at hall
  have hreply := (reply?_help registry []).trans (congrArg (fun reply => some (pure reply)) hall)
  refine ⟨columnWidth registry.listing, ⟨?_, ?_⟩, hreply, fun hhelp => ?_,
    registry.perm_listing, fun row hmem => ?_⟩
  · intro token hmem
    obtain ⟨row, hrow, rfl⟩ := htoken.mp hmem
    exact utf8ByteSize_le_columnWidth hrow
  · rcases columnWidth_attained registry.listing with ⟨hnil, hzero⟩ | ⟨row, hmem, hwidth⟩
    · have hperm := registry.perm_tokens
      rw [hnil] at hperm
      exact .inl ⟨List.nil_perm.mp hperm, hzero⟩
    · exact .inr ⟨row.1, htoken.mpr ⟨row, hmem, rfl⟩, hwidth⟩
  · have hcall : Invocation.ofLine? "help" = some ⟨"help", []⟩ := by decide
    rw [dispatch_of_command hcall (lookup_of_mem hhelp), execute_of_reply? hreply]
    rfl
  · have hlead := length_le_columnWidth hmem
    exact ⟨hlead, by omega, length_lead hlead⟩

/-- Of three tokens two have four bytes, but one of them a single character: the column is four
characters wide for all. -/
theorem help_columns_line_up_multibyte :
    let smile := Scripted.command ⟨"Smile", "😀", "smiles", ""⟩ .silent
    let accent := Scripted.command ⟨"Accent", "é", "sounds", ""⟩ .silent
    let registry := (empty.registerAll [smile, help, accent]).value
    (∀ token ∈ registry.tokens, token.utf8ByteSize ≤ 65535) ∧ help ∈ registry.commands ∧
      smile.row ∈ registry.listing ∧ (lead 4 "😀").length = 8 ∧
      (registry.dispatch "help").value = .ok (.text ("Commands (3):" ++
        "\n  help  Lists commands or shows help for one" ++
        "\n  é     sounds" ++
        "\n  😀     smiles")) := by
  intro smile accent registry
  have hshort : ∀ token ∈ registry.tokens, token.utf8ByteSize ≤ 65535 := by decide
  have hhelp : help ∈ registry.commands := List.mem_of_getElem? (i := 1) rfl
  have hlisting : [help.row, accent.row, smile.row] = registry.listing :=
    eq_listing (by decide) (by decide)
  have hsmile : smile.row ∈ registry.listing := by
    rw [← hlisting]
    decide
  obtain ⟨width, ⟨hwide, hattained⟩, -, htext, -, hrows⟩ := help_columns_line_up hshort
  have hwidth : width = 4 := by
    rcases hattained with ⟨hnil, -⟩ | ⟨token, hmem, hsize⟩
    · exact absurd hnil (by decide)
    · have hfour : ∀ token ∈ registry.tokens, token.utf8ByteSize ≤ 4 := by decide
      exact Nat.le_antisymm (hsize ▸ hfour token hmem) (hwide "help" (by decide))
  subst hwidth
  refine ⟨hshort, hhelp, hsmile, (hrows _ hsmile).2.2, ?_⟩
  rw [htext hhelp, ← hlisting]
  exact congrArg (fun text => Except.ok (Output.text text)) (by decide)

end Registry

end CommandConsole
