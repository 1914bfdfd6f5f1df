import CommandConsole.Proofs.Registration
import CommandConsole.Proofs.Returning
import CommandConsole.Proofs.Run
import CommandConsole.Proofs.Spelling

/-!
# What dispatching a line comes to

The text in front of the first space of a line names a command. If the line is blank, or no command
is bound to that text, nothing is run and nothing recorded. Otherwise one record says what is
dispatched, the command runs on the other pieces of the line, and its reply decides the outcome: a
result as it is, and a breakdown as an error.

Results:
* `Invocation.ofLine?_of_not_blank`: what a line spells, read off the line from left to right.
* `Registry.Binds.resolve?_of_unbound`, `Registry.Binds.resolve?_of_bound`: the two cases, for a
  registry after a series of registrations.
* `Registry.dispatches_by_token`: **all of it, for every series of registrations and every line.**
-/

namespace CommandConsole

open Log

/-! ## The text in front of the first space -/

namespace Invocation

/-- The text in front of the first space, which is the whole line if there is none. -/
def firstPiece (line : String) : String :=
  String.ofList (line.toList.takeWhile (· != ' '))

/-- The pieces of a line behind the first space. -/
def otherPieces (line : String) : List String :=
  (pieces line).tail

theorem splitOn_eq_takeWhile_cons (separator : Char) (text : List Char) :
    text.splitOn separator =
      text.takeWhile (· != separator) :: (text.splitOn separator).tail := by
  induction text with
  | nil => rfl
  | cons c text ih =>
    rw [List.splitOn_cons_eq_if_modifyHead]
    by_cases hc : c = separator
    · rw [if_pos (beq_iff_eq.mpr hc), List.takeWhile_cons_of_neg (by simp [hc])]
      rfl
    · rw [if_neg (by simpa using hc), List.takeWhile_cons_of_pos (by simp [hc]), ih]
      rfl

theorem pieces_eq_cons (line : String) : pieces line = firstPiece line :: otherPieces line := by
  unfold otherPieces pieces
  rw [splitOn_eq_takeWhile_cons]
  rfl

/-- A line that is not blank names its first piece and hands over the others. -/
theorem ofLine?_of_not_blank {line : String} (h : isBlankLine line = false) :
    ofLine? line = some ⟨firstPiece line, otherPieces line⟩ :=
  ofLine?_eq_some_iff_pieces.mpr ⟨h, pieces_eq_cons line⟩

/-- **The first piece and the others make up the line**, one space between any two of them. -/
theorem join_firstPiece (line : String) :
    join (firstPiece line :: otherPieces line) = line ∧
      ∀ piece ∈ firstPiece line :: otherPieces line, ' ' ∉ piece.toList := by
  rw [← pieces_eq_cons]
  exact ⟨join_pieces line, fun piece => not_mem_of_mem_pieces⟩

end Invocation

/-! ## What becomes of a reply -/

/-- **A result is the outcome as it is, and a breakdown is an error with its message.** -/
theorem Reply.settle_cases (reply : Reply) :
    (∀ outcome, reply = .finished outcome → reply.settle = outcome) ∧
      (∀ message, reply = .panicked (some message) →
        reply.settle = .error (.commandPanicked message)) ∧
      (reply = .panicked none → reply.settle = .error (.commandPanicked "unknown panic")) := by
  refine ⟨?_, ?_, ?_⟩
  · rintro outcome rfl
    rfl
  · rintro message rfl
    rfl
  · rintro rfl
    rfl

namespace Registry

variable {registry : Registry} {calls : List Command} {command : Command} {line : String}

/-- A blank line, and one that names no command, resolves to nothing. -/
theorem Binds.resolve?_of_unbound (h : registry.Binds calls)
    (hline : Invocation.isBlankLine line = true ∨
      ∀ command ∈ calls, command.token ≠ Invocation.firstPiece line) :
    registry.resolve? line = none := by
  by_cases hblank : Invocation.isBlankLine line = true
  · rw [resolve?, Invocation.ofLine?_eq_none_iff.mpr hblank, Option.bind_none]
  · have hfree := hline.resolve_left hblank
    have hnone : registry.lookup (Invocation.firstPiece line) = none := by
      rw [h.lookup]
      exact List.find?_eq_none.mpr fun command hmem => mt beq_iff_eq.mp (hfree command hmem)
    rw [Bool.not_eq_true] at hblank
    rw [resolve?, Invocation.ofLine?_of_not_blank hblank, Option.bind_some, hnone, Option.map_none]

/-- Any other line resolves to the first command that was registered under its first piece. -/
theorem Binds.resolve?_of_bound (h : registry.Binds calls)
    (hblank : Invocation.isBlankLine line = false)
    (hfirst : calls.find? (fun command => command.token == Invocation.firstPiece line) =
      some command) :
    registry.resolve? line =
      some (command, ⟨Invocation.firstPiece line, Invocation.otherPieces line⟩) :=
  resolve?_eq_some_iff.mpr ⟨Invocation.ofLine?_of_not_blank hblank, (h.lookup _).trans hfirst⟩

/-- **What dispatching a line comes to, after any series of registrations.** The line is cut at its
spaces. If it is blank, or no command has its first piece for a token, it is not recognized: nothing
runs and nothing is recorded. Otherwise the first command registered under that piece, which is the
one that the index leads to, runs on the other pieces. If it comes back, then after one record and
before no other; its result is handed back as it is, and its breakdown becomes an error. If it
never does, neither does the dispatch. No console changes its commands by dispatching, nor by
anything else. -/
theorem dispatches_by_token (commands : List Command) (line : String) :
    let registry := (empty.registerAll commands).value
    let indexed := (Indexed.empty.registerAll commands).value
    let token := Invocation.firstPiece line
    let args := Invocation.otherPieces line
    (Invocation.join (token :: args) = line ∧ ∀ piece ∈ token :: args, ' ' ∉ piece.toList) ∧
    ((∀ c ∈ line.toList, Text.isBlank c = true) ∨ (∀ command ∈ commands, command.token ≠ token) →
      registry.dispatch? line = some (pure (.error .notRecognized)) ∧
        registry.dispatch line = pure (.error .notRecognized)) ∧
    (¬ (∀ c ∈ line.toList, Text.isBlank c = true) →
      (∃ command ∈ commands, command.token = token) →
      ∃ command, commands.find? (fun command => command.token == token) = some command ∧
        indexed.lookup? token = some (some command) ∧
        (registry.reply? command args = none → registry.dispatch? line = none) ∧
        ∀ reply, registry.reply? command args = some reply →
          let result := registry.dispatch line
          registry.dispatch? line = some result ∧
          result.records =
            .debug ("Dispatching '" ++ token ++ "' with " ++ toString args.length ++ " arg(s)") ::
              reply.records ∧
          (∀ outcome, reply.value = .finished outcome → result.value = outcome) ∧
          (∀ message, reply.value = .panicked (some message) →
            result.value = .error (.commandPanicked message)) ∧
          (reply.value = .panicked none →
            result.value = .error (.commandPanicked "unknown panic"))) ∧
    ∀ console : Console, console.session.registry = registry →
      ∀ steps, (console.run steps).value.session.registry = registry := by
  intro registry indexed token args
  have hbinds : registry.Binds commands := binds_empty.registerAll commands
  have hindexed : indexed.Represents registry :=
    (Indexed.represents_empty.registerAll commands).2
  refine ⟨Invocation.join_firstPiece line, ?_, ?_, ?_⟩
  · rw [← Invocation.isBlankLine_iff]
    intro hline
    have hnone := hbinds.resolve?_of_unbound hline
    exact ⟨dispatch?_of_unresolved hnone, dispatch_of_unresolved hnone⟩
  · rw [← Invocation.isBlankLine_iff, Bool.not_eq_true]
    rintro hblank ⟨other, hmem, htoken⟩
    have hsome : (commands.find? fun command => command.token == token).isSome = true :=
      List.find?_isSome.mpr ⟨other, hmem, beq_iff_eq.mpr htoken⟩
    obtain ⟨command, hfirst⟩ := Option.isSome_iff_exists.mp hsome
    have hresolves : registry.resolve? line = some (command, ⟨token, args⟩) :=
      hbinds.resolve?_of_bound hblank hfirst
    refine ⟨command, hfirst, ?_, (dispatch?_eq_none_iff hresolves).mpr, ?_⟩
    · rw [hindexed.lookup?_eq, hbinds.lookup]
      exact congrArg some hfirst
    · intro reply hreply result
      have hsome : registry.dispatch? line = some (report ⟨token, args⟩ reply) :=
        dispatch?_of_reply? hresolves hreply
      have hresult : result = report ⟨token, args⟩ reply := dispatch_of_dispatch? hsome
      have hvalue : result.value = reply.value.settle := by
        rw [hresult]
        rfl
      rw [hvalue, hresult]
      exact ⟨hsome, records_report ⟨token, args⟩ reply, reply.value.settle_cases⟩
  · intro console hregistry steps
    rw [(console.setup_run steps).2.1, hregistry]

/-- Of two commands under one token the first runs, on an empty piece and a text; a command under
the empty token runs for a line that begins with a space, but not for a blank one; and one that
dispatches its own line never comes back. -/
theorem dispatches_by_token_first :
    let shout := Scripted.command ⟨"Shout", "x", "", ""⟩ (.panicCounting "boom")
    let other := Scripted.command ⟨"Other", "x", "", ""⟩ .silent
    let blank := Scripted.command ⟨"Blank", "", "", ""⟩ .panicMute
    let spin : Command := ⟨⟨"Spin", "s", "", ""⟩,
      fun _ => .ask (.dispatch "s") fun outcome => .done (.finished outcome)⟩
    let commands := [shout, other, blank, spin]
    let registry := (empty.registerAll commands).value
    registry.dispatch "y x" = pure (.error .notRecognized) ∧
      registry.dispatch "   " = pure (.error .notRecognized) ∧
      (∃ command ∈ commands, command.token = Invocation.firstPiece "x  a") ∧
      (registry.dispatch "x  a").records = [.debug "Dispatching 'x' with 2 arg(s)"] ∧
      (registry.dispatch "x  a").value = .error (.commandPanicked "boom (2 args)") ∧
      (registry.dispatch " x").value = .error (.commandPanicked "unknown panic") ∧
      registry.dispatch? "s" = none ∧
      let console : Console := ⟨.fresh .default registry, .empty, none⟩
      (console.run [.act .toggleVisibility, .act (.insert 'x'), .act .submit]).value.session.registry
        = registry := by
  intro shout other blank spin commands registry
  obtain ⟨-, hunknown, -, hkeeps⟩ := dispatches_by_token commands "y x"
  obtain ⟨-, hblank, -⟩ := dispatches_by_token commands "   "
  obtain ⟨-, -, hshout, -⟩ := dispatches_by_token commands "x  a"
  obtain ⟨-, -, hempty, -⟩ := dispatches_by_token commands " x"
  obtain ⟨-, -, hspin, -⟩ := dispatches_by_token commands "s"
  have hmem : ∃ command ∈ commands, command.token = Invocation.firstPiece "x  a" :=
    ⟨shout, by simp [commands], by decide⟩
  have hmem' : ∃ command ∈ commands, command.token = Invocation.firstPiece " x" :=
    ⟨blank, by simp [commands], by decide⟩
  have hmem'' : ∃ command ∈ commands, command.token = Invocation.firstPiece "s" :=
    ⟨spin, by simp [commands], by decide⟩
  obtain ⟨first, hfirst, -, -, hreply⟩ :=
    hshout (fun h => absurd (h 'x' (by decide)) (by decide)) hmem
  obtain ⟨bare, hbare, -, -, hreply'⟩ :=
    hempty (fun h => absurd (h 'x' (by decide)) (by decide)) hmem'
  obtain ⟨endless, hendless, -, hnever, -⟩ :=
    hspin (fun h => absurd (h 's' (by decide)) (by decide)) hmem''
  obtain rfl : shout = first := Option.some.inj hfirst
  obtain rfl : blank = bare := Option.some.inj hbare
  obtain rfl : spin = endless := Option.some.inj hendless
  obtain ⟨-, hrecords, -, hpanic, -⟩ := hreply _ (reply?_of_done rfl)
  obtain ⟨-, -, -, -, hmute⟩ := hreply' _ (reply?_of_done rfl)
  have hresolves : registry.resolve? "s" = some (spin, ⟨"s", []⟩) := rfl
  exact ⟨(hunknown (.inr (by decide))).2, (hblank (.inl (List.all_eq_true.mp (by decide)))).2, hmem,
    hrecords, hpanic _ rfl, hmute rfl, hnever (reply?_of_endless hresolves rfl), hkeeps _ rfl _⟩

end Registry

end CommandConsole
