import CommandConsole.Registry
import Std.Data.HashMap.Lemmas

/-!
# Registries with an index

A registry in memory: the commands in a vector, and a hash map from the tokens to positions in it.
Looking a token up trusts the map and reads the vector where it says, which breaks down if the
position is out of range.

The invariant is `Represents`: the vector holds the commands of a registry, and the map holds
exactly the positions of their tokens. Registrations keep it, accepted or refused, so vector and map
stay in step.

Results:
* `Represents.register`, `Represents.registerAll`: the same answers, the same records, and the
  invariant again.
* `Represents.lookup?_eq`: **no position is out of range**, and the command is the registry's.
-/

namespace CommandConsole

open Log

/-- Commands in the order of registration, and under each token the position of its command. -/
structure Indexed where
  /-- The commands. -/
  commands : List Command
  /-- The position for a token. -/
  index : Std.HashMap String Nat

namespace Registry

theorem registerAll_cons (registry : Registry) (command : Command) (commands : List Command) :
    registry.registerAll (command :: commands) =
      registry.register command >>= fun registered => registered.2.registerAll commands := by
  unfold registerAll
  rw [List.foldlM_cons, bind_map_left]

/-- The command at a position is the one that its token is bound to. -/
theorem lookup_of_getElem? {registry : Registry} {position : Nat} {command : Command}
    (h : registry.commands[position]? = some command) :
    registry.lookup command.token = some command := by
  have hmem : command.token ∈ registry.tokens :=
    List.mem_map_of_mem (List.mem_of_getElem? h)
  obtain ⟨other, hother⟩ := Option.isSome_iff_exists.mp
    ((contains_iff_mem_tokens registry command.token).mpr hmem)
  obtain ⟨place, hplace⟩ := List.mem_iff_getElem?.mp (List.mem_of_find?_eq_some hother)
  have hposition : registry.tokens[position]? = some command.token := by
    rw [tokens, List.getElem?_map, h, Option.map_some]
  have hsame : registry.tokens[place]? = some command.token := by
    rw [tokens, List.getElem?_map, hplace, Option.map_some, token_of_lookup hother]
  obtain ⟨hrange, -⟩ := List.getElem?_eq_some_iff.mp hsame
  -- no token is bound twice, so there is one position for it
  obtain rfl := (List.getElem?_inj hrange registry.distinct).mp (hsame.trans hposition.symm)
  rw [hother, ← hplace, h]

end Registry

namespace Indexed

/-- Nothing is registered. -/
def empty : Indexed := ⟨[], ∅⟩

/-- Whether a token is bound. -/
def contains (indexed : Indexed) (token : String) : Bool :=
  indexed.index.contains token

/-- The command that a token is bound to; nothing at all comes back if its position is out of
range. -/
def lookup? (indexed : Indexed) (token : String) : Option (Option Command) :=
  match indexed.index[token]? with
  | none => some none
  | some position => indexed.commands[position]?.map some

/-- Adds a command at the end and its position to the index, unless its token is bound already. -/
def register (indexed : Indexed) (command : Command) : Logged (Bool × Indexed) :=
  if indexed.contains command.token then do
    Logged.emit (.debug ("Command '" ++ command.token ++ "' already registered, keeping the first"))
    return (false, indexed)
  else do
    Logged.emit (.info (command.name ++ " command has been added to the console."))
    return (true, ⟨indexed.commands ++ [command],
      indexed.index.insert command.token indexed.commands.length⟩)

/-- Registers commands one after the other. -/
def registerAll (indexed : Indexed) (commands : List Command) : Logged Indexed :=
  commands.foldlM (fun indexed command => Prod.snd <$> indexed.register command) indexed

/-- Vector and index are those of a registry. -/
structure Represents (indexed : Indexed) (registry : Registry) : Prop where
  commands : indexed.commands = registry.commands
  index : ∀ (token : String) (position : Nat),
    indexed.index[token]? = some position ↔ registry.tokens[position]? = some token

theorem represents_empty : empty.Represents .empty := by
  constructor
  · rfl
  · intro token position
    unfold empty
    rw [Std.HashMap.getElem?_empty]
    exact iff_of_false (Option.some_ne_none _).symm (Option.some_ne_none _).symm

variable {indexed : Indexed} {registry : Registry}

theorem Represents.contains_eq (h : indexed.Represents registry) (token : String) :
    indexed.contains token = registry.contains token := by
  rw [Bool.eq_iff_iff, Registry.contains_iff_mem_tokens, contains,
    Std.HashMap.contains_eq_isSome_getElem?, Option.isSome_iff_exists, List.mem_iff_getElem?]
  exact exists_congr (h.index token)

/-- **No position is out of range.** -/
theorem Represents.lookup?_eq (h : indexed.Represents registry) (token : String) :
    indexed.lookup? token = some (registry.lookup token) := by
  unfold lookup?
  cases hindex : indexed.index[token]? with
  | none =>
    have habsent : registry.contains token = false := by
      rw [← h.contains_eq, contains, Std.HashMap.contains_eq_isSome_getElem?, hindex]
      rfl
    exact congrArg some (Option.not_isSome_iff_eq_none.mp (Bool.eq_false_iff.mp habsent)).symm
  | some position =>
    have htoken := (h.index token position).mp hindex
    unfold Registry.tokens at htoken
    rw [List.getElem?_map, Option.map_eq_some_iff] at htoken
    obtain ⟨command, hcommand, rfl⟩ := htoken
    simp only [h.commands, hcommand, Registry.lookup_of_getElem? hcommand, Option.map_some]

theorem getElem?_concat_iff {tokens : List String} {last token : String} {position : Nat} :
    (tokens ++ [last])[position]? = some token ↔
      tokens[position]? = some token ∨ tokens.length = position ∧ last = token := by
  rcases Nat.lt_trichotomy position tokens.length with hlt | rfl | hgt
  · rw [List.getElem?_append_left hlt]
    constructor
    · exact .inl
    · rintro (hbound | ⟨rfl, -⟩)
      · exact hbound
      · exact absurd hlt (Nat.lt_irrefl _)
  · rw [List.getElem?_concat_length, Option.some.injEq, List.getElem?_eq_none (Nat.le_refl _)]
    simp
  · rw [List.getElem?_append_right (Nat.le_of_lt hgt), List.getElem?_eq_none (Nat.le_of_lt hgt)]
    rw [List.getElem?_eq_none (by rw [List.length_singleton]; omega)]
    simp only [reduceCtorEq, false_or, false_iff, not_and]
    omega

/-- A token that is not bound gets the next position. -/
theorem Represents.insert (h : indexed.Represents registry) {command : Command}
    (hnew : command.token ∉ registry.tokens) :
    Represents ⟨indexed.commands ++ [command],
        indexed.index.insert command.token indexed.commands.length⟩
      ⟨registry.commands ++ [command], Registry.nodup_append_token hnew⟩ := by
  have htokens : Registry.tokens
      ⟨registry.commands ++ [command], Registry.nodup_append_token hnew⟩ =
        registry.tokens ++ [command.token] := List.map_append ..
  have hlength : indexed.commands.length = registry.tokens.length := by
    rw [h.commands, Registry.tokens, List.length_map]
  constructor
  · exact congrArg (· ++ [command]) h.commands
  · intro token position
    rw [htokens, getElem?_concat_iff, Std.HashMap.getElem?_insert, hlength]
    by_cases htoken : command.token = token
    · have hfree : registry.tokens[position]? ≠ some token := fun hbound =>
        hnew (htoken ▸ List.mem_of_getElem? hbound)
      rw [if_pos (beq_iff_eq.mpr htoken), Option.some.injEq, or_iff_right hfree]
      exact (and_iff_left htoken).symm
    · rw [if_neg (mt beq_iff_eq.mp htoken), h.index, or_iff_left fun hlast => htoken hlast.2]

/-- **A registration keeps vector and index in step**, accepted or refused. -/
theorem Represents.register (h : indexed.Represents registry) (command : Command) :
    (indexed.register command).value.1 = (registry.register command).value.1 ∧
      (indexed.register command).records = (registry.register command).records ∧
        (indexed.register command).value.2.Represents (registry.register command).value.2 := by
  have hcontains := h.contains_eq command.token
  unfold Indexed.register Registry.register
  by_cases hmem : command.token ∈ registry.tokens
  · rw [(Registry.contains_iff_mem_tokens registry _).mpr hmem] at hcontains
    rw [if_pos hcontains, dif_pos hmem]
    exact ⟨rfl, rfl, h⟩
  · have hfree : ¬ registry.contains command.token = true := fun hbound =>
      hmem ((Registry.contains_iff_mem_tokens registry _).mp hbound)
    rw [← hcontains] at hfree
    rw [if_neg hfree, dif_neg hmem]
    exact ⟨rfl, rfl, h.insert hmem⟩

theorem registerAll_cons (indexed : Indexed) (command : Command) (commands : List Command) :
    indexed.registerAll (command :: commands) =
      indexed.register command >>= fun registered => registered.2.registerAll commands := by
  unfold registerAll
  rw [List.foldlM_cons, bind_map_left]

theorem Represents.registerAll (h : indexed.Represents registry) (commands : List Command) :
    (indexed.registerAll commands).records = (registry.registerAll commands).records ∧
      (indexed.registerAll commands).value.Represents (registry.registerAll commands).value := by
  induction commands generalizing indexed registry with
  | nil => exact ⟨rfl, h⟩
  | cons command commands ih =>
    obtain ⟨-, hrecords, hnext⟩ := h.register command
    obtain ⟨hrest, hlast⟩ := ih hnext
    rw [registerAll_cons, Registry.registerAll_cons, Logged.records_bind, Logged.records_bind,
      hrecords, hrest]
    exact ⟨rfl, hlast⟩

end Indexed

end CommandConsole
