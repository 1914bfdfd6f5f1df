import CommandConsole.Session

/-!
# The screen

A plain terminal shows a transcript as it grows. The screen remembers how many lines it has
printed; a flush prints the lines that came since, and after them the line that is being typed.

* `Screen.flush`: what a flush prints, and the screen after it.
* `Screen.prompt`: the line that is being typed, shown while the console is visible.
-/

namespace CommandConsole

/-- What a terminal has printed of a transcript. -/
structure Screen where
  /-- How many lines were printed. -/
  printed : Nat := 0
  deriving Repr, DecidableEq

namespace Screen

/-- A screen that has printed nothing. -/
def blank : Screen := {}

/-- The line that is being typed, nothing while there is none or the console is hidden. -/
def prompt (session : Session) : String :=
  if session.visible && session.field.text != "" then "> " ++ session.field.text ++ "\n" else ""

/-- The lines that came since the last flush. -/
def fresh (screen : Screen) (session : Session) : List String :=
  session.transcript.lines.drop screen.printed

/-- Prints the lines that came since the last flush, then the line that is being typed. -/
def flush (screen : Screen) (session : Session) : String × Screen :=
  (Transcript.block (screen.fresh session) ++ prompt session, ⟨session.transcript.size⟩)

end Screen

end CommandConsole
