import CommandConsole.Completion
import CommandConsole.Config
import CommandConsole.History
import CommandConsole.InputField
import CommandConsole.Key
import CommandConsole.Registry
import CommandConsole.Transcript

/-!
# Sessions

A session is the state of a console apart from the messages that wait for it: its configuration,
commands and history, the transcript, the input field, whether it is visible, and whether a command
asked to quit. It changes by actions and by messages that it receives.

While a session is hidden it ignores every action but the one that shows it, and hiding it clears
the input field.

* `Session.start`: a fresh session, refused if the configuration is not valid.
* `Session.act`: one action.
* `Session.submit`: the line is echoed, dispatched, its outcome shown, and the line stored.
* `Session.receive`: messages become entries of the transcript and change nothing else.
-/

namespace CommandConsole

open Log

/-- The state of a console. -/
structure Session where
  /-- The settings it was opened with. -/
  config : Config
  /-- The commands. -/
  registry : Registry
  /-- The submitted lines that can be recalled. -/
  history : History
  /-- What was shown. -/
  transcript : Transcript
  /-- What is being typed. -/
  field : InputField
  /-- Whether the console is shown. -/
  visible : Bool
  /-- Whether a command asked the application to quit. -/
  quitRequested : Bool

namespace Session

/-- A hidden session that has shown nothing. -/
def fresh (config : Config) (registry : Registry) : Session where
  config := config
  registry := registry
  history := .ofCapacity config.historyCapacity
  transcript := .empty
  field := .empty
  visible := false
  quitRequested := false

/-- Opens a session; a configuration that is not valid is refused without a record. -/
def start (config : Config) (registry : Registry) : Logged (Except Error Session) :=
  match config.validate with
  | .error error => pure (.error error)
  | .ok () => do
    if !config.historyEnabled then
      Logged.emit (.debug "Console history disabled")
    Logged.emit (.debug ("Console session: " ++ toString registry.size ++
      " command(s), history " ++ toString config.historyCapacity ++
      ", completion after " ++ toString config.minChars ++ " char(s)"))
    return .ok (fresh config registry)

/-- Shows messages in the transcript. -/
def receive (session : Session) (messages : List Message) : Session :=
  { session with transcript := session.transcript.append (messages.map Entry.logged) }

/-- Shows or hides the console; hiding it clears the input field. -/
def toggleVisibility (session : Session) : Logged Session := do
  let visible := !session.visible
  Logged.emit (.debug ("Console visible: " ++ toString visible))
  return { session with visible, field := if visible then session.field else .empty }

/-- Records the outcomes that point to a fault of a command. -/
def recordFault (outcome : Outcome) : Logged Unit :=
  match outcome with
  | .ok _ => pure ()
  | .error error =>
    match error with
    | .commandPanicked _ => Logged.emit (.debug ("Command fault caught: " ++ error.message))
    | _ =>
      if error.isDispatchOutcome then pure ()
      else Logged.emit (.debug ("Command failed outside dispatch: " ++ error.message))

/-- Whether an outcome asks the application to quit. -/
def asksToQuit : Outcome → Bool
  | .ok .quit => true
  | _ => false

/-- The entries that a submitted line adds to the transcript: its echo, its outcome, and a notice
if storing it cleared the history. -/
def submissionEntries (line : String) (outcome : Outcome) (result : StoreResult) : List Entry :=
  [.echoed line, .outcome outcome] ++
    if result = .cleared then [.notice clearedText] else []

/-- Submits the line in the input field; nothing happens if it is empty. -/
def submit (session : Session) : Logged Session :=
  if session.field.text = "" then pure session
  else do
    let line := session.field.text
    let outcome ← session.registry.dispatch line
    recordFault outcome
    let (result, history) ← session.history.store line
    return { session with
      field := .empty
      history
      transcript := session.transcript.append (submissionEntries line outcome result)
      quitRequested := session.quitRequested || asksToQuit outcome }

/-- Puts an older line into the input field; the caret goes to the end in any case. -/
def recallOlder (session : Session) : Session :=
  let (line, history) := session.history.older
  { session with history, field := .ofText (line.getD session.field.text) }

/-- Puts a newer line into the input field, if there is one. -/
def recallNewer (session : Session) : Session :=
  match session.history.newer with
  | (some line, history) => { session with history, field := .ofText line }
  | (none, history) => { session with history }

/-- Completes the token in the input field, if there is a suggestion. -/
def complete (session : Session) : Session :=
  match Completion.suggest session.config.minChars session.registry.tokens session.field.text with
  | some token => { session with field := .ofText token }
  | none => session

/-- What a visible session does; showing and hiding is not among it. -/
def actVisible (session : Session) : Action → Logged Session
  | .toggleVisibility => pure session
  | .submit => session.submit
  | .recallOlder => pure session.recallOlder
  | .recallNewer => pure session.recallNewer
  | .complete => pure session.complete
  | .insert c => pure { session with field := session.field.insert c }
  | .deleteBack => pure { session with field := session.field.deleteBack }

/-- One action: a hidden session ignores all but the one that shows it. -/
def act (session : Session) (action : Action) : Logged Session :=
  if action = .toggleVisibility then session.toggleVisibility
  else if session.visible then session.actVisible action
  else pure session

/-! ## What each operation leaves behind -/

section Receive

variable (session : Session) (messages : List Message)

@[simp]
theorem config_receive : (session.receive messages).config = session.config := rfl

@[simp]
theorem registry_receive : (session.receive messages).registry = session.registry := rfl

@[simp]
theorem history_receive : (session.receive messages).history = session.history := rfl

@[simp]
theorem field_receive : (session.receive messages).field = session.field := rfl

@[simp]
theorem visible_receive : (session.receive messages).visible = session.visible := rfl

@[simp]
theorem quitRequested_receive :
    (session.receive messages).quitRequested = session.quitRequested := rfl

@[simp]
theorem entries_receive :
    (session.receive messages).transcript.entries =
      session.transcript.entries ++ messages.map Entry.logged := rfl

end Receive

/-- Showing and hiding changes the visibility, and hiding empties the input field. -/
theorem value_toggleVisibility (session : Session) :
    session.toggleVisibility.value =
      { session with
        visible := !session.visible
        field := if session.visible then .empty else session.field } := by
  cases h : session.visible <;> simp [toggleVisibility, h]

/-- Submitting an empty field does nothing. -/
theorem submit_of_empty {session : Session} (h : session.field.text = "") :
    session.submit = pure session := by
  simp [submit, h]

/-- Submitting a line empties the field, stores the line and shows what came of it. -/
theorem value_submit {session : Session} (h : session.field.text ≠ "") :
    session.submit.value =
      let line := session.field.text
      let outcome := (session.registry.dispatch line).value
      let stored := (session.history.store line).value
      { session with
        field := .empty
        history := stored.2
        transcript := session.transcript.append (submissionEntries line outcome stored.1)
        quitRequested := session.quitRequested || asksToQuit outcome } := by
  simp [submit, h]

/-- Submitting a line records the dispatch, a fault that it revealed, and a cleared history. -/
theorem records_submit {session : Session} (h : session.field.text ≠ "") :
    session.submit.records =
      (session.registry.dispatch session.field.text).records ++
        ((recordFault (session.registry.dispatch session.field.text).value).records ++
          (session.history.store session.field.text).records) := by
  simp [submit, h]

/-- The console can always be shown or hidden. -/
@[simp]
theorem act_toggleVisibility (session : Session) :
    session.act .toggleVisibility = session.toggleVisibility := by
  simp [act]

/-- A hidden session ignores every other action. -/
theorem act_of_hidden {session : Session} {action : Action} (hv : session.visible = false)
    (ha : action ≠ .toggleVisibility) : session.act action = pure session := by
  simp [act, ha, hv]

/-- A visible session does what the action asks for. -/
theorem act_of_visible {session : Session} {action : Action} (hv : session.visible = true)
    (ha : action ≠ .toggleVisibility) : session.act action = session.actVisible action := by
  simp [act, ha, hv]

end Session

end CommandConsole
