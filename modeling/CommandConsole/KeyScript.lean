import CommandConsole.Key
import CommandConsole.Text.Blank

/-!
# Key scripts

A key script is one line of text that stands for a series of key presses, in one of three forms:

* a backslash and then names of keys, separated by blanks: those keys;
* a text that ends in `\tab`: its characters, then the completion key;
* any other text: its characters, then the enter key.

`keys` reads a line; `Script.line` writes one and `Script.keys` says what it stands for. Only the
first form can be wrong, and the error names the first word that is not a key.
-/

namespace CommandConsole.KeyScript

/-- The keys that have a name. -/
inductive NamedKey where
  | up
  | down
  | tab
  | toggle
  | bs
  | enter
  deriving Repr, DecidableEq

namespace NamedKey

/-- Every named key. -/
def all : List NamedKey := [.up, .down, .tab, .toggle, .bs, .enter]

/-- The name of a key. -/
def name : NamedKey → String
  | up => "up"
  | down => "down"
  | tab => "tab"
  | toggle => "toggle"
  | bs => "bs"
  | enter => "enter"

/-- The key that a name stands for. -/
def key : NamedKey → Key
  | up => .up
  | down => .down
  | tab => .tab
  | toggle => .backquote
  | bs => .backspace
  | enter => .enter

/-- The key with the given name. -/
def ofName? (name : String) : Option NamedKey :=
  all.find? fun named => named.name == name

/-- Every key is found under its name. -/
@[simp]
theorem ofName?_name (named : NamedKey) : ofName? named.name = some named := by
  cases named <;> rfl

end NamedKey

/-- The character that introduces names of keys. -/
def marker : Char := '\\'

/-- The ending that asks for completion instead of submission. -/
def tabEnding : List Char := ['\\', 't', 'a', 'b']

/-- A word where the name of a key was expected. -/
structure UnknownKey where
  /-- The word, without the backslashes in front of it. -/
  word : String
  deriving Repr, DecidableEq

/-- The wording of the error. -/
def UnknownKey.message (unknown : UnknownKey) : String :=
  "unknown key '\\" ++ unknown.word ++ "' (up, down, tab, toggle, bs, enter)"

/-- The name that a word of a script spells: the word without the backslashes in front of it. -/
def nameOfWord (word : List Char) : String :=
  String.ofList (word.dropWhile (· == marker))

/-- The key that one word of a script names. -/
def keyOfWord (word : List Char) : Except UnknownKey Key :=
  match NamedKey.ofName? (nameOfWord word) with
  | some named => .ok named.key
  | none => .error ⟨nameOfWord word⟩

/-- The keys of a text that is typed and then entered or completed. -/
def keysOfText (text : List Char) : List Key :=
  if tabEnding.isSuffixOf text then
    (text.take (text.length - tabEnding.length)).map Key.char ++ [.tab]
  else text.map Key.char ++ [.enter]

/-- The key presses that a line stands for. -/
def keys (line : String) : Except UnknownKey (List Key) :=
  match line.toList with
  | '\\' :: rest => (Text.words rest).mapM keyOfWord
  | text => .ok (keysOfText text)

/-- What a line can stand for. -/
inductive Script where
  /-- Named keys, pressed in order. -/
  | directive (names : List NamedKey)
  /-- A text that is submitted. -/
  | entered (text : String)
  /-- A text that is completed. -/
  | completed (text : String)
  deriving Repr, DecidableEq

/-- The line that a script is written as. -/
def Script.line : Script → String
  | directive names => "\\" ++ " ".intercalate (names.map NamedKey.name)
  | entered text => text
  | completed text => text ++ String.ofList tabEnding

/-- The key presses that a script stands for. -/
def Script.keys : Script → List Key
  | directive names => names.map NamedKey.key
  | entered text => text.toList.map Key.char ++ [.enter]
  | completed text => text.toList.map Key.char ++ [.tab]

end CommandConsole.KeyScript
