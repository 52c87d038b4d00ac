import PageImages.Fatal
import PageImages.Journal
import PageImages.Settings.Json
import PageImages.Storage.Operations

/-!
**Where settings come from.**

Settings come from a text, from a file, or from other settings by changes; on each way they are
checked before they are handed out.  A settings file that is missing stands for the defaults.

Main definitions:

* `Settings.build` — checked settings, and what there is to say about them;
* `Settings.parse` — the settings of a text;
* `Settings.load` — the settings of a file.
-/

set_option autoImplicit false

namespace PageImages

/-- A value that may be refused, and what was said on the way. -/
structure Noted (α : Type) where
  /-- What was said. -/
  notices : List Notice
  /-- The value, or why there is none. -/
  outcome : Except Fatal α

namespace Settings

/-- Checked settings; an unusual resolution is pointed out. -/
def build (s : Settings) : Noted Settings where
  notices := (s.unusualDpi?.map Notice.unusualDpi).toList
  outcome :=
    match s.check with
    | .ok s => .ok s
    | .error fault => .error (.invalidSettings fault)

/-- The settings of a text that comes from the path `origin`. -/
def parse (text : String) (origin : Path) : Noted Settings :=
  match decode text with
  | .ok s => s.build
  | .error e => ⟨[], .error (.settingsParse origin e)⟩

/-- The settings of a file. -/
def load (fs : FileSystem) (path : Path) : Noted Settings :=
  if fs.hasEntry path then
    match fs.readText path with
    | .ok text =>
      let parsed := parse text path
      { parsed with notices := .settingsLoading path :: parsed.notices }
    | .error e => ⟨[.settingsLoading path], .error (.settingsRead path e)⟩
  else
    let built := build default
    { built with notices := .settingsMissing path :: built.notices }

end Settings

end PageImages
