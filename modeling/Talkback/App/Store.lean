import Talkback.App.Settings
import Talkback.Host.Files

/-!
The settings file on disk. Loading reads the file as UTF-8 text and falls back to the
defaults when it is missing, unreadable or not valid settings. Saving creates the missing
directories above the file, then writes the settings as pretty JSON.
-/

namespace Talkback.App

/-- The text of a file, if it exists and is valid UTF-8. -/
def readText (fs : Host.Files) (p : String) : Option String :=
  (fs.read p).toOption.bind fun d => String.fromUTF8? (ByteArray.mk d.toArray)

/-- The settings stored at `p`, normalized. -/
def loadSettings (fs : Host.Files) (p : String) : Settings := Settings.load (readText fs p)

/-- Store settings at `p`. -/
def saveSettings (fs : Host.Files) (p : String) (s : Settings) : Except IoError Host.Files := do
  let fs ← fs.createParents p
  fs.write p s.render.toUTF8.toList

end Talkback.App
