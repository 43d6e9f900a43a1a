import NetSketch.Text.Pattern

/-!
# Words in prompts

Latin words count only where they stand alone; Korean words take endings and count anywhere.

* `alone`: a piece that is no part of a longer Latin word;
* `gap`, `joint`, `far`: what may stand between two words.
-/

namespace NetSketch.Prompt

open Text Text.Pattern

/-- Latin letters and digits. -/
def latin : CharSet := ⟨[.range 'a' 'z', .range '0' '9'], false⟩

/-- A piece that no Latin letter or digit touches. -/
def alone (p : Pattern) : Pattern := notAfter [latin] ++ p ++ notAhead (one latin)

/-- A place that a text does not precede. -/
def notBehind (s : String) : Pattern := notAfter (s.toList.map .only)

/-- A space that may be missing. -/
def gap : Pattern := opt " "

/-- A space or a hyphen that may be missing. -/
def joint : Pattern := opt (one (.of " -"))

/-- Anything within a line. -/
def far : Pattern := star (one .inLine)

/-- Any blanks. -/
def blanks : Pattern := star (one .blank)

/-- At least one blank. -/
def someBlanks : Pattern := plus (one .blank)

/-- A word that may stand in the plural. -/
def plural (s : String) : Pattern := s ++ opt "s"

/-- One of several texts. -/
def anyOf (texts : List String) : Pattern := firstOf (texts.map Pattern.text)

end NetSketch.Prompt
