import CallGraph.Exclusion
import CallGraph.Language
import CallGraph.Text.Number

/-!
# Options of a run

What a caller can choose, the defaults, and how settings given as text override
them.  A setting that cannot be read changes nothing.
-/

namespace CallGraph

/-- The number of functions shown at most, unless chosen otherwise. -/
def defaultCap : Nat := 200

/-- The number of workers at most, unless chosen otherwise. -/
def defaultWorkerLimit : Nat := 8

/-- The number of workers at most. -/
def workerLimit : Nat := 64

/-- The nearest number of workers that is allowed. -/
def clampWorkers (n : Nat) : Nat := max 1 (min n workerLimit)

/-- Reads a switch; blanks around it and letter case do not matter. -/
def readSwitch? (text : String) : Option Bool :=
  let word := Text.lower (Text.trim text)
  if word ∈ ["1", "true", "yes", "on"] then some true
  else if word ∈ ["0", "false", "no", "off"] then some false
  else none

/-- Reads a number, blanks around it aside. -/
def readSetting? (text : String) : Option Nat :=
  Text.readNumber? (Text.trim text)

/-- The choices for one run. -/
structure Options where
  /-- The language; found from the files when there is none. -/
  language : Option Language := none
  /-- Whether functions named `__name__` are kept. -/
  includePrivate : Bool := false
  /-- The number of functions shown at most. -/
  cap : Nat := defaultCap
  workers : Nat := defaultWorkerLimit
  exclusions : ExclusionRules := .usual

/-- Settings given as text. -/
structure Settings where
  cap : Option String := none
  workers : Option String := none
  includePrivate : Option String := none

/-- The options after the settings that can be read. -/
def Options.override (options : Options) (settings : Settings) : Options :=
  { options with
    cap := (settings.cap.bind readSetting?).getD options.cap
    workers := ((settings.workers.bind readSetting?).map clampWorkers).getD
      options.workers
    includePrivate := (settings.includePrivate.bind readSwitch?).getD
      options.includePrivate }

end CallGraph
