import DesktopCapture.Config.File
import DesktopCapture.Log

/-!
# Launching the preview tool

A launch loads the configuration, sets up its log, announces itself and says why it
ends.  Without a desktop to duplicate it always ends: with a configuration it says
so, and without one it says what is wrong with the file.  Only the log is set up
after the configuration was loaded, so a file may have been written even if there
is no place for the log.
-/

namespace DesktopCapture

/-- What a launch finds. -/
structure Launch where
  /-- The words of the command line after the program's name. -/
  arguments : List String
  /-- What stands at the path of the configuration file. -/
  place : Place
  /-- Whether there is a directory for log files, or room for one. -/
  canLog : Bool

namespace Launch

/-- The path of the configuration file. -/
def configPath : String := "./duplicator-preview.toml"

/-- The version that the tool announces. -/
def version : String := "0.0.0"

/-- The spans that everything in a launch stands in. -/
def spans : List String := ["[Main Thread]"]

/-- Something a launch has to say. -/
structure Event where
  level : Level
  message : String
deriving DecidableEq

/-- The record of an event. -/
def Event.record (event : Event) : String := Log.record event.level spans event.message

/-- The record of an event with its level aligned. -/
def Event.alignedRecord (event : Event) : String :=
  Log.alignedRecord event.level spans event.message

/-- How a launch ends. -/
inductive Ending
  /-- There was nowhere to keep the log. -/
  | withoutLog
  /-- The launch came to its end and logged these events. -/
  | finished (events : List Event)
deriving DecidableEq

/-- Whether the command line asks for a detailed log. -/
def asksForDetail (launch : Launch) : Bool := launch.arguments.any (· == "--debug")

/-- How detailed a log to keep. -/
def threshold (launch : Launch) (config : Except Config.LoadError Config) : Level :=
  match config with
  | .ok config => if launch.asksForDetail || config.debug then .debug else .info
  | .error _ => if launch.asksForDetail then .debug else .info

/-- Why a launch ends. -/
def farewell : Except Config.LoadError Config → String
  | .ok _ => "Exiting: Desktop duplication is only available on Windows"
  | .error error => "Exiting: Invalid config at " ++ configPath ++ ":\n" ++ error.message

/-- All that a launch has to say. -/
def events (config : Except Config.LoadError Config) : List Event :=
  [⟨.info, "Duplicator Preview v" ++ version⟩, ⟨.error, farewell config⟩, ⟨Span.level, "close"⟩]

/-- Launch the tool: how it ends and the place of the configuration afterwards. -/
def run (codec : Codec) (launch : Launch) : Ending × Place :=
  let (config, place) := Config.loadOrCreate codec launch.place
  let isLogged (event : Event) := event.level.isRecorded (launch.threshold config)
  if launch.canLog then (.finished ((events config).filter isLogged), place)
  else (.withoutLog, place)

end Launch
end DesktopCapture
