import DesktopCapture.Config.Codec
import DesktopCapture.Config.Place
import DesktopCapture.Text.Utf8

/-!
# The configuration file

Loading never changes a file that is there.  Where there is none, the standard
configuration is written out and taken.  Saving replaces the whole content, and a
configuration without a text is refused before anything is touched.
-/

namespace DesktopCapture
namespace Config

/-- Why a configuration was not saved. -/
inductive SaveError
  /-- The configuration has no text. -/
  | serialize (cause : String)
  /-- The file could not be written. -/
  | write (cause : SystemError)
deriving DecidableEq

/-- The wording of an error of saving. -/
def SaveError.message : SaveError → String
  | .serialize cause => "Failed to serialize config:\n" ++ cause
  | .write cause => "Failed to write file:\n" ++ cause.message

/-- Why the content of a file could not be read. -/
inductive ReadFault
  | system (cause : SystemError)
  /-- The content is not a text. -/
  | notUtf8
deriving DecidableEq

/-- The wording of a fault in reading. -/
def ReadFault.message : ReadFault → String
  | .system cause => cause.message
  | .notUtf8 => "stream did not contain valid UTF-8"

/-- Why a configuration was not loaded. -/
inductive LoadError
  | cannotOpen (cause : SystemError)
  | cannotSave (cause : SaveError)
  | cannotRead (cause : ReadFault)
  /-- The text is no document, or a field has a value that does not fit it. -/
  | invalid
deriving DecidableEq

/-- The wording of an error of loading. -/
def LoadError.message : LoadError → String
  | .cannotOpen cause => "Failed to open config file:\n" ++ cause.message
  | .cannotSave cause => "Failed to save config file:\n" ++ cause.message
  | .cannotRead cause => "Failed to read config file:\n" ++ cause.message
  | .invalid => "Failed to deserialize config:"

/-- Save a configuration: the place afterwards. -/
def save (codec : Codec) (config : Config) (place : Place) : Except SaveError Place :=
  match codec.render config with
  | .error cause => .error (.serialize cause)
  | .ok text => (place.write (Utf8.encode text)).mapError .write

/-- The place after an attempt to save. -/
def placeAfterSave (codec : Codec) (config : Config) (place : Place) : Place :=
  match config.save codec place with
  | .ok after => after
  | .error _ => place

/-- The configuration that octets hold. -/
def ofOctets (codec : Codec) (octets : List UInt8) : Except LoadError Config :=
  match Utf8.decode? octets with
  | none => .error (.cannotRead .notUtf8)
  | some text =>
    match codec.parse? text with
    | none => .error .invalid
    | some config => .ok config

/-- The configuration that something opened holds. -/
def ofOpened (codec : Codec) (opened : Opened) : Except LoadError Config :=
  match opened.read with
  | .error cause => .error (.cannotRead (.system cause))
  | .ok octets => ofOctets codec octets

/-- Load the configuration at a place, or write the standard one out if nothing is
there: the configuration and the place afterwards. -/
def loadOrCreate (codec : Codec) (place : Place) : Except LoadError Config × Place :=
  match place.opened with
  | .ok opened => (ofOpened codec opened, place)
  | .error .noSuchFile =>
    match standard.save codec place with
    | .ok after => (.ok standard, after)
    | .error cause => (.error (.cannotSave cause), place)
  | .error cause => (.error (.cannotOpen cause), place)

end Config
end DesktopCapture
