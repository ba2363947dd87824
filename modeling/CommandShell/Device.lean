import CommandShell.State
import CommandShell.Text.Lines

/-!
# Devices

A redirection reads from a device or writes to one: a file, or `NUL`, which holds nothing.  Some
other names are kept free.

* `Device.classify` : the kind of device that a name stands for, wherever it is;
* `Device.read`, `Device.write` : the lines of a device.
-/

namespace CommandShell

/-- Kinds of devices. -/
inductive DeviceClass where
  /-- Holds nothing and takes everything. -/
  | null
  /-- A name that is kept free. -/
  | reserved
  | file
  deriving DecidableEq, Repr

namespace Device

/-- The names that are kept free, in upper case. -/
def reservedNames : List String :=
  ["CON", "PRN", "AUX", "COM1", "COM2", "COM3", "COM4", "COM5", "COM6", "COM7", "COM8", "COM9",
    "LPT1", "LPT2", "LPT3", "LPT4", "LPT5", "LPT6", "LPT7", "LPT8", "LPT9"]

/-- The kind of device of a stem. -/
def classOfStem (stem : String) : DeviceClass :=
  if Text.upper stem = "NUL" then .null
  else if reservedNames.contains (Text.upper stem) then .reserved
  else .file

/-- The kind of device that a name stands for: the stem of its last part counts. -/
def classify (device : String) : DeviceClass :=
  match (Path.stem? device).bind Utf8.decode? with
  | some stem => classOfStem stem
  | none => .file

/-- Why a file cannot be read. -/
def readError (device : String) : OsError → EvalError
  | .notFound => .deviceNotFound device
  | e => .io device e

/-- The lines of a device. -/
def read (device : String) : Eval (List String) :=
  match classify device with
  | .null => pure []
  | .reserved => Action.fail (.deviceUnsupported device)
  | .file => do
    let text ← Eval.onMachine (readError device) (Machine.readText device)
    return Text.lines text

/-- Writes lines to a device. -/
def write (device : String) (lines : List String) : Eval Unit :=
  match classify device with
  | .null => pure ()
  | .reserved => Action.fail (.deviceUnsupported device)
  | .file => Eval.onMachine (.io device) (Machine.writeText device (Text.unlines lines))

end Device

end CommandShell
