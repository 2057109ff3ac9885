import WatchTrial.Text.Blank
import WatchTrial.Text.Lines
/-!
# Listings

What a device or the debug bridge prints line by line: installed packages, connected devices and the
outcome of an installation.
-/
namespace WatchTrial

/-- Whether a package listing has a line for exactly this package. -/
def packageListed (listing pkg : String) : Bool :=
  (Text.lines listing.toList).any fun line => Text.trimChars line == ("package:" ++ pkg).toList

/-- The first line of an installation's output that reports a failure. -/
def installFailure? (output : String) : Option String :=
  ((Text.lines output.toList).map Text.trimChars).find? ("Failure".toList.isPrefixOf ·)
    |>.map String.ofList

/-- How a device is attached. -/
inductive Attachment where
  | usb
  | remote
  | unspecified
deriving Repr, DecidableEq, Inhabited

def Attachment.name : Attachment → String
  | usb => "usb"
  | remote => "remote"
  | unspecified => ""

structure ListedDevice where
  id : String
  status : String
  attachment : Attachment
  model : String
deriving Repr, DecidableEq, Inhabited

namespace ListedDevice

/-- The model named among the later fields of a line, or nothing. -/
def modelOf (fields : List (List Char)) : List Char :=
  (fields.findSome? (Text.afterStart "model:".toList)).getD []

/-- The device on a line; headings, daemon notices and lines of one word have none. -/
def ofLine? (raw : List Char) : Option ListedDevice :=
  let line := Text.trimChars raw
  if "List of devices".toList.isPrefixOf line || "*".toList.isPrefixOf line then none
  else
    match Text.fieldsOf line with
    | id :: status :: rest =>
      some {
        id := String.ofList id
        status := String.ofList status
        attachment := if id.contains ':' then .remote else .usb
        model := String.ofList (modelOf rest) }
    | _ => none

/-- The devices of a listing, up to the first line too long to be read. -/
def readAll (listing : String) : List ListedDevice :=
  (Text.scanLines listing.toList).lines.filterMap ofLine?

/-- Whether the first line for a device says that it is ready. -/
def ready (devices : List ListedDevice) (id : String) : Bool :=
  match devices.find? (·.id == id) with
  | some device => device.status == "device"
  | none => false

end ListedDevice
end WatchTrial
