import WatchTrial.Device.DisplaySize
import WatchTrial.Json.Basic
/-!
# Screenshots
-/
namespace WatchTrial

/-- The image file of a screen, with the size of the image. -/
structure Screenshot where
  data : ByteArray
  size : DisplaySize
deriving Inhabited

/-- A screenshot in a report, without its image. -/
def Screenshot.toJson (shot : Screenshot) : Json :=
  .object [("width", .number (Text.showInt64 shot.size.width)),
    ("height", .number (Text.showInt64 shot.size.height))]

end WatchTrial
