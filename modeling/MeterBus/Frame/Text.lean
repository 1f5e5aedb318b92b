import MeterBus.Frame.Basic

/-!
# The text of a frame

The form in which log lines show a frame, such as `SHORT C=0x7b A=0x49`.
-/

namespace MeterBus.Frame

/-- A frame as log lines show it. -/
def text : Frame → String
  | .single => "SINGLE"
  | .short c a => "SHORT C=" ++ Hex.byteText c ++ " A=" ++ Hex.byteText a
  | .control c a ci =>
    "CONTROL C=" ++ Hex.byteText c ++ " A=" ++ Hex.byteText a ++ " CI=" ++ Hex.byteText ci
  | .long c a ci data =>
    "LONG C=" ++ Hex.byteText c ++ " A=" ++ Hex.byteText a ++ " CI=" ++ Hex.byteText ci
      ++ " data=" ++ Hex.encode data ++ " (" ++ toString data.length ++ " bytes)"

end MeterBus.Frame
