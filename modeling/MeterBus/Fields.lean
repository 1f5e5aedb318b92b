/-!
# Control and address fields

The function codes and reserved addresses of the link layer (EN 13757-2).
-/

namespace MeterBus

namespace ControlField

/-- The frame count bit, which a master toggles between requests. -/
def frameCountBit : UInt8 := 0x20

/-- The bit that says whether the frame count bit counts. -/
def frameCountValid : UInt8 := 0x10

/-- Resets the link of a slave. -/
def sndNke : UInt8 := 0x40

/-- Sends data to a slave. -/
def sndUd : UInt8 := 0x53

/-- Asks for data of class 1. -/
def reqUd1 : UInt8 := 0x5A

/-- Asks for data of class 2. -/
def reqUd2 : UInt8 := 0x5B

/-- Carries the data of a slave. -/
def rspUd : UInt8 := 0x08

/-- Whether a control byte has a function code, whatever its frame count bit. -/
def isFunction (control function : UInt8) : Bool :=
  control &&& ~~~frameCountBit == function &&& ~~~frameCountBit

end ControlField

namespace AddressField

/-- The address of a slave that has not been given one. -/
def unconfigured : UInt8 := 0x00

/-- The address of the slave that was selected by its secondary address. -/
def secondary : UInt8 := 0xFD

/-- Addresses every slave; all of them answer. -/
def broadcastReply : UInt8 := 0xFE

/-- Addresses every slave; none of them answers. -/
def broadcast : UInt8 := 0xFF

/-- Whether an address stands for every slave. -/
def isBroadcast (address : UInt8) : Bool :=
  address == broadcastReply || address == broadcast

end AddressField

end MeterBus
