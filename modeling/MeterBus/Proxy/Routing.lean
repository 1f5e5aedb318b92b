import MeterBus.Fields
import MeterBus.Frame.Basic

/-!
# Routing rules

What the multiplexer does with a frame of a master depends on the frame and on a few settings only.
`Routing.ofExternal` and `Routing.ofLocal` are the rules for the two masters.
-/

namespace MeterBus

/-- The addresses and the time that the multiplexer works with. -/
structure Routing where
  /-- The primary address of the slave. -/
  slaveAddress : UInt8
  /-- The address by which the local master speaks of the slave. -/
  localAddress : UInt8
  /-- The data by which the local master selects the slave by its secondary address. -/
  localSelectData : List UInt8
  /-- How long the slave may take to answer, in milliseconds. -/
  responseTimeout : Nat
  deriving DecidableEq, Repr

/-- The routing of a slave with the usual addresses. -/
def Routing.standard : Routing where
  slaveAddress := 0x5A
  localAddress := AddressField.secondary
  localSelectData := [0x87, 0x93, 0x27, 0x68, 0xFF, 0xFF, 0xFF, 0xFF]
  responseTimeout := 2000

/-- What is done with a frame of a master. -/
inductive Decision where
  /-- The multiplexer answers for the slave. -/
  | acknowledge
  /-- The multiplexer answers for the slave that was selected by its secondary address. -/
  | acknowledgeSelection
  /-- The slave is asked, and its answer goes back to the master. -/
  | forward (request : Frame)
  /-- The frame is for a slave on the bus of the master. -/
  | ignore
  /-- The frame has no place in the protocol. -/
  | reject
  deriving DecidableEq, Repr

namespace Routing

/-- The rule for a frame of the external master, which knows the slave by its primary address. -/
def ofExternal (routing : Routing) (frame : Frame) : Decision :=
  match frame.address? with
  | none => .reject
  | some address =>
    if frame = .short ControlField.sndNke address
        ∧ (address = AddressField.broadcast ∨ address = routing.slaveAddress) then
      .acknowledge
    else if address = routing.slaveAddress then .forward frame
    else .ignore

/-- The rule for a frame of the local master, which resets and selects a virtual slave and then asks
it for data. -/
def ofLocal (routing : Routing) : Frame → Decision
  | .short control address =>
    if control = ControlField.sndNke
        ∧ (address = AddressField.unconfigured ∨ address = routing.localAddress) then
      .acknowledge
    else if address = routing.localAddress then .forward (.short control routing.slaveAddress)
    else .reject
  | .long control address _ data =>
    if ControlField.isFunction control ControlField.sndUd ∧ address = routing.localAddress
        ∧ data = routing.localSelectData then
      .acknowledgeSelection
    else .reject
  | _ => .reject

end Routing

end MeterBus
