import MeterBus.Net.SocketAddress
import MeterBus.Stream.Line

/-!
# The host of a program

What a program can find on the machine it runs on: files and directories, serial devices with something
at their other end, and network addresses that it may listen on. No network is connected to the host.
-/

namespace MeterBus

/-- Why the system refuses something. -/
inductive SystemError where
  | notFound
  | isDirectory
  | notDirectory
  /-- The name of a file holds a character that no name may hold. -/
  | unusableName
  /-- A path or a name on it is longer than the system takes. -/
  | nameTooLong
  /-- A file is no text. -/
  | notText
  /-- A device is no serial line. -/
  | notTerminal
  /-- An address does not belong to the host. -/
  | foreignAddress
  /-- An address is of no use for what is asked for. -/
  | unusableAddress
  /-- The host has no such network device. -/
  | noDevice
  deriving DecidableEq, Repr

namespace SystemError

/-- The kind of a refusal. -/
def condition : SystemError → String
  | .notFound => "NotFound"
  | .isDirectory => "IsADirectory"
  | .notDirectory => "NotADirectory"
  | .unusableName => "InvalidInput"
  | .nameTooLong => "InvalidFilename"
  | .notText => "InvalidData"
  | .notTerminal => "Uncategorized"
  | .foreignAddress => "AddrNotAvailable"
  | .unusableAddress => "InvalidInput"
  | .noDevice => "Uncategorized"

/-- What the system says about a refusal. -/
def description : SystemError → String
  | .notFound => "No such file or directory"
  | .isDirectory => "Is a directory"
  | .notDirectory => "Not a directory"
  | .unusableName => "file name contained an unexpected NUL byte"
  | .nameTooLong => "File name too long"
  | .notText => "stream did not contain valid UTF-8"
  | .notTerminal => "Not a typewriter"
  | .foreignAddress => "Cannot assign requested address"
  | .unusableAddress => "Invalid argument"
  | .noDevice => "No such device"

/-- The number that the system has for a refusal, if it is one of its own. -/
def code? : SystemError → Option Nat
  | .notFound => some 2
  | .isDirectory => some 21
  | .notDirectory => some 20
  | .notTerminal => some 25
  | .nameTooLong => some 36
  | .foreignAddress => some 99
  | .unusableAddress => some 22
  | .noDevice => some 19
  | .unusableName | .notText => none

/-- The text that reports a refusal. -/
def message (error : SystemError) : String :=
  match error.code? with
  | some code => error.description ++ " (os error " ++ toString code ++ ")"
  | none => error.description

end SystemError

/-- What stands under a path. -/
inductive Node where
  | file (content : List UInt8)
  | directory
  deriving DecidableEq, Repr

/-! ## Places -/

/-- A place among the files of a host. -/
structure Place where
  /-- Whether the names lead there from the root rather than from the current directory. -/
  fromRoot : Bool
  /-- The names that lead there, the last one first. The current directory is below directories
  without a name of their own. -/
  names : List String
  deriving DecidableEq, Repr

namespace Place

/-- The place that a path starts from. -/
def start (path : String) : Place := ⟨path.startsWith "/", []⟩

/-- The place one directory up; the root is its own parent. -/
def parent (place : Place) : Place :=
  match place.names with
  | [] => if place.fromRoot then place else { place with names := [".."] }
  | ".." :: above => { place with names := ".." :: ".." :: above }
  | _ :: above => { place with names := above }

/-- The place under a name. -/
def enter (name : String) (place : Place) : Place :=
  if name = "" ∨ name = "." then place
  else if name = ".." then place.parent
  else { place with names := name :: place.names }

/-- The place that a path leads to if all directories on it are there. -/
def ofPath (path : String) : Place :=
  (path.splitOn "/").foldl (fun place name => place.enter name) (start path)

/-- Whether a place is inside another one or is that place. -/
def isWithin (place outer : Place) : Bool :=
  place.fromRoot == outer.fromRoot && outer.names.isSuffixOf place.names

end Place

/-! ## Hosts -/

/-- What is at the other end of a serial device. -/
structure Peer where
  /-- What comes in when the device is open, each with its delay from then on. -/
  deliveries : List Delivery := []
  /-- Whether the device is gone behind the last delivery. -/
  hangsUp : Bool := false
  /-- The deliveries that the writes to it call forth, one list a write. -/
  answers : List (List Delivery) := []
  /-- How the first writes to it fail. -/
  faults : List LinkError := []
  deriving DecidableEq, Repr

/-- A line on an open device from which nothing has been read yet. -/
def Peer.line (codec : Codec) (peer : Peer) : Line where
  reader := .fresh codec
  arrivals := Delivery.arrivals 0 peer.deliveries
  closed := peer.hangsUp
  answers := peer.answers
  faults := peer.faults

/-- The files of a host, the directories that it has besides those of its files, and its serial devices.
A program does not find a device where it looks for a file. -/
structure Host where
  files : List (String × List UInt8) := []
  directories : List String := []
  devices : List (String × Peer) := []
  /-- What the driver of the serial devices says about where its own log records come from. -/
  driverSource : List (String × Log.Value) := []
  /-- When a program is interrupted that is still at work, in milliseconds from its start. -/
  interrupt : Nat := 0
  deriving Repr

namespace Host

/-- The greatest length of a name in bytes. -/
def nameLimit : Nat := 255

/-- The greatest length of a path in bytes. -/
def pathLimit : Nat := 4095

/-- What stands at a place. Files stand in directories, and the current directory stands in one. -/
def find? (host : Host) (place : Place) : Option Node :=
  match host.files.find? fun (path, _) => Place.ofPath path = place with
  | some (_, content) => some (.file content)
  | none =>
    let known := host.files.map (·.1) ++ host.directories
    if place.names.all (· == "..") || known.any fun path => (Place.ofPath path).isWithin place then
      some .directory
    else none

/-- Follows names from a place on. -/
def follow (host : Host) (place : Place) : List String → Except SystemError Node
  | [] =>
    match host.find? place with
    | some node => .ok node
    | none => .error .notFound
  | name :: rest =>
    match host.find? place with
    | none => .error .notFound
    | some (.file _) => .error .notDirectory
    | some .directory =>
      if nameLimit < name.utf8ByteSize then .error .nameTooLong
      else follow host (place.enter name) rest

/-- Opens what stands under a path. -/
def open? (host : Host) (path : String) : Except SystemError Node :=
  if path.toList.contains '\x00' then .error .unusableName
  else if pathLimit < path.utf8ByteSize then .error .nameTooLong
  else if path = "" then .error .notFound
  else host.follow (.start path) (path.splitOn "/")

/-- Reads a file. -/
def read (host : Host) (path : String) : Except SystemError (List UInt8) :=
  match host.open? path with
  | .ok (.file content) => .ok content
  | .ok .directory => .error .isDirectory
  | .error error => .error error

/-- Reads a file that holds text. -/
def readText (host : Host) (path : String) : Except SystemError String :=
  match host.read path with
  | .ok content =>
    match String.fromUTF8? ⟨content.toArray⟩ with
    | some text => .ok text
    | none => .error .notText
  | .error error => .error error

/-- What is at the other end of the serial device under a path, if there is one. -/
def peer? (host : Host) (path : String) : Option Peer :=
  (host.devices.find? fun (known, _) => Place.ofPath known = Place.ofPath path).map (·.2)

/-- Why a path that is no serial device cannot be opened as one. -/
def deviceError (host : Host) (path : String) : SystemError :=
  match host.open? path with
  | .ok (.file _) => .notTerminal
  | .ok .directory => .isDirectory
  | .error error => error

/-- The only network device of the host, which leads nowhere. -/
def networkDevice : UInt32 := 1

/-- Why a server cannot listen on an address. The host has no network, and with no addresses of its
own it lets every address of version 4 pass for one. An address of version 6 has to stand for all
addresses or for one of version 4. -/
def listenError? : SocketAddress → Option SystemError
  | .v4 .. => none
  | .v6 address scope _ =>
    if address.isUnspecified || address.isMapped then none
    else if address.isMulticast then some .unusableAddress
    else if address.isLinkLocal && scope = 0 then some .unusableAddress
    else if address.isLinkLocal && scope ≠ networkDevice then some .noDevice
    else some .foreignAddress

end Host

end MeterBus
