import MeterBus.Document.Item
import MeterBus.Settings.Basic

/-!
# Settings in documents

Which document stands for which settings. A record is a table whose keys are all known, or a list of
values in the order of the keys; whatever is left out has its usual value.
-/

namespace MeterBus.Schema

open Document (Item)

/-- One key of a record. -/
structure Field (α : Type) where
  key : String
  /-- Takes over the value of the key. -/
  assign : Item → α → Option α

/-- A key whose value is read in some way. -/
def Field.reading {α β : Type} (key : String) (read : Item → Option β) (put : β → α → α) :
    Field α :=
  ⟨key, fun item record => (read item).map fun value => put value record⟩

/-- A record in which each value stands under its key. -/
def keyed {α : Type} (fields : List (Field α)) (usual : α) (entries : Document.Entries) :
    Option α :=
  entries.foldlM
    (fun record (key, item) => do
      let field ← fields.find? (·.key = key)
      field.assign item record)
    usual

/-- A record in which the values stand in the order of the keys; further values mean nothing. -/
def listed {α : Type} (fields : List (Field α)) (usual : α) (items : List Item) : Option α :=
  (fields.zip items).foldlM (fun record (field, item) => field.assign item record) usual

/-- A record. -/
def record {α : Type} (fields : List (Field α)) (usual : α) : Item → Option α
  | .table _ entries => keyed fields usual entries
  | .array items => listed fields usual items
  | .tables elements => listed fields usual (elements.reverse.map (Item.table .header))
  | _ => none

/-- A text. -/
def text : Item → Option String
  | .string content => some content
  | _ => none

/-- A count up to a limit. -/
def count (limit : Nat) : Item → Option Nat
  | .integer value => if 0 ≤ value ∧ value ≤ limit then some value.toNat else none
  | _ => none

/-- An empty table or list. -/
def isEmpty : Item → Bool
  | .table _ [] | .array [] => true
  | _ => false

/-- The name of a choice: a text, or the only key of a table whose value is empty. -/
def choice : Item → Option String
  | .string name => some name
  | .table _ [(name, item)] => if isEmpty item then some name else none
  | _ => none

/-- One of some values, by its name. -/
def oneOf {α : Type} (values : List α) (name : α → String) (item : Item) : Option α := do
  let chosen ← choice item
  values.find? (name · = chosen)

/-! ## The keys of settings -/

/-- The settings of the serial lines. -/
def serial : List (Field SerialSettings) :=
  [.reading "baudrate" (count (UInt32.size - 1))
      fun value settings => { settings with baudrate := UInt32.ofNat value },
    .reading "parity" (oneOf [.even, .odd, .none] Parity.name)
      fun value settings => { settings with parity := value }]

/-- The paths of the ports. -/
def ports : List (Field PortSettings) :=
  Port.all.map fun port =>
    .reading port.name text fun path settings => settings.set port (some path)

/-- The settings of the routing. -/
def routing : List (Field RoutingSettings) :=
  [.reading "slave_address" (count 255)
      fun value settings => { settings with slaveAddress := UInt8.ofNat value },
    .reading "local_address" (count 255)
      fun value settings => { settings with localAddress := UInt8.ofNat value },
    .reading "local_select_data" text
      fun value settings => { settings with localSelectData := value },
    .reading "response_timeout_ms" (count (UInt64.size - 1))
      fun value settings => { settings with responseTimeout := value }]

/-- The settings of logs and metrics. -/
def monitoring : List (Field MonitoringSettings) :=
  [.reading "log_level" text
      fun value settings => { settings with logLevel := value },
    .reading "log_format" (oneOf [.compact, .json] Log.Format.name)
      fun value settings => { settings with logFormat := value },
    .reading "metrics_addr" (fun item => text item >>= SocketAddress.parse?)
      fun value settings => { settings with metricsAddress := some value }]

/-- All settings. -/
def settings : List (Field Settings) :=
  [.reading "serial" (record serial {})
      fun value settings => { settings with serial := value },
    .reading "ports" (record ports (.replicate none))
      fun value settings => { settings with ports := value },
    .reading "routing" (record routing {})
      fun value settings => { settings with routing := value },
    .reading "monitoring" (record monitoring {})
      fun value settings => { settings with monitoring := value }]

end MeterBus.Schema
