/-!
# The ports of the multiplexer

Two masters share one slave. `PerPort` holds one value for each of the three ports.
-/

namespace MeterBus

/-- The role of a port. -/
inductive Port where
  /-- The bus master outside our control. -/
  | externalMaster
  /-- The slave that both masters want to talk to. -/
  | slave
  /-- The master on this host. -/
  | localMaster
  deriving DecidableEq, Repr, Inhabited

/-- The name of a port in logs, metrics and settings. -/
def Port.name : Port → String
  | .externalMaster => "external_master"
  | .slave => "slave"
  | .localMaster => "local_master"

/-- The three ports in the order in which they are listed. -/
def Port.all : List Port := [.externalMaster, .slave, .localMaster]

/-- One value for each port. -/
structure PerPort (α : Type) where
  externalMaster : α
  slave : α
  localMaster : α
  deriving DecidableEq, Repr

namespace PerPort

variable {α β : Type}

/-- The same value for each port. -/
def replicate (value : α) : PerPort α := ⟨value, value, value⟩

/-- The value of a port. -/
def get (values : PerPort α) : Port → α
  | .externalMaster => values.externalMaster
  | .slave => values.slave
  | .localMaster => values.localMaster

/-- The values with the one of a port replaced. -/
def set (values : PerPort α) (port : Port) (value : α) : PerPort α :=
  match port with
  | .externalMaster => { values with externalMaster := value }
  | .slave => { values with slave := value }
  | .localMaster => { values with localMaster := value }

/-- The values with the one of a port changed. -/
def modify (values : PerPort α) (port : Port) (change : α → α) : PerPort α :=
  values.set port (change (values.get port))

/-- The values in the order of the ports. -/
def toList (values : PerPort α) : List α :=
  [values.externalMaster, values.slave, values.localMaster]

/-- A replaced value is the one that is found. -/
@[simp] theorem get_set_self (values : PerPort α) (port : Port) (value : α) :
    (values.set port value).get port = value := by
  cases port <;> rfl

/-- Replacing the value of one port leaves those of the others alone. -/
theorem get_set_of_ne (values : PerPort α) {port other : Port} (value : α) (ne : other ≠ port) :
    (values.set port value).get other = values.get other := by
  cases port <;> cases other <;> first | rfl | exact absurd rfl ne

end PerPort

end MeterBus
