/-!
# The storage of a receive buffer

The bytes that a stream has received and not yet given on stand in storage of a limited size. A read
fills no more than the free space behind them, so that what arrives at once may take several reads.
Taking bytes off the front leaves spent space there. When the free space is used up, the bytes move
to the front if the spent space is at least as long as they are, and otherwise the storage is
doubled: `free_makeRoom_pos` says that a read always finds space.
-/

namespace MeterBus

/-- The space around the bytes in a receive buffer. -/
structure Storage where
  /-- The space in front of the bytes. -/
  spent : Nat := 0
  /-- The space behind the bytes. -/
  free : Nat := 8192
  deriving DecidableEq, Repr

namespace Storage

/-- The storage with free space, around a number of bytes. -/
def makeRoom (held : Nat) (storage : Storage) : Storage :=
  if 0 < storage.free then storage
  else if 0 < storage.spent ∧ held ≤ storage.spent then { spent := 0, free := storage.spent }
  else { storage with free := max 1 (storage.spent + held) }

/-- The storage after a read of so many bytes. -/
def fill (count : Nat) (storage : Storage) : Storage :=
  { storage with free := storage.free - count }

/-- The storage after so many bytes were taken off the front. -/
def release (count : Nat) (storage : Storage) : Storage :=
  { storage with spent := storage.spent + count }

/-- There is room for at least one more byte. -/
theorem free_makeRoom_pos (held : Nat) (storage : Storage) : 0 < (storage.makeRoom held).free := by
  unfold makeRoom
  split
  · assumption
  · split
    · next moving => exact moving.1
    · exact Nat.lt_of_lt_of_le Nat.zero_lt_one (Nat.le_max_left ..)

/-- Storage that has room is left as it is. -/
theorem makeRoom_of_free {storage : Storage} (held : Nat) (room : 0 < storage.free) :
    storage.makeRoom held = storage :=
  if_pos room

end Storage

end MeterBus
