import Tethered.Failure
import Tethered.Procedure

/-!
# Tables of devices

A table of devices is brought up to date on demand and then gone through with a
cursor. Nothing happens between two calls: whoever wants changes to be noticed
reloads the table.
-/
namespace Tethered

/-- A table of devices that are reached through questions of one interface. -/
class Enumeration (I : Interface) (Table : Type) (Device : outParam Type) where
  /-- Ask for the present devices and rewind the cursor. The result is how many
  there are. -/
  reload : Table → Procedure I (Except Failure Nat × Table)
  /-- The device under the cursor, which then moves on. -/
  next : Table → Procedure I (Option Device × Table)

namespace Enumeration

variable {Table Device : Type} {I : Interface} [Enumeration I Table Device]

/-- At most `count` devices from the cursor on, up to the first absence of one. -/
def take (count : Nat) (table : Table) : Procedure I (List Device × Table) :=
  match count with
  | 0 => .done ([], table)
  | count + 1 =>
      (next table).andThen fun
        | (none, table) => .done ([], table)
        | (some device, table) =>
            (take count table).map fun (devices, table) => (device :: devices, table)

end Enumeration

end Tethered
