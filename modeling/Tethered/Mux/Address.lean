import Tethered.Failure
import Tethered.Number.Numeral

/-!
# Addresses of the daemon

The daemon listens at a path, written behind `UNIX:`, or at a host and a port
with a colon between them. Of several colons the last counts. The written form
of a host and port is kept as it is; the host is not examined.
-/
namespace Tethered.Mux

/-- Where the daemon listens. -/
inductive Address where
  | socket (path : String)
  | hostAndPort (text : String)
  deriving DecidableEq, Repr

namespace Address

/-- What stands before the path of a socket. -/
def socketMark : List Char := "UNIX:".toList

/-- Whether a text is a port: digits, with at most one plus sign before them. -/
def isPort (text : List Char) : Bool :=
  (Number.ofUnsigned? Number.ofDecimal? text).any (· < 0x10000)

/-- Whether a text is a host, a colon and a port. -/
def isHostAndPort (text : List Char) : Bool :=
  let backwards := text.reverse
  let port := (backwards.takeWhile (· != ':')).reverse
  match backwards.dropWhile (· != ':') with
  | _ :: host => !host.isEmpty && isPort port
  | [] => false

/-- The address that a text writes. -/
def ofText (text : String) : Except Failure Address :=
  if socketMark.isPrefixOf text.toList then
    let path := text.toList.drop socketMark.length
    if path.isEmpty then .error (.invalidAddress text)
    else .ok (.socket (String.ofList path))
  else if isHostAndPort text.toList then .ok (.hostAndPort text)
  else .error (.invalidAddress text)

def text : Address → String
  | socket path => String.ofList (socketMark ++ path.toList)
  | hostAndPort text => text

end Address

end Tethered.Mux
