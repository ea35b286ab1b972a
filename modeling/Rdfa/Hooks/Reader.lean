import Rdfa.Hooks

-- Reading bytes through hooks. One refusal is enough: afterwards the host is not asked again.
namespace Rdfa.Hooks

structure Reader where
  interrupted : Bool
  bytesRead : Nat
deriving Repr, DecidableEq

namespace Reader

def initial : Reader := ⟨false, 0⟩

def refusal : Text := "parse interrupted by the bridge".toList

-- One read into a cleared buffer of `size` bytes, which `fill` is asked for; nothing if it is refused.
def readBy {η : Type} (fill : η → Nat → Option Filled × η) (reader : Reader) (host : η) (size : Nat) :
    Option Bytes × Reader × η :=
  if reader.interrupted then (none, reader, host)
  else if size = 0 then (some [], reader, host)
  else
    match fill host size with
    | (none, host) => (none, { reader with interrupted := true }, host)
    | (some filled, host) =>
      let bytes := filled.taken size
      (some bytes, { reader with bytesRead := reader.bytesRead + bytes.length }, host)

def read {η : Type} [Hooks η] (reader : Reader) (host : η) (size : Nat) : Option Bytes × Reader × η :=
  readBy Hooks.fill reader host size

end Reader
end Rdfa.Hooks
