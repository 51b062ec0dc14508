import PadScript.Registry
import PadScript.Text.Hex

/-!
# The `Reset` extension

Advances a seed kept in the play's store, logs it, and soft-resets the console.
The seed moves on before any button is held, so it counts resets that were cut
short as well.
-/

namespace PadScript

namespace SoftReset

def seedKey : String := "Reset seed"

def nextSeed (seed : UInt32) : UInt32 := seed * 0x41c64e6d + 0x6073

def seedOf (store : Store) : UInt32 := ((store.int? seedKey).getD 0).toUInt64.toUInt32

def putSeed (seed : UInt32) (store : Store) : Store := store.setInt seedKey seed.toUInt64.toInt64

/-- What is held, for how long, and the pause after it. -/
def sequence : List (Buttons × UInt32 × UInt32) :=
  [(.z, 200, 2000), (.left, 200, 1000), (.a, 200, 1000), (.a, 200, 1000), (.softReset, 4000, 0)]

def routine : Routine Unit := do
  let seed := nextSeed (seedOf (← Routine.store))
  Routine.perform (.store (putSeed seed))
  Routine.log .info "reset" ("seed " ++ String.ofList (Text.hex 4 (seed >>> 16).toNat))
  Routine.holdEach sequence

def read : Reader := fun args => do
  let [] := args | throw .argumentCount
  return .extension routine

def keyword : String := "Reset"

end SoftReset

namespace Registry

def registerReset (registry : Registry) : Except RegistryError Registry :=
  registry.register SoftReset.keyword SoftReset.read

end Registry

end PadScript
