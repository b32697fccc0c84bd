/-!
# Endpoint — where a transfer goes

An endpoint address is a number below sixteen and a direction, seen from
the host. On the wire it is one octet with the direction in its top bit;
the three bits between are reserved and read as nothing.
-/

namespace AudioGadget

/-- The direction of a transfer, seen from the host. -/
inductive Direction where
  /-- OUT: the host sends. -/
  | hostToDevice
  /-- IN: the device answers. -/
  | deviceToHost
deriving DecidableEq, Repr

/-- The direction that the top bit of an octet names. -/
def Direction.ofTopBit (b : UInt8) : Direction :=
  if b.toNat < 128 then .hostToDevice else .deviceToHost

/-- The kinds of transfer an endpoint may carry. -/
inductive TransferType where
  | control
  | isochronous
  | bulk
  | interrupt
deriving DecidableEq, Repr

/-- An endpoint of the device. -/
structure EndpointAddress where
  number : Fin 16
  direction : Direction
deriving DecidableEq, Repr

namespace EndpointAddress

/-- The address as it stands in a descriptor. -/
def byte (ep : EndpointAddress) : UInt8 :=
  match ep.direction with
  | .hostToDevice => UInt8.ofNat ep.number
  | .deviceToHost => UInt8.ofNat (128 + ep.number)

/-- Read an octet as an address. Its reserved bits are dropped. -/
def ofByte (b : UInt8) : EndpointAddress :=
  ⟨Fin.ofNat 16 b.toNat, Direction.ofTopBit b⟩

/-- The address of a number, of which only the low four bits count. -/
def ofNumber (number : Nat) (direction : Direction) : EndpointAddress :=
  ⟨Fin.ofNat 16 number, direction⟩

end EndpointAddress

end AudioGadget
