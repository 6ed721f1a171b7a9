import Dhcp.Opt.Collection
import Dhcp.Opt.Registry

/-!
# The option area

The octets behind the header are read from left to right as items: a pad octet 0, or a triple of a
code, a length and that many octets of payload. The octet 255 ends the area, and so does the end of
the data.

Reading has two parts. `Area.read` cuts the octets into triples and says what stopped it early, if
anything did; `Area.decode` then decodes the payloads in order. A payload that is refused stands to
the left of whatever stopped the cutting, so the fault that is reported is the leftmost of all.
-/

namespace Dhcp

/-- A code and the payload under it. -/
structure Triple where
  code : UInt8
  payload : Octets
deriving DecidableEq

/-- What was cut out of an option area: its triples, and why cutting stopped before the end. -/
structure Area where
  triples : List Triple
  fault? : Option WireFault
deriving DecidableEq

namespace Area

/-- An area with one more triple in front. -/
def push (t : Triple) (a : Area) : Area := ⟨t :: a.triples, a.fault?⟩

/-- Cuts octets into triples. -/
def read : Octets → Area
  | [] => ⟨[], none⟩
  | code :: rest =>
    if code = 255 then ⟨[], none⟩
    else if code = 0 then read rest
    else
      match rest with
      | [] => ⟨[], some (.truncated 1 0)⟩
      | length :: rest =>
        let payload := rest.take length.toNat
        if payload.length < length.toNat then
          ⟨[], some (.truncated length.toNat payload.length)⟩
        else (read (rest.drop length.toNat)).push ⟨code, payload⟩
termination_by data => data.length

/-- Decodes triples in order into options, of which later ones win. -/
def collect (r : Registry) : List Triple → Options → Except WireFault Options
  | [], os => .ok os
  | t :: ts, os =>
    match r.decode t.code t.payload with
    | .error fault => .error fault
    | .ok o => collect r ts (os.insert o)

/-- The options of an area, or the leftmost fault in it. -/
def decode (r : Registry) (a : Area) : Except WireFault Options :=
  match collect r a.triples .empty with
  | .error fault => .error fault
  | .ok os =>
    match a.fault? with
    | some fault => .error fault
    | none => .ok os

end Area

end Dhcp
