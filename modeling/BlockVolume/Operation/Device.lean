import BlockVolume.Ask
/-!
Device names.

The control plane reports a device under the name `/dev/xvdX`, which the host may know as
`/dev/vdX`.
-/

namespace BlockVolume.Operation

/-- What is left of a text after a given start. -/
def afterStart? (start : List Char) (cs : List Char) : Option (List Char) :=
  if start.isPrefixOf cs then some (cs.drop start.length) else none

/-- The names a reported device may have on the host. -/
def deviceNames (reported : String) : List Path :=
  ⟨reported⟩ ::
    match afterStart? "/dev/xvd".toList reported.toList with
    | some rest => [⟨"/dev/vd" ++ String.ofList rest⟩]
    | none => []

/-- The first of some paths that is on the host. -/
def firstPresent : List Path → NodeProgram (Option Path)
  | [] => return none
  | path :: rest => do
    if ← (TreeAsk.isPresent path).ask then return some path else firstPresent rest

/-- The device on the host — the name as reported where there is none. -/
def hostDevice (reported : String) : NodeProgram Path := do
  return (← firstPresent (deviceNames reported)).getD ⟨reported⟩

end BlockVolume.Operation
