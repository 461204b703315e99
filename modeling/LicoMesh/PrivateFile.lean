namespace LicoMesh

inductive WriteOutcome
  | written
  | failsUnwritten
  | failsWritten

def WriteOutcome.renames : WriteOutcome → Bool
  | .failsUnwritten => false
  | _ => true

def WriteOutcome.fails : WriteOutcome → Bool
  | .written => false
  | _ => true

end LicoMesh
