import QueryableApi.Program

/-! # The process

The program as a process: its arguments, its environment, the files it reads and its two outputs. There is
no network in this layer, so each request fails as one that cannot be sent, and no telemetry leaves. -/

namespace QueryableApi.Disk

/-- Why a file cannot be read. -/
def faultOf : IO.Error → FileFault
  | .noFileOrDirectory .. => .missing
  | .inappropriateType _ 21 _ => .directory
  | .inappropriateType .. => .notDirectory
  | .invalidArgument _ 36 _ => .longName
  | .invalidArgument .. => .invalidPath
  | _ => .denied

/-- The text of the file at a path. -/
def textOf (path : String) : IO (Except FileFault String) := do
  match ← (IO.FS.readBinFile path).toBaseIO with
  | .ok bytes => return FileFault.textOf bytes.toList
  | .error e => return .error (faultOf e)

/-- Files from the disk, and no network. -/
def surroundings : Surroundings IO where
  textOf := textOf
  send _ := pure (.error ["error sending request"])
  submit _ _ := pure ()

end QueryableApi.Disk

open QueryableApi in
/-- One run of the program: what it prints, what it tells besides, and its status. -/
def main (words : List String) : IO UInt32 := do
  let environment ← Environment.gather (IO.getEnv ·)
  let outcome ← Program.run Disk.surroundings environment words
  (← IO.getStdout).putStr outcome.output
  (← IO.getStderr).putStr outcome.complaint
  return outcome.status.toUInt32
