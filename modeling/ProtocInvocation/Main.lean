import ProtocInvocation.Command.Run

/-!
# The program

Carries out the command on the files of the system. What a plan comes to is a function of what paths
give, so it is computed from the answers that are known; as long as it fails at a path that was not
asked for, that path is read and the plan is carried out again.
-/

namespace ProtocInvocation.Program

/-- What paths have given so far. -/
abbrev Answers := List (String × Except ReadFault String)

/-- Why the system does not give a file. -/
def faultOfError : IO.Error → ReadFault
  | .noFileOrDirectory .. => .notFound
  | .inappropriateType _ code reason =>
    if code = 20 then .notADirectory
    else if code = 21 then .isDirectory
    else .refused code.toNat reason
  | .invalidArgument _ code reason => if code = 36 then .nameTooLong else .refused code.toNat reason
  | .permissionDenied _ code _ => .refused code.toNat "Permission denied"
  | error => .refused 5 (toString error)

/-- Reads the file at `path`. -/
def readPath (path : String) : IO (Except ReadFault String) := do
  if path.toList.contains '\x00' then return .error .nulInPath
  try
    match String.fromUTF8? (← IO.FS.readBinFile path) with
    | some text => return .ok text
    | none => return .error .notText
  catch error => return .error (faultOfError error)

/-- Adds what `path` gives. -/
def ask (answers : Answers) (path : String) : IO Answers := do
  return (path, ← readPath path) :: answers

/-- Carries out a plan with the answers so far and those that it turns out to need. -/
partial def carryOut (plan : Command.Plan) (answers : Answers) : IO Command.Outcome := do
  let outcome := plan.run (.ofAnswers answers)
  match outcome with
  | .failure (.arguments (.argumentFile path _)) =>
    if (answers.lookup path).isSome then return outcome
    carryOut plan (← ask answers path)
  | _ => return outcome

/-- How the command is used. -/
def usage : String :=
  "Usage: protoc-compat [--compat-config FILE] [PROTOC_ARGS]..."

/-- Shows how the command ended. -/
def report : Command.Outcome → IO Unit
  | .help => IO.println usage
  | .misuse => IO.eprintln usage
  | .failure cause => IO.eprintln ("Error: " ++ cause.message)
  | .environment env => IO.print env.print

end ProtocInvocation.Program

open ProtocInvocation in
/-- Resolves the argument vector on the command line and prints the environment. -/
def main (arguments : List String) : IO UInt32 := do
  let surroundings : Command.Surroundings := {
    configVariable := (← IO.getEnv Command.configVariable).map String.toUTF8
    filterVariable := (← IO.getEnv Log.filterVariable).map String.toUTF8
    home := ← IO.getEnv "HOME"
    configHome := ← IO.getEnv "XDG_CONFIG_HOME" }
  let plan := Command.plan surroundings (arguments.map String.toUTF8)
  let answers ← match plan with
    | .resolve (some path) _ _ => Program.ask [] path
    | _ => pure []
  let outcome ← Program.carryOut plan answers
  Program.report outcome
  return outcome.exitCode
