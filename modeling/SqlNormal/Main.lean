import SqlNormal.Console

/-!
# The command line

Reads lines from standard input and writes what the console answers.
-/

namespace SqlNormal

/-- Writes outputs. -/
def writeAll (began : Nat) (outputs : List Output) : IO Unit := do
  for o in outputs do
    let now ← IO.monoMsNow
    let millis := now - began
    let rest := String.ofList (Number.paddedDigits 3 (millis % 1000))
    let text := o.text (numberText (millis / 1000) ++ "." ++ rest ++ "s")
    if o.isFault then (← IO.getStderr).putStr text
    else
      let out ← IO.getStdout
      out.putStr text
      out.flush

/-- Answers lines up to the end of the input or of the dialogue. The result is the status that the
program ends with. -/
partial def converse (c : Console) : IO UInt32 := do
  writeAll 0 [c.prompt]
  let line ← (← IO.getStdin).getLine
  if line.isEmpty then
    writeAll 0 Console.farewell
    return 0
  let began ← IO.monoMsNow
  match c.step line with
  | some ⟨output, next⟩ =>
    writeAll began output
    match next with
    | some next => converse next
    | none =>
      writeAll began Console.farewell
      return 0
  | none =>
    writeAll began [.crash]
    return 101

end SqlNormal

open SqlNormal in
/-- Holds a dialogue under the configuration of the environment. -/
def main : IO UInt32 := do
  match Console.start (← IO.getEnv Config.depthVariable) with
  | .ok c =>
    writeAll 0 Console.greeting
    converse c
  | .error e =>
    writeAll 0 [Console.failure e]
    return 1
