import Localize.Shell.Builtin.Options

/-! Tasks that leave loops, functions and the shell. -/

namespace Localize.Shell.Builtin

open Act

/-- As many loops as an argument asks for, but no more than there are. -/
def loopCount (args : List Text) : Act Nat := do
  let n ← match args with
    | [] => pure 1
    | t :: _ => do
      let n ← count t
      if n = 0 then illegalNumber t else pure n
  return min n (← get).loops

def breakLoops (args : List Text) : Act Nat := do
  let n ← loopCount args
  setStatus 0
  if n = 0 then return 0 else throw (.leaveLoops n)

def continueLoops (args : List Text) : Act Nat := do
  let n ← loopCount args
  setStatus 0
  if n = 0 then return 0 else throw (.nextRound n)

/-- The status that an argument gives, which is the last one without any. -/
def givenStatus (args : List Text) : Act Nat := do
  match args with
  | [] => return (← get).status
  | t :: _ => count t

def returnTask (args : List Text) : Act Nat := do
  setStatus (← givenStatus args)
  throw .leaveFunction

def exitTask (args : List Text) : Act Nat := do
  setStatus (← givenStatus args)
  throw .exit

end Localize.Shell.Builtin
