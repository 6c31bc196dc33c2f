import TaskNet.CommandLine.Run

/-!
# The program

The command line on real files and streams. Diagnostics go to the error stream, and so does the help
text when a request is not understood.
-/

namespace TaskNet

/-- A failure as it is shown: its code, its message, the reason behind it and advice. -/
def Failure.shown (failure : Failure) : String :=
  let shown := failure.diagnostic
  shown.code ++ "\n\n  × " ++ shown.message ++
    (shown.source.elim "" fun source => "\n  ╰─▶ " ++ source) ++ "\n  help: " ++ shown.help

namespace CommandLine

/-- What is found in a file that has been opened. What cannot be read is a folder. -/
def readOpened (file : IO.FS.Handle) : IO Found := do
  try
    return .file (← file.readBinToEnd).data.toList
  catch _ => return .folder

/-- Looks at the end of a real path. -/
def readReal (path : String) : IO Found := do
  try
    readOpened (← IO.FS.Handle.mk path .read)
  catch _ => return .nothing

/-- Writes a text to a real file. -/
def writeReal (path text : String) : IO Bool := do
  try
    IO.FS.writeFile path text
    return true
  catch _ => return false

/-- The operations of a run on real files and streams. -/
def realConsole : Console IO where
  read := readReal
  write := writeReal
  print := IO.print
  report failure := IO.eprintln failure.shown

end CommandLine

end TaskNet

/-- Runs the program on the arguments of the command line. -/
def main (arguments : List String) : IO UInt32 := do
  let exit ← TaskNet.CommandLine.run TaskNet.CommandLine.realConsole arguments
  if exit = .usage then IO.eprint TaskNet.CommandLine.helpText
  return exit.code
