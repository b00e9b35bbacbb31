import AnnotationBridge.Report

/-!
# The command line

Looks at the files that the arguments name, makes the report and prints it. A command line that
cannot be used ends with exit code 2, and a report that cannot be made with exit code 1.
-/

namespace AnnotationBridge.CommandLine

/-- What a look at a path has shown. -/
structure Sighting where
  read : Except FileError (List UInt8)
  canonical : Except FileError Path
  isDirectory : Bool

/-- The cause of a failure. -/
def causeOf : IO.Error → FileError
  | .noFileOrDirectory _ _ _ => .notFound
  | .inappropriateType _ 21 _ => .isDirectory
  | .inappropriateType _ 20 _ => .notDirectory
  | e => .other (toString e)

/-- Looks at a path. -/
def look (path : Path) : IO (Path × Sighting) := do
  let name := path.display
  let read ← EIO.toBaseIO (IO.FS.readBinFile name)
  let canonical ← EIO.toBaseIO (IO.FS.realPath name)
  let isDirectory ← match canonical with
    | .ok real => real.isDir
    | .error _ => pure false
  return (path,
    { read := (read.map ByteArray.toList).mapError causeOf
      canonical := (canonical.map fun real => .ofString real.toString).mapError causeOf
      isDirectory := isDirectory })

/-- The files that were looked at. -/
def filesOf (seen : List (Path × Sighting)) : Files where
  read path := ((seen.lookup path).map Sighting.read).getD (.error .notFound)
  canonicalize path := ((seen.lookup path).map Sighting.canonical).getD (.error .notFound)
  isDirectory path := ((seen.lookup path).map Sighting.isDirectory).getD false

/-- The paths that arguments name. -/
def namedPaths (home configHome : Path) (a : Arguments) : List Path :=
  [a.file, a.diagnostics, a.config.getD (Config.defaultPath home configHome)] ++
    a.workspace.toList ++ a.replies.toList

/-- The paths to which a look has led, with their directories. -/
def reachedPaths (seen : List (Path × Sighting)) : List Path :=
  (seen.filterMap fun (_, s) => s.canonical.toOption).flatMap fun path =>
    path :: path.parent.toList

/-- A directory that the environment names. -/
def environmentPath (name : String) : IO Path := do
  return .ofString ((← IO.getEnv name).getD "")

/-- Makes and prints the report that the arguments ask for. -/
def run (arguments : Arguments) : IO UInt32 := do
  let home ← environmentPath "HOME"
  let configHome ← environmentPath "XDG_CONFIG_HOME"
  let named ← (namedPaths home configHome arguments).mapM look
  let reached ← (reachedPaths named).mapM look
  match Report.make (filesOf (named ++ reached)) home configHome arguments with
  | .error e =>
    IO.eprintln ("Error: " ++ e.message)
    return 1
  | .ok report =>
    IO.sleep (.ofNat report.elapsedMs)
    report.lines.forM IO.println
    return 0

end AnnotationBridge.CommandLine

open AnnotationBridge in
/-- The program. -/
def main (arguments : List String) : IO UInt32 :=
  match Arguments.ofList? arguments with
  | some a => CommandLine.run a
  | none => do
    IO.eprintln "usage: liberty-tools FILE --diagnostics JSON [OPTIONS]"
    return 2
