import SuiteBench.Execution.World
import SuiteBench.Settings.LogFilter

/-!
# CommandLine.LogFiles — log lines in files

Every file that the settings name is opened before a command starts, in the order of the targets;
lines that pass the filter and the target's own level are put at its end.
-/

namespace SuiteBench.CommandLine

/-- What the program calls itself in filters. -/
def logSource : String := "genbench"

/-- A log file that is open. -/
structure LogFile where
  location : Location
  level : Option LogLevel
  deriving DecidableEq, Repr

namespace LogFile

/-- The name of the file that is written at a moment. -/
def dated (name : String) (rotation : LogRotation) (now : Moment) : String :=
  let (day, second) := now.split
  let date := CalendarDay.yearText day.year ++ "-" ++ Decimal.padded 2 day.month ++ "-" ++
    Decimal.padded 2 day.day
  match rotation with
  | .never => name
  | .daily => name ++ "." ++ date
  | .hourly => name ++ "." ++ date ++ "-" ++ Decimal.padded 2 (second / 3600)

/-- The directory of a log file. -/
def directory (path : Path) : Path :=
  match path.parent? with
  | some p => if p.text.isEmpty then ⟨"."⟩ else p
  | none => ⟨"."⟩

/-- Opens a log file, making it if it is not there. -/
def openAt (cwd : Location) (path : Path) (level : Option LogLevel) (rotation : LogRotation)
    (w : World) : Except (List String) LogFile × World :=
  match path.fileName? with
  | none => (.error ["Log file path has no file name: " ++ path.text], w)
  | some name =>
    let dir := directory path
    match w.perform [.makeDirs (dir.locate cwd)] with
    | (w, some e) => (.error ["Failed to create log directory " ++ dir.text, e.message], w)
    | (w, none) =>
      let l := dir.locate cwd ++ [dated name rotation w.now]
      let w := if (w.tree.find? l).isSome then w else (w.perform [.write l .empty]).1
      (.ok ⟨l, level⟩, w)

/-- Whether a line goes to the file. -/
def takes (f : LogFile) (filter : LogFilter) (line : LogLine) : Bool :=
  filter.lets logSource line.level && f.level.all fun l => l.shows line.level

/-- A line as it is written. -/
def lineText (line : LogLine) : String := line.level.name ++ " " ++ line.text ++ "\n"

/-- The world with the lines that a file takes put at its end. -/
def append (filter : LogFilter) (lines : List LogLine) (w : World) (f : LogFile) : World :=
  match w.tree.find? f.location with
  | some (.file content _) =>
    let more := (lines.filter (f.takes filter)).map lineText
    if more.isEmpty then w
    else (w.perform [.write f.location (content ++ (String.join more).toUTF8)]).1
  | _ => w

end LogFile

/-- Opens the files of the targets. -/
def openLogs (cwd : Location) : List LogTarget → World → Except (List String) (List LogFile) × World
  | [], w => (.ok [], w)
  | .console _ :: rest, w => openLogs cwd rest w
  | .file path level rotation :: rest, w =>
    match LogFile.openAt cwd ⟨path⟩ level rotation w with
    | (.error e, w) => (.error e, w)
    | (.ok f, w) =>
      let (files, w) := openLogs cwd rest w
      (files.map (f :: ·), w)

/-- The world with everything that was logged written to the files. -/
def closeLogs (filter : LogFilter) (files : List LogFile) (w : World) : World :=
  files.foldl (LogFile.append filter w.log) w

end SuiteBench.CommandLine
