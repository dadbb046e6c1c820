/-!
# Names of log files

One file a day, named after the date, in the directory of the settings.
-/

namespace PropertySheet

/-- A file in a directory. The empty directory adds nothing, and a separator is added only if there
is none. -/
def fileIn (directory name : String) : String :=
  if directory.isEmpty ∨ directory.endsWith "/" then directory ++ name
  else directory ++ "/" ++ name

/-- The log file of a day, which is written as eight digits. -/
def logFile (directory day : String) : String :=
  fileIn directory ("property-table-" ++ day ++ ".log")

end PropertySheet
