import MetricLedger.Text.Split

/-!
# Locations of data

The data of a database is in memory or in a file. One file has one path: a path is made straight by
undoing its detours.
-/

namespace MetricLedger

inductive Place where
  | memory
  | file (path : String)
  /-- What cannot be opened at all. -/
  | nowhere
deriving DecidableEq, Repr, Inhabited

structure Location where
  place : Place
  /-- Whether a file that is not there is made. -/
  canCreate : Bool := true
  canWrite : Bool := true
deriving DecidableEq, Repr, Inhabited

namespace Location

def memoryName : String := ":memory:"

/-- The steps of a path, the last one first. A step upwards undoes the one before it; at the root
there is nothing above. -/
def steps (rooted : Bool) (taken : List (List Char)) : List (List Char) → List (List Char)
  | [] => taken
  | step :: rest =>
    if step = [] ∨ step = ['.'] then steps rooted taken rest
    else if step = ['.', '.'] then
      match taken with
      | [] => steps rooted (if rooted then [] else [step]) rest
      | last :: before => steps rooted (if last = step then step :: taken else before) rest
    else steps rooted (step :: taken) rest

def straight (path : List Char) : String :=
  let rooted := path.head? = some '/'
  let taken := steps rooted [] (Text.splitAt '/' path)
  (if rooted then "/" else "") ++ "/".intercalate (taken.reverse.map String.ofList)

example : straight "/tmp/a/..//./b".toList = "/tmp/b" := by decide

/-- Where a database of that name is. One without a name is in memory, too. -/
def ofName (name : String) : Location :=
  if name = "" ∨ name = memoryName then { place := .memory }
  else { place := .file (straight name.toList) }

/-- The path of the directory that a file is in; empty for the current one. -/
def directory (path : String) : String :=
  match path.toList.reverse.dropWhile (· ≠ '/') with
  | [] => ""
  | ['/'] => "/"
  | _ :: above => String.ofList above.reverse

end Location

end MetricLedger
