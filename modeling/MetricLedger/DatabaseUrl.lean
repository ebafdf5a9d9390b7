import MetricLedger.Malformed
import MetricLedger.Settings
import MetricLedger.Text.Percent
import MetricLedger.Text.Split
import MetricLedger.Text.Word

/-!
# Addresses of databases

An address is a scheme and a body behind it. The body may name a login, a host and a port, then the
database behind a slash, then options behind a question mark. The ledger works synchronously, so an
address that asks for the asynchronous driver is changed to the plain one.
-/

namespace MetricLedger

/-- The options of an address by name. An option that is given more than once has several values. -/
abbrev UrlOptions := List (String × List String)

/-- What an address says. A part that is left out is empty, and the port is then zero. -/
structure DatabaseUrl where
  scheme : List Char
  user : String
  password : String
  host : String
  port : Int
  database : Option String
  options : UrlOptions
deriving DecidableEq, Repr, Inhabited

namespace DatabaseUrl

def asynchronous : String := "postgresql+asyncpg"

def synchronous : String := "postgresql"

/-- The address that the environment gives, or the default one. As for the settings, a file of
variables has been read into the environment before, if there is one. -/
def ofEnvironment (e : Environment) : String :=
  match given? e.databaseUrl with
  | none => Settings.defaults.databaseUrl
  | some url =>
    if asynchronous.toList.isPrefixOf url.toList then
      String.ofList (Text.replaceAll asynchronous.toList synchronous.toList url.toList)
    else url

/-! ## Taking an address apart -/

def isSchemePart (c : Char) : Bool := Text.isWordChar c || c = '+'

def cutScheme? (url : List Char) : Option (List Char × List Char) :=
  let scheme := url.takeWhile isSchemePart
  match url.dropWhile isSchemePart with
  | ':' :: '/' :: '/' :: body => if scheme.isEmpty then none else some (scheme, body)
  | _ => none

def isUserPart (c : Char) : Bool := c != ':' && c != '/'

/-- A user without a password ends at the last `@` before a colon or a slash. -/
def cutUser (body : List Char) : List Char × List Char :=
  match Text.cutAtLast? '@' (body.takeWhile isUserPart) with
  | some (user, after) => (user, after ++ body.dropWhile isUserPart)
  | none => ([], body)

/-- The user, the password, and what stands behind the login. A password goes from the first colon
to the next `@`, whatever stands between them. -/
def cutLogin (body : List Char) : List Char × List Char × List Char :=
  let plain :=
    let (user, rest) := cutUser body
    (user, [], rest)
  match body.dropWhile isUserPart with
  | ':' :: rest =>
    match Text.cutAt? '@' rest with
    | some (password, rest) => (body.takeWhile isUserPart, password, rest)
    | none => plain
  | _ => plain

def isPlacePart (c : Char) : Bool := c != '/' && c != '?'

/-- A host in brackets, which go as far as they can. -/
def cutBracketed? : List Char → Option (List Char × List Char)
  | '[' :: rest =>
    match Text.cutAtLast? ']' (rest.takeWhile isPlacePart) with
    | some (host, after) =>
      if host.isEmpty then none else some (host, after ++ rest.dropWhile isPlacePart)
    | none => none
  | _ => none

def isHostPart (c : Char) : Bool := isPlacePart c && c != ':'

def cutHost (body : List Char) : List Char × List Char :=
  (cutBracketed? body).getD (body.takeWhile isHostPart, body.dropWhile isHostPart)

def cutPort : List Char → Option (List Char) × List Char
  | ':' :: rest => (some (rest.takeWhile isPlacePart), rest.dropWhile isPlacePart)
  | body => (none, body)

def cutDatabase : List Char → Option (List Char) × List Char
  | '/' :: rest => (some (rest.takeWhile (· ≠ '?')), rest.dropWhile (· ≠ '?'))
  | body => (none, body)

def addOption (options : UrlOptions) (name value : String) : UrlOptions :=
  match options with
  | [] => [(name, [value])]
  | (other, values) :: rest =>
    if other = name then (name, values ++ [value]) :: rest
    else (other, values) :: addOption rest name value

/-- The options behind the question mark, as far as the line goes. One without a value counts as not
given. -/
def optionsOf : List Char → UrlOptions
  | '?' :: text =>
    (Text.splitAt '&' (text.takeWhile (· ≠ '\n'))).foldl (fun options part =>
      match Text.cutAt? '=' part with
      | some (name, value) =>
        if value.isEmpty then options
        else
          addOption options (String.ofList (Text.Percent.decodeForm name))
            (String.ofList (Text.Percent.decodeForm value))
      | none => options) []
  | _ => []

/-- The parts of a text, which has to be an address. What stands behind them is left alone. -/
def ofText (text : String) : Except Malformed DatabaseUrl :=
  match cutScheme? text.toList with
  | none => .error .badAddress
  | some (scheme, body) =>
    let (user, password, body) := cutLogin body
    let (host, body) := cutHost body
    let (port?, body) := cutPort body
    let (database?, body) := cutDatabase body
    let decoded (part : List Char) : String := String.ofList (Text.Percent.decode part)
    match (port?.map fun port => Integer.ofText? (String.ofList port)).getD (some 0) with
    | none => .error .unreadable
    | some port => .ok {
        scheme := scheme
        user := decoded user
        password := decoded password
        host := String.ofList host
        port := port
        database := database?.map decoded
        options := optionsOf body }

/-- Whether an address names what only a server has. -/
def isServed (url : DatabaseUrl) : Bool :=
  url.user ≠ "" || url.password ≠ "" || url.host ≠ "" || url.port ≠ 0

end DatabaseUrl

end MetricLedger
