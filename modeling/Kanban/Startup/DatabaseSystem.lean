import Kanban.Numeral.Written
import Kanban.Startup.DatabaseUrl

/-!
# Database systems

A database URL can be used when its database system is known, the driver is installed, and the URL
says nothing that the driver cannot work with. One driver opens a file, and its options have types.
The other one calls a server, and may be told several hosts with their ports.
-/

namespace Kanban.Startup

/-! ## Drivers -/

inductive Driver where
  /-- The driver opens a file. -/
  | file
  /-- The driver calls a server. -/
  | server
  /-- The driver belongs to a package that is not installed. -/
  | missing (package : String)
deriving DecidableEq, Repr

/-- The drivers of the systems that are told apart only by name. -/
def twinDrivers : List (String × Driver) :=
  [("base", .missing "MySQLdb"), ("mysqldb", .missing "MySQLdb"), ("pymysql", .missing "pymysql"),
    ("mysqlconnector", .missing "mysql"), ("mariadbconnector", .missing "mariadb"),
    ("cymysql", .missing "cymysql"), ("pyodbc", .missing "pyodbc"),
    ("aiomysql", .missing "aiomysql"), ("asyncmy", .missing "asyncmy")]

def systems : List (String × List (String × Driver)) :=
  [("sqlite",
      [("base", .file), ("pysqlite", .file), ("aiosqlite", .missing "aiosqlite"),
        ("pysqlcipher", .missing "pysqlcipher3")]),
    ("postgresql",
      [("base", .server), ("psycopg2", .server), ("psycopg", .missing "psycopg"),
        ("psycopg_async", .missing "psycopg"), ("pg8000", .missing "pg8000"),
        ("asyncpg", .missing "asyncpg"), ("psycopg2cffi", .missing "psycopg2cffi")]),
    ("mysql", twinDrivers), ("mariadb", twinDrivers),
    ("oracle",
      [("base", .missing "cx_Oracle"), ("cx_oracle", .missing "cx_Oracle"),
        ("oracledb", .missing "oracledb"), ("oracledb_async", .missing "oracledb")]),
    ("mssql",
      [("base", .missing "pyodbc"), ("pyodbc", .missing "pyodbc"), ("pymssql", .missing "pymssql"),
        ("aioodbc", .missing "aioodbc")])]

/-- The driver of a database system that is used when none is named. -/
def defaultDriver : String := "base"

def DatabaseUrl.driver (url : DatabaseUrl) : Except UrlDefect Driver :=
  let found := fun system driver =>
    (((systems.lookup system).bind fun drivers => drivers.lookup driver).map Except.ok).getD
      (.error UrlDefect.unknownSystem)
  match (url.system.toList.splitOn '+').map String.ofList with
  | [system] => found system defaultDriver
  | [system, driver] => found system driver
  | _ => .error (.mismatch .tooManyParts)

/-! ## Files -/

def truthWords : List (String × Bool) :=
  [("true", true), ("yes", true), ("on", true), ("y", true), ("t", true), ("1", true),
    ("false", false), ("no", false), ("off", false), ("n", false), ("f", false), ("0", false)]

/-- A truth value among the options. It is false when it is not given, and true when it is given
several times. -/
def truth : List String → Except Mismatch Bool
  | [] => .ok false
  | [text] =>
    let word := (Text.trim text).toLower
    ((truthWords.lookup word).map Except.ok).getD (.error (.notATruthValue word))
  | _ => .ok true

/-- A number among the options is given once at most. -/
def checkReal : List String → Except Mismatch Unit
  | [] => .ok ()
  | [text] => if Numeral.writesNumber text then .ok () else .error (.notAReal text)
  | _ => .error .severalReals

/-- An integer among the options is given once at most. -/
def checkInteger : List String → Except Mismatch Unit
  | [] => .ok ()
  | [text] => ((Numeral.read text).mapError (.badNumeral (.text text))).map fun _ => ()
  | _ => .error .severalIntegers

def fileOptions : List String :=
  ["uri", "timeout", "isolation_level", "detect_types", "check_same_thread", "cached_statements"]

/-- The options of a file have their types. Options with other names are added to the path of the file
when it is an address, and then there must be a path. -/
def checkFileOptions (url : DatabaseUrl) : Except Mismatch Unit := do
  let isAddress ← truth (url.values "uri")
  checkReal (url.values "timeout")
  checkInteger (url.values "detect_types")
  let _ ← truth (url.values "check_same_thread")
  checkInteger (url.values "cached_statements")
  let hasOthers := url.query.any fun (name, _) => !fileOptions.contains name
  if isAddress && hasOthers && url.database.isNone then .error .noPath else .ok ()

/-- A file has no user and no host. -/
def checkFile (url : DatabaseUrl) : Except UrlDefect Unit :=
  if url.user.isEmpty && url.password.isEmpty && url.host.isEmpty && url.port.getD 0 = 0 then
    (checkFileOptions url).mapError .mismatch
  else .error .unusable

/-! ## Servers -/

def pieces (separator : Char) (text : String) : List String :=
  (text.toList.splitOn separator).map String.ofList

/-- A port of the query can be read, or is left open. -/
def isPort (text : String) : Bool := text.isEmpty || (Numeral.read text).isOk

/-- Several hosts that are given apart, each perhaps with its port. There are no other ports. -/
def checkHosts (hosts ports : List String) : Except UrlDefect Unit :=
  let parts := hosts.map (pieces ':')
  if parts.all fun p => 2 < p.length then .error (.mismatch .tooManyParts)
  else if ports.isEmpty && parts.all fun p => isPort (p[1]?.getD "") then .ok ()
  else .error .unusable

/-- Ports that are given apart from the hosts. There is one for each host. -/
def checkPorts (hosts ports : List String) : Except UrlDefect Unit :=
  if ports.isEmpty || (ports.all isPort && ports.length = max 1 hosts.length) then .ok ()
  else .error .unusable

/-- The hosts and ports in the query of a URL fit together. A single text may list several of them. -/
def checkServer (url : DatabaseUrl) : Except UrlDefect Unit :=
  let ports := url.values "port"
  let listed :=
    match ports with
    | [text] => pieces ',' text
    | texts => texts
  match url.values "host" with
  | [] => checkPorts [] listed
  | [text] => checkPorts (pieces ',' text) listed
  | hosts => checkHosts hosts ports

/-! ## Using a URL -/

def DatabaseUrl.check (url : DatabaseUrl) : Except UrlDefect Unit := do
  if url.values "plugin" ≠ [] then .error .unknownSystem
  else
    match ← url.driver with
    | .file => checkFile url
    | .server => checkServer url
    | .missing package => .error (.driverMissing package)

def checkDatabase : Json → Except UrlDefect Unit
  | .null => .error .absent
  | .text url => DatabaseUrl.read url >>= DatabaseUrl.check
  | .illFormed points => DatabaseUrl.read (Text.ofPoints points) >>= DatabaseUrl.check
  | _ => .error .malformed

end Kanban.Startup
