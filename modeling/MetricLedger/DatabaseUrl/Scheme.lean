import MetricLedger.Malformed
import MetricLedger.Text.Split

/-!
# Schemes of addresses

A scheme is a kind of database, and the name of a driver after a plus sign. A kind has a driver of
its own for a scheme that names none. Only databases without a server can be reached. A kind also
has parts that are no drivers, such as the types of its columns.
-/

namespace MetricLedger.Scheme

/-- A kind of database, with the drivers that can be used, the drivers that would have to be added,
and the parts that are no drivers. -/
structure Kind where
  name : String
  usable : List String := []
  lacking : List String := []
  parts : List String := []

def unnamedDriver : String := "base"

def commonParts : List String := [
  "__all__", "__annotations__", "__builtins__", "__cached__", "__class__", "__delattr__", "__dict__",
  "__dir__", "__doc__", "__eq__", "__file__", "__format__", "__ge__", "__getattribute__",
  "__getstate__", "__gt__", "__hash__", "__init__", "__init_subclass__", "__le__", "__loader__",
  "__lt__", "__name__", "__ne__", "__new__", "__package__", "__path__", "__reduce__",
  "__reduce_ex__", "__repr__", "__setattr__", "__sizeof__", "__spec__", "__str__",
  "__subclasshook__", "dialect"]

def sqlite : Kind where
  name := "sqlite"
  usable := [unnamedDriver, "pysqlite"]
  lacking := ["aiosqlite", "pysqlcipher"]
  parts := commonParts ++ [
    "BLOB", "BOOLEAN", "CHAR", "DATE", "DATETIME", "DECIMAL", "FLOAT", "INTEGER", "Insert", "JSON",
    "JSONB", "NUMERIC", "REAL", "SMALLINT", "TEXT", "TIME", "TIMESTAMP", "VARCHAR", "dml", "insert",
    "json"]

def mssql : Kind where
  name := "mssql"
  lacking := [unnamedDriver, "aioodbc", "mssqlpython", "pymssql", "pyodbc"]
  parts := commonParts ++ [
    "BIGINT", "BINARY", "BIT", "CHAR", "DATE", "DATETIME", "DATETIME2", "DATETIMEOFFSET", "DECIMAL",
    "DOUBLE_PRECISION", "FLOAT", "IMAGE", "INTEGER", "JSON", "MONEY", "NCHAR", "NTEXT", "NUMERIC",
    "NVARCHAR", "REAL", "ROWVERSION", "SMALLDATETIME", "SMALLINT", "SMALLMONEY", "SQL_VARIANT",
    "TEXT", "TIME", "TIMESTAMP", "TINYINT", "UNIQUEIDENTIFIER", "VARBINARY", "VARCHAR", "XML",
    "information_schema", "json", "try_cast"]

def mysqlDrivers : List String := [
  unnamedDriver, "aiomysql", "asyncmy", "cymysql", "mariadbconnector", "mysqlconnector", "mysqldb",
  "pymysql", "pyodbc"]

def mysqlParts : List String := [
  "dml", "enumerated", "expression", "json", "mariadb", "reflection", "reserved_words", "types"]

def mysql : Kind where
  name := "mysql"
  lacking := mysqlDrivers
  parts := commonParts ++ mysqlParts ++ [
    "BIGINT", "BINARY", "BIT", "BLOB", "BOOLEAN", "CHAR", "DATE", "DATETIME", "DECIMAL", "DOUBLE",
    "ENUM", "FLOAT", "INET4", "INET6", "INTEGER", "Insert", "JSON", "LONGBLOB", "LONGTEXT",
    "MEDIUMBLOB", "MEDIUMINT", "MEDIUMTEXT", "NCHAR", "NUMERIC", "NVARCHAR", "REAL", "SET",
    "SMALLINT", "TEXT", "TIME", "TIMESTAMP", "TINYBLOB", "TINYINT", "TINYTEXT", "VARBINARY",
    "VARCHAR", "YEAR", "insert", "match"]

def mariadb : Kind where
  name := "mariadb"
  lacking := mysqlDrivers
  parts := mysqlParts

def oracle : Kind where
  name := "oracle"
  lacking := [unnamedDriver, "cx_oracle", "oracledb", "oracledb_async"]
  parts := commonParts ++ [
    "BFILE", "BINARY_DOUBLE", "BINARY_FLOAT", "BLOB", "BOOLEAN", "CHAR", "CLOB", "DATE",
    "DOUBLE_PRECISION", "FLOAT", "INTERVAL", "JSON", "LONG", "ModuleType", "NCHAR", "NCLOB",
    "NUMBER", "NVARCHAR", "NVARCHAR2", "RAW", "REAL", "ROWID", "SparseVector", "TIMESTAMP",
    "VARCHAR", "VARCHAR2", "VECTOR", "VectorDistanceType", "VectorIndexConfig", "VectorIndexType",
    "VectorStorageFormat", "VectorStorageType", "dictionary", "json", "types", "vector"]

def postgresql : Kind where
  name := "postgresql"
  lacking := [
    unnamedDriver, "asyncpg", "pg8000", "psycopg", "psycopg2", "psycopg2cffi", "psycopg_async"]
  parts := commonParts ++ [
    "ARRAY", "AbstractMultiRange", "AbstractRange", "AbstractSingleRange", "All", "Any", "BIGINT",
    "BIT", "BOOLEAN", "BYTEA", "BitString", "CHAR", "CIDR", "CITEXT", "CreateDomainType",
    "CreateEnumType", "DATE", "DATEMULTIRANGE", "DATERANGE", "DOMAIN", "DOUBLE_PRECISION",
    "DropDomainType", "DropEnumType", "ENUM", "ExcludeConstraint", "FLOAT", "HSTORE", "INET",
    "INT4MULTIRANGE", "INT4RANGE", "INT8MULTIRANGE", "INT8RANGE", "INTEGER", "INTERVAL", "Insert",
    "JSON", "JSONB", "JSONPATH", "MACADDR", "MACADDR8", "MONEY", "ModuleType", "MultiRange",
    "NUMERIC", "NUMMULTIRANGE", "NUMRANGE", "NamedType", "OID", "REAL", "REGCLASS", "REGCONFIG",
    "Range", "SMALLINT", "TEXT", "TIME", "TIMESTAMP", "TSMULTIRANGE", "TSQUERY", "TSRANGE",
    "TSTZMULTIRANGE", "TSTZRANGE", "TSVECTOR", "UUID", "VARCHAR", "_psycopg_common",
    "aggregate_order_by", "array", "array_agg", "arraylib", "bitstring", "distinct_on", "dml",
    "ext", "hstore", "insert", "json", "named_types", "operators", "pg_catalog",
    "phraseto_tsquery", "plainto_tsquery", "ranges", "to_tsquery", "to_tsvector", "ts_headline",
    "types", "websearch_to_tsquery"]

def kinds : List Kind := [sqlite, mariadb, mssql, mysql, oracle, postgresql]

def Kind.check (kind : Kind) (driver : String) : Except Malformed Unit :=
  if kind.usable.contains driver then .ok ()
  else if kind.lacking.contains driver then .error .missingDriver
  else if kind.parts.contains driver then .error .noDriver
  else .error .unknownScheme

def checkDriver (kind driver : String) : Except Malformed Unit :=
  match kinds.find? (·.name = kind) with
  | some kind => kind.check driver
  | none => .error .unknownScheme

def check (scheme : List Char) : Except Malformed Unit :=
  match Text.splitAt '+' scheme with
  | [kind] => checkDriver (String.ofList kind) unnamedDriver
  | [kind, driver] => checkDriver (String.ofList kind) (String.ofList driver)
  | _ => .error .unreadable

example : (check "sqlite+pysqlite".toList).toOption = some () := by decide

end MetricLedger.Scheme
