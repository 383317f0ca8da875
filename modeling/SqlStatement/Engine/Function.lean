/-!
# Functions that an expression may call

The functions of one value or several, each with the numbers of arguments that it takes, and whether
its value depends on the arguments alone. Functions over many rows are not here: no definition of a
table may call them.
-/

namespace SqlStatement

structure SqlFunction where
  name : String
  /-- The least number of arguments. -/
  least : Nat
  /-- The largest number of arguments, if there is one. -/
  most : Option Nat
  isDeterministic : Bool := true
  deriving DecidableEq

namespace SqlFunction

/-- The function takes so many arguments. -/
def takes (function : SqlFunction) (arity : Nat) : Bool :=
  decide (function.least ≤ arity) && function.most.all fun most => decide (arity ≤ most)

def fixed (arity : Nat) (name : String) : SqlFunction :=
  { name, least := arity, most := some arity }

def oneOrTwo (name : String) : SqlFunction := { name, least := 1, most := some 2 }

def twoOrThree (name : String) : SqlFunction := { name, least := 2, most := some 3 }

def atLeast (arity : Nat) (name : String) : SqlFunction := { name, least := arity, most := none }

/-- A function whose value depends on more than its arguments. -/
def varying (arity : Nat) (name : String) : SqlFunction :=
  { fixed arity name with isDeterministic := false }

def all : List SqlFunction :=
  ["abs", "hex", "json", "json_error_position", "json_quote", "json_valid", "length", "likely",
    "lower", "octet_length", "quote", "sign", "soundex", "subtype", "typeof", "unicode", "unlikely",
    "upper", "zeroblob"].map (fixed 1) ++
  ["glob", "ifnull", "instr", "json_patch", "likelihood", "nullif", "timediff"].map (fixed 2) ++
  ["iif", "replace"].map (fixed 3) ++
  ["json_array_length", "json_type", "ltrim", "round", "rtrim", "trim", "unhex"].map oneOrTwo ++
  ["like", "substr", "substring"].map twoOrThree ++
  ["char", "date", "datetime", "format", "json_array", "json_extract", "json_insert", "json_object",
    "json_remove", "json_replace", "json_set", "julianday", "printf", "strftime", "time",
    "unixepoch"].map (atLeast 0) ++
  ["concat"].map (atLeast 1) ++
  ["coalesce", "concat_ws", "max", "min"].map (atLeast 2) ++
  ["changes", "current_date", "current_time", "current_timestamp", "last_insert_rowid", "random",
    "sqlite_source_id", "sqlite_version", "total_changes"].map (varying 0) ++
  ["randomblob", "sqlite_compileoption_get", "sqlite_compileoption_used"].map (varying 1)

/-- The function of this name, in upper or lower case, that takes so many arguments. -/
def find? (name : String) (arity : Nat) : Option SqlFunction :=
  all.find? fun function => function.name == name.toLower && function.takes arity

end SqlFunction

end SqlStatement
