import SqlStatement.Error
import SqlStatement.Text.Hex

/-!
# Database URLs

A URL is a scheme, the place of the database, and settings after a `?` in the form of a query
string. `Location.ofUrl` reads it: unknown settings, and unknown values of known ones, are refused.
-/

namespace SqlStatement

inductive Storage where
  | memory
  /-- A file of the engine's own that goes away with the connection. -/
  | temporary
  | file (path : String)
  deriving DecidableEq

structure Location where
  storage : Storage
  isReadOnly : Bool := false
  deriving DecidableEq

namespace Location

/-- Removes a text from the front as often as it is there. -/
def stripAll (start text : List Char) : List Char :=
  if _h : start ≠ [] ∧ start.isPrefixOf text then stripAll start (text.drop start.length)
  else text
termination_by text.length
decreasing_by
  have hlt : 0 < start.length := List.length_pos_iff.2 _h.1
  have hle := (List.isPrefixOf_iff_prefix.1 _h.2).length_le
  simp only [List.length_drop]
  omega

def splitAt (separator : Char) : List Char → List (List Char)
  | [] => [[]]
  | c :: rest =>
    if c = separator then [] :: splitAt separator rest
    else
      match splitAt separator rest with
      | part :: parts => (c :: part) :: parts
      | [] => [[c]]

/-- The text before the first separator, and the text after it if there is one. -/
def cut (separator : Char) (text : List Char) : List Char × Option (List Char) :=
  match text.dropWhile (· != separator) with
  | [] => (text, none)
  | _ :: rest => (text.takeWhile (· != separator), some rest)

/-- A percent sign with two hexadecimal digits is the byte that they name. -/
def unescape : List UInt8 → List UInt8
  | percent :: high :: low :: rest =>
    match Text.hexValue? (Char.ofUInt8 high), Text.hexValue? (Char.ofUInt8 low) with
    | some h, some l =>
      if percent = '%'.toUInt8 then UInt8.ofNat (16 * h + l) :: unescape rest
      else percent :: unescape (high :: low :: rest)
    | _, _ => percent :: unescape (high :: low :: rest)
  | bytes => bytes

/-- The text without escapes, if it is one. -/
def unescaped? (text : List Char) : Option String :=
  String.fromUTF8? (ByteArray.mk (unescape (String.ofList text).toUTF8.toList).toArray)

/-- A part of a query string, where a plus is a space. Bytes that are no text are of no setting. -/
def settingText (text : List Char) : String :=
  (unescaped? (text.map fun c => if c = '+' then ' ' else c)).getD "\ufffd"

/-- The settings of a query string: names and values. -/
def settings (query : List Char) : List (String × String) :=
  ((splitAt '&' query).filter (!·.isEmpty)).map fun part =>
    let (name, value) := cut '=' part
    (settingText name, settingText (value.getD []))

/-- The engine's ways to reach files. -/
def fileSystems : List String := ["unix", "unix-dotfile", "unix-excl", "unix-none", "memdb"]

/-- The values that a setting can have, if there is a setting of this name. -/
def settingValues? (name : String) : Option (List String) :=
  [ ("mode", ["ro", "rw", "rwc", "memory"]),
    ("cache", ["private", "shared"]),
    ("immutable", ["true", "1", "false", "0"]),
    ("vfs", fileSystems) ].lookup name

def checkSetting (setting : String × String) : Except EngineError Unit :=
  match settingValues? setting.1 with
  | none => .error (.badUrl ("unknown query parameter `" ++ setting.1 ++ "`"))
  | some values =>
    if setting.2 ∈ values then .ok ()
    else .error (.badUrl ("unknown value `" ++ setting.2 ++ "` for `" ++ setting.1 ++ "`"))

/-- What a path names. Only a path may have escapes, and none may hold a null. -/
def storageOf (path : List Char) (isInMemory : Bool) : Except EngineError Storage :=
  if path = ":memory:".toList then .ok .memory
  else
    match unescaped? path with
    | none => .error (.badUrl "invalid utf-8 sequence")
    | some path =>
      if path.toList.contains '\x00' then .error (.badUrl "a path must not contain a null")
      else if isInMemory ∨ path = ":memory:" then .ok .memory
      else if path.isEmpty then .ok .temporary
      else .ok (.file path)

def ofUrl (url : String) : Except EngineError Location := do
  let (path, query) := cut '?' (stripAll "sqlite:".toList (stripAll "sqlite://".toList url.toList))
  let settings := settings (query.getD [])
  settings.forM checkSetting
  let storage ← storageOf path (settings.contains ("mode", "memory"))
  return { storage, isReadOnly := settings.contains ("mode", "ro") }

end Location

end SqlStatement
