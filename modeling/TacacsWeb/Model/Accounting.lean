import TacacsWeb.Library.Dict
import TacacsWeb.Library.Shlex
import TacacsWeb.Library.Text
import TacacsWeb.Model.Columns
import TacacsWeb.Model.DeviceResolution

/-!
# Accounting records

`parse_record` and `_persist_one` of `app.accounting.ingestor`: the tab-separated fields of
a log line, its attribute-value pairs, and the row made from them. The readers of
`datetime` are parameters, and so is whether the driver can send a time to the database. A
record without a time that they can read is dated with the time of its reading, which is
what an absent time stands for.
-/

namespace TacacsWeb.Model

open TacacsWeb.Library TacacsWeb.Library.Text

/-- What `_parse_ts` uses of `str` and `datetime`, and what the driver makes of the result. -/
structure TimeReader (Instant : Type) where
  /-- `str.isdigit` on one character. -/
  isDigit : Char → Bool
  /-- `datetime.fromtimestamp(seconds, tz=UTC)`, none where it raises. -/
  fromTimestamp : Int → Option Instant
  /-- `datetime.strptime(text, format)` with UTC for a missing zone, none where it raises. -/
  strptime : String → String → Option Instant
  /-- The driver encodes the time, which it first converts to UTC. -/
  storable : Instant → Bool

/-- What `parse_record` returns. -/
structure ParsedRecord (Instant : Type) where
  /-- The time of the record, none for the time of its reading. -/
  ts : Option Instant
  /-- The NAS address. -/
  nasIp : Option String
  /-- The login name. -/
  username : Option String
  /-- The port of the session. -/
  port : Option String
  /-- The address of the client. -/
  nacIp : Option String
  /-- The id that the records of a session share. -/
  taskId : Option String
  /-- The kind of record. -/
  action : String
  /-- The attribute-value pairs. -/
  avPairs : Dict String String
deriving DecidableEq

/-- The formats that `_parse_ts` tries, in order. -/
def timeFormats : List String :=
  ["%Y-%m-%dT%H:%M:%S%z", "%Y-%m-%d %H:%M:%S %z", "%Y-%m-%d %H:%M:%S", "%Y-%m-%dT%H:%M:%S",
    "%a %b %d %H:%M:%S %Y"]

variable {Instant : Type}

/-- `_parse_ts`. -/
def parseTs (reader : TimeReader Instant) (raw : String) : Option Instant :=
  let raw := strip raw
  if raw = "" then none
  else
    let epoch := if raw.toList.all reader.isDigit then (parseInt raw).bind reader.fromTimestamp
      else none
    epoch.or (timeFormats.findSome? (reader.strptime raw))

/-- The characters of a key in `_AV_TOKEN`. -/
def isAvKeyChar (char : Char) : Bool :=
  let code := char.toNat
  65 ≤ code && code ≤ 90 || 97 ≤ code && code ≤ 122 || 48 ≤ code && code ≤ 57 ||
    char = '.' || char = '_' || char = '-'

/-- What `(.*)$` matches: the text, less one line end that closes it. -/
def restOfLine (text : List Char) : Option (List Char) :=
  match text.dropWhile (· ≠ '\n') with
  | [] => some text
  | [_] => some (text.takeWhile (· ≠ '\n'))
  | _ => none

/-- `_AV_TOKEN.match(token)`: the key and the value. -/
def avToken (token : List Char) : Option (String × String) :=
  let key := token.takeWhile isAvKeyChar
  match token.dropWhile isAvKeyChar with
  | '=' :: value =>
    if key = [] then none
    else (restOfLine value).map fun value => (String.ofList key, String.ofList value)
  | _ => none

/-- `text.split()`. -/
def splitWhitespace (text : List Char) : List (List Char) :=
  (text.splitOnP isSpace).filter fun word => word ≠ []

/-- `_parse_args`. -/
def parseArgs (blob : List Char) : Dict String String :=
  let blob := (strip (String.ofList (blob.map fun char => if char = '\t' then ' ' else char))).toList
  -- Malformed quoting falls back to plain splitting.
  let tokens := (Shlex.split blob).getD (splitWhitespace blob)
  Dict.ofList (tokens.filterMap avToken)

/-- `text or None`. -/
def textOrNone (text : List Char) : Option String :=
  if text = [] then none else some (String.ofList text)

/-- `parse_record`. -/
def parseRecord (reader : TimeReader Instant) (line : List Char) : Option (ParsedRecord Instant) :=
  let line := dropEndWhile (· = '\r') (dropEndWhile (· = '\n') line)
  if line = [] then none
  else match line.splitOn '\t' with
    | tsRaw :: nas :: user :: port :: nac :: taskId :: action :: argsRaw :: extras =>
      some {
        ts := parseTs reader (String.ofList tsRaw)
        nasIp := textOrNone nas
        username := textOrNone user
        port := textOrNone port
        nacIp := textOrNone nac
        taskId := textOrNone taskId
        action := (textOrNone action).getD "unknown"
        avPairs := parseArgs (['\t'].intercalate (argsRaw :: extras)) }
    | _ => none

/-- A row of `accounting_record`, less its id. -/
structure AccountingRecord (Instant : Type) where
  /-- The time of the record, none for the time of its reading. -/
  ts : Option Instant
  /-- The NAS address. -/
  nasIp : Option String
  /-- The login name. -/
  username : Option String
  /-- The port of the session. -/
  port : Option String
  /-- The address of the client. -/
  nacIp : Option String
  /-- The kind of record. -/
  action : String
  /-- The `service` attribute. -/
  service : Option String
  /-- The `cmd` attribute. -/
  cmd : Option String
  /-- The `priv-lvl` attribute, when it is an integer. -/
  privLvl : Option Int
  /-- The `elapsed_time` attribute, when it is an integer. -/
  elapsedSeconds : Option Int
  /-- The id that the records of a session share. -/
  taskId : Option String
  /-- The device of the NAS address. -/
  deviceId : Option Nat
  /-- All attribute-value pairs. -/
  rawAvPairs : Dict String String
deriving DecidableEq

/-- `_resolve_device_id`. -/
def resolveDeviceId (devices : List Device) (nasIp : Option String) : Option Nat :=
  match nasIp with
  | none => none
  | some ip => if ip = "" then none else (resolveDeviceForIp ip devices).map Device.id

/-- The row that `_persist_one` adds. -/
def persistOne (devices : List Device) (rec : ParsedRecord Instant) : AccountingRecord Instant where
  ts := rec.ts
  nasIp := rec.nasIp
  username := rec.username
  port := rec.port
  nacIp := rec.nacIp
  action := rec.action
  service := rec.avPairs.get? "service"
  cmd := rec.avPairs.get? "cmd"
  privLvl := (rec.avPairs.get? "priv-lvl").bind parseInt
  elapsedSeconds := (rec.avPairs.get? "elapsed_time").bind parseInt
  taskId := rec.taskId
  deviceId := resolveDeviceId devices rec.nasIp
  rawAvPairs := rec.avPairs

/-- The database takes the row: every value fits its column. -/
def AccountingRecord.fits (times : TimeReader Instant) (row : AccountingRecord Instant) : Bool :=
  row.ts.all times.storable && textFits (some 64) row.nasIp && textFits (some 256) row.username &&
    textFits (some 64) row.port && textFits (some 64) row.nacIp &&
    textFits (some 16) (some row.action) && textFits (some 32) row.service &&
    textFits none row.cmd && integerFits row.privLvl && integerFits row.elapsedSeconds &&
    textFits (some 64) row.taskId

/-! ## Line ends -/

/-- A line end after the line makes no difference to its record. -/
theorem parseRecord_newline (reader : TimeReader Instant) (line : List Char) :
    parseRecord reader (line ++ ['\n']) = parseRecord reader line := by
  have dropped : dropEndWhile (· = '\n') (line ++ ['\n']) = dropEndWhile (· = '\n') line := by
    simp [dropEndWhile]
  rw [parseRecord, dropped, parseRecord]

end TacacsWeb.Model
