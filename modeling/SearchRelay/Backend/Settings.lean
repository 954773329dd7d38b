import SearchRelay.Error
import SearchRelay.Json.Decode
import SearchRelay.Url

/-!
# SearchRelay.Backend.Settings

How the backend is reached: its address, how long an attempt and a whole
exchange may take, and how often a failed attempt is repeated.

1. Every setting has a default.
2. `fault?` gives the first fault in the order address, time of an attempt,
   time of the exchange, pause.
3. `address` is where a batch goes: the base address without trailing slashes,
   the names of the indices as one segment, and `_msearch`.
-/

namespace SearchRelay.Backend

open Json

/-- The settings of the backend. -/
structure Settings where
  /-- The base address. -/
  url : String := "http://localhost:9200"
  /-- How long one attempt may take, in seconds. -/
  timeout : Nat := 10
  /-- How long the attempts and the pauses between them may take, in
  seconds. -/
  totalTimeout : Nat := 30
  /-- How often a failed attempt is repeated. -/
  maxRetries : UInt32 := 2
  /-- The shortest and the longest pause between attempts, in milliseconds. -/
  pause : Nat × Nat := (50, 250)
  deriving DecidableEq

namespace Settings

/-! ## JSON -/

def word64 : Decoder Nat := Decoder.natBelow UInt64.size "u64"

def word32 : Decoder UInt32 := fun r d =>
  (Decoder.natBelow UInt32.size "u32" r d).map Nat.toUInt32

/-- The fields of the settings. -/
def form : Record Settings where
  name := "BackendConfig"
  fields := [
    .of "url" .free Decoder.text fun s v => { s with url := v },
    .of "timeout_seconds" .free word64 fun s v => { s with timeout := v },
    .of "total_timeout_seconds" .free word64 fun s v => { s with totalTimeout := v },
    .of "max_retries" .free word32 fun s v => { s with maxRetries := v },
    .of "retry_delay_ms" .free (Decoder.pair word64) fun s v => { s with pause := v }]
  blank := {}

def decode : Decoder Settings := form.decode

/-- Settings as JSON. -/
def toJson (s : Settings) : Json := ofFields [
  ("url", .string s.url),
  ("timeout_seconds", .ofNat s.timeout),
  ("total_timeout_seconds", .ofNat s.totalTimeout),
  ("max_retries", .ofNat s.maxRetries.toNat),
  ("retry_delay_ms", .array [.ofNat s.pause.1, .ofNat s.pause.2])]

/-! ## Faults -/

/-- Why settings are not valid. -/
inductive Fault where
  | badAddress (cause : Url.Fault)
  | otherScheme
  | noTime
  | totalTooShort
  | pauseReversed
  deriving DecidableEq

/-- The wording of a fault. -/
def Fault.reason : Fault → String
  | .badAddress cause => "backend url is invalid: " ++ cause.reason
  | .otherScheme => "backend url must use http or https"
  | .noTime => "timeout_seconds must be greater than 0"
  | .totalTooShort => "total_timeout_seconds must be >= timeout_seconds"
  | .pauseReversed => "retry_delay_ms min must be <= max"

def Fault.error (fault : Fault) : Error := .config fault.reason

/-- The base address as a URL. -/
def base (s : Settings) : Except Fault Url :=
  match Url.parse s.url with
  | .error cause => .error (.badAddress cause)
  | .ok none => .error .otherScheme
  | .ok (some url) => .ok url

/-- Checks settings.  Gives the base address, or the first fault. -/
def check (s : Settings) : Except Fault Url := do
  let url ← s.base
  if s.timeout = 0 then throw .noTime
  if s.totalTimeout < s.timeout then throw .totalTooShort
  if s.pause.2 < s.pause.1 then throw .pauseReversed
  return url

/-! ## Address and pause -/

/-- A text without the slashes at its end. -/
def withoutSlashes (cs : List Char) : List Char := (cs.reverse.dropWhile (· = '/')).reverse

/-- The address for a batch that asks the given indices. -/
def address (base : Url) (indices : List String) : List Char :=
  let names := if indices.isEmpty then [] else '/' :: (",".intercalate indices).toList
  withoutSlashes base.text ++ names ++ "/_msearch".toList

/-- The pause that a draw gives: a number of the range, or its lower end if the
range holds no other. -/
def pauseOf (range : Nat × Nat) (draw : Nat) : Nat :=
  if range.2 ≤ range.1 then range.1 else range.1 + draw % (range.2 - range.1 + 1)

end Settings

end SearchRelay.Backend
