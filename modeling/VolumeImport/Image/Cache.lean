import VolumeImport.Json.Reader
import VolumeImport.Json.Writer

/-!
How the image tool writes: through the page cache or around it.
-/

namespace VolumeImport

inductive CacheMode where
  | writeback
  | direct
  deriving DecidableEq

def CacheMode.name : CacheMode → String
  | .writeback => "writeback"
  | .direct => "none"

inductive CacheHint where
  /-- Unbuffered writes where the destination takes them. -/
  | tryDirect
  | writeback
  deriving DecidableEq

namespace CacheHint

def default : CacheHint := .writeback

def name : CacheHint → String
  | .tryDirect => "TryNone"
  | .writeback => "Writeback"

/-- The hint of a text; every text that is no name of a hint means buffered writes. -/
def ofText (text : String) : CacheHint :=
  if text = "TryNone" then .tryDirect else .writeback

def ofName? (name : String) : Option CacheHint :=
  if name = "TryNone" then some .tryDirect
  else if name = "Writeback" then some .writeback
  else none

def read : Json.Reader CacheHint :=
  Json.readChoice ofName?

def parse (bytes : Bytes) : Except Json.Fault CacheHint :=
  Json.readDocument read bytes

def write (hint : CacheHint) : List Char :=
  Json.writeText hint.name

end CacheHint

end VolumeImport
