import Reporting.Codec.Base64
import Reporting.Codec.SipHash
import Reporting.Error
import Reporting.Json.Chosen
import Reporting.Json.Printer
import Reporting.Page.Basic
import Reporting.Wire.Request

/-!
# Page tokens

A token names the next page of a report and, by a hash of the request, the request that it was given
out for. Its text is a small document in letters that are safe in addresses.
-/

namespace Reporting

structure PageToken where
  offset : UInt64
  requestHash : UInt64
deriving DecidableEq, Repr

namespace PageToken

def toJson (t : PageToken) : Json :=
  .object [("offset", .ofNat t.offset.toNat), ("query_hash", .ofNat t.requestHash.toNat)]

def fieldNames : List String := ["offset", "query_hash"]

def ofJson? (j : Json) : Option PageToken := do
  let fs ← Wire.fields? fieldNames j
  return {
    offset := ← Wire.required "offset" Wire.uint64? fs
    requestHash := ← Wire.required "query_hash" Wire.uint64? fs }

def encode (t : PageToken) : String :=
  String.ofList (Base64.encode t.toJson.toText.toUTF8.toList)

def encodingFailure : ReportError := .validation "invalid page token encoding"

def textFailure : ReportError := .validation "invalid page token UTF-8"

def formatFailure : ReportError := .validation "invalid page token format"

def decode (s : String) : Except ReportError PageToken := do
  let bytes ← (Base64.decode? s.toList).elim (.error encodingFailure) .ok
  let text ← (String.fromUTF8? ⟨bytes.toArray⟩).elim (.error textFailure) .ok
  ((Json.chosen? fieldNames text).bind ofJson?).elim (.error formatFailure) .ok

def mismatch : ReportError :=
  .validation "page token does not match current request - the filters may have changed"

def check (t : PageToken) (hash : UInt64) : Except ReportError Unit :=
  if t.requestHash = hash then .ok () else .error mismatch

end PageToken

namespace Request

/-- The eight bytes of a number, the least significant one first. -/
def wordBytes (n : Nat) : List UInt8 := (List.range 8).map fun i => UInt8.ofNat (n / 256 ^ i)

/-- The eight bytes of a signed number in two's complement. -/
def signedBytes (i : Int) : List UInt8 := wordBytes (i % 2 ^ 64).toNat

/-- What a request asks for apart from the place of the page. -/
def hashedBytes (r : Request) : List UInt8 :=
  (match r.reportId with
    | none => wordBytes 0
    | some id => wordBytes 1 ++ signedBytes id)
  ++ (Json.ofList Filter.toJson r.filters).toText.toUTF8.toList ++ [0xff]
  ++ signedBytes r.limit

/-- The hash by which the pages of one request belong together. -/
def hash (r : Request) : UInt64 := SipHash.hash r.hashedBytes

end Request

namespace Page

/-- The token of the next page, as long as rows are left. -/
def nextToken? (total hash : UInt64) : Page → Option PageToken
  | .window limit offset =>
    if saturatingAdd offset limit < total then some ⟨offset + limit, hash⟩ else none
  | .unlimited => none

end Page

end Reporting
