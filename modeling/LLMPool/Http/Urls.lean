import LLMPool.Http.PercentEncoding
import Mathlib.Data.List.DropRight

/-! How a text is read as an `http` URL: what is trimmed and removed, the segments of the path
with its dot segments resolved, and the query. -/
namespace Http

def isC0OrSpace (b : UInt8) : Bool := b ≤ 0x20

def isTabOrNewline (b : UInt8) : Bool := b = 9 || b = 10 || b = 13

def isSlash (b : UInt8) : Bool := b = byte '/' || b = byte '\\'

def lowerByte (b : UInt8) : UInt8 := if 65 ≤ b ∧ b ≤ 90 then b + 32 else b

def pathSet (b : UInt8) : Bool := b ≤ 0x20 || 0x7F ≤ b || ("\"#<>?^`\x7b\x7d".toList.map byte).contains b

def querySet (b : UInt8) : Bool := b ≤ 0x20 || 0x7F ≤ b || ("\"#<>'".toList.map byte).contains b

def isSingleDot (segment : Bytes) : Bool :=
  (segment.map lowerByte) = ".".toList.map byte || (segment.map lowerByte) = "%2e".toList.map byte

def isDoubleDot (segment : Bytes) : Bool :=
  ["..", ".%2e", "%2e.", "%2e%2e"].any (fun dots => segment.map lowerByte = dots.toList.map byte)

/-- A segment that has been read, with the slash behind it or without. -/
def pushSegment (slash : Bool) (path : List Bytes) (text : Bytes) : List Bytes :=
  let segment := percentEncode pathSet text
  if isDoubleDot segment then if slash then path.dropLast else path.dropLast ++ [[]]
  else if isSingleDot segment then if slash then path else path ++ [[]]
  else path ++ [segment]

/-- The path ends with the text, with a query or with a fragment. -/
def readPath (path : List Bytes) (segment : Bytes) : Bytes → List Bytes
  | [] => pushSegment false path segment
  | b :: rest =>
      if isSlash b then readPath (pushSegment true path segment) [] rest
      else if b = byte '?' ∨ b = byte '#' then pushSegment false path segment
      else readPath path (segment ++ [b]) rest

/-- The path of a text that goes on behind a slash. -/
def readDirectory (path : List Bytes) (segment : Bytes) : Bytes → List Bytes
  | [] => pushSegment true path segment
  | b :: rest =>
      if isSlash b then readDirectory (pushSegment true path segment) [] rest
      else readDirectory path (segment ++ [b]) rest

/-- The segments of a text, with its own bytes. -/
def segmentsFrom (segment : Bytes) : Bytes → List Bytes
  | [] => [segment]
  | b :: rest => if isSlash b then segment :: segmentsFrom [] rest else segmentsFrom (segment ++ [b]) rest

def segments (text : Bytes) : List Bytes := segmentsFrom [] text

def endsPath (b : UInt8) : Bool := b = byte '?' || b = byte '#'

def readQuery (text : Bytes) : Option Bytes :=
  match text.dropWhile (fun b => !endsPath b) with
  | [] => none
  | b :: rest =>
      if b = byte '?' then some (percentEncode querySet (rest.takeWhile (fun b => b ≠ byte '#'))) else none

def pathText (path : List Bytes) : Bytes := path.flatMap (fun segment => byte '/' :: segment)

structure Url (α : Type) where
  scheme : Bytes
  host : α
  path : List Bytes
  query : Option Bytes

/-- A text without what is trimmed at its ends and removed from it. -/
def clean (text : Bytes) : Bytes :=
  ((text.dropWhile isC0OrSpace).rdropWhile isC0OrSpace).filter (fun b => !isTabOrNewline b)

def beforePath (b : UInt8) : Bool := !isSlash b && !endsPath b

/-- What follows the scheme and the slashes behind it. -/
def afterScheme (text : Bytes) : Bytes := ((text.dropWhile (fun b => b ≠ byte ':')).drop 1).dropWhile isSlash

def withoutSlash : Bytes → Bytes
  | [] => []
  | b :: rest => if isSlash b then rest else b :: rest

/-- A text that has been cleaned, read as an absolute URL of `http` or `https`; `host` reads
the host and the port. -/
def parseClean (host : Bytes → Option α) (text : Bytes) : Option (Url α) :=
  let scheme := (text.takeWhile (fun b => b ≠ byte ':')).map lowerByte
  let tail := (afterScheme text).dropWhile beforePath
  if scheme = "http".toList.map byte ∨ scheme = "https".toList.map byte then
    (host ((afterScheme text).takeWhile beforePath)).map (fun host =>
      ⟨scheme, host, readPath [] [] (withoutSlash tail), readQuery tail⟩)
  else none

def parseUrl (host : Bytes → Option α) (text : Bytes) : Option (Url α) := parseClean host (clean text)

end Http
