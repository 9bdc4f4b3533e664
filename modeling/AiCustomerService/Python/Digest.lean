import AiCustomerService.Python.Json
import Mathlib.Data.List.Sort
import Mathlib.Data.Nat.Digits.Defs

/-!
# Canonical JSON text and its digest

Deduplication keys and conclusion fingerprints are
`hashlib.sha256(json.dumps(value, ensure_ascii=False, sort_keys=True,
separators=(",", ":")).encode("utf-8")).hexdigest()`.
-/

namespace AiCustomerService

open Support

/-! ## `json.dumps` -/

/-- The lower-case hexadecimal digit of `n < 16`. -/
def hexDigit (n : Nat) : Char := Nat.digitChar n

/-- `n` in hexadecimal, padded to `width` digits. -/
def toHex (width n : Nat) : String :=
  String.ofList ((List.range width).reverse.map fun i => hexDigit (n / 16 ^ i % 16))

/-- One character inside a JSON string. -/
def escapeChar (c : Char) : String :=
  if c = '"' then "\\\""
  else if c = '\\' then "\\\\"
  else if c = '\n' then "\\n"
  else if c = '\r' then "\\r"
  else if c = '\t' then "\\t"
  else if c.toNat = 8 then "\\b"
  else if c.toNat = 12 then "\\f"
  else if c.toNat < 32 then "\\u" ++ toHex 4 c.toNat
  else c.toString

/-- A JSON string literal. -/
def quote (s : String) : String := "\"" ++ String.join (s.toList.map escapeChar) ++ "\""

/-- The entries of an object by increasing key. -/
def sortedEntries (entries : List (String × String)) : List (String × String) :=
  entries.insertionSort fun a b => a.1 ≤ b.1

mutual

/-- `json.dumps(value, ensure_ascii=False, sort_keys=True, separators=(",", ":"))`. -/
def dumpsSorted : Json → String
  | .null => "null"
  | .bool true => "true"
  | .bool false => "false"
  | .int n => toString n
  | .float _ repr => repr
  | .str s => quote s
  | .arr items => "[" ++ ",".intercalate (dumpsItems items) ++ "]"
  | .obj ⟨entries⟩ =>
      "\x7b" ++
        ",".intercalate
          ((sortedEntries (dumpsEntries entries)).map fun entry =>
            quote entry.1 ++ ":" ++ entry.2) ++ "\x7d"

def dumpsItems : List Json → List String
  | [] => []
  | item :: rest => dumpsSorted item :: dumpsItems rest

def dumpsEntries : List (String × Json) → List (String × String)
  | [] => []
  | (key, value) :: rest => (key, dumpsSorted value) :: dumpsEntries rest

end

/-! ## SHA-256 -/

/-- The first 32 bits of the fractional parts of the cube roots of the first 64
primes. -/
def sha256RoundConstants : List UInt32 :=
  [0x428a2f98, 0x71374491, 0xb5c0fbcf, 0xe9b5dba5, 0x3956c25b, 0x59f111f1, 0x923f82a4, 0xab1c5ed5,
   0xd807aa98, 0x12835b01, 0x243185be, 0x550c7dc3, 0x72be5d74, 0x80deb1fe, 0x9bdc06a7, 0xc19bf174,
   0xe49b69c1, 0xefbe4786, 0x0fc19dc6, 0x240ca1cc, 0x2de92c6f, 0x4a7484aa, 0x5cb0a9dc, 0x76f988da,
   0x983e5152, 0xa831c66d, 0xb00327c8, 0xbf597fc7, 0xc6e00bf3, 0xd5a79147, 0x06ca6351, 0x14292967,
   0x27b70a85, 0x2e1b2138, 0x4d2c6dfc, 0x53380d13, 0x650a7354, 0x766a0abb, 0x81c2c92e, 0x92722c85,
   0xa2bfe8a1, 0xa81a664b, 0xc24b8b70, 0xc76c51a3, 0xd192e819, 0xd6990624, 0xf40e3585, 0x106aa070,
   0x19a4c116, 0x1e376c08, 0x2748774c, 0x34b0bcb5, 0x391c0cb3, 0x4ed8aa4a, 0x5b9cca4f, 0x682e6ff3,
   0x748f82ee, 0x78a5636f, 0x84c87814, 0x8cc70208, 0x90befffa, 0xa4506ceb, 0xbef9a3f7, 0xc67178f2]

/-- The eight working variables. -/
structure Sha256State where
  a : UInt32
  b : UInt32
  c : UInt32
  d : UInt32
  e : UInt32
  f : UInt32
  g : UInt32
  h : UInt32

/-- The initial hash value. -/
def Sha256State.initial : Sha256State :=
  ⟨0x6a09e667, 0xbb67ae85, 0x3c6ef372, 0xa54ff53a, 0x510e527f, 0x9b05688c, 0x1f83d9ab, 0x5be0cd19⟩

def rotr (x n : UInt32) : UInt32 := (x >>> n) ||| (x <<< (32 - n))

/-- One round with message word `w` and round constant `k`. -/
def Sha256State.round (s : Sha256State) (w k : UInt32) : Sha256State :=
  let s1 := rotr s.e 6 ^^^ rotr s.e 11 ^^^ rotr s.e 25
  let ch := (s.e &&& s.f) ^^^ (~~~s.e &&& s.g)
  let t1 := s.h + s1 + ch + k + w
  let s0 := rotr s.a 2 ^^^ rotr s.a 13 ^^^ rotr s.a 22
  let maj := (s.a &&& s.b) ^^^ (s.a &&& s.c) ^^^ (s.b &&& s.c)
  ⟨t1 + (s0 + maj), s.a, s.b, s.c, s.d + t1, s.e, s.f, s.g⟩

/-- The word after sixteen message words, the newest of which comes first. -/
def nextWord (newest : List UInt32) : UInt32 :=
  let w15 := newest.getD 14 0
  let w2 := newest.getD 1 0
  let s0 := rotr w15 7 ^^^ rotr w15 18 ^^^ (w15 >>> 3)
  let s1 := rotr w2 17 ^^^ rotr w2 19 ^^^ (w2 >>> 10)
  newest.getD 15 0 + s0 + newest.getD 6 0 + s1

/-- The message schedule, newest word first. -/
def extendSchedule : Nat → List UInt32 → List UInt32
  | 0, newest => newest
  | n + 1, newest => extendSchedule n (nextWord newest :: newest)

/-- Process one block of sixteen words. -/
def Sha256State.compress (s : Sha256State) (block : List UInt32) : Sha256State :=
  let schedule := (extendSchedule 48 block.reverse).reverse
  let t := (schedule.zip sha256RoundConstants).foldl (fun s wk => s.round wk.1 wk.2) s
  ⟨s.a + t.a, s.b + t.b, s.c + t.c, s.d + t.d, s.e + t.e, s.f + t.f, s.g + t.g, s.h + t.h⟩

/-- The bytes of a text in UTF-8, padded to a whole number of blocks. -/
def sha256Pad (bytes : List UInt8) : List UInt8 :=
  let zeros := (119 - bytes.length % 64) % 64
  let bits := bytes.length * 8
  bytes ++ 0x80 :: List.replicate zeros 0 ++
    (List.range 8).reverse.map fun i => UInt8.ofNat (bits / 256 ^ i)

/-- Big-endian words. -/
def bigEndianWords : List UInt8 → List UInt32
  | b0 :: b1 :: b2 :: b3 :: rest =>
      UInt32.ofNat (((b0.toNat * 256 + b1.toNat) * 256 + b2.toNat) * 256 + b3.toNat) ::
        bigEndianWords rest
  | _ => []

/-- `hashlib.sha256(text.encode("utf-8")).hexdigest()`. -/
def sha256Hex (text : String) : String :=
  let words := bigEndianWords (sha256Pad text.toUTF8.toList)
  let blocks := (List.range (words.length / 16)).map fun i => (words.drop (16 * i)).take 16
  let s := blocks.foldl Sha256State.compress Sha256State.initial
  String.join ([s.a, s.b, s.c, s.d, s.e, s.f, s.g, s.h].map fun w => toHex 8 w.toNat)

end AiCustomerService
