/-!
The hash of octets that the program runs with: SipHash under the key zero, one round for each word and
three at the end. Eight octets make a word, the lowest first. Those that are left over make the last word,
with the number of all octets on top. What is proved of the program holds with any other hash as well.
-/

namespace InstallStatus.SipHash

structure State where
  v0 : UInt64
  v1 : UInt64
  v2 : UInt64
  v3 : UInt64

def rotate (word count : UInt64) : UInt64 := word <<< count ||| word >>> (64 - count)

def mix (left right count : UInt64) : UInt64 × UInt64 :=
  (left + right, rotate right count ^^^ (left + right))

namespace State

def start : State :=
  ⟨0x736f6d6570736575, 0x646f72616e646f6d, 0x6c7967656e657261, 0x7465646279746573⟩

def round (s : State) : State :=
  let (v0, v1) := mix s.v0 s.v1 13
  let (v2, v3) := mix s.v2 s.v3 16
  let (v0, v3) := mix (rotate v0 32) v3 21
  let (v2, v1) := mix v2 v1 17
  ⟨v0, v1, rotate v2 32, v3⟩

def absorb (s : State) (word : UInt64) : State :=
  let mixed := { s with v3 := s.v3 ^^^ word }.round
  { mixed with v0 := mixed.v0 ^^^ word }

def finish (s : State) : UInt64 :=
  let last := { s with v2 := s.v2 ^^^ 0xFF }.round.round.round
  last.v0 ^^^ last.v1 ^^^ last.v2 ^^^ last.v3

end State

def wordOf (octets : List UInt8) : UInt64 :=
  octets.foldr (fun octet above => above <<< 8 ||| octet.toUInt64) 0

def absorbAll (count : UInt64) : State → List UInt8 → State
  | s, a :: b :: c :: d :: e :: f :: g :: h :: rest =>
    absorbAll count (s.absorb (wordOf [a, b, c, d, e, f, g, h])) rest
  | s, rest => s.absorb (count <<< 56 ||| wordOf rest)

def digest (octets : List UInt8) : UInt64 :=
  (absorbAll octets.length.toUInt64 .start octets).finish

example : digest [] = 0xD1FBA762150C532C := by decide +kernel

end InstallStatus.SipHash
