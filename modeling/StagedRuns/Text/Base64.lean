/-!
Bytes written in base 64: three bytes as four digits of six bits, with equals signs in place of
the digits that missing bytes would give.
-/

namespace StagedRuns.Text.Base64

def alphabet : List Char :=
  "ABCDEFGHIJKLMNOPQRSTUVWXYZabcdefghijklmnopqrstuvwxyz0123456789+/".toList

def digit (value : Nat) : Char :=
  alphabet.getD (value % 64) '='

def digits (group : Nat) : List Char :=
  [digit (group / 262144), digit (group / 4096), digit (group / 64), digit group]

def encode : List UInt8 → List Char
  | [] => []
  | [a] => (digits (a.toNat * 65536)).take 2 ++ ['=', '=']
  | [a, b] => (digits (a.toNat * 65536 + b.toNat * 256)).take 3 ++ ['=']
  | a :: b :: c :: rest =>
      digits (a.toNat * 65536 + b.toNat * 256 + c.toNat) ++ encode rest

end StagedRuns.Text.Base64
