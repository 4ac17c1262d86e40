/-!
# Base 64

Bytes written by four characters for three bytes. Characters outside the alphabet are passed over,
and nothing is read behind the padding that completes a group.
-/

set_option autoImplicit false

namespace PipelineOverride.Text

/-- The value of a character of the alphabet. -/
def sextet? (c : Char) : Option Nat :=
  if 'A' ≤ c && c ≤ 'Z' then some (c.toNat - 65)
  else if 'a' ≤ c && c ≤ 'z' then some (c.toNat - 71)
  else if '0' ≤ c && c ≤ '9' then some (c.toNat + 4)
  else if c == '+' then some 62
  else if c == '/' then some 63
  else none

/-- The bytes of a group of characters that is complete or padded. -/
def groupBytes (group : List Nat) : List UInt8 :=
  match group with
  | [a, b] => [UInt8.ofNat (a * 4 + b / 16)]
  | [a, b, c] => [UInt8.ofNat (a * 4 + b / 16), UInt8.ofNat (b % 16 * 16 + c / 4)]
  | [a, b, c, d] =>
    [UInt8.ofNat (a * 4 + b / 16), UInt8.ofNat (b % 16 * 16 + c / 4),
      UInt8.ofNat (c % 4 * 64 + d)]
  | _ => []

/-- The bytes that characters write, after the characters of an open group and the padding that
came since the last of them. -/
def base64From? (group : List Nat) (padding : Nat) : List Char → Option (List UInt8)
  | [] => if group.isEmpty then some [] else none
  | c :: rest =>
    if c == '=' then
      if 2 ≤ group.length then
        if 4 ≤ group.length + padding + 1 then some (groupBytes group)
        else base64From? group (padding + 1) rest
      else base64From? group padding rest
    else
      match sextet? c with
      | none => base64From? group padding rest
      | some value =>
        let group := group ++ [value]
        if group.length = 4 then
          (base64From? [] 0 rest).map fun bytes => groupBytes group ++ bytes
        else base64From? group 0 rest

/-- The bytes that a text writes in base 64. -/
def base64? (s : String) : Option (List UInt8) :=
  base64From? [] 0 s.toList

end PipelineOverride.Text
