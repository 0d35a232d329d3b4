import LoadProbe.Text.Digits
import LoadProbe.Text.Layout

/-!
# Numeric addresses

Addresses of version 4, whose parts may be written in base 8, 10 or 16 and whose last part may
stand for several bytes, and addresses of version 6.

* `Url.endsInNumber` says whether a host is meant as an address of version 4.
* `Url.isIpv4` and `Url.isIpv6` accept addresses.
-/

namespace LoadProbe.Url

open LoadProbe.Text

/-- A part of an address of version 4: the number it spells. -/
def ipv4Number? : List Char → Option Nat
  | [] => none
  | '0' :: 'x' :: digits | '0' :: 'X' :: digits =>
      if digits.isEmpty then some 0 else natOfBase? 16 digits
  | '0' :: c :: digits => natOfBase? 8 (c :: digits)
  | digits => natOfBase? 10 digits

/-- The parts of a host; one dot at the end does not count. -/
def ipv4Parts (host : List Char) : List (List Char) :=
  let parts := splitAt '.' host
  if parts.getLast? = some [] then parts.dropLast else parts

/-- Whether the last part of a host is a number, so that the host can only be an address. -/
def endsInNumber (host : List Char) : Bool :=
  match (ipv4Parts host).getLast? with
  | some last => (!last.isEmpty && last.all Char.isDigit) || (ipv4Number? last).isSome
  | none => false

/-- Whether a host is an address of version 4: at most four numbers, all but the last of one byte,
the last of the bytes that are left. -/
def isIpv4 (host : List Char) : Bool :=
  match (ipv4Parts host).mapM ipv4Number? with
  | some numbers =>
      match numbers.reverse with
      | last :: others =>
          others.length < 4 && others.all (· < 256)
            && decide (last < Nat.pow 256 (4 - others.length))
      | [] => false
  | none => false

/-- Whether the digits are one byte in base ten, without leading zeros. -/
def isDecimalByte (digits : List Char) : Bool :=
  digits.all Char.isDigit && (digits = ['0'] || digits.head?.any (· ≠ '0'))
    && decide (natOfDigits digits < 256)

/-- Whether the text is four decimal bytes with dots between them. -/
def isDottedQuad (cs : List Char) : Bool :=
  let parts := splitAt '.' cs
  parts.length = 4 && parts.all isDecimalByte

/-- Whether the text is the rest of an address of version 6 with `room` groups of 16 bits still to
come; fewer are enough once some were left out.  The last two may be written as a dotted quad. -/
def isIpv6Rest : Nat → Bool → List Char → Bool
  | room, leftOut, [] => leftOut || room = 0
  | 0, _, _ :: _ => false
  | room + 1, leftOut, ':' :: cs => !leftOut && isIpv6Rest room true cs
  | room + 1, leftOut, cs =>
      let digits := (cs.take 4).takeWhile fun c => (digitValue? 16 c).isSome
      match cs.drop digits.length with
      | [] => isIpv6Rest room leftOut []
      | '.' :: _ => !digits.isEmpty && isDottedQuad cs && (room = 1 || (leftOut && 1 ≤ room))
      | ':' :: rest => !rest.isEmpty && isIpv6Rest room leftOut rest
      | _ => false

/-- Whether the text is an address of version 6. -/
def isIpv6 : List Char → Bool
  | ':' :: ':' :: cs => isIpv6Rest 7 true cs
  | ':' :: _ => false
  | cs => 2 ≤ cs.length && isIpv6Rest 8 false cs

end LoadProbe.Url
