import ParseBench.Json.Token
import ParseBench.Text.Newlines

set_option relaxedAutoImplicit false
set_option autoImplicit false

/-!
# Internet addresses

The two notations of internet addresses that may stand for a host.

## Main definitions

* `ParseBench.Url.isIPv4` — four decimal octets.
* `ParseBench.Url.isIPv6` — up to eight groups of hexadecimal digits, one run of noughts left out.
-/

namespace ParseBench.Url

open ParseBench.Text (splitOnChar ofDigits)

/-- An octet: a decimal number up to 255 without leading noughts. -/
def isOctet (s : List Char) : Bool :=
  !s.isEmpty && s.all Char.isDigit && s.length ≤ 3 && (s.length == 1 || s.head? != some '0') &&
    ofDigits 10 (s.map Json.digitValue) ≤ 255

/-- Four octets with points between them. -/
def isIPv4 (s : List Char) : Bool :=
  let octets := splitOnChar '.' s
  octets.length == 4 && octets.all isOctet

/-- A group: one to four hexadecimal digits. -/
def isGroup (s : List Char) : Bool :=
  !s.isEmpty && s.length ≤ 4 && s.all fun c => (Json.hexValue? c).isSome

/-- The groups of an address; octets at the end stand for two groups. `none` if they are not
octets. -/
def addressGroups (s : List Char) : Option (List (List Char)) :=
  let parts := splitOnChar ':' s
  if parts.length < 3 then none
  else match parts.getLast? with
    | some last =>
      if last.contains '.' then
        if isIPv4 last then some (parts.dropLast ++ [['0'], ['0']]) else none
      else some parts
    | none => none

/-- Whether the groups before and after the run that is left out are well formed. A group at either
end of the address may be empty only next to that run. -/
def isShortened (before after : List (List Char)) : Bool :=
  let before := if before == [[]] then [] else before
  let after := if after == [[]] then [] else after
  before.all isGroup && after.all isGroup && before.length + after.length < 8

/-- An address of eight groups, of which one run may be left out. -/
def isIPv6Plain (s : List Char) : Bool :=
  match addressGroups s with
  | none => false
  | some parts =>
    let inner := (parts.drop 1).dropLast
    if parts.length > 9 then false
    else if inner.contains [] then
      (inner.filter (· == [])).length == 1 &&
        (let k := inner.idxOf [] + 1
         isShortened (parts.take k) (parts.drop (k + 1)))
    else parts.length == 8 && parts.all isGroup

/-- An address with an optional zone after a percent sign. -/
def isIPv6 (s : List Char) : Bool :=
  match s.span (· != '%') with
  | (address, []) => isIPv6Plain address
  | (address, _ :: zone) => !zone.isEmpty && !zone.contains '%' && isIPv6Plain address

end ParseBench.Url
