import CveManagement.Payload.Python

/-!
# Addresses and networks

What `app/core/ssrf.py` uses of the module `ipaddress`: addresses of the two families, their
parsers, and networks, which hold an address when it agrees with theirs under the mask. An IPv6
address of the form `::ffff:a.b.c.d` maps an IPv4 address
(`CveManagement.IpAddress.ipv4Mapped`), and `in` knows nothing of that.
-/

namespace CveManagement

/-- An `IPv4Address` or an `IPv6Address`. -/
inductive IpAddress
  | v4 (ip : BitVec 32)
  | v6 (ip : BitVec 128) (scopeId : Option Text)
  deriving DecidableEq

/-! ### Networks -/

/-- An `IPv4Network` or an `IPv6Network`. -/
structure IpNetwork (w : ℕ) where
  networkAddress : BitVec w
  prefixlen : ℕ

namespace IpNetwork

variable {w : ℕ}

/-- The mask: the leading `prefixlen` bits. -/
def netmask (net : IpNetwork w) : BitVec w := BitVec.allOnes w <<< (w - net.prefixlen)

/-- `ip in net`. -/
def contains (net : IpNetwork w) (ip : BitVec w) : Bool :=
  ip &&& net.netmask == net.networkAddress

/-- **An address of a network has the bits of the network** under the mask. -/
theorem getLsbD_of_contains {net : IpNetwork w} {ip : BitVec w} (h : net.contains ip = true)
    {i : ℕ} (hi : net.netmask.getLsbD i = true) :
    ip.getLsbD i = net.networkAddress.getLsbD i := by
  have hip : ip &&& net.netmask = net.networkAddress := by simpa [contains] using h
  rw [← hip, BitVec.getLsbD_and, hi, Bool.and_true]

end IpNetwork

/-! ### IPv4 in IPv6 -/

namespace IpAddress

/-- The IPv4 address that an IPv6 address maps. -/
def ipv4Mapped (ip : BitVec 128) : Option (BitVec 32) :=
  if ip >>> 32 = 0xffff#128 then some (ip.truncate 32) else none

/-- **The destination that an address denotes**: for an IPv4-mapped IPv6 address, the IPv4
address. -/
def destination : IpAddress → IpAddress
  | .v4 ip => .v4 ip
  | .v6 ip scopeId => match ipv4Mapped ip with
    | some mapped => .v4 mapped
    | none => .v6 ip scopeId

/-- The bits of an IPv4-mapped address above the IPv4 address. -/
theorem getLsbD_of_ipv4Mapped {ip : BitVec 128} (h : ip >>> 32 = 0xffff#128) (i : ℕ) :
    ip.getLsbD (32 + i) = (0xffff#128).getLsbD i := by
  rw [← h, BitVec.getLsbD_ushiftRight]

/-! ### Texts -/

/-- The value of a run of digits in a base. -/
def ofDigits (base : ℕ) (ds : List ℕ) : ℕ := ds.foldl (fun n d => n * base + d) 0

/-- `_parse_octet`. -/
def parseOctet (octet : Text) : Option ℕ := do
  let ds ← octet.mapM asciiDigit
  if octet = [] ∨ 3 < octet.length then none
  else if octet ≠ ['0'] ∧ octet.head? = some '0' then none
  else
    let value := ofDigits 10 ds
    if 255 < value then none else some value

/-- `IPv4Address`, of a text. -/
def parseV4 (text : Text) : Option (BitVec 32) :=
  match text.splitOn '.' with
  | [a, b, c, d] => do
    let a ← parseOctet a
    let b ← parseOctet b
    let c ← parseOctet c
    let d ← parseOctet d
    some (BitVec.ofNat 32 (ofDigits 256 [a, b, c, d]))
  | _ => none

/-- The value of a hexadecimal digit. -/
def hexDigit (c : Char) : Option ℕ :=
  if c.isDigit then some (c.toNat - 48)
  else if 'a' ≤ c ∧ c ≤ 'f' then some (c.toNat - 87)
  else if 'A' ≤ c ∧ c ≤ 'F' then some (c.toNat - 55)
  else none

/-- `_parse_hextet`; `int` refuses an empty text. -/
def parseHextet (hextet : Text) : Option ℕ := do
  let ds ← hextet.mapM hexDigit
  if hextet = [] ∨ 4 < hextet.length then none else some (ofDigits 16 ds)

/-- The last part, when it has the form of an IPv4 address, as the two hextets that it stands
for. -/
def expandSuffix (parts : List Text) : Option (List (Text ⊕ ℕ)) :=
  match parts.getLast? with
  | none => none
  | some part =>
    if part.contains '.' then
      (parseV4 part).map fun ip =>
        parts.dropLast.map .inl ++ [.inr (ip.toNat / 65536), .inr (ip.toNat % 65536)]
    else some (parts.map .inl)

/-- The value of a part. -/
def partValue : Text ⊕ ℕ → Option ℕ
  | .inl hextet => parseHextet hextet
  | .inr value => some value

/-- The parts between the first one and the last one that are empty, by their positions. -/
def emptyInside (parts : List (Text ⊕ ℕ)) : List ℕ :=
  (List.range parts.length).filter fun i =>
    0 < i && i + 1 < parts.length && parts[i]? == some (.inl [])

/-- The hextets of an IPv6 address, those that `::` leaves out included. -/
def hextets (parts : List (Text ⊕ ℕ)) : Option (List ℕ) :=
  match emptyInside parts with
  | [] => if parts.length = 8 then parts.mapM partValue else none
  | [i] =>
    let hi := parts.take i
    let lo := parts.drop (i + 1)
    -- at either end of the address, `::` makes one more empty part, which stands alone
    let hi' := if hi = [.inl []] then [] else hi
    let lo' := if lo = [.inl []] then [] else lo
    if 8 ≤ hi'.length + lo'.length then none
    else do
      let his ← hi'.mapM partValue
      let los ← lo'.mapM partValue
      some (his ++ List.replicate (8 - (hi'.length + lo'.length)) 0 ++ los)
  | _ => none

/-- `IPv6Address`, of a text without its scope. -/
def parseV6 (text : Text) : Option (BitVec 128) := do
  let parts := text.splitOn ':'
  if parts.length < 3 then none
  else
    let parts ← expandSuffix parts
    if 9 < parts.length then none
    else
      let values ← hextets parts
      some (BitVec.ofNat 128 (ofDigits 65536 values))

/-- **`ipaddress.ip_address`**; `none` is a `ValueError`. -/
def ofText (text : Text) : Option IpAddress :=
  if text.contains '/' then none
  else match parseV4 text with
    | some ip => some (.v4 ip)
    | none => match text.splitOn '%' with
      | [address] => (parseV6 address).map (.v6 · none)
      | [address, scopeId] =>
        if scopeId = [] then none else (parseV6 address).map (.v6 · (some scopeId))
      | _ => none

example : ofText "93.184.216.34".toList = some (.v4 0x5db8d822#32) := by decide

example : ofText "::ffff:169.254.169.254".toList =
    some (.v6 0xffffa9fea9fe#128 none) := by decide

example : ofText "1::2::3".toList = none := by decide

end IpAddress

end CveManagement
