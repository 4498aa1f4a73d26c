import FirstAgent.Python.Partition

/-! # Internet Addresses

    `ipaddress.ip_address` of the standard library: dotted quads without leading
    zeros, IPv6 texts with one `::`, an embedded dotted quad and a scope, and
    the address blocks its properties (`is_private`, `is_global`, …) go by. -/

open PyText

/-- `IPv4Address` and `IPv6Address`. -/
inductive IpAddress where
  | v4 (ip : Nat)
  | v6 (ip : Nat) (scope_id : Option (List Char))
  deriving DecidableEq

namespace IpAddress

/-! ### Dotted quads -/

/-- `str.isdigit` on ASCII text, empty text excluded. -/
def ascii_digits (cs : List Char) : Bool :=
  !cs.isEmpty && cs.all fun c => 48 ≤ c.toNat && c.toNat ≤ 57

/-- `int(text, 10)` of ASCII digits. -/
def decimal (cs : List Char) : Nat :=
  cs.foldl (fun n c => 10 * n + (c.toNat - 48)) 0

/-- `_parse_octet`; `none` is its `ValueError`. -/
def parse_octet (octet : List Char) : Option Nat :=
  if !ascii_digits octet then none
  else if octet.length > 3 then none
  else if octet ≠ ['0'] ∧ octet.head? = some '0' then none
  else if decimal octet > 255 then none
  else some (decimal octet)

/-- `int.from_bytes(parts, "big")` in digits of `base`. -/
def join_digits (base : Nat) (digits : List Nat) : Nat :=
  digits.foldl (fun n d => base * n + d) 0

/-- `IPv4Address._ip_int_from_string`. -/
def v4_from_string (cs : List Char) : Option Nat :=
  let octets := split_chars '.' cs
  if octets.length ≠ 4 then none
  else (octets.mapM parse_octet).map (join_digits 256)

/-! ### IPv6 texts -/

/-- One of `_HEX_DIGITS`, with its value. -/
def hex_value (c : Char) : Option Nat :=
  let n := c.toNat
  if 48 ≤ n && n ≤ 57 then some (n - 48)
  else if 97 ≤ n && n ≤ 102 then some (n - 87)
  else if 65 ≤ n && n ≤ 70 then some (n - 55)
  else none

/-- `_parse_hextet`: one to four hexadecimal digits. -/
def parse_hextet (hextet : List Char) : Option Nat :=
  if hextet = [] ∨ hextet.length > 4 then none
  else (hextet.mapM hex_value).map (join_digits 16)

/-- `'%x' % n`. -/
def hex (n : Nat) : List Char := Nat.toDigits 16 n

/-- A dotted quad at the end is read as two hextets. -/
def expand_quad (parts : List (List Char)) : Option (List (List Char)) :=
  match parts.getLast? with
  | none      => some parts
  | some last =>
    if '.' ∈ last then
      (v4_from_string last).map fun ip =>
        parts.dropLast ++ [hex (ip / 65536 % 65536), hex (ip % 65536)]
    else some parts

/-- The places of an empty part between the first and the last one. -/
def skip_indices (parts : List (List Char)) : List Nat :=
  (List.range parts.length).filter fun i =>
    0 < i && i + 1 < parts.length && parts[i]?.any List.isEmpty

/-- How many parts stand before and behind `::`. -/
structure Layout where
  parts_hi : Nat
  parts_lo : Nat

/-- The layout of a text with `::` at `skip_index`. -/
def skipped_layout (parts : List (List Char)) (skip_index : Nat) : Option Layout :=
  let first_empty := parts.head?.any List.isEmpty
  let last_empty := parts.getLast?.any List.isEmpty
  let parts_hi := if first_empty then skip_index - 1 else skip_index
  let parts_lo :=
    if last_empty then parts.length - skip_index - 1 - 1 else parts.length - skip_index - 1
  if first_empty ∧ parts_hi ≠ 0 then none
  else if last_empty ∧ parts_lo ≠ 0 then none
  else if 8 < parts_hi + parts_lo + 1 then none
  else some { parts_hi, parts_lo }

/-- The layout of a text without `::`. -/
def full_layout (parts : List (List Char)) : Option Layout :=
  if parts.length ≠ 8 then none
  else if parts.head?.any List.isEmpty ∨ parts.getLast?.any List.isEmpty then none
  else some { parts_hi := 8, parts_lo := 0 }

def layout (parts : List (List Char)) : Option Layout :=
  match skip_indices parts with
  | []  => full_layout parts
  | [i] => skipped_layout parts i
  | _   => none

/-- The eight hextets of a text laid out. -/
def read_hextets (parts : List (List Char)) (l : Layout) : Option (List Nat) :=
  match (parts.take l.parts_hi).mapM parse_hextet,
      (parts.drop (parts.length - l.parts_lo)).mapM parse_hextet with
  | some hi, some lo => some (hi ++ List.replicate (8 - (l.parts_hi + l.parts_lo)) 0 ++ lo)
  | _, _             => none

/-- `IPv6Address._ip_int_from_string`. -/
def v6_from_string (cs : List Char) : Option Nat :=
  let parts := split_chars ':' cs
  if parts.length < 3 then none
  else
    match expand_quad parts with
    | none       => none
    | some parts =>
      if parts.length > 9 then none
      else
        match layout parts with
        | none   => none
        | some l => (read_hextets parts l).map (join_digits 65536)

/-- `_split_scope_id`. -/
def split_scope_id (cs : List Char) : Option (List Char × Option (List Char)) :=
  match partition '%' cs with
  | (addr, false, _)       => some (addr, none)
  | (addr, true, scope_id) =>
    if scope_id = [] ∨ '%' ∈ scope_id then none else some (addr, some scope_id)

/-- `IPv6Address(text)`, for a text without `/`. -/
def v6_address (cs : List Char) : Option IpAddress :=
  match split_scope_id cs with
  | none                  => none
  | some (addr, scope_id) => (v6_from_string addr).map fun ip => .v6 ip scope_id

/-- `ip_address(text)`; `none` is its `ValueError`. -/
def ip_address (cs : List Char) : Option IpAddress :=
  if '/' ∈ cs then none
  else
    match v4_from_string cs with
    | some ip => some (.v4 ip)
    | none    => v6_address cs

/-! ### Address blocks -/

/-- A block: the addresses that share the first `length` bits of `base`. -/
structure Network where
  base : Nat
  length : Nat

/-- `address in network`, for addresses of `bits` bits. -/
def Network.contains (n : Network) (bits ip : Nat) : Bool :=
  ip / 2 ^ (bits - n.length) == n.base / 2 ^ (bits - n.length)

/-- The block of a dotted quad. -/
def quad (octets : List Nat) (length : Nat) : Network :=
  { base := join_digits 256 octets, length }

/-- The block of the leading hextets of an address; the others are zero. -/
def block (hextets : List Nat) (length : Nat) : Network :=
  { base := join_digits 65536 (hextets ++ List.replicate (8 - hextets.length) 0), length }

/-- `_IPv4Constants._private_networks`. -/
def v4_private_networks : List Network :=
  [quad [0, 0, 0, 0] 8, quad [10, 0, 0, 0] 8, quad [127, 0, 0, 0] 8, quad [169, 254, 0, 0] 16,
    quad [172, 16, 0, 0] 12, quad [192, 0, 0, 0] 24, quad [192, 0, 0, 170] 31,
    quad [192, 0, 2, 0] 24, quad [192, 168, 0, 0] 16, quad [198, 18, 0, 0] 15,
    quad [198, 51, 100, 0] 24, quad [203, 0, 113, 0] 24, quad [240, 0, 0, 0] 4,
    quad [255, 255, 255, 255] 32]

/-- `_IPv4Constants._private_networks_exceptions`. -/
def v4_private_exceptions : List Network :=
  [quad [192, 0, 0, 9] 32, quad [192, 0, 0, 10] 32]

/-- `_IPv6Constants._private_networks`. -/
def v6_private_networks : List Network :=
  [block [0, 0, 0, 0, 0, 0, 0, 1] 128, block [] 128, block [0, 0, 0, 0, 0, 0xFFFF] 96,
    block [0x64, 0xFF9B, 1] 48, block [0x100] 64, block [0x2001] 23, block [0x2001, 0xDB8] 32,
    block [0x2002] 16, block [0xFC00] 7, block [0xFE80] 10]

/-- `_IPv6Constants._private_networks_exceptions`. -/
def v6_private_exceptions : List Network :=
  [block [0x2001, 1, 0, 0, 0, 0, 0, 1] 128, block [0x2001, 1, 0, 0, 0, 0, 0, 2] 128,
    block [0x2001, 3] 32, block [0x2001, 4, 0x112] 48, block [0x2001, 0x20] 28,
    block [0x2001, 0x30] 28]

/-- `_IPv6Constants._reserved_networks`. -/
def v6_reserved_networks : List Network :=
  [block [0] 8, block [0x100] 8, block [0x200] 7, block [0x400] 6, block [0x800] 5,
    block [0x1000] 4, block [0x4000] 3, block [0x6000] 3, block [0x8000] 3, block [0xA000] 3,
    block [0xC000] 3, block [0xE000] 4, block [0xF000] 5, block [0xF800] 6, block [0xFE00] 9]

def in_networks (bits ip : Nat) (networks : List Network) : Bool :=
  networks.any fun n => n.contains bits ip

/-- `IPv4Address.is_private`. -/
def v4_is_private (ip : Nat) : Bool :=
  in_networks 32 ip v4_private_networks && !in_networks 32 ip v4_private_exceptions

/-- `ipv4_mapped`: the low half of an address of `::ffff:0:0/96`. -/
def ipv4_mapped : IpAddress → Option IpAddress
  | .v4 _    => none
  | .v6 ip _ => if ip / 2 ^ 32 = 0xFFFF then some (.v4 (ip % 2 ^ 32)) else none

def is_private : IpAddress → Bool
  | .v4 ip   => v4_is_private ip
  | .v6 ip _ =>
    if ip / 2 ^ 32 = 0xFFFF then v4_is_private (ip % 2 ^ 32)
    else in_networks 128 ip v6_private_networks && !in_networks 128 ip v6_private_exceptions

def is_global (a : IpAddress) : Bool :=
  match a with
  | .v4 ip  => !(quad [100, 64, 0, 0] 10).contains 32 ip && !a.is_private
  | .v6 _ _ => !a.is_private

def is_loopback : IpAddress → Bool
  | .v4 ip   => (quad [127, 0, 0, 0] 8).contains 32 ip
  | .v6 ip _ => ip == 1

def is_link_local : IpAddress → Bool
  | .v4 ip   => (quad [169, 254, 0, 0] 16).contains 32 ip
  | .v6 ip _ => (block [0xFE80] 10).contains 128 ip

def is_multicast : IpAddress → Bool
  | .v4 ip   => (quad [224, 0, 0, 0] 4).contains 32 ip
  | .v6 ip _ => (block [0xFF00] 8).contains 128 ip

def is_unspecified : IpAddress → Bool
  | .v4 ip   => ip == 0
  | .v6 ip _ => ip == 0

def is_reserved : IpAddress → Bool
  | .v4 ip   => (quad [240, 0, 0, 0] 4).contains 32 ip
  | .v6 ip _ => in_networks 128 ip v6_reserved_networks

end IpAddress
