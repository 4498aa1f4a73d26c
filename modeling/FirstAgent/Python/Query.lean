import FirstAgent.Python.IpAddress
import FirstAgent.Python.Idna

/-! # Query Strings

    `urllib.parse.parse_qsl` with blank values kept: fields at `&`, names and
    values at the first `=`, plus signs and percent escapes decoded as UTF-8
    with replacement. -/

open PyText

namespace Urls

/-! ### Percent escapes -/

/-- `unquote_to_bytes`. -/
def unquote_to_bytes : List Char → List UInt8
  | '%' :: a :: b :: rest =>
    match IpAddress.hex_value a, IpAddress.hex_value b with
    | some x, some y => UInt8.ofNat (16 * x + y) :: unquote_to_bytes rest
    | _, _           => 0x25 :: unquote_to_bytes (a :: b :: rest)
  | c :: rest              => String.utf8EncodeChar c ++ unquote_to_bytes rest
  | []                     => []

/-- The text of a run of ASCII characters, its escapes decoded. -/
def unquote_run (run : List Char) : List Char :=
  Utf8.Decoder.decode_replace Utf8.Decoder.start (unquote_to_bytes run)

/-- `unquote`: the runs of ASCII characters are decoded one by one; `run` holds the
    characters of the run at hand in reverse. -/
def unquote_runs (run : List Char) : List Char → List Char
  | []        => unquote_run run.reverse
  | c :: rest =>
    if is_ascii_char c then unquote_runs (c :: run) rest
    else unquote_run run.reverse ++ c :: unquote_runs [] rest

/-- `unquote_plus`. -/
def unquote_plus (text : List Char) : List Char :=
  let text := text.map fun c => if c = '+' then ' ' else c
  if '%' ∈ text then unquote_runs [] text else text

/-! ### Fields -/

/-- `parse_qsl(qs, keep_blank_values=True, max_num_fields=…)`; `none` is its `ValueError`. -/
def parse_qsl (max_num_fields : Nat) (qs : List Char) : Option (List (List Char × List Char)) :=
  if qs = [] then some []
  else if max_num_fields < 1 + qs.count '&' then none
  else
    some (((split_chars '&' qs).filter fun field => !field.isEmpty).map fun field =>
      let p := partition '=' field
      (unquote_plus p.1, unquote_plus p.2.2))

end Urls
