/-!
# Base 64

Four letters spell three bytes. Reading passes over every character that is no letter; a padding
sign counts only where it can complete a group, and a group that is completed so ends the text.
-/

namespace ServiceFlow.Text

/-- The six bits of a letter. -/
def base64Value? (c : Char) : Option Nat :=
  if 'A' ≤ c ∧ c ≤ 'Z' then some (c.toNat - 'A'.toNat)
  else if 'a' ≤ c ∧ c ≤ 'z' then some (c.toNat - 'a'.toNat + 26)
  else if '0' ≤ c ∧ c ≤ '9' then some (c.toNat - '0'.toNat + 52)
  else if c = '+' then some 62
  else if c = '/' then some 63
  else none

/-- The bytes of a group of two to four letters, given by their bits. -/
def base64Group (bits : List Nat) : List UInt8 :=
  let n := bits.foldl (fun n b => n * 64 + b) 0
  match bits.length with
  | 2 => [UInt8.ofNat (n / 16)]
  | 3 => [UInt8.ofNat (n / 1024), UInt8.ofNat (n / 4)]
  | 4 => [UInt8.ofNat (n / 65536), UInt8.ofNat (n / 256), UInt8.ofNat n]
  | _ => []

/-- Reads letters; `group` holds the bits of those that complete no group yet, and `pads` counts the
padding signs since the last of them. Nothing is returned when a group stays incomplete. -/
def base64From (group : List Nat) (pads : Nat) : List Char → Option (List UInt8)
  | [] => if group.isEmpty then some [] else none
  | c :: rest =>
    if c = '=' then
      if 2 ≤ group.length then
        if 4 ≤ group.length + (pads + 1) then some (base64Group group)
        else base64From group (pads + 1) rest
      else base64From group pads rest
    else match base64Value? c with
      | none => base64From group pads rest
      | some bits =>
        if group.length = 3 then
          (base64From [] 0 rest).map (base64Group (group ++ [bits]) ++ ·)
        else base64From (group ++ [bits]) 0 rest

/-- The bytes that a text spells. -/
def base64Decode (cs : List Char) : Option (List UInt8) := base64From [] 0 cs

end ServiceFlow.Text
