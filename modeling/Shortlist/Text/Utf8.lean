/-! # Lossy text decoding

UTF-8 decoding that drops or marks what is not well formed. Of an ill-formed sequence the longest
beginning that could have been continued goes, and decoding continues at the octet that did not fit.
-/

namespace Shortlist.Text.Utf8

/-- What has been read of a sequence: the bits so far, how many octets are missing, and the bounds
for the next one. -/
structure Pending where
  bits : Nat
  missing : Nat
  lo : Nat
  hi : Nat

inductive Start where
  | whole (c : Char)
  | sequence (p : Pending)
  | illFormed

/-- The second octet of some sequences is bounded more tightly: overlong forms, surrogates and
code points beyond the last plane are ill formed. -/
def Start.ofOctet (b : Nat) : Start :=
  if b < 0x80 then .whole (Char.ofNat b)
  else if b < 0xC2 then .illFormed
  else if b < 0xE0 then .sequence ⟨b - 0xC0, 1, 0x80, 0xBF⟩
  else if b = 0xE0 then .sequence ⟨0, 2, 0xA0, 0xBF⟩
  else if b = 0xED then .sequence ⟨0xD, 2, 0x80, 0x9F⟩
  else if b < 0xF0 then .sequence ⟨b - 0xE0, 2, 0x80, 0xBF⟩
  else if b = 0xF0 then .sequence ⟨0, 3, 0x90, 0xBF⟩
  else if b < 0xF4 then .sequence ⟨b - 0xF0, 3, 0x80, 0xBF⟩
  else if b = 0xF4 then .sequence ⟨4, 3, 0x80, 0x8F⟩
  else .illFormed

/-- The characters that an octet completes, and what is pending after it. `mark` stands for what is
ill formed. -/
def step (mark : List Char) (pending : Option Pending) (octet : UInt8) :
    List Char × Option Pending :=
  let b := octet.toNat
  let fresh : List Char × Option Pending :=
    match Start.ofOctet b with
    | .whole c => ([c], none)
    | .sequence p => ([], some p)
    | .illFormed => (mark, none)
  match pending with
  | none => fresh
  | some p =>
    if p.lo ≤ b && b ≤ p.hi then
      let bits := p.bits * 64 + (b - 0x80)
      if p.missing ≤ 1 then ([Char.ofNat bits], none)
      else ([], some ⟨bits, p.missing - 1, 0x80, 0xBF⟩)
    else (mark ++ fresh.1, fresh.2)

def decodeFrom (mark : List Char) : Option Pending → List UInt8 → List Char
  | none, [] => []
  | some _, [] => mark
  | pending, b :: bs => (step mark pending b).1 ++ decodeFrom mark (step mark pending b).2 bs

/-- The text of a sequence of octets, ill-formed parts left out. -/
def decode (octets : List UInt8) : String := String.ofList (decodeFrom [] none octets)

/-- The text of a sequence of octets, ill-formed parts marked. -/
def decodeMarked (octets : List UInt8) : String := String.ofList (decodeFrom ['\ufffd'] none octets)

end Shortlist.Text.Utf8
