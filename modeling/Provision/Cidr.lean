import Provision.Numeral
import Provision.Text

/-! Address blocks are four octets and the length of a network mask. -/

namespace Provision.Cidr

/-- Why a text is no address block. -/
inductive Fault where
  | format (text : String)
  | address (ip : String)
  | octet (text : String)
  | longMask (length : Nat)
  | mask (text : String)
deriving DecidableEq

/-- The text of a fault. -/
def Fault.message : Fault → String
  | format text => s!"Invalid CIDR format '{text}': expected IP/prefix"
  | address ip => s!"Invalid IP address '{ip}': expected 4 octets"
  | octet text => s!"Invalid octet '{text}' in IP address: must be 0-255"
  | longMask length => s!"Invalid prefix length '{length}': must be 0-32"
  | mask text => s!"Invalid prefix length '{text}': must be a number"

/-- The first fault of a text from left to right, or none for an address block. -/
def fault? (text : String) : Option Fault :=
  match Text.split '/' text.toList with
  | [ip, mask] =>
    -- The octets are looked at before the mask, so their fault is the one that is told.
    let octets := Text.split '.' ip
    if octets.length ≠ 4 then some (.address (String.ofList ip))
    else
      match octets.find? (fun o => (unsignedBelow 256 (String.ofList o)).isNone) with
      | some o => some (.octet (String.ofList o))
      | none =>
        match unsignedBelow 256 (String.ofList mask) with
        | some length => if length ≤ 32 then none else some (.longMask length)
        | none => some (.mask (String.ofList mask))
  | _ => some (.format text)

end Provision.Cidr
