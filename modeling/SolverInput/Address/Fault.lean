import SolverInput.Text.Quoted

/-!
# Faults of addresses

Why a text is no address, and the message for each cause.
-/

namespace SolverInput.Address

/-- Why a text is no address. -/
inductive Fault where
  /-- It has no scheme, so it could only be a part of another address. -/
  | relative
  /-- It has to name a host and names none. -/
  | emptyHost
  /-- The number of the service at the host is not a number of 16 bits. -/
  | badService
  /-- The host ends in a number, but it is no address of four bytes. -/
  | badFourBytes
  /-- The host stands in brackets, but it is no address of eight words. -/
  | badEightWords
  /-- The host is not a name that can be looked up. -/
  | badName
  /-- The host of another scheme has a character that no host has. -/
  | badCharacter
  deriving DecidableEq

/-- The message of a fault in a text. -/
def Fault.message (fault : Fault) (text : String) : String :=
  let reason := match fault with
    | relative => "relative URL without a base"
    | emptyHost => "empty host"
    | badService => "invalid port number"
    | badFourBytes => "invalid IPv4 address"
    | badEightWords => "invalid IPv6 address"
    | badName => "invalid international domain name"
    | badCharacter => "invalid domain character"
  reason ++ ": " ++ String.ofList (Text.quoted text.toList)

end SolverInput.Address
