-- SUMMARY: Addresses to listen on.

/-!
# Addresses

An address is a host and a port with a colon between them. A host that holds colons is put in
brackets.
-/
namespace ControlDependence.Serving

structure Address where
  host : String
  port : Int
  deriving Repr, DecidableEq

inductive AddressError where
  | missingPort (address : String)
  | tooManyColons (address : String)
  | missingBracket (address : String)
  | unexpectedOpening (address : String)
  | unexpectedClosing (address : String)
  | invalidPort (port : String)
  | unknownPort (port : String)
  deriving Repr, DecidableEq

namespace AddressError

def message : AddressError → String
  | .missingPort a => s!"address {a}: missing port in address"
  | .tooManyColons a => s!"address {a}: too many colons in address"
  | .missingBracket a => "address " ++ a ++ ": missing ']' in address"
  | .unexpectedOpening a => "address " ++ a ++ ": unexpected '[' in address"
  | .unexpectedClosing a => "address " ++ a ++ ": unexpected ']' in address"
  | .invalidPort p => s!"address {p}: invalid port"
  | .unknownPort p => s!"lookup tcp/{p}: unknown port"

end AddressError

/-- What stands before and after the last colon. -/
def splitLastColon? (cs : List Char) : Option (List Char × List Char) :=
  let after := (cs.reverse.takeWhile (· != ':')).reverse
  if after.length = cs.length then none
  else some (cs.take (cs.length - after.length - 1), after)

/-- The host and the text of the port. -/
def splitHost (s : String) : Except AddressError (String × String) :=
  let cs := s.toList
  match splitLastColon? cs with
  | none => .error (.missingPort s)
  | some (host, port) =>
    let unbracketed :=
      if host.contains ':' then .error (.tooManyColons s)
      else if cs.contains '[' then .error (.unexpectedOpening s)
      else if cs.contains ']' then .error (.unexpectedClosing s)
      else .ok (String.ofList host, String.ofList port)
    match cs with
    | '[' :: inner =>
      let name := inner.takeWhile (· != ']')
      match inner.drop name.length with
      | [] => .error (.missingBracket s)
      | _ :: after =>
        match after with
        | [] => .error (.missingPort s)
        | c :: rest =>
          if rest.length = port.length && c == ':' then
            if inner.contains '[' then .error (.unexpectedOpening s)
            else if rest.contains ']' then .error (.unexpectedClosing s)
            else .ok (String.ofList name, String.ofList port)
          else if c == ':' then .error (.tooManyColons s)
          else .error (.missingPort s)
    | _ => unbracketed

/-- A port by its number. An empty one leaves the choice open. -/
def readPort (s : String) : Except AddressError Int :=
  let (sign, ds) :=
    match s.toList with
    | '-' :: ds => (-1, ds)
    | '+' :: ds => (1, ds)
    | ds => ((1 : Int), ds)
  if !ds.all Char.isDigit then .error (.unknownPort s)
  else
    let n : Int := sign * (ds.foldl (fun (n : Nat) c => n * 10 + (c.toNat - '0'.toNat)) 0 : Nat)
    if 0 ≤ n && n ≤ 65535 then .ok n else .error (.invalidPort s)

namespace Address

/-- Reads an address. An empty one leaves everything open. -/
def parse (s : String) : Except AddressError Address :=
  if s.isEmpty then .ok { host := "", port := 0 }
  else
    match splitHost s with
    | .error e => .error e
    | .ok (host, port) => (readPort port).map fun n => { host, port := n }

/-- The host that listening on an address binds. -/
def bound (a : Address) : String :=
  match a.host with
  | "" => "[::]"
  | "0.0.0.0" => "[::]"
  | "localhost" => "127.0.0.1"
  | h => if h.contains ':' then "[" ++ h ++ "]" else h

end Address

end ControlDependence.Serving
