import ClusterProxy.Fault
import ClusterProxy.Url.Basic

/-!
# Seed addresses

A seed is the address of a node that is asked for the cluster's topology when no node is known.
`Seed.normalize` turns the ways to write one into the form `host:port`.
-/

namespace ClusterProxy.Seed

/-- The scheme of seeds. -/
def scheme : String := "redis"

/-- The port where a seed names none. -/
def defaultPort : Nat := 6379

/-- Whether a text holds the mark between a scheme and a host. -/
def hasScheme : List Char → Bool
  | ':' :: '/' :: '/' :: _ => true
  | _ :: rest => hasScheme rest
  | [] => false

/-- The seed with its scheme. -/
def withScheme (seed : String) : List Char :=
  if hasScheme seed.toList then seed.toList else (scheme ++ "://").toList ++ seed.toList

/-- The normal form of a seed. -/
def normalize (seed : String) : Except Fault String :=
  match Url.ofChars? (withScheme seed) with
  | none => .error (.invalidArgument ("invalid seed address '" ++ seed ++ "'"))
  | some url =>
    if url.scheme ≠ scheme then
      .error (.invalidArgument
        ("invalid scheme in '" ++ seed ++ "', expected " ++ scheme ++ "://"))
    else match url.host with
      | none => .error (.invalidArgument ("missing host in seed address '" ++ seed ++ "'"))
      | some host => .ok (host ++ ":" ++ toString (url.port.getD defaultPort))

end ClusterProxy.Seed
